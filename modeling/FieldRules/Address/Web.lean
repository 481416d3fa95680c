import FieldRules.Address.Domain
import FieldRules.Address.Ip

set_option autoImplicit false

namespace FieldRules

namespace WebAddress

def cleaned (cs : List Char) : List Char :=
  let outer (c : Char) : Bool := c.toNat ≤ 0x20
  let trimmed := ((cs.dropWhile outer).reverse.dropWhile outer).reverse
  trimmed.filter fun c => c ≠ '\t' && c ≠ '\n' && c ≠ '\r'

def isSlash (c : Char) : Bool := c == '/' || c == '\\'

def afterScheme? (cs : List Char) : Option (List Char) := do
  -- What is left begins with the slashes in front of the host.
  let (scheme, rest) ← splitOnce ':' cs
  let scheme := scheme.map Char.toLower
  if scheme = "http".toList ∨ scheme = "https".toList then some (rest.dropWhile isSlash) else none

def authority (cs : List Char) : List Char :=
  -- The path, the query and the fragment are cut off.
  cs.takeWhile fun c => !isSlash c && c ≠ '?' && c ≠ '#'

def withoutUser (cs : List Char) : List Char := (cs.reverse.takeWhile (· ≠ '@')).reverse

def splitHost : Bool → List Char → List Char × List Char
  | _, [] => ([], [])
  | bracketed, c :: cs =>
    if c = ':' ∧ !bracketed then ([], c :: cs)
    else
      let (host, rest) := splitHost ((bracketed || c = '[') && c ≠ ']') cs
      (c :: host, rest)

def isService : List Char → Bool
  -- A number of at most 16 bits, which may be left out.
  | [] => true
  | _ :: digits => digits.all Char.isDigit && (Ip.valueIn 10 digits).any (· < 65536)

def percentDecoded : List Char → List UInt8
  -- A percent sign and two hexadecimal digits stand for one byte.
  | [] => []
  | '%' :: a :: b :: cs =>
    match hexValue? [a, b] with
    | some n => UInt8.ofNat n :: percentDecoded cs
    | none => '%'.toUInt8 :: percentDecoded (a :: b :: cs)
  | c :: cs => (String.singleton c).toUTF8.toList ++ percentDecoded cs

def hostName? (cs : List Char) : Option (List Char) :=
  (String.fromUTF8? (percentDecoded cs).toByteArray).map String.toList

def isHost (cs : List Char) : Bool :=
  match cs with
  | '[' :: rest => rest.getLast? == some ']' && Ip.isV6 rest.dropLast
  | cs =>
    match (hostName? cs).bind Domain.labels? with
    | none => false
    | some labels => labels ≠ [[]] && (!Ip.endsInNumber labels || Ip.isV4 labels)

end WebAddress

def isWebAddress (text : List Char) : Bool :=
  match WebAddress.afterScheme? (WebAddress.cleaned text) with
  | none => false
  | some rest =>
    let (host, service) :=
      WebAddress.splitHost false (WebAddress.withoutUser (WebAddress.authority rest))
    host ≠ [] && WebAddress.isHost host && WebAddress.isService service

end FieldRules
