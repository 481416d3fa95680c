import FieldRules.Text.Hex
import FieldRules.Text.Split

set_option autoImplicit false

namespace FieldRules

def readBytes? : List Char → Option (List UInt8)
  | [] => some []
  | [_] => none
  | high :: low :: cs => do
    some (UInt8.ofNat (16 * (← hexDigit? high) + (← hexDigit? low)) :: (← readBytes? cs))

structure Uuid where
  bytes : Vector UInt8 16
deriving DecidableEq

namespace Uuid

-- Named by the high bits of the byte that tells them apart.
inductive Variant where
  | bits0 | bits10 | bits110 | bits111
deriving DecidableEq, Repr

def Variant.ofByte (byte : UInt8) : Variant :=
  if byte &&& 0x80 = 0 then .bits0
  else if byte &&& 0xC0 = 0x80 then .bits10
  else if byte &&& 0xE0 = 0xC0 then .bits110
  else .bits111

def version (id : Uuid) : UInt8 := id.bytes[6] >>> 4

def variant (id : Uuid) : Variant := .ofByte id.bytes[8]

def ofBytes? (bytes : List UInt8) : Option Uuid :=
  if size : bytes.length = 16 then some ⟨bytes.toArray, by simpa using size⟩ else none

def ofDigits? (cs : List Char) : Option Uuid := (readBytes? cs).bind ofBytes?

def groupLengths : List Nat := [8, 4, 4, 4, 12]

def ofGroups? (cs : List Char) : Option Uuid :=
  let groups := splitAt '-' cs
  if groups.map List.length = groupLengths then ofDigits? groups.flatten else none

def bare (cs : List Char) : List Char :=
  let scheme := "urn:uuid:".toList
  if scheme.isPrefixOf cs then cs.drop scheme.length
  else match cs with
    | '\x7b' :: rest => if rest.getLast? = some '\x7d' then rest.dropLast else cs
    | cs => cs

def ofText? (cs : List Char) : Option Uuid := ofDigits? cs <|> ofGroups? (bare cs)

end Uuid

end FieldRules
