import FieldRules.Calendar.Format

set_option autoImplicit false

namespace FieldRules

def DateParts.ofMillis (n : Int) : DateParts :=
  let date := Date.ofDayNumber (n / 86400000)
  let second := (n % 86400000 / 1000).toNat
  { year := date.year
    month := date.month
    day := date.day
    hour := second / 3600
    minute := second / 60 % 60
    second := second % 60
    nano := (n % 1000).toNat * 1000000 }

namespace Timestamp

def padded (width n : Nat) : List Char := (Nat.toDigits 10 n).leftpad width '0'

def localText (p : DateParts) : List Char :=
  padded 4 p.year.toNat ++ '-' :: (padded 2 p.month ++ '-' :: (padded 2 p.day ++ 'T' ::
    (padded 2 p.hour ++ ':' :: (padded 2 p.minute ++ ':' :: (padded 2 p.second ++ '.' ::
      padded 3 (p.nano / 1000000))))))

def signedOffset (sign : Char) (minutes : Nat) : List Char :=
  sign :: (padded 2 (minutes / 60) ++ ':' :: padded 2 (minutes % 60))

def offsetTexts (minutes : Int) : List (List Char) :=
  if minutes = 0 then [['Z'], signedOffset '+' 0, signedOffset '-' 0]
  else [signedOffset (if minutes < 0 then '-' else '+') minutes.natAbs]

def texts (n minutes : Int) : List (List Char) :=
  (offsetTexts minutes).map (localText (.ofMillis (n + minutes * 60000)) ++ ·)

end Timestamp

end FieldRules
