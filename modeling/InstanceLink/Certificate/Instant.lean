/-!
# Instants of a certificate

Calendar instants in universal time and the two texts a certificate gives them
by. Both end in the mark of universal time and name seconds; neither has a
fraction or an offset.
-/

namespace InstanceLink

/-- A calendar instant in universal time. -/
structure Instant where
  year : Nat
  month : Nat
  day : Nat
  hour : Nat
  minute : Nat
  second : Nat
  deriving DecidableEq, Repr

namespace Instant

/-- Whether a year has a leap day. -/
def isLeap (year : Nat) : Bool := year % 4 = 0 && (year % 100 != 0 || year % 400 = 0)

/-- The number of days of a month. -/
def daysIn (year month : Nat) : Nat :=
  if month = 2 then (if isLeap year then 29 else 28)
  else if month = 4 || month = 6 || month = 9 || month = 11 then 30
  else 31

/-- Whether every part is within its range. -/
def isValid (i : Instant) : Bool :=
  1 ≤ i.month && i.month ≤ 12 && 1 ≤ i.day && i.day ≤ daysIn i.year i.month &&
    i.hour < 24 && i.minute < 60 && i.second < 60

/-- The value of a byte that is a decimal digit. -/
def digit? (b : UInt8) : Option Nat :=
  if 48 ≤ b.toNat && b.toNat ≤ 57 then some (b.toNat - 48) else none

/-- Pairs of decimal digits up to the closing mark of universal time. -/
def pairs? : List UInt8 → Option (List Nat)
  | [z] => if z.toNat = 90 then some [] else none
  | a :: b :: rest => do
    let high ← digit? a
    let low ← digit? b
    let others ← pairs? rest
    return (10 * high + low) :: others
  | [] => none

/-- An instant when its parts are in range. -/
def ofParts? (year month day hour minute second : Nat) : Option Instant :=
  let i : Instant := ⟨year, month, day, hour, minute, second⟩
  if i.isValid then some i else none

/-- An instant with a two-digit year, of the years from 1950 to 2049. -/
def ofShort? (bytes : List UInt8) : Option Instant :=
  match pairs? bytes with
  | some [y, month, day, hour, minute, second] =>
    ofParts? (if y < 50 then 2000 + y else 1900 + y) month day hour minute second
  | _ => none

/-- An instant with a four-digit year. -/
def ofLong? (bytes : List UInt8) : Option Instant :=
  match pairs? bytes with
  | some [century, y, month, day, hour, minute, second] =>
    ofParts? (100 * century + y) month day hour minute second
  | _ => none

/-- A number with leading zeros up to a width. -/
def padded (width n : Nat) : String :=
  let digits := Nat.toDigits 10 n
  String.ofList (List.replicate (width - digits.length) '0' ++ digits)

/-- The text of an instant, with the zero offset of universal time. -/
def text (i : Instant) : String :=
  padded 4 i.year ++ "-" ++ padded 2 i.month ++ "-" ++ padded 2 i.day ++ "T" ++
    padded 2 i.hour ++ ":" ++ padded 2 i.minute ++ ":" ++ padded 2 i.second ++ "+00:00"

end Instant

end InstanceLink
