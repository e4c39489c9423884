/-
# Times

The validity of a certificate is given by two times in one of two forms, both
in universal time and to the second.  Only dates that exist are times.

| form | tag | text | years |
| --- | --- | --- | --- |
| short | 17 | `YYMMDDHHMMSSZ` | 1970 to 2049 |
| long | 18 | `YYYYMMDDHHMMSSZ` | from 1970 |

In the short form, years below 50 are those after 2000.
-/

import SecurityTokens.Der.Tlv

namespace SecurityTokens
namespace X509

open Der (Tlv)

/-- The number that two digits stand for. -/
def twoDigits? (a b : UInt8) : Option Nat :=
  if 48 ≤ a ∧ a ≤ 57 ∧ 48 ≤ b ∧ b ≤ 57 then some ((a.toNat - 48) * 10 + (b.toNat - 48)) else none

/-- The numbers that pairs of digits stand for, up to the closing `Z`. -/
def digitPairs? : Bytes → Option (List Nat)
  | [0x5A] => some []
  | a :: b :: rest => do
    let n ← twoDigits? a b
    let ns ← digitPairs? rest
    return n :: ns
  | _ => none

/-- Whether a year has a 29th of February. -/
def isLeapYear (year : Nat) : Bool := year % 4 == 0 && (year % 100 != 0 || year % 400 == 0)

/-- The number of days of a month. -/
def daysInMonth (year month : Nat) : Nat :=
  if month = 2 then if isLeapYear year then 29 else 28
  else if month = 4 ∨ month = 6 ∨ month = 9 ∨ month = 11 then 30
  else 31

/-- Whether the numbers are those of a second from 1970 on. -/
def isMoment (year month day hour minute second : Nat) : Bool :=
  1970 ≤ year && 1 ≤ month && month ≤ 12 && 1 ≤ day && day ≤ daysInMonth year month
    && hour < 24 && minute < 60 && second < 60

/-- Whether a value is a time. -/
def isTime (t : Tlv) : Bool :=
  match t.tag, digitPairs? t.content with
  | 0x17, some [year, month, day, hour, minute, second] =>
    isMoment (if year < 50 then 2000 + year else 1900 + year) month day hour minute second
  | 0x18, some [century, year, month, day, hour, minute, second] =>
    isMoment (century * 100 + year) month day hour minute second
  | _, _ => false

/-- The time a value is. -/
def time? (t : Tlv) : Option Tlv := if isTime t then some t else none

end X509
end SecurityTokens
