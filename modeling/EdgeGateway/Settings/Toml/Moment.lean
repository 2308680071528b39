import EdgeGateway.Decimal.Literal

/-!
# Dates and times in TOML

A date, a time of day, or both, then perhaps with an offset from universal time. As a setting each
is a text of one form: a capital T between date and time, and fractions of a second to nine digits,
without zeros at the end but with one digit at least. Seconds and their fractions are there if they
were written.
-/

namespace EdgeGateway.Settings.Toml

open EdgeGateway.Decimal

/-- Whether a year has a 29th of February. -/
def isLeap (year : Nat) : Bool := year % 4 = 0 && (year % 100 ≠ 0 || year % 400 = 0)

/-- The number of days in a month, counted from one. -/
def daysIn (year month : Nat) : Nat :=
  if month = 2 then if isLeap year then 29 else 28
  else if [4, 6, 9, 11].contains month then 30
  else 31

/-- Reads a date. -/
def date? : List Char → Option (List Char × List Char)
  | a :: b :: c :: d :: '-' :: e :: f :: '-' :: g :: h :: rest => do
    let year ← natural? [a, b, c, d]
    let month ← natural? [e, f]
    let day ← natural? [g, h]
    guard (1 ≤ month ∧ month ≤ 12 ∧ 1 ≤ day ∧ day ≤ daysIn year month)
    return ([a, b, c, d, '-', e, f, '-', g, h], rest)
  | _ => none

/-- Reads hours and minutes. -/
def hours? : List Char → Option (List Char × List Char)
  | a :: b :: ':' :: c :: d :: rest => do
    let hour ← natural? [a, b]
    let minute ← natural? [c, d]
    guard (hour ≤ 23 ∧ minute ≤ 59)
    return ([a, b, ':', c, d], rest)
  | _ => none

/-- The digits of a fraction of a second, as they are kept. -/
def fraction (digits : List Char) : List Char :=
  let kept := ((digits.take 9).reverse.dropWhile (· = '0')).reverse
  if kept = [] then ['0'] else kept

/-- Reads seconds behind hours and minutes. There may be none, and a leap second may be added. -/
def seconds? : List Char → Option (List Char × List Char)
  | ':' :: a :: b :: rest => do
    let second ← natural? [a, b]
    guard (second ≤ 60)
    match rest with
    | '.' :: rest =>
      let digits := rest.takeWhile Char.isDigit
      guard (digits ≠ [])
      return ([':', a, b, '.'] ++ fraction digits, rest.dropWhile Char.isDigit)
    | rest => return ([':', a, b], rest)
  | ':' :: _ => none
  | rest => some ([], rest)

/-- Reads a time of day. -/
def time? (text : List Char) : Option (List Char × List Char) := do
  let (hours, rest) ← hours? text
  let (seconds, rest) ← seconds? rest
  return (hours ++ seconds, rest)

/-- The offset that a text spells. No offset is negative zero. -/
def offset? : List Char → Option (List Char)
  | [] => some []
  | ['Z'] | ['z'] => some ['Z']
  | sign :: text => do
    guard (sign = '+' ∨ sign = '-')
    let (hours, []) ← hours? text | none
    return (if hours = ['0', '0', ':', '0', '0'] then '+' else sign) :: hours

/-- The date, the time or both that a text spells. -/
def moment? (text : List Char) : Option (List Char) :=
  match date? text with
  | none => do
    let (time, []) ← time? text | none
    return time
  | some (date, []) => some date
  | some (date, separator :: rest) => do
    guard (['T', 't', ' '].contains separator)
    let (time, rest) ← time? rest
    return date ++ 'T' :: time ++ (← offset? rest)

end EdgeGateway.Settings.Toml
