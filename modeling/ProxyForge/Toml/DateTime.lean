import ProxyForge.Text.Digits
import ProxyForge.Toml.Value

/-!
# ProxyForge.Toml.DateTime — points in time

A date, a time of day, or both with a `T` or a space between them, and then an
offset from universal time may follow. Months have their days, leap years
included, and a minute may have a leap second.
-/

namespace ProxyForge.Toml

/-- A number of exactly `count` decimal digits. -/
def fixedDigits? (count : Nat) : Reader Nat := fun s =>
  if s.length < count then none
  else (Text.numeral? 10 (s.take count)).map (·, s.drop count)

/-- A number of two digits in a range. -/
def twoDigits? (low high : Nat) : Reader Nat := fun s => do
  let (n, rest) ← fixedDigits? 2 s
  if low ≤ n ∧ n ≤ high then some (n, rest) else none

/-- The text behind one expected character. -/
def expect? (c : Char) : List Char → Option (List Char)
  | [] => none
  | d :: rest => if d = c then some rest else none

/-- Whether February has a leap day. -/
def isLeapYear (year : Nat) : Bool :=
  year % 4 == 0 && (year % 100 != 0 || year % 400 == 0)

/-- The number of days of a month. -/
def daysInMonth (year month : Nat) : Nat :=
  if month = 2 then if isLeapYear year then 29 else 28
  else if month = 4 ∨ month = 6 ∨ month = 9 ∨ month = 11 then 30
  else 31

/-- The text behind a date. -/
def skipDate? (s : List Char) : Option (List Char) := do
  let (year, rest) ← fixedDigits? 4 s
  let (month, rest) ← twoDigits? 1 12 (← expect? '-' rest)
  let (_, rest) ← twoDigits? 1 (daysInMonth year month) (← expect? '-' rest)
  return rest

/-- The text behind a fraction of a second, if there is one. -/
def skipSecondFraction : List Char → List Char
  | '.' :: c :: rest => if c.isDigit then rest.dropWhile Char.isDigit else '.' :: c :: rest
  | s => s

/-- The text behind a time of day. -/
def skipTime? (s : List Char) : Option (List Char) := do
  let (_, rest) ← twoDigits? 0 23 s
  let (_, rest) ← twoDigits? 0 59 (← expect? ':' rest)
  let (_, rest) ← twoDigits? 0 60 (← expect? ':' rest)
  return skipSecondFraction rest

/-- The text behind an offset from universal time, if there is one. -/
def skipOffset (s : List Char) : List Char :=
  match s with
  | [] => []
  | c :: rest =>
    if c = 'Z' ∨ c = 'z' then rest
    else if c = '+' ∨ c = '-' then
      (do
        let (_, rest) ← twoDigits? 0 23 rest
        let (_, rest) ← twoDigits? 0 59 (← expect? ':' rest)
        return rest).getD s
    else s

/-- The text behind a point in time. -/
def skipDateTime? (s : List Char) : Option (List Char) :=
  match skipDate? s with
  | none => skipTime? s
  | some [] => some []
  | some (c :: rest) =>
    if c = 'T' ∨ c = 't' ∨ c = ' ' then
      match skipTime? rest with
      | some rest => some (skipOffset rest)
      | none => some (c :: rest)
    else some (c :: rest)

/-- A point in time. -/
def dateTime? : Reader Value := fun s =>
  (skipDateTime? s).map fun rest =>
    (.dateTime (String.ofList (s.take (s.length - rest.length))), rest)

end ProxyForge.Toml
