import Postroom.Text.Blank
import Postroom.Text.Decimal

/-!
# Dates of messages

Reading the date of a message: an optional weekday, day, month, year, time and zone, with comments
after it.  Years of two digits are those from 1950 to 2049, and years of three digits count from
1900.  A zone is an offset or one of a few names.  A date that is read is written again as year,
month, day, time and offset.
-/

namespace Postroom.Header

open Text

/-- A date and time with its offset. -/
structure Moment where
  /-- The year. -/
  year : Nat
  /-- The month, from 1. -/
  month : Nat
  /-- The day of the month, from 1. -/
  day : Nat
  /-- The hour. -/
  hour : Nat
  /-- The minute. -/
  minute : Nat
  /-- The second; 60 is a leap second. -/
  second : Nat
  /-- The offset east of Greenwich, in minutes. -/
  offset : Int
deriving Repr, DecidableEq

namespace Moment

/-- The names of the months. -/
def months : List String :=
  ["jan", "feb", "mar", "apr", "may", "jun", "jul", "aug", "sep", "oct", "nov", "dec"]

/-- The names of the weekdays. -/
def weekdays : List String := ["mon", "tue", "wed", "thu", "fri", "sat", "sun"]

/-- The zones with names, and their offsets in hours. -/
def zones : List (String × Int) :=
  [("gmt", 0), ("ut", 0), ("z", 0), ("edt", -4), ("est", -5), ("cdt", -5), ("cst", -6), ("mdt", -6),
    ("mst", -7), ("pdt", -7), ("pst", -8)]

/-- The largest year. -/
def maxYear : Nat := 262142

/-- Whether a year is a leap year. -/
def isLeap (y : Nat) : Bool := y % 4 = 0 && (y % 100 ≠ 0 || y % 400 = 0)

/-- The number of days of a month. -/
def daysIn (y m : Nat) : Nat :=
  if m = 2 then if isLeap y then 29 else 28
  else if [4, 6, 9, 11].contains m then 30
  else 31

/-- The number of days before a year, counted from the first day of year 0 of the calendar. -/
def daysBeforeYear (y : Nat) : Nat :=
  if y = 0 then 0 else 365 * y + (y - 1) / 4 + 1 - ((y - 1) / 100 + 1) + ((y - 1) / 400 + 1)

/-- The number of days of a year before a month. -/
def daysBeforeMonth (y m : Nat) : Nat :=
  (List.range (m - 1)).foldl (fun days k => days + daysIn y (k + 1)) 0

/-- The weekday of a date, from Monday as 0; the first day of year 0 was a Saturday. -/
def weekday (y m d : Nat) : Nat := (daysBeforeYear y + daysBeforeMonth y m + (d - 1) + 5) % 7

/-- Mandatory white space. -/
def space? (cs : List Char) : Option (List Char) :=
  match cs with
  | c :: rest => if isBlank c then some (trimStart rest) else none
  | [] => none

/-- A number of at least `least` and at most `most` digits, and the rest. -/
def number? (least : Nat) (most : Option Nat) (cs : List Char) : Option (Nat × Nat × List Char) :=
  let all := cs.takeWhile Char.isDigit
  let digits := match most with
    | some n => all.take n
    | none => all
  if digits.length < least then none
  else (Decimal.read? digits).map fun n => (n, digits.length, cs.drop digits.length)

/-- A given character, and the rest. -/
def char? (c : Char) : List Char → Option (List Char)
  | d :: rest => if d = c then some rest else none
  | [] => none

/-- The place of a three-letter name in a list, in any case of letters, and the rest. -/
def named? (names : List String) (cs : List Char) : Option (Nat × List Char) :=
  let word := String.ofList ((cs.take 3).map Char.toLower)
  (names.findIdx? (· = word)).map fun n => (n, cs.drop 3)

/-- Two digits, and the rest. -/
def twoDigits? (cs : List Char) : Option (Nat × List Char) :=
  (number? 2 (some 2) cs).map fun (n, _, rest) => (n, rest)

/-- A zone, and the rest. -/
def zone? (cs : List Char) : Option (Int × List Char) :=
  let letters := cs.takeWhile Char.isAlpha
  if letters.isEmpty then do
    let (sign, rest) ← match cs with
      | '+' :: rest => some ((1 : Int), rest)
      | '-' :: rest => some (-1, rest)
      | _ => none
    let (hours, rest) ← twoDigits? rest
    let (minutes, rest) ← twoDigits? rest
    if minutes < 60 ∧ hours < 24 then some (sign * (hours * 60 + minutes), rest) else none
  else
    let name := letters.map Char.toLower
    let rest := cs.drop letters.length
    match zones.find? (·.1 = String.ofList name) with
    | some (_, hours) => some (hours * 60, rest)
    | none =>
      match name with
      | [c] => if c = 'j' then none else some (0, rest)
      | _ => none

/-- What follows a comment that has been begun `depth` times; `escaped` after a backslash. -/
def afterComment (escaped : Bool) : Nat → List Char → Option (List Char)
  | _, [] => none
  | depth, c :: rest =>
    if escaped then afterComment false depth rest
    else if c = '\\' then afterComment true depth rest
    else if c = '(' then afterComment false (depth + 1) rest
    else if c = ')' then if depth = 1 then some rest else afterComment false (depth - 1) rest
    else afterComment false depth rest

/-- Whether nothing but comments is left. -/
def onlyComments : Nat → List Char → Bool
  | 0, cs => cs.isEmpty
  | fuel + 1, cs =>
    match trimStart cs with
    | '(' :: rest =>
      match afterComment false 1 rest with
      | some rest => onlyComments fuel rest
      | none => false
    | _ => cs.isEmpty

/-- The year that the digits read stand for. -/
def fullYear (digits year : Nat) : Nat :=
  if digits = 2 then if year < 50 then year + 2000 else year + 1900
  else if digits = 3 then year + 1900
  else year

/-- The optional weekday at the front, and the rest. -/
def weekday? (cs : List Char) : Option (Option Nat × List Char) :=
  match named? weekdays cs with
  | some (n, rest) => (char? ',' rest).map fun rest => (some n, rest)
  | none => some (none, cs)

/-- The optional seconds, and the rest. -/
def second? (cs : List Char) : Option (Nat × List Char) :=
  match char? ':' (trimStart cs) with
  | some rest => twoDigits? rest
  | none => some (0, cs)

/-- Reads a date. -/
def read? (cs : List Char) : Option Moment := do
  let (dayName, rest) ← weekday? (trimStart cs)
  let (day, _, rest) ← number? 1 (some 2) (trimStart rest)
  let (month, rest) ← named? months (← space? rest)
  let (year, digits, rest) ← number? 2 none (← space? rest)
  let year := fullYear digits year
  let (hour, rest) ← twoDigits? (← space? rest)
  let rest ← char? ':' (trimStart rest)
  let (minute, rest) ← twoDigits? (trimStart rest)
  let (second, rest) ← second? rest
  let (offset, rest) ← zone? (← space? rest)
  let month := month + 1
  if onlyComments (rest.length + 1) rest ∧ year ≤ maxYear ∧ 1 ≤ day ∧ day ≤ daysIn year month
      ∧ hour < 24 ∧ minute < 60 ∧ second ≤ 60 ∧ (dayName.all (· = weekday year month day)) then
    some ⟨year, month, day, hour, minute, second, offset⟩
  else none

/-- A number with at least `width` digits. -/
def padded (width n : Nat) : String :=
  let digits := n.repr
  String.ofList (List.replicate (width - digits.length) '0') ++ digits

/-- A date as written. -/
def toString (m : Moment) : String :=
  (if m.year ≤ 9999 then padded 4 m.year else "+" ++ m.year.repr) ++ "-" ++ padded 2 m.month ++ "-"
    ++ padded 2 m.day ++ " " ++ padded 2 m.hour ++ ":" ++ padded 2 m.minute ++ ":"
    ++ padded 2 m.second ++ " " ++ (if m.offset < 0 then "-" else "+")
    ++ padded 2 (m.offset.natAbs / 60) ++ padded 2 (m.offset.natAbs % 60)

end Moment

end Postroom.Header
