import Postroom.Document
import Postroom.Toml.Quotation

/-!
# Numbers, truth values and moments of TOML

A value that is not quoted and not a collection is one word of letters, digits and a few signs; only
a date and a time may have a blank between them.  Digits may be set apart by underscores, each
between two digits.
-/

namespace Postroom.Toml

/-- Whether a character is a digit. -/
def isDigit (c : Char) : Bool := '0' ≤ c && c ≤ '9'

/-- Takes out underscores, each of which has to stand between two digits. -/
def ungrouped? (digit : Char → Bool) : List Char → Option (List Char)
  | [] => none
  | [c] => if digit c then some [c] else none
  | c :: '_' :: d :: rest =>
    if digit c && digit d then (ungrouped? digit (d :: rest)).map (c :: ·) else none
  | c :: rest => if digit c then (ungrouped? digit rest).map (c :: ·) else none

/-- Takes a sign off the front. -/
def signed : List Char → Bool × List Char
  | '+' :: rest => (false, rest)
  | '-' :: rest => (true, rest)
  | cs => (false, cs)

/-- Whether digits have no zero in front that could be left out. -/
def hasNoLeadingZero : List Char → Bool
  | '0' :: _ :: _ => false
  | _ => true

/-- The digits of a whole number in decimal. -/
def decimalDigits? (cs : List Char) : Option (List Char) :=
  (ungrouped? isDigit cs).filter hasNoLeadingZero

/-- A number, if it fits into 64 bits with a sign. -/
def fitting? (n : Int) : Option Int := if -Int.pow 2 63 ≤ n ∧ n < Int.pow 2 63 then some n else none

/-- A whole number of some base behind its two letters. -/
def based? (base : Nat) (cs : List Char) : Option Int := do
  let digits ← ungrouped? (fun c => ((hexDigit? c).filter (· < base)).isSome) cs
  fitting? (← numberIn? base digits)

/-- A whole number. -/
def integer? : List Char → Option Int
  | '0' :: 'x' :: rest => based? 16 rest
  | '0' :: 'o' :: rest => based? 8 rest
  | '0' :: 'b' :: rest => based? 2 rest
  | cs => do
    let (negative, digits) := signed cs
    let n ← numberIn? 10 (← decimalDigits? digits)
    fitting? (if negative then -n else n)

/-- Splits a word at the first character that passes a test. -/
def splitAt? (p : Char → Bool) (cs : List Char) : List Char × Option (List Char) :=
  match cs.dropWhile (!p ·) with
  | [] => (cs, none)
  | _ :: rest => (cs.takeWhile (!p ·), some rest)

/-- Whether `mantissa · 10 ^ exponent` is too large for a floating point number of 64 bits: at least
half a unit beyond the largest one. -/
def overflows (mantissa : Nat) (digits : Nat) (exponent : Int) : Bool :=
  let bound := Nat.pow 2 1024 - Nat.pow 2 970
  if mantissa = 0 then false
  else if 400 < digits + exponent then true
  else if exponent < 0 then decide (bound * Nat.pow 10 exponent.natAbs ≤ mantissa)
  else decide (bound ≤ mantissa * Nat.pow 10 exponent.toNat)

/-- Whether a word is a number with a fraction or an exponent.  A number too large is none, unless
it is negative. -/
def isFloat (cs : List Char) : Bool := Option.isSome do
  let (negative, cs) := signed cs
  if cs = ['i', 'n', 'f'] ∨ cs = ['n', 'a', 'n'] then return ()
  let (body, power) := splitAt? (fun c => c = 'e' || c = 'E') cs
  let (whole, fraction) := splitAt? (· = '.') body
  if power.isNone && fraction.isNone then none
  let whole ← decimalDigits? whole
  let fraction ← match fraction with
    | some cs => ungrouped? isDigit cs
    | none => some []
  let exponent ← match power with
    | some cs => do
      let (negative, digits) := signed cs
      let n ← numberIn? 10 (← ungrouped? isDigit digits)
      some (if negative then -(n : Int) else n)
    | none => some 0
  let mantissa ← numberIn? 10 (whole ++ fraction)
  let digits := (whole ++ fraction).length
  if !negative && decide (-400 - (digits : Int) < exponent)
      && overflows mantissa digits (exponent - fraction.length) then none
  return ()

/-- The value of a row of digits of fixed length, if it is within bounds. -/
def field? (length least greatest : Nat) (cs : List Char) : Option (Nat × List Char) := do
  let digits := cs.take length
  if digits.length ≠ length ∨ !digits.all isDigit then none
  let n ← numberIn? 10 digits
  if least ≤ n ∧ n ≤ greatest then some (n, cs.drop length) else none

/-- Reads one character. -/
def sign? (p : Char → Bool) : List Char → Option (List Char)
  | c :: rest => if p c then some rest else none
  | [] => none

/-- The number of days in a month. -/
def daysIn (year month : Nat) : Nat :=
  if month = 2 then if year % 4 = 0 ∧ (year % 100 ≠ 0 ∨ year % 400 = 0) then 29 else 28
  else if [4, 6, 9, 11].contains month then 30 else 31

/-- Reads a date.  It is shown as it is written. -/
def date? (cs : List Char) : Option (List Char × List Char) := do
  let (year, rest) ← field? 4 0 9999 cs
  let rest ← sign? (· = '-') rest
  let (month, rest) ← field? 2 1 12 rest
  let rest ← sign? (· = '-') rest
  let (_, rest) ← field? 2 1 (daysIn year month) rest
  return (cs.take 10, rest)

/-- A fraction of a second as it is shown: nine digits of it, without the zeros at their end. -/
def fraction (digits : List Char) : List Char :=
  match ((digits.take 9).reverse.dropWhile (· = '0')).reverse with
  | [] => []
  | shown => '.' :: shown

/-- Reads a time of day, up to what follows it. -/
def time? (cs : List Char) : Option (List Char × List Char) := do
  let (_, rest) ← field? 2 0 23 cs
  let rest ← sign? (· = ':') rest
  let (_, rest) ← field? 2 0 59 rest
  let rest ← sign? (· = ':') rest
  let (_, rest) ← field? 2 0 60 rest
  match rest with
  | '.' :: digits =>
    match digits.takeWhile isDigit with
    | [] => none
    | kept => return (cs.take 8 ++ fraction kept, digits.dropWhile isDigit)
  | rest => return (cs.take 8, rest)

/-- A time zone as it is shown, or nothing if there is none. -/
def zone? : List Char → Option (List Char)
  | [] => some []
  | ['Z'] | ['z'] => some ['Z']
  | mark :: rest => do
    if mark ≠ '+' ∧ mark ≠ '-' then none
    let (hours, cs) ← field? 2 0 23 rest
    let cs ← sign? (· = ':') cs
    let (minutes, cs) ← field? 2 0 59 cs
    if ¬ cs.isEmpty then none
    return (if hours = 0 ∧ minutes = 0 then '+' else mark) :: rest

/-- A word that is a date, a time or both, as it is shown. -/
def moment? (cs : List Char) : Option (List Char) :=
  match time? cs, date? cs with
  | some (time, []), _ => some time
  | _, some (date, []) => some date
  | _, some (date, mark :: rest) => do
    if mark ≠ 'T' ∧ mark ≠ 't' ∧ mark ≠ ' ' then none
    let (time, rest) ← time? rest
    return date ++ 'T' :: time ++ (← zone? rest)
  | _, none => none

/-- The value of a word. -/
def scalar? (cs : List Char) : Option Document :=
  if cs = "true".toList then some (.bool true)
  else if cs = "false".toList then some (.bool false)
  else
    match moment? cs with
    | some shown => some (.moment (s := String.ofList shown))
    | none => if isFloat cs then some .float else (integer? cs).map .integer

/-- Whether a character can stand in a word. -/
def isWordChar (c : Char) : Bool :=
  c.isAlphanum || c = '_' || c = '+' || c = '-' || c = '.' || c = ':'

/-- Cuts off a word.  A blank belongs to it if it stands between a date and a time. -/
def cutWord (cs : List Char) : Cut :=
  let word := cs.takeWhile isWordChar
  match date? word, cs.dropWhile isWordChar with
  | some (_, []), ' ' :: rest =>
    let longer := word ++ ' ' :: rest.takeWhile isWordChar
    if (moment? longer).isSome then (longer, rest.dropWhile isWordChar) else (word, ' ' :: rest)
  | _, rest => (word, rest)

/-- Reads a value that is one word. -/
def readScalar (cs : List Char) : Option (Document × List Char) :=
  let (word, rest) := cutWord cs
  (scalar? word).map fun d => (d, rest)

end Postroom.Toml
