import Postroom.Header.Token

/-!
# Address lists

Reading the value of a header such as `To` as a list of addresses.  An address is bare, or stands in
angle brackets after a name; a name may be quoted or hold decoded words; addresses may stand in
named groups, but a group not in another.  A comment ends at the first closing parenthesis.
Reading goes item by item, an item being a character of plain text, a run of white space, or a
decoded word as a whole.
-/

namespace Postroom.Header

open Text

/-- An address with the name before it. -/
structure Address where
  /-- The name. -/
  name : Option (List Char)
  /-- The address. -/
  address : List Char
deriving Repr, DecidableEq

namespace Address

/-- An item of a header value. -/
inductive Item where
  /-- A character that stands for itself. -/
  | char (c : Char)
  /-- White space. -/
  | blank (cs : List Char)
  /-- A decoded word. -/
  | word (cs : List Char)

/-- The items of tokens. -/
def items : List Token → List Item
  | [] => []
  | .text cs :: rest => cs.map .char ++ items rest
  | .blank cs :: rest => .blank cs :: items rest
  | .newline :: rest => .blank [' '] :: items rest
  | .word cs :: rest => .word cs :: items rest

/-- The characters of an item. -/
def Item.chars : Item → List Char
  | char c => [c]
  | blank cs => cs
  | word cs => cs

/-- What is being read. -/
inductive State where
  /-- Nothing: an address may begin. -/
  | start
  /-- A quoted name. -/
  | quoted (name : List Char)
  /-- A quoted name, after a backslash. -/
  | escaped (name : List Char)
  /-- What follows a quoted name. -/
  | afterQuoted (name : List Char)
  /-- An address in angle brackets. -/
  | bracketed (name : Option (List Char)) (address : List Char)
  /-- What follows an address in angle brackets. -/
  | afterBracket
  /-- Text that is a bare address or a name. -/
  | bare (cs : List Char)
  /-- A comment, and what is read after it. -/
  | comment (after : State)
  /-- A name that begins with a decoded word. -/
  | encoded (cs : List Char)

/-- Where reading stands. -/
structure Cursor where
  /-- The addresses read so far. -/
  done : List Address
  /-- What is being read. -/
  state : State
  /-- White space after a quoted name that has not been used yet. -/
  gap : List Char
  /-- In a group, the white space kept from before it. -/
  group : Option (List Char)

/-- Where reading begins. -/
def Cursor.initial : Cursor := ⟨[], .start, [], none⟩

/-- An address, which must hold an at sign. -/
def make (name : Option (List Char)) (address : List Char) : Except Cause Address :=
  if address.contains '@' then .ok ⟨name, address⟩ else .error .noAtSign

namespace Cursor

/-- The same place with another state. -/
def switch (s : Cursor) (state : State) : Cursor := { s with state := state }

/-- The place after one more address. -/
def add (s : Cursor) (name : Option (List Char)) (address : List Char) (state : State) :
    Except Cause Cursor := do
  let a ← make name address
  return { s with done := s.done ++ [a], state := state }

/-- The place after a group begins; one that begins at the very end is empty and over. -/
def enter (s : Cursor) (atEnd : Bool) : Except Cause Cursor :=
  if s.group.isSome then .error .groupNested
  else if atEnd then .ok (s.switch .start)
  else .ok { s with state := .start, group := some s.gap, gap := [] }

/-- The place after a group ends; outside a group a semicolon separates. -/
def leave (s : Cursor) : Cursor :=
  match s.group with
  | some gap => { s with state := .start, group := none, gap := gap }
  | none => s.switch .start

/-- The place after one item; `atEnd` says that no item follows it. -/
def step (s : Cursor) (atEnd : Bool) (item : Item) : Except Cause Cursor :=
  match s.state, item with
  | .start, .char c =>
    if isBlank c then .ok s
    else if c = '"' then .ok (s.switch (.quoted []))
    else if c = '<' then .ok (s.switch (.bracketed none []))
    else if c = ';' then if s.group.isSome then .ok s.leave else .error .groupNotBegun
    else .ok (s.switch (.bare [c]))
  | .start, .blank _ => .ok s
  | .start, .word cs => .ok (s.switch (.encoded cs))
  | .quoted name, .char c =>
    if c = '\\' then .ok (s.switch (.escaped name))
    else if c = '"' then .ok (s.switch (.afterQuoted name))
    else .ok (s.switch (.quoted (name ++ [c])))
  | .quoted name, item => .ok (s.switch (.quoted (name ++ item.chars)))
  | .escaped name, item => .ok (s.switch (.quoted (name ++ item.chars)))
  | .afterQuoted name, .char c =>
    if isBlank c then .ok { s with gap := s.gap ++ [c] }
    else if c = '<' then .ok (s.switch (.bracketed (some name) []))
    else if c = ':' then s.enter atEnd
    else if c = '"' then .ok { s with state := .quoted (name ++ s.gap), gap := [] }
    else .ok { s with state := .afterQuoted (name ++ s.gap ++ [c]), gap := [] }
  | .afterQuoted _, .blank cs => .ok { s with gap := s.gap ++ cs }
  | .afterQuoted name, .word cs =>
    .ok { s with state := .afterQuoted (name ++ s.gap ++ cs), gap := [] }
  | .bracketed name address, .char c =>
    if c = '>' then s.add name address .afterBracket
    else .ok (s.switch (.bracketed name (address ++ [c])))
  | .bracketed name address, item => .ok (s.switch (.bracketed name (address ++ item.chars)))
  | .afterBracket, .char c =>
    if isBlank c then .ok s
    else if c = ',' then .ok (s.switch .start)
    else if c = ';' then .ok s.leave
    else if c = '(' then .ok (s.switch (.comment .afterBracket))
    else .error .afterBracket
  | .afterBracket, .blank _ => .ok s
  | .afterBracket, .word _ => .error .encodedAfterBracket
  | .bare cs, .char c =>
    if c = '<' then .ok (s.switch (.bracketed (some (trimEnd cs)) []))
    else if c = ',' then s.add none (trimEnd cs) .start
    else if c = ';' then do return (← s.add none (trimEnd cs) .start).leave
    else if c = ':' then s.enter atEnd
    else if c = '(' then .ok (s.switch (.comment (.bare cs)))
    else .ok (s.switch (.bare (cs ++ [c])))
  | .bare cs, .blank ws => .ok (s.switch (.bare (cs ++ ws)))
  | .bare cs, .word ws => .ok (s.switch (.encoded (cs ++ ws)))
  | .comment after, .char c => .ok (if c = ')' then s.switch after else s)
  | .comment _, _ => .ok s
  | .encoded cs, .char c =>
    if c = '<' then .ok (s.switch (.bracketed (some (trimEnd cs)) []))
    else if c = ':' then s.enter atEnd
    else .ok (s.switch (.encoded (cs ++ [c])))
  | .encoded cs, item => .ok (s.switch (.encoded (cs ++ item.chars)))

/-- The place after some items. -/
def steps (s : Cursor) : List Item → Except Cause Cursor
  | [] => .ok s
  | item :: rest => do (← s.step rest.isEmpty item).steps rest

/-- The addresses, if reading may end here. -/
def finish (s : Cursor) : Except Cause (List Address) :=
  if s.group.isSome then .error .groupNotEnded
  else
    match s.state with
    | .start | .afterBracket => .ok s.done
    | .bare cs => do return s.done ++ [← make none (trimEnd cs)]
    | _ => .error .addressCutShort

end Cursor

/-- Reads a list of addresses. -/
def readList (tokens : List Token) : Except Cause (List Address) := do
  (← Cursor.initial.steps (items tokens)).finish

/-- An address as shown: the name, if there is one, and the address in angle brackets. -/
def shown (a : Address) : List Char :=
  lowerChars (trim (a.name.getD [] ++ [' ', '<'] ++ a.address ++ ['>']))

end Address

end Postroom.Header
