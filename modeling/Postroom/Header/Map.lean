import Postroom.Assoc
import Postroom.Text.Lower

/-!
# Headers by name

The headers of a message by lower-case name.  A header given once has a single value; one that
occurs again has all its values, in the order in which they came.
-/

namespace Postroom.Header

/-- The value of a header. -/
inductive Value where
  /-- A header that occurs once. -/
  | single (text : String)
  /-- A header that may occur more than once. -/
  | multi (texts : List String)
deriving Repr, DecidableEq

namespace Value

/-- All the texts of a value. -/
def texts : Value → List String
  | single text => [text]
  | multi texts => texts

/-- A value with one more text. -/
def push (v : Value) (text : String) : Value := multi (v.texts ++ [text])

@[simp] theorem texts_single (text : String) : (single text).texts = [text] := rfl

@[simp] theorem texts_multi (ts : List String) : (multi ts).texts = ts := rfl

@[simp] theorem texts_push (v : Value) (text : String) : (v.push text).texts = v.texts ++ [text] :=
  rfl

end Value

/-- Headers by lower-case name. -/
structure Map where
  /-- The headers, each under its lower-case name. -/
  entries : Assoc Value
deriving Repr, DecidableEq

namespace Map

/-- No headers. -/
def empty : Map := ⟨[]⟩

/-- The value of a header. -/
def get? (m : Map) (name : String) : Option Value := m.entries.get? (Text.lower name)

/-- Whether there is a header. -/
def contains (m : Map) (name : String) : Bool := (m.get? name).isSome

/-- Sets a header, whatever it was before. -/
def insert (m : Map) (name : String) (value : Value) : Map :=
  ⟨m.entries.insert (Text.lower name) value⟩

/-- Adds one more occurrence of a header. -/
def append (m : Map) (name : String) (text : String) : Map :=
  m.insert name (match m.get? name with
    | some v => v.push text
    | none => .single text)

/-- The number of headers. -/
def size (m : Map) : Nat := m.entries.length

@[simp] theorem get?_empty (name : String) : empty.get? name = none := rfl

/-- A look-up after an insertion sees the value under every name with the same lower-case form. -/
theorem get?_insert (m : Map) (name other : String) (value : Value) :
    (m.insert name value).get? other
      = if Text.lower other = Text.lower name then some value else m.get? other :=
  Assoc.get?_insert ..

end Map

end Postroom.Header
