import Postroom.Pattern.Cause
import Postroom.Pattern.CharSet
import Postroom.Pattern.Tree
import Postroom.Text.Blank
import Postroom.Text.Property
import Postroom.Text.Word

/-!
# Regular expressions

What is left of a pattern when its modes have been applied: sets of characters, assertions about
places, and their combinations.  `Expr.ofTree` applies the modes; it refuses a pattern that would
match part of a character, or asks for an unknown property.
-/

namespace Postroom.Pattern

open Text

/-- An assertion about a place in a text, with all modes applied. -/
inductive Look where
  | textStart
  | textEnd
  | lineStart (crlf : Bool)
  | lineEnd (crlf : Bool)
  | boundary (unicode : Bool)
  | notBoundary (unicode : Bool)
  | wordStart (unicode : Bool)
  | wordEnd (unicode : Bool)
  | wordStartHalf (unicode : Bool)
  | wordEndHalf (unicode : Bool)
deriving Repr, DecidableEq

/-- A regular expression whose characters are given by `α` and whose assertions are given by `β`. -/
inductive Expr (α β : Type) where
  /-- The empty text. -/
  | empty
  /-- One character. -/
  | take (a : α)
  /-- The empty text at certain places. -/
  | look (b : β)
  /-- One after the other. -/
  | cat (l r : Expr α β)
  /-- One or the other. -/
  | alt (l r : Expr α β)
  /-- Between `least` and `most` rounds, or without limit. -/
  | rep (sub : Expr α β) (least : Nat) (most : Option Nat)
  /-- A group whose place is remembered. -/
  | capture (sub : Expr α β)
deriving Repr, DecidableEq

namespace Expr

variable {α β γ δ : Type}

/-- The same expression over other characters and assertions. -/
def map (f : α → γ) (g : β → δ) : Expr α β → Expr γ δ
  | empty => empty
  | take a => take (f a)
  | look b => look (g b)
  | cat l r => cat (l.map f g) (r.map f g)
  | alt l r => alt (l.map f g) (r.map f g)
  | rep sub least most => rep (sub.map f g) least most
  | capture sub => capture (sub.map f g)

/-- Whether an expression takes no character whatever happens. -/
def isHollow : Expr α β → Bool
  | empty => true
  | take _ => false
  | look _ => true
  | cat l r => l.isHollow && r.isHollow
  | alt l r => l.isHollow && r.isHollow
  | rep sub _ most => most = some 0 || sub.isHollow
  | capture sub => sub.isHollow

/-- A repetition in its simplest form: rounds that take nothing need not be repeated. -/
def repeated (sub : Expr α β) (least : Nat) (most : Option Nat) : Expr α β :=
  let (least, most) :=
    if sub.isHollow then (min least 1, some (min (most.getD 1) 1)) else (least, most)
  match least, most with
  | 0, some 0 => empty
  | 1, some 1 => sub
  | least, most => rep sub least most

/-- Expressions in sequence. -/
def cats : List (Expr α β) → Expr α β
  | [] => empty
  | [e] => e
  | e :: rest => cat e (cats rest)

/-- Alternative expressions. -/
def alts : List (Expr α β) → Expr α β
  | [] => empty
  | [e] => e
  | e :: rest => alt e (alts rest)

end Expr

/-- The modes in force. -/
abbrev Modes := List Mode

namespace Modes

/-- The modes in force where a pattern begins. -/
def initial : Modes := [.ignoreCase, .unicode]

/-- The modes in force after a change. -/
def apply (modes : Modes) (change : ModeChange) : Modes :=
  change.on ++ modes.filter fun m => !change.off.contains m

end Modes

namespace Kind

/-- The characters of a class with a one-letter name. -/
def set : Kind → CharSet
  | digit => digitRanges
  | space => blanks
  | word => wordRanges

/-- The ASCII characters of a class with a one-letter name. -/
def asciiSet : Kind → CharSet
  | digit => [(48, 57)]
  | space => [(9, 13), (32, 32)]
  | word => [(48, 57), (65, 90), (95, 95), (97, 122)]

end Kind

/-- The characters of an ASCII class. -/
def asciiClass : String → CharSet
  | "alnum" => [(48, 57), (65, 90), (97, 122)]
  | "alpha" => [(65, 90), (97, 122)]
  | "ascii" => [(0, 127)]
  | "blank" => [(9, 9), (32, 32)]
  | "cntrl" => [(0, 31), (127, 127)]
  | "digit" => [(48, 57)]
  | "graph" => [(33, 126)]
  | "lower" => [(97, 122)]
  | "print" => [(32, 126)]
  | "punct" => [(33, 47), (58, 64), (91, 96), (123, 126)]
  | "space" => [(9, 13), (32, 32)]
  | "upper" => [(65, 90)]
  | "word" => [(48, 57), (65, 90), (95, 95), (97, 122)]
  | "xdigit" => [(48, 57), (65, 70), (97, 102)]
  | _ => []

namespace PropertyQuery

/-- The code points no category but "unassigned" has. -/
def unassigned : CharSet :=
  CharSet.compl (CharSet.ofRanges ((0xd800, 0xdfff)
    :: Property.categories.flatMap fun entry => Property.decode entry.2))

/-- The characters of a general category, by folded name. -/
def category? (name : String) : Option CharSet :=
  match name with
  | "any" => some CharSet.everything
  | "assigned" => some (CharSet.compl unassigned)
  | "ascii" => some [(0, 127)]
  | "cn" | "unassigned" => some unassigned
  | name =>
    match Property.groups.find? (·.1.contains name) with
    | some group =>
      some (CharSet.ofRanges (group.2.flatMap fun part =>
        if part = "cn" then unassigned else (Property.find? Property.categories part).getD []))
    | none => Property.find? Property.categories name

/-- The characters of a property with one name, folded: of a binary property, a general category or
a script, in this order. -/
def named? (name : String) : Except Cause CharSet :=
  let binary :=
    if name = "cf" ∨ name = "sc" ∨ name = "lc" then none
    else
      match Property.find? Property.binaries name with
      | some set => some (some set)
      | none =>
        if (Property.valued ++ Property.categoryNames ++ Property.scriptNames
            ++ Property.sharedScriptNames).contains name then some none
        else none
  match binary with
  | some (some set) => .ok set
  | some none => .error .propertyUnknown
  | none =>
    match category? name with
    | some set => .ok set
    | none =>
      match Property.find? Property.scripts name with
      | some set => .ok set
      | none => .error .propertyUnknown

/-- The characters for which a property has a value, both by folded name; none if the property has
no such value. -/
def withValue? (name value : String) : Option CharSet :=
  if Property.categoryNames.contains name then category? value
  else if Property.scriptNames.contains name then Property.find? Property.scripts value
  else if Property.sharedScriptNames.contains name then
    Property.find? Property.sharedScripts value <|> Property.find? Property.scripts value
  else if name = "age" then (Property.age? value).map fun parts => CharSet.ofRanges parts.flatten
  else (Property.breaks? name).bind (Property.find? · value)

/-- The characters for which a property has a value, both by folded name; the fault tells whether
it is the property or the value that has no such name. -/
def valued? (name value : String) : Except Cause CharSet :=
  match withValue? name value with
  | some set => .ok set
  | none =>
    if (Property.valued ++ Property.categoryNames ++ Property.scriptNames
        ++ Property.sharedScriptNames).contains name
        ∨ (Property.find? Property.binaries name).isSome then
      .error .propertyValueUnknown
    else .error .propertyUnknown

/-- The characters a query asks for. -/
def set? : PropertyQuery → Except Cause CharSet
  | named name => named? (String.ofList (Property.foldName name))
  | valued name value =>
    valued? (String.ofList (Property.foldName name)) (String.ofList (Property.foldName value))

end PropertyQuery

namespace Modes

/-- A set with letters of either case, if case is ignored. -/
def fold (modes : Modes) (set : CharSet) : CharSet :=
  if modes.contains .ignoreCase then
    if modes.contains .unicode then set.foldCase else set.foldAsciiCase
  else set

/-- A set or its complement; without Unicode a complement would hold parts of characters. -/
def negate (modes : Modes) (negated : Bool) (set : CharSet) : Except Cause CharSet :=
  let result := if negated then set.compl else set
  if modes.contains .unicode || result.isAscii then .ok result else .error .invalidUtf8

/-- The set of a class with a one-letter name. -/
def kind (modes : Modes) (k : Kind) (negated : Bool) : Except Cause CharSet :=
  modes.negate negated (if modes.contains .unicode then k.set else k.asciiSet)

/-- The set of a property. -/
def property (modes : Modes) (q : PropertyQuery) (negated : Bool) : Except Cause CharSet := do
  unless modes.contains .unicode do throw .unicodeNotAllowed
  modes.negate negated (modes.fold (← q.set?))

/-- The character of a literal; without Unicode a literal byte must be ASCII. -/
def char (modes : Modes) (l : Literal) : Except Cause Char :=
  if !modes.contains .unicode && l.byByte && l.char.toNat > 0x7f then .error .invalidUtf8
  else .ok l.char

/-- The character of a literal in a class; without Unicode it must be ASCII. -/
def memberChar (modes : Modes) (l : Literal) : Except Cause Char := do
  let c ← modes.char l
  if !modes.contains .unicode && c.toNat > 0x7f then throw .unicodeNotAllowed else return c

mutual

/-- The set of the members of a class. -/
def members (modes : Modes) : Members → Except Cause CharSet
  | .none => .ok []
  | .literal l => return CharSet.single (← modes.memberChar l)
  | .range first last => do
    let lo ← modes.memberChar first
    let hi ← modes.memberChar last
    return [(lo.toNat, hi.toNat)]
  | .ascii name negated => modes.negate negated (modes.fold (asciiClass name))
  | .kind k negated => modes.kind k negated
  | .property q negated => modes.property q negated
  | .nested negated inner => do modes.negate negated (modes.fold (← members modes inner))
  | .union items => memberList modes items
  | .op o left right => do
    let l := modes.fold (← members modes left)
    let r := modes.fold (← members modes right)
    match o with
    | .inter => return l.inter r
    | .diff => return l.diff r
    | .symmDiff => return l.symmDiff r

/-- The union of the sets of some members. -/
def memberList (modes : Modes) : List Members → Except Cause CharSet
  | [] => .ok []
  | m :: rest => do
    let here ← members modes m
    return here.union (← memberList modes rest)

end

/-- The set of a literal outside a class. -/
def literal (modes : Modes) (l : Literal) : Except Cause CharSet := do
  return modes.fold (CharSet.single (← modes.char l))

/-- The set of the dot. -/
def dot (modes : Modes) : Except Cause CharSet :=
  if !modes.contains .unicode then .error .invalidUtf8
  else if modes.contains .dotAll then .ok CharSet.everything
  else if modes.contains .crlf then .ok (CharSet.compl [(10, 10), (13, 13)])
  else .ok (CharSet.compl [(10, 10)])

/-- An assertion with the modes applied. -/
def assertion (modes : Modes) : Assertion → Look
  | .lineStart =>
    if modes.contains .multiLine then .lineStart (modes.contains .crlf) else .textStart
  | .lineEnd => if modes.contains .multiLine then .lineEnd (modes.contains .crlf) else .textEnd
  | .textStart => .textStart
  | .textEnd => .textEnd
  | .boundary => .boundary (modes.contains .unicode)
  | .notBoundary => .notBoundary (modes.contains .unicode)
  | .wordStart => .wordStart (modes.contains .unicode)
  | .wordEnd => .wordEnd (modes.contains .unicode)
  | .wordStartHalf => .wordStartHalf (modes.contains .unicode)
  | .wordEndHalf => .wordEndHalf (modes.contains .unicode)

end Modes

/-- A regular expression over sets of characters. -/
abbrev Regular := Expr CharSet Look

namespace Regular

mutual

/-- The expression of a pattern in given modes, and the modes in force after it. -/
def ofTree (modes : Modes) : Tree → Except Cause (Regular × Modes)
  | .empty => .ok (.empty, modes)
  | .modes change => .ok (.empty, modes.apply change)
  | .literal l => return (.take (← modes.literal l), modes)
  | .dot => return (.take (← modes.dot), modes)
  | .assertion a => .ok (.look (modes.assertion a), modes)
  | .kind k negated => return (.take (← modes.kind k negated), modes)
  | .property q negated => return (.take (← modes.property q negated), modes)
  | .bracket negated members =>
    return (.take (← modes.negate negated (modes.fold (← modes.members members))), modes)
  | .rep sub least most => do
    let (e, after) ← ofTree modes sub
    return (e.repeated least most, after)
  | .group captures change sub => do
    let (e, _) ← ofTree (modes.apply change) sub
    return (if captures then .capture e else e, modes)
  | .alt branches => do
    let (es, after) ← ofTrees modes branches
    return (Expr.alts es, after)
  | .cat parts => do
    let (es, after) ← ofTrees modes parts
    return (Expr.cats es, after)

/-- The expressions of patterns that stand one after the other. -/
def ofTrees (modes : Modes) : List Tree → Except Cause (List Regular × Modes)
  | [] => .ok ([], modes)
  | t :: rest => do
    let (e, after) ← ofTree modes t
    let (es, last) ← ofTrees after rest
    return (e :: es, last)

end

end Regular

end Postroom.Pattern
