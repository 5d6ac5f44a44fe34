import Postroom.LogLevel
import Postroom.Text.Decimal
import Postroom.Text.Property
import Postroom.Text.Split

/-!
# Filters of log messages

Which messages are logged is said by a list of directives with commas between them.  A directive has
a threshold and may name a target: it is about the messages whose target begins with that name.  Of
the directives that are about a message the one with the longest target decides, and of those with
one target the last.  A directive that names a span, or the fields of one, is never about a message
that stands alone.

The parts of a directive are found in the text without the white space around it, and then counted
off in the text with it.
-/

namespace Postroom

namespace LogFilter

/-- The most talkative level that is let through, if any is. -/
abbrev Threshold : Type := Option LogLevel

/-- Whether a threshold lets a level through. -/
def admits : Threshold → LogLevel → Bool
  | some least, level => least.rank ≤ level.rank
  | none, _ => false

/-- A text without the case of its ASCII letters. -/
def folded (cs : List Char) : String := String.ofList (cs.map Char.toLower)

/-- The thresholds by number. -/
def thresholds : List Threshold :=
  [none, some .error, some .warn, some .info, some .debug, some .trace]

/-- Takes a plus sign off the front. -/
def withoutPlus : List Char → List Char
  | '+' :: rest => rest
  | cs => cs

/-- The threshold a text names, by number or by the name of a level. -/
def threshold? (cs : List Char) : Option Threshold :=
  match (Text.Decimal.readUpTo? 5 (withoutPlus cs)).bind (thresholds[·]?) with
  | some t => some t
  | none =>
    if folded cs = "off" then some none
    else (LogLevel.all.find? fun l => folded cs = l.name).map some

/-- A directive. -/
structure Directive where
  /-- What the target of a message begins with, if it matters. -/
  target : Option (List Char)
  /-- Whether a span is named. -/
  named : Bool
  /-- The fields of a span, each with whether its value matters. -/
  fields : List (List Char × Bool)
  /-- The threshold. -/
  threshold : Threshold
deriving Repr, DecidableEq

/-- Why a text is no directive. -/
inductive Cause where
  /-- It does not have the form of a directive. -/
  | malformed
  /-- Its threshold is not known. -/
  | threshold
deriving Repr, DecidableEq

/-- Why a text is no directive, in words. -/
def Cause.message : Cause → String
  | malformed => "invalid filter directive"
  | threshold =>
    "error parsing level filter: expected one of \"off\", \"error\", \"warn\", \"info\", \"debug\", "
      ++ "\"trace\", or a number 0-5"

/-- Whether a directive can begin with a character. -/
def isStart (c : Char) : Bool :=
  c = '-' || c = ':' || c = '_' || Text.Property.isAlphabetic c || Text.Property.isNumeric c

/-- The threshold behind an equals sign; all is let through if there is nothing. -/
def givenThreshold (cs : List Char) : Except Cause Threshold :=
  if cs.isEmpty then .ok (some .trace)
  else match threshold? cs with
    | some t => .ok t
    | none => .error .threshold

/-- Reads what follows the name of a target.  `shape` is what is left of the text in which the parts
are found, `text` what is left of the text in which they are counted off. -/
def afterTarget (d : Directive) (shape text : List Char) : Except Cause Directive :=
  match shape with
  | [] => .ok d
  | '=' :: _ => do return { d with threshold := ← givenThreshold (text.drop 1) }
  | _ => .error .malformed

/-- A field, with whether a value is given. -/
def readField (cs : List Char) : List Char × Bool := (cs.takeWhile (· ≠ '='), cs.contains '=')

/-- Reads what follows the bracket of a span. -/
def afterBracket (d : Directive) (shape text : List Char) : Except Cause Directive :=
  let size := (shape.takeWhile fun c => !(c = ']' || c = '{')).length
  match shape.drop size with
  | ']' :: rest => afterTarget { d with named := true } rest (text.drop (size + 1))
  | '{' :: rest =>
    let inner := text.drop (size + 1)
    let length := (rest.takeWhile (· ≠ '}')).length
    let field := inner.take length
    match rest.drop length with
    | '}' :: ']' :: rest =>
      if field.isEmpty then .error .malformed
      else afterTarget { d with named := size ≠ 0, fields := [readField field] } rest
        (inner.drop (length + 2))
    | _ => .error .malformed
  | _ => .error .malformed

/-- Reads a directive. -/
def Directive.read (text : List Char) : Except Cause Directive :=
  let shape := Text.trim text
  let all : Directive := ⟨none, false, [], some .trace⟩
  match shape with
  | [] => .error .malformed
  | '[' :: rest => afterBracket all rest (text.drop 1)
  | c :: _ =>
    if !isStart c then .error .malformed
    else
      let size := (shape.takeWhile fun c => !(c = '=' || c = '[')).length
      let d := { all with target := some (text.take size) }
      match shape.drop size with
      | [] =>
        match threshold? text with
        | some t => .ok { all with threshold := t }
        | none => .ok { all with target := some text }
      | '[' :: rest => afterBracket d rest (text.drop (size + 1))
      | rest => afterTarget d rest (text.drop size)

/-- Whether a directive is about spans only. -/
def Directive.isDynamic (d : Directive) : Bool := d.named || !d.fields.isEmpty

/-- Whether a directive is about a message of a target. -/
def Directive.isAbout (target : List Char) (d : Directive) : Bool :=
  !d.isDynamic && d.target.all (·.isPrefixOf target)

/-- How long the target of a directive is; one without a target is shorter than all others. -/
def Directive.size (d : Directive) : Nat := (d.target.map fun t => t.length + 1).getD 0

/-- The directive that decides, of two of which the second came later. -/
def Directive.stronger (a b : Directive) : Directive := if b.size < a.size then a else b

/-- Of the directives about a message, the one that decides. -/
def deciding? (target : List Char) (ds : List Directive) : Option Directive :=
  match ds.filter (Directive.isAbout target) with
  | [] => none
  | d :: rest => some (rest.foldl Directive.stronger d)

end LogFilter

/-- A filter of log messages. -/
structure LogFilter where
  /-- Its directives. -/
  directives : List LogFilter.Directive
deriving Repr, DecidableEq

namespace LogFilter

/-- Lets a level and those after it through. -/
def ofLevel (level : LogLevel) : LogFilter := ⟨[⟨none, false, [], some level⟩]⟩

/-- Reads directives, up to the first that cannot be read. -/
def readAll : List (List Char) → Except Cause (List Directive)
  | [] => .ok []
  | text :: rest => do
    let d ← Directive.read text
    return d :: (← readAll rest)

/-- Reads a filter.  Without directives only errors are let through. -/
def read (text : String) : Except Cause LogFilter := do
  match ← readAll ((Text.split ',' text.toList).filter (!·.isEmpty)) with
  | [] => return ofLevel .error
  | ds => return ⟨ds⟩

/-- Whether a message of a target and a level is let through. -/
def admitsMessage (f : LogFilter) (target : String) (level : LogLevel) : Bool :=
  match deciding? target.toList f.directives with
  | some d => admits d.threshold level
  | none => false

/-- The filter in force: the directives if there are any, else the level. -/
def choose (directives : Option String) (level : LogLevel) : Except Cause LogFilter :=
  match directives with
  | some text => if Text.isBlankText text then .ok (ofLevel level) else read text
  | none => .ok (ofLevel level)

end LogFilter

end Postroom
