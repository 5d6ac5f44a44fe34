import Postroom.Toml.Scalar
import Postroom.Toml.Tree

/-!
# Reading TOML

A document is a list of lines: values given to keys, headers that open tables, comments, and blank
lines.  Arrays may run over several lines, tables in braces may not.  Arrays and tables in braces
are nested to a limited depth, and so are keys with dots.  A text that is not TOML has no document.
-/

namespace Postroom.Toml

/-- Whether a character is a blank. -/
def isBlank (c : Char) : Bool := c = ' ' || c = '\t'

/-- Leaves out blanks. -/
def skipBlanks (cs : List Char) : List Char := cs.dropWhile isBlank

/-- Leaves out a line break. -/
def lineBreak? : List Char → Option (List Char)
  | '\n' :: rest => some rest
  | '\r' :: '\n' :: rest => some rest
  | _ => none

/-- Leaves out a comment. -/
def skipComment : List Char → List Char
  | '#' :: rest => rest.dropWhile isPlain
  | cs => cs

/-- Leaves out the rest of a line, which holds blanks and a comment only, and its end. -/
def endLine? (cs : List Char) : Option (List Char) :=
  match skipComment (skipBlanks cs) with
  | [] => some []
  | cs => lineBreak? cs

/-- Leaves out blanks, comments and line breaks; a comment goes up to a line break.  At most `n`
characters are left out. -/
def skipLines : Nat → List Char → List Char
  | 0, cs => cs
  | n + 1, cs =>
    match lineBreak? (skipComment (skipBlanks cs)) with
    | some rest => skipLines n rest
    | none => skipBlanks cs

/-- Leaves out everything between the items of an array. -/
def skipSpace (cs : List Char) : List Char := skipLines cs.length cs

/-- Whether a character can stand in a key without quotes. -/
def isKeyChar (c : Char) : Bool := c.isAlphanum || c = '_' || c = '-'

/-- Reads one key. -/
def readKey (cs : List Char) : Option (String × List Char) :=
  match cs with
  | '"' :: _ | '\'' :: _ => (readQuotation false cs).map fun r => (String.ofList r.1, r.2)
  | _ =>
    let key := cs.takeWhile isKeyChar
    if key.isEmpty then none else some (String.ofList key, cs.dropWhile isKeyChar)

/-- Reads fewer than `n` keys with dots between them: those in front, and the last. -/
def readKeys : Nat → List Char → Option ((List String × String) × List Char)
  | 0, _ => none
  | n + 1, cs => do
    let (key, cs) ← readKey (skipBlanks cs)
    match skipBlanks cs with
    | '.' :: rest => do
      let ((path, last), rest) ← readKeys n rest
      return ((key :: path, last), rest)
    | cs => return (([], key), cs)

/-- The greatest number of keys with dots between them, and of arrays and tables in braces within
each other. -/
def depthLimit : Nat := 79

/-- Reads a key, with dots or without, up to what follows it. -/
def readPath (cs : List Char) : Option ((List String × String) × List Char) :=
  readKeys depthLimit cs

/-- Reads one character. -/
def expect (mark : Char) : List Char → Option (List Char)
  | c :: rest => if c = mark then some rest else none
  | [] => none

/-- Reads the items of an array after its bracket, at most `n` of them. -/
def readArray (read : List Char → Option (Document × List Char)) :
    Nat → List Char → Option (List Document × List Char)
  | 0, _ => none
  | n + 1, cs =>
    match skipSpace cs with
    | ']' :: rest => some ([], rest)
    | cs => do
      let (d, cs) ← read cs
      match skipSpace cs with
      | ',' :: rest => do
        let (items, rest) ← readArray read n rest
        return (d :: items, rest)
      | cs => return ([d], ← expect ']' cs)

/-- Reads the entries of a table in braces, at most `n` of them. -/
def readBraces (read : List Char → Option (Document × List Char)) :
    Nat → Entries → List Char → Option (Entries × List Char)
  | 0, _, _ => none
  | n + 1, entries, cs => do
    let ((path, key), cs) ← readPath cs
    let (d, cs) ← read (skipBlanks (← expect '=' cs))
    let entries ← entries.put path key d
    match skipBlanks cs with
    | ',' :: rest => readBraces read n entries rest
    | cs => return (entries, ← expect '}' cs)

/-- Reads a text, or a value that is one word. -/
def readPlain (cs : List Char) : Option (Document × List Char) :=
  match cs with
  | '"' :: _ | '\'' :: _ => (readQuotation true cs).map fun r => (.text (String.ofList r.1), r.2)
  | _ => readScalar cs

/-- Reads a value in which arrays and tables in braces are nested to a depth. -/
def readValue : Nat → List Char → Option (Document × List Char)
  | 0, cs => readPlain cs
  | depth + 1, '[' :: rest => do
    let (items, rest) ← readArray (fun cs => readValue depth cs) (rest.length + 1) rest
    return (.list items, rest)
  | depth + 1, '{' :: rest =>
    match skipBlanks rest with
    | '}' :: rest => some (.table [], rest)
    | rest => do
      let (entries, rest) ← readBraces (fun cs => readValue depth cs) (rest.length + 1) [] rest
      return (.table (documents entries), rest)
  | _ + 1, cs => readPlain cs

/-- Reads a line that is no blank and has no comment alone. -/
def readEntry (draft : Draft) : List Char → Option (Draft × List Char)
  | '[' :: '[' :: rest => do
    let ((path, key), rest) ← readPath rest
    let rest ← endLine? (← expect ']' (← expect ']' rest))
    return (← draft.openItem path key, rest)
  | '[' :: rest => do
    let ((path, key), rest) ← readPath rest
    let rest ← endLine? (← expect ']' rest)
    return (← draft.openTable path key, rest)
  | cs => do
    let ((path, key), cs) ← readPath cs
    let (d, cs) ← readValue depthLimit (skipBlanks (← expect '=' cs))
    let rest ← endLine? cs
    return (← draft.put path key d, rest)

/-- Reads at most `n` lines. -/
def readEntries : Nat → Draft → List Char → Option Draft
  | 0, _, _ => none
  | n + 1, draft, cs =>
    match skipSpace cs with
    | [] => some draft
    | '#' :: rest => if rest.all isPlain then some draft else none
    | cs => do
      let (draft, rest) ← readEntry draft cs
      readEntries n draft rest

/-- Reads a document, which may begin with a byte order mark. -/
def read? (text : String) : Option Document :=
  let cs := match text.toList with
    | '\ufeff' :: rest => rest
    | cs => cs
  (readEntries (cs.length + 1) Draft.empty cs).map Draft.toDocument

/-- Reads a document, or says that it cannot be read. -/
def read (text : String) : Except Document.Mismatch Document :=
  match read? text with
  | some d => .ok d
  | none => .error .shape

end Postroom.Toml
