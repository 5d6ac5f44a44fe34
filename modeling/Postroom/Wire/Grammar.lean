import Postroom.Wire.Response
import Postroom.Wire.Structure

/-!
# The grammar of responses

`response` reads one response with the end of its line.  Keywords are read in any case of letters,
and a code that is not known belongs to the text behind it.
-/

namespace Postroom.Wire

open Text Reader

/-- Reads a status. -/
def status : Reader Status :=
  choice [do word "OK"; return .ok, do word "NO"; return .no, do word "BAD"; return .bad,
    do word "PREAUTH"; return .preauth, do word "BYE"; return .bye]

/-- Reads the name of something a server can do. -/
def ability : Reader String :=
  choice [do word "IMAP4rev1"; return "IMAP4rev1",
    do return "AUTH=" ++ (← after "AUTH=" atom), atom]

/-- Reads what a server can do, which has to include the protocol itself. -/
def abilities : Reader (List String) :=
  (after "CAPABILITY" (many (spaced ability))).filterMap fun names =>
    if names.contains "IMAP4rev1" then some names else none

/-- Reads a code between its brackets. -/
def codeBody : Reader Code :=
  choice [
    do word "ALERT"; return .alert,
    do
      word "BADCHARSET"
      let known ← optional (spaced (listOf1 (utf8 wordOrString)))
      return .badCharset (known.getD []),
    do return .capability (← abilities),
    do word "PARSE"; return .parse,
    do return .permanentFlags (← after "PERMANENTFLAGS " flagList),
    do return .uidValidity (← after "UIDVALIDITY " number),
    do return .uidNext (← after "UIDNEXT " number),
    do return .unseen (← after "UNSEEN " number),
    do word "READ-ONLY"; return .readOnly,
    do word "READ-WRITE"; return .readWrite,
    do word "TRYCREATE"; return .tryCreate,
    do return .highestModSeq (← after "HIGHESTMODSEQ " longNumber),
    do
      let validity ← after "APPENDUID " number
      return .appendUid validity (← spaced uidSet),
    do
      let validity ← after "COPYUID " number
      let source ← spaced uidSet
      return .copyUid validity source (← spaced uidSet),
    do word "UIDNOTSTICKY"; return .uidNotSticky,
    do return .metadataLongEntries (← after "METADATA LONGENTRIES " longNumber),
    do return .metadataMaxSize (← after "METADATA MAXSIZE " longNumber),
    do word "METADATA TOOMANY"; return .metadataTooMany,
    do word "METADATA NOPRIVATE"; return .metadataNoPrivate]

/-- Reads a code. -/
def code : Reader Code := between '[' ']' codeBody

/-- Reads a code, if there is one, and a text, of which the character next to the code is left
out. -/
def remark : Reader Remark := do
  let c ← optional code
  let t ← text
  return ⟨c, if t.isEmpty then none else some (if c.isSome then (t.drop 1).toString else t)⟩

/-- A remark that may be left out together with the blank before it. -/
def optionalRemark : Reader Remark := do
  return (← optional (spaced remark)).getD ⟨none, none⟩

/-- Reads an invitation to go on. -/
def continuation : Reader Response := do
  char '+'
  let _ ← optional (char ' ')
  let r ← remark
  lineEnd
  return .continue_ r

/-- Reads a completion. -/
def completion : Reader Response := do
  let tag ← takeWhile1 isTagByte
  let s ← spaced status
  let r ← optionalRemark
  lineEnd
  return .completion (asciiString tag) s r

/-- Reads what can be asked of a mailbox. -/
def statusItem : Reader Unit :=
  choice [skip (after "HIGHESTMODSEQ " longNumber), skip (after "MESSAGES " number),
    skip (after "RECENT " number), skip (after "UIDNEXT " number),
    skip (after "UIDVALIDITY " number), skip (after "UNSEEN " number)]

/-- Reads what a listing says of a mailbox. -/
def listing : Reader Response := do
  let attributes ← flagList
  char ' '
  let delimiter ← orElse (do return some (← utf8 quotedString)) (do nil; return none)
  return .listing attributes delimiter (← spaced mailboxName)

/-- Reads identifiers, each after a blank; one more blank may follow. -/
def uidsFound : Reader (List Nat) := do
  let uids ← many (spaced number)
  let _ ← optional (char ' ')
  return uids

/-- Reads what is said of mailboxes. -/
def mailboxData : Reader Response :=
  choice [
    do return .flags (← after "FLAGS " flagList),
    do let n ← number; word " EXISTS"; return .messages n,
    after "LIST " listing,
    after "LSUB " listing,
    do
      let name ← after "STATUS " mailboxName
      let _ ← spaced (listOf1 statusItem)
      return .mailboxStatus name,
    do let n ← number; word " RECENT"; return .recent n,
    do return .found (← after "SEARCH" uidsFound),
    do return .sorted (← after "SORT" uidsFound)]

/-- Reads which part of a content is meant, between the brackets. -/
def sectionName : Reader Unit :=
  let whole := choice [
    do
      word "HEADER.FIELDS"
      let _ ← optional (word ".NOT")
      char ' '
      skip (listOf wordOrString),
    word "HEADER", word "TEXT"]
  let below : Reader Unit := do
    char '.'
    orElse whole (word "MIME")
  let part : Reader Unit := do
    let _ ← number
    let _ ← many (do char '.'; skip number)
    skip (optional below)
  orElse whole part

/-- Reads one thing said of a message. -/
def detail : Reader Detail :=
  choice [
    do
      word "BODY"
      let _ ← between '[' ']' (optional sectionName)
      let _ ← optional (between '<' '>' number)
      return .section (← spaced stringOrNil),
    do after "BODYSTRUCTURE " partStructure; return .partStructure,
    do return .envelope (← after "ENVELOPE " envelope),
    do return .arrival (← after "INTERNALDATE " textOrNil),
    do return .flags (← after "FLAGS " flagList),
    do return .modSeq (← after "MODSEQ " (inParens longNumber)),
    do return .content (← after "RFC822 " stringOrNil),
    do
      word "RFC822.HEADER "
      let _ ← optional (char ' ')
      return .header (← stringOrNil),
    do return .size (← after "RFC822.SIZE " number),
    do return .body (← after "RFC822.TEXT " stringOrNil),
    do return .uid (← after "UID " number)]

/-- Whether a byte can stand in the name of an annotation. -/
def isEntryByte (b : UInt8) : Bool := 0x19 < b && b < 0x80 && b != 42 && b != 37 && b != 47

/-- Whether the rest of the name of an annotation is in order. -/
def entryPath : List UInt8 → Bool
  | 47 :: b :: rest => isEntryByte b && entryPath (rest.dropWhile isEntryByte)
  | 47 :: [] => false
  | _ => true
termination_by bs => bs.length
decreasing_by
  simp only [List.length_cons]
  have := (List.dropWhile_sublist isEntryByte (l := rest)).length_le
  omega

/-- What is left of some bytes after a word of ASCII. -/
def stripWord? (w : String) (bs : List UInt8) : Option (List UInt8) :=
  let tag := w.toList.map Char.toUInt8
  if tag.isPrefixOf bs then some (bs.drop tag.length) else none

/-- Whether some bytes are the name of an annotation: private or shared, from the administrator or
not, and a comment or something of a vendor. -/
def isEntryName (bs : List UInt8) : Bool :=
  let kind (bs : List UInt8) : Bool :=
    match stripWord? "/comment" bs, stripWord? "/vendor" bs with
    | some rest, _ => entryPath rest
    | none, some (47 :: b :: rest) => isEntryByte b && entryPath (47 :: b :: rest)
    | _, _ => false
  match stripWord? "/private" bs, stripWord? "/shared" bs with
  | some rest, _ => kind rest
  | none, some rest =>
    match stripWord? "/admin" rest with
    | some rest => entryPath rest
    | none => kind rest
  | none, none => false

/-- Reads the name of an annotation. -/
def entryName : Reader Unit :=
  wordOrString.filterMap fun bs => if isEntryName bs then some () else none

/-- Reads annotations of a mailbox, with or without values. -/
def annotations : Reader Unit := do
  word "METADATA "
  let _ ← quotedString
  char ' '
  orElse (skip (listOf1 (inRow [entryName, skip textOrNil])))
    (skip (sepBy (char ' ') entryName))

/-- Reads messages that are gone. -/
def vanished : Reader Unit :=
  orElse (skip (after "VANISHED (EARLIER) " uidSet)) (skip (after "VANISHED " uidSet))

/-- Reads a limit on what may be stored. -/
def quota : Reader Unit := do
  word "QUOTA"
  gap
  skip (utf8 wordOrString)
  gap
  let resource : Reader Unit := do
    skip atom
    gap
    skip longNumber
    gap
    skip longNumber
  inParens (skip (sepBy gap resource))

/-- Reads which limits hold for a mailbox. -/
def quotaRoot : Reader Unit := do
  word "QUOTAROOT"
  gap
  skip (utf8 wordOrString)
  skip (many (do gap; skip (utf8 wordOrString)))

/-- Reads data that belong to no command. -/
def untagged : Reader Response := do
  bytes [42, 32]
  let r ← choice [
    do
      let s ← status
      return .status s (← optionalRemark),
    mailboxData,
    do let n ← number; word " EXPUNGE"; return .removed n,
    do
      let n ← number
      word " FETCH "
      return .fetched n (← listOf1 detail),
    do return .capabilities (← abilities),
    do return .capabilities (← after "ENABLED" (many (spaced ability))),
    do annotations; return .other,
    do vanished; return .other,
    do quota; return .other,
    do quotaRoot; return .other]
  lineEnd
  return r

/-- Reads a response. -/
def response : Reader Response := choice [continuation, untagged, completion]

end Postroom.Wire
