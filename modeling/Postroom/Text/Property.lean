import Postroom.Text.Property.Age
import Postroom.Text.Property.Binary
import Postroom.Text.Property.Boundary
import Postroom.Text.Property.Category
import Postroom.Text.Property.Script
import Postroom.Text.Ranges

/-!
# Properties of characters

Looking up a property of the Unicode standard by any of its names.  Names are compared after
folding: letters in lower case, without blanks, hyphens and underscores, and without a leading
"is".
-/

namespace Postroom.Text.Property

/-- A name as names are compared. -/
def foldName (cs : List Char) : List Char :=
  let folded := fun cs : List Char =>
    (cs.filter fun c => !(c = ' ' || c = '_' || c = '-') && c.toNat < 0x80).map Char.toLower
  match cs with
  | 'i' :: 's' :: rest | 'I' :: 's' :: rest | 'i' :: 'S' :: rest | 'I' :: 'S' :: rest =>
    let name := folded rest
    if name = ['c'] then ['i', 's', 'c'] else name
  | cs => folded cs

/-- The value of a digit in base thirty-six. -/
def digit (c : Char) : Nat := if c ≤ '9' then c.toNat - 48 else c.toNat - 87

/-- The numbers written in a text, separated by blanks; `acc` is the number being read. -/
def numbers (acc : Nat) : List Char → List Nat
  | [] => [acc]
  | c :: rest => if c = ' ' then acc :: numbers 0 rest else numbers (acc * 36 + digit c) rest

/-- The ranges given by gaps and lengths in turn, after `next` code points. -/
def rangesFrom (next : Nat) : List Nat → Ranges
  | gap :: length :: rest =>
    (next + gap, next + gap + length - 1) :: rangesFrom (next + gap + length) rest
  | _ => []

/-- The ranges written in the lines of an entry. -/
def decode (lines : List String) : Ranges :=
  rangesFrom 0 (lines.flatMap fun line => numbers 0 line.toList)

/-- The ranges of the entry with a given folded name. -/
def find? (entries : List (List String × List String)) (name : String) : Option Ranges :=
  (entries.find? (·.1.contains name)).map (decode ·.2)

/-- The code points that the standard had in a given version, by folded name: each version keeps
those of the versions before it. -/
def age? (name : String) : Option (List Ranges) :=
  let earlier := ages.takeWhile fun entry => !entry.1.contains name
  if earlier.length < ages.length then
    some ((ages.take (earlier.length + 1)).map fun entry => decode entry.2)
  else none

/-- Whether a character is alphabetic. -/
def isAlphabetic (c : Char) : Bool := (find? binaries "alphabetic").any (·.has c.toNat)

/-- Whether a character is a number of any kind. -/
def isNumeric (c : Char) : Bool :=
  ["nd", "nl", "no"].any fun g => (find? categories g).any (·.has c.toNat)

/-- The names of the groups of general categories, each with the letters its members begin with. -/
def groups : List (List String × List String) := [
    (["c", "other"], ["cc", "cf", "cn", "co"]),
    (["l", "letter"], ["lu", "ll", "lt", "lm", "lo"]),
    (["lc", "casedletter"], ["lu", "ll", "lt"]),
    (["m", "mark", "combiningmark"], ["mn", "mc", "me"]),
    (["n", "number"], ["nd", "nl", "no"]),
    (["p", "punctuation", "punct"], ["pc", "pd", "ps", "pe", "pi", "pf", "po"]),
    (["s", "symbol"], ["sm", "sc", "sk", "so"]),
    (["z", "separator"], ["zs", "zl", "zp"])]

/-- The properties that have a name but no set of their own. -/
def valued : List String := [
    "age", "bc", "bidiclass", "blk", "block", "bmg", "bidimirroringglyph", "bpb",
    "bidipairedbracket", "bpt", "bidipairedbrackettype", "ccc", "canonicalcombiningclass", "ce",
    "compositionexclusion", "cf", "casefolding", "compex", "fullcompositionexclusion",
    "cjkaccountingnumeric", "cwkcf", "changeswhennfkccasefolded", "dm", "decompositionmapping",
    "dt", "decompositiontype", "ea", "eastasianwidth", "expandsonnfc", "expandsonnfd",
    "expandsonnfkc", "expandsonnfkd", "fcnfkc", "fcnfkcclosure", "gcb", "graphemeclusterbreak",
    "grlink", "graphemelink", "hst", "hangulsyllabletype", "inpc", "indicpositionalcategory",
    "insc", "indicsyllabiccategory", "isc", "isocomment", "jamoshortname", "jsn", "jg",
    "joininggroup", "jt", "joiningtype", "lb", "linebreak", "lc", "lowercasemapping", "na",
    "name", "na1", "unicode1name", "namealias", "nfcqc", "nfcquickcheck", "nfdqc",
    "nfdquickcheck", "nfkccf", "nfkccasefold", "nfkcqc", "nfkcquickcheck", "nfkdqc",
    "nfkdquickcheck", "nt", "numerictype", "nv", "numericvalue", "odi",
    "otherdefaultignorablecodepoint", "sb", "sentencebreak", "scf", "sfc", "simplecasefolding",
    "slc", "simplelowercasemapping", "stc", "simpletitlecasemapping", "suc",
    "simpleuppercasemapping", "tc", "titlecasemapping", "uc", "uppercasemapping", "vo",
    "verticalorientation", "wb", "wordbreak"]

/-- The names of the properties whose values are general categories, scripts, or scripts with
shared code points. -/
def categoryNames : List String := ["gc", "generalcategory"]

@[inherit_doc categoryNames]
def scriptNames : List String := ["sc", "script"]

@[inherit_doc categoryNames]
def sharedScriptNames : List String := ["scx", "scriptextensions"]

/-- The classes of the property with a given folded name, if it is one of those that find the
boundaries in a text. -/
def breaks? : String → Option (List (List String × List String))
  | "gcb" | "graphemeclusterbreak" => some clusterBreaks
  | "wb" | "wordbreak" => some wordBreaks
  | "sb" | "sentencebreak" => some sentenceBreaks
  | _ => none

end Postroom.Text.Property
