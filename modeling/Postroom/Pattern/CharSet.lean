import Postroom.Text.CaseFold
import Postroom.Text.Ranges

/-!
# Sets of characters

Sets of code points as ascending ranges, with the operations that classes in patterns need.  Two
operations are basic, union and complement; the others are made from them.
-/

namespace Postroom.Pattern

open Text

/-- A set of characters, as ascending ranges of code points that neither meet nor touch. -/
abbrev CharSet := Ranges

namespace CharSet

/-- The largest code point. -/
def top : Nat := 0x10ffff

/-- Every character. -/
def everything : CharSet := [(0, top)]

/-- Joins to a range what meets or touches it, from ranges sorted by their first code point. -/
def joinTo (r : Nat × Nat) : Ranges → Ranges
  | [] => [r]
  | s :: rest => if s.1 ≤ r.2 + 1 then joinTo (r.1, max r.2 s.2) rest else r :: joinTo s rest

/-- Joins neighbours that meet or touch, in ranges sorted by their first code point. -/
def join : Ranges → Ranges
  | [] => []
  | r :: rest => joinTo r rest

/-- Puts a range in its place among ranges sorted by their first code point. -/
def place (r : Nat × Nat) : Ranges → Ranges
  | [] => [r]
  | s :: rest => if r.1 ≤ s.1 then r :: s :: rest else s :: place r rest

/-- Ranges sorted by their first code point.  Those that are in order already are sorted in one go
through them, since they are put in their places from the last to the first. -/
def sort (rs : Ranges) : Ranges := rs.foldr place []

/-- The set of the code points of any ranges; there are none from a code point down to another. -/
def ofRanges (rs : Ranges) : CharSet := join (sort (rs.filter fun r => r.1 ≤ r.2))

/-- The set of one character. -/
def single (c : Char) : CharSet := [(c.toNat, c.toNat)]

/-- The code points from `next` on that are in none of the ranges. -/
def gaps (next : Nat) : Ranges → Ranges
  | [] => if next ≤ top then [(next, top)] else []
  | (lo, hi) :: rest =>
    if next < lo then (next, lo - 1) :: gaps (hi + 1) rest else gaps (hi + 1) rest

/-- The characters not in a set. -/
def compl (a : CharSet) : CharSet := gaps 0 a

/-- The characters in either set. -/
def union (a b : CharSet) : CharSet := ofRanges (a ++ b)

/-- The characters in both sets. -/
def inter (a b : CharSet) : CharSet := compl (union (compl a) (compl b))

/-- The characters in the first set and not in the second. -/
def diff (a b : CharSet) : CharSet := inter a (compl b)

/-- The characters in one of the sets and not in the other. -/
def symmDiff (a b : CharSet) : CharSet := diff (union a b) (inter a b)

/-- Whether the set holds ASCII characters only. -/
def isAscii (a : CharSet) : Bool := List.all a (·.2 < 0x80)

/-- The points of a range that lie `step` apart from `first`, moved by `image - first`. -/
def imagePoints (first step image : Nat) (lo hi : Nat) : Ranges :=
  if step = 1 then if lo ≤ hi then [(image + (lo - first), image + (hi - first))] else []
  else (List.range (hi + 1 - lo)).filterMap fun k =>
    if (lo + k - first) % step = 0 then some (image + (lo + k - first), image + (lo + k - first))
    else none

/-- The letters that differ in case only from letters of a range. -/
def alikesOfRange (r : Nat × Nat) : Ranges :=
  let fromPairs := CaseFold.pairs.flatMap fun (first, last, step, image) =>
    imagePoints first step image (max r.1 first) (min r.2 last)
      ++ imagePoints image step first (max r.1 image) (min r.2 (image + (last - first)))
  let fromClasses := CaseFold.classes.flatMap fun c =>
    if c.any fun n => r.1 ≤ n && n ≤ r.2 then c.map fun n => (n, n) else []
  fromPairs ++ fromClasses

/-- A set with all the letters that differ in case only from one of its members. -/
def foldCase (a : CharSet) : CharSet := ofRanges (a ++ a.flatMap alikesOfRange)

/-- A set with the ASCII letters that differ in case only from one of its members. -/
def foldAsciiCase (a : CharSet) : CharSet :=
  ofRanges (a ++ a.flatMap fun r =>
    imagePoints 65 1 97 (max r.1 65) (min r.2 90) ++ imagePoints 97 1 65 (max r.1 97) (min r.2 122))

end CharSet

end Postroom.Pattern
