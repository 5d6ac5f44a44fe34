import Postroom.Pattern.Expr

/-!
# The size of a regular expression

A pattern that would need too much room is refused.  The room is that of a machine with one state
for every step, which reads bytes: a set of ASCII characters is one step, and any other set is a
tree of byte ranges, one branch for each way its characters are encoded.  A state takes 32 bytes, a
branch inside a state 8, a choice between states 4.  The machine is needed twice: once with the
places of groups marked, and once for reading backwards, where they are not.
-/

namespace Postroom.Pattern

/-- The room a pattern may take. -/
def sizeLimit : Nat := 10 * 1024 * 1024

namespace Weight

/-- The bytes of a code point that takes `size` bytes. -/
def encoding (size n : Nat) : List Nat :=
  match size with
  | 1 => [n]
  | 2 => [0xc0 + n / 64, 0x80 + n % 64]
  | 3 => [0xe0 + n / 4096, 0x80 + n / 64 % 64, 0x80 + n % 64]
  | _ => [0xf0 + n / 262144, 0x80 + n / 4096 % 64, 0x80 + n / 64 % 64, 0x80 + n % 64]

/-- Splits a range of code points of one size so that each part is a product of byte ranges:
`unit` is the number of code points that share the bytes before the one looked at. -/
def products (size : Nat) : Nat → Nat → Nat → List (Nat × Nat)
  | 0, lo, hi => [(lo, hi)]
  | level + 1, lo, hi =>
    let unit := 64 ^ (level + 1)
    if lo / unit = hi / unit then products size level lo hi
    else
      let first :=
        if lo % unit = 0 then [] else products size level lo (lo / unit * unit + unit - 1)
      let start := if lo % unit = 0 then lo else lo / unit * unit + unit
      let last := if hi % unit = unit - 1 then [] else products size level (hi / unit * unit) hi
      let stop := if hi % unit = unit - 1 then hi + 1 else hi / unit * unit
      first ++ (if start < stop then [(start, stop - 1)] else []) ++ last

/-- The sizes of encodings, with the code points that have them; surrogates have none. -/
def sizes : List (Nat × Nat × Nat) :=
  [(1, 0, 0x7f), (2, 0x80, 0x7ff), (3, 0x800, 0xd7ff), (3, 0xe000, 0xffff), (4, 0x10000, 0x10ffff)]

/-- The products of byte ranges that encode a range of code points. -/
def sequences (r : Nat × Nat) : List (List (Nat × Nat)) :=
  sizes.flatMap fun (size, first, last) =>
    let lo := max r.1 first
    let hi := min r.2 last
    if lo ≤ hi then
      (products size (size - 1) lo hi).map fun (a, b) => (encoding size a).zip (encoding size b)
    else []

/-- How many items two lists share at the front. -/
def shared : List (Nat × Nat) → List (Nat × Nat) → Nat
  | a :: as, b :: bs => if a = b then shared as bs + 1 else 0
  | _, _ => 0

/-- The number of byte ranges in a tree of sequences, each begun after `previous`. -/
def branches (previous : List (Nat × Nat)) : List (List (Nat × Nat)) → Nat
  | [] => 0
  | s :: rest => s.length - shared previous s + branches s rest

/-- The room of a set of characters. -/
def ofSet (set : CharSet) : Nat :=
  if set.isAscii then
    if set.isEmpty then 32 else 64 + 8 * set.length
  else
    let sequences := set.flatMap sequences
    64 + 4 * sequences.length + 32 * branches [] sequences

/-- The room of an expression whose sets have the given room; `marked` if groups are marked. -/
def ofExpr (marked : Bool) : Expr Nat Look → Nat
  | .empty => 32
  | .take room => room
  | .look _ => 32
  | .cat l r => ofExpr marked l + ofExpr marked r
  | .alt l r => ofExpr marked l + ofExpr marked r + 72
  | .rep sub least most =>
    let each := ofExpr marked sub
    match most with
    | none => max least 1 * each + 40
    | some most => most * each + (most - least) * 40 + 32
  | .capture sub => ofExpr marked sub + if marked then 64 else 0

end Weight

/-- Whether an expression needs more room than a pattern may take. -/
def Regular.isTooLarge (e : Regular) : Bool :=
  let weighed := e.map Weight.ofSet id
  sizeLimit < Weight.ofExpr true weighed || sizeLimit < Weight.ofExpr false weighed

end Postroom.Pattern
