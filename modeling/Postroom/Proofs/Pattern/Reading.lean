import Postroom.Pattern

/-! # How the parts of a pattern are read

What reading does with the next character of a pattern, as equations, where nothing is passed over
between the characters: an element takes one character (`branches_atom`, `atom_eq`), or two if it
begins with a backslash (`exists_escape`), and the operators do what they say (`branches_bar`,
`branches_group`, `repetition_eq`).  Proofs about whole patterns use these equations and do not look
into the reader.
-/

namespace Postroom.Pattern

/-- Where reading stands in a pattern without names and without verbose mode. -/
def Cursor.at (rest : List Char) : Cursor := ⟨rest, false, []⟩

/-- Characters that stand for no element of their own. -/
def marks : List Char := [')', '|', '(', '[', '?', '*', '+', '{']

/-- Characters that stand for the start of the text, its end, or any character. -/
def wildcards : List Char := ['^', '$', '.']

/-- Characters that mean something in a pattern. -/
def operators : List Char := '\\' :: marks ++ wildcards

theorem marks_subset : marks ⊆ operators :=
  fun _ hc => List.mem_append_left _ (List.mem_cons_of_mem _ hc)

theorem wildcards_subset : wildcards ⊆ operators :=
  fun _ hc => List.mem_append_right _ hc

namespace Reader

variable {α β : Type} {fuel : Nat} {inGroup : Bool} {done parts : List Tree} {rest : List Char}

theorem run_bind (m : Reader α) (f : α → Reader β) (s : Cursor) :
    (m >>= f) s = (m s).bind fun x => f x.1 x.2 := rfl

theorem run_bind_of_ok {m : Reader α} {f : α → Reader β} {s t : Cursor} {a : α}
    (h : m s = .ok (a, t)) : (m >>= f) s = f a t := by
  rw [run_bind, h]
  rfl

theorem run_peek : peek (.at rest) = .ok (rest.head?, .at rest) := rfl

theorem run_bump : bump (.at rest) = .ok ((), .at (rest.drop 1)) := rfl

theorem run_space : space (.at rest) = .ok ((), .at rest) := rfl

theorem run_peekOr (c : Char) (cause : Cause) :
    peekOr cause (.at (c :: rest)) = .ok (c, .at (c :: rest)) := rfl

/-! ### Elements -/

/-- The element that a character is by itself. -/
def atomOf : Char → Atom
  | '.' => .dot
  | '^' => .assertion .lineStart
  | '$' => .assertion .lineEnd
  | c => .literal ⟨c, false⟩

theorem atomOf_eq {c : Char} (hc : c ∉ wildcards) : atomOf c = .literal ⟨c, false⟩ := by
  unfold atomOf
  split
  case h_4 => rfl
  all_goals exact absurd (by decide) hc

theorem atom_eq {c : Char} (hc : c ≠ '\\') :
    atom c (.at (c :: rest)) = .ok (atomOf c, .at rest) := by
  by_cases hmark : c ∈ wildcards
  · simp only [wildcards, List.mem_cons, List.not_mem_nil, or_false] at hmark
    rcases hmark with rfl | rfl | rfl
    all_goals rfl
  · rw [atomOf_eq hmark]
    unfold atom
    split
    case h_5 => rfl
    · exact absurd rfl hc
    all_goals exact absurd (by decide) hmark

/-- A character of ASCII that is no capital and, behind a backslash, takes no operands: it says the
same there whatever follows, a brace apart. -/
def isHarmless (c : Char) : Bool :=
  c.toNat < 0x80 && !('A' ≤ c && c ≤ 'Z') && !(['p', 'u', 'x'].contains c)

theorem boundaryEscape_eq (h : rest.head? ≠ some '{') :
    boundaryEscape (.at rest) = .ok (.boundary, .at rest) := by
  rw [boundaryEscape, run_bind_of_ok run_peek, if_pos h]
  rfl

theorem exists_plainEscape (c : Char) : ∃ x : Except Cause Atom,
    ∀ rest, rest.head? ≠ some '{' → plainEscape c (.at rest) = x.map fun a => (a, .at rest) := by
  unfold plainEscape
  by_cases h : isEscapable c = true
  · refine ⟨.ok (.literal ⟨c, false⟩), fun rest _ => ?_⟩
    rw [if_pos h]
    rfl
  · simp only [if_neg h]
    split
    case h_9 =>
      refine ⟨.ok (.assertion .boundary), fun rest hrest => ?_⟩
      rw [run_bind_of_ok (boundaryEscape_eq hrest)]
      rfl
    case h_13 => exact ⟨.error .escapeUnknown, fun rest _ => rfl⟩
    all_goals exact ⟨.ok _, fun rest _ => rfl⟩

/-- What is done behind a backslash with a character that takes no operands. -/
def shortEscape : Char → Reader Atom
  | 'd' => return .kind .digit false
  | 'D' => return .kind .digit true
  | 's' => return .kind .space false
  | 'S' => return .kind .space true
  | 'w' => return .kind .word false
  | 'W' => return .kind .word true
  | c => plainEscape c

/-- A backslash and a harmless character are an element, or the same fault, whatever follows. -/
theorem exists_escape {c : Char} (hc : isHarmless c = true) : ∃ x : Except Cause Atom,
    ∀ rest, rest.head? ≠ some '{' →
      escape (.at ('\\' :: c :: rest)) = x.map fun a => (a, .at rest) := by
  have hx : ¬(c = 'x' ∨ c = 'u' ∨ c = 'U') := by
    rintro (rfl | rfl | rfl)
    all_goals exact absurd hc (by decide)
  have hp : ¬(c = 'p' ∨ c = 'P') := by
    rintro (rfl | rfl)
    all_goals exact absurd hc (by decide)
  by_cases hdigit : c.isDigit = true
  · refine ⟨.error .backreference, fun rest _ => ?_⟩
    rw [escape, run_bind_of_ok run_bump, List.drop_one, List.tail_cons,
      run_bind_of_ok (run_peekOr c _), if_pos hdigit]
    rfl
  · have hstep : ∀ rest, escape (.at ('\\' :: c :: rest)) = shortEscape c (.at rest) := by
      intro rest
      rw [escape, run_bind_of_ok run_bump, List.drop_one, List.tail_cons,
        run_bind_of_ok (run_peekOr c _), if_neg hdigit, if_neg hx, if_neg hp,
        run_bind_of_ok run_bump]
      rfl
    simp only [hstep]
    unfold shortEscape
    split
    case h_7 => exact exists_plainEscape c
    all_goals exact ⟨.ok _, fun rest _ => rfl⟩

theorem branches_atom {c : Char} (hc : c ∉ marks) :
    branches (fuel + 1) inGroup done parts (.at (c :: rest)) =
      (atom c >>= fun a => branches fuel inGroup done (a.tree :: parts)) (.at (c :: rest)) := by
  rw [branches, run_bind_of_ok run_space, run_bind_of_ok run_peek]
  simp only [List.head?_cons]
  split
  case h_9 => rfl
  all_goals exact absurd (by decide) hc

/-! ### Operators -/

theorem branches_nil : branches (fuel + 1) inGroup done parts (.at []) =
    .ok (Tree.ofBranches (Tree.ofParts parts.reverse :: done).reverse, .at []) := rfl

theorem branches_close : branches (fuel + 1) inGroup done parts (.at (')' :: rest)) =
    if inGroup then
      .ok (Tree.ofBranches (Tree.ofParts parts.reverse :: done).reverse, .at (')' :: rest))
    else .error .groupUnopened := by
  cases inGroup <;> rfl

theorem branches_bar : branches (fuel + 1) inGroup done parts (.at ('|' :: rest)) =
    branches fuel inGroup (Tree.ofParts parts.reverse :: done) [] (.at rest) := rfl

theorem bumpText_of_not {text : List Char} (h : text.isPrefixOf rest = false) :
    bumpText text (.at rest) = .ok (false, .at rest) := by
  have hrest : (Cursor.at rest).rest = rest := rfl
  rw [bumpText, run_bind_of_ok rfl]
  simp only [hrest, h, Bool.false_eq_true, if_false]
  rfl

theorem opening_plain (h : rest.head? ≠ some '?') :
    opening (.at ('(' :: rest)) = .ok (.group true ⟨[], []⟩, .at rest) := by
  have hmark : ∀ more, bumpText ('?' :: more) (.at rest) = .ok (false, .at rest) := by
    intro more
    refine bumpText_of_not ?_
    cases rest with
    | nil => rfl
    | cons c rest =>
      have hc : ('?' == c) = false := beq_eq_false_iff_ne.mpr fun heq => h (congrArg some heq.symm)
      simp only [List.isPrefixOf, hc, Bool.false_and]
  rw [opening, run_bind_of_ok run_bump, List.drop_one, List.tail_cons, run_bind_of_ok run_space]
  simp only [run_bind_of_ok (hmark _), Bool.or_false, Bool.false_eq_true, if_false]
  rfl

theorem opening_mute :
    opening (.at ('(' :: '?' :: ':' :: rest)) = .ok (.group false ⟨[], []⟩, .at rest) := rfl

/-- A group that switches no modes is read like a pattern, and then what stands behind it. -/
theorem branches_group {captures : Bool} {behind : List Char}
    (h : opening (.at ('(' :: rest)) = .ok (.group captures ⟨[], []⟩, .at behind)) :
    branches (fuel + 1) inGroup done parts (.at ('(' :: rest)) =
      (branches fuel true [] [] >>= fun sub => do
        let _ ← peekOr .groupUnclosed
        modify fun s => { s with verbose := false }
        bump
        branches fuel inGroup done (.group captures ⟨[], []⟩ sub :: parts)) (.at behind) := by
  rw [branches, run_bind_of_ok run_space, run_bind_of_ok run_peek]
  simp only [List.head?_cons]
  rw [run_bind_of_ok h]
  rfl

theorem branches_repeat {c : Char} (hc : c ∈ ['?', '*', '+']) :
    branches (fuel + 1) inGroup done parts (.at (c :: rest)) =
      (repetition c parts >>= branches fuel inGroup done) (.at (c :: rest)) := by
  simp only [List.mem_cons, List.not_mem_nil, or_false] at hc
  rcases hc with rfl | rfl | rfl
  all_goals rfl

theorem repetition_of_unrepeatable {c : Char} {s : Cursor} (parts : List Tree)
    (h : parts.head?.all Tree.isUnrepeatable = true) :
    repetition c parts s = .error .repetitionOfNothing := by
  cases parts with
  | nil => rfl
  | cons last before =>
    have h : last.isUnrepeatable = true := h
    simp only [repetition, h, if_true]
    rfl

/-- The least number of rounds that a mark asks for. -/
def leastOf (c : Char) : Nat := if c = '+' then 1 else 0

/-- The greatest number of rounds that a mark allows. -/
def mostOf (c : Char) : Option Nat := if c = '?' then some 1 else none

theorem repetition_eq {c : Char} (hc : c ∈ ['?', '*', '+']) {last : Tree}
    (h : last.isUnrepeatable = false) :
    repetition c (last :: parts) (.at (c :: rest)) =
      .ok (.rep last (leastOf c) (mostOf c) :: parts,
        .at (if rest.head? = some '?' then rest.drop 1 else rest)) := by
  simp only [List.mem_cons, List.not_mem_nil, or_false] at hc
  by_cases hmark : rest.head? = some '?'
  · rcases hc with rfl | rfl | rfl
    all_goals
      simp only [repetition, h, Bool.false_eq_true, if_false]
      rw [if_neg (by decide), run_bind_of_ok run_bump, List.drop_one, List.tail_cons,
        run_bind_of_ok run_peek, if_pos hmark, if_pos hmark]
      rfl
  · rcases hc with rfl | rfl | rfl
    all_goals
      simp only [repetition, h, Bool.false_eq_true, if_false]
      rw [if_neg (by decide), run_bind_of_ok run_bump, List.drop_one, List.tail_cons,
        run_bind_of_ok run_peek, if_neg hmark, if_neg hmark]
      rfl

end Reader

end Postroom.Pattern
