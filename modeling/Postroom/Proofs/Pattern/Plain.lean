import Mathlib.Data.List.Forall2
import Postroom.Proofs.Pattern.Letters
import Postroom.Proofs.Pattern.Reading

/-! # Patterns that are plain text

A pattern without operators is read character by character (`branches_plain`), and comes to the
expression that takes its letters one after the other in any case (`compile_plain`), unless it is
too long for an expression.  Searching carries the place before a piece of the text along that
expression. If the piece is alike, character by character, it is carried to the place behind the
piece (`testBit_carry_plain`), so the pattern matches wherever a piece alike occurs
(`matches_plain`).
-/

namespace Postroom.Pattern

open Text

/-- The pattern of a character that stands for itself. -/
def Tree.ofChar (c : Char) : Tree := .literal ⟨c, false⟩

/-- The expression of a character that stands for itself. -/
def Regular.ofChar (c : Char) : Regular := .take (CharSet.foldCase (CharSet.single c))

/-! ### Reading -/

namespace Reader

variable {text : List Char}

theorem branches_literal {fuel : Nat} {inGroup : Bool} {done parts : List Tree} {c : Char}
    {rest : List Char} (hc : c ∉ operators) :
    branches (fuel + 1) inGroup done parts (.at (c :: rest)) =
      branches fuel inGroup done (Tree.ofChar c :: parts) (.at rest) := by
  have hmark : c ∉ marks := fun hmem => hc (marks_subset hmem)
  have hwild : c ∉ wildcards := fun hmem => hc (wildcards_subset hmem)
  have hslash : c ≠ '\\' := by
    rintro rfl
    exact hc (by decide)
  rw [branches_atom hmark, run_bind_of_ok (atom_eq hslash), atomOf_eq hwild]
  rfl

theorem branches_plain {fuel : Nat} {done parts : List Tree} (h : ∀ c ∈ text, c ∉ operators)
    (hfuel : text.length < fuel) :
    branches fuel false done parts (.at text) =
      .ok (Tree.ofBranches (Tree.ofParts (parts.reverse ++ text.map Tree.ofChar) :: done).reverse,
        .at []) := by
  induction text generalizing fuel parts with
  | nil =>
    obtain ⟨fuel, rfl⟩ := Nat.exists_eq_add_one_of_ne_zero (Nat.ne_of_gt hfuel)
    rw [branches_nil, List.map_nil, List.append_nil]
  | cons c rest ih =>
    obtain ⟨fuel, rfl⟩ := Nat.exists_eq_add_one_of_ne_zero (Nat.ne_of_gt (Nat.zero_lt_of_lt hfuel))
    obtain ⟨hc, hrest⟩ := List.forall_mem_cons.mp h
    have hparts : (Tree.ofChar c :: parts).reverse ++ rest.map Tree.ofChar =
        parts.reverse ++ (c :: rest).map Tree.ofChar := by
      rw [List.reverse_cons, List.append_assoc, List.singleton_append, List.map_cons]
    rw [branches_literal hc, ih hrest (Nat.lt_of_succ_lt_succ hfuel), hparts]

end Reader

theorem depth_ofParts : (text : List Char) → (Tree.ofParts (text.map Tree.ofChar)).depth ≤ 1
  | [] | [_] => Nat.zero_le 1
  | c :: d :: rest => by
    have hlist : ∀ text : List Char, Tree.depthList (text.map Tree.ofChar) = 0 := by
      intro text
      induction text with
      | nil => rfl
      | cons c rest ih =>
        rw [List.map_cons, Tree.depthList, ih]
        rfl
    exact Nat.le_of_eq (congrArg Nat.succ (hlist (c :: d :: rest)))

variable {text : List Char}

theorem read_plain (h : ∀ c ∈ text, c ∉ operators) :
    Tree.read text = .ok (Tree.ofParts (text.map Tree.ofChar)) := by
  have hread : Reader.branches (text.length + 1) false [] [] (.at text) =
      .ok (Tree.ofParts (text.map Tree.ofChar), .at []) :=
    Reader.branches_plain h (Nat.lt_succ_self text.length)
  have hdepth : (Tree.ofParts (text.map Tree.ofChar)).depth ≤ nestLimit :=
    Nat.le_trans (depth_ofParts text) (by decide)
  have hbind : Tree.read text =
      (Reader.branches (text.length + 1) false [] [] (.at text)).bind fun x =>
        if x.1.depth ≤ nestLimit then .ok x.1 else .error (.nestedTooDeep nestLimit) := rfl
  rw [hbind, hread]
  exact if_pos hdepth

theorem ofTrees_ofChar (text : List Char) :
    Regular.ofTrees Modes.initial (text.map Tree.ofChar) =
      .ok (text.map Regular.ofChar, Modes.initial) := by
  induction text with
  | nil => rfl
  | cons c rest ih =>
    have hc : Regular.ofTree Modes.initial (Tree.ofChar c) =
        .ok (Regular.ofChar c, Modes.initial) := rfl
    rw [List.map_cons, Regular.ofTrees, hc]
    simp only [bind, Except.bind, ih]
    rfl

theorem ofTree_ofParts : (text : List Char) →
    Regular.ofTree Modes.initial (Tree.ofParts (text.map Tree.ofChar)) =
      .ok (Expr.cats (text.map Regular.ofChar), Modes.initial)
  | [] | [_] => rfl
  | c :: d :: rest => by
    have hparts : Tree.ofParts ((c :: d :: rest).map Tree.ofChar) =
        .cat ((c :: d :: rest).map Tree.ofChar) := rfl
    rw [hparts, Regular.ofTree, ofTrees_ofChar]
    rfl

/-- A plain text comes to the expression of its characters, or is too long. -/
theorem compile_plain (h : ∀ c ∈ text, c ∉ operators) :
    compile text = .ok (Expr.cats (text.map Regular.ofChar)) ∨
      compile text = .error (.tooLarge sizeLimit) := by
  have hbind : compile text = (Tree.read text).bind fun tree =>
      (Regular.ofTree Modes.initial tree).bind fun x =>
        if x.1.isTooLarge then .error (.tooLarge sizeLimit) else .ok x.1 := rfl
  rw [hbind, read_plain h, Except.bind, ofTree_ofParts, Except.bind]
  split
  · exact Or.inr rfl
  · exact Or.inl rfl

/-! ### Searching -/

namespace Places

/-- A place is in a set if its truth value is. -/
theorem testBit_ofList (front : List Bool) (b : Bool) (back : List Bool) :
    (ofList (front ++ b :: back)).testBit front.length = b := by
  induction front with
  | nil =>
    rw [List.nil_append, ofList, List.length_nil, Nat.testBit_zero, Nat.add_mul_mod_self_left]
    cases b <;> rfl
  | cons a front ih =>
    have hhalf : ∀ n : Nat, ((if a then 1 else 0) + 2 * n) / 2 = n := by
      intro n
      split <;> omega
    rw [List.cons_append, ofList, List.length_cons, Nat.testBit_succ, hhalf, ih]

theorem testBit_before (front : List Char) (d : Char) (back : List Char) (set : CharSet) :
    (before (front ++ d :: back) set).testBit front.length = set.has d.toNat := by
  have h := testBit_ofList (front.map fun c => set.has c.toNat) (set.has d.toNat)
    (back.map fun c => set.has c.toNat)
  rw [List.length_map] at h
  rw [before, List.map_append, List.map_cons]
  exact h

theorem testBit_all {n i : Nat} (h : i ≤ n) : (all n).testBit i = true := by
  have hpow : all n = 2 ^ (n + 1) - 1 := rfl
  rw [hpow, Nat.testBit_two_pow_sub_one]
  exact decide_eq_true (Nat.lt_succ_of_le h)

end Places

namespace Expr

/-- The first of some expressions in sequence carries the places to the others. -/
theorem carry_cats_cons (n : Nat) (e : Expr Places Places) (rest : List (Expr Places Places))
    (s : Places) : (cats (e :: rest)).carry n s = (cats rest).carry n (e.carry n s) := by
  cases rest with
  | nil => rfl
  | cons e' rest => rfl

theorem map_cats {α β γ δ : Type} (f : α → γ) (g : β → δ) :
    (es : List (Expr α β)) → (cats es).map f g = cats (es.map fun e => e.map f g)
  | [] | [_] => rfl
  | e :: e' :: rest => congrArg (cat (e.map f g)) (map_cats f g (e' :: rest))

end Expr

/-- The characters of a pattern carry the place before a piece of the text that is alike to the
place behind it.  By induction on the piece. -/
theorem testBit_carry_plain {chars piece : List Char}
    (h : List.Forall₂ (fun c d => CaseFold.Alike c.toNat d.toNat) chars piece)
    {text front back : List Char} (htext : text = front ++ piece ++ back) {s : Places}
    (hs : s.testBit front.length = true) (n : Nat) :
    ((Expr.cats ((chars.map Regular.ofChar).map fun e =>
      e.map (Places.before text) (Places.holding text))).carry n s).testBit
        (front ++ piece).length = true := by
  induction h generalizing front s with
  | nil =>
    rw [List.append_nil]
    exact hs
  | @cons c d chars piece hc hchars ih =>
    -- one step takes the first character of the piece to what stands before it
    have hnext : front ++ d :: piece = front ++ [d] ++ piece := by
      rw [List.append_assoc, List.singleton_append]
    rw [List.map_cons, List.map_cons, Expr.carry_cats_cons, hnext]
    refine ih (by rw [htext, hnext]) ?_
    have hmask : (Places.before text (CharSet.foldCase (CharSet.single c))).testBit front.length =
        true := by
      rw [htext, List.append_assoc, List.cons_append, Places.testBit_before]
      exact CharSet.has_foldCase_single.mpr hc
    have hstep : (((Regular.ofChar c).map (Places.before text) (Places.holding text)).carry n s) =
      (s &&& Places.before text (CharSet.foldCase (CharSet.single c))) <<< 1 := rfl
    rw [hstep, List.length_append, List.length_singleton, Nat.testBit_shiftLeft]
    simp [hs, hmask]

/-- **A plain text matches wherever a text alike occurs.** -/
theorem matches_plain {chars piece : List Char}
    (h : List.Forall₂ (fun c d => CaseFold.Alike c.toNat d.toNat) chars piece)
    (front back : List Char) :
    Regular.matches (Expr.cats (chars.map Regular.ofChar)) (front ++ piece ++ back) = true := by
  have hlength : front.length ≤ (front ++ piece ++ back).length := by
    rw [List.append_assoc, List.length_append]
    exact Nat.le_add_right _ _
  have hbit := @testBit_carry_plain _ _ h (front ++ piece ++ back) front back rfl _
    (Places.testBit_all hlength) (front ++ piece ++ back).length
  unfold Regular.matches
  rw [Expr.map_cats]
  refine decide_eq_true fun hzero => ?_
  rw [hzero, Nat.zero_testBit] at hbit
  cases hbit

end Postroom.Pattern
