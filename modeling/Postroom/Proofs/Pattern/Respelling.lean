import Mathlib.Data.List.Forall2
import Postroom.Proofs.Pattern.Alike
import Postroom.Proofs.Pattern.Reading

/-! # Patterns in another spelling

Two texts are `Respelt` if they have the same operators and the same escapes, and elsewhere
letters that differ in case only.  An operator has no other case, so at every place reading finds
the same operator in both or none.  By induction on the fuel of the reader it does the same with
both (`readsAlike`): it meets the same fault, or reads patterns that are alike and leaves rests
that are respelt where a group ends.

Two texts are `ReadAlike` if both are read as patterns that are alike, or neither can be read.
What is respelt is read alike (`readAlike_of_respelt`), and what is read alike comes to the same
expression (`toOption_compile_eq`).
-/

namespace Postroom.Pattern

open Text

/-! ### Texts -/

theorem alikes_operator : (operators.all fun c => (CaseFold.alikes c.toNat).isEmpty) = true := by
  decide +kernel

/-- An operator has no other case. -/
theorem eq_of_alike_operator {c d : Char} (hc : c ∈ operators)
    (h : CaseFold.Alike c.toNat d.toNat) : d = c := by
  rcases CaseFold.alike_iff.mp h with heq | hmem
  · exact Char.toNat_inj.mp heq
  · have hempty := List.all_eq_true.mp alikes_operator c hc
    rw [List.isEmpty_iff.mp hempty] at hmem
    cases hmem

/-- Two patterns with the same operators and escapes, and with letters of either case elsewhere.
There are no classes in them and no counts, and of groups with a question mark only those with a
colon. -/
inductive Respelt : List Char → List Char → Prop
  | nil : Respelt [] []
  | backslash : Respelt ['\\'] ['\\']
  | escape {c : Char} {rest rest' : List Char} (hc : Reader.isHarmless c = true)
      (h : Respelt rest rest') : Respelt ('\\' :: c :: rest) ('\\' :: c :: rest')
  | mute {rest rest' : List Char} (h : Respelt rest rest') :
      Respelt ('(' :: '?' :: ':' :: rest) ('(' :: '?' :: ':' :: rest')
  | char {c c' : Char} {rest rest' : List Char} (hc : c ∉ ['\\', '[', '{'])
      (hopen : c = '(' → rest.head? ≠ some '?') (halike : CaseFold.Alike c.toNat c'.toNat)
      (h : Respelt rest rest') : Respelt (c :: rest) (c' :: rest')

namespace Respelt

variable {text text' : List Char}

/-- If one begins with an operator, so does the other. -/
theorem head_eq (h : Respelt text text') {c : Char} (hc : c ∈ operators) :
    text.head? = some c ↔ text'.head? = some c := by
  cases h with
  | nil | backslash | escape | mute => rfl
  | char hplain hopen halike h =>
    simp only [List.head?_cons, Option.some.injEq]
    constructor
    · rintro rfl
      exact eq_of_alike_operator hc halike
    · rintro rfl
      exact eq_of_alike_operator hc (CaseFold.alike_symm halike)

theorem head_ne_brace (h : Respelt text text') : text.head? ≠ some '{' := by
  intro heq
  cases h with
  | nil | backslash | escape | mute => cases heq
  | char hc hopen halike h =>
    rw [Option.some.inj heq] at hc
    exact hc (by decide)

/-- What stands behind a question mark. -/
theorem drop_one (h : Respelt text text') (hhead : text.head? = some '?') :
    Respelt (text.drop 1) (text'.drop 1) := by
  cases h with
  | nil | backslash | escape | mute => cases hhead
  | char hc hopen halike h => exact h

theorem length_eq (h : Respelt text text') : text.length = text'.length := by
  induction h with
  | nil | backslash => rfl
  | escape hc h ih | mute h ih | char hc hopen halike h ih => simp only [List.length_cons, ih]

end Respelt

/-! ### Trees -/

/-- Patterns that are alike and leave the modes as they were at the beginning. -/
structure Tree.Twins (t t' : Tree) : Prop where
  /-- The patterns are alike. -/
  alike : Tree.Alike Modes.initial t t'
  /-- The modes are left as they are. -/
  after : t.after Modes.initial = Modes.initial

namespace Tree.Twins

variable {t t' : Tree} {ts ts' : List Tree}

theorem alikeList (h : List.Forall₂ Twins ts ts') :
    Tree.AlikeList Modes.initial ts ts' ∧ Tree.afterAll Modes.initial ts = Modes.initial := by
  induction h with
  | nil => exact ⟨.nil _, rfl⟩
  | cons h hrest ih =>
    refine ⟨.cons h.alike ?_, ?_⟩
    · rw [h.after]
      exact ih.1
    · rw [Tree.afterAll, h.after]
      exact ih.2

theorem ofParts (h : List.Forall₂ Twins ts ts') : Twins (Tree.ofParts ts) (Tree.ofParts ts') := by
  cases h with
  | nil => exact ⟨.same _ _, rfl⟩
  | cons h hrest =>
    cases hrest with
    | nil => exact h
    | cons h' hrest =>
      have hlist := alikeList (.cons h (.cons h' hrest))
      exact ⟨.cat hlist.1, hlist.2⟩

theorem ofBranches (h : List.Forall₂ Twins ts ts') :
    Twins (Tree.ofBranches ts) (Tree.ofBranches ts') := by
  cases h with
  | nil => exact ⟨.same _ _, rfl⟩
  | cons h hrest =>
    cases hrest with
    | nil => exact h
    | cons h' hrest =>
      have hlist := alikeList (.cons h (.cons h' hrest))
      exact ⟨.alt hlist.1, hlist.2⟩

/-- The patterns read where these alternatives and these parts have been read. -/
theorem close {done done' parts parts' : List Tree} (hdone : List.Forall₂ Twins done done')
    (hparts : List.Forall₂ Twins parts parts') :
    Twins (Tree.ofBranches (Tree.ofParts parts.reverse :: done).reverse)
      (Tree.ofBranches (Tree.ofParts parts'.reverse :: done').reverse) :=
  ofBranches (List.forall₂_reverse_iff.mpr
    (.cons (ofParts (List.forall₂_reverse_iff.mpr hparts)) hdone))

theorem rep (h : Twins t t') (least : Nat) (most : Option Nat) :
    Twins (.rep t least most) (.rep t' least most) :=
  ⟨.rep least most h.alike, h.after⟩

theorem group (h : Twins t t') (captures : Bool) :
    Twins (.group captures ⟨[], []⟩ t) (.group captures ⟨[], []⟩ t') :=
  ⟨.group captures _ h.alike, rfl⟩

theorem atom (a : Reader.Atom) : Twins a.tree a.tree := by
  refine ⟨.same _ _, ?_⟩
  cases a <;> rfl

theorem literal {c c' : Char} (h : CaseFold.Alike c.toNat c'.toNat) :
    Twins (.literal ⟨c, false⟩) (.literal ⟨c', false⟩) :=
  ⟨.literal Modes.ignoresCase_initial ⟨h, rfl⟩, rfl⟩

end Tree.Twins

/-! ### Reading -/

/-- Two results are the same fault, or two values that go together. -/
def Together {α : Type} (r : α → α → Prop) : Except Cause α → Except Cause α → Prop
  | .ok a, .ok b => r a b
  | .error cause, .error cause' => cause = cause'
  | _, _ => False

theorem Together.bind {α β : Type} {r : α → α → Prop} {r' : β → β → Prop} {x y : Except Cause α}
    {f g : α → Except Cause β} (h : Together r x y)
    (hf : ∀ a b, r a b → Together r' (f a) (g b)) : Together r' (x.bind f) (y.bind g) := by
  cases x with
  | error cause =>
    cases y with
    | error cause' => exact h
    | ok b => exact h.elim
  | ok a =>
    cases y with
    | error cause' => exact h.elim
    | ok b => exact hf a b h

namespace Reader

/-- What is left of two patterns where a group ends, or the whole. -/
def Ends (s s' : Cursor) : Prop :=
  s = .at [] ∧ s' = .at [] ∨
    ∃ rest rest', s = .at (')' :: rest) ∧ s' = .at (')' :: rest') ∧ Respelt rest rest'

/-- Two patterns are read as twins, or with the same fault, whatever twins have been read before. -/
def ReadsAlike (fuel : Nat) (text text' : List Char) : Prop :=
  ∀ inGroup done done' parts parts', List.Forall₂ Tree.Twins done done' →
    List.Forall₂ Tree.Twins parts parts' →
    Together (fun x y => x.1.Twins y.1 ∧ Ends x.2 y.2)
      (branches fuel inGroup done parts (.at text)) (branches fuel inGroup done' parts' (.at text'))

variable {fuel : Nat} {rest rest' behind behind' : List Char}

/-- A group is read alike if what stands in it and what stands behind it are. -/
theorem readsAlike_group {captures : Bool}
    (h : opening (.at ('(' :: rest)) = .ok (.group captures ⟨[], []⟩, .at behind))
    (h' : opening (.at ('(' :: rest')) = .ok (.group captures ⟨[], []⟩, .at behind'))
    (hbehind : Respelt behind behind')
    (ih : ∀ text text', Respelt text text' → ReadsAlike fuel text text') :
    ReadsAlike (fuel + 1) ('(' :: rest) ('(' :: rest') := by
  intro inGroup done done' parts parts' hdone hparts
  rw [branches_group h, branches_group h', run_bind, run_bind]
  -- what stands in the group is read alike, and then it ends in both patterns or in neither
  refine (ih _ _ hbehind true [] [] [] [] .nil .nil).bind ?_
  rintro ⟨sub, s⟩ ⟨sub', s'⟩ ⟨hsub, ⟨rfl, rfl⟩ | ⟨later, later', rfl, rfl, hlater⟩⟩
  · exact rfl
  · exact ih _ _ hlater inGroup _ _ _ _ hdone (.cons (hsub.group captures) hparts)

theorem readsAlike_repeat {c : Char} (hc : c ∈ ['?', '*', '+']) (h : Respelt rest rest')
    (ih : ∀ text text', Respelt text text' → ReadsAlike fuel text text') :
    ReadsAlike (fuel + 1) (c :: rest) (c :: rest') := by
  intro inGroup done done' parts parts' hdone hparts
  rw [branches_repeat hc, branches_repeat hc, run_bind, run_bind]
  cases hparts with
  | nil =>
    rw [repetition_of_unrepeatable [] rfl]
    exact rfl
  | @cons last last' before before' hlast hbefore =>
    have heq := hlast.alike.isUnrepeatable_eq
    cases hlast' : last'.isUnrepeatable with
    | true =>
      rw [hlast'] at heq
      rw [repetition_of_unrepeatable (last :: before) heq,
        repetition_of_unrepeatable (last' :: before') hlast']
      exact rfl
    | false =>
      rw [hlast'] at heq
      rw [repetition_eq hc heq, repetition_eq hc hlast']
      have hparts := List.Forall₂.cons (hlast.rep (leastOf c) (mostOf c)) hbefore
      -- the question mark that may follow is an operator too, so both have it or neither does
      have hmark : rest.head? = some '?' ↔ rest'.head? = some '?' := h.head_eq (by decide)
      by_cases hgreed : rest.head? = some '?'
      · rw [if_pos hgreed, if_pos (hmark.mp hgreed)]
        exact ih _ _ (h.drop_one hgreed) inGroup _ _ _ _ hdone hparts
      · rw [if_neg hgreed, if_neg fun hgreed' => hgreed (hmark.mpr hgreed')]
        exact ih _ _ h inGroup _ _ _ _ hdone hparts

theorem readsAlike_atom {c c' : Char} {x x' : Except Cause Atom} (hc : c ∉ marks) (hc' : c' ∉ marks)
    (hx : atom c (.at (c :: rest)) = x.map fun a => (a, .at behind))
    (hx' : atom c' (.at (c' :: rest')) = x'.map fun a => (a, .at behind'))
    (htwins : Together (fun a a' => a.tree.Twins a'.tree) x x')
    (ih : ReadsAlike fuel behind behind') : ReadsAlike (fuel + 1) (c :: rest) (c' :: rest') := by
  intro inGroup done done' parts parts' hdone hparts
  rw [branches_atom hc, branches_atom hc', run_bind, run_bind, hx, hx']
  cases x with
  | error cause =>
    cases x' with
    | error cause' => exact htwins
    | ok a' => exact htwins.elim
  | ok a =>
    cases x' with
    | error cause' => exact htwins.elim
    | ok a' => exact ih inGroup _ _ _ _ hdone (.cons htwins hparts)

/-- A character that is an element by itself is read like its other case. -/
theorem readsAlike_single {c c' : Char} (hc : c ∉ marks) (hslash : c ≠ '\\')
    (halike : CaseFold.Alike c.toNat c'.toNat) (ih : ReadsAlike fuel rest rest') :
    ReadsAlike (fuel + 1) (c :: rest) (c' :: rest') := by
  -- were the other one an operator, they would be the same
  have hback : c' ∈ operators → c = c' :=
    fun hmem => eq_of_alike_operator hmem (CaseFold.alike_symm halike)
  have hc' : c' ∉ marks := by
    intro hmem
    rw [← hback (marks_subset hmem)] at hmem
    exact hc hmem
  have hslash' : c' ≠ '\\' := by
    rintro rfl
    exact hslash (hback (by decide))
  have hx : atom c (.at (c :: rest)) = (Except.ok (atomOf c)).map fun a => (a, .at rest) :=
    atom_eq hslash
  have hx' : atom c' (.at (c' :: rest')) = (Except.ok (atomOf c')).map fun a => (a, .at rest') :=
    atom_eq hslash'
  refine readsAlike_atom hc hc' hx hx' ?_ ih
  by_cases hwild : c ∈ wildcards
  · rw [eq_of_alike_operator (wildcards_subset hwild) halike]
    exact Tree.Twins.atom _
  · have hwild' : c' ∉ wildcards := by
      intro hmem
      rw [← hback (wildcards_subset hmem)] at hmem
      exact hwild hmem
    rw [atomOf_eq hwild, atomOf_eq hwild']
    exact Tree.Twins.literal halike

/-- What begins with anything but an escape, a class, a count or a group of another kind. -/
theorem readsAlike_char {c c' : Char} (hc : c ∉ ['\\', '[', '{'])
    (hopen : c = '(' → rest.head? ≠ some '?') (halike : CaseFold.Alike c.toNat c'.toNat)
    (h : Respelt rest rest') (ih : ∀ text text', Respelt text text' → ReadsAlike fuel text text') :
    ReadsAlike (fuel + 1) (c :: rest) (c' :: rest') := by
  simp only [List.mem_cons, List.not_mem_nil, or_false, not_or] at hc
  by_cases hmark : c ∈ marks
  · obtain rfl := eq_of_alike_operator (marks_subset hmark) halike
    simp only [marks, List.mem_cons, List.not_mem_nil, or_false] at hmark
    rcases hmark with rfl | rfl | rfl | rfl | rfl | rfl | rfl | rfl
    · intro inGroup done done' parts parts' hdone hparts
      rw [branches_close, branches_close]
      cases inGroup with
      | false => exact rfl
      | true => exact ⟨Tree.Twins.close hdone hparts, Or.inr ⟨rest, rest', rfl, rfl, h⟩⟩
    · intro inGroup done done' parts parts' hdone hparts
      rw [branches_bar, branches_bar]
      exact ih _ _ h inGroup _ _ _ _
        (.cons (Tree.Twins.ofParts (List.forall₂_reverse_iff.mpr hparts)) hdone) .nil
    · have hopen' : rest'.head? ≠ some '?' := by
        rw [Ne, ← h.head_eq (by decide)]
        exact hopen rfl
      exact readsAlike_group (opening_plain (hopen rfl)) (opening_plain hopen') h ih
    · exact absurd rfl hc.2.1
    · exact readsAlike_repeat (by decide) h ih
    · exact readsAlike_repeat (by decide) h ih
    · exact readsAlike_repeat (by decide) h ih
    · exact absurd rfl hc.2.2
  · exact readsAlike_single hmark hc.1 halike (ih _ _ h)

/-- **Patterns that are respelt are read alike.**  By induction on the fuel. -/
theorem readsAlike (fuel : Nat) :
    ∀ text text', Respelt text text' → ReadsAlike fuel text text' := by
  induction fuel with
  | zero =>
    intro text text' h inGroup done done' parts parts' hdone hparts
    exact rfl
  | succ fuel ih =>
    intro text text' h
    cases h with
    | nil =>
      intro inGroup done done' parts parts' hdone hparts
      rw [branches_nil, branches_nil]
      exact ⟨Tree.Twins.close hdone hparts, Or.inl ⟨rfl, rfl⟩⟩
    | backslash =>
      intro inGroup done done' parts parts' hdone hparts
      exact rfl
    | @escape c rest rest' hc h =>
      have hbrace : rest'.head? ≠ some '{' := by
        rw [Ne, ← h.head_eq (by decide)]
        exact h.head_ne_brace
      obtain ⟨x, hx⟩ := exists_escape hc
      refine readsAlike_atom (by decide) (by decide) (hx rest h.head_ne_brace) (hx rest' hbrace) ?_
        (ih _ _ h)
      cases x with
      | error cause => exact rfl
      | ok a => exact Tree.Twins.atom a
    | mute h => exact readsAlike_group opening_mute opening_mute h ih
    | char hc hopen halike h => exact readsAlike_char hc hopen halike h ih

end Reader

/-! ### Expressions -/

/-- Two texts are read as patterns that are alike, or neither can be read. -/
def ReadAlike (p q : List Char) : Prop :=
  match Tree.read p, Tree.read q with
  | .ok t, .ok t' => Tree.Alike Modes.initial t t'
  | .error _, .error _ => True
  | _, _ => False

theorem readAlike_of_respelt {p q : List Char} (h : Respelt p q) : ReadAlike p q := by
  have hread : Together (Tree.Alike Modes.initial) (Tree.read p) (Tree.read q) := by
    unfold Tree.read
    rw [← h.length_eq]
    refine (Reader.readsAlike (p.length + 1) p q h false [] [] [] [] .nil .nil).bind ?_
    rintro ⟨t, s⟩ ⟨t', s'⟩ ⟨htwins, -⟩
    dsimp only
    rw [← htwins.alike.depth_eq]
    by_cases hdepth : t.depth ≤ nestLimit
    · rw [if_pos hdepth, if_pos hdepth]
      exact htwins.alike
    · rw [if_neg hdepth, if_neg hdepth]
      exact rfl
  unfold ReadAlike
  revert hread
  cases Tree.read p <;> cases Tree.read q
  · exact fun _ => trivial
  all_goals exact id

/-- Texts that are read alike come to the same expression, or neither to any. -/
theorem toOption_compile_eq {p q : List Char} (h : ReadAlike p q) :
    (compile p).toOption = (compile q).toOption := by
  unfold ReadAlike at h
  unfold compile
  cases hp : Tree.read p with
  | error cause =>
    cases hq : Tree.read q with
    | error cause' => rfl
    | ok t' =>
      rw [hp, hq] at h
      exact h.elim
  | ok t =>
    cases hq : Tree.read q with
    | error cause' =>
      rw [hp, hq] at h
      exact h.elim
    | ok t' =>
      rw [hp, hq] at h
      simp only [bind, Except.bind, Regular.ofTree_eq h]

end Postroom.Pattern
