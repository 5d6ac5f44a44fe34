import Postroom.Fault
import Postroom.Pattern
import Postroom.Proofs.Pattern.Letters

/-! # Patterns alike up to the case of letters

Two patterns are `Tree.Alike` if they have the same structure and differ, where case is ignored, in
nothing but the case of letters that stand for themselves or in a class, and in the spelling of
properties.  Where case counts they have to be the same, so what is alike depends on the modes in
force, which change inside a pattern (`Tree.after`).

Patterns that are alike come to the same expression (`ofTree_eq`), because a letter and its other
case come to the same set.
-/

namespace Postroom.Pattern

open Text

/-! ### Letters and classes -/

/-- The same letter in some case, written in the same way. -/
def Literal.SameLetter (l l' : Literal) : Prop :=
  CaseFold.Alike l.char.toNat l'.char.toNat ∧ l.byByte = l'.byByte

/-- A query with its names in the form in which they are looked up. -/
def PropertyQuery.folded : PropertyQuery → PropertyQuery
  | .named name => .named (Property.foldName name)
  | .valued name value => .valued (Property.foldName name) (Property.foldName value)

mutual

/-- Members of classes that are the same when case is ignored. -/
inductive Members.Alike : Members → Members → Prop
  | same (m : Members) : Alike m m
  | literal {l l' : Literal} (h : l.SameLetter l') : Alike (.literal l) (.literal l')
  | range {first last first' last' : Literal}
      (h : CharSet.foldCase [(first.char.toNat, last.char.toNat)] =
        CharSet.foldCase [(first'.char.toNat, last'.char.toNat)]) :
      Alike (.range first last) (.range first' last')
  | property {q q' : PropertyQuery} (negated : Bool) (h : q.folded = q'.folded) :
      Alike (.property q negated) (.property q' negated)
  | nested (negated : Bool) {inner inner' : Members} (h : Alike inner inner') :
      Alike (.nested negated inner) (.nested negated inner')
  | union {items items' : List Members} (h : AlikeList items items') :
      Alike (.union items) (.union items')
  | op (o : SetOp) {left left' right right' : Members} (hl : Alike left left')
      (hr : Alike right right') : Alike (.op o left right) (.op o left' right')

/-- Members in a row that are the same when case is ignored. -/
inductive Members.AlikeList : List Members → List Members → Prop
  | nil : AlikeList [] []
  | cons {m m' : Members} {rest rest' : List Members} (h : Alike m m')
      (hrest : AlikeList rest rest') : AlikeList (m :: rest) (m' :: rest')

end

/-! ### Patterns -/

/-- Letters match whatever their case, those beyond ASCII too. -/
def Modes.IgnoresCase (modes : Modes) : Prop := .ignoreCase ∈ modes ∧ .unicode ∈ modes

mutual

/-- The modes in force after a pattern. -/
def Tree.after (modes : Modes) : Tree → Modes
  | .modes change => modes.apply change
  | .rep sub _ _ => sub.after modes
  | .alt branches => afterAll modes branches
  | .cat parts => afterAll modes parts
  | _ => modes

/-- The modes in force after patterns that stand one after the other. -/
def Tree.afterAll (modes : Modes) : List Tree → Modes
  | [] => modes
  | t :: rest => afterAll (t.after modes) rest

end

mutual

/-- Patterns that are the same, in given modes, but for the case of letters where case is ignored.
-/
inductive Tree.Alike : Modes → Tree → Tree → Prop
  | same (modes : Modes) (t : Tree) : Alike modes t t
  | literal {modes : Modes} {l l' : Literal} (hmodes : modes.IgnoresCase) (h : l.SameLetter l') :
      Alike modes (.literal l) (.literal l')
  | property {modes : Modes} {q q' : PropertyQuery} (negated : Bool) (h : q.folded = q'.folded) :
      Alike modes (.property q negated) (.property q' negated)
  | bracket {modes : Modes} {m m' : Members} (hmodes : modes.IgnoresCase) (negated : Bool)
      (h : m.Alike m') : Alike modes (.bracket negated m) (.bracket negated m')
  | rep {modes : Modes} {t t' : Tree} (least : Nat) (most : Option Nat) (h : Alike modes t t') :
      Alike modes (.rep t least most) (.rep t' least most)
  | group {modes : Modes} {t t' : Tree} (captures : Bool) (change : ModeChange)
      (h : Alike (modes.apply change) t t') :
      Alike modes (.group captures change t) (.group captures change t')
  | alt {modes : Modes} {ts ts' : List Tree} (h : AlikeList modes ts ts') :
      Alike modes (.alt ts) (.alt ts')
  | cat {modes : Modes} {ts ts' : List Tree} (h : AlikeList modes ts ts') :
      Alike modes (.cat ts) (.cat ts')

/-- Patterns that stand one after the other and are the same in this sense. -/
inductive Tree.AlikeList : Modes → List Tree → List Tree → Prop
  | nil (modes : Modes) : AlikeList modes [] []
  | cons {modes : Modes} {t t' : Tree} {rest rest' : List Tree} (h : Alike modes t t')
      (hrest : AlikeList (t.after modes) rest rest') : AlikeList modes (t :: rest) (t' :: rest')

end

/-! ### The same shape -/

mutual

theorem Members.Alike.depth_eq {m m' : Members} : m.Alike m' → m.depth = m'.depth
  | .same _ | .literal _ | .range _ | .property _ _ => rfl
  | .nested _ h => by rw [Members.depth, Members.depth, h.depth_eq]
  | .union h => by rw [Members.depth, Members.depth, h.depthList_eq]
  | .op _ hl hr => by rw [Members.depth, Members.depth, hl.depth_eq, hr.depth_eq]

theorem Members.AlikeList.depthList_eq {ms ms' : List Members} :
    Members.AlikeList ms ms' → Members.depthList ms = Members.depthList ms'
  | .nil => rfl
  | .cons h hrest => by
    rw [Members.depthList, Members.depthList, h.depth_eq, hrest.depthList_eq]

end

mutual

/-- Patterns that are alike are nested equally deep.  By recursion on how they are alike. -/
theorem Tree.Alike.depth_eq {modes : Modes} {t t' : Tree} :
    Tree.Alike modes t t' → t.depth = t'.depth
  | .same _ _ | .literal _ _ | .property _ _ => rfl
  | .bracket _ _ h => by rw [Tree.depth, Tree.depth, h.depth_eq]
  | .rep _ _ h | .group _ _ h => by rw [Tree.depth, Tree.depth, h.depth_eq]
  | .alt h | .cat h => by rw [Tree.depth, Tree.depth, h.depthList_eq]

theorem Tree.AlikeList.depthList_eq {modes : Modes} {ts ts' : List Tree} :
    Tree.AlikeList modes ts ts' → Tree.depthList ts = Tree.depthList ts'
  | .nil _ => rfl
  | .cons h hrest => by
    rw [Tree.depthList, Tree.depthList, h.depth_eq, hrest.depthList_eq]

end

theorem Tree.Alike.isUnrepeatable_eq {modes : Modes} {t t' : Tree} (h : Tree.Alike modes t t') :
    t.isUnrepeatable = t'.isUnrepeatable := by
  cases h <;> rfl

/-! ### The same expression -/

theorem PropertyQuery.set?_eq {q q' : PropertyQuery} (h : q.folded = q'.folded) :
    q.set? = q'.set? := by
  cases q <;> cases q' <;> simp_all [PropertyQuery.folded, PropertyQuery.set?]

section

variable {α β γ : Type} {x y : Except Cause α} {fold : α → β}

/-- Results that are the same when they have been folded are the same fault or two values that
fold to the same. -/
theorem cases_of_map_eq (h : x.map fold = y.map fold) :
    (∃ cause, x = .error cause ∧ y = .error cause) ∨
      ∃ a b, x = .ok a ∧ y = .ok b ∧ fold a = fold b := by
  cases x with
  | error cause =>
    cases y with
    | error cause' => exact Or.inl ⟨cause, rfl, congrArg _ (Except.error.inj h).symm⟩
    | ok b => cases h
  | ok a =>
    cases y with
    | error cause => cases h
    | ok b => exact Or.inr ⟨a, b, rfl, rfl, Except.ok.inj h⟩

/-- What is done with a result only after it has been folded comes to the same. -/
theorem bind_eq_of_map_eq (h : x.map fold = y.map fold) (f : β → Except Cause γ) :
    (x.bind fun a => f (fold a)) = y.bind fun a => f (fold a) := by
  rcases cases_of_map_eq h with ⟨cause, rfl, rfl⟩ | ⟨a, b, rfl, rfl, hfold⟩
  · rfl
  · exact congrArg f hfold

end

namespace Modes

variable {modes : Modes}

theorem IgnoresCase.fold_eq (h : modes.IgnoresCase) (set : CharSet) :
    modes.fold set = set.foldCase := by
  simp [Modes.fold, h.1, h.2]

theorem IgnoresCase.char_eq (h : modes.IgnoresCase) (l : Literal) : modes.char l = .ok l.char := by
  simp [Modes.char, h.2]

theorem IgnoresCase.memberChar_eq (h : modes.IgnoresCase) (l : Literal) :
    modes.memberChar l = .ok l.char := by
  simp only [Modes.memberChar, h.char_eq, List.contains_iff_mem.mpr h.2]
  rfl

theorem ignoresCase_initial : initial.IgnoresCase := by
  constructor
  all_goals decide

/-- A combination of two sets. -/
def combine : SetOp → CharSet → CharSet → CharSet
  | .inter => CharSet.inter
  | .diff => CharSet.diff
  | .symmDiff => CharSet.symmDiff

theorem members_op (o : SetOp) (left right : Members) :
    modes.members (.op o left right) = (modes.members left).bind fun l =>
      (modes.members right).bind fun r => .ok (combine o (modes.fold l) (modes.fold r)) := by
  rw [members]
  cases o <;> rfl

theorem memberList_cons (m : Members) (rest : List Members) :
    modes.memberList (m :: rest) = (modes.members m).bind fun here =>
      (modes.memberList rest).bind fun later => .ok (here.union later) := by
  rw [memberList]
  rfl

mutual

/-- Members that are alike are the same set of letters of either case.  By recursion on how they are
alike. -/
theorem members_eq (hmodes : modes.IgnoresCase) {m m' : Members} :
    m.Alike m' → (modes.members m).map CharSet.foldCase = (modes.members m').map CharSet.foldCase
  | .same m => rfl
  | .literal h => by
    simp only [members, hmodes.memberChar_eq]
    exact congrArg Except.ok (CharSet.foldCase_single h.1)
  | .range h => by
    simp only [members, hmodes.memberChar_eq]
    exact congrArg Except.ok h
  | .property negated h => by
    simp only [members, Modes.property, PropertyQuery.set?_eq h]
  | .nested negated h => by
    simp only [members, hmodes.fold_eq]
    exact congrArg _ (bind_eq_of_map_eq (members_eq hmodes h) (modes.negate negated))
  | .union h => by
    simp only [members]
    exact memberList_eq hmodes h
  | @Members.Alike.op o left left' right right' hl hr => by
    have hleft := members_eq hmodes hl
    have hright := members_eq hmodes hr
    simp only [members_op, hmodes.fold_eq]
    rw [bind_eq_of_map_eq hleft fun l =>
      (modes.members right).bind fun r => .ok (combine o l r.foldCase)]
    congr 2
    funext l
    exact bind_eq_of_map_eq hright fun r => .ok (combine o l.foldCase r)

theorem memberList_eq (hmodes : modes.IgnoresCase) {ms ms' : List Members} :
    Members.AlikeList ms ms' →
      (modes.memberList ms).map CharSet.foldCase = (modes.memberList ms').map CharSet.foldCase
  | .nil => rfl
  | @Members.AlikeList.cons m m' rest rest' h hrest => by
    rw [memberList_cons, memberList_cons]
    rcases cases_of_map_eq (members_eq hmodes h) with
      ⟨cause, hm, hm'⟩ | ⟨here, here', hm, hm', hhere⟩
    · rw [hm, hm']
      rfl
    · rcases cases_of_map_eq (memberList_eq hmodes hrest) with
        ⟨cause, hms, hms'⟩ | ⟨later, later', hms, hms', hlater⟩
      · rw [hm, hm', hms, hms']
        rfl
      · rw [hm, hm', hms, hms']
        exact congrArg Except.ok (CharSet.foldCase_union hhere hlater)

end

end Modes

namespace Regular

variable {modes after : Modes} {e : Regular} {es : List Regular}

/-- A set of characters leaves the modes alone. -/
theorem after_of_take {x : Except Cause CharSet}
    (h : (do return (.take (← x), modes) : Except Cause (Regular × Modes)) = .ok (e, after)) :
    after = modes := by
  cases x <;> cases h
  rfl

mutual

/-- The modes after a pattern are those that it leaves. -/
theorem after_of_ofTree {modes after : Modes} {e : Regular} :
    (t : Tree) → ofTree modes t = .ok (e, after) → after = t.after modes
  | .empty, h | .modes _, h | .assertion _, h => by
    cases h
    rfl
  | .literal _, h | .dot, h | .kind _ _, h | .property _ _, h => after_of_take h
  | .bracket negated m, h => by
    rw [ofTree] at h
    obtain ⟨set, -, h⟩ := bind_eq_ok_iff.mp h
    exact after_of_take h
  | .rep sub least most, h => by
    rw [ofTree] at h
    obtain ⟨⟨e', after'⟩, hsub, h⟩ := bind_eq_ok_iff.mp h
    cases h
    exact after_of_ofTree sub hsub
  | .group captures change sub, h => by
    rw [ofTree] at h
    obtain ⟨⟨e', after'⟩, -, h⟩ := bind_eq_ok_iff.mp h
    cases h
    rfl
  | .alt ts, h | .cat ts, h => by
    rw [ofTree] at h
    obtain ⟨⟨es, after'⟩, hts, h⟩ := bind_eq_ok_iff.mp h
    cases h
    exact after_of_ofTrees ts hts

theorem after_of_ofTrees {modes after : Modes} {es : List Regular} :
    (ts : List Tree) → ofTrees modes ts = .ok (es, after) → after = Tree.afterAll modes ts
  | [], h => by
    cases h
    rfl
  | t :: rest, h => by
    rw [ofTrees] at h
    obtain ⟨⟨e', after'⟩, ht, h⟩ := bind_eq_ok_iff.mp h
    obtain ⟨⟨es', last⟩, hrest, h⟩ := bind_eq_ok_iff.mp h
    cases h
    obtain rfl := after_of_ofTree t ht
    exact after_of_ofTrees rest hrest

end

mutual

/-- **Patterns that are alike come to the same expression.**  By recursion on how they are alike. -/
theorem ofTree_eq {modes : Modes} {t t' : Tree} :
    Tree.Alike modes t t' → ofTree modes t = ofTree modes t'
  | .same _ _ => rfl
  | .literal hmodes h => by
    simp only [ofTree, Modes.literal, hmodes.char_eq, hmodes.fold_eq]
    exact congrArg (fun set => Except.ok (Expr.take set, modes)) (CharSet.foldCase_single h.1)
  | .property negated h => by
    simp only [ofTree, Modes.property, PropertyQuery.set?_eq h]
  | @Tree.Alike.bracket _ m m' hmodes negated h => by
    simp only [ofTree, hmodes.fold_eq]
    exact bind_eq_of_map_eq (Modes.members_eq hmodes h) fun set => do
      return (Expr.take (← modes.negate negated set), modes)
  | .rep least most h => by
    rw [ofTree, ofTree, ofTree_eq h]
  | .group captures change h => by
    rw [ofTree, ofTree, ofTree_eq h]
  | .alt h => by
    rw [ofTree, ofTree, ofTrees_eq h]
  | .cat h => by
    rw [ofTree, ofTree, ofTrees_eq h]

theorem ofTrees_eq {modes : Modes} {ts ts' : List Tree} :
    Tree.AlikeList modes ts ts' → ofTrees modes ts = ofTrees modes ts'
  | .nil _ => rfl
  | @Tree.AlikeList.cons _ t t' rest rest' h hrest => by
    rw [ofTrees, ofTrees, ← ofTree_eq h]
    rcases ht : ofTree modes t with cause | ⟨e, after⟩
    · rfl
    · obtain rfl := after_of_ofTree t ht
      simp only [bind, Except.bind, ofTrees_eq hrest]

end

end Regular

end Postroom.Pattern
