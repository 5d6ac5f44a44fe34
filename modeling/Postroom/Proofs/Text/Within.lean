import Mathlib.Data.List.Forall2
import Postroom.Text.Lower

/-! # Lower case within a text

The lower-case form of a text is not made up of those of its parts.  A capital sigma looks at what
stands on both sides of it (`endsWord`), so what a part becomes depends on the texts between which
it stands (`lowerBetween`, `lowerChars_between`).  Nothing else does, so what a part becomes between
two texts and between two others differs in the sigmas alone (`sameOrSigmas_lowerBetween`), and it
is the same exactly if each of its capital sigmas ends a word in both places or in neither
(`lowerBetween_eq_iff`).
-/

namespace Postroom.Text.Lower

/-- Whether a capital sigma ends a word between two texts. -/
def endsWord (front back : List Char) : Bool := meetsCased front.reverse && !meetsCased back

/-- What a character becomes between two texts. -/
def lowerCharBetween (front : List Char) (c : Char) (back : List Char) : List Char :=
  if c = 'Σ' then [if endsWord front back then 'ς' else 'σ'] else lowerChar c

/-- What a text becomes between two others. -/
def lowerBetween (front : List Char) : (text back : List Char) → List Char
  | [], _ => []
  | c :: rest, back =>
    lowerCharBetween front c (rest ++ back) ++ lowerBetween (front ++ [c]) rest back

theorem meetsCased_reverse_concat (front : List Char) (c : Char) :
    meetsCased (front ++ [c]).reverse =
      if ignorable.has c.toNat then meetsCased front.reverse else cased.has c.toNat := by
  rw [List.reverse_concat]
  rfl

/-- A text is put in lower case part by part, each of them between the others.  By induction on the
part that stands first. -/
theorem lowerFrom_append (front text back : List Char) :
    lowerFrom (meetsCased front.reverse) (text ++ back) =
      lowerBetween front text back ++ lowerFrom (meetsCased (front ++ text).reverse) back := by
  induction text generalizing front with
  | nil => simp [lowerBetween]
  | cons c rest ih =>
    have hrest := ih (front ++ [c])
    rw [meetsCased_reverse_concat] at hrest
    rw [List.cons_append, lowerFrom, hrest, lowerBetween, List.append_assoc, List.append_assoc]
    rfl

theorem lowerChars_eq (text : List Char) : lowerChars text = lowerBetween [] text [] := by
  have h := lowerFrom_append [] text []
  rw [List.append_nil, lowerFrom, List.append_nil] at h
  exact h

/-- The lower-case form of a text has that of each of its parts in its place. -/
theorem lowerChars_between (front text back : List Char) :
    lowerChars (front ++ text ++ back) = lowerBetween [] front (text ++ back) ++
      lowerBetween front text back ++ lowerBetween (front ++ text) back [] := by
  have hfront := lowerFrom_append [] front (text ++ back)
  have htext := lowerFrom_append front text back
  have hback := lowerFrom_append (front ++ text) back []
  rw [List.append_nil, lowerFrom, List.append_nil] at hback
  rw [List.nil_append, htext, hback] at hfront
  rw [List.append_assoc, List.append_assoc]
  exact hfront

/-- Two letters are the same, or both are small sigmas. -/
def SameOrSigmas (c d : Char) : Prop := c = d ∨ c ∈ ['σ', 'ς'] ∧ d ∈ ['σ', 'ς']

theorem sameOrSigmas_lowerCharBetween (front back front' back' : List Char) (c : Char) :
    List.Forall₂ SameOrSigmas (lowerCharBetween front c back)
      (lowerCharBetween front' c back') := by
  unfold lowerCharBetween
  split
  · have hsmall : ∀ ends : Bool, (if ends then 'ς' else 'σ') ∈ ['σ', 'ς'] := by decide
    exact .cons (Or.inr ⟨hsmall _, hsmall _⟩) .nil
  · exact List.forall₂_same.mpr fun _ _ => Or.inl rfl

/-- What a text becomes between two others and between two others yet differs in sigmas alone. -/
theorem sameOrSigmas_lowerBetween (front back front' back' text : List Char) :
    List.Forall₂ SameOrSigmas (lowerBetween front text back) (lowerBetween front' text back') := by
  induction text generalizing front front' with
  | nil => exact .nil
  | cons c rest ih => exact List.rel_append (sameOrSigmas_lowerCharBetween ..) (ih ..)

/-- Two sigmas become the same if both end a word or neither does. -/
theorem lowerCharBetween_eq_iff {front back front' back' : List Char} {c : Char} :
    lowerCharBetween front c back = lowerCharBetween front' c back' ↔
      (c = 'Σ' → endsWord front back = endsWord front' back') := by
  unfold lowerCharBetween
  by_cases hc : c = 'Σ'
  · simp only [hc, if_true, true_implies]
    cases endsWord front back <;> cases endsWord front' back' <;> decide
  · simp [hc]

theorem length_lowerCharBetween (front back front' back' : List Char) (c : Char) :
    (lowerCharBetween front c back).length = (lowerCharBetween front' c back').length := by
  unfold lowerCharBetween
  split <;> rfl

/-- A text becomes the same between two texts as between two others exactly if each of its capital
sigmas ends a word in both places or in neither.  By induction on the text. -/
theorem lowerBetween_eq_iff {front back front' back' text : List Char} :
    lowerBetween front text back = lowerBetween front' text back' ↔
      ∀ before after, text = before ++ 'Σ' :: after →
        endsWord (front ++ before) (after ++ back) =
          endsWord (front' ++ before) (after ++ back') := by
  induction text generalizing front front' with
  | nil => simp [lowerBetween]
  | cons c rest ih =>
    rw [lowerBetween, lowerBetween]
    constructor
    · intro h before after htext
      obtain ⟨hhere, hrest⟩ := List.append_inj h (length_lowerCharBetween ..)
      rw [lowerCharBetween_eq_iff] at hhere
      rw [ih] at hrest
      cases before with
      | nil =>
        obtain ⟨rfl, rfl⟩ := List.cons.inj htext
        simpa using hhere rfl
      | cons d before =>
        obtain ⟨rfl, rfl⟩ := List.cons.inj htext
        simpa using hrest before after rfl
    · intro h
      have hhere : lowerCharBetween front c (rest ++ back) =
          lowerCharBetween front' c (rest ++ back') := by
        refine lowerCharBetween_eq_iff.mpr ?_
        rintro rfl
        simpa using h [] rest rfl
      have hrest : lowerBetween (front ++ [c]) rest back =
          lowerBetween (front' ++ [c]) rest back' :=
        ih.mpr fun before after htext => by
          simpa using h (c :: before) after (by rw [htext, List.cons_append])
      rw [hhere, hrest]

end Postroom.Text.Lower
