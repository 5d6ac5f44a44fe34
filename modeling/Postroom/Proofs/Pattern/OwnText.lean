import Postroom.Proofs.Pattern.Case
import Postroom.Proofs.Pattern.Plain
import Postroom.Proofs.Text.Within

/-! # Values that contain the pattern itself

The pattern and the value are put in lower case one without the other, and a capital sigma looks
at its neighbours.  So the lower-case form of a value that contains the pattern contains that of
the pattern if each of these sigmas ends a word in both or in neither, and then the value matches,
whether the pattern is a regular expression or not (`occursIn_of_not_turned`).

If a sigma is `Turned`, the value has the other small sigma in its place.  The pattern is not found
there, so unless it is found elsewhere it is read as an expression, which may be refused
(`own_text_refused`).  But an expression takes either sigma for the other, so a pattern without
operators matches all the same, if it is not too long (`check_plain`).
-/

namespace Postroom.Pattern

open Text Text.Lower

/-- A capital sigma of the pattern ends a word by itself and not in the value, or the other way
round. -/
def Turned (front pattern back : List Char) : Prop :=
  ∃ before after, pattern = before ++ 'Σ' :: after ∧
    endsWord (front ++ before) (after ++ back) ≠ endsWord before after

theorem not_turned_iff {front pattern back : List Char} :
    ¬ Turned front pattern back ↔ lowerBetween front pattern back = lowerChars pattern := by
  rw [lowerChars_eq, lowerBetween_eq_iff]
  simp only [Turned, not_exists, not_and, ne_eq, not_not, List.append_nil, List.nil_append]

instance (front pattern back : List Char) : Decidable (Turned front pattern back) :=
  decidable_of_iff (lowerBetween front pattern back ≠ lowerChars pattern)
    ((not_congr not_turned_iff.symm).trans not_not)

/-! ### Plain text -/

/-- What a letter becomes between two texts is alike. -/
theorem alike_lowerCharBetween {front back : List Char} {c : Char} (hc : c ≠ '\u0130') :
    ∃ d, lowerCharBetween front c back = [d] ∧ CaseFold.Alike c.toNat d.toNat := by
  unfold lowerCharBetween
  by_cases hsigma : c = 'Σ'
  · subst hsigma
    rw [if_pos rfl]
    refine ⟨_, rfl, ?_⟩
    split
    · exact CaseFold.alike_sigma.2
    · exact CaseFold.alike_sigma.1
  · rw [if_neg hsigma]
    exact CaseFold.alike_lowerChar hc

theorem alike_lowerBetween {text : List Char} (h : ∀ c ∈ text, c ≠ '\u0130')
    (front back : List Char) :
    List.Forall₂ (fun c d => CaseFold.Alike c.toNat d.toNat) text
      (lowerBetween front text back) := by
  induction text generalizing front with
  | nil => exact .nil
  | cons c rest ih =>
    obtain ⟨hc, hrest⟩ := List.forall_mem_cons.mp h
    obtain ⟨d, hd, halike⟩ := alike_lowerCharBetween hc
    rw [lowerBetween, hd]
    exact .cons halike (ih hrest (front ++ [c]))

/-! ### Matching -/

variable {front pattern back : List Char}

/-- The lower-case form of a pattern with no sigma turned is found where the pattern stands. -/
theorem occursIn_of_not_turned (h : ¬ Turned front pattern back) :
    occursIn (lowerChars pattern) (lowerChars (front ++ pattern ++ back)) = true := by
  rw [lowerChars_between, not_turned_iff.mp h, List.append_assoc]
  exact occursIn_append_left _ _ _ (occursIn_append _ _)

/-- A pattern without operators is found as plain text, or as an expression if it is not too long.
-/
theorem check_plain (hne : pattern ≠ []) (h : ∀ c ∈ pattern, c ∉ operators ∧ c ≠ '\u0130') :
    check pattern (front ++ pattern ++ back) = .ok true ∨
      check pattern (front ++ pattern ++ back) = .error (.tooLarge sizeLimit) := by
  cases hfound : occursIn (lowerChars pattern) (lowerChars (front ++ pattern ++ back)) with
  | true => exact Or.inl (check_of_present hne hfound)
  | false =>
    -- the expression does not tell one sigma from another, so it matches where the pattern stands
    rw [check_of_absent hne hfound]
    rcases compile_plain fun c hc => (h c hc).1 with hcompile | hcompile
    · rw [hcompile, lowerChars_between]
      have halike := alike_lowerBetween (fun c hc => (h c hc).2) front back
      exact Or.inl (congrArg Except.ok (matches_plain halike _ _))
    · rw [hcompile]
      exact Or.inr rfl

/-- **A value that contains the pattern's own text matches if no sigma of the pattern is turned.**
In the place of the pattern the lower-case value has the lower-case form of the pattern but for the
sigmas, and with these exactly if none is turned.  If one is, the value matches exactly if that form
is found elsewhere or the pattern is an expression that matches.  A pattern without operators always
matches such a value, or is too long to be an expression. -/
theorem matches?_own_text {pattern : String} (hne : pattern ≠ "") (front back : String) :
    let value := front ++ pattern ++ back
    let turned := Turned front.toList pattern.toList back.toList
    (¬ turned → matches? pattern value = .ok true) ∧
      (∃ left place right, (lower value).toList = left ++ place ++ right ∧
        left.length = (lower front).toList.length ∧
        List.Forall₂ SameOrSigmas (lower pattern).toList place ∧
        (place = (lower pattern).toList ↔ ¬ turned)) ∧
      (turned → (matches? pattern value = .ok true ↔
        occursIn (lower pattern).toList (lower value).toList = true ∨
          ∃ e, compile pattern.toList = .ok e ∧ e.matches (lower value).toList = true)) ∧
      ((∀ c ∈ pattern.toList, c ∉ operators ∧ c ≠ '\u0130') →
        matches? pattern value = .ok true ∨
          matches? pattern value = .error ⟨pattern, .tooLarge sizeLimit⟩) := by
  intro value turned
  have hne' : pattern.toList ≠ [] := fun heq => hne (String.toList_eq_nil_iff.mp heq)
  have hvalue : value.toList = front.toList ++ pattern.toList ++ back.toList := by
    rw [String.toList_append, String.toList_append]
  have hmatches : matches? pattern value = .ok true ↔
      occursIn (lower pattern).toList (lower value).toList = true ∨
        ∃ e, compile pattern.toList = .ok e ∧ e.matches (lower value).toList = true := by
    rw [matches?_eq_ok_iff, check_eq_ok_true_iff hne']
    simp only [lower, String.toList_ofList]
  have hlower : ∀ s : String, (lower s).toList = lowerChars s.toList := fun s =>
    String.toList_ofList
  rw [hlower, hlower, hvalue] at hmatches
  simp only [hlower, hvalue]
  refine ⟨fun h => hmatches.mpr (Or.inl (occursIn_of_not_turned h)),
    ⟨_, _, _, lowerChars_between .., ?_, ?_, not_turned_iff.symm⟩, fun _ => hmatches, fun h => ?_⟩
  · rw [lowerChars_eq]
    exact (sameOrSigmas_lowerBetween ..).length_eq
  · rw [lowerChars_eq]
    exact sameOrSigmas_lowerBetween ..
  · unfold matches?
    rw [hvalue]
    rcases check_plain hne' h with hcheck | hcheck
    · rw [hcheck]
      exact Or.inl rfl
    · rw [hcheck]
      exact Or.inr rfl

/-- A word that ends in the pattern as in the value, before a parenthesis that is never closed; and
a sigma that ends a word in the value alone. -/
theorem own_text_matched :
    matches? "ΟΔΟΣ (" ("Η " ++ "ΟΔΟΣ (" ++ "α)") = .ok true ∧
      Turned "α".toList "Σ".toList "".toList ∧
      (matches? "Σ" ("α" ++ "Σ" ++ "") = .ok true ∨
        matches? "Σ" ("α" ++ "Σ" ++ "") = .error ⟨"Σ", .tooLarge sizeLimit⟩) := by
  have hkept : ¬ Turned "Η ".toList "ΟΔΟΣ (".toList "α)".toList := by decide +kernel
  have hturned : Turned "α".toList "Σ".toList "".toList := by decide +kernel
  have hplain : ∀ c ∈ "Σ".toList, c ∉ operators ∧ c ≠ '\u0130' := by
    intro c hc
    rw [show "Σ".toList = ['Σ'] by decide] at hc
    obtain rfl := List.mem_singleton.mp hc
    decide
  obtain ⟨hfound, -⟩ := matches?_own_text (show "ΟΔΟΣ (" ≠ "" by decide) "Η " "α)"
  obtain ⟨-, -, -, hword⟩ := matches?_own_text (show "Σ" ≠ "" by decide) "α" ""
  exact ⟨hfound hkept, hturned, hword hplain⟩

/-- The sigma of the pattern is a final one in the value only, so the pattern is not found as
plain text, and it is no expression. -/
theorem own_text_refused :
    matches? "Σ(" ("α" ++ "Σ(" ++ "") = .error ⟨"Σ(", .groupUnclosed⟩ := by
  decide +kernel

end Postroom.Pattern
