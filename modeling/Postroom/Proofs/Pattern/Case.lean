import Postroom.Proofs.Pattern.Respelling

/-! # The case of patterns and values

A value is put in lower case before it is compared, so its case never matters.  A pattern is put
in lower case only to be looked for as plain text.  As a regular expression it is read as it is
written, and there the case of a letter may say something: `\S` is not `\s`.

So a pattern may be put in lower case together with the value if it is found there anyway, or if
its lower-case form is read as the same expression but for the case of letters (`matches?_lower`).
That is so whenever the letters of the pattern stand for themselves (`isSpeltOut`), because its
lower-case form is then a respelling of it (`respelt_lowerFrom`).
-/

namespace Postroom.Pattern

open Text

/-- Whether the letters of a pattern stand for themselves, as its text shows: there are no classes
in it, no counts and no dotted capital I, of groups with a question mark only those with a colon,
and behind backslashes only characters that are no capitals and take no operands. -/
def isSpeltOut : List Char → Bool
  | [] => true
  | ['\\'] => true
  | '\\' :: c :: rest => Reader.isHarmless c && isSpeltOut rest
  | '(' :: '?' :: ':' :: rest => isSpeltOut rest
  | '(' :: '?' :: _ => false
  | c :: rest => !(['[', '{', '\u0130'].contains c) && isSpeltOut rest

theorem fixed_of_isHarmless {c : Char} (hc : Reader.isHarmless c = true) : Fixed c := by
  simp only [Reader.isHarmless, Bool.and_eq_true, decide_eq_true_eq, Bool.not_eq_true',
    Bool.and_eq_false_iff, decide_eq_false_iff_not] at hc
  obtain ⟨⟨hascii, hcapital⟩, -⟩ := hc
  refine fixed_of_ascii ?_ hascii
  rintro ⟨hlow, hhigh⟩
  exact hcapital.elim (absurd hlow) (absurd hhigh)

/-- **The lower-case form of a pattern whose letters stand for themselves is a respelling of it.**
By induction along the pattern. -/
theorem respelt_lowerFrom {pattern : List Char} (h : isSpeltOut pattern = true) (before : Bool) :
    Respelt pattern (lowerFrom before pattern) := by
  fun_induction isSpeltOut pattern generalizing before with
  | case1 => exact .nil
  | case2 =>
    obtain ⟨after, heq⟩ := exists_lowerFrom_of_fixed (show Fixed '\\' by decide) before []
    rw [heq]
    exact .backslash
  | case3 c rest ih =>
    -- a harmless character is fixed, so the escape stays as it is
    obtain ⟨hc, hrest⟩ := Bool.and_eq_true_iff.mp h
    obtain ⟨after, heq⟩ := exists_lowerFrom_of_fixed (show Fixed '\\' by decide) before (c :: rest)
    obtain ⟨after', heq'⟩ := exists_lowerFrom_of_fixed (fixed_of_isHarmless hc) after rest
    rw [heq, heq']
    exact .escape hc (ih hrest after')
  | case4 rest ih =>
    obtain ⟨after, heq⟩ :=
      exists_lowerFrom_of_fixed (show Fixed '(' by decide) before ('?' :: ':' :: rest)
    obtain ⟨after', heq'⟩ :=
      exists_lowerFrom_of_fixed (show Fixed '?' by decide) after (':' :: rest)
    obtain ⟨after'', heq''⟩ := exists_lowerFrom_of_fixed (show Fixed ':' by decide) after' rest
    rw [heq, heq', heq'']
    exact .mute (ih h after'')
  | case5 => cases h
  | case6 c rest hend hescape hmute hgroup ih =>
    obtain ⟨hc, hrest⟩ := Bool.and_eq_true_iff.mp h
    simp only [List.contains_cons, List.contains_nil, Bool.or_false, Bool.not_eq_true',
      Bool.or_eq_false_iff, beq_eq_false_iff_ne] at hc
    obtain ⟨hclass, hcount, hdotted⟩ := hc
    have hslash : c ≠ '\\' := by
      rintro rfl
      cases rest with
      | nil => exact hend rfl rfl
      | cons d rest => exact hescape d rest rfl rfl
    have hopen : c = '(' → rest.head? ≠ some '?' := by
      intro heq hhead
      obtain ⟨tail, htail⟩ := List.head?_eq_some_iff.mp hhead
      exact hgroup tail heq htail
    obtain ⟨d, after, heq, halike⟩ := CaseFold.exists_lowerFrom_cons hdotted before rest
    rw [heq]
    refine .char ?_ hopen halike (ih hrest after)
    simp only [List.mem_cons, List.not_mem_nil, or_false, not_or]
    exact ⟨hslash, hclass, hcount⟩

/-! ### Matching -/

theorem check_lowerChars (pattern value : List Char) :
    check pattern (lowerChars value) = check pattern value := by
  rw [check, check, lowerChars_lowerChars]

/-- A pattern that is looked for in vain is read as an expression. -/
theorem check_of_absent {pattern value : List Char} (hne : pattern ≠ [])
    (h : occursIn (lowerChars pattern) (lowerChars value) = false) :
    check pattern value = (compile pattern).map fun e => e.matches (lowerChars value) := by
  have hempty : pattern.isEmpty = false := List.isEmpty_eq_false_iff.mpr hne
  simp only [check, hempty, h, Bool.false_eq_true, if_false]
  cases compile pattern <;> rfl

theorem check_of_present {pattern value : List Char} (hne : pattern ≠ [])
    (h : occursIn (lowerChars pattern) (lowerChars value) = true) :
    check pattern value = .ok true := by
  have hempty : pattern.isEmpty = false := List.isEmpty_eq_false_iff.mpr hne
  simp only [check, hempty, h, Bool.false_eq_true, if_false, if_true]

theorem toOption_matches? (pattern value : String) :
    (matches? pattern value).toOption = (check pattern.toList value.toList).toOption := by
  unfold matches?
  cases check pattern.toList value.toList <;> rfl

/-- A pattern matches if it is found as plain text, or is an expression that matches. -/
theorem check_eq_ok_true_iff {pattern value : List Char} (hne : pattern ≠ []) :
    check pattern value = .ok true ↔
      occursIn (lowerChars pattern) (lowerChars value) = true ∨
        ∃ e, compile pattern = .ok e ∧ e.matches (lowerChars value) = true := by
  cases hfound : occursIn (lowerChars pattern) (lowerChars value) with
  | true => exact iff_of_true (check_of_present hne hfound) (Or.inl rfl)
  | false =>
    rw [check_of_absent hne hfound, map_eq_ok_iff]
    simp only [Bool.false_eq_true, false_or]

theorem matches?_eq_ok_iff {pattern value : String} {found : Bool} :
    matches? pattern value = .ok found ↔ check pattern.toList value.toList = .ok found := by
  unfold matches?
  cases check pattern.toList value.toList with
  | ok b => simp only [Except.ok.injEq]
  | error cause => exact iff_of_false nofun nofun

/-- A pattern may be put in lower case if it is empty, if it is found as plain text, or if it is
read alike. -/
theorem toOption_check_lowerChars {pattern value : List Char}
    (h : pattern = [] ∨ occursIn (lowerChars pattern) (lowerChars value) = true ∨
      ReadAlike pattern (lowerChars pattern)) :
    (check (lowerChars pattern) value).toOption = (check pattern value).toOption := by
  by_cases hne : pattern = []
  · rw [hne, lowerChars_nil]
  · have hne' : lowerChars pattern ≠ [] := fun heq => hne (lowerChars_eq_nil.mp heq)
    cases hfound : occursIn (lowerChars pattern) (lowerChars value) with
    | true =>
      have hfound' : occursIn (lowerChars (lowerChars pattern)) (lowerChars value) = true := by
        rw [lowerChars_lowerChars, hfound]
      rw [check_of_present hne hfound, check_of_present hne' hfound']
    | false =>
      have hfound' : occursIn (lowerChars (lowerChars pattern)) (lowerChars value) = false := by
        rw [lowerChars_lowerChars, hfound]
      have hread : ReadAlike pattern (lowerChars pattern) := by
        rcases h with heq | hoccurs | hread
        · exact absurd heq hne
        · rw [hfound] at hoccurs
          cases hoccurs
        · exact hread
      have hcompile := toOption_compile_eq hread
      rw [check_of_absent hne hfound, check_of_absent hne' hfound']
      revert hcompile
      cases compile pattern <;> cases compile (lowerChars pattern)
      all_goals
        intro hcompile
        cases hcompile
      all_goals rfl

/-- **The case of a value never matters, and that of a pattern does not where it is found as plain
text or read alike in lower case, as it is if its letters stand for themselves.** -/
theorem matches?_lower (pattern value : String) :
    matches? pattern (lower value) = matches? pattern value ∧
      (pattern = "" ∨ occursIn (lower pattern).toList (lower value).toList = true ∨
          ReadAlike pattern.toList (lower pattern).toList ∨ isSpeltOut pattern.toList = true →
        (matches? (lower pattern) (lower value)).toOption = (matches? pattern value).toOption) := by
  have htext : ∀ s : String, (lower s).toList = lowerChars s.toList := fun s => String.toList_ofList
  refine ⟨?_, fun h => ?_⟩
  · rw [matches?, matches?, htext, check_lowerChars]
  · rw [toOption_matches?, toOption_matches?, htext, htext, check_lowerChars]
    refine toOption_check_lowerChars ?_
    rw [htext, htext] at h
    rcases h with rfl | hfound | hread | hspelt
    · exact Or.inl rfl
    · exact Or.inr (Or.inl hfound)
    · exact Or.inr (Or.inr hread)
    · exact Or.inr (Or.inr (readAlike_of_respelt (respelt_lowerFrom hspelt false)))

/-- The letters of a pattern do not stand for themselves in a class, but a class of capitals is read
like that of the small letters. -/
theorem capitals_readAlike : ReadAlike "[A-C]{2}".toList (lower "[A-C]{2}").toList := by
  have hlower : lower "[A-C]{2}" = "[a-c]{2}" := by decide +kernel
  have hread : Tree.read "[A-C]{2}".toList =
      .ok (.rep (.bracket false (.range ⟨'A', false⟩ ⟨'C', false⟩)) 2 (some 2)) := rfl
  have hread' : Tree.read "[a-c]{2}".toList =
      .ok (.rep (.bracket false (.range ⟨'a', false⟩ ⟨'c', false⟩)) 2 (some 2)) := rfl
  have hfold : CharSet.foldCase [(0x41, 0x43)] = CharSet.foldCase [(0x61, 0x63)] := by decide +kernel
  rw [hlower, ReadAlike, hread, hread']
  exact .rep 2 (some 2) (.bracket Modes.ignoresCase_initial false (.range hfold))

/-- The mark of an answer in two languages, and two capitals in a row. -/
theorem answer_matched_in_either_case :
    isSpeltOut "^(?:RE|AW):".toList = true ∧
      (matches? (lower "^(?:RE|AW):") (lower "Aw: x")).toOption =
        (matches? "^(?:RE|AW):" "Aw: x").toOption ∧
      matches? "^(?:RE|AW):" "Aw: x" = .ok true ∧
      (matches? (lower "[A-C]{2}") (lower "1Ba")).toOption =
        (matches? "[A-C]{2}" "1Ba").toOption := by
  have hspelt : isSpeltOut "^(?:RE|AW):".toList = true := by decide +kernel
  refine ⟨hspelt, (matches?_lower _ _).2 ?_, by decide +kernel, (matches?_lower _ _).2 ?_⟩
  · exact Or.inr (Or.inr (Or.inr hspelt))
  · exact Or.inr (Or.inr (Or.inl capitals_readAlike))

/-- A capital behind a backslash is no other case of the small letter: `\S` stands for what is no
blank, and `\s` for a blank. -/
theorem capital_escape_reversed :
    matches? "\\S" "a" = .ok true ∧ matches? (lower "\\S") (lower "a") = .ok false := by
  decide +kernel

end Postroom.Pattern
