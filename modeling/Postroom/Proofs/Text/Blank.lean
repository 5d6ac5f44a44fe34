import Mathlib.Data.List.TakeWhile
import Postroom.Text.Blank

/-! # Trimming

Trimming takes white space from both ends of a text and stops at the first character of each end
that is something else.  So a text is what trimming leaves with white space around it
(`exists_trim`), and whatever has other characters at its ends is left by trimming if it has white
space around it (`trim_between`).
-/

namespace Postroom.Text

variable {cs lead trail : List Char}

/-- Texts of nothing but white space. -/
def AllBlank (cs : List Char) : Prop := ∀ c ∈ cs, isBlank c = true

/-- Whether a text does not begin with white space. -/
def beginsTrimmed (cs : List Char) : Bool := cs.head?.all (!isBlank ·)

/-- Whether a text does not end with white space. -/
def endsTrimmed (cs : List Char) : Bool := cs.getLast?.all (!isBlank ·)

theorem allBlank_nil : AllBlank [] := List.forall_mem_nil _

theorem allBlank_append : AllBlank (lead ++ trail) ↔ AllBlank lead ∧ AllBlank trail :=
  List.forall_mem_append

/-- White space in front is dropped up to the first other character. -/
theorem trimStart_append (hlead : AllBlank lead) (hcs : beginsTrimmed cs = true) :
    trimStart (lead ++ cs) = cs := by
  rw [trimStart, List.dropWhile_append_of_pos hlead]
  cases cs with
  | nil => rfl
  | cons c cs => exact List.dropWhile_cons_of_neg (by simpa [beginsTrimmed] using hcs)

/-- White space behind is dropped up to the last other character. -/
theorem trimEnd_append (htrail : AllBlank trail) (hcs : endsTrimmed cs = true) :
    trimEnd (cs ++ trail) = cs := by
  have hreverse : trimStart (trail.reverse ++ cs.reverse) = cs.reverse :=
    trimStart_append (fun c hc => htrail c (List.mem_reverse.mp hc))
      (by rwa [beginsTrimmed, List.head?_reverse])
  rw [trimStart, ← List.reverse_append] at hreverse
  rw [trimEnd, hreverse, List.reverse_reverse]

/-- A text with other characters at its ends is found again between white space. -/
theorem trim_between (hlead : AllBlank lead) (htrail : AllBlank trail)
    (hbegin : beginsTrimmed cs = true) (hend : endsTrimmed cs = true) :
    trim (lead ++ cs ++ trail) = cs := by
  cases cs with
  | nil =>
    have hall : AllBlank (lead ++ [] ++ trail) := by
      simpa using allBlank_append.mpr ⟨hlead, htrail⟩
    rw [trim, ← List.append_nil (lead ++ [] ++ trail), trimStart_append hall rfl]
    rfl
  | cons c cs =>
    have hstart : trimStart (lead ++ (c :: cs ++ trail)) = c :: cs ++ trail :=
      trimStart_append hlead hbegin
    rw [trim, List.append_assoc, hstart, trimEnd_append htrail hend]

theorem exists_trimStart (cs : List Char) : ∃ lead, AllBlank lead ∧ cs = lead ++ trimStart cs :=
  ⟨cs.takeWhile isBlank, fun _ => List.mem_takeWhile_imp,
    (List.takeWhile_append_dropWhile (p := isBlank)).symm⟩

theorem exists_trimEnd (cs : List Char) : ∃ trail, AllBlank trail ∧ cs = trimEnd cs ++ trail := by
  obtain ⟨lead, hlead, hreverse⟩ := exists_trimStart cs.reverse
  refine ⟨lead.reverse, fun c hc => hlead c (List.mem_reverse.mp hc), ?_⟩
  rw [trimEnd, ← trimStart, ← List.reverse_append, ← hreverse, List.reverse_reverse]

/-- Trimming leaves a text that has white space around it, and nothing else. -/
theorem exists_trim (cs : List Char) :
    ∃ lead trail, AllBlank lead ∧ AllBlank trail ∧ cs = lead ++ trim cs ++ trail := by
  obtain ⟨lead, hlead, hstart⟩ := exists_trimStart cs
  obtain ⟨trail, htrail, hend⟩ := exists_trimEnd (trimStart cs)
  refine ⟨lead, trail, hlead, htrail, ?_⟩
  rw [trim, List.append_assoc, ← hend, ← hstart]

theorem endsTrimmed_of_append (h : endsTrimmed (lead ++ cs) = true) : endsTrimmed cs = true := by
  rw [endsTrimmed, List.getLast?_append] at h
  rw [endsTrimmed]
  cases hlast : cs.getLast? with
  | none => rfl
  | some c => rwa [hlast, Option.some_or] at h

/-- No white space is left at the end. -/
theorem endsTrimmed_trim (cs : List Char) : endsTrimmed (trim cs) = true := by
  rw [endsTrimmed, trim, trimEnd, List.getLast?_reverse]
  have hfirst := List.head?_dropWhile_not isBlank (trimStart cs).reverse
  cases hhead : ((trimStart cs).reverse.dropWhile isBlank).head? with
  | none => rfl
  | some c => simpa [hhead] using hfirst

/-- A text that ends with another character has white space only before what trimming leaves. -/
theorem exists_trim_of_end (h : endsTrimmed cs = true) :
    ∃ lead, AllBlank lead ∧ cs = lead ++ trim cs := by
  obtain ⟨lead, hlead, hstart⟩ := exists_trimStart cs
  have hend : trimEnd (trimStart cs) = trimStart cs := by
    have hkept : trimEnd (trimStart cs ++ []) = trimStart cs :=
      trimEnd_append allBlank_nil (endsTrimmed_of_append (hstart ▸ h))
    rwa [List.append_nil] at hkept
  exact ⟨lead, hlead, by rw [trim, hend, ← hstart]⟩

/-- Trimming takes nothing but white space. -/
theorem mem_trim {c : Char} (hc : isBlank c = false) : c ∈ trim cs ↔ c ∈ cs := by
  obtain ⟨lead, trail, hlead, htrail, heq⟩ := exists_trim cs
  have hout {blanks : List Char} (h : AllBlank blanks) : c ∉ blanks := fun hmem => by
    rw [h c hmem] at hc
    cases hc
  have hmem : c ∈ lead ++ trim cs ++ trail ↔ c ∈ trim cs := by simp [hout hlead, hout htrail]
  rw [← heq] at hmem
  exact hmem.symm

theorem trim_eq_nil_iff : trim cs = [] ↔ ∀ c ∈ cs, isBlank c = true := by
  constructor
  · intro hnil
    obtain ⟨lead, trail, hlead, htrail, heq⟩ := exists_trim cs
    rw [hnil, List.append_nil] at heq
    rw [heq]
    exact allBlank_append.mpr ⟨hlead, htrail⟩
  · intro hblank
    have hbetween : trim (cs ++ [] ++ []) = [] := trim_between hblank allBlank_nil rfl rfl
    simpa using hbetween

end Postroom.Text
