import Postroom.Duration
import Postroom.Proofs.Text.Blank
import Postroom.Proofs.Text.Decimal

/-! # How a duration is written

A duration is written as a number in digits and a unit, with white space between them or not
(`Spells`).  What is in front of the first character that is no digit can only be the number, and
what is behind it, trimmed, only the unit; so a text is taken apart in one way
(`read_eq_ok_iff`).  A number of minutes or hours is multiplied before it is held, and refused if
the product is too large.
-/

namespace Postroom.Duration

open Text

/-- A unit of time. -/
inductive Scale where
  /-- Seconds. -/
  | seconds
  /-- Milliseconds. -/
  | millis
  /-- Minutes. -/
  | minutes
  /-- Hours. -/
  | hours
deriving Repr, DecidableEq

namespace Scale

/-- The ways to write a unit. -/
def spellings : Scale → List String
  | seconds => ["", "s"]
  | millis => ["ms"]
  | minutes => ["m"]
  | hours => ["h"]

/-- The nanoseconds in a unit. -/
def nanos : Scale → Nat
  | seconds => 1000000000
  | millis => 1000000
  | minutes => 60 * 1000000000
  | hours => 3600 * 1000000000

/-- What a number of a unit is multiplied by to be held. -/
def factor : Scale → Nat
  | seconds | millis => 1
  | minutes => 60
  | hours => 3600

/-- A number of a unit, as it is held. -/
def times (n : Nat) : Scale → Duration
  | seconds => ofSeconds n
  | millis => ofMillis n
  | minutes => ofSeconds (n * 60)
  | hours => ofSeconds (n * 3600)

end Scale

/-- The length of a duration in nanoseconds. -/
def total (d : Duration) : Nat := d.seconds * 1000000000 + d.nanos

/-- A text says a number of a unit: it has one or more digits for the number, white space or none,
and the unit.  The number can be held in 64 bits, and in seconds too where the unit is longer. -/
structure Spells (text : List Char) (n : Nat) (u : Scale) : Prop where
  /-- The parts of the text. -/
  parts : ∃ digits gap unit, text = digits ++ gap ++ unit.toList ∧
    digits ≠ [] ∧ (∀ c ∈ digits, c.isDigit = true) ∧ Nat.ofDigitChars 10 digits 0 = n ∧
    AllBlank gap ∧ unit ∈ u.spellings
  /-- The number can be held. -/
  held : n ≤ Decimal.maxUInt64
  /-- So can the product. -/
  fits : n * u.factor ≤ Decimal.maxUInt64

/-! ### Units -/

/-- A duration is that number of a unit if it is as long, and less than a second is left beside the
whole ones. -/
theorem eq_times_iff (d : Duration) (n : Nat) (u : Scale) :
    d = u.times n ↔ d.total = n * u.nanos ∧ d.nanos < 1000000000 := by
  obtain ⟨seconds, nanos⟩ := d
  cases u <;>
    simp only [Scale.times, ofSeconds, ofMillis, total, Scale.nanos, Duration.mk.injEq] <;> omega

theorem seconds_times_le {n : Nat} {u : Scale} (hn : n ≤ Decimal.maxUInt64)
    (hfits : n * u.factor ≤ Decimal.maxUInt64) : (u.times n).seconds ≤ Decimal.maxUInt64 := by
  cases u with
  | seconds => exact hn
  | millis => exact Nat.le_trans (Nat.div_le_self n 1000) hn
  | minutes | hours => exact hfits

/-- A number of minutes or hours is refused if it is too large in seconds. -/
theorem ofUnit_eq_ok_iff {text unit : String} {n : Nat} {d : Duration}
    (hn : n ≤ Decimal.maxUInt64) :
    ofUnit text n unit = .ok d ↔
      ∃ u : Scale, unit ∈ u.spellings ∧ n * u.factor ≤ Decimal.maxUInt64 ∧ d = u.times n := by
  have hscaled : ∀ factor, scaled text n factor = .ok d ↔
      n * factor ≤ Decimal.maxUInt64 ∧ d = ofSeconds (n * factor) := by
    intro factor
    unfold scaled
    split
    · next hfits => simp [hfits, eq_comm]
    · next hfits => simp [hfits]
  constructor
  · intro h
    unfold ofUnit at h
    split at h
    · exact ⟨.seconds, by decide, by rwa [Scale.factor, Nat.mul_one], (Except.ok.inj h).symm⟩
    · exact ⟨.seconds, by decide, by rwa [Scale.factor, Nat.mul_one], (Except.ok.inj h).symm⟩
    · exact ⟨.millis, by decide, by rwa [Scale.factor, Nat.mul_one], (Except.ok.inj h).symm⟩
    · obtain ⟨hfits, hd⟩ := (hscaled 60).mp h
      exact ⟨.minutes, by decide, hfits, hd⟩
    · obtain ⟨hfits, hd⟩ := (hscaled 3600).mp h
      exact ⟨.hours, by decide, hfits, hd⟩
    · cases h
  · rintro ⟨u, hunit, hfits, rfl⟩
    cases u with
    | seconds =>
      simp only [Scale.spellings, List.mem_cons, List.not_mem_nil, or_false] at hunit
      rcases hunit with rfl | rfl <;> rfl
    | millis =>
      obtain rfl := List.mem_singleton.mp hunit
      rfl
    | minutes =>
      obtain rfl := List.mem_singleton.mp hunit
      exact if_pos hfits
    | hours =>
      obtain rfl := List.mem_singleton.mp hunit
      exact if_pos hfits

/-- No unit begins with a digit, and none has white space at its ends. -/
theorem spellings_plain (u : Scale) : ∀ unit ∈ u.spellings, beginsTrimmed unit.toList = true ∧
    endsTrimmed unit.toList = true ∧ unit.toList.head?.all (!Char.isDigit ·) = true := by
  cases u <;> decide

/-! ### Texts -/

theorem isDigit_eq_false_of_isBlank {c : Char} (h : isBlank c = true) : c.isDigit = false := by
  rw [Bool.eq_false_iff]
  intro hdigit
  have hrange : 48 ≤ c.toNat ∧ c.toNat ≤ 57 := by
    simpa [Char.isDigit, UInt32.le_iff_toNat_le] using hdigit
  have hnone : ∀ n < 58, 48 ≤ n → blanks.has n = false := by decide
  rw [isBlank, hnone c.toNat (by omega) hrange.1] at h
  cases h

/-- Digits end where something else begins. -/
theorem takeWhile_digits {digits rest : List Char} (hdigits : ∀ c ∈ digits, c.isDigit = true)
    (hrest : rest.head?.all (!Char.isDigit ·) = true) :
    (digits ++ rest).takeWhile Char.isDigit = digits ∧
      (digits ++ rest).dropWhile Char.isDigit = rest := by
  have hstop : rest.takeWhile Char.isDigit = [] ∧ rest.dropWhile Char.isDigit = rest := by
    cases rest with
    | nil => exact ⟨rfl, rfl⟩
    | cons c rest =>
      have hc : c.isDigit = false := by simpa using hrest
      simp [hc]
  rw [List.takeWhile_append_of_pos hdigits, List.dropWhile_append_of_pos hdigits, hstop.1, hstop.2,
    List.append_nil]
  exact ⟨rfl, rfl⟩

/-- What is read is what is written. -/
theorem read_eq_ok_iff (s : String) (d : Duration) :
    read s = .ok d ↔ ∃ n u, Spells (trim s.toList) n u ∧ d = u.times n := by
  constructor
  · intro h
    have hdigits : ∀ c ∈ (trim s.toList).takeWhile Char.isDigit, c.isDigit = true :=
      fun c hc => List.mem_takeWhile_imp hc
    have hsplit := List.takeWhile_append_dropWhile (p := Char.isDigit) (l := trim s.toList)
    unfold read at h
    simp only [Decimal.readUpTo?_of_digits hdigits] at h
    split at h
    · cases h
    next n hn =>
    obtain ⟨⟨hne, hheld⟩, hvalue⟩ := Option.ite_none_right_eq_some.mp hn
    obtain rfl := Option.some.inj hvalue
    obtain ⟨u, hunit, hfits, hd⟩ := (ofUnit_eq_ok_iff hheld).mp h
    -- The text is trimmed, so there is no white space behind the unit.
    have hend : endsTrimmed ((trim s.toList).dropWhile Char.isDigit) = true :=
      endsTrimmed_of_append (hsplit.symm ▸ endsTrimmed_trim s.toList)
    obtain ⟨gap, hgap, hrest⟩ := exists_trim_of_end hend
    refine ⟨_, u, ⟨⟨_, gap, _, ?_, hne, hdigits, rfl, hgap, hunit⟩, hheld, hfits⟩, hd⟩
    rw [String.toList_ofList, List.append_assoc, ← hrest, hsplit]
  · rintro ⟨n, u, ⟨⟨digits, gap, unit, htext, hne, hdigits, rfl, hgap, hunit⟩, hheld, hfits⟩, rfl⟩
    obtain ⟨hbegin, hend, hfirst⟩ := spellings_plain u unit hunit
    have hrest : (gap ++ unit.toList).head?.all (!Char.isDigit ·) = true := by
      cases gap with
      | nil => exact hfirst
      | cons c gap => simp [isDigit_eq_false_of_isBlank (hgap c List.mem_cons_self)]
    obtain ⟨htake, hdrop⟩ := takeWhile_digits hdigits hrest
    have htrim : trim (gap ++ unit.toList) = unit.toList := by
      have hbetween : trim (gap ++ unit.toList ++ []) = unit.toList :=
        trim_between hgap allBlank_nil hbegin hend
      rwa [List.append_nil] at hbetween
    rw [List.append_assoc] at htext
    unfold read
    simp only [htext, htake, hdrop, htrim, Decimal.readUpTo?_of_digits hdigits,
      if_pos (And.intro hne hheld), String.ofList_toList]
    exact (ofUnit_eq_ok_iff hheld).mpr ⟨u, hunit, hfits, rfl⟩

/-- **A duration is read exactly as it is written.**  A text is read as a duration if it says, apart
from white space around it, a number of a unit that can be held, and that duration is as long as it
says, to the nanosecond; it has at most as many whole seconds as can be held in 64 bits, and less
than a second beside them.  Every other text is refused. -/
theorem read_exact (s : String) :
    (∀ d, read s = .ok d ↔ ∃ n u, Spells (trim s.toList) n u ∧ d.total = n * u.nanos ∧
      d.nanos < 1000000000 ∧ d.seconds ≤ Decimal.maxUInt64) ∧
    ((∃ fault, read s = .error fault) ↔ ¬ ∃ n u, Spells (trim s.toList) n u) := by
  constructor
  · intro d
    rw [read_eq_ok_iff]
    refine exists_congr fun n => exists_congr fun u => and_congr_right fun hspells => ?_
    constructor
    · intro hd
      obtain ⟨htotal, hnanos⟩ := (eq_times_iff d n u).mp hd
      exact ⟨htotal, hnanos, hd ▸ seconds_times_le hspells.held hspells.fits⟩
    · rintro ⟨htotal, hnanos, -⟩
      exact (eq_times_iff d n u).mpr ⟨htotal, hnanos⟩
  · cases hread : read s with
    | error fault =>
      refine iff_of_true ⟨fault, rfl⟩ ?_
      rintro ⟨n, u, hspells⟩
      rw [(read_eq_ok_iff s _).mpr ⟨n, u, hspells, rfl⟩] at hread
      cases hread
    | ok d =>
      obtain ⟨n, u, hspells, -⟩ := (read_eq_ok_iff s d).mp hread
      refine iff_of_false ?_ (not_not_intro ⟨n, u, hspells⟩)
      rintro ⟨fault, h⟩
      cases h

/-- The most minutes that can be held, with blanks and a leading zero, and one more. -/
example : read "  0307445734561825860\u2003m\n" = .ok ⟨18446744073709551600, 0⟩ ∧
    read "307445734561825861m" = .error (.tooLarge "307445734561825861m") := by decide +kernel

end Postroom.Duration
