import Postroom.Filter
import Postroom.Proofs.Server.Command

/-! # The order of filters

Filters are tried by priority, and by name where priorities are equal
(`Filter.Precedes`).  The order comes from two sources: names ascend in a table, and
sorting by priority leaves entries of one priority as they were.  So the filter that
matches a message first is the one that matches it and that no matching filter
precedes (`Filter.isFirst_of_firstMatch`).
-/

namespace Postroom.Filter

/-- Which of two filters is tried before the other. -/
def Precedes (a b : String × Filter) : Prop :=
  a.2.priority < b.2.priority ∨ a.2.priority = b.2.priority ∧ a.1 < b.1

/-- The filter whose rules match some headers while those of all filters before it do not; nothing
if the rules of no filter match. -/
def IsFirst (filters : Assoc Filter) (headers : Header.Map) : Option Filter → Prop
  | some filter => ∃ name, (name, filter) ∈ filters ∧
      Rule.anyHolds filter.rules headers = .ok true ∧
      ∀ e ∈ filters, Precedes e (name, filter) → Rule.anyHolds e.2.rules headers = .ok false
  | none => ∀ e ∈ filters, Rule.anyHolds e.2.rules headers = .ok false

variable {filters : Assoc Filter} {headers : Header.Map}

theorem precedes_asymm {a b : String × Filter} (hab : Precedes a b) : ¬ Precedes b a := by
  rintro (hba | ⟨hba, hname⟩) <;> rcases hab with h | ⟨h, hname'⟩
  · omega
  · omega
  · omega
  · exact String.lt_asymm hname hname'

theorem priority_trans (a b c : String × Filter) (hab : decide (a.2.priority ≤ b.2.priority) = true)
    (hbc : decide (b.2.priority ≤ c.2.priority) = true) :
    decide (a.2.priority ≤ c.2.priority) = true :=
  decide_eq_true (Int.le_trans (of_decide_eq_true hab) (of_decide_eq_true hbc))

theorem priority_total (a b : String × Filter) :
    (decide (a.2.priority ≤ b.2.priority) || decide (b.2.priority ≤ a.2.priority)) = true := by
  rcases Int.le_total a.2.priority b.2.priority with h | h <;> simp [h]

/-- Sorting by priority puts no filter before another of a lower priority. -/
theorem pairwise_priority (filters : Assoc Filter) :
    (ordered filters).Pairwise fun a b => a.2.priority ≤ b.2.priority :=
  (List.pairwise_mergeSort priority_trans priority_total filters).imp of_decide_eq_true

/-- Sorting by priority leaves the filters of one priority in their order. -/
theorem filter_ordered (filters : Assoc Filter) (priority : Int) :
    (ordered filters).filter (fun e => e.2.priority = priority) =
      filters.filter fun e => e.2.priority = priority := by
  have hequal : (filters.filter fun e => e.2.priority = priority).Pairwise fun a b =>
      decide (a.2.priority ≤ b.2.priority) = true := by
    refine List.Pairwise.imp_of_mem (R := fun _ _ => True) (fun {a b} ha hb _ => ?_)
      (List.pairwise_of_forall fun _ _ => trivial)
    have hapriority := of_decide_eq_true (List.mem_filter.mp ha).2
    have hbpriority := of_decide_eq_true (List.mem_filter.mp hb).2
    rw [hapriority, hbpriority]
    exact decide_eq_true (Int.le_refl priority)
  have hsublist := (List.sublist_mergeSort priority_trans priority_total hequal
    List.filter_sublist).filter fun e => decide (e.2.priority = priority)
  simp only [List.filter_filter, Bool.and_self] at hsublist
  -- The filters of one priority are a sublist of themselves in order, and no fewer.
  refine (hsublist.eq_of_length ?_).symm
  exact ((List.mergeSort_perm filters _).filter _).length_eq.symm

theorem pairwise_ordered (h : filters.Ascending) : (ordered filters).Pairwise Precedes := by
  refine List.pairwise_iff_forall_sublist.mpr fun {a b} hab => ?_
  have hle := List.pairwise_iff_forall_sublist.mp (pairwise_priority filters) hab
  rcases Int.lt_or_eq_of_le hle with hlt | heq
  · exact Or.inl hlt
  · -- Both have one priority, and stand in the table as they stand in order.
    have hsame := hab.filter fun e => decide (e.2.priority = b.2.priority)
    rw [filter_ordered] at hsame
    have htable : [a, b].Sublist filters := by
      simpa [heq] using hsame.trans List.filter_sublist
    exact Or.inr ⟨heq, List.pairwise_iff_forall_sublist.mp h htable⟩

/-- Filters are tried up to the first that matches. -/
theorem firstMatch_eq_some {l : List (String × Filter)} {filter : Filter}
    (h : firstMatch headers l = .ok (some filter)) :
    ∃ name before after, l = before ++ (name, filter) :: after ∧
      Rule.anyHolds filter.rules headers = .ok true ∧
      ∀ e ∈ before, Rule.anyHolds e.2.rules headers = .ok false := by
  induction l with
  | nil => cases h
  | cons head rest ih =>
    obtain ⟨name, first⟩ := head
    obtain ⟨holds, hholds, h⟩ := bind_eq_ok_iff.mp h
    split at h
    · next htrue =>
      obtain rfl := Option.some.inj (Except.ok.inj h)
      exact ⟨name, [], rest, rfl, by rw [hholds, htrue], by simp⟩
    · next hfalse =>
      obtain ⟨other, before, after, rfl, hmatch, hbefore⟩ := ih h
      refine ⟨other, (name, first) :: before, after, rfl, hmatch, fun e he => ?_⟩
      rcases List.mem_cons.mp he with rfl | he
      · rw [hholds, Bool.eq_false_iff.mpr hfalse]
      · exact hbefore e he

theorem firstMatch_eq_none {l : List (String × Filter)} (h : firstMatch headers l = .ok none) :
    ∀ e ∈ l, Rule.anyHolds e.2.rules headers = .ok false := by
  induction l with
  | nil => simp
  | cons head rest ih =>
    obtain ⟨name, first⟩ := head
    obtain ⟨holds, hholds, h⟩ := bind_eq_ok_iff.mp h
    split at h
    · cases h
    · next hfalse =>
      refine List.forall_mem_cons.mpr ⟨?_, ih h⟩
      rw [hholds, Bool.eq_false_iff.mpr hfalse]

theorem isFirst_of_firstMatch (hfilters : filters.Ascending) {choice : Option Filter}
    (h : firstMatch headers (ordered filters) = .ok choice) : IsFirst filters headers choice := by
  cases choice with
  | none => exact fun e he => firstMatch_eq_none h e (List.mem_mergeSort.mpr he)
  | some filter =>
    obtain ⟨name, before, after, heq, hmatch, hbefore⟩ := firstMatch_eq_some h
    have hpairwise := heq ▸ pairwise_ordered hfilters
    have hin : (name, filter) ∈ ordered filters := by simp [heq]
    refine ⟨name, List.mem_mergeSort.mp hin, hmatch, fun e he hprecedes => ?_⟩
    have he' : e ∈ ordered filters := List.mem_mergeSort.mpr he
    rw [heq] at he'
    -- A filter before it in order is before it in the list.
    rcases List.mem_append.mp he' with hmem | hmem
    · exact hbefore e hmem
    · obtain ⟨-, htail, -⟩ := List.pairwise_append.mp hpairwise
      obtain ⟨hafter, -⟩ := List.pairwise_cons.mp htail
      rcases List.mem_cons.mp hmem with rfl | hmem
      · exact absurd hprecedes (precedes_asymm hprecedes)
      · exact absurd hprecedes (precedes_asymm (hafter e hmem))

end Postroom.Filter
