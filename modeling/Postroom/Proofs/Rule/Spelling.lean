import Mathlib.Data.List.Nodup
import Postroom.Proofs.Rule.Meaning
import Postroom.Proofs.Text.Lower

/-! # How operators are spelled

An operator is read in any case of letters, so by itself its spelling has no influence
(`decides_lower`), and what is unknown is reported in lower case either way.  But the
operators of a rule are looked at in the order of their names as they are written, and
capitals come before small letters.  A rule with an `OR` and an `and` looks at the `OR`
first, and at the `and` first once both are in lower case.

The first operator that decides settles the rule, so there is one candidate in each of
the two orders (`Leads`).  Lower case changes what a rule comes to exactly if the two
candidates decide differently (`Overtaken`, `holds_lowered_iff`).
-/

namespace Postroom.Rule

open Header (Map)

theorem Operator.ofString_lower (s : String) :
    Operator.ofString (Text.lower s) = Operator.ofString s := by
  rw [Operator.ofString, Operator.ofString, Text.lower_lower]

/-- A rule with the names of its operators in lower case. -/
def lowered (rule : Rule) : Rule :=
  ⟨Assoc.ofList (rule.operators.map fun e => (Text.lower e.1, e.2))⟩

/-- A rule as it can be written: its operators are in the order of their names, and no two names
become equal in lower case. -/
structure Distinct (rule : Rule) : Prop where
  /-- The names ascend. -/
  ascending : rule.operators.Ascending
  /-- Lower case keeps the names apart. -/
  apart : (rule.operators.map fun e => Text.lower e.1).Nodup

variable {headers : Map} {rule : Rule} {key : String → String} {a b : String × List Predicate}

/-! ### What decides a rule -/

/-- What an operator decides for its rule, if it does not leave it to the next one. -/
def decides (headers : Map) (e : String × List Predicate) : Option (Except Fault Bool) :=
  match Operator.ofString e.1 with
  | .error fault => some (.error fault)
  | .ok .and => some (if e.2.isEmpty then .ok false else allHold headers e.2)
  | .ok .or =>
    match someHolds headers e.2 with
    | .ok false => none
    | verdict => some verdict

/-- Lower case does not change what an operator by itself decides. -/
theorem decides_lower (name : String) (predicates : List Predicate) :
    decides headers (Text.lower name, predicates) = decides headers (name, predicates) := by
  simp only [decides, Operator.ofString_lower]

/-- The first operator that decides settles the rule, and without one it does not match. -/
theorem operatorsMatch_eq (headers : Map) (operators : List (String × List Predicate)) :
    operatorsMatch headers operators =
      (operators.findSome? (decides headers)).getD (.ok false) := by
  induction operators with
  | nil => rfl
  | cons e rest ih =>
    obtain ⟨name, predicates⟩ := e
    rw [operatorsMatch, List.findSome?_cons, decides]
    cases Operator.ofString name with
    | error fault => rfl
    | ok operator =>
      cases operator with
      | and =>
        by_cases hempty : predicates.isEmpty
        · simp only [hempty, if_true]
          rfl
        · simp only [hempty]
          rfl
      | or =>
        rcases someHolds headers predicates with fault | _ | _
        · rfl
        · exact ih
        · rfl

/-- An operator decides, and no other that decides has a key before its own. -/
structure Leads (headers : Map) (key : String → String) (operators : List (String × List Predicate))
    (e : String × List Predicate) : Prop where
  /-- It is one of the operators. -/
  mem : e ∈ operators
  /-- It decides. -/
  decides : (decides headers e).isSome
  /-- Its key comes first. -/
  first : ∀ other ∈ operators, (Rule.decides headers other).isSome → key e.1 ≤ key other.1

/-- The operator that decides in the order of the names as they are written, and the one that does
in the order of the names in lower case, decide differently. -/
def Overtaken (rule : Rule) (headers : Map) : Prop :=
  ∃ a b, Leads headers id rule.operators a ∧ Leads headers Text.lower rule.operators b ∧
    decides headers a ≠ decides headers b

/-- If keys are different, one operator leads at most. -/
theorem Leads.unique {operators : List (String × List Predicate)}
    (hkeys : (operators.map fun e => key e.1).Nodup) (ha : Leads headers key operators a)
    (hb : Leads headers key operators b) : a = b := by
  have hab : key a.1 ≤ key b.1 := ha.first b hb.mem hb.decides
  have hba : key b.1 ≤ key a.1 := hb.first a ha.mem ha.decides
  exact List.inj_on_of_nodup_map hkeys ha.mem hb.mem (String.le_antisymm hab hba)

/-- A rule comes to what its leading operator decides, or there is none and it does not match. -/
theorem holds_cases {rule : Rule} (h : rule.operators.Ascending) (headers : Map) :
    (∃ e, Leads headers id rule.operators e ∧ decides headers e = some (rule.holds headers)) ∨
      ((∀ e ∈ rule.operators, decides headers e = none) ∧ rule.holds headers = .ok false) := by
  rw [Rule.holds, operatorsMatch_eq]
  cases hfind : rule.operators.findSome? (decides headers) with
  | none => exact Or.inr ⟨List.findSome?_eq_none_iff.mp hfind, rfl⟩
  | some verdict =>
    obtain ⟨front, e, back, hsplit, hdecides, hfront⟩ := List.findSome?_eq_some_iff.mp hfind
    rw [hsplit] at h ⊢
    obtain ⟨-, hback, -⟩ := List.pairwise_append.mp h
    refine Or.inl ⟨e, ⟨by simp, by simp [hdecides], fun other hother hsome => ?_⟩, hdecides⟩
    rcases List.mem_append.mp hother with hmem | hmem
    · rw [hfront other hmem] at hsome
      cases hsome
    · rcases List.mem_cons.mp hmem with rfl | hmem
      · exact String.le_refl _
      · exact Std.le_of_lt ((List.pairwise_cons.mp hback).1 other hmem)

/-! ### Lower case -/

theorem Distinct.mem_lowered (h : rule.Distinct) :
    a ∈ rule.lowered.operators ↔ ∃ e ∈ rule.operators, (Text.lower e.1, e.2) = a := by
  have hkeys : (Assoc.keys (rule.operators.map fun e => (Text.lower e.1, e.2))).Nodup := by
    rw [Assoc.keys, List.map_map]
    exact h.apart
  rw [lowered, (Assoc.ofList_perm hkeys).mem_iff, List.mem_map]

/-- What leads in a rule in lower case led in the rule by its name in lower case. -/
theorem Distinct.leads_of_lowered (h : rule.Distinct)
    (ha : Leads headers id rule.lowered.operators a) :
    ∃ e, Leads headers Text.lower rule.operators e ∧ decides headers e = decides headers a := by
  obtain ⟨⟨name, predicates⟩, he, rfl⟩ := h.mem_lowered.mp ha.mem
  have hdecides := ha.decides
  rw [decides_lower] at hdecides
  refine ⟨(name, predicates), ⟨he, hdecides, fun other hother hsome => ?_⟩,
    (decides_lower name predicates).symm⟩
  have hmem : (Text.lower other.1, other.2) ∈ rule.lowered.operators :=
    h.mem_lowered.mpr ⟨other, hother, rfl⟩
  have hsome' : (Rule.decides headers (Text.lower other.1, other.2)).isSome := by
    rwa [decides_lower]
  have hfirst := ha.first _ hmem hsome'
  rwa [id_eq, id_eq] at hfirst

/-- Lower case changes what a rule comes to exactly if its leading operator is overtaken. -/
theorem Distinct.holds_lowered_iff (h : rule.Distinct) (headers : Map) :
    rule.lowered.holds headers = rule.holds headers ↔ ¬ rule.Overtaken headers := by
  have hlowered : rule.lowered.operators.Ascending := Assoc.Ascending.ofList _
  have hnames : (rule.operators.map fun e => id e.1).Nodup := h.ascending.keys_nodup
  rcases holds_cases h.ascending headers with ⟨a, ha, hverdict⟩ | ⟨hnone, hfalse⟩
  · rcases holds_cases hlowered headers with ⟨b, hb, hverdict'⟩ | ⟨hnone', -⟩
    · obtain ⟨e, he, hsame⟩ := h.leads_of_lowered hb
      rw [← Option.some_inj, ← hverdict', ← hverdict, ← hsame]
      constructor
      · rintro heq ⟨a', b', ha', hb', hne⟩
        rw [Leads.unique hnames ha' ha, Leads.unique h.apart hb' he] at hne
        exact hne heq.symm
      · intro hnot
        by_cases hsame' : decides headers e = decides headers a
        · exact hsame'
        · exact absurd ⟨a, e, ha, he, Ne.symm hsame'⟩ hnot
    · -- What decides as it is written decides in lower case as well.
      have hmem : (Text.lower a.1, a.2) ∈ rule.lowered.operators :=
        h.mem_lowered.mpr ⟨a, ha.mem, rfl⟩
      have habsurd := hnone' _ hmem
      rw [decides_lower, hverdict] at habsurd
      cases habsurd
  · have hnone' : ∀ e ∈ rule.lowered.operators, decides headers e = none := by
      intro e he
      obtain ⟨e, hmem, rfl⟩ := h.mem_lowered.mp he
      rw [decides_lower]
      exact hnone e hmem
    have hfalse' : rule.lowered.holds headers = .ok false := by
      rw [Rule.holds, operatorsMatch_eq, List.findSome?_eq_none_iff.mpr hnone']
      rfl
    refine iff_of_true (hfalse'.trans hfalse.symm) ?_
    rintro ⟨a, -, ha, -, -⟩
    have hsome := ha.decides
    rw [hnone a ha.mem] at hsome
    cases hsome

theorem anyM_congr {α β : Type} {test : α → Except Fault Bool} {test' : β → Except Fault Bool}
    {f : α → β} {l : List α} (h : ∀ a ∈ l, test' (f a) = test a) :
    anyM test' (l.map f) = anyM test l := by
  induction l with
  | nil => rfl
  | cons a rest ih =>
    obtain ⟨ha, hrest⟩ := List.forall_mem_cons.mp h
    rw [List.map_cons, anyM, anyM, ha, ih hrest]

/-- **Operator names ignore case where none is overtaken.**  Lower case leaves what a rule comes to,
its fault included, exactly if the operator that decides as it is written is not overtaken, and it
leaves what a list of rules comes to if that is so of every rule. -/
theorem anyHolds_lowered {rules : List Rule} (h : ∀ rule ∈ rules, rule.Distinct) (headers : Map) :
    (∀ rule ∈ rules,
      (rule.lowered.holds headers = rule.holds headers ↔ ¬ rule.Overtaken headers)) ∧
      ((∀ rule ∈ rules, ¬ rule.Overtaken headers) →
        anyHolds (rules.map lowered) headers = anyHolds rules headers) := by
  have hiff : ∀ rule ∈ rules,
      (rule.lowered.holds headers = rule.holds headers ↔ ¬ rule.Overtaken headers) :=
    fun rule hrule => (h rule hrule).holds_lowered_iff headers
  refine ⟨hiff, fun hnot => ?_⟩
  exact anyM_congr fun rule hrule => (hiff rule hrule).mpr (hnot rule hrule)

/-- In a rule with an `Or` and an `xor` the names are in one order either way, and in one with an
`OR` and an `and` the `OR` is overtaken. -/
theorem spelling_of_two_rules :
    let headers : Map := ⟨[("from", .single "a")]⟩
    let kept : Rule := ⟨[("Or", [⟨"from", .one ""⟩]), ("XOR", [])]⟩
    let overtaken : Rule := ⟨[("OR", [⟨"from", .one "a"⟩]), ("and", [⟨"from", .one ""⟩])]⟩
    (∀ rule ∈ [kept, overtaken], rule.Distinct) ∧ overtaken.Overtaken headers ∧
      ¬ kept.Overtaken headers ∧
      anyHolds [kept.lowered] headers = .error (.unsupportedOperator "xor") := by
  intro headers kept overtaken
  have hdistinct : ∀ rule ∈ [kept, overtaken], rule.Distinct := by
    have hascending : ∀ rule ∈ [kept, overtaken], rule.operators.Pairwise fun a b => a.1 < b.1 := by
      decide +kernel
    have hapart :
        ∀ rule ∈ [kept, overtaken], (rule.operators.map fun e => Text.lower e.1).Nodup := by
      decide +kernel
    exact fun rule hrule => ⟨hascending rule hrule, hapart rule hrule⟩
  obtain ⟨hiff, -⟩ := anyHolds_lowered hdistinct headers
  have hkept : ∀ rule ∈ [kept], rule.Distinct := fun rule hrule =>
    hdistinct rule (List.mem_cons.mpr (Or.inl (List.mem_singleton.mp hrule)))
  obtain ⟨-, hlist⟩ := anyHolds_lowered hkept headers
  have hnot : ¬ kept.Overtaken headers := (hiff kept (by simp)).mp (by decide +kernel)
  refine ⟨hdistinct, ?_, hnot, ?_⟩
  · by_contra hnone
    have hsame := (hiff overtaken (by simp)).mpr hnone
    exact absurd hsame (by decide +kernel)
  · have hsame := hlist fun rule hrule => by
      obtain rfl := List.mem_singleton.mp hrule
      exact hnot
    exact hsame.trans (by decide +kernel)

/-- As it is written the `OR` of this rule comes first and matches; in lower case the `and` comes
first and fails. -/
theorem capitals_come_first :
    let headers : Map := ⟨[("from", .single "a")]⟩
    let rule : Rule := ⟨[("OR", [⟨"from", .one "a"⟩]), ("and", [⟨"from", .one "b"⟩])]⟩
    rule.Distinct ∧ anyHolds [rule] headers = .ok true ∧
      anyHolds [rule.lowered] headers = .ok false := by
  intro headers rule
  refine ⟨⟨?_, by decide +kernel⟩, by decide +kernel, by decide +kernel⟩
  have hascending : rule.operators.Pairwise fun a b => a.1 < b.1 := by decide +kernel
  exact hascending

end Postroom.Rule
