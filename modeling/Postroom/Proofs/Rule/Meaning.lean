import Mathlib.Control.Monad.Basic
import Postroom.Proofs.Table
import Postroom.Rule

/-! # What rules mean

Rules are evaluated by loops that stop early: over rules, operators, predicates,
patterns and texts.  Their meaning needs no order (`Rule.Matches`): with an `and` a rule
matches if there are predicates under it and all of them are met, and with an `or` alone
if one of those under it is met.

`Answers` ties an evaluation that can fail to a statement, and each loop answers what it
is for (`anyM_answers`, `someHolds_answers`, `allHold_answers`).  It takes more than that
where operators follow each other, since the `and` decides before the `or` is looked at.
The names ascend, so a rule in lower case is one of four (`Plain.cases`), and in the one
that has both operators the `and` comes first.
-/

namespace Postroom

/-- An evaluation succeeds, and says whether a statement holds. -/
def Answers (evaluation : Except Fault Bool) (statement : Prop) : Prop :=
  ∃ b, evaluation = .ok b ∧ (b = true ↔ statement)

namespace Answers

variable {evaluation : Except Fault Bool} {P Q : Prop}

theorem of_true (h : P) : Answers (.ok true) P := ⟨true, rfl, iff_of_true rfl h⟩

theorem of_false (h : ¬ P) : Answers (.ok false) P :=
  ⟨false, rfl, iff_of_false Bool.false_ne_true h⟩

theorem congr (h : Answers evaluation P) (hiff : P ↔ Q) : Answers evaluation Q := by
  obtain ⟨b, hb, hP⟩ := h
  exact ⟨b, hb, hP.trans hiff⟩

/-- An evaluation that goes on with one of two others. -/
theorem ite {R S : Prop} {yes no : Except Fault Bool} (h : Answers evaluation P)
    (hyes : P → Answers yes R) (hno : ¬ P → Answers no S) :
    Answers (do if ← evaluation then yes else no) (P ∧ R ∨ ¬ P ∧ S) := by
  obtain ⟨b, rfl, hP⟩ := h
  cases b with
  | true =>
    have hp : P := hP.mp rfl
    exact (hyes hp).congr (by simp [hp])
  | false =>
    have hp : ¬ P := fun hp => Bool.false_ne_true (hP.mpr hp)
    exact (hno hp).congr (by simp [hp])

end Answers

namespace Rule

open Header (Map Value)

variable {headers : Map}

/-! ### The meaning of rules -/

/-- A predicate is met if its header is there and one of its patterns matches one of the texts. -/
def Met (headers : Map) (p : Predicate) : Prop :=
  ∃ value, headers.get? p.header = some value ∧
    ∃ pattern ∈ p.alternatives.patterns, ∃ text ∈ value.texts, matchText pattern text = .ok true

/-- No pattern of a predicate is refused for a text of its header. -/
def Tried (headers : Map) (p : Predicate) : Prop :=
  ∀ value, headers.get? p.header = some value →
    ∀ pattern ∈ p.alternatives.patterns, ∀ text ∈ value.texts, ∃ b, matchText pattern text = .ok b

/-- Whether a rule matches.  If it has an `and`, its `or` plays no part. -/
def Matches (rule : Rule) (headers : Map) : Prop :=
  match rule.operators.get? "and" with
  | some predicates => predicates ≠ [] ∧ ∀ p ∈ predicates, Met headers p
  | none => ∃ predicates, rule.operators.get? "or" = some predicates ∧
      ∃ p ∈ predicates, Met headers p

/-- A rule whose operators are named in lower case. -/
structure Plain (rule : Rule) : Prop where
  /-- The operators are in the order of their names. -/
  ascending : rule.operators.Ascending
  /-- There is no other name. -/
  names : ∀ name ∈ rule.operators.keys, name = "and" ∨ name = "or"

/-! ### Predicates -/

/-- A test that is tried on one item after another answers whether some item passes it. -/
theorem anyM_answers {α : Type} {test : α → Except Fault Bool} {P : α → Prop} {l : List α}
    (h : ∀ a ∈ l, Answers (test a) (P a)) : Answers (anyM test l) (∃ a ∈ l, P a) := by
  induction l with
  | nil => exact .of_false (by simp)
  | cons a rest ih =>
    obtain ⟨hfirst, hrest⟩ := List.forall_mem_cons.mp h
    have hstep := hfirst.ite (R := True) (fun _ => .of_true trivial) fun _ => ih hrest
    refine hstep.congr ?_
    by_cases ha : P a <;> simp [ha]

theorem matchText_answers {pattern text : String} (h : ∃ b, matchText pattern text = .ok b) :
    Answers (matchText pattern text) (matchText pattern text = .ok true) := by
  obtain ⟨b, hb⟩ := h
  exact ⟨b, hb, by rw [hb, Except.ok.injEq]⟩

/-- A predicate on a header that is there answers whether it is met. -/
theorem holds_answers {p : Predicate} (h : Tried headers p) {value : Value}
    (hvalue : headers.get? p.header = some value) :
    Answers (Predicate.holds p.alternatives value) (Met headers p) := by
  have hpatterns := anyM_answers fun pattern hpattern =>
    anyM_answers fun text htext => matchText_answers (h value hvalue pattern hpattern text htext)
  refine hpatterns.congr ⟨fun hmet => ⟨value, hvalue, hmet⟩, ?_⟩
  rintro ⟨other, hother, hmet⟩
  obtain rfl : value = other := Option.some.inj (hvalue.symm.trans hother)
  exact hmet

theorem not_met_of_absent {p : Predicate} (h : headers.get? p.header = none) : ¬ Met headers p := by
  rintro ⟨value, hvalue, -⟩
  rw [h] at hvalue
  cases hvalue

variable {predicates : List Predicate}

theorem someHolds_answers (h : ∀ p ∈ predicates, Tried headers p) :
    Answers (someHolds headers predicates) (∃ p ∈ predicates, Met headers p) := by
  induction predicates with
  | nil => exact .of_false (by simp)
  | cons p rest ih =>
    obtain ⟨hfirst, hrest⟩ := List.forall_mem_cons.mp h
    rw [someHolds]
    cases hvalue : headers.get? p.header with
    | none =>
      have habsent := not_met_of_absent hvalue
      exact (ih hrest).congr (by simp [habsent])
    | some value =>
      have hstep := (holds_answers hfirst hvalue).ite (R := True) (fun _ => .of_true trivial)
        fun _ => ih hrest
      refine hstep.congr ?_
      by_cases hmet : Met headers p <;> simp [hmet]

/-- The first predicate that is not met decides, whether its header is absent or not. -/
theorem allHold_answers (h : ∀ p ∈ predicates, Tried headers p) :
    Answers (allHold headers predicates) (∀ p ∈ predicates, Met headers p) := by
  induction predicates with
  | nil => exact .of_true (by simp)
  | cons p rest ih =>
    obtain ⟨hfirst, hrest⟩ := List.forall_mem_cons.mp h
    rw [allHold, List.forall_mem_cons]
    cases hvalue : headers.get? p.header with
    | none =>
      have habsent := not_met_of_absent hvalue
      exact .of_false fun hall => habsent hall.1
    | some value =>
      have hstep := (holds_answers hfirst hvalue).ite (S := False) (fun _ => ih hrest)
        fun _ => .of_false id
      exact hstep.congr (by simp)

/-! ### Operators -/

/-- An `and` answers whether there are predicates and all are met, whatever comes behind it. -/
theorem and_answers (h : ∀ p ∈ predicates, Tried headers p)
    (rest : List (String × List Predicate)) :
    Answers (operatorsMatch headers (("and", predicates) :: rest))
      (predicates ≠ [] ∧ ∀ p ∈ predicates, Met headers p) := by
  have hand : operatorsMatch headers (("and", predicates) :: rest) =
      if predicates.isEmpty then .ok false else allHold headers predicates := rfl
  rw [hand]
  cases predicates with
  | nil => exact .of_false (by simp)
  | cons p more => exact (allHold_answers h).congr (by simp)

theorem or_answers (h : ∀ p ∈ predicates, Tried headers p) :
    Answers (operatorsMatch headers [("or", predicates)]) (∃ p ∈ predicates, Met headers p) := by
  have hor : operatorsMatch headers [("or", predicates)] =
      (do if ← someHolds headers predicates then return true else operatorsMatch headers []) := rfl
  rw [hor]
  have hstep := (someHolds_answers h).ite (R := True) (S := False) (fun _ => .of_true trivial)
    fun _ => .of_false id
  exact hstep.congr (by simp)

/-- A rule in lower case has an `and` or none, and behind it an `or` or none. -/
theorem Plain.cases {rule : Rule} (h : rule.Plain) :
    (∃ predicates rest, rule.operators = ("and", predicates) :: rest) ∨
      (∃ predicates, rule.operators = [("or", predicates)]) ∨ rule.operators = [] := by
  obtain ⟨hascending, hnames⟩ := h
  cases hops : rule.operators with
  | nil => exact Or.inr (Or.inr rfl)
  | cons head rest =>
    rw [hops] at hascending hnames
    obtain ⟨name, predicates⟩ := head
    rcases hnames name List.mem_cons_self with rfl | rfl
    · exact Or.inl ⟨predicates, rest, rfl⟩
    · -- Nothing comes behind an `or`: both names there are would have to be greater.
      refine Or.inr (Or.inl ⟨predicates, ?_⟩)
      cases rest with
      | nil => rfl
      | cons second more =>
        obtain ⟨hhead, -⟩ := List.pairwise_cons.mp hascending
        have hlt : "or" < second.1 := hhead second List.mem_cons_self
        rcases hnames second.1 (by simp [Assoc.keys]) with heq | heq
        · rw [heq] at hlt
          exact absurd hlt (by decide)
        · rw [heq] at hlt
          exact absurd hlt (String.lt_irrefl _)

/-- A rule in lower case answers whether it matches. -/
theorem Plain.answers {rule : Rule} (h : rule.Plain)
    (htried : ∀ e ∈ rule.operators, ∀ p ∈ e.2, Tried headers p) :
    Answers (rule.holds headers) (rule.Matches headers) := by
  unfold Rule.holds Rule.Matches
  rcases h.cases with ⟨predicates, rest, hops⟩ | ⟨predicates, hops⟩ | hops <;> rw [hops] at htried ⊢
  · have hpredicates := htried _ List.mem_cons_self
    exact (and_answers hpredicates rest).congr (by simp [Assoc.get?])
  · have hpredicates := htried _ List.mem_cons_self
    exact (or_answers hpredicates).congr (by simp [Assoc.get?])
  · exact .of_false (by simp)

/-- **Rules are evaluated to what they mean.**  If no pattern is refused, a list of rules in lower
case says whether one of them matches, and an `and` over a header that is absent fails its rule. -/
theorem anyHolds_answers {rules : List Rule} (hrules : ∀ rule ∈ rules, rule.Plain)
    (htried : ∀ rule ∈ rules, ∀ e ∈ rule.operators, ∀ p ∈ e.2, Tried headers p) :
    Answers (anyHolds rules headers) (∃ rule ∈ rules, rule.Matches headers) ∧
      ∀ rule ∈ rules, ∀ predicates p, rule.operators.get? "and" = some predicates →
        p ∈ predicates → headers.get? p.header = none → rule.holds headers = .ok false := by
  have hanswers : ∀ rule ∈ rules, Answers (rule.holds headers) (rule.Matches headers) :=
    fun rule hrule => (hrules rule hrule).answers (htried rule hrule)
  refine ⟨anyM_answers hanswers, fun rule hrule predicates p hand hp habsent => ?_⟩
  obtain ⟨b, hholds, hiff⟩ := hanswers rule hrule
  have hnot : ¬ rule.Matches headers := by
    unfold Rule.Matches
    rw [hand]
    exact fun hmatch => not_met_of_absent habsent (hmatch.2 p hp)
  cases b with
  | true => exact absurd (hiff.mp rfl) hnot
  | false => exact hholds

/-- Of three rules the first has an `and` that fails and an `or` that would not, the second looks at
a header that is absent, and the third is met by its second pattern. -/
theorem three_rules_answered :
    let headers : Map := ⟨[("from", .single "ab"), ("received", .multi ["ab", "b"])]⟩
    let rules : List Rule := [
      ⟨[("and", [⟨"from", .one "x"⟩]), ("or", [⟨"from", .one "A"⟩])]⟩,
      ⟨[("and", [⟨"from", .one "a"⟩, ⟨"x-missing", .one "("⟩])]⟩,
      ⟨[("or", [⟨"x-missing", .one "a"⟩, ⟨"Received", .several ["", "B"]⟩])]⟩]
    (∀ rule ∈ rules, rule.Plain) ∧
      (∀ rule ∈ rules, ∀ e ∈ rule.operators, ∀ p ∈ e.2, Tried headers p) ∧
      Answers (anyHolds rules headers) (∃ rule ∈ rules, rule.Matches headers) := by
  intro headers rules
  have hnames : ∀ rule ∈ rules, ∀ name ∈ rule.operators.keys, name = "and" ∨ name = "or" := by
    decide +kernel
  have hascending : ∀ rule ∈ rules, rule.operators.Pairwise fun a b => a.1 < b.1 := by
    decide +kernel
  have hplain : ∀ rule ∈ rules, rule.Plain :=
    fun rule hrule => ⟨hascending rule hrule, hnames rule hrule⟩
  have hfrom : headers.get? "from" = some (.single "ab") := rfl
  have hmissing : headers.get? "x-missing" = none := rfl
  have hreceived : headers.get? "Received" = some (.multi ["ab", "b"]) := rfl
  -- Only the first pattern has to be read as a regular expression.
  have hx : matchText "x" "ab" = .ok false := by decide +kernel
  have hplainText : matchText "A" "ab" = .ok true ∧ matchText "a" "ab" = .ok true ∧
      matchText "" "ab" = .ok false ∧ matchText "" "b" = .ok false ∧
      matchText "B" "ab" = .ok true ∧ matchText "B" "b" = .ok true :=
    ⟨rfl, rfl, rfl, rfl, rfl, rfl⟩
  have htried : ∀ rule ∈ rules, ∀ e ∈ rule.operators, ∀ p ∈ e.2, Tried headers p := by
    simp [-Prod.forall, rules, Tried, hfrom, hmissing, hreceived, Alternatives.patterns, hx,
      hplainText]
  exact ⟨hplain, htried, (anyHolds_answers hplain htried).1⟩

end Rule

end Postroom
