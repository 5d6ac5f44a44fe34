import Mathlib.Data.Finset.Card
import Postroom.Proofs.Header.Normal

/-! # Headers after a row of changes

Headers are changed in two ways: one is set, whatever it was before, or it occurs once more.  What a
change does to a header depends on the change and on what the header was (`get?_applyTo`), so after
any number of changes a header is what those with its name have made of it, one after the other
(`get?_foldl_applyTo`).  A change that sets it makes all before it void; those that follow put their
texts behind (`foldl_effect_of_adds`).

So the changes of a name since the last that set it decide (`sinceSet`): a single one leaves what it
brings, and several make a list of their texts, in their order (`valueOf?`).
-/

namespace Postroom.Header

open Text

/-- A change to headers. -/
inductive Change where
  /-- A header is set, whatever it was before. -/
  | set (name : String) (value : Value)
  /-- A header occurs once more. -/
  | add (name : String) (text : String)
deriving Repr, DecidableEq

namespace Change

/-- The name of the header that is changed, in any case. -/
def name : Change → String
  | set name _ | add name _ => name

/-- The value that a change brings. -/
def value : Change → Value
  | set _ value => value
  | add _ text => .single text

/-- The texts of that value. -/
def texts (c : Change) : List String := c.value.texts

/-- Whether a change makes those before it void. -/
def isSet : Change → Bool
  | set .. => true
  | add .. => false

/-- Whether a change is one of the header of a name. -/
def concerns (name : String) (c : Change) : Bool := lower c.name = lower name

/-- The headers after a change. -/
def applyTo (m : Map) : Change → Map
  | set name value => m.insert name value
  | add name text => m.append name text

/-- What a change makes of the value of its header. -/
def effect (v : Option Value) : Change → Option Value
  | set _ value => some value
  | add _ text => gatherOnto v [text]

end Change

open Change

/-- The headers that changes make of none. -/
def Map.ofChanges (changes : List Change) : Map := changes.foldl applyTo Map.empty

/-- The changes from the last one on that sets a header, or all of them if none does. -/
def sinceSet : List Change → List Change
  | [] => []
  | c :: rest => if rest.any isSet then sinceSet rest else c :: rest

/-- The value that changes of one header leave, of which only the first may set it.  One change
leaves what it brings, so a list that is set stays one, whatever its length; several leave a list of
all their texts. -/
def valueOf? : List Change → Option Value
  | [] => none
  | [c] => some c.value
  | changes => some (.multi (changes.flatMap texts))

variable {changes : List Change}

/-! ### The value of a header -/

theorem get?_applyTo (m : Map) (c : Change) (name : String) :
    (c.applyTo m).get? name =
      if c.concerns name then c.effect (m.get? name) else m.get? name := by
  cases c with
  | set other value => simp [applyTo, Map.get?_insert, concerns, Change.name, effect, eq_comm]
  | add other text => simp [applyTo, get?_append, concerns, Change.name, effect, eq_comm]

/-- The changes of a name make of its header what it is in the end; others do nothing to it. -/
theorem get?_foldl_applyTo (changes : List Change) (m : Map) (name : String) :
    (changes.foldl applyTo m).get? name =
      (changes.filter (·.concerns name)).foldl effect (m.get? name) := by
  induction changes generalizing m with
  | nil => rfl
  | cons c rest ih =>
    rw [List.foldl_cons, ih, get?_applyTo]
    by_cases hc : c.concerns name = true
    · rw [if_pos hc, List.filter_cons_of_pos hc, List.foldl_cons]
    · rw [if_neg hc, List.filter_cons_of_neg hc]

/-- Once a header is set, it does not matter what it was before. -/
theorem foldl_effect_of_isSet (h : changes.any isSet = true) (v w : Option Value) :
    changes.foldl effect v = changes.foldl effect w := by
  induction changes generalizing v w with
  | nil => cases h
  | cons c rest ih =>
    cases c with
    | set name value => rfl
    | add name text => exact ih (by simpa [isSet] using h) _ _

/-- Changes that set nothing put their texts behind those that are there. -/
theorem foldl_effect_of_adds (h : changes.any isSet = false) (v : Option Value) :
    changes.foldl effect v = gatherOnto v (changes.flatMap texts) := by
  induction changes generalizing v with
  | nil => rfl
  | cons c rest ih =>
    rw [List.any_cons, Bool.or_eq_false_iff] at h
    cases c with
    | set name value => cases h.1
    | add name text => exact ih h.2 (gatherOnto v [text])

theorem gatherOnto_some (v : Value) (text : String) (texts : List String) :
    gatherOnto (some v) (text :: texts) = some (.multi (v.texts ++ text :: texts)) := by
  have hpush : gatherOnto (some v) (text :: texts) =
      gatherOnto (some (.multi (v.texts ++ [text]))) texts := rfl
  rw [hpush, gatherOnto_multi, List.append_assoc, List.singleton_append]

/-- The first change leaves what it brings as long as nothing comes behind it. -/
theorem foldl_effect_cons {c : Change} {rest : List Change} (h : rest.any isSet = false) :
    (c :: rest).foldl effect none = valueOf? (c :: rest) := by
  have hfirst : c.effect none = some c.value := by cases c <;> rfl
  rw [List.foldl_cons, foldl_effect_of_adds h, hfirst]
  cases rest with
  | nil => rfl
  | cons d rest =>
    rw [List.any_cons, Bool.or_eq_false_iff] at h
    cases d with
    | set name value => cases h.1
    | add name text => exact gatherOnto_some c.value text (rest.flatMap texts)

/-- What the changes of a header make of it: those before the last that sets it are void. -/
theorem foldl_effect_none (changes : List Change) :
    changes.foldl effect none = valueOf? (sinceSet changes) := by
  induction changes with
  | nil => rfl
  | cons c rest ih =>
    by_cases hset : rest.any isSet = true
    · rw [sinceSet, if_pos hset, ← ih]
      exact foldl_effect_of_isSet hset _ _
    · rw [sinceSet, if_neg hset]
      exact foldl_effect_cons (Bool.eq_false_iff.mpr hset)

/-! ### The headers there are -/

theorem sinceSet_eq_nil_iff : sinceSet changes = [] ↔ changes = [] := by
  induction changes with
  | nil => simp [sinceSet]
  | cons c rest ih =>
    by_cases hset : rest.any isSet = true
    · have hrest : rest ≠ [] := fun hnil => by simp [hnil] at hset
      simp [sinceSet, hset, ih, hrest]
    · simp [sinceSet, hset]

theorem valueOf?_isSome (changes : List Change) :
    (valueOf? changes).isSome = !changes.isEmpty := by
  match changes with
  | [] | [_] | _ :: _ :: _ => rfl

namespace Map

theorem orderly_ofChanges (changes : List Change) : (ofChanges changes).Orderly := by
  refine List.foldlRecOn changes _ orderly_empty fun m hm c _ => ?_
  cases c with
  | set name value => exact orderly_insert hm name value
  | add name text => exact orderly_insert hm name _

/-- There is a header exactly if one of the changes has its name. -/
theorem contains_ofChanges (changes : List Change) (name : String) :
    (ofChanges changes).contains name = changes.any (·.concerns name) := by
  rw [contains, ofChanges, get?_foldl_applyTo, get?_empty, foldl_effect_none, valueOf?_isSome,
    Bool.eq_iff_iff, Bool.not_eq_true', List.isEmpty_eq_false_iff, ne_eq, sinceSet_eq_nil_iff,
    List.filter_eq_nil_iff]
  simp

/-- The names under which headers are kept are those of the changes in lower case. -/
theorem mem_keys_ofChanges {key : String} :
    key ∈ (ofChanges changes).entries.keys ↔ key ∈ changes.map (lower ·.name) := by
  have horderly := orderly_ofChanges changes
  have hlower : key ∈ (ofChanges changes).entries.keys → lower key = key := by
    intro hmem
    obtain ⟨entry, hentry, rfl⟩ := List.mem_map.mp hmem
    exact horderly.2 entry hentry
  have hkept : lower key = key →
      (key ∈ (ofChanges changes).entries.keys ↔ key ∈ changes.map (lower ·.name)) := by
    intro hkey
    have hcontains := contains_ofChanges changes key
    rw [contains, get?, hkey] at hcontains
    rw [Assoc.mem_keys_iff, Assoc.has, hcontains]
    simp [concerns, hkey]
  by_cases hkey : lower key = key
  · exact hkept hkey
  · refine iff_of_false (mt hlower hkey) fun hmem => hkey ?_
    obtain ⟨c, -, rfl⟩ := List.mem_map.mp hmem
    exact lower_lower c.name

/-- **Headers are kept by name, whatever its case, and lose nothing that was put to them.**  After
any changes a header has the value that the changes of its name leave, counted from the last that
set it: none if there is no such change, a single text if just one counts that brings a single
text, and the list of all their texts in order otherwise.  Changes of other names make no
difference.  A header is there exactly if it has a value, and there are as many headers as there
are names in lower case. -/
theorem kept_by_name (changes : List Change) :
    (∀ name, (ofChanges changes).get? name =
      valueOf? (sinceSet (changes.filter fun c => lower c.name = lower name))) ∧
    (∀ name, (ofChanges changes).get? name =
      (ofChanges (changes.filter fun c => lower c.name = lower name)).get? name) ∧
    (∀ name, (ofChanges changes).get? name = none ↔ ∀ c ∈ changes, lower c.name ≠ lower name) ∧
    (∀ name, (ofChanges changes).contains name = ((ofChanges changes).get? name).isSome) ∧
    (ofChanges changes).size = (changes.map fun c => lower c.name).toFinset.card := by
  have hget : ∀ (changes : List Change) (name : String), (ofChanges changes).get? name =
      valueOf? (sinceSet (changes.filter (·.concerns name))) := by
    intro changes name
    rw [ofChanges, get?_foldl_applyTo, get?_empty, foldl_effect_none]
  refine ⟨hget changes, fun name => ?_, fun name => ?_, fun name => rfl, ?_⟩
  · rw [hget, hget]
    change _ = valueOf? (sinceSet ((changes.filter (·.concerns name)).filter (·.concerns name)))
    rw [List.filter_filter]
    simp only [Bool.and_self]
  · rw [← Option.isNone_iff_eq_none, ← Option.isSome_eq_false_iff, ← contains, contains_ofChanges,
      List.any_eq_false]
    simp [concerns]
  · -- No name is kept twice, so the names can be counted as a set.
    have hnodup := (orderly_ofChanges changes).1.keys_nodup
    have hnames : (ofChanges changes).entries.keys.toFinset =
        (changes.map fun c => lower c.name).toFinset :=
      Finset.ext fun key => by rw [List.mem_toFinset, List.mem_toFinset, mem_keys_ofChanges]
    rw [← hnames, List.toFinset_card_of_nodup hnodup, size, Assoc.keys, List.length_map]

/-- A header that was set to a list of one text stays a list, and one that was added twice after
being set has three texts. -/
example :
    let m := ofChanges [.add "To" "a", .set "X-Tag" (.multi ["b"]), .set "to" (.single "c"),
      .add "TO" "d", .add "tO" "e"]
    m.get? "to" = some (.multi ["c", "d", "e"]) ∧ m.get? "x-TAG" = some (.multi ["b"]) ∧
      m.size = 2 := by decide +kernel

end Map

end Postroom.Header
