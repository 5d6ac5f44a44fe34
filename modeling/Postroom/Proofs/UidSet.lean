import Mathlib.Data.List.Sort
import Postroom.Proofs.Text.Decimal
import Postroom.Proofs.Text.Words
import Postroom.UidSet

/-! # What the text of a set names

A server reads the text of a set as entries between commas, each of them a number or two numbers
around a colon (`read?`).  The text that a client writes has an entry for every run of consecutive
identifiers, and is read back as these entries (`read?_render`).

The runs of numbers cover these numbers and no others (`mem_runs`).  If the numbers ascend, so do
the runs, with a gap between each two (`pairwise_runs`).  The same runs are made by numbers that
come one after another, each of which lengthens the last run or begins a new one
(`gathered_eq_runs`).  The numbers are sorted before they are put into runs, so the text depends on
which there are and on nothing else, and since it is read back, no two sets share a text.
-/

namespace Postroom.UidSet

open Text

/-! ### Reading a set -/

/-- An entry of a set. -/
inductive Entry where
  /-- A number. -/
  | number (n : Nat)
  /-- All numbers from the one to the other. -/
  | range (first last : Nat)
deriving Repr, DecidableEq

namespace Entry

/-- The number an entry begins with. -/
def first : Entry → Nat
  | number n | range n _ => n

/-- The number an entry ends with. -/
def last : Entry → Nat
  | number n | range _ n => n

/-- Whether a number is named; the ends of a range may stand in either order. -/
def Names (e : Entry) (n : Nat) : Prop := min e.first e.last ≤ n ∧ n ≤ max e.first e.last

instance (e : Entry) (n : Nat) : Decidable (e.Names n) := inferInstanceAs (Decidable (_ ∧ _))

/-- The entry of the numbers between its colons, of which there is one at most. -/
def ofNumbers? : List Nat → Option Entry
  | [n] => some (number n)
  | [first, last] => some (range first last)
  | _ => none

/-- Reads an entry, the numbers of which must be held in 32 bits. -/
def read? (cs : List Char) : Option Entry :=
  ((split ':' cs).mapM (Decimal.readUpTo? Decimal.maxUInt32)).bind ofNumbers?

/-- The entry for a run. -/
def ofRun (r : Nat × Nat) : Entry := if r.1 = r.2 then number r.1 else range r.1 r.2

@[simp] theorem first_ofRun (r : Nat × Nat) : (ofRun r).first = r.1 := by
  unfold ofRun
  split <;> rfl

@[simp] theorem last_ofRun (r : Nat × Nat) : (ofRun r).last = r.2 := by
  unfold ofRun
  split
  · next h => exact h
  · rfl

theorem names_ofRun {r : Nat × Nat} (h : r.1 ≤ r.2) (n : Nat) :
    (ofRun r).Names n ↔ r.1 ≤ n ∧ n ≤ r.2 := by
  rw [Names, first_ofRun, last_ofRun, min_eq_left h, max_eq_right h]

end Entry

/-- Reads the entries of a set. -/
def read? (text : String) : Option (List Entry) := (split ',' text.toList).mapM Entry.read?

/-! ### Entries are read back -/

/-- The separators of a set are no digits. -/
theorem notMem_repr {separator : Char} (h : separator.isDigit = false) (n : Nat) :
    separator ∉ n.repr.toList := by
  intro hmem
  rw [Nat.toList_repr] at hmem
  rw [Nat.isDigit_of_mem_toDigits (by decide) (by decide) hmem] at h
  cases h

theorem toList_renderRun (r : Nat × Nat) : (renderRun r).toList =
    if r.1 = r.2 then r.1.repr.toList else r.1.repr.toList ++ ':' :: r.2.repr.toList := by
  unfold renderRun
  split
  · rfl
  · simp [toString]

theorem comma_notMem_renderRun (r : Nat × Nat) : ',' ∉ (renderRun r).toList := by
  have hnumber : ∀ n : Nat, ',' ∉ n.repr.toList := notMem_repr (by decide)
  rw [toList_renderRun]
  split
  · exact hnumber r.1
  · rw [List.mem_append, List.mem_cons]
    exact not_or.mpr ⟨hnumber r.1, not_or.mpr ⟨by decide, hnumber r.2⟩⟩

theorem read?_renderRun {r : Nat × Nat} (hfirst : r.1 ≤ Decimal.maxUInt32)
    (hlast : r.2 ≤ Decimal.maxUInt32) :
    Entry.read? (renderRun r).toList = some (Entry.ofRun r) := by
  have hnumber : ∀ n : Nat, ':' ∉ n.repr.toList := notMem_repr (by decide)
  rw [Entry.read?, toList_renderRun, Entry.ofRun]
  by_cases hone : r.1 = r.2
  · rw [if_pos hone, if_pos hone, split_of_notMem (hnumber r.1), List.mapM_cons,
      Decimal.readUpTo?_repr hfirst]
    rfl
  · rw [if_neg hone, if_neg hone, split_append, split_of_notMem (hnumber r.1),
      split_of_notMem (hnumber r.2), List.singleton_append, List.mapM_cons, List.mapM_cons,
      Decimal.readUpTo?_repr hfirst, Decimal.readUpTo?_repr hlast]
    rfl

/-! ### Runs -/

/-- The first run begins with the first number. -/
theorem runs_cons (n : Nat) (rest : List Nat) :
    ∃ last more, runs (n :: rest) = (n, last) :: more := by
  unfold runs
  split
  · split
    · exact ⟨_, _, rfl⟩
    · exact ⟨_, _, rfl⟩
  · exact ⟨_, _, rfl⟩

theorem runs_ne_nil {ns : List Nat} (h : ns ≠ []) : runs ns ≠ [] := by
  obtain ⟨n, rest, rfl⟩ := List.exists_cons_of_ne_nil h
  obtain ⟨last, more, hruns⟩ := runs_cons n rest
  rw [hruns]
  exact List.cons_ne_nil _ _

/-- The ends of a run are numbers that were put into it. -/
theorem ends_mem_of_mem_runs {ns : List Nat} {r : Nat × Nat} (h : r ∈ runs ns) :
    r.1 ∈ ns ∧ r.2 ∈ ns ∧ r.1 ≤ r.2 := by
  induction ns generalizing r with
  | nil => cases h
  | cons n rest ih =>
    unfold runs at h
    split at h
    · next lo hi more hrest =>
      rw [hrest] at ih
      obtain ⟨-, hhi, hle⟩ := ih List.mem_cons_self
      split at h
      · next hjoin =>
        rcases List.mem_cons.mp h with rfl | h
        · exact ⟨List.mem_cons_self, List.mem_cons_of_mem _ hhi, by omega⟩
        · obtain ⟨hfirst, hlast, hr⟩ := ih (List.mem_cons_of_mem _ h)
          exact ⟨List.mem_cons_of_mem _ hfirst, List.mem_cons_of_mem _ hlast, hr⟩
      · rcases List.mem_cons.mp h with rfl | h
        · exact ⟨List.mem_cons_self, List.mem_cons_self, le_rfl⟩
        · obtain ⟨hfirst, hlast, hr⟩ := ih h
          exact ⟨List.mem_cons_of_mem _ hfirst, List.mem_cons_of_mem _ hlast, hr⟩
    · rw [List.mem_singleton.mp h]
      exact ⟨List.mem_cons_self, List.mem_cons_self, le_rfl⟩

/-- Runs cover the numbers that were put into them, and no others. -/
theorem mem_runs {ns : List Nat} {n : Nat} : (∃ r ∈ runs ns, r.1 ≤ n ∧ n ≤ r.2) ↔ n ∈ ns := by
  induction ns with
  | nil => simp [runs]
  | cons m rest ih =>
    rw [List.mem_cons, ← ih]
    cases hrest : runs rest with
    | nil =>
      have hfirst : m ≤ n ∧ n ≤ m ↔ n = m := by omega
      simp [runs, hrest, hfirst]
    | cons r more =>
      obtain ⟨lo, hi⟩ := r
      have hle : lo ≤ hi := (ends_mem_of_mem_runs (hrest ▸ List.mem_cons_self)).2.2
      by_cases hjoin : m + 1 = lo
      · -- The first run reaches one number further down.
        have hfirst : m ≤ n ∧ n ≤ hi ↔ n = m ∨ lo ≤ n ∧ n ≤ hi := by omega
        simp only [runs, hrest, if_pos hjoin, List.exists_mem_cons_iff, hfirst, or_assoc]
      · have hfirst : m ≤ n ∧ n ≤ m ↔ n = m := by omega
        simp only [runs, hrest, if_neg hjoin, List.exists_mem_cons_iff, hfirst]

/-- Between the runs of ascending numbers there are gaps. -/
theorem pairwise_runs {ns : List Nat} (h : ns.Pairwise (· < ·)) :
    (runs ns).Pairwise fun r s => r.2 + 1 < s.1 := by
  induction ns with
  | nil => exact List.Pairwise.nil
  | cons n rest ih =>
    obtain ⟨hn, hrest⟩ := List.pairwise_cons.mp h
    have ih := ih hrest
    unfold runs
    split
    · next lo hi more hruns =>
      rw [hruns] at ih
      obtain ⟨hgap, hmore⟩ := List.pairwise_cons.mp ih
      obtain ⟨hlo, -, hle⟩ := ends_mem_of_mem_runs (hruns ▸ List.mem_cons_self)
      have hnlo : n < lo := hn lo hlo
      split
      · exact List.pairwise_cons.mpr ⟨hgap, hmore⟩
      · next hjoin =>
        refine List.pairwise_cons.mpr ⟨fun s hs => ?_, ih⟩
        rcases List.mem_cons.mp hs with rfl | hs
        · omega
        · have hafter := hgap s hs
          omega
    · exact List.pairwise_singleton _ _

/-! ### Runs one number after another -/

/-- The successor of a number, if it can be held in 32 bits. -/
def successor? (n : Nat) : Option Nat := if n < Decimal.maxUInt32 then some (n + 1) else none

/-- Puts the next number to the runs before it, of which the last stands first.  That one becomes
longer if the number is the successor of its end. -/
def lengthen : List (Nat × Nat) → Nat → List (Nat × Nat)
  | (lo, hi) :: more, n =>
    if successor? hi = some n then (lo, n) :: more else (n, n) :: (lo, hi) :: more
  | [], n => [(n, n)]

/-- The runs of numbers that come one after another. -/
def gathered (ns : List Nat) : List (Nat × Nat) := (ns.foldl lengthen []).reverse

/-- Puts a run before others, of which the first may continue it. -/
def join (r : Nat × Nat) : List (Nat × Nat) → List (Nat × Nat)
  | s :: more => if r.2 + 1 = s.1 then (r.1, s.2) :: more else r :: s :: more
  | [] => [r]

theorem runs_cons_eq_join (n : Nat) (rest : List Nat) :
    runs (n :: rest) = join (n, n) (runs rest) := by
  rw [runs]
  cases runs rest <;> rfl

theorem successor?_eq_some_iff {m n : Nat} (hn : n ≤ Decimal.maxUInt32) :
    successor? m = some n ↔ m + 1 = n := by
  unfold successor?
  split
  · exact Option.some_inj
  · exact iff_of_false nofun (by omega)

/-- A number that continues a run continues it as well together with the run behind it. -/
theorem join_join {lo hi n : Nat} (h : hi + 1 = n) (rs : List (Nat × Nat)) :
    join (lo, hi) (join (n, n) rs) = join (lo, n) rs := by
  cases rs with
  | nil => exact if_pos h
  | cons s more =>
    by_cases hnext : n + 1 = s.1
    · simp [join, h, hnext]
    · simp [join, h, hnext]

/-- What comes behind runs is joined to the last of them. -/
theorem reverse_foldl_lengthen {ns : List Nat} (hlimit : ∀ n ∈ ns, n ≤ Decimal.maxUInt32)
    (r : Nat × Nat) (before : List (Nat × Nat)) :
    (ns.foldl lengthen (r :: before)).reverse = before.reverse ++ join r (runs ns) := by
  induction ns generalizing r before with
  | nil => simp [runs, join]
  | cons n rest ih =>
    obtain ⟨hn, hrest⟩ := List.forall_mem_cons.mp hlimit
    obtain ⟨lo, hi⟩ := r
    rw [List.foldl_cons, lengthen]
    by_cases hnext : hi + 1 = n
    · rw [if_pos ((successor?_eq_some_iff hn).mpr hnext), ih hrest, runs_cons_eq_join,
        join_join hnext]
    · obtain ⟨last, more, hruns⟩ := runs_cons n rest
      have hapart : join (lo, hi) (runs (n :: rest)) = (lo, hi) :: runs (n :: rest) := by
        rw [hruns, join, if_neg hnext]
      rw [if_neg (mt (successor?_eq_some_iff hn).mp hnext), ih hrest, ← runs_cons_eq_join, hapart,
        List.reverse_cons, List.append_assoc, List.singleton_append]

/-- Numbers that come one after another make the same runs. -/
theorem gathered_eq_runs {ns : List Nat} (hlimit : ∀ n ∈ ns, n ≤ Decimal.maxUInt32) :
    gathered ns = runs ns := by
  cases ns with
  | nil => rfl
  | cons n rest =>
    rw [gathered, List.foldl_cons, lengthen,
      reverse_foldl_lengthen (List.forall_mem_cons.mp hlimit).2, ← runs_cons_eq_join]
    rfl

/-! ### Sets -/

/-- What is read one by one is read in a row. -/
theorem mapM_map_eq_some {rs : List (Nat × Nat)} {text : Nat × Nat → List Char}
    {entry : Nat × Nat → Entry} (h : ∀ r ∈ rs, Entry.read? (text r) = some (entry r)) :
    (rs.map text).mapM Entry.read? = some (rs.map entry) := by
  induction rs with
  | nil => rfl
  | cons r rs ih =>
    obtain ⟨hr, hrs⟩ := List.forall_mem_cons.mp h
    rw [List.map_cons, List.mapM_cons, hr, ih hrs]
    rfl

/-- The entries of a set, in ascending order. -/
def entries (uids : List Uid) : List Entry := (runs (ascending uids)).map Entry.ofRun

theorem ascending_ne_nil {uids : List Uid} (h : uids ≠ []) : ascending uids ≠ [] := by
  obtain ⟨uid, huid⟩ := List.exists_mem_of_ne_nil uids h
  exact List.ne_nil_of_mem (mem_ascending.mpr huid)

/-- A set is read back from its text. -/
theorem read?_render {uids : List Uid} (hne : uids ≠ [])
    (hlimit : ∀ uid ∈ uids, uid ≤ Decimal.maxUInt32) :
    read? (render uids) = some (entries uids) := by
  have hruns : ∀ r ∈ runs (ascending uids),
      Entry.read? (renderRun r).toList = some (Entry.ofRun r) := by
    intro r hr
    obtain ⟨hfirst, hlast, -⟩ := ends_mem_of_mem_runs hr
    exact read?_renderRun (hlimit _ (mem_ascending.mp hfirst)) (hlimit _ (mem_ascending.mp hlast))
  have hcommas : ∀ part ∈ (runs (ascending uids)).map (String.toList ∘ renderRun), ',' ∉ part :=
    List.forall_mem_map.mpr fun r _ => comma_notMem_renderRun r
  have hparts : (runs (ascending uids)).map (String.toList ∘ renderRun) ≠ [] := by
    simpa using runs_ne_nil (ascending_ne_nil hne)
  have hsplit : split ',' (render uids).toList =
      (runs (ascending uids)).map (String.toList ∘ renderRun) := by
    rw [render, String.toList_intercalate, List.map_map]
    exact split_intercalate hparts hcommas
  rw [read?, hsplit]
  exact mapM_map_eq_some hruns

theorem names_entries {uids : List Uid} {n : Nat} :
    (∃ e ∈ entries uids, e.Names n) ↔ n ∈ uids := by
  have hnames : ∀ r ∈ runs (ascending uids), ((Entry.ofRun r).Names n ↔ r.1 ≤ n ∧ n ≤ r.2) :=
    fun r hr => Entry.names_ofRun (ends_mem_of_mem_runs hr).2.2 n
  rw [← mem_ascending, ← mem_runs, entries]
  simp only [List.mem_map, exists_exists_and_eq_and]
  exact exists_congr fun r => and_congr_right (hnames r)

/-- Lists with the same members are sorted into the same list. -/
theorem ascending_eq_of_mem_iff {uids uids' : List Uid} (h : ∀ uid, uid ∈ uids ↔ uid ∈ uids') :
    ascending uids = ascending uids' :=
  (pairwise_ascending uids).eq_of_mem_iff (pairwise_ascending uids') fun uid => by
    rw [mem_ascending, mem_ascending, h]

/-- **The text of a set names exactly its members, each of them once.**  Identifiers of 32 bits, in
any order and with any repetitions, are read back from their text as entries that name them and no
others.  The entries ascend with a gap between each two, so none could be joined with another, and
each range has two different ends in order.  So lists have the same text if they have the same
members, and only then.  The runs may be gathered one number after another, in 32 bits: the
successor of a number is asked for only where another number follows, and never exceeds them. -/
theorem names_members {uids : List Uid} (hne : uids ≠ [])
    (hlimit : ∀ uid ∈ uids, uid ≤ Decimal.maxUInt32) :
    (∃ es, read? (render uids) = some es ∧
      (∀ n, (∃ e ∈ es, e.Names n) ↔ n ∈ uids) ∧
      (es.Pairwise fun e f => e.last + 1 < f.first) ∧
      (∀ first last, Entry.range first last ∈ es → first < last) ∧
      ∀ e ∈ es, e.last ≤ Decimal.maxUInt32) ∧
    (∀ uids', (∀ uid ∈ uids', uid ≤ Decimal.maxUInt32) →
      (render uids' = render uids ↔ ∀ n, n ∈ uids' ↔ n ∈ uids)) ∧
    render uids = String.intercalate "," ((gathered (ascending uids)).map renderRun) ∧
    (ascending uids).Pairwise fun n _ => n + 1 ≤ Decimal.maxUInt32 := by
  have hread := read?_render hne hlimit
  have hends : ∀ e ∈ entries uids, ∃ r ∈ runs (ascending uids), Entry.ofRun r = e :=
    fun e he => List.mem_map.mp he
  refine ⟨⟨entries uids, hread, fun n => names_entries, ?_, fun first last hmem => ?_,
    fun e he => ?_⟩, fun uids' hlimit' => ⟨fun htext n => ?_, fun hsame => ?_⟩, ?_, ?_⟩
  · refine List.pairwise_map.mpr ((pairwise_runs (pairwise_ascending uids)).imp fun hgap => ?_)
    rwa [Entry.last_ofRun, Entry.first_ofRun]
  · obtain ⟨r, hr, heq⟩ := hends _ hmem
    have hle := (ends_mem_of_mem_runs hr).2.2
    unfold Entry.ofRun at heq
    split at heq
    · cases heq
    · next hdistinct =>
      cases heq
      omega
  · obtain ⟨r, hr, rfl⟩ := hends e he
    rw [Entry.last_ofRun]
    exact hlimit _ (mem_ascending.mp (ends_mem_of_mem_runs hr).2.1)
  · -- The empty list has the empty text, which is not that of a set.
    have hne' : uids' ≠ [] := by
      rintro rfl
      rw [← htext] at hread
      cases hread
    have hentries : entries uids' = entries uids := by
      rw [← Option.some_inj, ← read?_render hne' hlimit', ← hread, htext]
    rw [← names_entries, hentries, names_entries]
  · rw [render, render, ascending_eq_of_mem_iff hsame]
  · rw [gathered_eq_runs fun uid huid => hlimit uid (mem_ascending.mp huid), render]
  · refine List.Pairwise.imp_of_mem (fun {n next} _ hnext hlt => ?_) (pairwise_ascending uids)
    exact Nat.le_trans hlt (hlimit next (mem_ascending.mp hnext))

/-- Runs that end at the limit and begin at zero, out of order and with repetitions. -/
theorem names_members_to_the_limit :
    let uids : List Uid := [4294967295, 3, 0, 4294967294, 7, 1, 3, 4294967295]
    uids ≠ [] ∧ (∀ uid ∈ uids, uid ≤ Decimal.maxUInt32) ∧
      render uids = "0:1,3,7,4294967294:4294967295" ∧
      (∃ es, read? (render uids) = some es ∧ ∀ n, (∃ e ∈ es, e.Names n) ↔ n ∈ uids) ∧
      render [7, 4294967294, 0, 1, 4294967295, 3] = render uids := by
  intro uids
  have hne : uids ≠ [] := by decide
  have hlimit : ∀ uid ∈ uids, uid ≤ Decimal.maxUInt32 := by decide
  obtain ⟨⟨es, hread, hnames, -⟩, htexts, -⟩ := names_members hne hlimit
  refine ⟨hne, hlimit, by decide +kernel, ⟨es, hread, hnames⟩,
    (htexts _ (by decide)).mpr fun n => ?_⟩
  simp only [uids, List.mem_cons, List.not_mem_nil, or_false]
  grind

end Postroom.UidSet
