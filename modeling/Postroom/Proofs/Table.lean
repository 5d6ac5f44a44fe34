import Mathlib.Algebra.Group.Basic
import Mathlib.Algebra.GroupWithZero.Nat
import Postroom.Assoc

/-! # Tables in ascending order

`Assoc` keeps one entry to a name by the way it inserts.  This module says so of
whole tables: insertion and removal keep the names in ascending order (`Ascending`).
Two facts about insertion need no order at all, since a name has one place in any
list: the later of two insertions under one name counts (`insert_insert_self`), and
insertions under two names commute (`insert_comm`).  A sum over the entries changes
by the new entry and the one it replaces (`sum_insert`).  The table of a list has
its entries if no name comes twice (`ofList_perm`), and a list that ascends is its
own table (`ofList_eq_self`).  Tables that ascend are told apart by looking up
(`Ascending.ext`), so that of three tables put on top of one another it does not
matter which two are put together first (`extend_assoc`).
-/

namespace Postroom.Assoc

variable {β : Type}

/-- Of two names one comes first. -/
theorem name_lt_or_gt {a b : String} (h : a ≠ b) : a < b ∨ b < a := by
  by_cases hab : a < b
  · exact Or.inl hab
  · exact Or.inr (Std.lt_of_le_of_ne hab (Ne.symm h))

/-- The names ascend. -/
def Ascending (t : Assoc β) : Prop := t.Pairwise fun a b => a.1 < b.1

theorem mem_of_mem_insert {name : String} {value : β} {e : String × β} {t : Assoc β}
    (h : e ∈ insert name value t) : e = (name, value) ∨ e ∈ t := by
  induction t with
  | nil => simpa [insert] using h
  | cons head rest ih =>
    obtain ⟨k, v⟩ := head
    unfold insert at h
    split at h
    · simpa using h
    · split at h
      · rcases List.mem_cons.mp h with h | h
        · exact Or.inl h
        · exact Or.inr (List.mem_cons_of_mem _ h)
      · rcases List.mem_cons.mp h with h | h
        · exact Or.inr (h ▸ List.mem_cons_self)
        · exact (ih h).imp id (List.mem_cons_of_mem _)

theorem Ascending.insert {t : Assoc β} (ht : Ascending t) (name : String) (value : β) :
    Ascending (insert name value t) := by
  induction t with
  | nil => exact List.pairwise_singleton _ _
  | cons head rest ih =>
    obtain ⟨k, v⟩ := head
    obtain ⟨hhead, hrest⟩ := List.pairwise_cons.mp ht
    unfold Assoc.insert
    split
    · next hlt =>
      refine List.pairwise_cons.mpr ⟨fun e he => ?_, ht⟩
      rcases List.mem_cons.mp he with rfl | he
      · exact hlt
      · exact String.lt_trans hlt (hhead e he)
    · next hlt =>
      split
      · next heq => exact List.pairwise_cons.mpr ⟨heq ▸ hhead, hrest⟩
      · next hne =>
        refine List.pairwise_cons.mpr ⟨fun e he => ?_, ih hrest⟩
        rcases mem_of_mem_insert he with rfl | he
        · exact (name_lt_or_gt hne).resolve_left hlt
        · exact hhead e he

theorem Ascending.erase {t : Assoc β} (ht : Ascending t) (name : String) :
    Ascending (erase name t) := List.Pairwise.sublist List.filter_sublist ht

/-! ### Looking up -/

theorem mem_of_get? {name : String} {value : β} {t : Assoc β} (h : t.get? name = some value) :
    (name, value) ∈ t := by
  induction t with
  | nil => simp at h
  | cons head rest ih =>
    obtain ⟨k, v⟩ := head
    unfold get? at h
    split at h
    · next hk =>
      obtain rfl : v = value := Option.some.inj h
      exact hk ▸ List.mem_cons_self
    · exact List.mem_cons_of_mem _ (ih h)

/-- A name that comes before all others has no value. -/
theorem get?_eq_none_of_forall_lt {name : String} {t : Assoc β} (h : ∀ e ∈ t, name < e.1) :
    t.get? name = none :=
  Option.eq_none_iff_forall_ne_some.mpr fun value hvalue =>
    String.lt_irrefl name (h (name, value) (mem_of_get? hvalue))

theorem mem_keys_iff {name : String} {t : Assoc β} : name ∈ t.keys ↔ t.has name = true := by
  induction t with
  | nil => simp [keys, has]
  | cons head rest ih =>
    obtain ⟨k, v⟩ := head
    by_cases hk : k = name
    · simp [keys, has, get?, hk]
    · simpa [keys, has, get?, hk, Ne.symm hk] using ih

theorem has_eq_false_iff {name : String} {t : Assoc β} :
    t.has name = false ↔ t.get? name = none := by
  rw [has, Option.isSome_eq_false_iff, Option.isNone_iff_eq_none]

/-- A table of entries has the names of the entries. -/
theorem has_ofList (entries : List (String × β)) (name : String) :
    (ofList entries).has name = entries.any (·.1 = name) := by
  have hfold : ∀ t : Assoc β, (entries.foldl (fun t e => t.insert e.1 e.2) t).has name =
      (t.has name || entries.any (·.1 = name)) := by
    induction entries with
    | nil => simp
    | cons e rest ih =>
      intro t
      rw [List.foldl_cons, ih, List.any_cons]
      by_cases he : e.1 = name
      · simp [has, he]
      · simp [has, get?_insert, he, Ne.symm he]
  exact hfold []

/-! ### Insertions in a row -/

/-- Of two insertions under one name the later counts. -/
@[simp] theorem insert_insert_self (name : String) (v w : β) (t : Assoc β) :
    insert name v (insert name w t) = insert name v t := by
  induction t with
  | nil => simp [insert]
  | cons head rest ih =>
    obtain ⟨k, u⟩ := head
    by_cases hlt : name < k
    · simp [insert, hlt]
    · by_cases heq : name = k
      · simp [insert, heq]
      · simp [insert, hlt, heq, ih]

/-- Insertions under two names commute. -/
theorem insert_comm {a b : String} (h : a ≠ b) (x y : β) (t : Assoc β) :
    insert a x (insert b y t) = insert b y (insert a x t) := by
  induction t with
  | nil =>
    rcases name_lt_or_gt h with hab | hba
    · simp [insert, hab, String.lt_asymm hab, Ne.symm h]
    · simp [insert, hba, String.lt_asymm hba, h]
  | cons head rest ih =>
    obtain ⟨k, v⟩ := head
    -- Where the two names stand to `k` decides where they go; only if both come
    -- after it is there something left to do for the rest.
    rcases name_lt_or_gt h with hab | hba
    · by_cases hak : a < k <;> by_cases hbk : b < k <;> grind [insert]
    · by_cases hak : a < k <;> by_cases hbk : b < k <;> grind [insert]

/-- Inserting the entry that is there changes nothing. -/
theorem insert_get?_self {name : String} {value : β} {t : Assoc β} (ht : Ascending t)
    (h : t.get? name = some value) : insert name value t = t := by
  induction t with
  | nil => simp at h
  | cons head rest ih =>
    obtain ⟨k, v⟩ := head
    obtain ⟨hhead, hrest⟩ := List.pairwise_cons.mp ht
    unfold get? at h
    split at h
    · next hk =>
      subst hk
      obtain rfl : v = value := Option.some.inj h
      simp [insert]
    · next hk =>
      have hlt : k < name := hhead _ (mem_of_get? h)
      simp [insert, String.lt_asymm hlt, Ne.symm hk, ih hrest h]

/-! ### Tables of lists -/

theorem Ascending.ofList (entries : List (String × β)) : Ascending (ofList entries) := by
  have hfold : ∀ t : Assoc β, Ascending t →
      Ascending (entries.foldl (fun t e => Assoc.insert e.1 e.2 t) t) := by
    induction entries with
    | nil => exact fun t ht => ht
    | cons e rest ih => exact fun t ht => ih _ (ht.insert e.1 e.2)
  exact hfold [] List.Pairwise.nil

theorem mem_of_mem_ofList {e : String × β} {entries : List (String × β)} (h : e ∈ ofList entries) :
    e ∈ entries := by
  have hall : ∀ e ∈ ofList entries, e ∈ entries := by
    refine List.foldlRecOn entries _ (motive := fun t => ∀ e ∈ t, e ∈ entries)
      (fun e he => nomatch he) fun t ht head hhead e he => ?_
    rcases mem_of_mem_insert he with rfl | hmem
    · exact hhead
    · exact ht e hmem
  exact hall e h

theorem Ascending.keys_nodup {t : Assoc β} (ht : Ascending t) : t.keys.Nodup := by
  refine List.pairwise_map.mpr (List.Pairwise.imp (fun {a b} hlt => ?_) ht)
  rintro heq
  rw [heq] at hlt
  exact String.lt_irrefl _ hlt

/-- A name that is new adds an entry. -/
theorem insert_perm {name : String} (value : β) {t : Assoc β} (h : name ∉ t.keys) :
    (insert name value t).Perm ((name, value) :: t) := by
  induction t with
  | nil => exact List.Perm.refl _
  | cons head rest ih =>
    obtain ⟨k, v⟩ := head
    have hne : name ≠ k := fun heq => h (heq ▸ List.mem_cons_self)
    have hrest : name ∉ keys rest := fun hmem => h (List.mem_cons_of_mem _ hmem)
    by_cases hlt : name < k
    · rw [insert, if_pos hlt]
    · rw [insert, if_neg hlt, if_neg hne]
      exact ((ih hrest).cons (k, v)).trans (List.Perm.swap _ _ _)

/-- If no name comes twice, a table has the entries of its list. -/
theorem ofList_perm {entries : List (String × β)} (h : (keys entries).Nodup) :
    (ofList entries).Perm entries := by
  have hfold : ∀ t : Assoc β, (t.keys ++ keys entries).Nodup →
      (entries.foldl (fun t e => insert e.1 e.2 t) t).Perm (t ++ entries) := by
    induction entries with
    | nil => exact fun t _ => by simp
    | cons e rest ih =>
      intro t ht
      obtain ⟨-, hrest⟩ := List.nodup_cons.mp h
      have hmiddle : (e.1 :: (t.keys ++ keys rest)).Nodup := List.perm_middle.nodup_iff.mp ht
      have hnew : e.1 ∉ t.keys := fun hmem =>
        (List.nodup_cons.mp hmiddle).1 (List.mem_append_left _ hmem)
      have hinsert := insert_perm e.2 hnew
      have hkeys : ((insert e.1 e.2 t).keys ++ keys rest).Perm (e.1 :: (t.keys ++ keys rest)) :=
        (hinsert.map (·.1)).append_right _
      have hall := ih hrest _ (hkeys.nodup_iff.mpr hmiddle)
      exact hall.trans ((hinsert.append_right rest).trans List.perm_middle.symm)
  exact hfold [] h

theorem insert_eq_append {name : String} (value : β) {t : Assoc β} (h : ∀ e ∈ t, e.1 < name) :
    insert name value t = t ++ [(name, value)] := by
  induction t with
  | nil => rfl
  | cons head rest ih =>
    obtain ⟨k, v⟩ := head
    obtain ⟨hk, hrest⟩ := List.forall_mem_cons.mp h
    have hne : name ≠ k := fun heq => String.lt_irrefl k (heq ▸ hk)
    simp [insert, String.lt_asymm hk, hne, ih hrest]

/-- A list that ascends is its own table. -/
theorem ofList_eq_self {t : Assoc β} (ht : Ascending t) : ofList t = t := by
  have hfold : ∀ front : Assoc β, Ascending (front ++ t) →
      t.foldl (fun t e => insert e.1 e.2 t) front = front ++ t := by
    induction t with
    | nil => simp
    | cons e rest ih =>
      intro front hall
      obtain ⟨-, -, hcross⟩ := List.pairwise_append.mp hall
      have hlast := insert_eq_append e.2 fun a ha => hcross a ha e List.mem_cons_self
      have hsplit : front ++ e :: rest = (front ++ [e]) ++ rest := by simp
      rw [List.foldl_cons, hlast, hsplit]
      exact ih (List.pairwise_cons.mp ht).2 _ (hsplit ▸ hall)
  exact hfold [] ht

/-! ### Tables on top of one another -/

theorem get?_of_mem {name : String} {value : β} {t : Assoc β} (ht : Ascending t)
    (h : (name, value) ∈ t) : t.get? name = some value := by
  induction t with
  | nil => cases h
  | cons head rest ih =>
    obtain ⟨k, v⟩ := head
    obtain ⟨hhead, hrest⟩ := List.pairwise_cons.mp ht
    rcases List.mem_cons.mp h with heq | hmem
    · obtain ⟨rfl, rfl⟩ := Prod.mk.inj heq
      simp [get?]
    · have hne : k ≠ name := fun heq => String.lt_irrefl k (heq ▸ hhead _ hmem)
      simp [get?, hne, ih hrest hmem]

/-- Tables that ascend are the same if they have the same values. -/
theorem Ascending.ext {s t : Assoc β} (hs : Ascending s) (ht : Ascending t)
    (h : ∀ name, s.get? name = t.get? name) : s = t := by
  have hnodup {u : Assoc β} (hu : Ascending u) : List.Nodup u :=
    List.Pairwise.imp (fun {a b} hlt (heq : a = b) => String.lt_irrefl b.1 (heq ▸ hlt)) hu
  have hmem (e : String × β) : e ∈ s ↔ e ∈ t :=
    ⟨fun he => mem_of_get? (h e.1 ▸ get?_of_mem hs he),
      fun he => mem_of_get? ((h e.1).symm ▸ get?_of_mem ht he)⟩
  refine ((List.perm_ext_iff_of_nodup (hnodup hs) (hnodup ht)).mpr hmem).eq_of_pairwise ?_ hs ht
  exact fun a b _ _ hab hba => absurd hba (String.lt_asymm hab)

theorem Ascending.extend {lower : Assoc β} (h : Ascending lower) (upper : Assoc β) :
    Ascending (lower.extend upper) := by
  unfold Assoc.extend
  induction upper generalizing lower with
  | nil => exact h
  | cons e rest ih => exact ih (h.insert e.1 e.2)

/-- What the table on top does not have comes from the one below. -/
theorem get?_extend {upper : Assoc β} (h : Ascending upper) (lower : Assoc β) (name : String) :
    (lower.extend upper).get? name = (upper.get? name).or (lower.get? name) := by
  induction upper generalizing lower with
  | nil => rfl
  | cons e rest ih =>
    obtain ⟨k, v⟩ := e
    obtain ⟨hhead, hrest⟩ := List.pairwise_cons.mp h
    have hstep := ih hrest (lower.insert k v)
    rw [get?_insert] at hstep
    refine hstep.trans ?_
    by_cases hk : name = k
    · subst hk
      simp [get?, get?_eq_none_of_forall_lt hhead]
    · simp [get?, hk, Ne.symm hk]

/-- Nothing below a table leaves it as it is. -/
theorem extend_nil_left {t : Assoc β} (h : Ascending t) : extend [] t = t := ofList_eq_self h

/-- Of three tables it does not matter which two are put together first. -/
theorem extend_assoc {a b c : Assoc β} (ha : Ascending a) (hb : Ascending b) (hc : Ascending c) :
    (a.extend b).extend c = a.extend (b.extend c) := by
  refine ((ha.extend b).extend c).ext (ha.extend (b.extend c)) fun name => ?_
  rw [get?_extend hc, get?_extend hb, get?_extend (hb.extend c), get?_extend hc, Option.or_assoc]

/-! ### Sums -/

/-- An insertion adds what the new entry counts for and takes away what the old one did. -/
theorem sum_insert {M : Type} [AddCommMonoid M] {t : Assoc β} (ht : Ascending t)
    (f : String → β → M) (name : String) (value : β) :
    ((insert name value t).map fun e => f e.1 e.2).sum + ((t.get? name).map (f name)).getD 0 =
      (t.map fun e => f e.1 e.2).sum + f name value := by
  induction t with
  | nil => simp [insert]
  | cons head rest ih =>
    obtain ⟨k, v⟩ := head
    obtain ⟨hhead, hrest⟩ := List.pairwise_cons.mp ht
    have hih := ih hrest
    by_cases hlt : name < k
    · have hout : get? name ((k, v) :: rest) = none :=
        get?_eq_none_of_forall_lt (List.forall_mem_cons.mpr
          ⟨hlt, fun e he => String.lt_trans hlt (hhead e he)⟩)
      rw [hout, insert, if_pos hlt]
      simp only [List.map_cons, List.sum_cons, Option.map_none, Option.getD_none, add_zero]
      exact add_comm _ _
    · by_cases heq : name = k
      · subst heq
        rw [insert, if_neg hlt, if_pos rfl, get?, if_pos rfl]
        simp only [List.map_cons, List.sum_cons, Option.map_some, Option.getD_some]
        rw [add_right_comm, add_comm (f name value), add_right_comm, add_comm (f name v)]
      · rw [insert, if_neg hlt, if_neg heq, get?, if_neg (Ne.symm heq)]
        simp only [List.map_cons, List.sum_cons, add_assoc, hih]

/-- The sum of a number of every value. -/
def total (f : β → Nat) : Assoc β → Nat
  | [] => 0
  | e :: rest => f e.2 + total f rest

theorem total_eq_sum (f : β → Nat) (t : Assoc β) : total f t = (t.map fun e => f e.2).sum := by
  induction t with
  | nil => rfl
  | cons e rest ih => rw [total, ih, List.map_cons, List.sum_cons]

/-- An insertion adds the number of the new value and takes away that of the old. -/
theorem total_insert {t : Assoc β} (ht : Ascending t) (f : β → Nat) (name : String) (value : β) :
    total f (insert name value t) + ((t.get? name).map f).getD 0 = total f t + f value := by
  rw [total_eq_sum, total_eq_sum]
  exact sum_insert ht (fun _ => f) name value

end Postroom.Assoc
