import Postroom.FileTree
import Postroom.Proofs.Table

/-!
# Trees of files, leaf by leaf

A walk through a directory meets files and directories that it cannot look through: the leaves of
the tree.  `leavesIn` lists them with their places, depth first and siblings in the order of their
names.  If the entries of every directory ascend by name (`Ordered`, which every tree of files does,
`ofFiles_ordered`), the places ascend too (`pairwise_leavesIn`), name by name, and the list has what
looking up finds at a place (`mem_leavesIn_iff`).  So the last leaf from which something can be read
is the one with the greatest place (`lastOf_leavesIn`).  What is put at a place stands there and
disturbs no leaf elsewhere (`find?_put_append`, `leafAt?_put_of_not_prefix`).
-/

namespace Postroom.FileTree

/-- A file, or why a directory cannot be looked through. -/
abbrev Leaf := Except Stream.Failure File

/-- The leaf that a tree is, if it has no entries to look through. -/
def leaf? : FileTree → Option Leaf
  | .file f => some (.ok f)
  | .closed failure => some (.error failure)
  | .directory _ => none

/-- The leaf at a place. -/
def leafAt? (place : List String) (t : FileTree) : Option Leaf := (t.find? place).bind leaf?

/-- The leaves among the entries of a directory with their places, in order. -/
def leavesIn : List (String × FileTree) → List (List String × Leaf)
  | [] => []
  | (name, .file f) :: rest => ([name], .ok f) :: leavesIn rest
  | (name, .closed failure) :: rest => ([name], .error failure) :: leavesIn rest
  | (name, .directory entries) :: rest =>
    (leavesIn entries).map (fun e => (name :: e.1, e.2)) ++ leavesIn rest

/-- The entries of every directory ascend by name. -/
inductive Ordered : FileTree → Prop
  | file (f : File) : Ordered (.file f)
  | closed (failure : Stream.Failure) : Ordered (.closed failure)
  | directory {entries : List (String × FileTree)} (ascending : Assoc.Ascending entries)
    (inner : ∀ e ∈ entries, Ordered e.2) : Ordered (.directory entries)

variable {entries rest : List (String × FileTree)} {place : List String} {leaf : Leaf} {f : File}
  {t new : FileTree}

/-- What stands at a place in what stands at a place. -/
theorem find?_append (t : FileTree) (start inner : List String) :
    t.find? (start ++ inner) = (t.find? start).bind (find? inner) := by
  induction start generalizing t with
  | nil => rfl
  | cons name rest ih =>
    cases t with
    | file | closed => rfl
    | directory entries =>
      simp only [List.cons_append, find?, Option.bind_assoc]
      exact Option.bind_congr fun t' _ => ih t'

/-! ### Leaves by their places -/

theorem leaf?_eq_some_ok_iff : t.leaf? = some (.ok f) ↔ t = .file f := by
  cases t <;> simp [leaf?]

theorem leafAt?_eq_some_ok_iff :
    t.leafAt? place = some (.ok f) ↔ t.find? place = some (.file f) := by
  simp [leafAt?, Option.bind_eq_some_iff, leaf?_eq_some_ok_iff]

@[simp] theorem leafAt?_nil (t : FileTree) : t.leafAt? [] = t.leaf? := rfl

@[simp] theorem leafAt?_file_cons (name : String) :
    (FileTree.file f).leafAt? (name :: place) = none := rfl

@[simp] theorem leafAt?_closed_cons (failure : Stream.Failure) (name : String) :
    (FileTree.closed failure).leafAt? (name :: place) = none := rfl

theorem leafAt?_directory_cons (name other : String) (t : FileTree) :
    (FileTree.directory ((name, t) :: rest)).leafAt? (other :: place) =
      if name = other then t.leafAt? place
      else (FileTree.directory rest).leafAt? (other :: place) := by
  by_cases h : name = other <;> simp [leafAt?, find?, Assoc.get?, h]

theorem leafAt?_directory (name : String) :
    (FileTree.directory entries).leafAt? (name :: place) =
      (Assoc.get? name entries).bind (leafAt? place) := by
  rw [leafAt?, find?, Option.bind_assoc]
  rfl

/-- A place of a leaf begins with the name of an entry. -/
theorem exists_cons_of_mem_leavesIn (h : (place, leaf) ∈ leavesIn entries) :
    ∃ name inner, place = name :: inner ∧ name ∈ Assoc.keys entries := by
  induction entries using leavesIn.induct generalizing place with
  | case1 => simp [leavesIn] at h
  | case2 name f rest ih | case3 name failure rest ih =>
    rw [leavesIn] at h
    rcases List.mem_cons.mp h with heq | hmem
    · exact ⟨name, [], (Prod.mk.inj heq).1, List.mem_cons_self⟩
    · obtain ⟨other, inner, heq, hkeys⟩ := ih hmem
      exact ⟨other, inner, heq, List.mem_cons_of_mem _ hkeys⟩
  | case4 name entries rest ihEntries ihRest =>
    rw [leavesIn] at h
    rcases List.mem_append.mp h with hmem | hmem
    · obtain ⟨e, -, heq⟩ := List.mem_map.mp hmem
      exact ⟨name, e.1, (Prod.mk.inj heq).1.symm, List.mem_cons_self⟩
    · obtain ⟨other, inner, heq, hkeys⟩ := ihRest hmem
      exact ⟨other, inner, heq, List.mem_cons_of_mem _ hkeys⟩

theorem Ordered.ascending (h : Ordered (.directory entries)) : Assoc.Ascending entries := by
  cases h with
  | directory ascending _ => exact ascending

theorem Ordered.inner (h : Ordered (.directory entries)) {e : String × FileTree}
    (he : e ∈ entries) :
    Ordered e.2 := by
  cases h with
  | directory _ inner => exact inner e he

theorem Ordered.tail {e : String × FileTree} (h : Ordered (.directory (e :: rest))) :
    Ordered (.directory rest) :=
  .directory (List.pairwise_cons.mp h.ascending).2 fun _ he => h.inner (List.mem_cons_of_mem _ he)

theorem Ordered.cons {name : String} (ht : t.Ordered) (hrest : Ordered (.directory rest))
    (hname : ∀ other ∈ Assoc.keys rest, name < other) : Ordered (.directory ((name, t) :: rest)) :=
  .directory
    (List.pairwise_cons.mpr ⟨fun _ he => hname _ (List.mem_map_of_mem he), hrest.ascending⟩)
    (List.forall_mem_cons.mpr ⟨ht, fun _ he => hrest.inner he⟩)

/-- The names behind the first entry of a directory come after its name. -/
theorem Ordered.lt_of_mem_keys {name other : String} (h : Ordered (.directory ((name, t) :: rest)))
    (hother : other ∈ Assoc.keys rest) : name < other := by
  obtain ⟨e, he, rfl⟩ := List.mem_map.mp hother
  exact (List.pairwise_cons.mp h.ascending).1 e he

/-- The listing of a directory has what looking up finds. -/
theorem mem_leavesIn_iff (h : Ordered (.directory entries)) :
    (place, leaf) ∈ leavesIn entries ↔ (FileTree.directory entries).leafAt? place = some leaf := by
  -- A place that begins with the first name leads into the first entry, any other past it.
  have hpast {name : String} {t : FileTree} {rest : List (String × FileTree)}
      (h : Ordered (.directory ((name, t) :: rest))) {other : String} {inner : List String}
      (hmem : (other :: inner, leaf) ∈ leavesIn rest) : name ≠ other := by
    obtain ⟨other', inner', heq, hkeys⟩ := exists_cons_of_mem_leavesIn hmem
    obtain ⟨rfl, -⟩ := List.cons.inj heq
    exact fun hname => String.lt_irrefl _ (hname ▸ h.lt_of_mem_keys hkeys)
  induction entries using leavesIn.induct generalizing place with
  | case1 => cases place <;> simp [leavesIn, leafAt?, find?, Assoc.get?, leaf?]
  | case2 name f rest ih | case3 name failure rest ih =>
    have hrest : (place, leaf) ∈ leavesIn rest ↔
      (FileTree.directory rest).leafAt? place = some leaf := ih h.tail
    rw [leavesIn, List.mem_cons, hrest]
    cases place with
    | nil => simp [leaf?]
    | cons other inner =>
      rw [leafAt?_directory_cons]
      by_cases hname : name = other
      · subst hname
        have hout : (FileTree.directory rest).leafAt? (name :: inner) ≠ some leaf := fun hat =>
          hpast h (hrest.mpr hat) rfl
        cases inner <;> simp [hout, leaf?, eq_comm]
      · simp [hname, Ne.symm hname]
  | case4 name entries rest ihEntries ihRest =>
    have hrest : (place, leaf) ∈ leavesIn rest ↔
      (FileTree.directory rest).leafAt? place = some leaf := ihRest h.tail
    rw [leavesIn, List.mem_append, hrest]
    cases place with
    | nil => simp [leaf?]
    | cons other inner =>
      rw [leafAt?_directory_cons]
      by_cases hname : name = other
      · subst hname
        have hout : (FileTree.directory rest).leafAt? (name :: inner) ≠ some leaf := fun hat =>
          hpast h (hrest.mpr hat) rfl
        have hinner : Ordered (.directory entries) := h.inner List.mem_cons_self
        simp [hout, ← ihEntries hinner]
      · simp [hname]

/-- The places of the leaves ascend, name by name. -/
theorem pairwise_leavesIn (h : Ordered (.directory entries)) :
    (leavesIn entries).Pairwise fun a b => a.1 < b.1 := by
  have hhead {name : String} {t : FileTree} {rest : List (String × FileTree)}
      (h : Ordered (.directory ((name, t) :: rest))) (inner : List String)
      {e : List String × Leaf} (he : e ∈ leavesIn rest) : name :: inner < e.1 := by
    obtain ⟨other, inner', heq, hkeys⟩ := exists_cons_of_mem_leavesIn he
    rw [heq]
    exact List.cons_lt_cons_iff.mpr (Or.inl (h.lt_of_mem_keys hkeys))
  induction entries using leavesIn.induct with
  | case1 => simp [leavesIn]
  | case2 name f rest ih | case3 name failure rest ih =>
    rw [leavesIn]
    exact List.pairwise_cons.mpr ⟨fun e he => hhead h [] he, ih h.tail⟩
  | case4 name entries rest ihEntries ihRest =>
    rw [leavesIn]
    have hinner : Ordered (.directory entries) := h.inner List.mem_cons_self
    refine List.pairwise_append.mpr ⟨List.pairwise_map.mpr ?_, ihRest h.tail, ?_⟩
    · exact (ihEntries hinner).imp fun hlt => List.cons_lt_cons_iff.mpr (Or.inr ⟨rfl, hlt⟩)
    · intro a ha b hb
      obtain ⟨e, -, rfl⟩ := List.mem_map.mp ha
      exact hhead h e.1 hb

/-! ### The last file -/

/-- What is read in the last file, in the order of the places, in which anything is read. -/
def LastOf {α : Type} (t : FileTree) (read : List String → File → Option α) : Option α → Prop
  | some a => ∃ place f, t.find? place = some (.file f) ∧ read place f = some a ∧
      ∀ later f', place < later → t.find? later = some (.file f') → read later f' = none
  | none => ∀ place f, t.find? place = some (.file f) → read place f = none

/-- What is read in a leaf, if it is a file. -/
def readLeaf {α : Type} (read : List String → File → Option α) (e : List String × Leaf) :
    Option α :=
  e.2.toOption.bind (read e.1)

/-- Going through the leaves from the end leads to the last file. -/
theorem lastOf_leavesIn {α : Type} (h : Ordered (.directory entries))
    (read : List String → File → Option α) :
    LastOf (.directory entries) read ((leavesIn entries).reverse.findSome? (readLeaf read)) := by
  have hmem {place : List String} {f : File} :
      (place, .ok f) ∈ leavesIn entries ↔
        (FileTree.directory entries).find? place = some (.file f) :=
    (mem_leavesIn_iff h).trans leafAt?_eq_some_ok_iff
  cases hlast : (leavesIn entries).reverse.findSome? (readLeaf read) with
  | none =>
    intro place f hfind
    exact List.findSome?_eq_none_iff.mp hlast _ (List.mem_reverse.mpr (hmem.mpr hfind))
  | some a =>
    obtain ⟨after, ⟨place, leaf⟩, before, hsplit, hread, hafter⟩ :=
      List.findSome?_eq_some_iff.mp hlast
    obtain ⟨f, hf, hread⟩ := Option.bind_eq_some_iff.mp hread
    obtain rfl : leaf = .ok f := by
      cases leaf with
      | error failure => cases hf
      | ok f' => exact congrArg Except.ok (Option.some.inj hf)
    have horder : leavesIn entries = before.reverse ++ (place, .ok f) :: after.reverse := by
      have := congrArg List.reverse hsplit
      simpa using this
    refine ⟨place, f, hmem.mp (horder ▸ by simp), hread, fun later f' hlt hfind => ?_⟩
    -- What comes later is not before this leaf, so nothing is read in it.
    have hpairwise := horder ▸ pairwise_leavesIn h
    obtain ⟨-, -, hcross⟩ := List.pairwise_append.mp hpairwise
    have hlater : (later, .ok f') ∈ before.reverse ++ (place, .ok f) :: after.reverse :=
      horder ▸ hmem.mpr hfind
    rcases List.mem_append.mp hlater with hbefore | hrest
    · have hgt : later < place := hcross _ hbefore _ List.mem_cons_self
      exact absurd hlt (List.lt_asymm hgt)
    · rcases List.mem_cons.mp hrest with heq | hrest
      · obtain ⟨rfl, -⟩ := Prod.mk.inj heq
        exact absurd hlt (List.lt_irrefl later)
      · exact hafter _ (List.mem_reverse.mp hrest)

/-! ### Putting something at a place -/

theorem Ordered.of_get? {name : String} (h : Ordered (.directory entries))
    (hget : Assoc.get? name entries = some t) : Ordered t :=
  h.inner (Assoc.mem_of_get? hget)

theorem Ordered.of_find? (h : t.Ordered) (hfind : t.find? place = some new) : new.Ordered := by
  induction place generalizing t with
  | nil => exact Option.some.inj hfind ▸ h
  | cons name inner ih =>
    cases t with
    | file | closed => cases hfind
    | directory entries =>
      obtain ⟨t', hget, hfind⟩ := Option.bind_eq_some_iff.mp hfind
      exact ih (h.of_get? hget) hfind

theorem Ordered.empty : Ordered empty := .directory List.Pairwise.nil (by simp)

theorem Ordered.put (h : t.Ordered) (place : List String) (hnew : new.Ordered) :
    (t.put place new).Ordered := by
  have hinsert {entries : List (String × FileTree)} (h : Ordered (.directory entries))
      (name : String) {t : FileTree} (ht : t.Ordered) :
      Ordered (.directory (Assoc.insert name t entries)) := by
    refine .directory (h.ascending.insert name t) fun e he => ?_
    rcases Assoc.mem_of_mem_insert he with rfl | hmem
    · exact ht
    · exact h.inner hmem
  induction place generalizing t with
  | nil => exact hnew
  | cons name inner ih =>
    have hget {entries : List (String × FileTree)} (h : Ordered (.directory entries)) :
        ((Assoc.get? name entries).getD FileTree.empty).Ordered := by
      cases hget : Assoc.get? name entries with
      | none => exact Ordered.empty
      | some t' => exact h.of_get? hget
    cases t with
    | directory entries => exact hinsert h name (ih (hget h))
    | file | closed => exact hinsert Ordered.empty name (ih (hget Ordered.empty))

/-- The entries of every directory in a tree of files ascend by name. -/
theorem ofFiles_ordered (files : List (String × List UInt8)) : (ofFiles files).Ordered := by
  refine List.foldlRecOn files _ Ordered.empty fun t ht e _ => ?_
  obtain ⟨path, content⟩ := e
  dsimp only
  split
  · have hold : ((t.find? (names path).dropLast).getD empty).Ordered := by
      cases hfind : t.find? (names path).dropLast with
      | none => exact Ordered.empty
      | some old => exact ht.of_find? hfind
    exact ht.put _ hold
  · exact ht.put _ (.file _)

/-- What is put at a place stands there. -/
theorem find?_put_append (t : FileTree) (place : List String) (new : FileTree)
    (inner : List String) : (t.put place new).find? (place ++ inner) = new.find? inner := by
  induction place generalizing t with
  | nil => rfl
  | cons name rest ih => simp [put, find?, ih]

/-- What is put at a place leaves the leaves elsewhere. -/
theorem leafAt?_put_of_not_prefix {old : FileTree} {start : List String}
    (hold : t.find? start = some old) (hplace : ¬ start <+: place) :
    (t.put start new).leafAt? place = t.leafAt? place := by
  induction start generalizing t place with
  | nil => exact absurd List.nil_prefix hplace
  | cons name rest ih =>
    cases t with
    | file | closed => cases hold
    | directory entries =>
      obtain ⟨t', hget, hinner⟩ := Option.bind_eq_some_iff.mp hold
      rw [put]
      cases place with
      | nil => rfl
      | cons other inner =>
        rw [leafAt?_directory, leafAt?_directory, Assoc.get?_insert]
        by_cases hname : other = name
        · subst hname
          have hrest : ¬ rest <+: inner := fun hprefix =>
            hplace (List.cons_prefix_cons.mpr ⟨rfl, hprefix⟩)
          simp [hget, ih hinner hrest]
        · rw [if_neg hname]

end Postroom.FileTree
