/-!
# Tables with names as keys

Lists of entries in the order of their names (by code points), one entry to a name.  Insertion
replaces an entry of the same name.  Looking up after an insertion or a removal needs no
assumption on the order.
-/

namespace Postroom

/-- Entries in ascending order of their names. -/
abbrev Assoc (β : Type) := List (String × β)

namespace Assoc

variable {β γ : Type}

/-- The value of a name. -/
def get? (name : String) : Assoc β → Option β
  | [] => none
  | (k, v) :: rest => if k = name then some v else get? name rest

/-- Whether there is an entry of a name. -/
def has (name : String) (t : Assoc β) : Bool := (t.get? name).isSome

/-- Sets the value of a name. -/
def insert (name : String) (value : β) : Assoc β → Assoc β
  | [] => [(name, value)]
  | (k, v) :: rest =>
    if name < k then (name, value) :: (k, v) :: rest
    else if name = k then (name, value) :: rest
    else (k, v) :: insert name value rest

/-- Removes the entry of a name. -/
def erase (name : String) (t : Assoc β) : Assoc β := t.filter (·.1 ≠ name)

/-- The table of entries; of two with one name the later counts. -/
def ofList (entries : List (String × β)) : Assoc β :=
  entries.foldl (fun t e => insert e.1 e.2 t) []

/-- A table with the entries of another put on top. -/
def extend (lower upper : Assoc β) : Assoc β := upper.foldl (fun t e => insert e.1 e.2 t) lower

/-- The names, in order. -/
def keys (t : Assoc β) : List String := t.map (·.1)

@[simp] theorem get?_nil (name : String) : get? name ([] : Assoc β) = none := rfl

@[simp] theorem get?_insert_self (name : String) (value : β) (t : Assoc β) :
    get? name (insert name value t) = some value := by
  induction t with
  | nil => simp [insert, get?]
  | cons e rest ih =>
    obtain ⟨k, v⟩ := e
    unfold insert
    split
    · simp [get?]
    · split
      · simp [get?]
      · next h => simp [get?, Ne.symm h, ih]

theorem get?_insert_of_ne {name other : String} (h : other ≠ name) (value : β) (t : Assoc β) :
    get? other (insert name value t) = get? other t := by
  induction t with
  | nil => simp [insert, get?, Ne.symm h]
  | cons e rest ih =>
    obtain ⟨k, v⟩ := e
    unfold insert
    split
    · simp [get?, Ne.symm h]
    · split
      · next hk => subst hk; simp [get?, Ne.symm h]
      · simp [get?, ih]

/-- Looking up after an insertion. -/
theorem get?_insert (name other : String) (value : β) (t : Assoc β) :
    get? other (insert name value t) = if other = name then some value else get? other t := by
  by_cases h : other = name
  · subst h; simp
  · simp [h, get?_insert_of_ne h]

/-- Looking up after a removal. -/
theorem get?_erase (name other : String) (t : Assoc β) :
    get? other (erase name t) = if other = name then none else get? other t := by
  induction t with
  | nil => simp [erase]
  | cons e rest ih =>
    obtain ⟨k, v⟩ := e
    unfold erase at ih ⊢
    by_cases hk : k = name
    · subst hk
      by_cases ho : other = k
      · subst ho; simpa [get?] using ih
      · simpa [get?, ho, Ne.symm ho] using ih
    · by_cases ho : k = other
      · subst ho; simp [get?, hk]
      · simpa [get?, hk, ho] using ih

end Assoc

end Postroom
