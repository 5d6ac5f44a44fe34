import Postroom.Configuration.Loading
import Postroom.Proofs.Document
import Postroom.Proofs.Table

/-!
# Configurations on top of one another

A configuration that was read keeps its accounts, its filters and the filters of each account in the
order of their names (`tidy_of_ofText`), and merging keeps that (`Tidy.merge`).  Then an account
comes whole from the upper configuration if that has it (`get?_accounts_merge`), a filter comes from
the upper configuration if that has this filter for this account (`filter?_merge`), and of three
configurations it does not matter which two are merged first (`merge_assoc`).  So reading files one
after another can be cut anywhere (`mergeFiles_append_eq_ok_iff`), and what holds in the end is what
the last file says that says anything (`view_mergeFiles`).
-/

namespace Postroom

theorem toOption_eq_some_iff {ε α : Type} {x : Except ε α} {a : α} :
    x.toOption = some a ↔ x = .ok a := by
  cases x <;> simp [Except.toOption]

/-- If each item of a run gives a value or leaves the old one, the last one that is given counts. -/
theorem view_foldlM {ε σ ι α : Type} {step : σ → ι → Except ε σ} (view : σ → Option α)
    (read : ι → Option α)
    (hstep : ∀ s i s', step s i = .ok s' → view s' = (read i).or (view s))
    {items : List ι} {s s' : σ} (h : items.foldlM step s = .ok s') :
    view s' = (items.reverse.findSome? read).or (view s) := by
  induction items generalizing s with
  | nil =>
    obtain rfl := Except.ok.inj h
    rfl
  | cons i rest ih =>
    rw [List.foldlM_cons] at h
    obtain ⟨middle, hmiddle, hrest⟩ := bind_eq_ok_iff.mp h
    rw [ih hrest, hstep s i middle hmiddle, List.reverse_cons, List.findSome?_append,
      Option.or_assoc]
    simp

/-! ### Tables of tables -/

namespace Assoc

variable {β : Type} {lower upper a b c : Assoc (Assoc β)} {name inner : String}

/-- A table of tables, all in ascending order. -/
structure Tiered (t : Assoc (Assoc β)) : Prop where
  /-- The table itself ascends. -/
  outer : Ascending t
  /-- Its tables ascend. -/
  inner : ∀ e ∈ t, Ascending e.2

/-- A table of tables put on top of another, table by table. -/
def layer (lower upper : Assoc (Assoc β)) : Assoc (Assoc β) :=
  upper.foldl (fun t (name, upper) => t.insert name (extend ((t.get? name).getD []) upper)) lower

theorem Tiered.of_get? {t : Assoc β} (h : Tiered a) (ht : a.get? name = some t) : Ascending t :=
  h.inner _ (mem_of_get? ht)

theorem Tiered.getD (h : Tiered a) (name : String) : Ascending ((a.get? name).getD []) := by
  cases hget : a.get? name with
  | none => exact List.Pairwise.nil
  | some t => exact h.of_get? hget

theorem Tiered.layer (h : Tiered lower) (upper : Assoc (Assoc β)) : Tiered (lower.layer upper) := by
  refine List.foldlRecOn upper _ h fun t ht e _ => ⟨ht.outer.insert _ _, fun e' he' => ?_⟩
  rcases mem_of_mem_insert he' with rfl | hmem
  · exact (ht.getD e.1).extend e.2
  · exact ht.inner e' hmem

theorem get?_layer (h : Ascending upper) (lower : Assoc (Assoc β)) (name : String) :
    (lower.layer upper).get? name = match upper.get? name with
      | some t => some (extend ((lower.get? name).getD []) t)
      | none => lower.get? name := by
  induction upper generalizing lower with
  | nil => rfl
  | cons e rest ih =>
    obtain ⟨k, t⟩ := e
    obtain ⟨hhead, hrest⟩ := List.pairwise_cons.mp h
    refine (ih hrest _).trans ?_
    by_cases hk : k = name
    · subst hk
      simp [get?, get?_eq_none_of_forall_lt hhead]
    · simp [get?, hk, get?_insert_of_ne (Ne.symm hk)]

/-- What the upper table of a name does not have comes from the lower one. -/
theorem bind_get?_layer (h : Tiered upper) (lower : Assoc (Assoc β)) (name inner : String) :
    ((lower.layer upper).get? name).bind (get? inner) =
      ((upper.get? name).bind (get? inner)).or ((lower.get? name).bind (get? inner)) := by
  rw [get?_layer h.outer]
  cases hupper : upper.get? name with
  | none => rfl
  | some t =>
    refine (get?_extend (h.of_get? hupper) _ inner).trans (congrArg _ ?_)
    cases lower.get? name <;> rfl

/-- Of three tables of tables it does not matter which two are put together first. -/
theorem layer_assoc (ha : Tiered a) (hb : Tiered b) (hc : Tiered c) :
    (a.layer b).layer c = a.layer (b.layer c) := by
  refine ((ha.layer b).layer c).outer.ext (ha.layer (b.layer c)).outer fun name => ?_
  rw [get?_layer hc.outer, get?_layer hb.outer, get?_layer (hb.layer c).outer, get?_layer hc.outer]
  cases hlast : c.get? name with
  | none => rfl
  | some last =>
    have hlast := hc.of_get? hlast
    cases hmiddle : b.get? name with
    | none => exact congrArg (fun t => some (extend _ t)) (extend_nil_left hlast).symm
    | some middle => exact congrArg some (extend_assoc (ha.getD name) (hb.of_get? hmiddle) hlast)

/-- Nothing below a table of tables leaves it as it is. -/
theorem layer_nil_left (h : Tiered a) : layer [] a = a := by
  have hnil : Tiered ([] : Assoc (Assoc β)) := ⟨List.Pairwise.nil, fun _ he => nomatch he⟩
  refine (hnil.layer a).outer.ext h.outer fun name => ?_
  rw [get?_layer h.outer]
  cases ht : a.get? name with
  | none => rfl
  | some t => exact congrArg some (extend_nil_left (h.of_get? ht))

end Assoc

namespace Configuration

variable {a b c lower upper : Configuration} {path account name : String} {f : File}
  {files front back : List (String × File)}

/-- Accounts and filters are in the order of their names. -/
structure Tidy (c : Configuration) : Prop where
  /-- The accounts ascend. -/
  accounts : c.accounts.Ascending
  /-- The filters ascend, those of each account too. -/
  filters : Assoc.Tiered c.filters

/-- The filter of a name for an account. -/
def filter? (c : Configuration) (account name : String) : Option Filter :=
  (c.filters.get? account).bind (Assoc.get? name)

theorem Tidy.empty : empty.Tidy :=
  ⟨List.Pairwise.nil, List.Pairwise.nil, fun _ he => nomatch he⟩

theorem Tidy.merge (h : lower.Tidy) (upper : Configuration) : (lower.merge upper).Tidy :=
  ⟨h.accounts.extend upper.accounts, h.filters.layer upper.filters⟩

/-- An account comes whole from the upper configuration if it is there. -/
theorem get?_accounts_merge (h : upper.Tidy) (lower : Configuration) (name : String) :
    (lower.merge upper).accounts.get? name =
      (upper.accounts.get? name).or (lower.accounts.get? name) :=
  Assoc.get?_extend h.accounts lower.accounts name

/-- A filter comes from the upper configuration if it is there, whatever becomes of the others. -/
theorem filter?_merge (h : upper.Tidy) (lower : Configuration) (account name : String) :
    (lower.merge upper).filter? account name =
      (upper.filter? account name).or (lower.filter? account name) :=
  Assoc.bind_get?_layer h.filters lower.filters account name

/-- Of three configurations it does not matter which two are merged first. -/
theorem merge_assoc (ha : a.Tidy) (hb : b.Tidy) (hc : c.Tidy) :
    (a.merge b).merge c = a.merge (b.merge c) :=
  congrArg₂ Configuration.mk (Assoc.extend_assoc ha.accounts hb.accounts hc.accounts)
    (Assoc.layer_assoc ha.filters hb.filters hc.filters)

theorem empty_merge (h : c.Tidy) : empty.merge c = c :=
  congrArg₂ Configuration.mk (Assoc.extend_nil_left h.accounts) (Assoc.layer_nil_left h.filters)

/-! ### Files on top of one another -/

/-- What is read is in order. -/
theorem tidy_of_ofText {text : String} (h : ofText text = .ok c) : c.Tidy := by
  obtain ⟨d, -, hd⟩ := bind_eq_ok_iff.mp h
  refine Document.readRecord_keeps (fun f hf d a b hput ha => ?_) hd Tidy.empty
  simp only [fields, List.mem_cons, List.not_mem_nil, or_false] at hf
  rcases hf with rfl | rfl
  · obtain ⟨v, -, rfl⟩ := Document.put_of_eq_ok_iff.mp hput
    exact ⟨Assoc.Ascending.ofList v, ha.filters⟩
  · obtain ⟨v, hv, rfl⟩ := Document.put_of_eq_ok_iff.mp hput
    refine ⟨ha.accounts, Assoc.Ascending.ofList v, fun e he => ?_⟩
    obtain ⟨d', hd'⟩ := Document.exists_read_of_mem hv (Assoc.mem_of_mem_ofList he)
    obtain ⟨filters, -, hfilters⟩ := map_eq_ok_iff.mp hd'
    exact hfilters ▸ Assoc.Ascending.ofList filters

/-- What a file says, if it can be read. -/
def contentOf? (f : File) : Option Configuration :=
  (textOf f).toOption.bind fun text => (ofText text).toOption

theorem ofFile_eq_ok_iff : ofFile path f = .ok c ↔ contentOf? f = some c := by
  unfold ofFile contentOf?
  cases textOf f with
  | error fault => exact ⟨fun h => (nomatch h), fun h => (nomatch h)⟩
  | ok text =>
    refine Iff.trans ?_ toOption_eq_some_iff.symm
    change (ofText text).mapError _ = _ ↔ _
    cases ofText text <;> simp [Except.mapError]

theorem tidy_of_contentOf? (h : contentOf? f = some c) : c.Tidy := by
  obtain ⟨text, -, htext⟩ := Option.bind_eq_some_iff.mp h
  exact tidy_of_ofText (toOption_eq_some_iff.mp htext)

/-- Merges a file. -/
def mergeFile (c : Configuration) (e : String × File) : Except Fault Configuration :=
  (ofFile e.1 e.2).map c.merge

theorem mergeFile_eq_ok_iff {e : String × File} {c' : Configuration} :
    mergeFile c e = .ok c' ↔ ∃ upper, contentOf? e.2 = some upper ∧ c.merge upper = c' := by
  simp only [mergeFile, map_eq_ok_iff, ofFile_eq_ok_iff]

theorem mergeFiles_eq_foldlM (c : Configuration) (files : List (String × File)) :
    mergeFiles c files = files.foldlM mergeFile c := by
  induction files generalizing c with
  | nil => rfl
  | cons e rest ih =>
    rw [mergeFiles, List.foldlM_cons, mergeFile]
    cases ofFile e.1 e.2 with
    | error fault => rfl
    | ok upper => exact ih (c.merge upper)

theorem tidy_of_mergeFiles {c' : Configuration} (h : mergeFiles c files = .ok c')
    (hc : c.Tidy) : c'.Tidy := by
  rw [mergeFiles_eq_foldlM] at h
  induction files generalizing c with
  | nil => exact Except.ok.inj h ▸ hc
  | cons e rest ih =>
    rw [List.foldlM_cons] at h
    obtain ⟨middle, hmiddle, hrest⟩ := bind_eq_ok_iff.mp h
    obtain ⟨upper, -, rfl⟩ := mergeFile_eq_ok_iff.mp hmiddle
    exact ih hrest (hc.merge upper)

/-- What the upper configuration says if it says anything is in the end what the last file says that
says anything. -/
theorem view_mergeFiles {α : Type} (view : Configuration → Option α) (hempty : view empty = none)
    (hmerge : ∀ lower upper : Configuration, upper.Tidy →
      view (lower.merge upper) = (view upper).or (view lower))
    (h : mergeFiles empty files = .ok c) :
    view c = files.reverse.findSome? fun e => (contentOf? e.2).bind view := by
  rw [mergeFiles_eq_foldlM] at h
  have hlast := view_foldlM view (fun e => (contentOf? e.2).bind view) (fun lower e c hstep => ?_) h
  · rw [hlast, hempty, Option.or_none]
  · obtain ⟨upper, hupper, rfl⟩ := mergeFile_eq_ok_iff.mp hstep
    rw [hmerge lower upper (tidy_of_contentOf? hupper), hupper, Option.bind_some]

/-- Files on top of a configuration are their own configuration on top of it. -/
theorem mergeFiles_eq_map (hc : c.Tidy) (files : List (String × File)) :
    mergeFiles c files = (mergeFiles empty files).map c.merge := by
  induction files generalizing c with
  | nil => rfl
  | cons e rest ih =>
    obtain ⟨path, f⟩ := e
    rw [mergeFiles, mergeFiles]
    cases hfirst : ofFile path f with
    | error fault => rfl
    | ok first =>
      have htidy := tidy_of_contentOf? (ofFile_eq_ok_iff.mp hfirst)
      change mergeFiles (c.merge first) rest = (mergeFiles (empty.merge first) rest).map c.merge
      rw [empty_merge htidy, ih (hc.merge first), ih htidy]
      cases hrest : mergeFiles empty rest with
      | error fault => rfl
      | ok last =>
        have hlast := tidy_of_mergeFiles hrest Tidy.empty
        exact congrArg Except.ok (merge_assoc hc htidy hlast)

/-- A row of files can be cut anywhere: the configurations of the two parts are merged. -/
theorem mergeFiles_append_eq_ok_iff : mergeFiles empty (front ++ back) = .ok c ↔
    ∃ c₁ c₂, mergeFiles empty front = .ok c₁ ∧ mergeFiles empty back = .ok c₂ ∧
      c₁.merge c₂ = c := by
  have hsplit : mergeFiles empty (front ++ back) =
      mergeFiles empty front >>= fun c₁ => mergeFiles c₁ back := by
    simp only [mergeFiles_eq_foldlM, List.foldlM_append]
  rw [hsplit, bind_eq_ok_iff]
  refine exists_congr fun c₁ => ?_
  rw [exists_and_left]
  refine and_congr_right fun hfront => ?_
  rw [mergeFiles_eq_map (tidy_of_mergeFiles hfront Tidy.empty), map_eq_ok_iff]

/-! ### Completing -/

end Configuration

/-- An account with its mailboxes named, and with the password that was found for it if one was. -/
def Account.furnished (password : Option String) (a : Account) : Account :=
  { a with
    connection := { a.connection with password := password.getD a.connection.password }
    input := some (if a.input.getD "" = "" then "INBOX" else a.input.getD "")
    fallback := some (a.fallback.getD "INBOX") }

theorem Account.eq_furnished_of_complete {name : String} {password : Option String} {a b : Account}
    (h : a.complete name password = .ok b) : b = a.furnished password := by
  unfold complete at h
  split at h
  · cases h
  · obtain rfl := Except.ok.inj h
    have hinput : a.inputMailbox = if a.input.getD "" = "" then "INBOX" else a.input.getD "" := by
      unfold inputMailbox usualMailbox
      cases a.input <;> simp
    rw [furnished, hinput]
    rfl

namespace Configuration

variable {passwords : Assoc String} {accounts done : Assoc Account}

/-- What becomes of an account: it is dropped, or it is completed. -/
theorem get?_completeAccounts (haccounts : accounts.Ascending)
    (h : completeAccounts passwords accounts = .ok done) (name : String) :
    done.get? name = ((accounts.get? name).filter (·.enabled)).map
      (·.furnished (passwords.get? name)) := by
  induction accounts generalizing done with
  | nil =>
    obtain rfl := Except.ok.inj h
    rfl
  | cons e rest ih =>
    obtain ⟨k, a⟩ := e
    obtain ⟨hhead, hrest⟩ := List.pairwise_cons.mp haccounts
    rw [completeAccounts] at h
    split at h
    · next henabled =>
      obtain ⟨b, hb, h⟩ := bind_eq_ok_iff.mp h
      obtain ⟨others, hothers, h⟩ := bind_eq_ok_iff.mp h
      obtain rfl := Except.ok.inj h
      obtain rfl := Account.eq_furnished_of_complete hb
      by_cases hk : k = name
      · subst hk
        simp [Assoc.get?, Option.filter, henabled]
      · simp [Assoc.get?, hk, ih hrest hothers]
    · next hdisabled =>
      rw [ih hrest h]
      by_cases hk : k = name
      · subst hk
        simp [Assoc.get?, Option.filter, hdisabled, Assoc.get?_eq_none_of_forall_lt hhead]
      · simp [Assoc.get?, hk]

theorem complete_eq_ok_iff {merged : Configuration} : merged.complete passwords = .ok c ↔
    completeAccounts passwords merged.accounts = .ok c.accounts ∧ c.filters = merged.filters := by
  unfold complete
  rw [bind_eq_ok_iff]
  constructor
  · rintro ⟨accounts, haccounts, h⟩
    obtain rfl := Except.ok.inj h
    exact ⟨haccounts, rfl⟩
  · rintro ⟨haccounts, hfilters⟩
    exact ⟨_, haccounts, congrArg Except.ok (congrArg (Configuration.mk _) hfilters.symm)⟩

end Configuration

end Postroom
