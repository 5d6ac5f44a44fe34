import Postroom.Proofs.Configuration.Merging
import Postroom.Proofs.Configuration.Secrets

/-!
# What a directory of files says

A load goes through the files of a directory in the order of their places: depth first, siblings by
name.  It notes the configuration files in that order (`files_of_foldlM_visit`) and the last
password of each account (`get?_passwords_of_foldlM_visit`), and then merges the files one after
another.  So what a directory says is what the last file says that says anything (`load_lastOf`):
for an account the last definition of it, which counts as a whole and only if it is switched on, and
for a filter the last definition of this filter for this account.  The files may be cut into two
rows anywhere and the two configurations merged, with the same result.
-/

namespace Postroom.Configuration

open FileTree

variable {directory path account name : String} {entries : List (String × FileTree)} {f : File}
  {found found' : Findings} {place start : List String} {leaves : List (List String × Leaf)}
  {e : List String × Leaf} {root : FileTree} {c : Configuration}

/-! ### What one file says -/

/-- The configuration in the file at a place, if it is a configuration file. -/
def configurationAt? (place : List String) (f : File) : Option Configuration :=
  if isConfigurationName (place.getLast?.getD "") then contentOf? f else none

/-- How the file at a place defines an account. -/
def accountIn (name : String) (place : List String) (f : File) : Option Account :=
  (configurationAt? place f).bind fun c => c.accounts.get? name

/-- How the file at a place defines a filter for an account. -/
def filterIn (account name : String) (place : List String) (f : File) : Option Filter :=
  (configurationAt? place f).bind fun c => c.filter? account name

/-- The password of an account in the file at a place, if it is the password file of the account. -/
def passwordIn (account : String) (place : List String) (f : File) : Option String :=
  if passwordAccountAt? place = some account then (readPassword "" f).toOption else none

/-- A file with a password is not a configuration file. -/
theorem passwordAccount?_eq_none (h : isConfigurationName name = true) :
    passwordAccount? name = none := by
  unfold isConfigurationName at h
  obtain ⟨hsuffix, -⟩ := Bool.and_eq_true_iff.mp h
  obtain ⟨front, hfront⟩ := List.isSuffixOf_iff_suffix.mp hsuffix
  have hlast : name.toList.getLast? = some 'l' := by
    rw [← hfront, List.getLast?_append]
    rfl
  unfold passwordAccount?
  dsimp only
  split
  · split
    · next hback =>
      -- A name that ends like a password file does not end in that letter.
      obtain ⟨rest, hrest⟩ := List.isSuffixOf_iff_suffix.mp hback.1
      have hother : name.toList.getLast? = some 'd' := by
        rw [← List.take_append_drop ".mailsort.".toList.length name.toList, ← hrest,
          ← List.append_assoc, List.getLast?_append]
        rfl
      cases hlast.symm.trans hother
    · rfl
  · rfl

/-! ### What a walk finds -/

/-- A configuration file with its path, if the leaf at a place is one. -/
def configurationFile? (directory : String) (e : List String × Leaf) : Option (String × File) :=
  e.2.toOption.bind fun f =>
    if isConfigurationName (e.1.getLast?.getD "") then some (e.1.foldl entryPath directory, f)
    else none

/-- A leaf adds a password if it is a password file, and itself if it is a configuration file. -/
theorem eq_of_visit (h : visit directory found e = .ok found') :
    found'.files = found.files ++ (configurationFile? directory e).toList ∧
      ∀ account, found'.passwords.get? account =
        (readLeaf (passwordIn account) e).or (found.passwords.get? account) := by
  obtain ⟨place, leaf⟩ := e
  cases leaf with
  | error failure => cases h
  | ok f =>
    simp only [visit, Findings.look] at h
    simp only [configurationFile?, readLeaf, passwordIn, Except.toOption, Option.bind_some,
      ← passwordAccount?_last]
    cases haccount : passwordAccount? (place.getLast?.getD "") with
    | some owner =>
      rw [haccount] at h
      obtain ⟨password, hpassword, h⟩ := bind_eq_ok_iff.mp h
      obtain rfl := Except.ok.inj h
      have hname : ¬ isConfigurationName (place.getLast?.getD "") = true := fun hname =>
        Option.some_ne_none owner (haccount.symm.trans (passwordAccount?_eq_none hname))
      have hread : readPassword "" f = .ok password :=
        readPassword_eq_ok_iff.mpr (readPassword_eq_ok_iff.mp hpassword)
      refine ⟨by simp [hname], fun account => ?_⟩
      rw [Assoc.get?_insert, hread]
      by_cases howner : account = owner
      · simp [howner]
      · simp [howner, Ne.symm howner]
    | none =>
      rw [haccount] at h
      obtain rfl := Except.ok.inj h
      by_cases hname : isConfigurationName (place.getLast?.getD "") = true <;> simp [hname]

/-- The configuration files that a walk finds, in order. -/
theorem files_of_foldlM_visit (h : leaves.foldlM (visit directory) found = .ok found') :
    found'.files = found.files ++ leaves.filterMap (configurationFile? directory) := by
  induction leaves generalizing found with
  | nil =>
    obtain rfl := Except.ok.inj h
    simp
  | cons e rest ih =>
    rw [List.foldlM_cons] at h
    obtain ⟨middle, hmiddle, hrest⟩ := bind_eq_ok_iff.mp h
    rw [ih hrest, (eq_of_visit hmiddle).1, List.append_assoc, List.filterMap_cons]
    cases configurationFile? directory e <;> simp

/-- The password that a walk finds for an account, the last there is. -/
theorem get?_passwords_of_foldlM_visit (h : leaves.foldlM (visit directory) found = .ok found')
    (account : String) : found'.passwords.get? account =
      (leaves.reverse.findSome? (readLeaf (passwordIn account))).or
        (found.passwords.get? account) :=
  view_foldlM (fun found => found.passwords.get? account) (readLeaf (passwordIn account))
    (fun _ _ _ hvisit => (eq_of_visit hvisit).2 account) h

/-- What the files that a walk finds say, read off the leaves. -/
theorem findSome?_configurationFile? {α : Type} (view : Configuration → Option α) :
    (leaves.filterMap (configurationFile? directory)).reverse.findSome?
        (fun e => (contentOf? e.2).bind view) =
      leaves.reverse.findSome? (readLeaf fun place f => (configurationAt? place f).bind view) := by
  rw [← List.filterMap_reverse, ← List.head?_filterMap, List.filterMap_filterMap,
    List.head?_filterMap]
  congr 1
  funext e
  obtain ⟨place, leaf⟩ := e
  cases leaf with
  | error failure => rfl
  | ok f =>
    simp only [configurationFile?, readLeaf, configurationAt?, Except.toOption, Option.bind_some]
    split <;> rfl

/-! ### What a directory says -/

/-- A directory says what the last file says that says anything. -/
theorem lastOf_of_mergeFiles {α : Type} (hentries : FileTree.Ordered (.directory entries))
    (hfound : (Findings.gather directory entries Findings.none).1 = .ok found)
    (hmerged : mergeFiles empty found.files = .ok c) (view : Configuration → Option α)
    (hempty : view empty = none)
    (hmerge : ∀ lower upper : Configuration, upper.Tidy →
      view (lower.merge upper) = (view upper).or (view lower)) :
    LastOf (.directory entries) (fun place f => (configurationAt? place f).bind view) (view c) := by
  rw [gather_fst] at hfound
  have hfiles := files_of_foldlM_visit hfound
  rw [view_mergeFiles view hempty hmerge hmerged, hfiles, Findings.none, List.nil_append,
    findSome?_configurationFile?]
  exact lastOf_leavesIn hentries _

/-- **What a load gives.**  A configuration that is loaded from a directory has an account if the
last file that defines the account has it switched on, with the settings of that definition and the
last password for it that is in a file of its own; it has the filter of the last file that defines
this filter for this account; and it is what comes of merging the configurations of any two parts of
the row of files, and completing that. -/
theorem load_lastOf (h : root.Ordered) (hstart : root.resolve path = .ok start)
    (hdirectory : root.find? start = some (.directory entries))
    (hload : (load path root).1 = .ok c) :
    (∀ name, ∃ account password,
      LastOf (.directory entries) (accountIn name) account ∧
      LastOf (.directory entries) (passwordIn name) password ∧
      c.accounts.get? name = (account.filter (·.enabled)).map (·.furnished password)) ∧
    (∀ account name,
      LastOf (.directory entries) (filterIn account name) (c.filter? account name)) ∧
    ∃ found, (Findings.gather path entries Findings.none).1 = .ok found ∧
      ∀ front back, found.files = front ++ back →
        ∃ c₁ c₂, mergeFiles empty front = .ok c₁ ∧ mergeFiles empty back = .ok c₂ ∧
          (c₁.merge c₂).complete found.passwords = .ok c := by
  have hentries : FileTree.Ordered (.directory entries) := h.of_find? hdirectory
  rw [load_of_directory hstart hdirectory] at hload
  obtain ⟨found, hfound, hload⟩ := bind_eq_ok_iff.mp hload
  obtain ⟨merged, hmerged, hcomplete⟩ := bind_eq_ok_iff.mp hload
  obtain ⟨haccounts, hfilters⟩ := complete_eq_ok_iff.mp hcomplete
  have htidy := tidy_of_mergeFiles hmerged Tidy.empty
  refine ⟨fun name => ⟨merged.accounts.get? name, found.passwords.get? name, ?_, ?_, ?_⟩,
    fun account name => ?_, found, hfound, fun front back hfiles => ?_⟩
  · exact lastOf_of_mergeFiles hentries hfound hmerged (fun c => c.accounts.get? name) rfl
      fun lower upper hupper => get?_accounts_merge hupper lower name
  · rw [gather_fst] at hfound
    rw [get?_passwords_of_foldlM_visit hfound, Findings.none, Assoc.get?_nil, Option.or_none]
    exact lastOf_leavesIn hentries _
  · exact get?_completeAccounts htidy.accounts haccounts name
  · have hfilter : c.filter? account name = merged.filter? account name := by
      rw [filter?, hfilters, filter?]
    rw [hfilter]
    exact lastOf_of_mergeFiles hentries hfound hmerged (fun c => c.filter? account name) rfl
      fun lower upper hupper => filter?_merge hupper lower account name
  · obtain ⟨c₁, c₂, hfront, hback, rfl⟩ := mergeFiles_append_eq_ok_iff.mp (hfiles ▸ hmerged)
    exact ⟨c₁, c₂, hfront, hback, hcomplete⟩

/-- A file of ASCII text. -/
def ascii (text : String) : File := .plain (text.toList.map Char.toUInt8)

/-- An account that is switched off, and a filter for it. -/
def early : File := ascii "[accounts.work]\nenable = false\n[filters.work.news]"

/-- The account, switched on. -/
def late : File := ascii "[accounts.work]\nenable = true\nconnection.server = \"s\""

/-- A password file and two configuration files. -/
def laden : List (String × FileTree) := [
  (".mailsort.work.pwd", .file secret), ("a.toml", .file early),
  ("b", .directory [("c.toml", .file late)])]

theorem laden_ordered : FileTree.Ordered (.directory [("mail", .directory laden)]) :=
  FileTree.ofFiles_ordered
    [("mail/.mailsort.work.pwd", _), ("mail/a.toml", _), ("mail/b/c.toml", _)]

/-- What is found in these files. -/
def ladenFindings : Findings :=
  ⟨[("mail/a.toml", early), ("mail/b/c.toml", late)], [("work", "s3cret")]⟩

theorem gather_laden :
    (Findings.gather "mail" laden Findings.none).1 = .ok ladenFindings := by
  rw [gather_fst]
  simp only [laden, leavesIn]
  rfl

/-- The load of these files succeeds, with the account as the second file has it. -/
theorem loaded_from_laden : ∃ c,
    (load "mail" (.directory [("mail", .directory laden)])).1 = .ok c ∧
      c.accounts.keys = ["work"] ∧
      LastOf (.directory laden) (filterIn "work" "news") (c.filter? "work" "news") := by
  have hstart : FileTree.resolve (.directory [("mail", .directory laden)]) "mail" =
      .ok ["mail"] := by rfl
  have hkeys : (ofFindings ladenFindings).toOption.map (·.accounts.keys) = some ["work"] := by
    decide +kernel
  obtain ⟨c, hc, hkeys⟩ := Option.map_eq_some_iff.mp hkeys
  have hread := toOption_eq_some_iff.mp hc
  have hload : (load "mail" (.directory [("mail", .directory laden)])).1 = .ok c := by
    rw [load_of_directory hstart rfl, gather_laden]
    exact bind_eq_ok_iff.mpr ⟨ladenFindings, rfl, hread⟩
  obtain ⟨-, hfilters, -⟩ := load_lastOf laden_ordered hstart rfl hload
  exact ⟨c, hload, hkeys, hfilters "work" "news"⟩

end Postroom.Configuration
