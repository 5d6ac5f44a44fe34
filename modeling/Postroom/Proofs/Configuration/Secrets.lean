import Postroom.Configuration.Loading
import Postroom.Proofs.FileTree

/-!
# What a load leaves behind

`Findings.gather` goes down a directory entry by entry.  Seen from the leaves it is one walk along
`FileTree.leavesIn` (`gather_fst`): it stops at a directory that cannot be looked through and at a
password file that yields no password (`Stops`), and it takes every password file up to there away
(`left_gather`).  What is found besides plays no part in that, nor does anything that happens after
the walk.  So a load leaves all files alone but the password files that it got to, whether it
succeeds or not (`load_leaves`): what it has taken by the time it fails is gone
(`lost_by_failed_load`).
-/

namespace Postroom

open FileTree

/-- A file that a password can be read from, and that can be taken away. -/
def File.Yields (f : File) (password : String) : Prop :=
  ∃ content text, f.content = .ok content ∧ Text.Utf8.string? content = some text ∧
    Text.trimmed text = password ∧ password ≠ "" ∧ f.hold = none

namespace Configuration

/-- The account whose password is in a file at a place. -/
def passwordAccountAt? (place : List String) : Option String :=
  place.getLast?.bind passwordAccount?

/-- A password file stands at the place, if any file does. -/
def IsSecret (place : List String) : Prop := (passwordAccountAt? place).isSome = true

instance (place : List String) : Decidable (IsSecret place) :=
  inferInstanceAs (Decidable (_ = true))

/-- A leaf that nobody gets past: a directory that cannot be looked through, or a password file that
yields no password. -/
def Stops (place : List String) : Leaf → Prop
  | .error _ => True
  | .ok f => IsSecret place ∧ ¬ ∃ password, f.Yields password

/-- A password file in a directory that is read before anything stops the walk. -/
def Taken (entries : List (String × FileTree)) (place : List String) : Prop :=
  IsSecret place ∧ ∀ earlier leaf, ¬ place < earlier →
    (FileTree.directory entries).leafAt? earlier = some leaf → ¬ Stops earlier leaf

variable {directory name path password : String} {entries : List (String × FileTree)} {f : File}
  {found found' : Findings} {place : List String} {leaf : Leaf} {root : FileTree}
  {e : List String × Leaf} {leaves more : List (List String × Leaf)}

theorem textOf_eq_ok_iff {text : String} :
    textOf f = .ok text ↔
      ∃ content, f.content = .ok content ∧ Text.Utf8.string? content = some text := by
  unfold textOf
  cases f.content with
  | error failure => simp
  | ok content => cases htext : Text.Utf8.string? content <;> simp [htext]

theorem passwordOf_eq_ok_iff {text : String} : passwordOf path f text = .ok password ↔
    Text.trimmed text = password ∧ password ≠ "" ∧ f.hold = none := by
  unfold passwordOf
  split
  · next hempty =>
    constructor
    · intro h
      cases h
    · rintro ⟨rfl, hne, -⟩
      exact absurd (String.isEmpty_iff.mp hempty) hne
  · next hempty =>
    cases f.hold with
    | some failure => simp
    | none =>
      simp only [Except.ok.injEq, and_true, iff_self_and]
      rintro rfl
      exact fun heq => hempty (String.isEmpty_iff.mpr heq)

theorem readPassword_eq_ok_iff : readPassword path f = .ok password ↔ f.Yields password := by
  unfold readPassword File.Yields
  rw [bind_eq_ok_iff]
  simp only [textOf_eq_ok_iff, passwordOf_eq_ok_iff]
  constructor
  · rintro ⟨text, ⟨content, hcontent, htext⟩, hrest⟩
    exact ⟨content, text, hcontent, htext, hrest⟩
  · rintro ⟨content, text, hcontent, htext, hrest⟩
    exact ⟨text, ⟨content, hcontent, htext⟩, hrest⟩

/-! ### The walk along the leaves -/

/-- What a leaf at a place in a directory adds to what was found. -/
def visit (directory : String) (found : Findings) (e : List String × Leaf) :
    Except Fault Findings :=
  match e.2 with
  | .error failure => .error (.stream failure)
  | .ok f => found.look (e.1.foldl entryPath directory) (e.1.getLast?.getD "") f

theorem passwordAccount?_last (place : List String) :
    passwordAccount? (place.getLast?.getD "") = passwordAccountAt? place := by
  unfold passwordAccountAt?
  cases place.getLast? with
  | none => decide
  | some name => rfl

theorem visit_eq_error_iff :
    (∃ fault, visit directory found (place, leaf) = .error fault) ↔ Stops place leaf := by
  cases leaf with
  | error failure => exact ⟨fun _ => trivial, fun _ => ⟨_, rfl⟩⟩
  | ok f =>
    simp only [visit, Findings.look, passwordAccount?_last, Stops, IsSecret]
    cases passwordAccountAt? place with
    | none => simp
    | some account =>
      have hread (password : String) : f.Yields password ↔
          readPassword (place.foldl entryPath directory) f = .ok password :=
        readPassword_eq_ok_iff.symm
      simp only [hread]
      cases readPassword (place.foldl entryPath directory) f <;>
        simp [bind, Except.bind, pure, Except.pure]

/-- A place in a directory of the directory is a longer place. -/
theorem visit_cons (hplace : e.1 ≠ []) :
    visit directory found (name :: e.1, e.2) = visit (entryPath directory name) found e := by
  obtain ⟨other, rest, hcons⟩ := List.exists_cons_of_ne_nil hplace
  simp only [visit, hcons, List.getLast?_cons_cons, List.foldl_cons]

theorem ne_nil_of_mem_leavesIn (h : e ∈ leavesIn entries) : e.1 ≠ [] := by
  obtain ⟨name, inner, heq, -⟩ := exists_cons_of_mem_leavesIn h
  exact heq ▸ List.cons_ne_nil name inner

/-- The walk through an entry that is a directory. -/
theorem foldlM_visit_map (h : ∀ e ∈ leaves, e.1 ≠ []) :
    (leaves.map fun e => (name :: e.1, e.2)).foldlM (visit directory) found =
      leaves.foldlM (visit (entryPath directory name)) found := by
  induction leaves generalizing found with
  | nil => rw [List.map_nil, List.foldlM_nil, List.foldlM_nil]
  | cons e rest ih =>
    obtain ⟨hplace, hrest⟩ := List.forall_mem_cons.mp h
    rw [List.map_cons, List.foldlM_cons, List.foldlM_cons, visit_cons hplace]
    exact bind_congr fun found' => ih hrest

/-- What is found is what the walk along the leaves finds. -/
theorem gather_fst (directory : String) (entries : List (String × FileTree)) (found : Findings) :
    (Findings.gather directory entries found).1 =
      (leavesIn entries).foldlM (visit directory) found := by
  induction entries using leavesIn.induct generalizing directory found with
  | case1 => simp [Findings.gather, leavesIn, pure, Except.pure]
  | case2 name f rest ih =>
    rw [Findings.gather, leavesIn, List.foldlM_cons]
    have hvisit : visit directory found ([name], .ok f) =
        found.look (entryPath directory name) name f := rfl
    rw [hvisit]
    cases found.look (entryPath directory name) name f with
    | error fault => rfl
    | ok found' => exact ih directory found'
  | case3 name failure rest ih => rw [Findings.gather, leavesIn, List.foldlM_cons]; rfl
  | case4 name entries rest ihEntries ihRest =>
    rw [Findings.gather, leavesIn, List.foldlM_append,
      foldlM_visit_map fun e he => ne_nil_of_mem_leavesIn he, ← ihEntries]
    rcases Findings.gather (entryPath directory name) entries found with ⟨_ | found', left⟩
    · rfl
    · exact ihRest directory found'

/-! ### What is left of the leaves -/

/-- What is left of leaves: password files are taken away up to a leaf that stops the walk. -/
inductive Left : List (List String × Leaf) → List (List String × Leaf) → Prop
  | done : Left [] []
  | stopped {e : List String × Leaf} {rest : List (List String × Leaf)}
    (hstops : Stops e.1 e.2) : Left (e :: rest) (e :: rest)
  | taken {e : List String × Leaf} {rest left : List (List String × Leaf)}
    (hgoes : ¬ Stops e.1 e.2) (hsecret : IsSecret e.1) (hrest : Left rest left) :
    Left (e :: rest) left
  | kept {e : List String × Leaf} {rest left : List (List String × Leaf)}
    (hgoes : ¬ Stops e.1 e.2) (hopen : ¬ IsSecret e.1) (hrest : Left rest left) :
    Left (e :: rest) (e :: left)

variable {left : List (List String × Leaf)}

/-- Leaves in order lose the password files with nothing up to them that stops the walk. -/
theorem Left.mem_iff (h : Left leaves left) (hleaves : leaves.Pairwise fun a b => a.1 < b.1) :
    e ∈ left ↔ e ∈ leaves ∧
      ¬ (IsSecret e.1 ∧ ∀ e' ∈ leaves, ¬ e.1 < e'.1 → ¬ Stops e'.1 e'.2) := by
  induction h with
  | done => simp
  | @stopped head rest hstops =>
    refine ⟨fun he => ⟨he, fun htaken => ?_⟩, And.left⟩
    refine htaken.2 head List.mem_cons_self ?_ hstops
    rcases List.mem_cons.mp he with rfl | he
    · exact List.lt_irrefl _
    · exact List.lt_asymm ((List.pairwise_cons.mp hleaves).1 e he)
  | @taken head rest left hgoes hsecret hrest ih =>
    obtain ⟨hhead, hpairwise⟩ := List.pairwise_cons.mp hleaves
    rw [ih hpairwise, List.mem_cons, List.forall_mem_cons]
    constructor
    · rintro ⟨he, hkept⟩
      exact ⟨Or.inr he, fun htaken => hkept ⟨htaken.1, htaken.2.2⟩⟩
    · rintro ⟨rfl | he, hkept⟩
      · -- The first leaf itself: nothing else stands before it.
        refine absurd ⟨hsecret, fun _ => hgoes, fun e' he' hle => ?_⟩ hkept
        exact absurd (hhead e' he') hle
      · exact ⟨he, fun htaken => hkept ⟨htaken.1, fun _ => hgoes, htaken.2⟩⟩
  | @kept head rest left hgoes hopen hrest ih =>
    obtain ⟨hhead, hpairwise⟩ := List.pairwise_cons.mp hleaves
    rw [List.mem_cons, ih hpairwise, List.mem_cons, List.forall_mem_cons]
    constructor
    · rintro (rfl | ⟨he, hkept⟩)
      · exact ⟨Or.inl rfl, fun htaken => hopen htaken.1⟩
      · exact ⟨Or.inr he, fun htaken => hkept ⟨htaken.1, htaken.2.2⟩⟩
    · rintro ⟨rfl | he, hkept⟩
      · exact Or.inl rfl
      · exact Or.inr ⟨he, fun htaken => hkept ⟨htaken.1, fun _ => hgoes, htaken.2⟩⟩

theorem Left.append_of_stops (h : Left leaves left) (hstops : ∃ e ∈ leaves, Stops e.1 e.2) :
    Left (leaves ++ more) (left ++ more) := by
  induction h with
  | done => simp at hstops
  | stopped hhead => exact .stopped hhead
  | taken hgoes hsecret _ ih =>
    refine .taken hgoes hsecret (ih ?_)
    simpa [hgoes] using hstops
  | kept hgoes hopen _ ih =>
    refine .kept hgoes hopen (ih ?_)
    simpa [hgoes] using hstops

theorem Left.append {left' : List (List String × Leaf)} (h : Left leaves left)
    (hgoes : ∀ e ∈ leaves, ¬ Stops e.1 e.2) (hmore : Left more left') :
    Left (leaves ++ more) (left ++ left') := by
  induction h with
  | done => exact hmore
  | stopped hhead => exact absurd hhead (hgoes _ List.mem_cons_self)
  | taken hhead hsecret _ ih =>
    exact .taken hhead hsecret (ih fun e he => hgoes e (List.mem_cons_of_mem _ he))
  | kept hhead hopen _ ih =>
    exact .kept hhead hopen (ih fun e he => hgoes e (List.mem_cons_of_mem _ he))

theorem passwordAccountAt?_cons (hplace : place ≠ []) :
    passwordAccountAt? (name :: place) = passwordAccountAt? place := by
  obtain ⟨other, rest, rfl⟩ := List.exists_cons_of_ne_nil hplace
  simp only [passwordAccountAt?, List.getLast?_cons_cons]

theorem stops_cons (hplace : place ≠ []) : Stops (name :: place) leaf ↔ Stops place leaf := by
  cases leaf with
  | error failure => exact Iff.rfl
  | ok f => simp only [Stops, IsSecret, passwordAccountAt?_cons hplace]

/-- What is left in an entry that is a directory. -/
theorem Left.map_cons (h : Left leaves left) (hleaves : ∀ e ∈ leaves, e.1 ≠ []) (name : String) :
    Left (leaves.map fun e => (name :: e.1, e.2)) (left.map fun e => (name :: e.1, e.2)) := by
  induction h with
  | done => exact .done
  | stopped hstops =>
    exact .stopped ((stops_cons (hleaves _ List.mem_cons_self)).mpr hstops)
  | taken hgoes hsecret _ ih =>
    obtain ⟨hplace, hrest⟩ := List.forall_mem_cons.mp hleaves
    refine .taken (fun hstops => hgoes ((stops_cons hplace).mp hstops)) ?_ (ih hrest)
    rwa [IsSecret, passwordAccountAt?_cons hplace]
  | kept hgoes hopen _ ih =>
    obtain ⟨hplace, hrest⟩ := List.forall_mem_cons.mp hleaves
    refine .kept (fun hstops => hgoes ((stops_cons hplace).mp hstops)) ?_ (ih hrest)
    rwa [IsSecret, passwordAccountAt?_cons hplace]

/-- The walk ends early if some leaf stops it. -/
theorem foldlM_visit_eq_error_iff :
    (∃ fault, leaves.foldlM (visit directory) found = .error fault) ↔
      ∃ e ∈ leaves, Stops e.1 e.2 := by
  induction leaves generalizing found with
  | nil => simp [pure, Except.pure]
  | cons e rest ih =>
    simp only [List.foldlM_cons, List.mem_cons, exists_eq_or_imp]
    rw [← visit_eq_error_iff]
    cases hvisit : visit directory found e with
    | error fault => exact ⟨fun _ => Or.inl ⟨_, rfl⟩, fun _ => ⟨_, rfl⟩⟩
    | ok found' =>
      refine ih.trans ⟨Or.inr, fun h => h.resolve_left ?_⟩
      rintro ⟨fault, herror⟩
      cases herror

/-- The leaves that a walk leaves. -/
theorem left_gather (directory : String) (entries : List (String × FileTree)) (found : Findings) :
    Left (leavesIn entries) (leavesIn (Findings.gather directory entries found).2) := by
  induction entries using leavesIn.induct generalizing directory found with
  | case1 =>
    rw [Findings.gather, leavesIn]
    exact .done
  | case2 name f rest ih =>
    have hvisit : visit directory found ([name], .ok f) =
        found.look (entryPath directory name) name f := rfl
    have hlook : (∃ fault, found.look (entryPath directory name) name f = .error fault) ↔
        Stops [name] (.ok f) := hvisit ▸ visit_eq_error_iff
    rw [Findings.gather, leavesIn]
    cases hresult : found.look (entryPath directory name) name f with
    | error fault =>
      rw [leavesIn]
      exact .stopped (hlook.mp ⟨fault, hresult⟩)
    | ok found' =>
      have hgoes : ¬ Stops [name] (.ok f) := fun hstops => by
        obtain ⟨fault, herror⟩ := hlook.mpr hstops
        cases hresult.symm.trans herror
      dsimp only
      split
      · next hsecret => exact .taken hgoes hsecret (ih directory found')
      · next hopen =>
        rw [leavesIn]
        exact .kept hgoes hopen (ih directory found')
  | case3 name failure rest ih =>
    rw [Findings.gather, leavesIn]
    exact .stopped trivial
  | case4 name entries rest ihEntries ihRest =>
    have hinner := (ihEntries (entryPath directory name) found).map_cons
      (fun e he => ne_nil_of_mem_leavesIn he) name
    have hwalk := gather_fst (entryPath directory name) entries found
    -- Places in the entry stop the walk as they do in the directory that it is.
    have hstops : (∃ e ∈ (leavesIn entries).map fun e => (name :: e.1, e.2), Stops e.1 e.2) ↔
        ∃ fault, (Findings.gather (entryPath directory name) entries found).1 = .error fault := by
      rw [hwalk, ← foldlM_visit_map fun e he => ne_nil_of_mem_leavesIn he]
      exact foldlM_visit_eq_error_iff.symm
    rw [Findings.gather, leavesIn]
    rcases hresult : Findings.gather (entryPath directory name) entries found with ⟨r, left⟩
    rw [hresult] at hinner hstops
    cases r with
    | error fault =>
      rw [leavesIn]
      exact hinner.append_of_stops (hstops.mpr ⟨fault, rfl⟩)
    | ok found' =>
      dsimp only
      rw [leavesIn]
      refine hinner.append (fun e he hstop => ?_) (ihRest directory found')
      obtain ⟨fault, herror⟩ := hstops.mp ⟨e, he, hstop⟩
      cases herror

/-- The directory that a walk leaves is in order, with no new names. -/
theorem ordered_gather (h : Ordered (.directory entries)) (directory : String) (found : Findings) :
    Ordered (.directory (Findings.gather directory entries found).2) ∧
      Assoc.keys (Findings.gather directory entries found).2 ⊆ Assoc.keys entries := by
  have hcons {name : String} {t t' : FileTree} {rest left : List (String × FileTree)}
      (h : Ordered (.directory ((name, t) :: rest))) (ht' : t'.Ordered)
      (hleft : Ordered (.directory left) ∧ Assoc.keys left ⊆ Assoc.keys rest) :
      Ordered (.directory ((name, t') :: left)) ∧
        Assoc.keys ((name, t') :: left) ⊆ Assoc.keys ((name, t) :: rest) :=
    ⟨.cons ht' hleft.1 fun other hother => h.lt_of_mem_keys (hleft.2 hother),
      List.cons_subset_cons name hleft.2⟩
  induction entries using leavesIn.induct generalizing directory found with
  | case1 => rw [Findings.gather]; exact ⟨h, List.Subset.refl _⟩
  | case2 name f rest ih =>
    rw [Findings.gather]
    cases found.look (entryPath directory name) name f with
    | error fault => exact ⟨h, List.Subset.refl _⟩
    | ok found' =>
      have hrest := ih h.tail directory found'
      dsimp only
      split
      · exact ⟨hrest.1, List.subset_cons_of_subset _ hrest.2⟩
      · exact hcons h (.file f) hrest
  | case3 name failure rest ih => rw [Findings.gather]; exact ⟨h, List.Subset.refl _⟩
  | case4 name entries rest ihEntries ihRest =>
    have hentry : Ordered (.directory entries) := h.inner List.mem_cons_self
    have hinner := (ihEntries hentry (entryPath directory name) found).1
    rw [Findings.gather]
    rcases hresult : Findings.gather (entryPath directory name) entries found with
      ⟨_ | found', left⟩
    all_goals rw [hresult] at hinner
    · exact hcons h hinner ⟨h.tail, List.Subset.refl _⟩
    · exact hcons h hinner (ihRest h.tail directory found')

/-! ### What is left of the files -/

/-- A file in a directory that was walked through is left unless it was taken. -/
theorem find?_gather (h : Ordered (.directory entries)) (directory : String) (found : Findings) :
    (FileTree.directory (Findings.gather directory entries found).2).find? place = some (.file f) ↔
      (FileTree.directory entries).find? place = some (.file f) ∧ ¬ Taken entries place := by
  rw [← leafAt?_eq_some_ok_iff, ← leafAt?_eq_some_ok_iff,
    ← mem_leavesIn_iff (ordered_gather h directory found).1, ← mem_leavesIn_iff h,
    (left_gather directory entries found).mem_iff (pairwise_leavesIn h)]
  simp only [Taken, ← mem_leavesIn_iff h]
  refine and_congr_right fun _ => not_congr (and_congr_right fun _ => ?_)
  exact ⟨fun hall earlier leaf hle hmem => hall (earlier, leaf) hmem hle,
    fun hall e' hmem hle => hall e'.1 e'.2 hle hmem⟩

/-- The load of a directory. -/
theorem load_of_directory {start : List String} (hstart : root.resolve path = .ok start)
    (hfind : root.find? start = some (.directory entries)) :
    load path root = ((Findings.gather path entries Findings.none).1 >>= ofFindings,
      root.put start (.directory (Findings.gather path entries Findings.none).2)) := by
  simp only [load, hstart, hfind]
  rfl

/-- The load of anything else leaves everything. -/
theorem load_snd_of_not_directory (h : ¬ ∃ start entries, root.resolve path = .ok start ∧
    root.find? start = some (.directory entries)) : (load path root).2 = root := by
  unfold load
  split
  · rfl
  · next start hstart =>
    split
    · next entries hfind => exact absurd ⟨start, entries, hstart, hfind⟩ h
    · rfl
    · rfl
    · rfl

/-- **What a load leaves.**  Whether it succeeds or not, the files afterwards are those before
without the password files that were taken: those in the directory with nothing at their place or
before it that stops the walk. -/
theorem load_leaves (h : root.Ordered) (path : String) (place : List String) (f : File) :
    (load path root).2.find? place = some (.file f) ↔
      root.find? place = some (.file f) ∧ ¬ ∃ start entries inner, root.resolve path = .ok start ∧
        root.find? start = some (.directory entries) ∧ place = start ++ inner ∧
        Taken entries inner := by
  by_cases hdirectory : ∃ start entries, root.resolve path = .ok start ∧
      root.find? start = some (.directory entries)
  · obtain ⟨start, entries, hstart, hfind⟩ := hdirectory
    have hentries : Ordered (.directory entries) := h.of_find? hfind
    -- No other directory is at the path.
    have honly : (∃ start entries inner, root.resolve path = .ok start ∧
          root.find? start = some (.directory entries) ∧ place = start ++ inner ∧
          Taken entries inner) ↔ ∃ inner, place = start ++ inner ∧ Taken entries inner := by
      refine ⟨?_, fun ⟨inner, hinner⟩ => ⟨start, entries, inner, hstart, hfind, hinner⟩⟩
      rintro ⟨start', entries', inner, hstart', hfind', hinner⟩
      obtain rfl := Except.ok.inj (hstart.symm.trans hstart')
      obtain ⟨rfl⟩ := Option.some.inj (hfind.symm.trans hfind')
      exact ⟨inner, hinner⟩
    rw [load_of_directory hstart hfind, honly]
    by_cases hplace : start <+: place
    · obtain ⟨inner, rfl⟩ := hplace
      rw [find?_put_append, find?_gather hentries, find?_append, hfind]
      simp
    · rw [← leafAt?_eq_some_ok_iff, leafAt?_put_of_not_prefix hfind hplace, leafAt?_eq_some_ok_iff]
      refine (and_iff_left ?_).symm
      rintro ⟨inner, rfl, -⟩
      exact hplace (List.prefix_append start inner)
  · rw [load_snd_of_not_directory hdirectory]
    refine (and_iff_left ?_).symm
    rintro ⟨start, entries, inner, hstart, hfind, -⟩
    exact hdirectory ⟨start, entries, hstart, hfind⟩

/-- A password. -/
def secret : File := .plain [115, 51, 99, 114, 101, 116, 10]

/-- A configuration that breaks off. -/
def broken : File := .plain [120, 32, 61]

/-- A password file before a configuration that cannot be read. -/
def unfinished : FileTree := .directory [("mail", .directory [
  (".mailsort.work.pwd", .file secret), ("bad.toml", .file broken)])]

theorem unfinished_ordered : unfinished.Ordered :=
  ofFiles_ordered [("mail/.mailsort.work.pwd", _), ("mail/bad.toml", _)]

/-- A password file that is empty, and another one behind it. -/
def halted : List (String × FileTree) := [
  (".mailsort.home.pwd", .file (.plain [])), (".mailsort.work.pwd", .file secret)]

theorem halted_ordered : Ordered (.directory [("mail", .directory halted)]) :=
  ofFiles_ordered [("mail/.mailsort.home.pwd", _), ("mail/.mailsort.work.pwd", _)]

theorem stops_of_empty : Stops [".mailsort.home.pwd"] (.ok (.plain [])) := by
  refine ⟨by decide +kernel, ?_⟩
  rintro ⟨password, content, text, hcontent, htext, rfl, hne, -⟩
  obtain rfl : [] = content := Except.ok.inj hcontent
  obtain rfl : "" = text := Option.some.inj htext
  exact hne rfl

/-- A configuration that cannot be read is left though the load fails, and so is a password file
behind another that stops the walk. -/
theorem kept_by_failed_load :
    let root : FileTree := .directory [("mail", .directory halted)]
    (unfinished.Ordered ∧
      (load "mail" unfinished).2.find? ["mail", "bad.toml"] = some (.file broken)) ∧
    root.Ordered ∧ (∃ fault, (load "mail" root).1 = .error fault) ∧
      (load "mail" root).2.find? ["mail", ".mailsort.work.pwd"] = some (.file secret) := by
  intro root
  have hbroken : (load "mail" unfinished).2.find? ["mail", "bad.toml"] = some (.file broken) := by
    refine (load_leaves unfinished_ordered "mail" _ broken).mpr ⟨rfl, ?_⟩
    rintro ⟨start, entries, inner, hstart, -, hplace, hsecret, -⟩
    have hmail : unfinished.resolve "mail" = .ok ["mail"] := by rfl
    obtain rfl := Except.ok.inj (hmail.symm.trans hstart)
    obtain rfl : ["bad.toml"] = inner := (List.cons.inj hplace).2
    exact absurd hsecret (by decide +kernel)
  have hmail : root.resolve "mail" = .ok ["mail"] := by rfl
  have hfault : ∃ fault, (load "mail" root).1 = .error fault := by
    have hempty : ([".mailsort.home.pwd"], .ok (.plain [])) ∈ leavesIn halted := by
      rw [halted, leavesIn]
      exact List.mem_cons_self
    obtain ⟨fault, hwalk⟩ : ∃ fault,
        (leavesIn halted).foldlM (visit "mail") Findings.none = .error fault :=
      foldlM_visit_eq_error_iff.mpr ⟨_, hempty, stops_of_empty⟩
    rw [load_of_directory hmail rfl, gather_fst, hwalk]
    exact ⟨fault, rfl⟩
  have hsecret : (load "mail" root).2.find? ["mail", ".mailsort.work.pwd"] =
      some (.file secret) := by
    refine (load_leaves halted_ordered "mail" _ secret).mpr ⟨rfl, ?_⟩
    rintro ⟨start, entries, inner, hstart, hfind, hplace, -, hgoes⟩
    obtain rfl := Except.ok.inj (hmail.symm.trans hstart)
    obtain rfl : [".mailsort.work.pwd"] = inner := (List.cons.inj hplace).2
    obtain ⟨rfl⟩ := Option.some.inj hfind
    exact hgoes [".mailsort.home.pwd"] _ (by decide +kernel) rfl stops_of_empty
  exact ⟨⟨unfinished_ordered, hbroken⟩, halted_ordered, hfault, hsecret⟩

theorem gather_unfinished : Findings.gather "mail"
    [(".mailsort.work.pwd", .file secret), ("bad.toml", .file broken)] Findings.none =
    (.ok ⟨[("mail/bad.toml", broken)], [("work", "s3cret")]⟩, [("bad.toml", .file broken)]) := by
  have hsecret : passwordAccount? ".mailsort.work.pwd" = some "work" := by decide +kernel
  have hread : readPassword "mail/.mailsort.work.pwd" secret = .ok "s3cret" := by rfl
  have hopen : passwordAccount? "bad.toml" = none := by decide +kernel
  have hname : isConfigurationName "bad.toml" = true := by decide +kernel
  have hpath :
      entryPath "mail" ".mailsort.work.pwd" = "mail/.mailsort.work.pwd" := by decide +kernel
  have hpath' : entryPath "mail" "bad.toml" = "mail/bad.toml" := by decide +kernel
  simp [Findings.gather, Findings.look, Findings.none, hsecret, hread, hopen, hname, hpath, hpath',
    bind, Except.bind, pure, Except.pure, Assoc.insert]

/-- The password that was read is gone though the load fails. -/
theorem lost_by_failed_load :
    unfinished.find? ["mail", ".mailsort.work.pwd"] = some (.file secret) ∧
      (∃ fault, (load "mail" unfinished).1 = .error fault) ∧
      (load "mail" unfinished).2.find? ["mail", ".mailsort.work.pwd"] = none := by
  have hstart : unfinished.resolve "mail" = .ok ["mail"] := by rfl
  rw [load_of_directory hstart rfl, gather_unfinished]
  exact ⟨rfl, ⟨_, rfl⟩, rfl⟩

end Configuration

end Postroom
