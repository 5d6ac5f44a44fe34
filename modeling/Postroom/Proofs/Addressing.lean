import Postroom.Proofs.Pass

/-! # Identifiers are used where they belong

An identifier means a message only together with the mailbox that is open.  A request
that changes, copies or moves messages is rightful (`Rightful`) if that mailbox is open
for changes and the identifiers are its own: the input mailbox, and messages that the
search has found there; or, to change flags after a move, the target of the move, and
the identifier that the server told of this move or else the old one (`MovedTo`).

`uids_belong` says that every request of a sorting pass is rightful, whatever the server
answers, and that the pass takes one of the courses of `Sorting`: no message that no
filter matches is dealt with before all messages have been tried, and nothing is asked
after a failure.
-/

namespace Postroom

/-- The identifiers by which a request changes, copies or moves messages of the open mailbox. -/
def Request.addressed? : Request → Option (List Uid)
  | .store uids _ _ | .copy uids _ | .move uids _ | .expungeUids uids => some uids
  | _ => none

/-- The mailbox that is open after a turn, and whether for reading only. -/
def Turn.opened (now : Option (String × Bool)) : Turn → Option (String × Bool)
  | ⟨.select mailbox, .ok _⟩ => some (mailbox, false)
  | ⟨.examine mailbox, .ok _⟩ => some (mailbox, true)
  | ⟨.select _, .error _⟩ | ⟨.examine _, .error _⟩ => none
  | _ => now

/-- A turn opens no mailbox, and its request is for one message if it is for any. -/
def Turn.IsWithin (uid : Uid) (turn : Turn) : Prop :=
  (∀ now, Turn.opened now turn = now) ∧ ∀ uids, turn.request.addressed? = some uids → uids = [uid]

namespace Talk

/-- The mailbox that is open after some turns, and whether for reading only. -/
def openAfter (turns : List Turn) : Option (String × Bool) := turns.foldl Turn.opened none

/-- A search of a mailbox has found a message. -/
def FoundIn (mailbox : String) (turns : List Turn) (uid : Uid) : Prop :=
  ∃ before criteria found after readOnly, turns = before ++ ⟨.search criteria, .ok found⟩ :: after ∧
    openAfter before = some (mailbox, readOnly) ∧ uid ∈ found

/-- The last that was done, changes of its own flags apart, is the move of a message that was found;
the identifier is the one that the server told of this move, or else the old one. -/
def MovedTo (input : String) (turns : List Turn) (target : String) (uid : Uid) : Prop :=
  ∃ before moving changes original told, turns = before ++ (moving ++ changes) ∧
    FoundIn input before original ∧ Moving [original] input target moving (.ok told) ∧
    uid = told.getD original ∧
    ∀ turn ∈ changes, turn.request = .select target ∨
      ∃ mode flags, turn.request = .store [uid] mode flags

/-- A request uses identifiers, if any, where they belong. -/
def Rightful (input : String) (before : List Turn) (r : Request) : Prop :=
  ∀ uids, r.addressed? = some uids → ∃ mailbox, openAfter before = some (mailbox, false) ∧
    ((mailbox = input ∧ ∀ uid ∈ uids, FoundIn input before uid) ∨
      ∃ uid mode flags, r = .store [uid] mode flags ∧ MovedTo input before mailbox uid)

/-- All requests of some turns are rightful, given what was before. -/
def RightfulFrom (input : String) (before turns : List Turn) : Prop :=
  ∀ earlier turn later, turns = earlier ++ turn :: later →
    Rightful input (before ++ earlier) turn.request

variable {input target mailbox : String} {uid : Uid} {before turns more : List Turn}

/-! ### Turns after turns -/

theorem openAfter_append (turns more : List Turn) :
    openAfter (turns ++ more) = more.foldl Turn.opened (openAfter turns) := List.foldl_append

theorem FoundIn.append (h : FoundIn mailbox turns uid) (more : List Turn) :
    FoundIn mailbox (turns ++ more) uid := by
  obtain ⟨before, criteria, found, after, readOnly, rfl, hopen, hmem⟩ := h
  exact ⟨before, criteria, found, after ++ more, readOnly, by simp, hopen, hmem⟩

theorem rightfulFrom_nil (input : String) (before : List Turn) : RightfulFrom input before [] := by
  intro earlier turn later h
  cases earlier <;> cases h

theorem rightfulFrom_cons {turn : Turn} : RightfulFrom input before (turn :: turns) ↔
    Rightful input before turn.request ∧ RightfulFrom input (before ++ [turn]) turns := by
  constructor
  · intro h
    constructor
    · simpa using h [] turn turns rfl
    · intro earlier turn' later heq
      simpa using h (turn :: earlier) turn' later (congrArg (turn :: ·) heq)
  · rintro ⟨hhead, htail⟩ earlier turn' later heq
    cases earlier with
    | nil =>
      obtain ⟨rfl, rfl⟩ := List.cons.inj heq
      simpa using hhead
    | cons head earlier =>
      obtain ⟨rfl, rfl⟩ := List.cons.inj heq
      simpa using htail earlier turn' later rfl

theorem rightfulFrom_append : RightfulFrom input before (turns ++ more) ↔
    RightfulFrom input before turns ∧ RightfulFrom input (before ++ turns) more := by
  induction turns generalizing before with
  | nil => simp [rightfulFrom_nil]
  | cons turn rest ih =>
    rw [List.cons_append, rightfulFrom_cons, rightfulFrom_cons, ih, and_assoc, List.append_assoc,
      List.singleton_append]

theorem rightful_of_addressed?_eq_none {r : Request} (h : r.addressed? = none) :
    Rightful input before r := by
  intro uids huids
  rw [h] at huids
  cases huids

/-- Work in a row is rightful if each part of it is and leaves what the next one needs. -/
theorem InRow.rightful {α : Type} {course : α → List Turn → Except Fault Unit → Prop}
    {P : List Turn → Prop} {l : List α} {result : Except Fault Unit}
    (hcourse : ∀ a ∈ l, ∀ before turns result, P before → course a turns result →
      RightfulFrom input before turns ∧ P (before ++ turns))
    (h : InRow course l turns result) (hready : P before) :
    RightfulFrom input before turns ∧ P (before ++ turns) := by
  induction h generalizing before with
  | nil => exact ⟨rightfulFrom_nil input before, by rwa [List.append_nil]⟩
  | failed hfirst => exact hcourse _ List.mem_cons_self _ _ _ hready hfirst
  | cons hfirst hrest ih =>
    obtain ⟨hturns, hready'⟩ := hcourse _ List.mem_cons_self _ _ _ hready hfirst
    obtain ⟨hmore, hready''⟩ := ih (fun a ha => hcourse a (List.mem_cons_of_mem _ ha)) hready'
    exact ⟨rightfulFrom_append.mpr ⟨hturns, hmore⟩, by rwa [← List.append_assoc]⟩

/-! ### Moves -/

section
attribute [local simp] Turn.IsWithin Turn.opened Request.addressed?

theorem Removing.within {result : Except Fault Unit} (h : Removing [uid] turns result) :
    ∀ turn ∈ turns, turn.IsWithin uid := by
  cases h <;> simp

theorem Attempting.within {result : Except Fault (Option Uid)}
    (h : Attempting [uid] target turns result) : ∀ turn ∈ turns, turn.IsWithin uid := by
  cases h with
  | copied text told hremoving => simpa using hremoving.within
  | _ => simp

theorem Retrying.within {missing : Fault} {result : Except Fault (Option Uid)}
    (h : Retrying [uid] target missing turns result) : ∀ turn ∈ turns, turn.IsWithin uid := by
  cases h with
  | again listings hlisted hsecond => simpa using hsecond.within
  | _ => simp

end

/-- Requests for a message that was found are rightful as long as its mailbox is open. -/
theorem rightfulFrom_of_within (hopen : openAfter before = some (input, false))
    (hfound : FoundIn input before uid) (h : ∀ turn ∈ turns, turn.IsWithin uid) :
    RightfulFrom input before turns := by
  induction turns generalizing before with
  | nil => exact rightfulFrom_nil input before
  | cons turn rest ih =>
    obtain ⟨⟨hstays, hone⟩, hrest⟩ := List.forall_mem_cons.mp h
    refine rightfulFrom_cons.mpr ⟨fun uids huids => ⟨input, hopen, Or.inl ⟨rfl, ?_⟩⟩, ?_⟩
    · rw [hone uids huids]
      exact fun other hother => List.mem_singleton.mp hother ▸ hfound
    · refine ih ?_ (hfound.append [turn]) hrest
      rw [openAfter_append, ← hopen]
      exact hstays _

theorem openAfter_select (before : List Turn) (mailbox : String) (status : MailboxStatus) :
    openAfter (before ++ [⟨.select mailbox, .ok status⟩]) = some (mailbox, false) := by
  rw [openAfter_append]
  rfl

theorem rightful_select (input : String) (before : List Turn) (mailbox : String) :
    Rightful input before (.select mailbox) := rightful_of_addressed?_eq_none rfl

theorem Moving.rightful {result : Except Fault (Option Uid)}
    (h : Moving [uid] input target turns result) (hfound : FoundIn input before uid) :
    RightfulFrom input before turns := by
  have hinner : ∀ status {inner : List Turn}, (∀ turn ∈ inner, turn.IsWithin uid) →
      RightfulFrom input before (⟨.select input, .ok status⟩ :: inner) := by
    intro status inner hinner
    refine rightfulFrom_cons.mpr ⟨rightful_select input before input, ?_⟩
    exact rightfulFrom_of_within (openAfter_select before input status) (hfound.append _) hinner
  cases h with
  | notOpened fault =>
    exact rightfulFrom_cons.mpr ⟨rightful_select input before input, rightfulFrom_nil _ _⟩
  | once status hfirst hend => exact hinner status hfirst.within
  | retried status hfirst hmissing hretry =>
    exact hinner status (List.forall_mem_append.mpr ⟨hfirst.within, hretry.within⟩)

/-! ### Changes of flags -/

/-- Flags are changed rightfully if the mailbox, once it is open, makes the change rightful. -/
theorem Reflagging.rightful {change : StoreMode × List Flag} {result : Except Fault Unit}
    (h : Reflagging mailbox uid change turns result)
    (hstore : ∀ status, Rightful input (before ++ [⟨.select mailbox, .ok status⟩])
      (.store [uid] change.1 change.2)) : RightfulFrom input before turns := by
  have hselect : Rightful input before (.select mailbox) := rightful_select input before mailbox
  cases h with
  | notOpened fault => exact rightfulFrom_cons.mpr ⟨hselect, rightfulFrom_nil _ _⟩
  | stored status reply =>
    refine rightfulFrom_cons.mpr ⟨hselect, rightfulFrom_cons.mpr ⟨hstore status, ?_⟩⟩
    exact rightfulFrom_nil _ _

/-- The flags of a message that was found are changed rightfully in its mailbox. -/
theorem Reflagging.rightful_of_found {change : StoreMode × List Flag} {result : Except Fault Unit}
    (h : Reflagging input uid change turns result) (hfound : FoundIn input before uid) :
    RightfulFrom input before turns := by
  refine h.rightful fun status uids huids => ?_
  obtain rfl := Option.some.inj huids
  refine ⟨input, openAfter_select before input status, Or.inl ⟨rfl, fun other hother => ?_⟩⟩
  exact List.mem_singleton.mp hother ▸ hfound.append _

theorem Reflagging.changes {change : StoreMode × List Flag} {result : Except Fault Unit}
    (h : Reflagging mailbox uid change turns result) : ∀ turn ∈ turns,
      turn.request = .select mailbox ∨ ∃ mode flags, turn.request = .store [uid] mode flags := by
  cases h <;> simp

/-- Changes of flags are no move of their own. -/
theorem MovedTo.append (h : MovedTo input before target uid)
    (hmore : ∀ turn ∈ more, turn.request = .select target ∨
      ∃ mode flags, turn.request = .store [uid] mode flags) :
    MovedTo input (before ++ more) target uid := by
  obtain ⟨earlier, moving, changes, original, told, rfl, hfound, hmoving, huid, hchanges⟩ := h
  exact ⟨earlier, moving, changes ++ more, original, told, by simp, hfound, hmoving, huid,
    List.forall_mem_append.mpr ⟨hchanges, hmore⟩⟩

/-- The flags of a message that was moved are changed rightfully in the target. -/
theorem Reflagging.rightful_of_moved {change : StoreMode × List Flag} {result : Except Fault Unit}
    (h : Reflagging target uid change turns result) (hmoved : MovedTo input before target uid) :
    RightfulFrom input before turns := by
  refine h.rightful fun status uids huids => ?_
  have hselected : MovedTo input (before ++ [⟨.select target, .ok status⟩]) target uid :=
    hmoved.append (by simp)
  exact ⟨target, openAfter_select before target status, Or.inr ⟨uid, _, _, rfl, hselected⟩⟩

theorem Obeying.rightful {commands : Commands} {result : Except Fault Unit}
    (h : Obeying commands input uid turns result) (hfound : FoundIn input before uid) :
    RightfulFrom input before turns := by
  cases h with
  | stays hstays hflags =>
    refine (hflags.rightful (P := fun before => FoundIn input before uid) ?_ hfound).1
    intro change _ before turns result hfound h
    exact ⟨h.rightful_of_found hfound, hfound.append turns⟩
  | notMoved hto hmoving => exact hmoving.rightful hfound
  | @moved target hto moving changes told _ hmoving hflags =>
    have hmoved : MovedTo input (before ++ moving) target (told.getD uid) :=
      ⟨before, moving, [], uid, told, by simp, hfound, hmoving, rfl, by simp⟩
    refine rightfulFrom_append.mpr ⟨hmoving.rightful hfound, ?_⟩
    refine (hflags.rightful
      (P := fun before => MovedTo input before target (told.getD uid)) ?_ hmoved).1
    intro change _ before turns result hmoved h
    exact ⟨h.rightful_of_moved hmoved, hmoved.append h.changes⟩

/-! ### The pass -/

theorem Trying.rightful {filters : List (String × Filter)} {message : Message}
    {result : Except Fault Unit} (h : Trying filters input message turns result)
    (hfound : FoundIn input before message.uid) : RightfulFrom input before turns := by
  cases h with
  | notTried | unmatched => exact rightfulFrom_nil input before
  | matched filter hfirst hobeying => exact hobeying.rightful hfound

theorem FallingBack.rightful {fallback : String} {result : Except Fault Unit}
    (h : FallingBack input fallback uid turns result) (hfound : FoundIn input before uid) :
    RightfulFrom input before turns := by
  cases h with
  | marked hhere hflags => exact hflags.rightful_of_found hfound
  | moved hthere hmoving => exact hmoving.rightful hfound

/-- Work on messages in a row is rightful if each was found and the work on it is rightful. -/
theorem InRow.rightful_of_found {α : Type} {course : α → List Turn → Except Fault Unit → Prop}
    {key : α → Uid} (hcourse : ∀ a before turns result, FoundIn input before (key a) →
      course a turns result → RightfulFrom input before turns) {l : List α}
    {result : Except Fault Unit} (h : InRow course l turns result)
    (hfound : ∀ a ∈ l, FoundIn input before (key a)) : RightfulFrom input before turns := by
  refine (h.rightful (P := fun before => ∀ a ∈ l, FoundIn input before (key a)) ?_ hfound).1
  intro a ha before turns result hfound h
  exact ⟨hcourse a before turns result (hfound a ha) h, fun b hb => (hfound b hb).append turns⟩

/-- What comes of a computation for every item of a list comes of an item. -/
theorem exists_of_mapM_eq_ok {α β : Type} {f : α → Except Fault β} {l : List α} {results : List β}
    (h : l.mapM f = .ok results) : ∀ b ∈ results, ∃ a ∈ l, f a = .ok b := by
  induction l generalizing results with
  | nil =>
    obtain rfl := Except.ok.inj h
    simp
  | cons a rest ih =>
    rw [List.mapM_cons] at h
    cases ha : f a with
    | error fault =>
      rw [ha] at h
      cases h
    | ok b =>
      cases hrest : rest.mapM f with
      | error fault =>
        rw [ha, hrest] at h
        cases h
      | ok bs =>
        rw [ha, hrest] at h
        obtain rfl := Except.ok.inj h
        refine List.forall_mem_cons.mpr ⟨⟨a, List.mem_cons_self, ha⟩, fun b' hb' => ?_⟩
        obtain ⟨a', ha', hfa'⟩ := ih hrest b' hb'
        exact ⟨a', List.mem_cons_of_mem _ ha', hfa'⟩

/-- A message has the identifier under which the server sent it. -/
theorem uid_of_ofFetched {f : Fetched} {message : Message} (h : Message.ofFetched f = .ok message) :
    f.uid = some message.uid := by
  unfold Message.ofFetched at h
  split at h
  · cases h
  · next uid huid =>
    split at h
    · cases h
    · simp only at h
      split at h
      · obtain rfl := Except.ok.inj h
        exact huid
      · cases h

/-- Of what a server sends only messages that were asked for are read. -/
theorem mem_of_mapM_ofFetched {found : List Uid} {sent : List Fetched} {messages : List Message}
    (h : (sent.filter (isWanted found)).mapM Message.ofFetched = .ok messages) :
    ∀ message ∈ messages, message.uid ∈ found := by
  intro message hmessage
  obtain ⟨f, hf, hread⟩ := exists_of_mapM_eq_ok h message hmessage
  obtain ⟨-, hwanted⟩ := List.mem_filter.mp hf
  simpa [isWanted, uid_of_ofFetched hread] using (Bool.and_eq_true_iff.mp hwanted).1

/-- Gathering changes nothing. -/
theorem Gathering.rightful {criteria : Criteria} {result : Except Fault (List Message)}
    (h : Gathering input criteria turns result) : RightfulFrom input before turns := by
  have hnone : ∀ turn ∈ turns, turn.request.addressed? = none := by
    cases h <;> simp [Request.addressed?]
  intro earlier turn later heq
  exact rightful_of_addressed?_eq_none (hnone turn (by simp [heq]))

/-- All messages that are gathered were found. -/
theorem Gathering.found {criteria : Criteria} {messages : List Message}
    (h : Gathering input criteria turns (.ok messages)) :
    ∀ message ∈ messages, FoundIn input turns message.uid := by
  generalize hresult : (Except.ok messages : Except Fault (List Message)) = result at h
  cases h with
  | nothing status =>
    obtain rfl := Except.ok.inj hresult
    simp
  | fetched status status' found hfound sent =>
    intro message hmessage
    exact ⟨[⟨.examine input, .ok status⟩], criteria, found, _, true, rfl, rfl,
      mem_of_mapM_ofFetched hresult.symm message hmessage⟩
  | _ => cases hresult

theorem mem_unmatched {filters : List (String × Filter)} {messages : List Message}
    (h : uid ∈ Filter.unmatched filters messages) : ∃ message ∈ messages, message.uid = uid := by
  obtain ⟨message, hmessage, rfl⟩ := List.mem_map.mp h
  exact ⟨message, (List.mem_filter.mp hmessage).1, rfl⟩

theorem Sorting.rightful {excluded : List Flag} {fallback : String}
    {filters : List (String × Filter)} {result : Except Fault Tally}
    (h : Sorting input excluded fallback filters turns result) : RightfulFrom input [] turns := by
  have htry : ∀ {gathering trying messages result},
      Gathering input ⟨[], excluded⟩ gathering (.ok messages) →
      InRow (Trying filters input) messages trying result →
      RightfulFrom input [] (gathering ++ trying) := by
    intro gathering trying messages result hgathering htrying
    refine rightfulFrom_append.mpr ⟨hgathering.rightful, ?_⟩
    exact htrying.rightful_of_found (fun message _ _ _ hfound h => h.rightful hfound)
      hgathering.found
  cases h with
  | notGathered hgathering => exact hgathering.rightful
  | notTried hgathering htrying => exact htry hgathering htrying
  | @tried gathering trying falling messages _ hgathering htrying matched hcount hfalling =>
    rw [← List.append_assoc]
    refine rightfulFrom_append.mpr ⟨htry hgathering htrying, ?_⟩
    refine hfalling.rightful_of_found (fun uid _ _ _ hfound h => h.rightful hfound)
      fun uid huid => ?_
    obtain ⟨message, hmessage, rfl⟩ := mem_unmatched huid
    exact (hgathering.found message hmessage).append trying

/-- **Identifiers are used where they belong, and the first failure ends the pass.**  Whatever the
server answers, every request of a pass is rightful, and the pass takes one of the courses of
`Sorting`. -/
theorem uids_belong {σ : Type} (answer : Answerer σ) (s : σ) (input : String)
    (excluded : List Flag) (fallback : String) (filters : Assoc Filter) :
    let turns := transcript answer (sort input excluded fallback filters) s
    let result := (exec answer (sort input excluded fallback filters) s).1
    (∀ before turn after, turns = before ++ turn :: after → Rightful input before turn.request) ∧
      Sorting input excluded fallback (Filter.ordered filters) turns result := by
  intro turns result
  have hsorting : Sorting input excluded fallback (Filter.ordered filters) turns result :=
    goes_sort (goes_exec answer _ s)
  exact ⟨fun before turn after heq => hsorting.rightful before turn after heq, hsorting⟩

end Talk

end Postroom
