import Postroom.Proofs.Table
import Postroom.Proofs.Transcript

/-! # How moving and opening recover

A server that does not know how to move messages, or that does not find the mailbox
they are to go to, is helped: the messages are copied, marked and removed, and the
mailbox is made.  This module says which courses that can take with any server
whatever.  `Removing`, `Attempting` and `Moving` are the courses of the three parts of
a move, one inside the other, and `Opening` those of opening a mailbox.  Each
constructor is one way to go, and says with which result it ends.

The courses are exactly those that the talks can take (`goes_move`,
`goes_openMailbox`), so `recovery_is_bounded` reads the bounds off them: no message is
removed that was not copied, a mailbox is made only if the server does not list it,
there is one second attempt at most, and a failure that nothing helps against is the
end and the result.
-/

namespace Postroom

/-- Whether a fault says that the server did not understand a command. -/
def Fault.isBad : Fault → Bool
  | bad _ => true
  | _ => false

@[simp] theorem Fault.isBad_bad (text : String) : (bad text).isBad = true := rfl

namespace Talk

/-! ### Courses -/

/-- How messages that are marked can be removed: all marked ones only if the server does not know
how to remove these. -/
inductive Removing (uids : List Uid) : List Turn → Except Fault Unit → Prop where
  | removed : Removing uids [⟨.expungeUids uids, .ok ()⟩] (.ok ())
  | failed (fault : Fault) (hbad : fault.isBad = false) :
    Removing uids [⟨.expungeUids uids, .error fault⟩] (.error fault)
  | all (text : String) (reply : Except Fault Unit) :
    Removing uids [⟨.expungeUids uids, .error (.bad text)⟩, ⟨.expunge, reply⟩] reply

/-- How one attempt at a move can go: messages are copied only if the server does not know how to
move them, marked only once they are copied, and removed only once they are marked. -/
inductive Attempting (uids : List Uid) (target : String) :
    List Turn → Except Fault (Option Uid) → Prop where
  | moved (told : Option Uid) : Attempting uids target [⟨.move uids target, .ok told⟩] (.ok told)
  | failed (fault : Fault) (hbad : fault.isBad = false) :
    Attempting uids target [⟨.move uids target, .error fault⟩] (.error fault)
  | notCopied (text : String) (fault : Fault) :
    Attempting uids target
      [⟨.move uids target, .error (.bad text)⟩, ⟨.copy uids target, .error fault⟩] (.error fault)
  | notMarked (text : String) (told : Option Uid) (fault : Fault) :
    Attempting uids target
      [⟨.move uids target, .error (.bad text)⟩, ⟨.copy uids target, .ok told⟩,
        ⟨.store uids .add [.deleted], .error fault⟩] (.error fault)
  | copied (text : String) (told : Option Uid) {turns : List Turn} {result : Except Fault Unit}
    (hremoving : Removing uids turns result) :
    Attempting uids target
      (⟨.move uids target, .error (.bad text)⟩ :: ⟨.copy uids target, .ok told⟩ ::
        ⟨.store uids .add [.deleted], .ok ()⟩ :: turns) (result.map fun _ => told)

/-- How a move can go on after an attempt that failed because a mailbox is missing: there is a
second attempt only if the server does not list the target and the target can be made. -/
inductive Retrying (uids : List Uid) (target : String) (missing : Fault) :
    List Turn → Except Fault (Option Uid) → Prop where
  | notListing (fault : Fault) : Retrying uids target missing [⟨.list, .error fault⟩] (.error fault)
  | listed (listings : List Listing) (hlisted : target ∈ listings.map Listing.name) :
    Retrying uids target missing [⟨.list, .ok listings⟩] (.error missing)
  | notCreated (listings : List Listing) (hlisted : target ∉ listings.map Listing.name)
    (fault : Fault) :
    Retrying uids target missing [⟨.list, .ok listings⟩, ⟨.create target, .error fault⟩]
      (.error fault)
  | again (listings : List Listing) (hlisted : target ∉ listings.map Listing.name)
    {turns : List Turn} {result : Except Fault (Option Uid)}
    (hsecond : Attempting uids target turns result) :
    Retrying uids target missing (⟨.list, .ok listings⟩ :: ⟨.create target, .ok ()⟩ :: turns) result

/-- How a move can go: its mailbox is opened first, and one attempt is all unless a mailbox is
missing. -/
inductive Moving (uids : List Uid) (source target : String) :
    List Turn → Except Fault (Option Uid) → Prop where
  | notOpened (fault : Fault) :
    Moving uids source target [⟨.select source, .error fault⟩] (.error fault)
  | once (status : MailboxStatus) {turns : List Turn} {result : Except Fault (Option Uid)}
    (hfirst : Attempting uids target turns result)
    (hend : ∀ fault, result = .error fault → fault.isMailboxMissing = false) :
    Moving uids source target (⟨.select source, .ok status⟩ :: turns) result
  | retried (status : MailboxStatus) {turns more : List Turn} {missing : Fault}
    {result : Except Fault (Option Uid)} (hfirst : Attempting uids target turns (.error missing))
    (hmissing : missing.isMailboxMissing = true)
    (hretry : Retrying uids target missing more result) :
    Moving uids source target (⟨.select source, .ok status⟩ :: (turns ++ more)) result

/-- A mailbox is opened. -/
def openingTurn (mailbox : String) (readOnly : Bool) (reply : Except Fault MailboxStatus) : Turn :=
  if readOnly then ⟨.examine mailbox, reply⟩ else ⟨.select mailbox, reply⟩

/-- How a mailbox can be opened: there is a second try only if that is wanted, the mailbox is
missing, and it can be made. -/
inductive Opening (mailbox : String) (readOnly autoCreate : Bool) :
    List Turn → Except Fault MailboxStatus → Prop where
  | once (reply : Except Fault MailboxStatus)
    (hend : ∀ fault, reply = .error fault → (autoCreate && fault.isMailboxMissing) = false) :
    Opening mailbox readOnly autoCreate [openingTurn mailbox readOnly reply] reply
  | notCreated (missing : Fault) (hwanted : autoCreate = true)
    (hmissing : missing.isMailboxMissing = true) (fault : Fault) :
    Opening mailbox readOnly autoCreate
      [openingTurn mailbox readOnly (.error missing), ⟨.create mailbox, .error fault⟩]
      (.error fault)
  | again (missing : Fault) (hwanted : autoCreate = true)
    (hmissing : missing.isMailboxMissing = true) (reply : Except Fault MailboxStatus) :
    Opening mailbox readOnly autoCreate
      [openingTurn mailbox readOnly (.error missing), ⟨.create mailbox, .ok ()⟩,
        openingTurn mailbox readOnly reply] reply

/-! ### The courses are those of the talks -/

variable {σ : Type} {uids : List Uid} {source target mailbox : String} {readOnly autoCreate : Bool}
  {turns : List Turn}

theorem goes_removeMarked {result : Except Fault Unit} :
    Goes (removeMarked uids) turns result ↔ Removing uids turns result := by
  constructor
  · rintro ⟨fault | _, rest, rfl, h⟩
    · cases fault with
      | bad text =>
        obtain rfl := goes_ask.mp h
        exact .all text result
      | _ =>
        obtain ⟨rfl, rfl⟩ := h
        exact .failed _ rfl
    · obtain ⟨rfl, rfl⟩ := h
      exact .removed
  · intro h
    cases h with
    | removed => exact ⟨.ok (), [], rfl, rfl, rfl⟩
    | failed fault hbad =>
      refine ⟨.error fault, [], rfl, ?_⟩
      cases fault with
      | bad text => cases hbad
      | _ => exact ⟨rfl, rfl⟩
    | all text reply => exact ⟨.error (.bad text), _, rfl, goes_ask.mpr rfl⟩

/-- What follows when the server does not know how to move messages. -/
theorem Attempting.of_copyAway {result : Except Fault (Option Uid)} (text : String)
    (h : Goes (copyAway uids target) turns result) :
    Attempting uids target (⟨.move uids target, .error (.bad text)⟩ :: turns) result := by
  rcases goes_ask_bind.mp h with ⟨fault, rfl, rfl⟩ | ⟨told, rest, rfl, hmark⟩
  · exact .notCopied text fault
  rcases goes_ask_bind.mp hmark with ⟨fault, rfl, rfl⟩ | ⟨_, rest, rfl, hremove⟩
  · exact .notMarked text told fault
  rcases goes_bind.mp hremove with ⟨fault, rfl, hrest⟩ | ⟨_, first, _, rfl, hfirst, rfl, rfl⟩
  · exact .copied text told (goes_removeMarked.mp hrest)
  · rw [List.append_nil]
    exact .copied text told (goes_removeMarked.mp hfirst)

theorem goes_moveOnce {result : Except Fault (Option Uid)} :
    Goes (moveOnce uids target) turns result ↔ Attempting uids target turns result := by
  constructor
  · rintro ⟨fault | told, rest, rfl, h⟩
    · cases fault with
      | bad text => exact .of_copyAway text h
      | _ =>
        obtain ⟨rfl, rfl⟩ := h
        exact .failed _ rfl
    · obtain ⟨rfl, rfl⟩ := h
      exact .moved told
  · intro h
    cases h with
    | moved told => exact ⟨.ok told, [], rfl, rfl, rfl⟩
    | failed fault hbad =>
      refine ⟨.error fault, [], rfl, ?_⟩
      cases fault with
      | bad text => cases hbad
      | _ => exact ⟨rfl, rfl⟩
    | notCopied text fault =>
      exact ⟨.error (.bad text), _, rfl, goes_ask_bind.mpr (Or.inl ⟨fault, rfl, rfl⟩)⟩
    | notMarked text told fault =>
      refine ⟨.error (.bad text), _, rfl, goes_ask_bind.mpr (Or.inr ⟨told, _, rfl, ?_⟩)⟩
      exact goes_ask_bind.mpr (Or.inl ⟨fault, rfl, rfl⟩)
    | @copied text told turns result hremoving =>
      refine ⟨.error (.bad text), _, rfl, goes_ask_bind.mpr (Or.inr ⟨told, _, rfl, ?_⟩)⟩
      refine goes_ask_bind.mpr (Or.inr ⟨(), _, rfl, ?_⟩)
      have hgoes := goes_removeMarked.mpr hremoving
      cases result with
      | error fault => exact goes_bind.mpr (Or.inl ⟨fault, rfl, hgoes⟩)
      | ok _ =>
        exact goes_bind.mpr (Or.inr ⟨(), turns, [], (List.append_nil _).symm, hgoes, rfl, rfl⟩)

theorem goes_openOnce_bind {β : Type} {f : Except Fault MailboxStatus → Talk β}
    {result : Except Fault β} :
    Goes (openOnce mailbox readOnly >>= f) turns result ↔
      ∃ reply rest, turns = openingTurn mailbox readOnly reply :: rest ∧
        Goes (f reply) rest result := by
  cases readOnly <;> exact goes_attempt_bind

theorem goes_openMailbox {result : Except Fault MailboxStatus} :
    Goes (openMailbox mailbox readOnly autoCreate) turns result ↔
      Opening mailbox readOnly autoCreate turns result := by
  unfold openMailbox
  rw [goes_openOnce_bind]
  constructor
  · rintro ⟨fault | status, rest, rfl, h⟩
    · dsimp only at h
      split at h
      · next hwanted =>
        obtain ⟨hwanted, hmissing⟩ := Bool.and_eq_true_iff.mp hwanted
        rcases goes_ask_bind.mp h with ⟨fault', rfl, rfl⟩ | ⟨_, rest, rfl, hagain⟩
        · exact .notCreated fault hwanted hmissing fault'
        obtain ⟨reply, rest, rfl, hend⟩ := goes_openOnce_bind.mp hagain
        cases reply <;>
        · obtain ⟨rfl, rfl⟩ := hend
          exact .again fault hwanted hmissing _
      · next hwanted =>
        obtain ⟨rfl, rfl⟩ := h
        refine .once _ fun fault' hfault => ?_
        cases hfault
        exact Bool.eq_false_iff.mpr hwanted
    · obtain ⟨rfl, rfl⟩ := h
      exact .once _ fun fault hfault => by cases hfault
  · intro h
    cases h with
    | once _ hend =>
      refine ⟨result, [], rfl, ?_⟩
      cases result with
      | ok status => exact ⟨rfl, rfl⟩
      | error fault =>
        dsimp only
        rw [hend fault rfl]
        exact ⟨rfl, rfl⟩
    | notCreated missing hwanted hmissing fault =>
      refine ⟨.error missing, _, rfl, ?_⟩
      dsimp only
      rw [hwanted, hmissing]
      exact goes_ask_bind.mpr (Or.inl ⟨fault, rfl, rfl⟩)
    | again missing hwanted hmissing _ =>
      refine ⟨.error missing, _, rfl, ?_⟩
      dsimp only
      rw [hwanted, hmissing]
      refine goes_ask_bind.mpr (Or.inr ⟨(), _, rfl, goes_openOnce_bind.mpr ⟨result, [], rfl, ?_⟩⟩)
      cases result <;> exact ⟨rfl, rfl⟩

/-- Without recovery a mailbox is opened in one turn. -/
theorem opening_iff_of_not_autoCreate {result : Except Fault MailboxStatus} :
    Opening mailbox readOnly false turns result ↔
      turns = [openingTurn mailbox readOnly result] := by
  constructor
  · intro h
    cases h with
    | once reply hend => rfl
    | notCreated _ hwanted => cases hwanted
    | again _ hwanted => cases hwanted
  · rintro rfl
    exact .once result fun fault _ => rfl

theorem goes_list {β : Type} {f : Assoc Listing → Talk β} {result : Except Fault β} :
    Goes (list >>= f) turns result ↔
      (∃ fault, turns = [⟨.list, .error fault⟩] ∧ result = .error fault) ∨
        ∃ (listings : List Listing) (rest : List Turn), turns = ⟨.list, .ok listings⟩ :: rest ∧
          Goes (f (Assoc.ofList (listings.map fun l => (l.name, l)))) rest result := by
  rw [list, bind_assoc, goes_ask_bind]
  simp only [pure_bind]

/-- What a move does after an attempt that failed because a mailbox is missing. -/
def retry (uids : List Uid) (target : String) (missing : Fault) : Talk (Option Uid) := do
  let table ← list
  if table.has target then throw missing
  else do
    ask (.create target)
    moveOnce uids target

/-- The names in a listing are those of the mailboxes listed. -/
theorem has_listed (listings : List Listing) (name : String) :
    (Assoc.ofList (listings.map fun l => (l.name, l))).has name = true ↔
      name ∈ listings.map Listing.name := by
  simp [Assoc.has_ofList]

theorem goes_retry {missing : Fault} {result : Except Fault (Option Uid)} :
    Goes (retry uids target missing) turns result ↔ Retrying uids target missing turns result := by
  have hlisted := fun listings => has_listed listings target
  unfold retry
  rw [goes_list]
  constructor
  · rintro (⟨fault, rfl, rfl⟩ | ⟨listings, rest, rfl, h⟩)
    · exact .notListing fault
    split at h
    · next hhas =>
      obtain ⟨rfl, rfl⟩ := h
      exact .listed listings ((hlisted listings).mp hhas)
    · next hhas =>
      have hnot := fun hmem => hhas ((hlisted listings).mpr hmem)
      rcases goes_ask_bind.mp h with ⟨fault, rfl, rfl⟩ | ⟨_, rest, rfl, hsecond⟩
      · exact .notCreated listings hnot fault
      · exact .again listings hnot (goes_moveOnce.mp hsecond)
  · intro h
    cases h with
    | notListing fault => exact Or.inl ⟨fault, rfl, rfl⟩
    | listed listings hmem =>
      refine Or.inr ⟨listings, [], rfl, ?_⟩
      rw [if_pos ((hlisted listings).mpr hmem)]
      exact ⟨rfl, rfl⟩
    | notCreated listings hnot fault =>
      refine Or.inr ⟨listings, _, rfl, ?_⟩
      rw [if_neg fun hhas => hnot ((hlisted listings).mp hhas)]
      exact goes_ask_bind.mpr (Or.inl ⟨fault, rfl, rfl⟩)
    | again listings hnot hsecond =>
      refine Or.inr ⟨listings, _, rfl, ?_⟩
      rw [if_neg fun hhas => hnot ((hlisted listings).mp hhas)]
      exact goes_ask_bind.mpr (Or.inr ⟨(), _, rfl, goes_moveOnce.mpr hsecond⟩)

theorem move_eq (uids : List Uid) (source target : String) :
    move uids source target = openMailbox source false false >>= fun _ =>
      tryCatch (moveOnce uids target) fun fault =>
        if fault.isMailboxMissing then retry uids target fault else throw fault := by
  unfold move
  refine congrArg _ (funext fun _ => congrArg _ (funext fun fault => ?_))
  cases fault.isMailboxMissing with
  | false => rfl
  | true =>
    refine congrArg (list >>= ·) (funext fun table => ?_)
    cases table.has target <;> rfl

theorem goes_move {result : Except Fault (Option Uid)} :
    Goes (move uids source target) turns result ↔ Moving uids source target turns result := by
  rw [move_eq, goes_bind]
  simp only [goes_openMailbox, opening_iff_of_not_autoCreate]
  constructor
  · rintro (⟨fault, rfl, rfl⟩ | ⟨status, _, rest, rfl, rfl, h⟩)
    · exact .notOpened fault
    rcases goes_tryCatch.mp h with ⟨told, rfl, hfirst⟩ | ⟨fault, first, rest, rfl, hfirst, hmore⟩
    · exact .once status (goes_moveOnce.mp hfirst) fun fault hfault => by cases hfault
    rw [List.singleton_append]
    split at hmore
    · next hmissing =>
      exact .retried status (goes_moveOnce.mp hfirst) hmissing (goes_retry.mp hmore)
    · next hmissing =>
      obtain ⟨rfl, rfl⟩ := hmore
      rw [List.append_nil]
      refine .once status (goes_moveOnce.mp hfirst) fun fault' hfault => ?_
      cases hfault
      exact Bool.eq_false_iff.mpr hmissing
  · intro h
    cases h with
    | notOpened fault => exact Or.inl ⟨fault, rfl, rfl⟩
    | @once status turns result hfirst hend =>
      refine Or.inr ⟨status, [openingTurn source false (.ok status)], turns, rfl, rfl, ?_⟩
      refine goes_tryCatch.mpr ?_
      have hgoes := goes_moveOnce.mpr hfirst
      cases result with
      | ok told => exact Or.inl ⟨told, rfl, hgoes⟩
      | error fault =>
        refine Or.inr ⟨fault, turns, [], (List.append_nil turns).symm, hgoes, ?_⟩
        rw [hend fault rfl]
        exact ⟨rfl, rfl⟩
    | @retried status turns more missing result hfirst hmissing hretry =>
      refine Or.inr ⟨status, [openingTurn source false (.ok status)], turns ++ more, rfl, rfl, ?_⟩
      refine goes_tryCatch.mpr (Or.inr ⟨missing, turns, more, rfl, goes_moveOnce.mpr hfirst, ?_⟩)
      rw [if_pos hmissing]
      exact goes_retry.mpr hretry

/-! ### Bounds -/

/-- How often a move was tried. -/
def attempts (turns : List Turn) : Nat :=
  turns.countP fun turn => match turn.request with
    | .move _ _ => true
    | _ => false

/-- How often it was tried to open a mailbox. -/
def openings (turns : List Turn) : Nat :=
  turns.countP fun turn => match turn.request with
    | .select _ | .examine _ => true
    | _ => false

/-- The mailboxes that the server was asked to make. -/
def created (turns : List Turn) : List String :=
  turns.filterMap fun turn => match turn.request with
    | .create mailbox => some mailbox
    | _ => none

/-- A failure other than a command the server does not know or a missing mailbox is the end, and is
the result. -/
def OthersEnd {α : Type} (turns : List Turn) (result : Except Fault α) : Prop :=
  ∀ before turn after fault, turns = before ++ turn :: after → turn.reply = .error fault →
    fault.isBad = false → fault.isMailboxMissing = false → after = [] ∧ result = .error fault

theorem attempts_append (turns more : List Turn) :
    attempts (turns ++ more) = attempts turns + attempts more := List.countP_append

theorem created_append (turns more : List Turn) :
    created (turns ++ more) = created turns ++ created more := List.filterMap_append

theorem othersEnd_nil {α : Type} (result : Except Fault α) : OthersEnd [] result := by
  intro before turn after fault h
  cases before <;> cases h

theorem othersEnd_cons {α : Type} {turn : Turn} {result : Except Fault α} :
    OthersEnd (turn :: turns) result ↔
      (∀ fault, turn.reply = .error fault → fault.isBad = false → fault.isMailboxMissing = false →
        turns = [] ∧ result = .error fault) ∧ OthersEnd turns result := by
  constructor
  · intro h
    refine ⟨fun fault => h [] turn turns fault rfl, fun before turn' after fault heq => ?_⟩
    exact h (turn :: before) turn' after fault (congrArg (turn :: ·) heq)
  · rintro ⟨hhead, htail⟩ before turn' after fault heq
    cases before with
    | nil =>
      obtain ⟨rfl, rfl⟩ := List.cons.inj heq
      exact hhead fault
    | cons head before =>
      obtain ⟨-, rfl⟩ := List.cons.inj heq
      exact htail before turn' after fault rfl

theorem OthersEnd.map {α β : Type} {result : Except Fault α} (h : OthersEnd turns result)
    (f : α → β) : OthersEnd turns (result.map f) := by
  intro before turn after fault heq hreply hbad hmissing
  obtain ⟨hafter, rfl⟩ := h before turn after fault heq hreply hbad hmissing
  exact ⟨hafter, rfl⟩

/-- What goes on after a missing mailbox had no other failure before. -/
theorem OthersEnd.append {α β : Type} {more : List Turn} {missing : Fault} {result : Except Fault β}
    (h : OthersEnd turns (.error missing : Except Fault α))
    (hmissing : missing.isMailboxMissing = true) (hmore : OthersEnd more result) :
    OthersEnd (turns ++ more) result := by
  induction turns with
  | nil => exact hmore
  | cons turn rest ih =>
    obtain ⟨hhead, htail⟩ := othersEnd_cons.mp h
    refine othersEnd_cons.mpr ⟨fun fault hreply hbad hnot => ?_, ih htail⟩
    obtain ⟨-, heq⟩ := hhead fault hreply hbad hnot
    cases heq
    rw [hmissing] at hnot
    cases hnot

section
attribute [local simp] othersEnd_cons othersEnd_nil

theorem Removing.bounds {result : Except Fault Unit} (h : Removing uids turns result) :
    attempts turns = 0 ∧ created turns = [] ∧ OthersEnd turns result := by
  cases h with
  | removed => exact ⟨rfl, rfl, by simp⟩
  | failed fault hbad => exact ⟨rfl, rfl, by simp⟩
  | all text _ => exact ⟨rfl, rfl, by simp +contextual⟩

theorem Attempting.bounds {result : Except Fault (Option Uid)}
    (h : Attempting uids target turns result) :
    attempts turns = 1 ∧ created turns = [] ∧ OthersEnd turns result := by
  cases h with
  | moved told => exact ⟨rfl, rfl, by simp⟩
  | failed fault hbad => exact ⟨rfl, rfl, by simp⟩
  | notCopied text fault => exact ⟨rfl, rfl, by simp⟩
  | notMarked text told fault => exact ⟨rfl, rfl, by simp⟩
  | copied text told hremoving =>
    obtain ⟨hattempts, hcreated, hends⟩ := hremoving.bounds
    exact ⟨by simpa [attempts] using hattempts, hcreated, by simpa using hends.map fun _ => told⟩

theorem Retrying.bounds {missing : Fault} {result : Except Fault (Option Uid)}
    (h : Retrying uids target missing turns result) :
    attempts turns ≤ 1 ∧ (created turns = [] ∨ created turns = [target]) ∧
      OthersEnd turns result := by
  cases h with
  | notListing fault => exact ⟨Nat.zero_le 1, Or.inl rfl, by simp⟩
  | listed listings hlisted => exact ⟨Nat.zero_le 1, Or.inl rfl, by simp⟩
  | notCreated listings hlisted fault => exact ⟨Nat.zero_le 1, Or.inr rfl, by simp⟩
  | again listings hlisted hsecond =>
    obtain ⟨hattempts, hcreated, hends⟩ := hsecond.bounds
    exact ⟨Nat.le_of_eq hattempts, Or.inr (congrArg (target :: ·) hcreated), by simpa using hends⟩

theorem Moving.bounds {result : Except Fault (Option Uid)}
    (h : Moving uids source target turns result) :
    attempts turns ≤ 2 ∧ (created turns = [] ∨ created turns = [target]) ∧
      OthersEnd turns result := by
  cases h with
  | notOpened fault => exact ⟨Nat.zero_le 2, Or.inl rfl, by simp⟩
  | once status hfirst hend =>
    obtain ⟨hattempts, hcreated, hends⟩ := hfirst.bounds
    exact ⟨hattempts ▸ Nat.le_succ 1, Or.inl hcreated, by simpa using hends⟩
  | @retried status first more missing _ hfirst hmissing hretry =>
    obtain ⟨hattempts, hcreated, hends⟩ := hfirst.bounds
    obtain ⟨hattempts', hcreated', hends'⟩ := hretry.bounds
    refine ⟨?_, ?_, by simpa using hends.append hmissing hends'⟩
    · calc attempts (first ++ more) = attempts first + attempts more := attempts_append first more
        _ ≤ 1 + 1 := Nat.add_le_add (Nat.le_of_eq hattempts) hattempts'
    · have hall : created (first ++ more) = created more := by
        rw [created_append, hcreated, List.nil_append]
      exact hall ▸ hcreated'

theorem Opening.bounds {result : Except Fault MailboxStatus}
    (h : Opening mailbox readOnly autoCreate turns result) :
    openings turns ≤ 2 ∧ (created turns = [] ∨ created turns = [mailbox]) ∧
      OthersEnd turns result := by
  cases h with
  | once _ hend =>
    cases readOnly <;> exact ⟨Nat.le_succ 1, Or.inl rfl, by simp +contextual [openingTurn]⟩
  | notCreated missing hwanted hmissing fault =>
    cases readOnly <;> exact ⟨Nat.le_succ 1, Or.inr rfl, by simp [openingTurn, hmissing]⟩
  | again missing hwanted hmissing _ =>
    cases readOnly <;>
      exact ⟨Nat.le_refl 2, Or.inr rfl, by simp +contextual [openingTurn, hmissing]⟩

end

/-- **Recovery is bounded and in order, whatever the server answers.**  A move takes one of the
courses of `Moving`, with two attempts at most and no mailbox made but the target, once; opening a
mailbox takes one of the courses of `Opening`, with two tries at most and no other mailbox made; and
any other failure is the end and the result. -/
theorem recovery_is_bounded (answer : Answerer σ) (s : σ) :
    (∀ uids source target,
      let turns := transcript answer (move uids source target) s
      let result := (exec answer (move uids source target) s).1
      Moving uids source target turns result ∧ attempts turns ≤ 2 ∧
        (created turns = [] ∨ created turns = [target]) ∧ OthersEnd turns result) ∧
    ∀ mailbox readOnly autoCreate,
      let turns := transcript answer (openMailbox mailbox readOnly autoCreate) s
      let result := (exec answer (openMailbox mailbox readOnly autoCreate) s).1
      Opening mailbox readOnly autoCreate turns result ∧ openings turns ≤ 2 ∧
        (created turns = [] ∨ created turns = [mailbox]) ∧ OthersEnd turns result := by
  constructor
  · intro uids source target turns result
    have hmoving : Moving uids source target turns result := goes_move.mp (goes_exec answer _ s)
    exact ⟨hmoving, hmoving.bounds⟩
  · intro mailbox readOnly autoCreate turns result
    have hopening : Opening mailbox readOnly autoCreate turns result :=
      goes_openMailbox.mp (goes_exec answer _ s)
    exact ⟨hopening, hopening.bounds⟩

end Talk

end Postroom
