import Postroom.Proofs.Recovery

/-! # The course of a sorting pass

Which courses sorting a mailbox can take with any server whatever.  Messages are
gathered (`Gathering`), each of them is tried against the filters and dealt with by the
first that matches (`Trying`), and then the messages that no filter matches are dealt
with (`FallingBack`).  All of it is work on a row of things, one after the other, and
such work ends with the first of them that fails (`InRow`), so `Sorting` puts nothing
behind a failure: no request, and no message that no filter matches.
-/

namespace Postroom

/-- The changes of flags that commands ask for, in the order in which they are made. -/
def Commands.changes (commands : Commands) : List (StoreMode × List Flag) :=
  [(StoreMode.add, commands.addFlags), (.remove, commands.removeFlags),
    (.replace, commands.replaceFlags)].filterMap fun change =>
      change.2.map fun names => (change.1, names.map Flag.ofString)

/-- The identifiers of the messages that no filter matches. -/
def Filter.unmatched (filters : List (String × Filter)) (messages : List Message) : List Uid :=
  (messages.filter fun message => match firstMatch message.headers filters with
    | .ok none => true
    | _ => false).map Message.uid

namespace Talk

/-! ### Courses -/

/-- How work on a row of things can go: it ends with the first that fails. -/
inductive InRow {α : Type} (course : α → List Turn → Except Fault Unit → Prop) :
    List α → List Turn → Except Fault Unit → Prop where
  | nil : InRow course [] [] (.ok ())
  | failed {a : α} {rest : List α} {turns : List Turn} {fault : Fault}
    (hfirst : course a turns (.error fault)) : InRow course (a :: rest) turns (.error fault)
  | cons {a : α} {rest : List α} {turns more : List Turn} {result : Except Fault Unit}
    (hfirst : course a turns (.ok ())) (hrest : InRow course rest more result) :
    InRow course (a :: rest) (turns ++ more) result

/-- How a change of flags can go: the mailbox is opened for it. -/
inductive Reflagging (mailbox : String) (uid : Uid) (change : StoreMode × List Flag) :
    List Turn → Except Fault Unit → Prop where
  | notOpened (fault : Fault) :
    Reflagging mailbox uid change [⟨.select mailbox, .error fault⟩] (.error fault)
  | stored (status : MailboxStatus) (reply : Except Fault Unit) :
    Reflagging mailbox uid change
      [⟨.select mailbox, .ok status⟩, ⟨.store [uid] change.1 change.2, reply⟩] reply

/-- How commands on a message can go: after a move its flags are changed in the target, under the
identifier that the server told of this move or else under the old one. -/
inductive Obeying (commands : Commands) (input : String) (uid : Uid) :
    List Turn → Except Fault Unit → Prop where
  | stays (hstays : commands.moveTo = none) {turns : List Turn} {result : Except Fault Unit}
    (hflags : InRow (Reflagging input uid) commands.changes turns result) :
    Obeying commands input uid turns result
  | notMoved {target : String} (hto : commands.moveTo = some target) {turns : List Turn}
    {fault : Fault} (hmoving : Moving [uid] input target turns (.error fault)) :
    Obeying commands input uid turns (.error fault)
  | moved {target : String} (hto : commands.moveTo = some target) {turns more : List Turn}
    {told : Option Uid} {result : Except Fault Unit}
    (hmoving : Moving [uid] input target turns (.ok told))
    (hflags : InRow (Reflagging target (told.getD uid)) commands.changes more result) :
    Obeying commands input uid (turns ++ more) result

/-- How a message can fare that is tried against filters. -/
inductive Trying (filters : List (String × Filter)) (input : String) (message : Message) :
    List Turn → Except Fault Unit → Prop where
  | notTried (fault : Fault) (hfirst : Filter.firstMatch message.headers filters = .error fault) :
    Trying filters input message [] (.error fault)
  | unmatched (hfirst : Filter.firstMatch message.headers filters = .ok none) :
    Trying filters input message [] (.ok ())
  | matched (filter : Filter)
    (hfirst : Filter.firstMatch message.headers filters = .ok (some filter))
    {turns : List Turn} {result : Except Fault Unit}
    (hobeying : Obeying filter.commands input message.uid turns result) :
    Trying filters input message turns result

/-- How a message can fare that no filter matches. -/
inductive FallingBack (input fallback : String) (uid : Uid) :
    List Turn → Except Fault Unit → Prop where
  | marked (hhere : fallback = "" ∨ fallback = input) {turns : List Turn}
    {result : Except Fault Unit} (hflags : Reflagging input uid (.add, [.flagged]) turns result) :
    FallingBack input fallback uid turns result
  | moved (hthere : ¬(fallback = "" ∨ fallback = input)) {turns : List Turn}
    {result : Except Fault (Option Uid)} (hmoving : Moving [uid] input fallback turns result) :
    FallingBack input fallback uid turns (result.map fun _ => ())

/-- How messages can be gathered: of what the server sends only messages that were found count. -/
inductive Gathering (input : String) (criteria : Criteria) :
    List Turn → Except Fault (List Message) → Prop where
  | notOpened (fault : Fault) :
    Gathering input criteria [⟨.examine input, .error fault⟩] (.error fault)
  | notSearched (status : MailboxStatus) (fault : Fault) :
    Gathering input criteria
      [⟨.examine input, .ok status⟩, ⟨.search criteria, .error fault⟩] (.error fault)
  | nothing (status : MailboxStatus) :
    Gathering input criteria [⟨.examine input, .ok status⟩, ⟨.search criteria, .ok []⟩] (.ok [])
  | notOpenedAgain (status : MailboxStatus) (found : List Uid) (hfound : found ≠ [])
    (fault : Fault) :
    Gathering input criteria
      [⟨.examine input, .ok status⟩, ⟨.search criteria, .ok found⟩, ⟨.examine input, .error fault⟩]
      (.error fault)
  | notFetched (status status' : MailboxStatus) (found : List Uid) (hfound : found ≠ [])
    (fault : Fault) :
    Gathering input criteria
      [⟨.examine input, .ok status⟩, ⟨.search criteria, .ok found⟩, ⟨.examine input, .ok status'⟩,
        ⟨.fetch found .headers, .error fault⟩] (.error fault)
  | fetched (status status' : MailboxStatus) (found : List Uid) (hfound : found ≠ [])
    (sent : List Fetched) :
    Gathering input criteria
      [⟨.examine input, .ok status⟩, ⟨.search criteria, .ok found⟩, ⟨.examine input, .ok status'⟩,
        ⟨.fetch found .headers, .ok sent⟩] ((sent.filter (isWanted found)).mapM Message.ofFetched)

/-- How sorting can go: the messages that no filter matches are dealt with only when all messages
have been tried without a failure. -/
inductive Sorting (input : String) (excluded : List Flag) (fallback : String)
    (filters : List (String × Filter)) : List Turn → Except Fault Tally → Prop where
  | notGathered {turns : List Turn} {fault : Fault}
    (hgathering : Gathering input ⟨[], excluded⟩ turns (.error fault)) :
    Sorting input excluded fallback filters turns (.error fault)
  | notTried {turns more : List Turn} {messages : List Message} {fault : Fault}
    (hgathering : Gathering input ⟨[], excluded⟩ turns (.ok messages))
    (htrying : InRow (Trying filters input) messages more (.error fault)) :
    Sorting input excluded fallback filters (turns ++ more) (.error fault)
  | tried {turns more last : List Turn} {messages : List Message} {result : Except Fault Unit}
    (hgathering : Gathering input ⟨[], excluded⟩ turns (.ok messages))
    (htrying : InRow (Trying filters input) messages more (.ok ())) {matched : Nat}
    (hcount : matched + (Filter.unmatched filters messages).length = messages.length)
    (hfalling :
      InRow (FallingBack input fallback) (Filter.unmatched filters messages) last result) :
    Sorting input excluded fallback filters (turns ++ (more ++ last))
      (result.map fun _ => ⟨matched, (Filter.unmatched filters messages).length⟩)

/-! ### The courses are those of the talks -/

variable {α β : Type} {input mailbox fallback : String} {uid : Uid} {turns : List Turn}

theorem goes_forM {f : α → Talk PUnit} {l : List α} {result : Except Fault Unit}
    (h : Goes (l.forM f) turns result) : InRow (fun a => Goes (f a)) l turns result := by
  induction l generalizing turns with
  | nil =>
    obtain ⟨rfl, rfl⟩ := h
    exact .nil
  | cons a rest ih =>
    rcases goes_bind.mp h with ⟨fault, rfl, hfirst⟩ | ⟨_, first, more, rfl, hfirst, hmore⟩
    · exact .failed hfirst
    · exact .cons hfirst (ih hmore)

theorem InRow.mono {course course' : α → List Turn → Except Fault Unit → Prop}
    (hcourse : ∀ a turns result, course a turns result → course' a turns result) {l : List α}
    {result : Except Fault Unit} (h : InRow course l turns result) :
    InRow course' l turns result := by
  induction h with
  | nil => exact .nil
  | failed hfirst => exact .failed (hcourse _ _ _ hfirst)
  | cons hfirst _ ih => exact .cons (hcourse _ _ _ hfirst) ih

theorem goes_setFlags {mode : StoreMode} {flags : List Flag} {result : Except Fault Unit}
    (h : Goes (setFlags mailbox [uid] mode flags false) turns result) :
    Reflagging mailbox uid (mode, flags) turns result := by
  rw [setFlags, goes_bind] at h
  simp only [goes_openMailbox, opening_iff_of_not_autoCreate] at h
  rcases h with ⟨fault, rfl, rfl⟩ | ⟨status, _, rest, rfl, rfl, h⟩
  · exact .notOpened fault
  rcases goes_ask_bind.mp h with ⟨fault, rfl, rfl⟩ | ⟨_, rest, rfl, rfl, rfl⟩
  · exact .stored status (.error fault)
  · exact .stored status (.ok ())

theorem reviseFlags_eq (commands : Commands) (mailbox : String) (uid : Uid) :
    reviseFlags commands mailbox uid =
      commands.changes.forM fun change => setFlags mailbox [uid] change.1 change.2 false := by
  obtain ⟨moveTo, addFlags, removeFlags, replaceFlags⟩ := commands
  cases addFlags <;> cases removeFlags <;> cases replaceFlags <;>
    simp [reviseFlags, setFlagNames, Commands.changes]

theorem goes_reviseFlags {commands : Commands} {result : Except Fault Unit}
    (h : Goes (reviseFlags commands mailbox uid) turns result) :
    InRow (Reflagging mailbox uid) commands.changes turns result := by
  rw [reviseFlags_eq] at h
  exact (goes_forM h).mono fun _ _ _ h => goes_setFlags h

theorem goes_apply {commands : Commands} {result : Except Fault Unit}
    (h : Goes (apply commands input uid) turns result) :
    Obeying commands input uid turns result := by
  rw [apply_eq] at h
  split at h
  · next target hto =>
    rcases goes_bind.mp h with ⟨fault, rfl, hmove⟩ | ⟨told, first, rest, rfl, hmove, hflags⟩
    · exact .notMoved hto (goes_move.mp hmove)
    · exact .moved hto (goes_move.mp hmove) (goes_reviseFlags hflags)
  · next hstays => exact .stays hstays (goes_reviseFlags h)

/-- Trying messages ends with a failure, or tells how many were matched and which were not. -/
theorem goes_applyFilters {filters : List (String × Filter)} {messages : List Message}
    {result : Except Fault (Nat × List Uid)}
    (h : Goes (applyFilters input filters messages) turns result) :
    (∃ fault, result = .error fault ∧
        InRow (Trying filters input) messages turns (.error fault)) ∨
      ∃ matched, result = .ok (matched, Filter.unmatched filters messages) ∧
        matched + (Filter.unmatched filters messages).length = messages.length ∧
        InRow (Trying filters input) messages turns (.ok ()) := by
  induction messages generalizing turns result with
  | nil =>
    obtain ⟨rfl, rfl⟩ := h
    exact Or.inr ⟨0, rfl, rfl, .nil⟩
  | cons message rest ih =>
    rcases goes_bind.mp h with ⟨fault, rfl, rfl, hfirst⟩ | ⟨choice, _, more, rfl, ⟨rfl, hfirst⟩, h⟩
    · exact Or.inl ⟨fault, rfl, .failed (.notTried fault hfirst.symm)⟩
    rw [List.nil_append]
    cases choice with
    | none =>
      have hunmatched : Filter.unmatched filters (message :: rest) =
          message.uid :: Filter.unmatched filters rest := by
        simp [Filter.unmatched, ← hfirst]
      have hhead : Trying filters input message [] (.ok ()) := .unmatched hfirst.symm
      obtain ⟨r, hrest, rfl⟩ :=
        (goes_bind_pure (f := fun x : Nat × List Uid => (x.1, message.uid :: x.2))).mp h
      rcases ih hrest with ⟨fault, rfl, hrow⟩ | ⟨matched, rfl, hcount, hrow⟩
      · exact Or.inl ⟨fault, rfl, .cons hhead hrow⟩
      · rw [hunmatched]
        exact Or.inr ⟨matched, rfl, congrArg (· + 1) hcount, .cons hhead hrow⟩
    | some filter =>
      have hunmatched : Filter.unmatched filters (message :: rest) =
          Filter.unmatched filters rest := by
        simp [Filter.unmatched, ← hfirst]
      rcases goes_bind.mp h with ⟨fault, rfl, happly⟩ | ⟨_, first, others, rfl, happly, h⟩
      · exact Or.inl ⟨fault, rfl, .failed (.matched filter hfirst.symm (goes_apply happly))⟩
      have hhead : Trying filters input message first (.ok ()) :=
        .matched filter hfirst.symm (goes_apply happly)
      obtain ⟨r, hrest, rfl⟩ :=
        (goes_bind_pure (f := fun x : Nat × List Uid => (x.1 + 1, x.2))).mp h
      rcases ih hrest with ⟨fault, rfl, hrow⟩ | ⟨matched, rfl, hcount, hrow⟩
      · exact Or.inl ⟨fault, rfl, .cons hhead hrow⟩
      · rw [hunmatched]
        refine Or.inr ⟨matched + 1, rfl, ?_, .cons hhead hrow⟩
        rw [List.length_cons, ← hcount]
        omega

theorem goes_fallBack {result : Except Fault Unit}
    (h : Goes (fallBack input fallback uid) turns result) :
    FallingBack input fallback uid turns result := by
  have hhere : (fallback.isEmpty || decide (fallback = input)) = true ↔
      fallback = "" ∨ fallback = input := by
    simp
  unfold fallBack at h
  split at h
  · next hcond =>
    exact .marked (hhere.mp hcond) (goes_setFlags h)
  · next hcond =>
    have hthere := fun hor => hcond (hhere.mpr hor)
    obtain ⟨told, hmove, rfl⟩ := (goes_bind_pure (f := fun _ => ())).mp h
    exact .moved hthere (goes_move.mp hmove)

/-- What a server sends of messages is read without another turn. -/
theorem mapM_mk_pure (f : α → Except Fault β) (l : List α) :
    (l.mapM fun a => (ExceptT.mk (pure (f a)) : Talk β)) = ExceptT.mk (pure (l.mapM f)) := by
  induction l with
  | nil => rfl
  | cons a rest ih =>
    rw [List.mapM_cons, List.mapM_cons, ih]
    cases f a with
    | error fault => rfl
    | ok b => cases rest.mapM f <;> rfl

/-- A request to a mailbox that is opened for reading. -/
theorem goes_examine {r : Request} {f : r.Reply → Talk β} {result : Except Fault β}
    (h : Goes (openMailbox input true false >>= fun _ => ask r >>= f) turns result) :
    (∃ fault, turns = [⟨.examine input, .error fault⟩] ∧ result = .error fault) ∨
      (∃ status fault, turns = [⟨.examine input, .ok status⟩, ⟨r, .error fault⟩] ∧
        result = .error fault) ∨
      ∃ status a rest, turns = ⟨.examine input, .ok status⟩ :: ⟨r, .ok a⟩ :: rest ∧
        Goes (f a) rest result := by
  rw [goes_bind] at h
  simp only [goes_openMailbox, opening_iff_of_not_autoCreate, goes_ask_bind] at h
  rcases h with ⟨fault, rfl, rfl⟩ | ⟨status, _, _, rfl, rfl, ⟨fault, rfl, rfl⟩ | ⟨a, rest, rfl, h⟩⟩
  · exact Or.inl ⟨fault, rfl, rfl⟩
  · exact Or.inr (Or.inl ⟨status, fault, rfl, rfl⟩)
  · exact Or.inr (Or.inr ⟨status, a, rest, rfl, h⟩)

theorem goes_searchAndFetch {criteria : Criteria} {result : Except Fault (List Message)}
    (h : Goes (searchAndFetch input criteria) turns result) :
    Gathering input criteria turns result := by
  rw [searchAndFetch, search, bind_assoc] at h
  rcases goes_examine h with ⟨fault, rfl, rfl⟩ | ⟨status, fault, rfl, rfl⟩ |
    ⟨status, found, rest, rfl, hfound⟩
  · exact .notOpened fault
  · exact .notSearched status fault
  split at hfound
  · next hempty =>
    obtain ⟨rfl, rfl⟩ := hfound
    obtain rfl := List.isEmpty_iff.mp hempty
    exact .nothing status
  · next hempty =>
    have hsome : found ≠ [] := fun hnil => hempty (List.isEmpty_iff.mpr hnil)
    rcases goes_examine hfound with ⟨fault, rfl, rfl⟩ | ⟨status', fault, rfl, rfl⟩ |
      ⟨status', sent, rest, rfl, hsent⟩
    · exact .notOpenedAgain status found hsome fault
    · exact .notFetched status status' found hsome fault
    · rw [mapM_mk_pure] at hsent
      obtain ⟨rfl, rfl⟩ := hsent
      exact .fetched status status' found hsome sent

theorem goes_sort {excluded : List Flag} {filters : Assoc Filter} {result : Except Fault Tally}
    (h : Goes (sort input excluded fallback filters) turns result) :
    Sorting input excluded fallback (Filter.ordered filters) turns result := by
  rcases goes_bind.mp h with ⟨fault, rfl, hgather⟩ | ⟨messages, first, rest, rfl, hgather, htry⟩
  · exact .notGathered (goes_searchAndFetch hgather)
  rcases goes_bind.mp htry with ⟨fault, rfl, hfilters⟩ | ⟨_, more, last, rfl, hfilters, hfall⟩
  · rcases goes_applyFilters hfilters with ⟨_, heq, hrow⟩ | ⟨_, heq, -⟩ <;> cases heq
    exact .notTried (goes_searchAndFetch hgather) hrow
  rcases goes_applyFilters hfilters with ⟨_, heq, -⟩ | ⟨matched, heq, hcount, hrow⟩ <;> cases heq
  obtain ⟨r, hfalling, rfl⟩ := (goes_bind_pure (f := fun _ =>
    (⟨matched, (Filter.unmatched (Filter.ordered filters) messages).length⟩ : Tally))).mp hfall
  exact .tried (goes_searchAndFetch hgather) hrow hcount
    ((goes_forM hfalling).mono fun _ _ _ => goes_fallBack)

end Talk

end Postroom
