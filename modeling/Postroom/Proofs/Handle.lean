import Mathlib.Data.List.Basic
import Postroom.Proofs.Chore

/-! # The handle of a session

A session that connects, disconnects, reconnects and does chores, in any order and with any luck,
uses one handle at a time.  To see which, the handles are numbered as they are given out, and
whatever goes between the session and what it is connected to is written down (`Backend.traced`).
This changes nothing of what the session does (`observe_spec`).

`held` reads off what was observed which handle the session should hold: the one that was given out
last, unless it was released since.  `Step` says what one use of a session comes to when a handle is
held or none is, and every use is such a step (`step_use`).  All the rest is proved of steps in a
row (`Steps`): requests go over the handle that is held and no other, and over none after a logout
(`handle_used_while_held`).
-/

namespace Postroom

/-! ### What is observed -/

/-- Something that goes between a session and what it is connected to. -/
inductive Contact where
  /-- A connection is asked for, and a handle is given out if there is one to give. -/
  | dialled (given : Option Nat)
  /-- A request is made over a handle. -/
  | asked (handle : Nat) (request : Request)
deriving DecidableEq

namespace Contact

/-- The number of a handle that is given out. -/
def given? : Contact → Option Nat
  | dialled given => given
  | asked .. => none

/-- The later of two contacts is no request over a handle that the first one logs out from. -/
def MayPrecede (first later : Contact) : Prop :=
  ∀ handle request, first = .asked handle .logout → later ≠ .asked handle request

end Contact

/-- A world with the number of handles that were given out, and all that went between. -/
structure Traced (World : Type) where
  /-- The world. -/
  world : World
  /-- The number of the next handle. -/
  given : Nat
  /-- What went between, in order. -/
  contacts : List Contact

/-- A backend that numbers the handles it gives out and writes down what goes between. -/
def Backend.traced {World Handle : Type} (b : Backend World Handle) :
    Backend (Traced World) (Nat × Handle) where
  connect settings t :=
    match b.connect settings t.world with
    | (.ok handle, w) =>
      (.ok (t.given, handle), ⟨w, t.given + 1, t.contacts ++ [.dialled (some t.given)]⟩)
    | (.error fault, w) => (.error fault, ⟨w, t.given, t.contacts ++ [.dialled none]⟩)
  answer request := fun ((number, handle), t) =>
    let (reply, handle, w) := b.answer request (handle, t.world)
    (reply, (number, handle), ⟨w, t.given, t.contacts ++ [.asked number request]⟩)

namespace Session

/-- A use of a session. -/
inductive Use where
  /-- It connects. -/
  | connect
  /-- It disconnects. -/
  | disconnect
  /-- It reconnects. -/
  | reconnect
  /-- It does a chore. -/
  | work (chore : Chore)

/-- What is observed of one use. -/
structure Observed where
  /-- The use. -/
  use : Use
  /-- What it comes to. -/
  result : Except Fault Unit
  /-- Whether the session says afterwards that there is a connection. -/
  connected : Bool
  /-- What goes between meanwhile. -/
  contacts : List Contact

section

variable {World Handle : Type}

/-- Uses a session. -/
def use (s : Session World Handle) (w : World) :
    Use → Except Fault Unit × Session World Handle × World
  | .connect => s.connect w
  | .disconnect => s.disconnect w
  | .reconnect => s.reconnect w
  | .work chore =>
    let (result, s, w) := s.perform chore.talk w
    (result.map fun _ => (), s, w)

/-- What a session comes to use by use, and whether it says that there is a connection. -/
def results : List Use → Session World Handle → World → List (Except Fault Unit × Bool)
  | [], _, _ => []
  | u :: uses, s, w =>
    let (result, s, w) := s.use w u
    (result, s.isConnected) :: results uses s w

/-- What is observed of a session use by use. -/
def observe : List Use → Session (Traced World) (Nat × Handle) → Traced World → List Observed
  | [], _, _ => []
  | u :: uses, s, t =>
    let (result, s, t) := s.use { t with contacts := [] } u
    ⟨u, result, s.isConnected, t.contacts⟩ :: observe uses s t

end

/-! ### Which handle is held -/

/-- The number of the handle that is given out during a use. -/
def Observed.given? (o : Observed) : Option Nat := o.contacts.findSome? Contact.given?

/-- The handle that is held after a use.  One that is given out takes the place of the one
before, which stays if connecting has failed; disconnecting and reconnecting let it go
whatever they come to. -/
def Observed.held (o : Observed) (before : Option Nat) : Option Nat :=
  match o.use, o.result with
  | .connect, .ok _ | .reconnect, .ok _ => o.given?
  | .connect, .error _ | .work _, _ => before
  | .disconnect, _ | .reconnect, .error _ => none

/-- The handle that is held after some uses, if one is held before them. -/
def heldFrom (before : Option Nat) (uses : List Observed) : Option Nat :=
  uses.foldl (fun held o => o.held held) before

/-- The handle that a new session holds after some uses. -/
def held (uses : List Observed) : Option Nat := heldFrom none uses

/-- Logging out from a handle, if there is one. -/
def logouts (held : Option Nat) : List Contact :=
  held.toList.map fun handle => .asked handle .logout

/-! ### One use -/

/-- What comes of asking for a connection, and which handle is given out. -/
inductive Dialling (settings : Settings) (given : Nat) :
    List Contact → Except Fault Unit → Option Nat → Nat → Prop where
  /-- The settings do not allow it, and nobody is asked. -/
  | invalid {fault : Fault} (h : settings.check = .error fault) :
      Dialling settings given [] (.error fault) none given
  /-- It fails. -/
  | failed (h : settings.check = .ok ()) (fault : Fault) :
      Dialling settings given [.dialled none] (.error fault) none given
  /-- The next handle is given out. -/
  | connected (h : settings.check = .ok ()) :
      Dialling settings given [.dialled (some given)] (.ok ()) (some given) (given + 1)

/-- What is observed of one use, with the handle that is held before and after it and the number of
the next handle before and after it. -/
inductive Step (settings : Settings) (held : Option Nat) (given : Nat) :
    Observed → Option Nat → Nat → Prop where
  /-- A handle that is given out takes the place of the one that is held. -/
  | connect {contacts : List Contact} {result : Except Fault Unit} {new : Option Nat} {given' : Nat}
      (h : Dialling settings given contacts result new given') :
      Step settings held given ⟨.connect, result, (new.or held).isSome, contacts⟩
        (new.or held) given'
  /-- The handle that is held is let go. -/
  | disconnect (result : Except Fault Unit) :
      Step settings held given ⟨.disconnect, result, false, logouts held⟩ none given
  /-- The handle that is held is let go, and then another one may be given out. -/
  | reconnect {contacts : List Contact} {result : Except Fault Unit} {new : Option Nat}
      {given' : Nat}
      (h : Dialling settings given contacts result new given') :
      Step settings held given ⟨.reconnect, result, new.isSome, logouts held ++ contacts⟩ new given'
  /-- Nothing can be done without a handle. -/
  | idle (chore : Chore) (h : held = none) :
      Step settings held given ⟨.work chore, .error .notConnected, false, []⟩ none given
  /-- Requests are made over the handle that is held. -/
  | work (chore : Chore) (result : Except Fault Unit) {handle : Nat} (h : held = some handle)
      {requests : List Request} (hsome : requests ≠ []) (hstays : Request.logout ∉ requests) :
      Step settings held given ⟨.work chore, result, true, requests.map (.asked handle)⟩ held given

section

variable {World Handle α : Type} (b : Backend World Handle) (settings : Settings)

/-- A dialogue over a traced backend is the one over the backend, with its requests written down. -/
theorem run_traced (d : Dialogue α) (number : Nat) (handle : Handle) (t : Traced World) :
    d.run b.traced.answer ((number, handle), t) =
      ((d.run b.answer (handle, t.world)).1,
        (number, (d.run b.answer (handle, t.world)).2.1),
        ⟨(d.run b.answer (handle, t.world)).2.2, t.given,
          t.contacts ++ ((d.transcript b.answer (handle, t.world)).map Turn.request).map
            (.asked number)⟩) := by
  induction d generalizing handle t with
  | done a => simp [Dialogue.run_done, Dialogue.transcript]
  | ask r next ih =>
    rw [Dialogue.run_ask, Dialogue.run_ask]
    refine (ih _ _ _).trans ?_
    simp [Backend.traced, Dialogue.transcript]

/-- Connecting over a traced backend comes to the same as over the backend. -/
theorem connect_traced (handle : Option (Nat × Handle)) (t : Traced World) :
    ∃ contacts result new given' handle' w',
      Dialling settings t.given contacts result new given' ∧
      handle'.map Prod.fst = new.or (handle.map Prod.fst) ∧
      Session.connect ⟨b.traced, settings, handle⟩ t =
        (result, ⟨b.traced, settings, handle'⟩, ⟨w', given', t.contacts ++ contacts⟩) ∧
      Session.connect ⟨b, settings, handle.map Prod.snd⟩ t.world =
        (result, ⟨b, settings, handle'.map Prod.snd⟩, w') := by
  cases hcheck : settings.check with
  | error fault =>
    exact ⟨_, _, _, _, handle, t.world, .invalid hcheck, rfl, by simp [Session.connect, hcheck],
      by simp [Session.connect, hcheck]⟩
  | ok =>
    rcases hconnect : b.connect settings t.world with ⟨fault | fresh, w'⟩
    · exact ⟨_, _, _, _, handle, w', .failed hcheck fault, rfl,
        by simp [Session.connect, Backend.traced, hcheck, hconnect],
        by simp [Session.connect, hcheck, hconnect]⟩
    · exact ⟨_, _, _, _, some (t.given, fresh), w', .connected hcheck, rfl,
        by simp [Session.connect, Backend.traced, hcheck, hconnect],
        by simp [Session.connect, hcheck, hconnect]⟩

/-- Disconnecting over a traced backend comes to the same as over the backend. -/
theorem disconnect_traced (handle : Option (Nat × Handle)) (t : Traced World) :
    ∃ result w',
      Session.disconnect ⟨b.traced, settings, handle⟩ t =
        (result, ⟨b.traced, settings, none⟩,
          ⟨w', t.given, t.contacts ++ logouts (handle.map Prod.fst)⟩) ∧
      Session.disconnect ⟨b, settings, handle.map Prod.snd⟩ t.world =
        (result, ⟨b, settings, none⟩, w') := by
  rcases handle with _ | ⟨number, handle⟩
  · exact ⟨.ok (), t.world, by simp [Session.disconnect, logouts], rfl⟩
  · exact ⟨_, _, rfl, rfl⟩

/-- Every use is a step, and comes to the same as over the backend that is not traced. -/
theorem step_use (handle : Option (Nat × Handle)) (t : Traced World) (u : Use) :
    ∃ result handle' t',
      Session.use ⟨b.traced, settings, handle⟩ { t with contacts := [] } u =
        (result, ⟨b.traced, settings, handle'⟩, t') ∧
      Session.use ⟨b, settings, handle.map Prod.snd⟩ t.world u =
        (result, ⟨b, settings, handle'.map Prod.snd⟩, t'.world) ∧
      Step settings (handle.map Prod.fst) t.given ⟨u, result, handle'.isSome, t'.contacts⟩
        (handle'.map Prod.fst) t'.given := by
  cases u with
  | connect =>
    obtain ⟨contacts, result, new, given', handle', w', hdial, hnew, htraced, hplain⟩ :=
      connect_traced b settings handle { t with contacts := [] }
    refine ⟨result, handle', _, htraced, hplain, ?_⟩
    rw [hnew, ← Option.isSome_map (f := Prod.fst), hnew]
    exact .connect hdial
  | disconnect =>
    obtain ⟨result, w', htraced, hplain⟩ :=
      disconnect_traced b settings handle { t with contacts := [] }
    exact ⟨result, none, _, htraced, hplain, .disconnect result⟩
  | reconnect =>
    obtain ⟨farewell, w, hleft, hleft'⟩ :=
      disconnect_traced b settings handle { t with contacts := [] }
    obtain ⟨contacts, result, new, given', handle', w', hdial, hnew, htraced, hplain⟩ :=
      connect_traced b settings none ⟨w, t.given, logouts (handle.map Prod.fst)⟩
    refine ⟨result, handle', ⟨w', given', logouts (handle.map Prod.fst) ++ contacts⟩, ?_, ?_, ?_⟩
    · simp only [Session.use, Session.reconnect, hleft]
      exact htraced
    · simp only [Session.use, Session.reconnect, hleft']
      exact hplain
    · have hnew : handle'.map Prod.fst = new := hnew.trans (Option.or_none ..)
      rw [hnew, ← Option.isSome_map (f := Prod.fst), hnew]
      exact .reconnect hdial
  | work chore =>
    rcases handle with _ | ⟨number, handle⟩
    · have htraced := chore.begins_talk.perform_none b.traced settings { t with contacts := [] }
      have hplain := chore.begins_talk.perform_none b settings t.world
      refine ⟨.error .notConnected, none, { t with contacts := [] }, ?_, ?_, .idle chore rfl⟩
      · simp only [Session.use, htraced]
        rfl
      · simp only [Session.use, Option.map_none, hplain]
        rfl
    · have hrun := run_traced b chore.talk.run number handle { t with contacts := [] }
      have hgoes := Talk.goes_exec b.answer chore.talk (handle, t.world)
      let turns := Talk.transcript b.answer chore.talk (handle, t.world)
      let outcome := chore.talk.run.run b.answer (handle, t.world)
      refine ⟨outcome.1.map fun _ => (), some (number, outcome.2.1),
        ⟨outcome.2.2, t.given, (turns.map Turn.request).map (.asked number)⟩, ?_, rfl, ?_⟩
      · simp only [Session.use, Session.perform, hrun, List.nil_append]
        rfl
      · exact .work chore _ rfl (by simpa using chore.begins_talk.turns_ne_nil hgoes)
          (by simpa using chore.stays_talk _ _ hgoes)

end

/-! ### Steps in a row -/

theorem Dialling.not_asked {settings : Settings} {given given' : Nat} {contacts : List Contact}
    {result : Except Fault Unit} {new : Option Nat}
    (h : Dialling settings given contacts result new given') (handle : Nat) (request : Request) :
    .asked handle request ∉ contacts := by
  cases h <;> simp

namespace Step

variable {settings : Settings} {held held' : Option Nat} {given given' : Nat} {o : Observed}

/-- The handle that is held afterwards is the one that the observation says. -/
theorem held_eq (h : Step settings held given o held' given') : o.held held = held' := by
  cases h with
  | connect h => cases h <;> simp [Observed.held, Observed.given?, Contact.given?]
  | disconnect => rfl
  | reconnect h => cases h <;> cases held <;> rfl
  | idle chore h => exact h
  | work => rfl

theorem connected_eq (h : Step settings held given o held' given') :
    o.connected = held'.isSome := by
  cases h with
  | work chore result h => simp [h]
  | _ => rfl

/-- Requests go over the handle that is held. -/
theorem held_of_asked (h : Step settings held given o held' given') {handle : Nat}
    {request : Request}
    (hasked : .asked handle request ∈ o.contacts) : held = some handle := by
  cases h with
  | connect h => exact absurd hasked (h.not_asked _ _)
  | disconnect => cases held <;> simp_all [logouts]
  | reconnect h =>
    rcases List.mem_append.mp hasked with hasked | hasked
    · cases held <;> simp_all [logouts]
    · exact absurd hasked (h.not_asked _ _)
  | idle => simp at hasked
  | work chore result h => simp_all

theorem given_le (h : Step settings held given o held' given') : given ≤ given' := by
  cases h with
  | connect h | reconnect h => cases h <;> simp
  | _ => exact Nat.le_refl _

/-- A handle that is held afterwards was held before, or is the next one. -/
theorem held_or_next (h : Step settings held given o held' given') {handle : Nat}
    (hheld : held' = some handle) : held = some handle ∨ handle = given ∧ given < given' := by
  cases h with
  | connect h | reconnect h => cases h <;> simp_all
  | work => exact .inl hheld
  | _ => cases hheld

/-- A handle that was logged out from is not held afterwards. -/
theorem held_ne_of_logout (h : Step settings held given o held' given')
    (hbelow : ∀ handle, held = some handle → handle < given) {handle : Nat}
    (hlogout : .asked handle .logout ∈ o.contacts) : held' ≠ some handle := by
  have hheld := hbelow handle (h.held_of_asked hlogout)
  cases h with
  | connect h => exact absurd hlogout (h.not_asked _ _)
  | reconnect h =>
    cases h with
    | connected => simpa using Nat.ne_of_gt hheld
    | _ => simp
  | work chore result h hsome hstays => simp_all
  | _ => simp

/-- During one use nothing is asked after a logout. -/
theorem pairwise (h : Step settings held given o held' given') :
    o.contacts.Pairwise Contact.MayPrecede := by
  have hdial : ∀ {contacts result new given'}, Dialling settings given contacts result new given' →
      contacts.Pairwise Contact.MayPrecede := by
    intro contacts result new given' h
    cases h <;> simp
  cases h with
  | connect h => exact hdial h
  | disconnect => cases held <;> simp [logouts]
  | reconnect h =>
    refine List.pairwise_append.mpr ⟨by cases held <;> simp [logouts], hdial h, ?_⟩
    rintro first - later hlater handle request - rfl
    exact h.not_asked _ _ hlater
  | idle => exact List.Pairwise.nil
  | work chore result h hsome hstays =>
    refine List.pairwise_map.mpr (List.pairwise_of_forall_mem_list fun first hfirst later _ => ?_)
    rintro handle request hlogout -
    exact hstays ((Contact.asked.inj hlogout).2 ▸ hfirst)

/-- A chore comes to nothing, or makes requests over the handle that is held. -/
theorem of_work (h : Step settings held given o held' given') {chore : Chore}
    (huse : o.use = .work chore) :
    (held = none ∧ o.result = .error .notConnected ∧ o.contacts = []) ∨
      ∃ (handle : Nat) (requests : List Request), held = some handle ∧ requests ≠ [] ∧
        .logout ∉ requests ∧ o.contacts = requests.map (.asked handle) := by
  cases h with
  | idle _ hnone => exact .inl ⟨hnone, rfl, rfl⟩
  | work _ result hsome hrequests hstays => exact .inr ⟨_, _, hsome, hrequests, hstays, rfl⟩
  | _ => cases huse

theorem of_disconnect (h : Step settings held given o held' given') (huse : o.use = .disconnect) :
    o.contacts = logouts held := by
  cases h with
  | disconnect => rfl
  | _ => cases huse

theorem of_connect (h : Step settings held given o held' given') (huse : o.use = .connect) :
    ∃ new, Dialling settings given o.contacts o.result new given' := by
  cases h with
  | connect h => exact ⟨_, h⟩
  | _ => cases huse

theorem of_reconnect (h : Step settings held given o held' given') (huse : o.use = .reconnect) :
    ∃ contacts new, o.contacts = logouts held ++ contacts ∧
      Dialling settings given contacts o.result new given' := by
  cases h with
  | reconnect h => exact ⟨_, _, rfl, h⟩
  | _ => cases huse

end Step

/-- Uses that follow each other, with the handle that is held before them and the number of the next
handle. -/
inductive Steps (settings : Settings) : Option Nat → Nat → List Observed → Prop where
  /-- There are none. -/
  | nil (held : Option Nat) (given : Nat) : Steps settings held given []
  /-- One is followed by others. -/
  | cons {held held' : Option Nat} {given given' : Nat} {o : Observed} {rest : List Observed}
      (h : Step settings held given o held' given') (hrest : Steps settings held' given' rest) :
      Steps settings held given (o :: rest)

namespace Steps

variable {settings : Settings} {held : Option Nat} {given : Nat} {observed : List Observed}

/-- Each of the uses is a step from the handle that is held by then. -/
theorem step_of_split {before after : List Observed} {o : Observed}
    (h : Steps settings held given (before ++ o :: after)) :
    ∃ given' held' given'', Step settings (heldFrom held before) given' o held' given'' := by
  induction before generalizing held given with
  | nil =>
    cases h with
    | cons h hrest => exact ⟨_, _, _, h⟩
  | cons first before ih =>
    cases h with
    | cons h hrest =>
      rw [heldFrom, List.foldl_cons, h.held_eq]
      exact ih hrest

/-- Requests go over the handle that is held at first, or over later ones. -/
theorem held_or_le_of_asked (h : Steps settings held given observed) {handle : Nat}
    {request : Request} (hasked : .asked handle request ∈ observed.flatMap Observed.contacts) :
    held = some handle ∨ given ≤ handle := by
  induction h with
  | nil => simp at hasked
  | cons h hrest ih =>
    rw [List.flatMap_cons, List.mem_append] at hasked
    rcases hasked with hasked | hasked
    · exact .inl (h.held_of_asked hasked)
    · rcases ih hasked with hheld | hle
      · exact (h.held_or_next hheld).imp_right fun hnext => Nat.le_of_eq hnext.1.symm
      · exact .inr (Nat.le_trans h.given_le hle)

/-- Nothing is asked over a handle after a logout.  By induction on the uses: the handle that was
logged out from is not held afterwards, and those that are given out are new. -/
theorem pairwise (h : Steps settings held given observed)
    (hbelow : ∀ handle, held = some handle → handle < given) :
    (observed.flatMap Observed.contacts).Pairwise Contact.MayPrecede := by
  induction h with
  | nil => exact List.Pairwise.nil
  | @cons held held' given given' o rest h hrest ih =>
    have hbelow' : ∀ handle, held' = some handle → handle < given' := by
      intro handle hheld
      rcases h.held_or_next hheld with hold | ⟨rfl, hlt⟩
      · exact Nat.lt_of_lt_of_le (hbelow handle hold) h.given_le
      · exact hlt
    rw [List.flatMap_cons]
    refine List.pairwise_append.mpr ⟨h.pairwise, ih hbelow', ?_⟩
    rintro first hfirst later hlater handle request rfl rfl
    rcases hrest.held_or_le_of_asked hlater with hheld | hle
    · exact h.held_ne_of_logout hbelow hfirst hheld
    · have hlt := hbelow handle (h.held_of_asked hfirst)
      exact absurd (Nat.le_trans h.given_le hle) (Nat.not_le.mpr hlt)

end Steps

section

variable {World Handle : Type} (b : Backend World Handle) (settings : Settings)

/-- What is observed of a session is a row of steps, and what the session comes to without being
observed. -/
theorem observe_spec (uses : List Use) (handle : Option (Nat × Handle)) (t : Traced World) :
    let observed := Session.observe uses ⟨b.traced, settings, handle⟩ t
    Steps settings (handle.map Prod.fst) t.given observed ∧ observed.map Observed.use = uses ∧
      observed.map (fun o => (o.result, o.connected)) =
        Session.results uses ⟨b, settings, handle.map Prod.snd⟩ t.world := by
  induction uses generalizing handle t with
  | nil => exact ⟨.nil _ _, rfl, rfl⟩
  | cons u uses ih =>
    obtain ⟨result, handle', t', htraced, hplain, hstep⟩ := step_use b settings handle t u
    obtain ⟨hrest, huses, hresults⟩ := ih handle' t'
    simp only [Session.observe, Session.results, htraced, hplain, List.map_cons, huses, hresults]
    exact ⟨.cons hstep hrest, trivial, by simp [Session.isConnected]⟩

/-- **A session uses the handle that it holds, and no other.**  A new session is used in any order,
and whatever it is connected to may do anything at any time.  It does just what it would do if it
were not observed.  Whenever it has been used, it says that there is a connection exactly if it
holds a handle.  During each use requests go only over the handle that it held before.  A chore
makes requests over that handle, none of which is a logout, and without a handle it makes none and
fails for want of a connection.  Disconnecting logs out, reconnecting logs out and then asks for a
connection, and connecting asks for one; nobody is asked if the settings do not allow it.  And
nothing is asked over a handle after a logout, not even a second one. -/
theorem handle_used_while_held (w : World) (uses : List Use) :
    let observed := observe uses (.new b.traced settings) ⟨w, 0, []⟩
    observed.map Observed.use = uses ∧
      observed.map (fun o => (o.result, o.connected)) =
        Session.results uses (.new b settings) w ∧
      (∀ before o after, observed = before ++ o :: after →
        o.connected = (held (before ++ [o])).isSome ∧
        (∀ handle request, .asked handle request ∈ o.contacts → held before = some handle) ∧
        (∀ chore, o.use = .work chore →
          match held before with
          | none => o.result = .error .notConnected ∧ o.contacts = []
          | some handle => ∃ requests : List Request, requests ≠ [] ∧ .logout ∉ requests ∧
              o.contacts = requests.map (.asked handle)) ∧
        (o.use = .disconnect → o.contacts = logouts (held before)) ∧
        (o.use = .connect → ∃ given new given',
          Dialling settings given o.contacts o.result new given') ∧
        (o.use = .reconnect → ∃ contacts given new given',
          o.contacts = logouts (held before) ++ contacts ∧
            Dialling settings given contacts o.result new given')) ∧
      (observed.flatMap Observed.contacts).Pairwise Contact.MayPrecede := by
  obtain ⟨hsteps, huses, hresults⟩ := observe_spec b settings uses none ⟨w, 0, []⟩
  intro observed
  refine ⟨huses, hresults, fun before o after hsplit => ?_, hsteps.pairwise nofun⟩
  have hsteps : Steps settings none 0 (before ++ o :: after) := hsplit ▸ hsteps
  obtain ⟨given, held', given', hstep⟩ := hsteps.step_of_split
  have hheld : held (before ++ [o]) = held' := by
    rw [held, heldFrom, List.foldl_append]
    exact hstep.held_eq
  change Step settings (held before) given o held' given' at hstep
  refine ⟨by rw [hheld, hstep.connected_eq], fun handle request => hstep.held_of_asked,
    fun chore huse => ?_, hstep.of_disconnect, fun huse => ?_, fun huse => ?_⟩
  · rcases hstep.of_work huse with ⟨hnone, hresult, hcontacts⟩ | ⟨handle, requests, hsome, hmade⟩
    · simp only [hnone]
      exact ⟨hresult, hcontacts⟩
    · simp only [hsome]
      exact ⟨requests, hmade⟩
  · obtain ⟨new, hdial⟩ := hstep.of_connect huse
    exact ⟨given, new, given', hdial⟩
  · obtain ⟨contacts, new, hcontacts, hdial⟩ := hstep.of_reconnect huse
    exact ⟨contacts, given, new, given', hcontacts, hdial⟩

/-- One handle is given out, and then no other; every request fails. -/
example :
    let b : Backend Nat Unit :=
      ⟨fun _ calls => (if calls = 0 then .ok () else .error .connectionLost, calls + 1),
        fun _ x => (.error .connectionLost, x)⟩
    let settings : Settings := ⟨"mail.example.com", 143, "me", "pw", false, none, none, none⟩
    let uses : List Use := [.connect, .connect, .work (.create "Work"), .reconnect, .work .list]
    let observed := observe uses (.new b.traced settings) ⟨0, 0, []⟩
    observed.map Observed.contacts =
      [[.dialled (some 0)], [.dialled none], [.asked 0 (.create "Work")],
      [.asked 0 .logout, .dialled none], []] ∧
      observed.map Observed.connected = [true, true, true, false, false] := by
  decide +kernel

end

end Session

end Postroom
