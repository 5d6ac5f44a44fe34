import Postroom.Filter
import Postroom.Session

/-! # The course of a talk

`Talk.exec` is the course that a talk takes with one server, with its result.  The
equations below follow the ways in which talks are put together, so a statement
about a piece of work is proved from statements about its parts.

`Talk.Keeps` is for statements that hold of every course: whatever the server
answers, the state at the end stands in a relation to the state at the beginning.
A relation that is reflexive and transitive passes from the parts of a talk to the
whole.
-/

namespace Postroom

namespace Dialogue

theorem bind_pure_id {α : Type} (d : Dialogue α) : d.bind (fun a => done (id a)) = d := by
  induction d with
  | done a => rfl
  | ask r next ih => exact congrArg (ask r) (funext ih)

theorem bind_assoc {α β γ : Type} (d : Dialogue α) (f : α → Dialogue β) (g : β → Dialogue γ) :
    (d.bind f).bind g = d.bind fun a => (f a).bind g := by
  induction d with
  | done a => rfl
  | ask r next ih => exact congrArg (ask r) (funext ih)

instance : LawfulMonad Dialogue :=
  LawfulMonad.mk' Dialogue bind_pure_id (fun _ _ => rfl) bind_assoc

end Dialogue

namespace Talk

variable {α β σ World Handle : Type}

/-- The result of a talk with one server, and the state in which it leaves it. -/
def exec (answer : Answerer σ) (talk : Talk α) (s : σ) : Except Fault α × σ :=
  talk.run.run answer s

variable (answer : Answerer σ) (s : σ)

@[simp] theorem exec_pure (a : α) : exec answer (pure a) s = (.ok a, s) := rfl

@[simp] theorem exec_throw (fault : Fault) :
    exec answer (throw fault : Talk α) s = (.error fault, s) := rfl

@[simp] theorem exec_mk_pure (r : Except Fault α) :
    exec answer (ExceptT.mk (pure r)) s = (r, s) := rfl

@[simp] theorem exec_ask (r : Request) : exec answer (ask r) s = answer r s := rfl

@[simp] theorem exec_attempt (r : Request) :
    exec answer (attempt r) s = (.ok (answer r s).1, (answer r s).2) := rfl

theorem exec_bind (talk : Talk α) (f : α → Talk β) :
    exec answer (talk >>= f) s =
      match exec answer talk s with
      | (.ok a, s') => exec answer (f a) s'
      | (.error fault, s') => (.error fault, s') := by
  have hrun : exec answer (talk >>= f) s =
      (ExceptT.bindCont f (exec answer talk s).1).run answer (exec answer talk s).2 :=
    Dialogue.run_bind answer talk.run (ExceptT.bindCont f) s
  rw [hrun]
  rcases exec answer talk s with ⟨_ | a, s'⟩ <;> rfl

theorem exec_tryCatch (talk : Talk α) (handler : Fault → Talk α) :
    exec answer (tryCatch talk handler) s =
      match exec answer talk s with
      | (.ok a, s') => (.ok a, s')
      | (.error fault, s') => exec answer (handler fault) s' := by
  have hrun : exec answer (tryCatch talk handler) s =
      (ExceptT.run (match (exec answer talk s).1 with
        | .ok a => pure a
        | .error fault => handler fault)).run answer (exec answer talk s).2 := by
    refine (Dialogue.run_bind answer talk.run _ s).trans ?_
    unfold exec
    rcases talk.run.run answer s with ⟨_ | a, s'⟩ <;> rfl
  rw [hrun]
  rcases exec answer talk s with ⟨_ | a, s'⟩ <;> rfl

variable {answer s}

theorem exec_bind_of_ok {talk : Talk α} {f : α → Talk β} {a : α} {s' : σ}
    (h : exec answer talk s = (.ok a, s')) :
    exec answer (talk >>= f) s = exec answer (f a) s' := by
  rw [exec_bind, h]

theorem exec_bind_of_error {talk : Talk α} {f : α → Talk β} {fault : Fault} {s' : σ}
    (h : exec answer talk s = (.error fault, s')) :
    exec answer (talk >>= f) s = (.error fault, s') := by
  rw [exec_bind, h]

/-- A talk in two parts succeeds if the second does after the first. -/
theorem exec_bind_eq_ok_iff {talk : Talk α} {f : α → Talk β} {b : β} {u : σ} :
    exec answer (talk >>= f) s = (.ok b, u) ↔
      ∃ a t, exec answer talk s = (.ok a, t) ∧ exec answer (f a) t = (.ok b, u) := by
  rw [exec_bind]
  constructor
  · intro h
    split at h
    · next a t htalk => exact ⟨a, t, htalk, h⟩
    · cases h
  · rintro ⟨a, t, htalk, h⟩
    rwa [htalk]

theorem exec_ask_bind_of_ok {r : Request} {f : r.Reply → Talk β} {a : r.Reply} {s' : σ}
    (h : answer r s = (.ok a, s')) : exec answer (ask r >>= f) s = exec answer (f a) s' :=
  exec_bind_of_ok h

theorem exec_ask_bind_of_error {r : Request} {f : r.Reply → Talk β} {fault : Fault} {s' : σ}
    (h : answer r s = (.error fault, s')) : exec answer (ask r >>= f) s = (.error fault, s') :=
  exec_bind_of_error h

/-- A computation without requests, done for every item of a list. -/
theorem exec_mapM_pure (f : α → Except Fault β) (l : List α) :
    exec answer (l.mapM fun a => ExceptT.mk (pure (f a))) s = (l.mapM f, s) := by
  induction l with
  | nil => rfl
  | cons a rest ih =>
    rw [List.mapM_cons, List.mapM_cons, exec_bind, exec_mk_pure]
    cases f a with
    | error fault => rfl
    | ok b =>
      simp only [exec_bind, ih]
      cases rest.mapM f <;> rfl

/-! ### Opening a mailbox -/

theorem exec_openMailbox_select (mailbox : String) :
    exec answer (openMailbox mailbox false false) s = answer (.select mailbox) s := by
  rw [openMailbox, openOnce, exec_bind, if_neg Bool.false_ne_true, exec_attempt]
  rcases answer (.select mailbox) s with ⟨_ | _, _⟩ <;> rfl

theorem exec_openMailbox_examine (mailbox : String) :
    exec answer (openMailbox mailbox true false) s = answer (.examine mailbox) s := by
  rw [openMailbox, openOnce, exec_bind, if_pos rfl, exec_attempt]
  rcases answer (.examine mailbox) s with ⟨_ | _, _⟩ <;> rfl

/-! ### Applying commands -/

/-- The part of commands that concerns flags. -/
def reviseFlags (commands : Commands) (mailbox : String) (uid : Uid) : Talk Unit := do
  setFlagNames mailbox uid .add commands.addFlags
  setFlagNames mailbox uid .remove commands.removeFlags
  setFlagNames mailbox uid .replace commands.replaceFlags

/-- Commands move the message if they say so, and then concern its flags. -/
theorem apply_eq (commands : Commands) (mailbox : String) (uid : Uid) :
    apply commands mailbox uid =
      match commands.moveTo with
      | some target => do
        let moved ← move [uid] mailbox target
        reviseFlags commands target (moved.getD uid)
      | none => reviseFlags commands mailbox uid := by
  unfold apply reviseFlags
  cases commands.moveTo with
  | some target => simp
  | none => simp

/-! ### What holds of every course -/

/-- Wherever the talk starts, the state it ends in stands in a relation to the first. -/
def Keeps (answer : Answerer σ) (R : σ → σ → Prop) (talk : Talk α) : Prop :=
  ∀ s, R s (exec answer talk s).2

section Keeps
variable {R : σ → σ → Prop} (hrefl : ∀ s, R s s) (htrans : ∀ a b c, R a b → R b c → R a c)

include hrefl in
theorem keeps_pure (a : α) : Keeps answer R (pure a) := fun s => hrefl s

include hrefl in
theorem keeps_throw (fault : Fault) : Keeps answer R (throw fault : Talk α) := fun s => hrefl s

include htrans in
theorem keeps_bind {talk : Talk α} {f : α → Talk β} (ht : Keeps answer R talk)
    (hf : ∀ a, Keeps answer R (f a)) : Keeps answer R (talk >>= f) := by
  intro s
  have hs := ht s
  rw [exec_bind]
  rcases hrun : exec answer talk s with ⟨_ | a, s'⟩ <;> rw [hrun] at hs
  · exact hs
  · exact htrans _ _ _ hs (hf a s')

/-- What follows a computation is asked only for the results that it can have. -/
theorem keeps_mk_pure_bind {r : Except Fault α} {f : α → Talk β} (hrefl : ∀ s, R s s)
    (hf : ∀ a, r = .ok a → Keeps answer R (f a)) :
    Keeps answer R ((ExceptT.mk (pure r) : Talk α) >>= f) := by
  intro s
  rw [exec_bind, exec_mk_pure]
  cases r with
  | error fault => exact hrefl s
  | ok a => exact hf a rfl s

include htrans in
theorem keeps_tryCatch {talk : Talk α} {handler : Fault → Talk α} (ht : Keeps answer R talk)
    (hh : ∀ fault, Keeps answer R (handler fault)) :
    Keeps answer R (tryCatch talk handler) := by
  intro s
  have hs := ht s
  rw [exec_tryCatch]
  rcases hrun : exec answer talk s with ⟨fault | _, s'⟩ <;> rw [hrun] at hs
  · exact htrans _ _ _ hs (hh fault s')
  · exact hs

include hrefl htrans in
theorem keeps_forM {f : α → Talk PUnit} (hf : ∀ a, Keeps answer R (f a)) (l : List α) :
    Keeps answer R (l.forM f) := by
  induction l with
  | nil => exact keeps_pure hrefl _
  | cons a rest ih =>
    exact keeps_bind (f := fun _ => rest.forM f) htrans (hf a) fun _ => ih

end Keeps

/-! ### A part of a larger world -/

/-- A talk with a part of a world changes the part as if it were alone. -/
theorem exec_within {Part : Type} (b : Backend Part Handle) {part : World → Part}
    {put : Part → World → World} (hself : ∀ w, put (part w) w = w)
    (hpart : ∀ p w, part (put p w) = p) (hput : ∀ p p' w, put p' (put p w) = put p' w)
    (talk : Talk α) (h : Handle) (w : World) :
    exec (b.within part put).answer talk (h, w) =
      ((exec b.answer talk (h, part w)).1, (exec b.answer talk (h, part w)).2.1,
        put (exec b.answer talk (h, part w)).2.2 w) := by
  have hrun : ∀ (d : Dialogue (Except Fault α)) (h : Handle) (w : World),
      d.run (b.within part put).answer (h, w) =
        ((d.run b.answer (h, part w)).1, (d.run b.answer (h, part w)).2.1,
          put (d.run b.answer (h, part w)).2.2 w) := by
    -- On the dialogue: each request leaves the part changed in the larger world as well.
    intro d
    induction d with
    | done a => exact fun h w => by rw [Dialogue.run_done, Dialogue.run_done, hself]
    | ask r next ih =>
      intro h w
      rw [Dialogue.run_ask, Dialogue.run_ask]
      refine (ih _ _ _).trans ?_
      simp only [Backend.within, hpart, hput]
  exact hrun talk.run h w

end Talk

namespace Session

variable {World Handle α : Type}

/-- Work over a connection is the course of the talk over its handle. -/
theorem perform_some (b : Backend World Handle) (settings : Settings) (h : Handle)
    (talk : Talk α) (w : World) :
    perform ⟨b, settings, some h⟩ talk w =
      ((talk.exec b.answer (h, w)).1, ⟨b, settings, some (talk.exec b.answer (h, w)).2.1⟩,
        (talk.exec b.answer (h, w)).2.2) := rfl

/-- Without a connection the world stays as it is. -/
theorem perform_none (b : Backend World Handle) (settings : Settings) (talk : Talk α) (w : World) :
    (perform ⟨b, settings, none⟩ talk w).2 = (⟨b, settings, none⟩, w) := by
  have hw : ∀ d : Dialogue (Except Fault α), (d.run noConnection w).2 = w := by
    intro d
    induction d with
    | done a => rfl
    | ask r next ih => exact ih _
  exact congrArg (Prod.mk _) (hw talk.run)

end Session

end Postroom
