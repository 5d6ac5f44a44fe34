import Postroom.Proofs.Course

/-! # Transcripts

The transcript of a talk with one server is the row of requests that it makes, each
with the answer it gets.  `Talk.Goes` says which transcripts a talk can have at all,
and with which results, whatever server it is with (`Talk.goes_exec`).  So what holds
of every way in which a talk goes holds with every server, and it is proved along the
ways in which talks are put together.
-/

namespace Postroom

/-- A request with the answer to it. -/
structure Turn where
  /-- What was asked. -/
  request : Request
  /-- What was answered. -/
  reply : Except Fault request.Reply

namespace Dialogue

variable {α β σ : Type}

/-- The requests that are made of one server, with its answers. -/
def transcript (answer : Answerer σ) : Dialogue α → σ → List Turn
  | done _, _ => []
  | ask r next, s => ⟨r, (answer r s).1⟩ :: (next (answer r s).1).transcript answer (answer r s).2

/-- A dialogue can go through these turns to this result. -/
def Goes : Dialogue α → List Turn → α → Prop
  | done a, turns, b => turns = [] ∧ b = a
  | ask r next, turns, b => ∃ reply rest, turns = ⟨r, reply⟩ :: rest ∧ (next reply).Goes rest b

theorem goes_bind (d : Dialogue α) (f : α → Dialogue β) (turns : List Turn) (b : β) :
    (d.bind f).Goes turns b ↔
      ∃ a first rest, turns = first ++ rest ∧ d.Goes first a ∧ (f a).Goes rest b := by
  induction d generalizing turns with
  | done a =>
    constructor
    · exact fun h => ⟨a, [], turns, rfl, ⟨rfl, rfl⟩, h⟩
    · rintro ⟨a, first, rest, rfl, ⟨rfl, rfl⟩, h⟩
      exact h
  | ask r next ih =>
    constructor
    · rintro ⟨reply, more, rfl, h⟩
      obtain ⟨a, first, rest, rfl, hfirst, hrest⟩ := (ih reply more).mp h
      exact ⟨a, ⟨r, reply⟩ :: first, rest, rfl, ⟨reply, first, rfl, hfirst⟩, hrest⟩
    · rintro ⟨a, _, rest, rfl, ⟨reply, first, rfl, hfirst⟩, hrest⟩
      exact ⟨reply, first ++ rest, rfl, (ih reply _).mpr ⟨a, first, rest, rfl, hfirst, hrest⟩⟩

/-- With one server a dialogue goes one of the ways in which it can go. -/
theorem goes_transcript (answer : Answerer σ) (d : Dialogue α) (s : σ) :
    d.Goes (d.transcript answer s) (d.run answer s).1 := by
  induction d generalizing s with
  | done a => exact ⟨rfl, rfl⟩
  | ask r next ih => exact ⟨(answer r s).1, _, rfl, ih (answer r s).1 (answer r s).2⟩

end Dialogue

namespace Talk

variable {α β σ : Type}

/-- The requests that a talk makes of one server, with its answers. -/
def transcript (answer : Answerer σ) (talk : Talk α) (s : σ) : List Turn :=
  talk.run.transcript answer s

/-- A talk can go through these turns to this result. -/
def Goes (talk : Talk α) (turns : List Turn) (result : Except Fault α) : Prop :=
  talk.run.Goes turns result

theorem goes_exec (answer : Answerer σ) (talk : Talk α) (s : σ) :
    Goes talk (transcript answer talk s) (exec answer talk s).1 :=
  Dialogue.goes_transcript answer talk.run s

/-! ### The server's part -/

/-- A server gives these answers when these requests are made, one after the other, and is then in
this state. -/
def Recites (answer : Answerer σ) : List Turn → σ → σ → Prop
  | [], s, t => t = s
  | turn :: rest, s, t =>
    (answer turn.request s).1 = turn.reply ∧ Recites answer rest (answer turn.request s).2 t

theorem recites_append {answer : Answerer σ} {turns more : List Turn} {s u : σ} :
    Recites answer (turns ++ more) s u ↔
      ∃ t, Recites answer turns s t ∧ Recites answer more t u := by
  induction turns generalizing s with
  | nil => simp [Recites]
  | cons turn rest ih => simp [Recites, ih, and_assoc]

/-- A server answers as its transcript says. -/
theorem recites_transcript (answer : Answerer σ) (talk : Talk α) (s : σ) :
    Recites answer (transcript answer talk s) s (exec answer talk s).2 := by
  have hrun : ∀ d : Dialogue (Except Fault α), ∀ s,
      Recites answer (d.transcript answer s) s (d.run answer s).2 := by
    intro d
    induction d with
    | done a => exact fun s => rfl
    | ask r next ih => exact fun s => ⟨rfl, ih _ _⟩
  exact hrun talk.run s

/-- What a talk comes to with a server, in turns. -/
theorem goes_of_exec {answer : Answerer σ} {talk : Talk α} {s t : σ} {result : Except Fault α}
    (h : exec answer talk s = (result, t)) :
    ∃ turns, Goes talk turns result ∧ Recites answer turns s t := by
  have hgoes := goes_exec answer talk s
  have hrecites := recites_transcript answer talk s
  rw [h] at hgoes hrecites
  exact ⟨_, hgoes, hrecites⟩

variable {turns : List Turn}

@[simp] theorem goes_pure {a : α} {result : Except Fault α} :
    Goes (pure a) turns result ↔ turns = [] ∧ result = .ok a := Iff.rfl

@[simp] theorem goes_throw {fault : Fault} {result : Except Fault α} :
    Goes (throw fault) turns result ↔ turns = [] ∧ result = .error fault := Iff.rfl

@[simp] theorem goes_mk_pure {r result : Except Fault α} :
    Goes (ExceptT.mk (pure r)) turns result ↔ turns = [] ∧ result = r := Iff.rfl

@[simp] theorem goes_ask {r : Request} {result : Except Fault r.Reply} :
    Goes (ask r) turns result ↔ turns = [⟨r, result⟩] := by
  constructor
  · rintro ⟨reply, _, rfl, rfl, rfl⟩
    rfl
  · rintro rfl
    exact ⟨result, [], rfl, rfl, rfl⟩

@[simp] theorem goes_attempt {r : Request} {result : Except Fault (Except Fault r.Reply)} :
    Goes (attempt r) turns result ↔ ∃ reply, turns = [⟨r, reply⟩] ∧ result = .ok reply := by
  constructor
  · rintro ⟨reply, _, rfl, rfl, rfl⟩
    exact ⟨reply, rfl, rfl⟩
  · rintro ⟨reply, rfl, rfl⟩
    exact ⟨reply, [], rfl, rfl, rfl⟩

/-- A talk in two parts ends with the first if that fails, and goes on with the second otherwise. -/
theorem goes_bind {talk : Talk α} {f : α → Talk β} {result : Except Fault β} :
    Goes (talk >>= f) turns result ↔
      (∃ fault, result = .error fault ∧ Goes talk turns (.error fault)) ∨
        ∃ a first rest,
          turns = first ++ rest ∧ Goes talk first (.ok a) ∧ Goes (f a) rest result := by
  refine (Dialogue.goes_bind talk.run (ExceptT.bindCont f) turns result).trans ?_
  constructor
  · rintro ⟨fault | a, first, rest, rfl, hfirst, hrest⟩
    · obtain ⟨rfl, rfl⟩ := hrest
      exact Or.inl ⟨fault, rfl, by rwa [List.append_nil]⟩
    · exact Or.inr ⟨a, first, rest, rfl, hfirst, hrest⟩
  · rintro (⟨fault, rfl, h⟩ | ⟨a, first, rest, rfl, hfirst, hrest⟩)
    · exact ⟨.error fault, turns, [], (List.append_nil turns).symm, h, rfl, rfl⟩
    · exact ⟨.ok a, first, rest, rfl, hfirst, hrest⟩

/-- What is made of a result needs no turn. -/
theorem goes_bind_pure {talk : Talk α} {f : α → β} {result : Except Fault β} :
    Goes (talk >>= fun a => pure (f a)) turns result ↔
      ∃ r, Goes talk turns r ∧ result = r.map f := by
  rw [goes_bind]
  constructor
  · rintro (⟨fault, rfl, h⟩ | ⟨a, first, _, rfl, h, rfl, rfl⟩)
    · exact ⟨.error fault, h, rfl⟩
    · exact ⟨.ok a, by rwa [List.append_nil], rfl⟩
  · rintro ⟨fault | a, h, rfl⟩
    · exact Or.inl ⟨fault, rfl, h⟩
    · exact Or.inr ⟨a, turns, [], (List.append_nil turns).symm, h, rfl, rfl⟩

/-- A talk with a handler ends if it succeeds, and goes on with the handler otherwise. -/
theorem goes_tryCatch {talk : Talk α} {handler : Fault → Talk α} {result : Except Fault α} :
    Goes (tryCatch talk handler) turns result ↔
      (∃ a, result = .ok a ∧ Goes talk turns (.ok a)) ∨
        ∃ fault first rest, turns = first ++ rest ∧ Goes talk first (.error fault) ∧
          Goes (handler fault) rest result := by
  refine (Dialogue.goes_bind talk.run _ turns result).trans ?_
  constructor
  · rintro ⟨fault | a, first, rest, rfl, hfirst, hrest⟩
    · exact Or.inr ⟨fault, first, rest, rfl, hfirst, hrest⟩
    · obtain ⟨rfl, rfl⟩ := hrest
      exact Or.inl ⟨a, rfl, by rwa [List.append_nil]⟩
  · rintro (⟨a, rfl, h⟩ | ⟨fault, first, rest, rfl, hfirst, hrest⟩)
    · exact ⟨.ok a, turns, [], (List.append_nil turns).symm, h, rfl, rfl⟩
    · exact ⟨.error fault, first, rest, rfl, hfirst, hrest⟩

theorem goes_attempt_bind {r : Request} {f : Except Fault r.Reply → Talk β}
    {result : Except Fault β} :
    Goes (attempt r >>= f) turns result ↔
      ∃ reply rest, turns = ⟨r, reply⟩ :: rest ∧ Goes (f reply) rest result := Iff.rfl

theorem goes_ask_bind {r : Request} {f : r.Reply → Talk β} {result : Except Fault β} :
    Goes (ask r >>= f) turns result ↔
      (∃ fault, turns = [⟨r, .error fault⟩] ∧ result = .error fault) ∨
        ∃ a rest, turns = ⟨r, .ok a⟩ :: rest ∧ Goes (f a) rest result := by
  constructor
  · rintro ⟨fault | a, rest, rfl, h⟩
    · obtain ⟨rfl, rfl⟩ := h
      exact Or.inl ⟨fault, rfl, rfl⟩
    · exact Or.inr ⟨a, rest, rfl, h⟩
  · rintro (⟨fault, rfl, rfl⟩ | ⟨a, rest, rfl, h⟩)
    · exact ⟨.error fault, [], rfl, rfl, rfl⟩
    · exact ⟨.ok a, rest, rfl, h⟩

end Talk

end Postroom
