import Postroom.Proofs.Wire.Appending
import Postroom.Proofs.Wire.Streaming

/-! # When a farewell is heard

A server that is about to close a connection may say so at any time, and a client that hears it ends
its call with a fault after which the connection is opened again (`Disconnects`).  But farewells are
data, and a client looks at data only when the command has succeeded, and only for the commands that
bring some (`Order.look`).  While it looks it goes on behind a response that the order asks for or
that a server may send at any time (`Order.Passes`), and stops at the first other one, which is a
farewell or a surprise (`disconnects_collect`).

So a farewell is heard exactly if the completion says that the command has succeeded, the order
is one that looks, and the farewell is the first response at which it stops
(`farewell_heard_iff`).  Refused commands, and commands of which nothing but success is of
interest, pass over every farewell.
-/

namespace Postroom.Wire

open Text

/-! ### Faults that end a connection -/

section

variable {α β : Type}

/-- A result that says that the connection cannot be used any more. -/
def Disconnects (outcome : Except Fault α) : Prop :=
  ∃ fault, outcome = .error fault ∧ fault.isDisconnect = true

@[simp] theorem disconnects_ok (a : α) : ¬ Disconnects (.ok a : Except Fault α) := by
  rintro ⟨fault, h, -⟩
  cases h

@[simp] theorem disconnects_error {fault : Fault} :
    Disconnects (.error fault : Except Fault α) ↔ fault.isDisconnect = true := by
  simp [Disconnects]

@[simp] theorem disconnects_map {outcome : Except Fault α} (f : α → β) :
    Disconnects (outcome.map f) ↔ Disconnects outcome := by
  cases outcome <;> simp [Except.map]

end

/-- The fault of a refusal is no end of the connection. -/
@[simp] theorem isDisconnect_ofNo (text : String) (tryCreate : Bool) :
    (Fault.ofNo text tryCreate).isDisconnect = false := by
  unfold Fault.ofNo
  split <;> rfl

/-- No completion means that the connection has ended, whatever it says. -/
theorem not_disconnects_judge (expected : String) (untagged : List UInt8) (tag : String)
    (status : Status) (remark : Remark) :
    ¬ Disconnects (Client.judge expected untagged tag status remark) := by
  by_cases htag : tag = expected
  · subst htag
    cases status with
    | ok =>
      simp only [Client.judge, ne_eq, not_true_eq_false, if_false]
      split <;> simp
    | no => simp [Client.judge]
    | bad | preauth | bye => simp [Client.judge, Fault.isDisconnect]
  · simp [Client.judge, htag, Fault.isDisconnect]

/-! ### Looking at data -/

/-- A farewell is among responses, and nothing that stops the reading comes before it. -/
def Reaches (passes : Response → Prop) (rs : List Response) : Prop :=
  ∃ before farewell after, rs = before ++ .status .bye farewell :: after ∧ ∀ r ∈ before, passes r

section

variable {σ : Type} {step : σ → Response → Option σ} {passes : Response → Prop}

@[simp] theorem not_reaches_nil : ¬ Reaches passes [] := by
  rintro ⟨before, farewell, after, h, -⟩
  exact List.append_ne_nil_of_right_ne_nil before (List.cons_ne_nil _ after) h.symm

theorem reaches_cons {r : Response} {rs : List Response} :
    Reaches passes (r :: rs) ↔
      (∃ farewell, r = .status .bye farewell) ∨ passes r ∧ Reaches passes rs := by
  constructor
  · rintro ⟨before, farewell, after, h, hbefore⟩
    cases before with
    | nil => exact .inl ⟨farewell, (List.cons.inj h).1⟩
    | cons first before =>
      obtain ⟨rfl, rfl⟩ := List.cons.inj h
      obtain ⟨hfirst, hbefore⟩ := List.forall_mem_cons.mp hbefore
      exact .inr ⟨hfirst, before, farewell, after, rfl, hbefore⟩
  · rintro (⟨farewell, rfl⟩ | ⟨hr, before, farewell, after, rfl, hbefore⟩)
    · exact ⟨[], farewell, rs, rfl, by simp⟩
    · exact ⟨r :: before, farewell, after, rfl, List.forall_mem_cons.mpr ⟨hr, hbefore⟩⟩

/-- Of the responses that no command may pass over the farewell alone ends the connection. -/
theorem isDisconnect_of_unasked {r : Response} {fault : Fault} (h : unasked r = .error fault) :
    fault.isDisconnect = true ↔ ∃ farewell, r = .status .bye farewell := by
  cases r with
  | status s remark =>
    cases s <;> cases h
    simp [Fault.isDisconnect]
  | _ => cases h <;> simp [Fault.isDisconnect]

/-- Looking through responses ends with a farewell exactly if one is reached.  By induction on the
responses. -/
theorem disconnects_collect (hpasses : ∀ s r, passes r ↔ (step s r).isSome ∨ unasked r = .ok ())
    (hfarewell : ∀ s remark, step s (.status .bye remark) = none) (s : σ) (rs : List Response) :
    Disconnects (collect step s rs) ↔ Reaches passes rs := by
  induction rs generalizing s with
  | nil => simp [collect]
  | cons r rs ih =>
    rw [reaches_cons, collect]
    cases hstep : step s r with
    | some s' =>
      have hr : passes r := (hpasses s r).mpr (.inl (by simp [hstep]))
      have hnot : ¬ ∃ farewell, r = .status .bye farewell := by
        rintro ⟨farewell, rfl⟩
        rw [hfarewell] at hstep
        cases hstep
      simp only [ih, hr, hnot, true_and, false_or]
    | none =>
      cases hunasked : unasked r with
      | ok =>
        have hr : passes r := (hpasses s r).mpr (.inr hunasked)
        have hnot : ¬ ∃ farewell, r = .status .bye farewell := by
          rintro ⟨farewell, rfl⟩
          cases hunasked
        simp only [Except.bind, ih, hr, hnot, true_and, false_or]
      | error fault =>
        have hr : ¬ passes r := by simp [hpasses s r, hstep, hunasked]
        simp only [Except.bind, disconnects_error, isDisconnect_of_unasked hunasked, hr, false_and,
          or_false]

theorem disconnects_collectFrom {data : List (List UInt8)} {rs : List Response}
    (hdata : List.Forall₂ IsWhole data rs)
    (hpasses : ∀ s r, passes r ↔ (step s r).isSome ∨ unasked r = .ok ())
    (hfarewell : ∀ s remark, step s (.status .bye remark) = none) (s : σ) :
    Disconnects (collectFrom step s data.flatten) ↔ Reaches passes rs := by
  rw [← disconnects_collect hpasses hfarewell s rs, collectFrom, responses_of_forall₂ hdata]
  simp only [List.isEmpty_nil, if_true]
  cases collect step s rs <;> rfl

end

namespace Order

/-- Whether an order looks at the data before its completion. -/
def isAttentive : Order → Bool
  | .select _ | .examine _ | .list .. | .search _ | .fetch .. | .store .. | .move .. => true
  | _ => false

/-- What comes of looking at the data; most orders do not look. -/
def look : Order → List UInt8 → Except Fault Unit
  | .select _, data | .examine _, data => (opened data).map fun _ => ()
  | .list .., data => (listings data).map fun _ => ()
  | .search _, data => (searched data).map fun _ => ()
  | .fetch .., data | .store .., data => (fetches data).map fun _ => ()
  | .move .., data => (copied data).map fun _ => ()
  | _, _ => .ok ()

/-- An order goes on behind a response that a server may send at any time, and behind what it asks
for. -/
def Passes (o : Order) (r : Response) : Prop :=
  unasked r = .ok () ∨
    match o, r with
    | .list .., .listing .. | .search _, .found _ => True
    | _, _ => False

section

variable {α : Type} {item : Response → Option α} {data : List (List UInt8)} {rs : List Response}

theorem disconnects_items {passes : Response → Prop} (hdata : List.Forall₂ IsWhole data rs)
    (hpasses : ∀ r, passes r ↔ (item r).isSome ∨ unasked r = .ok ())
    (hfarewell : ∀ remark, item (.status .bye remark) = none) :
    Disconnects (items item data.flatten) ↔ Reaches passes rs :=
  disconnects_collectFrom hdata (fun found r => by simp [hpasses])
    (fun found remark => by simp [hfarewell]) []

end

/-- An order that looks at data finds a farewell exactly if it reaches one. -/
theorem disconnects_look (o : Order) {data : List (List UInt8)} {rs : List Response}
    (hdata : List.Forall₂ IsWhole data rs) :
    Disconnects (o.look data.flatten) ↔ o.isAttentive = true ∧ Reaches o.Passes rs := by
  cases o with
  | select | examine =>
    simp only [look, disconnects_map, isAttentive, true_and]
    refine disconnects_collectFrom hdata (fun m r => ?_) (fun _ _ => rfl) _
    cases r with
    | status s remark =>
      obtain ⟨code, text⟩ := remark
      cases s <;> cases code <;> simp [Passes, addStatus?, unasked]
    | _ => simp [Passes, addStatus?, unasked]
  | list | search | fetch | store =>
    simp only [look, disconnects_map, isAttentive, true_and, searched]
    refine disconnects_items hdata (fun r => ?_) (fun _ => rfl)
    cases r with
    | status s remark => cases s <;> simp [Passes, listed?, found?, fetched?, unasked]
    | _ => simp [Passes, listed?, found?, fetched?, unasked]
  | move =>
    simp only [look, disconnects_map, isAttentive, true_and, copied]
    refine disconnects_items hdata (fun r => ?_) (fun _ => rfl)
    cases r with
    | status s remark =>
      obtain ⟨code, text⟩ := remark
      cases s with
      | ok => cases code with
        | none => simp [Passes, copied?, unasked]
        | some code => cases code <;> simp [Passes, copied?, unasked]
      | _ => simp [Passes, copied?, unasked]
    | _ => simp [Passes, copied?, unasked]
  | _ => simp [look, isAttentive]

/-- A request is invited to send what its order is invited to send. -/
theorem content_of_ofRequest {r : Request} {o : Order} (h : ofRequest r = .ok (some o)) :
    o.content = (Call.request r).content := by
  cases r with
  | select | examine | create | delete | list | search | copy | move | expunge | append | logout =>
    cases h
    rfl
  | fetch | expungeUids =>
    simp only [ofRequest] at h
    split at h <;> cases h
    rfl
  | store =>
    simp only [ofRequest] at h
    split at h
    · cases h
    · obtain ⟨marks, hmarks, h⟩ := bind_eq_ok_iff.mp h
      cases h
      rfl

end Order

/-! ### The course of an order -/

namespace Client

open Postroom.Wire.Action

variable {c : Client} {o : Order} {text : String}

section

variable {α β γ : Type}

/-- What is done with the result of an action decides only where the action has succeeded. -/
theorem disconnects_bind {action : Action α} {f : α → Action β} {g : α → Except Fault γ}
    (h : ∀ a c, Disconnects (exec (f a) c).1 ↔ Disconnects (g a)) (c : Client) :
    Disconnects (exec (action >>= f) c).1 ↔ Disconnects ((exec action c).1 >>= g) := by
  rw [exec_bind]
  rcases exec action c with ⟨fault | a, c'⟩
  · simp [bind, Except.bind]
  · exact h a c'

/-- What is made of a value that has been found ends no connection. -/
theorem disconnects_liftM {r : Except Fault α} {f : α → Action β}
    (hf : ∀ a c, ¬ Disconnects (exec (f a) c).1) (c : Client) :
    Disconnects (exec (liftM r >>= f) c).1 ↔ Disconnects r := by
  rw [exec_bind, exec_liftM]
  cases r with
  | error fault => simp
  | ok a => simp [hf a c]

/-- What is found in the result of an action matters only for whether it is found. -/
theorem disconnects_bind_liftM {action : Action α} {find : α → Except Fault β}
    {f : α → β → Action γ} (hf : ∀ a b c, ¬ Disconnects (exec (f a b) c).1) (c : Client) :
    Disconnects (exec (action >>= fun a => liftM (find a) >>= f a) c).1 ↔
      Disconnects ((exec action c).1 >>= fun a => (find a).map fun _ => ()) :=
  disconnects_bind (fun a c => (disconnects_liftM (hf a) c).trans (disconnects_map _).symm) c

end

/-- An order without a content comes to what looking at its data comes to. -/
theorem disconnects_action (hcontent : o.content = none) (htext : o.command = .ok text)
    (c : Client) :
    Disconnects (exec o.action c).1 ↔
      Disconnects ((exec (run text) c).1 >>= fun completed => o.look completed.untagged) := by
  cases o with
  | login user password =>
    obtain ⟨quotedUser, huser, htext⟩ := bind_eq_ok_iff.mp htext
    obtain ⟨quotedPassword, hpassword, htext⟩ := bind_eq_ok_iff.mp htext
    cases htext
    simp only [Order.action, login, huser, hpassword]
    rw [exec_bind, exec_liftM]
    simp only
    rw [exec_bind, exec_liftM]
    simp only
    rw [exec_tryCatch, runQuietly, exec_bind]
    -- Another name for a refusal does not make it the end of the connection.
    rcases exec (run _) c with ⟨fault | completed, c'⟩
    · cases fault <;> simp [bind, Except.bind, Fault.isDisconnect]
    · simp [bind, Except.bind, Order.look]
  | select mailbox | examine mailbox | move set mailbox =>
    obtain ⟨name, hname, htext⟩ := bind_eq_ok_iff.mp htext
    cases htext
    simp only [Order.action, select, examine, move, hname, bind_assoc]
    rw [exec_bind, exec_liftM]
    exact disconnects_bind_liftM (fun _ _ _ => by simp) c
  | create mailbox | delete mailbox | copy set mailbox =>
    obtain ⟨name, hname, htext⟩ := bind_eq_ok_iff.mp htext
    cases htext
    simp only [Order.action, create, delete, copy, hname, bind_assoc]
    rw [exec_bind, exec_liftM]
    exact disconnects_bind (fun completed c => by simp [Order.look]) c
  | list reference pattern =>
    obtain ⟨quotedReference, hreference, htext⟩ := bind_eq_ok_iff.mp htext
    obtain ⟨quotedPattern, hpattern, htext⟩ := bind_eq_ok_iff.mp htext
    cases htext
    simp only [Order.action, list, hreference, hpattern, bind_assoc]
    rw [exec_bind, exec_liftM]
    simp only
    rw [exec_bind, exec_liftM]
    exact disconnects_bind_liftM (fun _ _ _ => by simp) c
  | search | fetch | store =>
    cases htext
    simp only [Order.action, search, fetch, store, bind_assoc]
    exact disconnects_bind_liftM (fun _ _ _ => by simp) c
  | expunge | expungeSet | logout =>
    cases htext
    exact disconnects_bind (fun completed c => by simp [Order.look]) c
  | append => cases hcontent

section

variable {data : List (List UInt8)} {completion rest : List UInt8} {status : Status}
    {remark : Remark}
  (hopen : c.blocked = none)
  (hdata : ∀ bs ∈ data, ∃ r, IsWhole bs r ∧ r.isCompletion = false)
  (hcompletion : IsWhole completion (.completion ("a" ++ (c.tag + 1).repr) status remark))
  (hincoming : c.incoming = linesOf (data.flatten ++ completion ++ rest))

include hopen hdata hcompletion hincoming

/-- What a command brings is judged by its completion. -/
theorem exec_run_judged (text : String) :
    (exec (run text) c).1 = judge ("a" ++ (c.tag + 1).repr) data.flatten ("a" ++ (c.tag + 1).repr)
      status remark := by
  obtain ⟨exchanges, hexec⟩ :=
    exec_readCompletion_of_whole (c := c.issued text) hdata hcompletion hincoming
  rw [run, exec_bind, exec_send_of_open hopen]
  simp only [hexec, issued_tag]

/-- A content that is not asked for in the first line is not sent, and no farewell is heard. -/
theorem not_disconnects_of_uninvited (hinvited : c.isInvited = false) (text : String)
    (bs : List UInt8) : ¬ Disconnects (exec (sendContent text bs) c).1 := by
  obtain ⟨exchanges, hexec⟩ :=
    exec_readCompletion_of_whole (c := c.issued text) hdata hcompletion hincoming
  have hnot : ¬ (c.issued text).isInvited = true := Bool.eq_false_iff.mp hinvited
  have hjudge := not_disconnects_judge ("a" ++ (c.issued text).tag.repr) data.flatten
    ("a" ++ (c.issued text).tag.repr) status remark
  rw [sendContent, exec_bind, exec_send_of_open hopen]
  simp only [exec_bind, exec_get]
  rw [if_neg hnot, exec_bind, hexec]
  revert hjudge
  cases judge ("a" ++ (c.issued text).tag.repr) data.flatten ("a" ++ (c.issued text).tag.repr)
      status remark with
  | error fault => simp
  | ok completed => simp [Fault.isDisconnect]

end

/-- Data are looked at when the completion says that the command has succeeded. -/
theorem disconnects_judge_bind {tag : String} {untagged : List UInt8} {status : Status}
    {remark : Remark} (look : List UInt8 → Except Fault Unit) :
    Disconnects
      (judge tag untagged tag status remark >>= fun completed => look completed.untagged) ↔
      status = .ok ∧ Disconnects (look untagged) := by
  cases status with
  | ok =>
    simp only [judge, ne_eq, not_true_eq_false, if_false, true_and]
    split <;> exact Iff.rfl
  | no => simp [judge, bind, Except.bind]
  | bad | preauth | bye => simp [judge, bind, Except.bind, Fault.isDisconnect]

/-- What a request does is what the order does that it gives. -/
theorem exec_request {r : Request} (h : Order.ofRequest r = .ok (some o)) (c : Client) :
    exec (Call.request r).action c = exec o.action c := by
  cases r with
  | select | examine | list | search | copy | move =>
    cases h
    rfl
  | create | delete | expunge | logout | append =>
    cases h
    exact exec_discard c _
  | fetch uids items =>
    simp only [Order.ofRequest] at h
    split at h
    · cases h
    · next hsome =>
      cases h
      simp only [Call.action, answer, if_neg hsome]
      rfl
  | store uids mode flags =>
    simp only [Order.ofRequest] at h
    split at h
    · cases h
    · next hsome =>
      obtain ⟨marks, hmarks, h⟩ := bind_eq_ok_iff.mp h
      cases h
      simp only [Call.action, answer, if_neg hsome, hmarks]
      exact exec_discard c _
  | expungeUids uids =>
    simp only [Order.ofRequest] at h
    split at h
    · cases h
    · next hsome =>
      cases h
      simp only [Call.action, answer, if_neg hsome]
      exact exec_discard c _

end Client

/-! ### Calls -/

namespace Call

/-- The order that a call gives, if it gives one. -/
def order? : Call → Option Order
  | .order o => some o
  | .request r =>
    match Order.ofRequest r with
    | .ok given => given
    | .error _ => none

/-- What a call does, what it sends and what it sends on invitation are those of its order. -/
theorem order?_spec {call : Call} {o : Order} {text : String} (horder : call.order? = some o)
    (htext : call.command = .ok (some text)) :
    o.command = .ok text ∧ o.content = call.content ∧
      ∀ c, Action.exec call.action c = Action.exec o.action c := by
  cases call with
  | order given =>
    cases horder
    obtain ⟨sent, hsent, h⟩ := bind_eq_ok_iff.mp htext
    cases h
    exact ⟨hsent, rfl, fun _ => rfl⟩
  | request r =>
    obtain ⟨given, hgiven, hcommand⟩ := command_request_eq htext
    simp only [order?, hgiven, Option.some.injEq] at horder
    subst horder
    exact ⟨hcommand, Order.content_of_ofRequest hgiven, Client.exec_request hgiven⟩

/-- What a server says during a call, before the completion, and the responses in it that belong to
no command.  A call with a content may be invited to send it.  An invitation in the first line can
say anything; behind data it has to be a response. -/
inductive Answered (call : Call) : List UInt8 → List Response → Prop
  | data {data : List (List UInt8)} {rs : List Response} (hdata : List.Forall₂ IsWhole data rs)
      (huntagged : ∀ r ∈ rs, r.isUntagged = true) : Answered call data.flatten rs
  | invited {early late : List (List UInt8)} {rs rs' : List Response} {prompt : List UInt8}
      (hcontent : call.content ≠ none) (hearly : List.Forall₂ IsWhole early rs)
      (hprompt : 10 ∉ prompt)
      (hread : early ≠ [] → ∃ remark, IsWhole (43 :: prompt ++ [10]) (.continue_ remark))
      (hlate : List.Forall₂ IsWhole late rs') (huntagged : ∀ r ∈ rs ++ rs', r.isUntagged = true) :
      Answered call (early.flatten ++ (43 :: prompt ++ [10]) ++ late.flatten) (rs ++ rs')

end Call

/-- Whole responses that belong to no command complete none. -/
theorem whole_of_forall₂ {data : List (List UInt8)} {rs : List Response}
    (hdata : List.Forall₂ IsWhole data rs) (huntagged : ∀ r ∈ rs, r.isUntagged = true) :
    ∀ bs ∈ data, ∃ r, IsWhole bs r ∧ r.isCompletion = false :=
  exists_isWhole_of_forall₂ hdata fun r hr => Response.isCompletion_of_isUntagged (huntagged r hr)

namespace Client

open Postroom.Wire.Action

/-- No farewell is heard while a content is sent, wherever it stands. -/
theorem not_disconnects_sendContent {call : Call} {data : List UInt8} {rs : List Response}
    {completion rest : List UInt8} {status : Status} {remark : Remark} (hopen : c.blocked = none)
    (hanswered : call.Answered data rs)
    (hcompletion : IsWhole completion (.completion ("a" ++ (c.tag + 1).repr) status remark))
    (hincoming : c.incoming = linesOf (data ++ completion ++ rest)) (text : String)
    (bs : List UInt8) : ¬ Disconnects (exec (sendContent text bs) c).1 := by
  -- Neither data nor a completion begin like an invitation.
  have huninvited {data : List (List UInt8)} {rs : List Response} {input : List UInt8}
      (hdata : List.Forall₂ IsWhole data rs) (huntagged : ∀ r ∈ rs, r.isUntagged = true)
      (hincoming : c.incoming = linesOf (data.flatten ++ input))
      (hinput : data = [] → input.head? ≠ some 43) : c.isInvited = false := by
    rw [isInvited_eq hincoming, decide_eq_false_iff_not]
    cases hdata with
    | nil => exact hinput rfl
    | @cons first r others rs hwhole _ =>
      rw [head?_flatten_append ⟨r, hwhole⟩]
      refine hwhole.head?_ne ?_
      rintro remark rfl
      cases huntagged _ List.mem_cons_self
  cases hanswered with
  | @data data rs hdata huntagged =>
    have hreading : c.incoming = linesOf (data.flatten ++ (completion ++ rest)) := by
      rw [hincoming, List.append_assoc]
    refine not_disconnects_of_uninvited hopen
      (whole_of_forall₂ hdata huntagged) hcompletion hincoming
      (huninvited hdata huntagged hreading fun _ => ?_) text bs
    obtain ⟨b, line, hcons⟩ := List.exists_cons_of_ne_nil hcompletion.ne_nil
    have hhead := hcompletion.head?_ne fun remark h => nomatch h
    rw [hcons] at hhead ⊢
    exact hhead
  | @invited early late rs rs' prompt hcontent hearly hprompt hread hlate huntagged =>
    obtain ⟨hrs, hrs'⟩ := List.forall_mem_append.mp huntagged
    have hmore := whole_of_forall₂ hlate hrs'
    by_cases hfirst : early = []
    · subst hfirst
      obtain ⟨exchanges, hexec⟩ := exec_sendContent_judged text bs hopen hprompt hmore hcompletion
        (by simpa using hincoming)
      rw [hexec, disconnects_map]
      exact not_disconnects_judge _ _ _ _ _
    · obtain ⟨remark', hinvitation⟩ := hread hfirst
      have hall : ∀ bs ∈ early ++ (43 :: prompt ++ [10]) :: late,
          ∃ r, IsWhole bs r ∧ r.isCompletion = false := by
        refine List.forall_mem_append.mpr ⟨whole_of_forall₂ hearly hrs, ?_⟩
        exact List.forall_mem_cons.mpr ⟨⟨_, hinvitation, rfl⟩, hmore⟩
      have hreading : c.incoming = linesOf
          ((early ++ (43 :: prompt ++ [10]) :: late).flatten ++ completion ++ rest) := by
        simpa using hincoming
      have hbegins : c.incoming = linesOf
          (early.flatten ++ ((43 :: prompt ++ [10]) ++ late.flatten ++ completion ++ rest)) := by
        simpa using hincoming
      exact not_disconnects_of_uninvited hopen hall hcompletion hreading
        (huninvited hearly hrs hbegins fun h => absurd h hfirst) text bs

/-- **A farewell is heard only by an order that has succeeded and looks at its data.**  Whatever
data a server sends during a call, the call ends with a fault that ends the connection exactly if
the completion says that the command has succeeded, its order looks at the data, and a farewell is
the first of them at which it stops.  A command that is sent without an order never ends so. -/
theorem farewell_heard_iff (c : Client) (hopen : c.blocked = none) {completion : List UInt8}
    {status : Status} {remark : Remark}
    (hcompletion : IsWhole completion (.completion ("a" ++ (c.tag + 1).repr) status remark))
    (rest : List UInt8) :
    let told := fun data => { c with incoming := linesOf (data ++ completion ++ rest) }
    (∀ (call : Call) (o : Order) text data rs, call.order? = some o →
      call.command = .ok (some text) → call.Answered data rs →
        (Disconnects (exec call.action (told data)).1 ↔
          status = .ok ∧ o.isAttentive = true ∧ Reaches o.Passes rs)) ∧
      ∀ text (data : List (List UInt8)),
        (∀ bs ∈ data, ∃ r, IsWhole bs r ∧ r.isCompletion = false) →
          ¬ Disconnects (exec (run text) (told data.flatten)).1 := by
  intro told
  refine ⟨fun call o text data rs horder htext hanswered => ?_, fun text data hdata => ?_⟩
  · obtain ⟨hcommand, hcontent, hexec⟩ := Call.order?_spec horder htext
    cases hsome : call.content with
    | none =>
      cases hanswered with
      | invited hcontent => exact absurd hsome hcontent
      | @data data _ hdata huntagged =>
        rw [hexec, disconnects_action (hcontent.trans hsome) hcommand,
          exec_run_judged (c := told data.flatten) hopen (whole_of_forall₂ hdata huntagged)
            hcompletion rfl,
          disconnects_judge_bind, Order.disconnects_look o hdata]
    | some bs =>
      have hdeaf : o.isAttentive = false := by
        rw [hsome] at hcontent
        cases o <;> first | rfl | cases hcontent
      have hnot :=
        not_disconnects_sendContent (c := told data) hopen hanswered hcompletion rfl text bs
      rw [exec_append hsome htext]
      simp [hnot, hdeaf]
  · rw [exec_run_judged (c := told data.flatten) hopen hdata hcompletion rfl]
    exact not_disconnects_judge _ _ _ _ _

/-- A search hears a farewell that comes behind what was found. -/
theorem farewell_behind_findings_heard :
    let c := ofScript [] none none
    let found := Utf8.bytes "* SEARCH 4 2\r\n"
    let farewell := Utf8.bytes "* BYE shutting down\r\n"
    let completion := Utf8.bytes "a1 OK done\r\n"
    let call := Call.request (.search ⟨[], [.seen]⟩)
    Disconnects (exec call.action
      { c with incoming := linesOf ([found, farewell].flatten ++ completion ++ []) }).1 := by
  intro c found farewell completion call
  have hcompletion : IsWhole completion (.completion ("a" ++ (c.tag + 1).repr) .ok
      ⟨none, some "done"⟩) := by decide +kernel
  have hfound : IsWhole found (.found [4, 2]) := by decide +kernel
  have hfarewell : IsWhole farewell (.status .bye ⟨none, some "shutting down"⟩) := by decide +kernel
  have hanswered : call.Answered [found, farewell].flatten
      [.found [4, 2], .status .bye ⟨none, some "shutting down"⟩] :=
    .data (.cons hfound (.cons hfarewell .nil)) (by decide)
  have hreaches : Reaches (Order.search "UNSEEN").Passes
      [.found [4, 2], .status .bye ⟨none, some "shutting down"⟩] :=
    ⟨[.found [4, 2]], _, [], rfl, by simp [Order.Passes]⟩
  exact ((farewell_heard_iff c rfl hcompletion []).1 call (.search "UNSEEN") "UID SEARCH UNSEEN" _ _
    rfl rfl hanswered).mpr ⟨rfl, rfl, hreaches⟩

/-- **A farewell is passed over** by a command of which nothing but success is of interest, and by a
search that is refused: the call succeeds, or fails as if the connection could still be used. -/
theorem farewell_passed_over :
    let farewell := Utf8.bytes "* BYE shutting down\r\n"
    let success := Utf8.bytes "a1 OK done\r\n"
    let refusal := Utf8.bytes "a1 NO later\r\n"
    IsWhole farewell (.status .bye ⟨none, some "shutting down"⟩) ∧
      IsWhole success (.completion "a1" .ok ⟨none, some "done"⟩) ∧
      IsWhole refusal (.completion "a1" .no ⟨none, some "later"⟩) ∧
      (exec (Call.request (.create "Work")).action
        (ofScript (farewell ++ success) none none)).1 = .ok () ∧
      (exec (Call.request (.search ⟨[], []⟩)).action
        (ofScript (farewell ++ refusal) none none)).1 = .error (.no "later") := by
  decide +kernel

end Client

end Postroom.Wire
