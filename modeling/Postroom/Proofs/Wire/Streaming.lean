import Mathlib.Data.List.Forall2
import Postroom.Proofs.Wire.Framing

/-! # Responses in a row

A response that has been read stays the same whatever follows it, and what has been refused is never
accepted.  So bytes that are read as one response are whole (`isWhole_of_accepted`), and in a row of
them each is read as if it stood alone (`responses_of_forall₂`).  What a command collects from the
data before its completion is therefore what it collects from each response (`items_cons`,
`items_append`, `collectFrom_of_forall₂`).
-/

namespace Postroom.Wire

open Postroom.Wire.Action

/-! ### Whole responses -/

/-- Bytes that are read as one response are whole: a front of them that was read as something else,
or refused, would still be with the rest behind it. -/
theorem isWhole_of_accepted {bs : List UInt8} {r : Response} (h : response bs = .done r []) :
    IsWhole bs r where
  accepted := h
  held {front} hfront hne _ := by
    obtain ⟨more, rfl⟩ := hfront
    cases hread : response front with
    | more => rfl
    | done r' rest =>
      have hall := TakesFront.done_append more hread
      rw [h] at hall
      simp_all
    | fail =>
      have hall := TakesFront.fail_append more hread
      rw [h] at hall
      cases hall

/-- Behind a whole response the reading goes on as from the start. -/
theorem responses_append {bs : List UInt8} {r : Response} (h : IsWhole bs r) (more : List UInt8) :
    responses (bs ++ more) = (r :: (responses more).1, (responses more).2) := by
  have hread : response (bs ++ more) = .done r more := by
    simpa using TakesFront.done_append more h.accepted
  have hshorter : more.length < (bs ++ more).length := by
    have := List.length_pos_iff.mpr h.ne_nil
    rw [List.length_append]
    omega
  rw [responses, hread]
  simp only [if_pos hshorter]

/-- Whole responses in a row of bytes are read one by one. -/
theorem responses_of_forall₂ {data : List (List UInt8)} {rs : List Response}
    (h : List.Forall₂ IsWhole data rs) : responses data.flatten = (rs, []) := by
  induction h with
  | nil =>
    rw [List.flatten_nil, responses]
    rfl
  | cons hwhole _ ih => rw [List.flatten_cons, responses_append hwhole, ih]

theorem exists_isWhole_of_forall₂ {data : List (List UInt8)} {rs : List Response}
    (hdata : List.Forall₂ IsWhole data rs) (hrs : ∀ r ∈ rs, r.isCompletion = false) :
    ∀ bs ∈ data, ∃ r, IsWhole bs r ∧ r.isCompletion = false := by
  induction hdata with
  | nil => simp
  | @cons bs r data rs hwhole _ ih =>
    obtain ⟨hr, hrs⟩ := List.forall_mem_cons.mp hrs
    exact List.forall_mem_cons.mpr ⟨⟨r, hwhole, hr⟩, ih hrs⟩

namespace Response

/-- Whether a server may send a response at any time while the session goes on. -/
def isAside : Response → Bool
  | .messages _ | .recent _ | .flags _ | .mailboxStatus _ | .removed _ | .fetched ..
  | .capabilities _ => true
  | .status s _ => s != .bye
  | _ => false

variable {r : Response}

theorem isCompletion_of_isAside (h : r.isAside = true) : r.isCompletion = false := by
  cases r <;> first | rfl | cases h

/-- What may be sent at any time is passed over. -/
theorem unasked_of_isAside (h : r.isAside = true) : unasked r = .ok () := by
  cases r with
  | status s remark => cases s <;> first | rfl | cases h
  | _ => first | rfl | cases h

end Response

/-! ### What is collected -/

theorem collectFrom_of_forall₂ {σ : Type} {step : σ → Response → Option σ} {start s : σ}
    {data : List (List UInt8)} {rs : List Response} (hdata : List.Forall₂ IsWhole data rs)
    (h : collect step start rs = .ok s) : collectFrom step start data.flatten = .ok s := by
  rw [collectFrom, responses_of_forall₂ hdata]
  simp only [h, Except.bind, List.isEmpty_nil, if_true]

section

variable {α : Type} {item : Response → Option α}

/-- From responses that are items or may be passed over all the items are collected. -/
theorem collect_eq_filterMap {rs : List Response}
    (hrs : ∀ r ∈ rs, item r = none → unasked r = .ok ()) (start : List α) :
    collect (fun found r => (item r).map fun a => found ++ [a]) start rs =
      .ok (start ++ rs.filterMap item) := by
  induction rs generalizing start with
  | nil => simp [collect]
  | cons r rs ih =>
    obtain ⟨hr, hrs⟩ := List.forall_mem_cons.mp hrs
    cases hitem : item r with
    | some a => simp [collect, hitem, ih hrs]
    | none => simp [collect, hitem, hr hitem, ih hrs, Except.bind]

theorem collect_append (found : List α) (rs : List Response) :
    collect (fun found r => (item r).map fun a => found ++ [a]) found rs =
      (collect (fun found r => (item r).map fun a => found ++ [a]) [] rs).map (found ++ ·) := by
  -- Each item adds to what has been found, so the induction is over any of that.
  induction rs generalizing found with
  | nil => simp [collect, Except.map]
  | cons r rs ih =>
    cases hitem : item r with
    | some a =>
      simp only [collect, hitem, Option.map_some, List.nil_append]
      rw [ih (found ++ [a]), ih [a]]
      cases collect _ [] rs <;> simp [Except.map]
    | none =>
      simp only [collect, hitem, Option.map_none]
      cases unasked r with
      | error fault => rfl
      | ok => exact ih found

theorem items_nil : items item [] = .ok [] := by
  have hresponses : responses [] = ([], []) := by
    rw [responses]
    rfl
  simp [items, collectFrom, hresponses, collect, Except.bind]

/-- A response in front of others gives its item first, if it is one. -/
theorem items_cons {bs : List UInt8} {r : Response} (h : IsWhole bs r) (more : List UInt8) :
    items item (bs ++ more) =
      match item r with
      | some a => (items item more).map (a :: ·)
      | none => (unasked r).bind fun _ => items item more := by
  unfold items collectFrom
  rw [responses_append h more]
  cases hitem : item r with
  | some a =>
    simp only [collect, hitem, Option.map_some, List.nil_append]
    rw [collect_append [a]]
    cases collect _ [] (responses more).1 with
    | error fault => rfl
    | ok found =>
      simp only [Except.map, Except.bind, List.singleton_append]
      split <;> rfl
  | none =>
    simp only [collect, hitem, Option.map_none]
    cases unasked r <;> rfl

/-- What is collected from a row of responses comes before what follows them.  By induction on the
row. -/
theorem items_append {data : List (List UInt8)} {found : List α}
    (hdata : ∀ bs ∈ data, ∃ r, IsWhole bs r) (hfound : items item data.flatten = .ok found)
    (more : List UInt8) :
      items item (data.flatten ++ more) = (items item more).map (found ++ ·) := by
  induction data generalizing found with
  | nil =>
    rw [List.flatten_nil, items_nil] at hfound
    cases hfound
    rw [List.flatten_nil, List.nil_append]
    cases items item more <;> rfl
  | cons bs data ih =>
    obtain ⟨r, hwhole⟩ := hdata bs List.mem_cons_self
    have hrest : ∀ bs ∈ data, ∃ r, IsWhole bs r :=
      fun bs hbs => hdata bs (List.mem_cons_of_mem _ hbs)
    rw [List.flatten_cons, items_cons hwhole] at hfound
    rw [List.flatten_cons, List.append_assoc, items_cons hwhole]
    cases hitem : item r with
    | some a =>
      simp only [hitem] at hfound ⊢
      cases hlater : items item data.flatten with
      | error fault => simp [hlater, Except.map] at hfound
      | ok later =>
        rw [hlater] at hfound
        cases hfound
        rw [ih hrest hlater]
        cases items item more <;> rfl
    | none =>
      simp only [hitem] at hfound ⊢
      cases hunasked : unasked r with
      | error fault => simp [hunasked, Except.bind] at hfound
      | ok =>
        rw [hunasked] at hfound
        exact ih hrest hfound

end

namespace Client

variable {c : Client}

/-- A command that succeeds brings the responses before its completion and leaves the rest. -/
theorem exec_run_of_ok {data : List (List UInt8)} {completion rest : List UInt8} {remark : Remark}
    (hopen : c.blocked = none)
    (hdata : ∀ bs ∈ data, ∃ r, IsWhole bs r ∧ r.isCompletion = false)
    (hcompletion : IsWhole completion (.completion ("a" ++ (c.tag + 1).repr) .ok remark))
    (hincoming : c.incoming = linesOf (data.flatten ++ completion ++ rest)) (text : String) :
    ∃ copied after, exec (run text) c = (.ok ⟨data.flatten, copied⟩, after) ∧
      after.incoming = linesOf rest := by
  obtain ⟨exchanges, hexec⟩ :=
    exec_readCompletion_of_whole (c := c.issued text) hdata hcompletion hincoming
  -- All that the remark can add is where copies went.
  have hjudge : ∃ copied, judge ("a" ++ (c.tag + 1).repr) data.flatten ("a" ++ (c.tag + 1).repr) .ok
      remark = .ok ⟨data.flatten, copied⟩ := by
    cases hcode : remark.code with
    | none => exact ⟨none, by simp [judge, hcode]⟩
    | some code => cases code <;> exact ⟨_, by simp [judge, hcode]; rfl⟩
  obtain ⟨copied, hjudge⟩ := hjudge
  have hrun : exec (run text) c = exec readCompletion (c.issued text) := by
    rw [run, exec_bind, exec_send_of_open hopen]
  rw [issued_tag, hjudge] at hexec
  exact ⟨copied, _, hrun.trans hexec, rfl⟩

end Client

end Postroom.Wire
