import Postroom.Proofs.Wire.Forgetting
import Postroom.Proofs.Wire.Streaming

/-! # Where copies went

A server may tell the identifiers that copies were given: with the completion of a copy, and with
the data before the completion of a move.  Later changes are made to the message with that
identifier, so it has to be the one of this command and of no other.  The lines that a command
which succeeds has read are its data and its own completion, the first one that was read
(`Concluded`), and the identifier is the one that these tell (`exec_copy_of_ok`,
`exec_move_of_ok`).

A client need not hand the identifier over with the data.  It may keep it on a note of its own,
which is there after the command and perhaps never read (`Noting`).  The note is cleared whenever
a completion is read, so it makes no difference what was on it (`Noting.results_eq`).  Neither
does anything else that is behind a client (`Client.results_eq`).
-/

namespace Postroom.Wire

/-- The first new identifier that a remark tells. -/
def Remark.destination? (remark : Remark) : Option Uid :=
  match remark.code with
  | some (.copyUid _ _ destination) => firstUid? destination
  | _ => none

/-- The first new identifier that success tells which belongs to no command. -/
def Response.destination? : Response → Option Uid
  | .status .ok remark => remark.destination?
  | _ => none

/-! ### What the data tell -/

/-- What is collected from responses is what each of them gives. -/
theorem collect_eq_ok {α : Type} {item : Response → Option α} {start found : List α}
    {rs : List Response}
    (h : collect (fun found r => (item r).map fun a => found ++ [a]) start rs = .ok found) :
    found = start ++ rs.filterMap item := by
  induction rs generalizing start with
  | nil =>
    cases h
    exact (List.append_nil _).symm
  | cons r rs ih =>
    rw [collect] at h
    cases hitem : item r with
    | some a =>
      simp only [hitem, Option.map_some] at h
      rw [ih h, List.filterMap_cons_some hitem, List.append_assoc, List.singleton_append]
    | none =>
      simp only [hitem, Option.map_none] at h
      rw [List.filterMap_cons_none hitem]
      cases hunasked : unasked r with
      | error fault =>
        rw [hunasked] at h
        cases h
      | ok =>
        rw [hunasked] at h
        exact ih h

theorem destination?_eq (r : Response) : r.destination? = (copied? r).bind id := by
  unfold Response.destination? Remark.destination? copied?
  split
  · next remark =>
    obtain ⟨code, text⟩ := remark
    rcases code with _ | code
    · rfl
    · cases code <;> rfl
  · next hother =>
    split
    · exact absurd rfl (hother _)
    · rfl

theorem findSome?_copied? (rs : List Response) :
    (rs.filterMap copied?).findSome? id = rs.findSome? Response.destination? := by
  have hsame : Response.destination? = fun r => (copied? r).bind id := funext destination?_eq
  rw [← List.head?_filterMap, ← List.head?_filterMap, List.filterMap_filterMap, hsame]

/-- Data that can be looked at are a row of responses, and tell the first identifier that one of
them tells. -/
theorem copied_eq_ok {data : List UInt8} {uid : Option Uid} (h : copied data = .ok uid) :
    ∃ rs, responses data = (rs, []) ∧ uid = rs.findSome? Response.destination? := by
  rcases hresponses : responses data with ⟨rs, rest⟩
  simp only [copied, items, collectFrom, hresponses] at h
  cases hcollect : collect (fun found r => (copied? r).map fun a => found ++ [a]) [] rs with
  | error fault =>
    rw [hcollect] at h
    cases h
  | ok found =>
    rw [hcollect] at h
    simp only [Except.bind] at h
    split at h
    · next hrest =>
      cases h
      refine ⟨rs, by rw [List.isEmpty_iff.mp hrest], ?_⟩
      rw [collect_eq_ok hcollect, List.nil_append]
      exact findSome?_copied? rs
    · cases h

namespace Client

open Text Postroom.Wire.Action

/-! ### What a command was concluded by -/

/-- A command was concluded.  The lines that were read are its data and then its completion, which
says that it has succeeded, and no other completion was read. -/
structure Concluded (c : Client) (read : List Line) (data : List UInt8) (remark : Remark)
    (c' : Client) : Prop where
  /-- The lines that were read came next. -/
  incoming : c.incoming = read ++ c'.incoming
  /-- The last bytes of them are the completion, with the tag of the command. -/
  completion : ∃ bytes left, read.flatten = data ++ bytes ∧
    response bytes = .done (.completion ("a" ++ (c.tag + 1).repr) .ok remark) left
  /-- The completion is the first that was heard. -/
  first : ∃ before, heard [] read =
      before ++ [.completion ("a" ++ (c.tag + 1).repr) .ok remark] ∧
    ∀ r ∈ before, r.isCompletion = false

theorem judge_eq_ok {expected tag : String} {untagged : List UInt8} {status : Status}
    {remark : Remark} {completed : Completed}
    (h : judge expected untagged tag status remark = .ok completed) :
    tag = expected ∧ status = .ok ∧ completed = ⟨untagged, remark.destination?⟩ := by
  unfold judge at h
  by_cases htag : tag = expected
  · cases status with
    | ok =>
      refine ⟨htag, rfl, ?_⟩
      rw [if_neg (not_not_intro htag)] at h
      unfold Remark.destination?
      rcases remark with ⟨_ | code, text⟩
      · exact (Except.ok.inj h).symm
      · cases code <;> exact (Except.ok.inj h).symm
    | no | bad | preauth | bye =>
      rw [if_neg (not_not_intro htag)] at h
      cases h
  · rw [if_pos htag] at h
    cases h

/-- What succeeds was read up to its completion.  By induction on the lines. -/
theorem completionIn_eq_ok {expected : String} {ending : Fault} {untagged start : List UInt8}
    {lines later : List Line} {completed : Completed}
    (h : completionIn expected ending untagged start lines = (.ok completed, later)) :
    ∃ read data bytes remark left before, lines = read ++ later ∧
      start ++ read.flatten = data ++ bytes ∧
      response bytes = .done (.completion expected .ok remark) left ∧
      heard start read = before ++ [.completion expected .ok remark] ∧
      (∀ r ∈ before, r.isCompletion = false) ∧
      completed = ⟨untagged ++ data, remark.destination?⟩ := by
  induction lines generalizing untagged start with
  | nil => cases h
  | cons line lines ih =>
    cases hresponse : response (start ++ line) with
    | done r left =>
      rw [completionIn_of_done hresponse] at h
      cases hr : r.isCompletion with
      | true =>
        cases r with
        | completion tag status remark =>
          obtain ⟨hjudge, rfl⟩ := Prod.mk.inj h
          obtain ⟨rfl, rfl, rfl⟩ := judge_eq_ok hjudge
          exact ⟨[line], [], start ++ line, remark, left, [], rfl, by simp, hresponse,
            by simp [heard, hresponse], by simp, by simp⟩
        | _ => cases hr
      | false =>
        rw [resume_of_data hr] at h
        obtain ⟨read, data, bytes, remark, left', before, hlines, hbytes, hread, hheard, hbefore,
          hcompleted⟩ := ih h
        refine ⟨line :: read, start ++ line ++ data, bytes, remark, left', r :: before,
          congrArg (line :: ·) hlines, ?_, hread, ?_, List.forall_mem_cons.mpr ⟨hr, hbefore⟩, ?_⟩
        · rw [List.nil_append] at hbytes
          rw [List.flatten_cons, hbytes, List.append_assoc, List.append_assoc]
        · simp [heard, hresponse, hheard]
        · rw [hcompleted, List.append_assoc]
    | more =>
      rw [completionIn, hresponse] at h
      obtain ⟨read, data, bytes, remark, left, before, hlines, hbytes, hread, hheard, hbefore,
        hcompleted⟩ := ih h
      refine ⟨line :: read, data, bytes, remark, left, before, congrArg (line :: ·) hlines, ?_,
        hread, ?_, hbefore, hcompleted⟩
      · rw [List.flatten_cons, ← List.append_assoc, hbytes]
      · simp [heard, hresponse, hheard]
    | fail =>
      rw [completionIn, hresponse] at h
      cases h

/-- A command that succeeds was concluded, and brings its data and what its completion tells. -/
theorem exec_run_concluded {text : String} {c c' : Client} {completed : Completed}
    (h : exec (run text) c = (.ok completed, c')) :
    ∃ read data remark, Concluded c read data remark c' ∧
      completed = ⟨data, remark.destination?⟩ := by
  rw [run, exec_bind] at h
  cases hblocked : c.blocked with
  | some failure =>
    rw [exec_send_of_blocked hblocked] at h
    cases h
  | none =>
    rw [exec_send_of_open hblocked] at h
    obtain ⟨read, hlines, -⟩ := completionIn_attributed ("a" ++ (c.issued text).tag.repr)
      (c.issued text).ending [] [] (c.issued text).incoming
    simp only [exec_readCompletion hlines rfl] at h
    obtain ⟨houtcome, rfl⟩ := Prod.mk.inj h
    obtain ⟨read', data, bytes, remark, left, before, hincoming, hbytes, hread, hheard, hbefore,
      rfl⟩ := completionIn_eq_ok (Prod.ext houtcome rfl)
    exact ⟨read', data, remark,
      ⟨hincoming, ⟨bytes, left, by simpa using hbytes, hread⟩, ⟨before, hheard, hbefore⟩⟩,
      by rw [List.nil_append]⟩

theorem exec_copy_of_ok {set mailbox : String} {c c' : Client} {uid : Option Uid}
    (h : exec (copy set mailbox) c = (.ok uid, c')) :
    ∃ read data remark, Concluded c read data remark c' ∧ uid = remark.destination? := by
  rw [copy, exec_bind, exec_liftM] at h
  cases hname : quotedMailbox mailbox with
  | error fault =>
    rw [hname] at h
    cases h
  | ok name =>
    simp only [hname, exec_bind] at h
    rcases hrun : exec (run ("UID COPY " ++ set ++ " " ++ name)) c with ⟨_ | completed, c''⟩
    · rw [hrun] at h
      cases h
    · rw [hrun] at h
      cases h
      obtain ⟨read, data, remark, hconcluded, rfl⟩ := exec_run_concluded hrun
      exact ⟨read, data, remark, hconcluded, rfl⟩

theorem exec_move_of_ok {set mailbox : String} {c c' : Client} {uid : Option Uid}
    (h : exec (move set mailbox) c = (.ok uid, c')) :
    ∃ read data remark rs, Concluded c read data remark c' ∧ responses data = (rs, []) ∧
      uid = (rs.findSome? Response.destination?).or remark.destination? := by
  rw [move, exec_bind, exec_liftM] at h
  cases hname : quotedMailbox mailbox with
  | error fault =>
    rw [hname] at h
    cases h
  | ok name =>
    simp only [hname, exec_bind] at h
    rcases hrun : exec (run ("UID MOVE " ++ set ++ " " ++ name)) c with ⟨_ | completed, c''⟩
    · rw [hrun] at h
      cases h
    · obtain ⟨read, data, remark, hconcluded, rfl⟩ := exec_run_concluded hrun
      simp only [hrun, exec_liftM] at h
      cases hcopied : copied data with
      | error fault =>
        rw [hcopied] at h
        cases h
      | ok early =>
        rw [hcopied] at h
        cases h
        obtain ⟨rs, hresponses, rfl⟩ := copied_eq_ok hcopied
        exact ⟨read, data, remark, rs, hconcluded, hresponses, rfl⟩

end Client

/-! ### A note that outlives the command -/

/-- A client that keeps the identifier it was told last on a note. -/
structure Noting where
  /-- The client. -/
  client : Client
  /-- What is on the note. -/
  note : Option Uid

namespace Noting

open Text Postroom.Wire.Action

/-- Clears the note and reads up to the completion of the last command, from which the identifier
goes on the note. -/
def readCompletion (k : Noting) : Except Fault (List UInt8) × Noting :=
  match exec Client.readCompletion k.client with
  | (.ok completed, c) => (.ok completed.untagged, ⟨c, completed.copied⟩)
  | (.error fault, c) => (.error fault, ⟨c, none⟩)

/-- Sends a command and reads up to its completion. -/
def run (command : String) (k : Noting) : Except Fault (List UInt8) × Noting :=
  match exec (Client.send command) k.client with
  | (.ok (), c) => readCompletion { k with client := c }
  | (.error fault, c) => (.error fault, { k with client := c })

/-- Copies a set of messages, and takes the note. -/
def copy (set mailbox : String) (k : Noting) : Except Fault (Option Uid) × Noting :=
  match quotedMailbox mailbox with
  | .error fault => (.error fault, k)
  | .ok name =>
    match run ("UID COPY " ++ set ++ " " ++ name) k with
    | (.error fault, k) => (.error fault, k)
    | (.ok _, k) => (.ok k.note, { k with note := none })

/-- Moves a set of messages, and takes the note unless the data tell where they went. -/
def move (set mailbox : String) (k : Noting) : Except Fault (Option Uid) × Noting :=
  match quotedMailbox mailbox with
  | .error fault => (.error fault, k)
  | .ok name =>
    match run ("UID MOVE " ++ set ++ " " ++ name) k with
    | (.error fault, k) => (.error fault, k)
    | (.ok data, k) =>
      match copied data with
      | .error fault => (.error fault, k)
      | .ok (some uid) => (.ok (some uid), k)
      | .ok none => (.ok k.note, { k with note := none })

/-- A command brings the same whatever is on the note, and puts there what its completion tells. -/
theorem run_eq (text : String) (k : Noting) :
    (∃ fault k', run text k = (.error fault, k') ∧
      exec (Client.run text) k.client = (.error fault, k'.client)) ∨
      ∃ completed c', run text k = (.ok completed.untagged, ⟨c', completed.copied⟩) ∧
        exec (Client.run text) k.client = (.ok completed, c') := by
  rw [Client.run, exec_bind]
  unfold run
  rcases hsend : exec (Client.send text) k.client with ⟨fault | _, c⟩
  · exact Or.inl ⟨fault, _, rfl, rfl⟩
  · unfold readCompletion
    rcases hread : exec Client.readCompletion c with ⟨fault | completed, c'⟩
    · refine Or.inl ⟨fault, ⟨c', none⟩, ?_, hread⟩
      simp only [hread]
    · refine Or.inr ⟨completed, c', ?_, hread⟩
      simp only [hread]

/-- What is on the note has no part in a copy. -/
theorem copy_eq (set mailbox : String) (k : Noting) :
    ((copy set mailbox k).1, (copy set mailbox k).2.client) =
      exec (Client.copy set mailbox) k.client := by
  rw [Client.copy, exec_bind, exec_liftM]
  unfold copy
  cases hname : quotedMailbox mailbox with
  | error fault => rfl
  | ok name =>
    simp only [exec_bind]
    rcases run_eq ("UID COPY " ++ set ++ " " ++ name) k with
      ⟨fault, k', hrun, hexec⟩ | ⟨completed, c', hrun, hexec⟩
    · rw [hrun, hexec]
    · rw [hrun, hexec]
      rfl

/-- What is on the note has no part in a move. -/
theorem move_eq (set mailbox : String) (k : Noting) :
    ((move set mailbox k).1, (move set mailbox k).2.client) =
      exec (Client.move set mailbox) k.client := by
  rw [Client.move, exec_bind, exec_liftM]
  unfold move
  cases hname : quotedMailbox mailbox with
  | error fault => rfl
  | ok name =>
    simp only [exec_bind]
    rcases run_eq ("UID MOVE " ++ set ++ " " ++ name) k with
      ⟨fault, k', hrun, hexec⟩ | ⟨completed, c', hrun, hexec⟩
    · rw [hrun, hexec]
    · simp only [hrun, hexec, exec_liftM]
      rcases hcopied : copied completed.untagged with fault | early
      · rfl
      · cases early <;> rfl

/-- A client with a note does what one without does, and `leave` says what is on the note then. -/
def lift {α : Type} (leave : Noting → Client → Option Uid) (action : Action α) (k : Noting) :
    Except Fault α × Noting :=
  ((exec action k.client).1, ⟨(exec action k.client).2, leave k (exec action k.client).2⟩)

/-- What a client does on an order.  Copies and moves take the note. -/
def follow (leave : Noting → Client → Option Uid) :
    (o : Order) → Noting → Except Fault o.Finding × Noting
  | .copy set mailbox => copy set mailbox
  | .move set mailbox => move set mailbox
  | o => lift leave o.perform

/-- What a client does on a request. -/
def answer (leave : Noting → Client → Option Uid) :
    (r : Request) → Noting → Except Fault r.Reply × Noting
  | .copy uids mailbox => copy (UidSet.render uids) mailbox
  | .move uids mailbox => move (UidSet.render uids) mailbox
  | r => lift leave (Client.answer r)

/-- What a client does when it is called. -/
def perform (leave : Noting → Client → Option Uid) :
    (call : Call) → Noting → Except Fault call.Finding × Noting
  | .order o => follow leave o
  | .request r => answer leave r

/-- The results of calls in a row. -/
def results (leave : Noting → Client → Option Uid) (k : Noting) :
    List Call → List ((call : Call) × Except Fault call.Finding)
  | [] => []
  | call :: calls =>
    let (result, after) := perform leave call k
    ⟨call, result⟩ :: results leave after calls

variable {leave : Noting → Client → Option Uid}

theorem results_cons (k : Noting) (call : Call) (calls : List Call) :
    results leave k (call :: calls) =
      ⟨call, (perform leave call k).1⟩ :: results leave (perform leave call k).2 calls := rfl

theorem follow_eq (o : Order) (k : Noting) :
    ((follow leave o k).1, (follow leave o k).2.client) = exec o.perform k.client := by
  cases o with
  | copy set mailbox => exact copy_eq set mailbox k
  | move set mailbox => exact move_eq set mailbox k
  | _ => simp only [follow, lift]

theorem answer_eq (r : Request) (k : Noting) :
    ((answer leave r k).1, (answer leave r k).2.client) = exec (Client.answer r) k.client := by
  cases r with
  | copy uids mailbox => exact copy_eq (UidSet.render uids) mailbox k
  | move uids mailbox => exact move_eq (UidSet.render uids) mailbox k
  | _ => simp only [answer, lift]

/-- What is on the note has no part in any call. -/
theorem perform_eq (call : Call) (k : Noting) :
    ((perform leave call k).1, (perform leave call k).2.client) = exec call.perform k.client := by
  cases call with
  | order o => exact follow_eq o k
  | request r => exact answer_eq r k

/-- A client with a note returns what one without returns.  By induction on the calls. -/
theorem results_eq (k : Noting) (calls : List Call) :
    results leave k calls = Client.results k.client calls := by
  induction calls generalizing k with
  | nil => rfl
  | cons call calls ih =>
    have hcall := @perform_eq leave call k
    rw [results_cons, Client.results_cons, ih, ← hcall]

end Noting

namespace Client

open Text Postroom.Wire.Action

/-- **A destination belongs to its command.**  Whatever has become of a client before, a copy that
succeeds tells the first new identifier of its own completion, and a move that succeeds the first
one of its own data, or else of its own completion; if these tell none, none is told.  Clients
that have the same ahead of them return the same from all that is called on them.  So do clients
that keep what they were told on a note, whatever is on it and whatever other commands leave
there. -/
theorem destination_of_own_completion (c : Client) :
    (∀ set mailbox uid c', exec (copy set mailbox) c = (.ok uid, c') →
      ∃ read data remark, Concluded c read data remark c' ∧ uid = remark.destination?) ∧
    (∀ set mailbox uid c', exec (move set mailbox) c = (.ok uid, c') →
      ∃ read data remark rs, Concluded c read data remark c' ∧ responses data = (rs, []) ∧
        uid = (rs.findSome? Response.destination?).or remark.destination?) ∧
    ∀ c₂, c.Level c₂ → ∀ calls, results c₂ calls = results c calls ∧
      ∀ leave note, Noting.results leave ⟨c₂, note⟩ calls = results c calls := by
  refine ⟨fun _ _ _ _ h => exec_copy_of_ok h, fun _ _ _ _ h => exec_move_of_ok h,
    fun c₂ h calls => ?_⟩
  have hsame : results c₂ calls = results c calls := (results_eq h calls).symm
  exact ⟨hsame, fun leave note => (Noting.results_eq ⟨c₂, note⟩ calls).trans hsame⟩

/-- Behind three commands, the last of which told 41, a move is told 43 with its data and 99 with
its completion.  A copy behind it is told nothing. -/
theorem destination_of_fourth_command :
    let c := { ofScript (Utf8.bytes
      "* OK [COPYUID 7 3:4 43:44] moved\r\na4 OK [COPYUID 7 3:4 99] done\r\na5 OK done\r\n")
        none none with tag := 3 }
    let after := (exec (move "3:4" "A") c).2
    (exec (move "3:4" "A") c).1 = .ok (some 43) ∧ (exec (copy "5" "A") after).1 = .ok none ∧
      (∃ read data remark rs, Concluded c read data remark after ∧ responses data = (rs, []) ∧
        some 43 = (rs.findSome? Response.destination?).or remark.destination?) ∧
      ∀ calls, Noting.results (fun k _ => k.note) ⟨{ c with sent := [97] }, some 41⟩ calls =
        results c calls := by
  intro c after
  have hmoved : (exec (move "3:4" "A") c).1 = .ok (some 43) := by decide +kernel
  have hcopied : (exec (copy "5" "A") after).1 = .ok none := by decide +kernel
  obtain ⟨-, hmove, hlevel⟩ := destination_of_own_completion c
  refine ⟨hmoved, hcopied, hmove "3:4" "A" (some 43) after (Prod.ext hmoved rfl), fun calls => ?_⟩
  exact (hlevel { c with sent := [97] } ⟨rfl, rfl, rfl, rfl⟩ calls).2 _ _

end Client

end Postroom.Wire
