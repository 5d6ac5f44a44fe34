import Postroom.Proofs.Server.Moving

/-! # Two ways of moving

A server that can move messages and one that cannot are asked for different things
when messages are moved.  Between two mailboxes the difference cannot be seen in
what comes of it: the result, the connection and the mailboxes are the same, also
where a mailbox is missing, is reported as missing or is not listed
(`move_agrees`).
-/

namespace Postroom.Server

/-- A session whose connection to a server is open. -/
def session (settings : Settings) (c : Connection) : Session Server Connection :=
  ⟨backend, settings, some c⟩

/-- Work over an open session is the course of the talk over its connection. -/
theorem perform_session {α : Type} (settings : Settings) (c : Connection) (talk : Talk α)
    (s : Server) : (session settings c).perform talk s =
      ((talk.exec answer (c, s)).1, session settings (talk.exec answer (c, s)).2.1,
        (talk.exec answer (c, s)).2.2) := rfl

/-- Whether a server can move messages plays no part in what a move comes to. -/
theorem relocate_canMove (s : Server) (can : Bool) (source target : String) (uids : List Uid) :
    { s with canMove := can }.relocate source target uids =
      ((s.relocate source target uids).1,
        { (s.relocate source target uids).2 with canMove := can }) := by
  have hmailbox : ∀ name, { s with canMove := can }.mailbox name = s.mailbox name := fun _ => rfl
  have hlists : { s with canMove := can }.lists target = s.lists target := rfl
  have hmade : ∀ name, ({ s with canMove := can }.put target .empty).mailbox name =
      (s.put target .empty).mailbox name := fun _ => rfl
  unfold relocate
  simp only [hmailbox, hlists, hmade]
  cases s.mailbox source with
  | error fault => rfl
  | ok box =>
    cases s.mailbox target with
    | ok dest => rfl
    | error fault =>
      simp only
      split
      · rfl
      · split
        · rfl
        · cases (s.put target .empty).mailbox target <;> rfl

/-- **Both ways of moving agree.**  Where named messages can be removed, a move between two
mailboxes gives the same result and leaves the same connection and the same mailboxes, whether it
is made in one step or by copying, marking and removing. -/
theorem move_agrees (settings : Settings) (c : Connection) (s : Server)
    (hcan : s.canExpungeUids = true) (uids : List Uid) {source target : String}
    (hne : source ≠ target) :
    let atOnce := (session settings c).perform (Talk.move uids source target)
      { s with canMove := true }
    let byCopies := (session settings c).perform (Talk.move uids source target)
      { s with canMove := false }
    byCopies = (atOnce.1, atOnce.2.1, { atOnce.2.2 with canMove := false }) := by
  have hdead : ∀ fault can, s.check c = .error fault →
      Talk.exec answer (Talk.move uids source target) (c, { s with canMove := can }) =
        (.error fault, c, { s with canMove := can }) := fun fault can hcheck =>
    exec_move_of_dead (s := { s with canMove := can }) hcheck uids source target
  have halive : ∀ can, s.check c = .ok () →
      Talk.exec answer (Talk.move uids source target) (c, { s with canMove := can }) =
        ((s.relocate source target uids).1, s.departed c source,
          { (s.relocate source target uids).2 with canMove := can }) := by
    intro can hcheck
    rw [exec_move (s := { s with canMove := can }) (Or.inr hcan) hcheck (Or.inl hne),
      relocate_canMove]
    rfl
  intro atOnce byCopies
  simp only [atOnce, byCopies, session, Session.perform_some, backend]
  cases hcheck : s.check c with
  | error fault => rw [hdead fault true hcheck, hdead fault false hcheck]
  | ok _ => rw [halive true hcheck, halive false hcheck]

/-- Identifiers out of order, twice and of no message, a message that is marked already, and a
target that has to be made. -/
theorem disorderly_move_agrees :
    let s : Server := { new "pw" with
      mailboxes := [("INBOX", ⟨4, [⟨1, [.deleted], [65]⟩, ⟨2, [.recent, .seen], [66]⟩,
        ⟨3, [], [67]⟩]⟩)] }
    let move := (session .empty ⟨0, false, none, false⟩).perform
      (Talk.move [2, 1, 2, 7] "INBOX" "Archive")
    s.canExpungeUids = true ∧ "INBOX" ≠ "Archive" ∧
      (move { s with canMove := false }).1 = .ok (some 1) ∧
      (move { s with canMove := true }).2.2.mailboxes =
        [("Archive", ⟨3, [⟨1, [.deleted], [65]⟩, ⟨2, [.seen], [66]⟩]⟩),
          ("INBOX", ⟨4, [⟨3, [], [67]⟩]⟩)] ∧
      (move { s with canMove := false }).2.2.mailboxes =
        (move { s with canMove := true }).2.2.mailboxes := by
  intro s move
  have hagree := move_agrees .empty ⟨0, false, none, false⟩ s rfl [2, 1, 2, 7]
    (by decide : "INBOX" ≠ "Archive")
  refine ⟨rfl, by decide, by rfl, by decide +kernel, ?_⟩
  exact congrArg (fun outcome => outcome.2.2.mailboxes) hagree

end Postroom.Server
