import Postroom.Proofs.Exchange
import Postroom.Proofs.Server.Mail
import Postroom.Trial

/-! # Nothing is lost while mail is sorted

A server under trial lets anything go wrong at any request.  Whatever does, sorting
the messages of a mailbox keeps the mail of the server (`harmless_sort`), if no filter
marks messages for removal.  All requests of a sort but one keep it by themselves.
The one that does not is the marking of messages that were copied, so a move by
copies is followed request by request (`harmless_copyAway`): it may end after any of
them, and a message is marked only once its copy is there.
-/

namespace Postroom

namespace Server

theorem answer_copy_cases (uids : List Uid) (target : String) (c : Connection) (s : Server) :
    (∃ fault, answer (.copy uids target) (c, s) = (.error fault, c, s)) ∨
      ∃ source first, c.selected = some source ∧
        answer (.copy uids target) (c, s) = (.ok first, c, s.copied source target uids) := by
  rw [answer_copy]
  rcases copyInto_cases s c uids target false with ⟨fault, h⟩ | ⟨source, hw, h⟩ <;> rw [h]
  · exact Or.inl ⟨fault, rfl⟩
  · exact Or.inr ⟨source, _, (writable_eq_ok_iff.mp hw).2.1, rfl⟩

theorem answer_store_cases (uids : List Uid) (mode : StoreMode) (flags : List Flag) (c : Connection)
    (s : Server) :
    (∃ fault, answer (.store uids mode flags) (c, s) = (.error fault, c, s)) ∨
      ∃ name, c.selected = some name ∧ answer (.store uids mode flags) (c, s) =
        (.ok (), c, s.put name ((s.box name).store uids mode flags)) := by
  rcases changing_cases c s (do return ((), ← s.changeOpen c fun m => m.store uids mode flags)) with
    h | ⟨_, t, hstore, h⟩
  · exact Or.inl h
  · obtain ⟨t', hchange, heq⟩ := bind_eq_ok_iff.mp hstore
    obtain ⟨-, rfl⟩ := Prod.mk.inj (Except.ok.inj heq)
    obtain ⟨name, m, hw, hm, rfl⟩ := changeOpen_eq_ok_iff.mp hchange
    rw [← box_eq_of_mailbox hm] at h
    exact Or.inr ⟨name, (writable_eq_ok_iff.mp hw).2.1, h⟩

end Server

namespace Trial

/-- A server under trial keeps its mail. -/
def KeepsMail (x y : Connection × Trial) : Prop := x.2.server.KeepsMail y.2.server

theorem KeepsMail.refl (x : Connection × Trial) : KeepsMail x x := Server.KeepsMail.refl _

theorem KeepsMail.trans (x y z : Connection × Trial) (hxy : KeepsMail x y) (hyz : KeepsMail y z) :
    KeepsMail x z := Server.KeepsMail.trans hxy hyz

/-- What goes wrong leaves the mailboxes alone. -/
theorem mailboxes_note (asked : String) (t : Trial) :
    (t.note asked).2.server.mailboxes = t.server.mailboxes := by
  unfold note
  simp only
  split <;> rfl

theorem keepsMail_connect (settings : Settings) (t : Trial) :
    t.server.KeepsMail (t.connect settings).2.server := by
  refine .of_mailboxes ?_
  have hnote := mailboxes_note "connect" t
  unfold connect
  rcases hr : t.note "connect" with ⟨_ | fault, t'⟩ <;> rw [hr] at hnote
  · exact (Exchange.mailboxes_connect settings t'.server).trans hnote
  · exact hnote

/-- A request is answered with a fault, or by the server after what goes wrong. -/
theorem answer_cases (r : Request) (c : Connection) (t : Trial) :
    ∃ t', t'.server.mailboxes = t.server.mailboxes ∧
      ((∃ fault, answer r (c, t) = (.error fault, c, t')) ∨
        answer r (c, t) = ((Server.answer r (c, t'.server)).1, (Server.answer r (c, t'.server)).2.1,
          { t' with server := (Server.answer r (c, t'.server)).2.2 })) := by
  have hnote := mailboxes_note r.toString t
  rcases hr : t.note r.toString with ⟨_ | fault, t'⟩ <;> rw [hr] at hnote
  · exact ⟨t', hnote, Or.inr (by simp only [answer, hr])⟩
  · exact ⟨t', hnote, Or.inl ⟨fault, by simp only [answer, hr]⟩⟩

end Trial

namespace Talk

open Trial (KeepsMail)

/-- The server under trial keeps its mail in every course of the talk. -/
abbrev Harmless {α : Type} (talk : Talk α) : Prop := Keeps Trial.answer KeepsMail talk

theorem harmless_ask {r : Request} (h : r.Gentle) : Harmless (ask r) := by
  rintro ⟨c, t⟩
  obtain ⟨t', hsame, ⟨fault, hanswer⟩ | hanswer⟩ := Trial.answer_cases r c t
  · rw [exec_ask, hanswer]
    exact Server.KeepsMail.of_mailboxes hsame
  · rw [exec_ask, hanswer]
    exact (Server.KeepsMail.of_mailboxes hsame).trans (Server.keepsMail_answer h c t'.server)

theorem harmless_attempt {r : Request} (h : r.Gentle) : Harmless (attempt r) := harmless_ask h

theorem harmless_pure {α : Type} (a : α) : Harmless (pure a) := keeps_pure KeepsMail.refl a

theorem harmless_throw {α : Type} (fault : Fault) : Harmless (throw fault : Talk α) :=
  keeps_throw KeepsMail.refl fault

theorem harmless_bind {α β : Type} {talk : Talk α} {f : α → Talk β} (ht : Harmless talk)
    (hf : ∀ a, Harmless (f a)) : Harmless (talk >>= f) := keeps_bind KeepsMail.trans ht hf

/-! ### Moving by copies -/

theorem harmless_removeMarked (uids : List Uid) : Harmless (removeMarked uids) := by
  refine harmless_bind (harmless_attempt trivial) fun reply => ?_
  rcases reply with fault | _
  · cases fault with
    | bad text => exact harmless_ask trivial
    | _ => exact harmless_throw _
  · exact harmless_pure _

/-- A message is copied, marked and removed, or some of this, and there is no less mail. -/
theorem harmless_copyAway (uid : Uid) (target : String) : Harmless (copyAway [uid] target) := by
  rintro ⟨c, t⟩
  obtain ⟨t₁, hsame₁, ⟨fault, hcopy⟩ | hcopy⟩ := Trial.answer_cases (.copy [uid] target) c t
  · rw [copyAway, exec_ask_bind_of_error hcopy]
    exact Server.KeepsMail.of_mailboxes hsame₁
  rcases Server.answer_copy_cases [uid] target c t₁.server with
    ⟨fault, hserver⟩ | ⟨source, first, hopen, hserver⟩ <;> rw [hserver] at hcopy
  · rw [copyAway, exec_ask_bind_of_error hcopy]
    exact Server.KeepsMail.of_mailboxes hsame₁
  rw [copyAway, exec_ask_bind_of_ok hcopy]
  refine (Server.KeepsMail.of_mailboxes hsame₁).trans ?_
  have hcopied := Server.KeepsMail.copied t₁.server source target [uid]
  obtain ⟨t₂, hsame₂, ⟨fault, hstore⟩ | hstore⟩ := Trial.answer_cases
    (.store [uid] .add [.deleted]) c { t₁ with server := t₁.server.copied source target [uid] }
  · rw [exec_ask_bind_of_error hstore]
    exact hcopied.trans (Server.KeepsMail.of_mailboxes hsame₂)
  rcases Server.answer_store_cases [uid] .add [.deleted] c t₂.server with
    ⟨fault, hserver⟩ | ⟨name, hname, hserver⟩ <;> rw [hserver] at hstore
  · rw [exec_ask_bind_of_error hstore]
    exact hcopied.trans (Server.KeepsMail.of_mailboxes hsame₂)
  -- The mailbox in which messages are marked is the one they were copied from.
  obtain rfl : source = name := Option.some.inj (hopen.symm.trans hname)
  have hmarked := Server.KeepsMail.copied_marked
    (fun hs => Or.inr (hs.unclaimed source uid)) hsame₂
  have hrest : Harmless (do removeMarked [uid]; return first) :=
    harmless_bind (harmless_removeMarked [uid]) fun _ => harmless_pure first
  rw [exec_ask_bind_of_ok hstore]
  exact hmarked.trans (hrest (c, { t₂ with
    server := t₂.server.put source ((t₂.server.box source).store [uid] .add [.deleted]) }))

/-! ### Work on mailboxes -/

theorem harmless_openOnce (mailbox : String) (readOnly : Bool) :
    Harmless (openOnce mailbox readOnly) := by
  unfold openOnce
  split <;> exact harmless_attempt trivial

theorem harmless_openMailbox (mailbox : String) (readOnly autoCreate : Bool) :
    Harmless (openMailbox mailbox readOnly autoCreate) := by
  refine harmless_bind (harmless_openOnce mailbox readOnly) fun reply => ?_
  rcases reply with fault | status
  · simp only
    split
    · refine harmless_bind (harmless_ask trivial) fun _ => ?_
      refine harmless_bind (harmless_openOnce mailbox readOnly) fun reply => ?_
      rcases reply with fault | status
      · exact harmless_throw fault
      · exact harmless_pure status
    · exact harmless_throw fault
  · exact harmless_pure status

theorem harmless_list : Harmless list :=
  harmless_bind (harmless_ask trivial) fun _ => harmless_pure _

theorem harmless_moveOnce (uid : Uid) (target : String) : Harmless (moveOnce [uid] target) := by
  refine harmless_bind (harmless_attempt trivial) fun reply => ?_
  rcases reply with fault | first
  · cases fault with
    | bad text => exact harmless_copyAway uid target
    | _ => exact harmless_throw _
  · exact harmless_pure first

theorem harmless_move (uid : Uid) (source target : String) :
    Harmless (move [uid] source target) := by
  refine harmless_bind (harmless_openMailbox source false false) fun _ => ?_
  refine keeps_tryCatch KeepsMail.trans (harmless_moveOnce uid target) fun fault => ?_
  split
  · exact harmless_throw fault
  · refine harmless_bind harmless_list fun table => ?_
    split
    · exact harmless_throw fault
    · exact harmless_bind (harmless_ask trivial) fun _ => harmless_moveOnce uid target

theorem harmless_setFlags (mailbox : String) (uids : List Uid) {mode : StoreMode}
    {flags : List Flag}
    (h : mode = .remove ∨ .deleted ∉ flags) (expunge : Bool) :
    Harmless (setFlags mailbox uids mode flags expunge) := by
  refine harmless_bind (harmless_openMailbox mailbox false false) fun _ => ?_
  refine harmless_bind (harmless_ask h) fun _ => ?_
  split
  · exact harmless_ask trivial
  · exact harmless_pure ()

theorem harmless_searchAndFetch (mailbox : String) (criteria : Criteria) :
    Harmless (searchAndFetch mailbox criteria) := by
  have hopen := harmless_openMailbox mailbox true false
  refine harmless_bind (harmless_bind hopen fun _ => harmless_ask trivial) fun uids => ?_
  split
  · exact harmless_pure []
  · refine harmless_bind hopen fun _ => harmless_bind (harmless_ask trivial) fun fetched => ?_
    intro x
    rw [exec_mapM_pure]
    exact KeepsMail.refl x

end Talk

/-! ### Sorting -/

/-- No message is marked for removal by the flags that are added or put in place of others. -/
def Commands.NeverMark (commands : Commands) : Prop :=
  ∀ names, commands.addFlags = some names ∨ commands.replaceFlags = some names →
    .deleted ∉ names.map Flag.ofString

/-- A filter that matches is one of those tried. -/
theorem Filter.mem_of_firstMatch {headers : Header.Map} {filters : List (String × Filter)}
    {filter : Filter} (h : firstMatch headers filters = .ok (some filter)) :
    ∃ name, (name, filter) ∈ filters := by
  induction filters with
  | nil => cases h
  | cons head rest ih =>
    obtain ⟨name, first⟩ := head
    obtain ⟨holds, -, h⟩ := bind_eq_ok_iff.mp h
    split at h
    · obtain rfl := Option.some.inj (Except.ok.inj h)
      exact ⟨name, List.mem_cons_self⟩
    · obtain ⟨name, hmem⟩ := ih h
      exact ⟨name, List.mem_cons_of_mem _ hmem⟩

namespace Talk

theorem harmless_setFlagNames (mailbox : String) (uid : Uid) {mode : StoreMode}
    {names : Option (List String)}
    (h : mode = .remove ∨ ∀ given, names = some given → .deleted ∉ given.map Flag.ofString) :
    Harmless (setFlagNames mailbox uid mode names) := by
  cases names with
  | none => exact harmless_pure ()
  | some given => exact harmless_setFlags mailbox [uid] (h.imp id fun h => h given rfl) false

theorem harmless_apply {commands : Commands} (h : commands.NeverMark) (mailbox : String)
    (uid : Uid) : Harmless (apply commands mailbox uid) := by
  have hadd : StoreMode.add = .remove ∨ ∀ given, commands.addFlags = some given →
      .deleted ∉ given.map Flag.ofString := Or.inr fun given hgiven => h given (Or.inl hgiven)
  have hreplace : StoreMode.replace = .remove ∨ ∀ given, commands.replaceFlags = some given →
      .deleted ∉ given.map Flag.ofString := Or.inr fun given hgiven => h given (Or.inr hgiven)
  have hrevise : ∀ mailbox uid, Harmless (reviseFlags commands mailbox uid) := fun mailbox uid =>
    harmless_bind (harmless_setFlagNames mailbox uid hadd) fun _ =>
      harmless_bind (harmless_setFlagNames mailbox uid (Or.inl rfl)) fun _ =>
        harmless_setFlagNames mailbox uid hreplace
  rw [apply_eq]
  cases commands.moveTo with
  | none => exact hrevise mailbox uid
  | some target =>
    exact harmless_bind (harmless_move uid mailbox target) fun moved =>
      hrevise target (moved.getD uid)

theorem harmless_applyFilters (mailbox : String) {filters : List (String × Filter)}
    (h : ∀ e ∈ filters, e.2.commands.NeverMark) (messages : List Message) :
    Harmless (applyFilters mailbox filters messages) := by
  induction messages with
  | nil => exact harmless_pure _
  | cons message rest ih =>
    refine keeps_mk_pure_bind Trial.KeepsMail.refl fun choice hchoice => ?_
    cases choice with
    | none => exact harmless_bind ih fun _ => harmless_pure _
    | some filter =>
      obtain ⟨name, hmem⟩ := Filter.mem_of_firstMatch hchoice
      exact harmless_bind (harmless_apply (h _ hmem) mailbox message.uid) fun _ =>
        harmless_bind ih fun _ => harmless_pure _

theorem harmless_fallBack (mailbox fallback : String) (uid : Uid) :
    Harmless (fallBack mailbox fallback uid) := by
  unfold fallBack
  split
  · exact harmless_setFlags mailbox [uid] (Or.inr (by simp)) false
  · exact harmless_bind (harmless_move uid mailbox fallback) fun _ => harmless_pure ()

/-- Sorting loses nothing, whatever goes wrong. -/
theorem harmless_sort (mailbox : String) (excluded : List Flag) (fallback : String)
    {filters : Assoc Filter} (h : ∀ e ∈ filters, e.2.commands.NeverMark) :
    Harmless (sort mailbox excluded fallback filters) := by
  have hordered : ∀ e ∈ Filter.ordered filters, e.2.commands.NeverMark := fun e he =>
    h e (List.mem_mergeSort.mp he)
  refine harmless_bind (harmless_searchAndFetch mailbox _) fun messages => ?_
  refine harmless_bind (harmless_applyFilters mailbox hordered messages) fun outcome => ?_
  refine harmless_bind ?_ fun _ => harmless_pure _
  exact keeps_forM Trial.KeepsMail.refl Trial.KeepsMail.trans (harmless_fallBack mailbox fallback)
    outcome.2

end Talk

end Postroom
