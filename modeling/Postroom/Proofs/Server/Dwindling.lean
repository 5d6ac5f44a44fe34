import Postroom.Proofs.Conservation
import Postroom.Proofs.Pass
import Postroom.Proofs.Server.Refusal

/-! # What is left of a mailbox that is sorted

Sorting takes messages out of the input mailbox and marks messages in it.  It puts none
in and takes no flag away there, as long as every filter moves what it matches to another
mailbox.  So what is left is old: the message was there before under the same identifier
and with the same content, and has all the flags that it had (`Thins`).

Each single request keeps to this unless it names the input mailbox as the place where
messages go, or takes flags away while the input mailbox is open (`Request.Drains`,
`proceeds_answer`).  The courses of a pass are made of such requests, whatever the server
can do and whether the pass succeeds or not.  If a move succeeds, no message of its
identifier is left (`Moving.gone`): not even a server that can neither move messages nor
remove named ones keeps it, since the message was marked before all marked ones are removed.
-/

namespace Postroom

/-- A request neither adds a message to a mailbox nor takes flags away in it, if this mailbox is
open or another one. -/
def Request.Drains (input : String) (opened : Option String) : Request → Prop
  | .store _ mode _ => mode = .add ∨ opened ≠ some input
  | .copy _ target | .move _ target => target ≠ input
  | .delete _ | .append .. | .logout => False
  | _ => True

/-- What drains a mailbox while it is open always drains it. -/
theorem Request.Drains.mono {input : String} {r : Request} (h : r.Drains input (some input))
    (opened : Option String) : r.Drains input opened := by
  cases r with
  | store uids mode flags => exact Or.inl (h.resolve_right fun hne => hne rfl)
  | _ => exact h

/-- The requests of which a move is made behind the opening of its mailbox. -/
def Request.relocating (uids : List Uid) (target : String) : List Request :=
  [.move uids target, .copy uids target, .store uids .add [.deleted], .expungeUids uids, .expunge,
    .list, .create target]

namespace Server

variable {input : String} {s t u : Server} {c : Connection} {r : Request}

/-! ### Two servers -/

/-- A mailbox that is found stays so, and everything in it was there before and lost no flag. -/
structure Thins (input : String) (s t : Server) : Prop where
  /-- The mailbox is found if it was. -/
  found : (∃ m, s.mailbox input = .ok m) → ∃ m, t.mailbox input = .ok m
  /-- Every message is an old one with more flags at most. -/
  left : ∀ msg ∈ (t.box input).messages, ∃ old ∈ (s.box input).messages,
    msg.uid = old.uid ∧ msg.content = old.content ∧ old.flags ⊆ msg.flags

theorem thins_refl (input : String) (s : Server) : Thins input s s :=
  ⟨id, fun msg hmsg => ⟨msg, hmsg, rfl, rfl, List.Subset.refl _⟩⟩

theorem Thins.trans (hst : Thins input s t) (htu : Thins input t u) : Thins input s u where
  found := fun h => htu.found (hst.found h)
  left := by
    intro msg hmsg
    obtain ⟨between, hbetween, huid, hcontent, hflags⟩ := htu.left msg hmsg
    obtain ⟨old, hold, huid', hcontent', hflags'⟩ := hst.left between hbetween
    exact ⟨old, hold, huid.trans huid', hcontent.trans hcontent', List.Subset.trans hflags' hflags⟩

/-- Putting a mailbox makes no other one thicker. -/
theorem thins_put {name : String} {m : StoredMailbox}
    (h : name = input → ∀ msg ∈ m.messages, ∃ old ∈ (s.box input).messages,
      msg.uid = old.uid ∧ msg.content = old.content ∧ old.flags ⊆ msg.flags) :
    Thins input s (s.put name m) where
  found := by
    rintro ⟨box, hbox⟩
    by_cases heq : input = name
    · subst heq
      exact ⟨m, mailbox_put_self hbox⟩
    · exact ⟨box, (mailbox_put_of_ne heq m).trans hbox⟩
  left := by
    intro msg hmsg
    rw [box_put] at hmsg
    split at hmsg
    · next heq => exact h heq.symm msg hmsg
    · exact (thins_refl input s).left msg hmsg

theorem thins_keep (s : Server) (name : String) (p : StoredMessage → Bool) :
    Thins input s (s.put name ((s.box name).keep p)) := by
  refine thins_put fun heq msg hmsg => ?_
  subst heq
  exact (thins_refl name s).left msg (List.mem_of_mem_filter hmsg)

theorem thins_store_add (s : Server) (name : String) (uids : List Uid) (flags : List Flag) :
    Thins input s (s.put name ((s.box name).store uids .add flags)) := by
  refine thins_put fun heq msg hmsg => ?_
  subst heq
  obtain ⟨old, hold, rfl⟩ := List.mem_map.mp hmsg
  refine ⟨old, hold, StoredMessage.uid_revised, StoredMessage.content_revised, fun f hf => ?_⟩
  by_cases hin : old.uid ∈ uids
  · rw [StoredMessage.revised_of_mem hin]
    exact mem_foldl_addFlag.mpr (Or.inl hf)
  · rwa [StoredMessage.revised_of_not_mem hin]

theorem thins_moved (s : Server) (source : String) {target : String} (h : target ≠ input)
    (uids : List Uid) : Thins input s (s.moved source target uids) :=
  (thins_keep s source _).trans (thins_put fun heq => absurd heq h)

/-- No effect of a request that drains the mailbox adds anything to it. -/
theorem thins_effect (h : r.Drains input (some input)) (ht : Effect s r t) : Thins input s t := by
  cases ht with
  | nothing => exact thins_refl input s
  | made => exact thins_put fun _ msg hmsg => absurd hmsg List.not_mem_nil
  | stored hm uids mode flags =>
    obtain rfl : mode = .add := h.resolve_right fun hne => hne rfl
    exact box_eq_of_mailbox hm ▸ thins_store_add s _ uids flags
  | copied source uids target => exact thins_put fun heq => absurd heq h
  | moved source uids target => exact thins_moved s source h uids
  | expunged hm => exact box_eq_of_mailbox hm ▸ thins_keep s _ _
  | expungedUids hm uids => exact box_eq_of_mailbox hm ▸ thins_keep s _ _
  | removed | appended => exact absurd h id

theorem thins_answer (h : r.Drains input c.selected) : Thins input s (answer r (c, s)).2.2 := by
  by_cases hopen : r.Drains input (some input)
  · exact thins_effect hopen (effect_answer r c s)
  · cases r with
    | store uids mode flags =>
      have hopened : c.selected ≠ some input := h.resolve_left fun hadd => hopen (Or.inl hadd)
      rcases answer_store_cases uids mode flags c s with ⟨fault, hstore⟩ | ⟨name, hname, hstore⟩ <;>
        rw [hstore]
      · exact thins_refl input s
      · exact thins_put fun heq => absurd (heq ▸ hname) hopened
    | _ => exact absurd h hopen

/-! ### Connections -/

@[simp] theorem connection_changing {α : Type} (x : Except Fault (α × Server)) :
    (changing c s x).2.1 = c := by
  rcases x with _ | ⟨a, t⟩ <;> rfl

/-- The requests of a move leave the connection as it is. -/
theorem connection_relocating {uids : List Uid} {target : String}
    (h : r ∈ Request.relocating uids target) (c : Connection) (s : Server) :
    (answer r (c, s)).2.1 = c := by
  simp only [Request.relocating, List.mem_cons, List.not_mem_nil, or_false] at h
  rcases h with rfl | rfl | rfl | rfl | rfl | rfl | rfl
  · rcases answer_move uids target c s with ⟨fault, hmove⟩ | hmove <;> rw [hmove]
  · rfl
  all_goals first | rfl | exact connection_changing _

theorem drains_relocating {uids : List Uid} {target : String} (hne : target ≠ input)
    (h : r ∈ Request.relocating uids target) : r.Drains input (some input) := by
  simp only [Request.relocating, List.mem_cons, List.not_mem_nil, or_false] at h
  rcases h with rfl | rfl | rfl | rfl | rfl | rfl | rfl <;> simp [Request.Drains, hne]

/-- Only logging out ends a connection. -/
theorem check_answer (h : r ≠ .logout) (c : Connection) (s : Server) :
    (answer r (c, s)).2.2.check (answer r (c, s)).2.1 = s.check c := by
  have hout : (answer r (c, s)).2.1.loggedOut = c.loggedOut := by
    cases r with
    | select name | examine name =>
      simp only [answer, openMailbox]
      split
      · rfl
      · split <;> rfl
    | delete name =>
      simp only [answer]
      split <;> rfl
    | move uids target =>
      rcases answer_move uids target c s with ⟨fault, hmove⟩ | hmove <;> rw [hmove]
    | list | search criteria | fetch uids items | copy uids target => rfl
    | create name | store uids mode flags | expunge | expungeUids uids
    | append name flags content => exact congrArg Connection.loggedOut (connection_changing _)
    | logout => exact absurd rfl h
  unfold check
  rw [hout, generation_answer, (continues_answer r c s).generation]

/-! ### Over a connection -/

/-- What a pass keeps from one request to the next. -/
structure Proceeds (input : String) (x y : Connection × Server) : Prop where
  /-- The connection can be used if it could. -/
  alive : y.2.check y.1 = x.2.check x.1
  /-- A sound server stays sound. -/
  sound : x.2.Sound → y.2.Sound
  /-- Nothing is added to the mailbox. -/
  thins : Thins input x.2 y.2

variable {x y z : Connection × Server}

theorem proceeds_refl (input : String) (x : Connection × Server) : Proceeds input x x :=
  ⟨rfl, id, thins_refl input x.2⟩

theorem Proceeds.trans (hxy : Proceeds input x y) (hyz : Proceeds input y z) :
    Proceeds input x z :=
  ⟨hyz.alive.trans hxy.alive, fun h => hyz.sound (hxy.sound h), hxy.thins.trans hyz.thins⟩

theorem proceeds_answer (h : r.Drains input x.1.selected) :
    Proceeds input x (answer r x).2 where
  alive := check_answer (by rintro rfl; exact h) x.1 x.2
  sound := fun hs => hs.answer r x.1
  thins := thins_answer h

open Talk (Recites)

theorem proceeds_of_recites {turns : List Turn}
    (h : ∀ turn ∈ turns, turn.request.Drains input (some input))
    (hrecites : Recites answer turns x y) : Proceeds input x y := by
  induction turns generalizing x with
  | nil =>
    obtain rfl : y = x := hrecites
    exact proceeds_refl input y
  | cons turn rest ih =>
    obtain ⟨hturn, hrest⟩ := List.forall_mem_cons.mp h
    exact (proceeds_answer (hturn.mono _)).trans (ih hrest hrecites.2)

theorem connection_of_recites {turns : List Turn} {uids : List Uid} {target : String}
    (h : ∀ turn ∈ turns, turn.request ∈ Request.relocating uids target)
    (hrecites : Recites answer turns x y) : y.1 = x.1 := by
  induction turns generalizing x with
  | nil => exact congrArg Prod.fst hrecites
  | cons turn rest ih =>
    obtain ⟨hturn, hrest⟩ := List.forall_mem_cons.mp h
    exact (ih hrest hrecites.2).trans (connection_relocating hturn x.1 x.2)

/-! ### Moves -/

theorem selected_of_select {name : String} {status : MailboxStatus}
    (h : (answer (.select name) x).1 = .ok status) :
    (answer (.select name) x).2.1.selected = some name := by
  obtain ⟨c, s⟩ := x
  simp only [answer, openMailbox] at h ⊢
  split at h
  · cases h
  · split at h
    · cases h
    · rfl

/-- A change of the open mailbox that succeeds is made in the mailbox that is open. -/
theorem changing_changeOpen_eq_ok {f : StoredMailbox → StoredMailbox} {done : Unit}
    (h : (changing c s (do return ((), ← s.changeOpen c f))).1 = .ok done) :
    ∃ name, c.selected = some name ∧
      (changing c s (do return ((), ← s.changeOpen c f))).2.2 = s.put name (f (s.box name)) := by
  rcases changing_cases c s (do return ((), ← s.changeOpen c f)) with
    ⟨fault, hfault⟩ | ⟨a, t, ht, hok⟩
  · rw [hfault] at h
    cases h
  · obtain ⟨t', ht', heq⟩ := bind_eq_ok_iff.mp ht
    obtain ⟨-, rfl⟩ := Prod.mk.inj (Except.ok.inj heq)
    obtain ⟨name, m, hw, hm, rfl⟩ := changeOpen_eq_ok_iff.mp ht'
    rw [hok, ← box_eq_of_mailbox hm]
    exact ⟨name, (writable_eq_ok_iff.mp hw).2.1, rfl⟩

theorem store_eq_ok {uids : List Uid} {mode : StoreMode} {flags : List Flag} {done : Unit}
    (h : (answer (.store uids mode flags) x).1 = .ok done) :
    ∃ name, x.1.selected = some name ∧ (answer (.store uids mode flags) x).2.2 =
      x.2.put name ((x.2.box name).store uids mode flags) := changing_changeOpen_eq_ok h

theorem expunge_eq_ok {done : Unit} (h : (answer .expunge x).1 = .ok done) :
    ∃ name, x.1.selected = some name ∧ (answer .expunge x).2.2 =
      x.2.put name ((x.2.box name).keep fun msg => !msg.flags.contains .deleted) :=
  changing_changeOpen_eq_ok h

/-- No message of a mailbox has an identifier. -/
def Gone (input : String) (uid : Uid) (s : Server) : Prop :=
  ∀ msg ∈ (s.box input).messages, msg.uid ≠ uid

theorem Thins.gone (h : Thins input s t) {uid : Uid} (hgone : s.Gone input uid) :
    t.Gone input uid := by
  intro msg hmsg
  obtain ⟨old, hold, huid, -⟩ := h.left msg hmsg
  exact huid ▸ hgone old hold

theorem gone_moved (s : Server) {target : String} (hne : target ≠ input) (uid : Uid) :
    (s.moved input target [uid]).Gone input uid := by
  intro msg hmsg
  rw [moved, box_put, if_neg (Ne.symm hne), box_put_self] at hmsg
  simpa using (List.mem_filter.mp hmsg).2

/-- Every message of a mailbox that has an identifier carries a flag. -/
def Marked (input : String) (uid : Uid) (f : Flag) (s : Server) : Prop :=
  ∀ msg ∈ (s.box input).messages, msg.uid = uid → f ∈ msg.flags

theorem Thins.marked (h : Thins input s t) {uid : Uid} {f : Flag} (hmarked : s.Marked input uid f) :
    t.Marked input uid f := by
  intro msg hmsg huid
  obtain ⟨old, hold, hsame, -, hflags⟩ := h.left msg hmsg
  exact hflags (hmarked old hold (hsame.symm.trans huid))

theorem marked_store (s : Server) (uid : Uid) (f : Flag) :
    (s.put input ((s.box input).store [uid] .add [f])).Marked input uid (keptFlag f) := by
  intro msg hmsg huid
  rw [box_put_self] at hmsg
  obtain ⟨old, -, rfl⟩ := List.mem_map.mp hmsg
  have hin : old.uid ∈ [uid] := List.mem_singleton.mpr (StoredMessage.uid_revised.symm.trans huid)
  rw [StoredMessage.revised_of_mem hin]
  exact mem_foldl_addFlag.mpr (Or.inr (mem_keptFlags.mpr ⟨f, List.mem_singleton_self f, rfl⟩))

/-- What was marked is gone once all is kept that fits some test which marked messages fail. -/
theorem Marked.gone_keep {uid : Uid} {f : Flag} (h : s.Marked input uid f)
    {p : StoredMessage → Bool}
    (hp : ∀ msg : StoredMessage, msg.uid = uid → f ∈ msg.flags → p msg = false) :
    (s.put input ((s.box input).keep p)).Gone input uid := by
  intro msg hmsg huid
  rw [box_put_self] at hmsg
  obtain ⟨hmem, hkept⟩ := List.mem_filter.mp hmsg
  rw [hp msg huid (h msg hmem huid)] at hkept
  cases hkept

/-- Removing messages that are marked removes them, in one way or the other. -/
theorem gone_of_removing {uid : Uid} {turns : List Turn}
    (h : Talk.Removing [uid] turns (.ok ())) (hopen : x.1.selected = some input)
    (hmarked : x.2.Marked input uid .deleted) (hrecites : Recites answer turns x y) :
    y.2.Gone input uid := by
  obtain ⟨c, s⟩ := x
  cases h with
  | removed =>
    obtain ⟨hreply, rfl⟩ := hrecites
    simp only [answer] at hreply ⊢
    rcases changing_cases c s _ with ⟨fault, hfault⟩ | ⟨a, t, ht, hok⟩
    · rw [hfault] at hreply
      cases hreply
    · obtain ⟨name, -, ht⟩ := bind_eq_ok_iff.mp ht
      split at ht
      · cases ht
      obtain ⟨t', ht', heq⟩ := bind_eq_ok_iff.mp ht
      obtain ⟨-, rfl⟩ := Prod.mk.inj (Except.ok.inj heq)
      obtain ⟨name, m, hw, hm, rfl⟩ := changeOpen_eq_ok_iff.mp ht'
      obtain rfl : input = name :=
        Option.some.inj (hopen.symm.trans (writable_eq_ok_iff.mp hw).2.1)
      rw [hok, ← box_eq_of_mailbox hm]
      exact hmarked.gone_keep fun msg huid hdeleted => by simp [huid, hdeleted]
  | all text reply =>
    obtain ⟨hreply, hexpunge, rfl⟩ := hrecites
    have hrelocating : Request.expungeUids [uid] ∈ Request.relocating [uid] input := by
      simp [Request.relocating]
    have hconnection : (answer (.expungeUids [uid]) (c, s)).2.1 = c :=
      connection_relocating hrelocating c s
    have hsame : (answer (.expungeUids [uid]) (c, s)).2 = (c, s) :=
      Prod.ext hconnection (answer_eq_error hreply)
    simp only [hsame] at hexpunge ⊢
    obtain ⟨name, hname, hserver⟩ := expunge_eq_ok hexpunge
    obtain rfl : input = name := Option.some.inj (hopen.symm.trans hname)
    rw [hserver]
    exact hmarked.gone_keep fun msg _ hdeleted => by simp [hdeleted]

end Server

namespace Talk

open Server (Proceeds Gone)

variable {input target : String} {uid : Uid} {uids : List Uid} {turns : List Turn}
  {x y : Connection × Server}

theorem Removing.relocating {result : Except Fault Unit} (h : Removing uids turns result)
    (target : String) : ∀ turn ∈ turns, turn.request ∈ Request.relocating uids target := by
  cases h <;> simp [Request.relocating]

theorem Attempting.relocating {result : Except Fault (Option Uid)}
    (h : Attempting uids target turns result) :
    ∀ turn ∈ turns, turn.request ∈ Request.relocating uids target := by
  cases h with
  | copied text told hremoving =>
    refine List.forall_mem_cons.mpr ⟨by simp [Request.relocating], ?_⟩
    refine List.forall_mem_cons.mpr ⟨by simp [Request.relocating], ?_⟩
    exact List.forall_mem_cons.mpr ⟨by simp [Request.relocating], hremoving.relocating target⟩
  | _ => simp [Request.relocating]

theorem Retrying.relocating {missing : Fault} {result : Except Fault (Option Uid)}
    (h : Retrying uids target missing turns result) :
    ∀ turn ∈ turns, turn.request ∈ Request.relocating uids target := by
  cases h with
  | again listings hlisted hsecond =>
    refine List.forall_mem_cons.mpr ⟨by simp [Request.relocating], ?_⟩
    exact List.forall_mem_cons.mpr ⟨by simp [Request.relocating], hsecond.relocating⟩
  | _ => simp [Request.relocating]

theorem Moving.drains {source : String} {result : Except Fault (Option Uid)}
    (h : Moving uids source target turns result) (hne : target ≠ input) :
    ∀ turn ∈ turns, turn.request.Drains input (some input) := by
  have hdrains : ∀ turns : List Turn,
      (∀ turn ∈ turns, turn.request ∈ Request.relocating uids target) →
      ∀ turn ∈ turns, turn.request.Drains input (some input) := fun _ hall turn hturn =>
    Server.drains_relocating hne (hall turn hturn)
  cases h with
  | notOpened fault =>
    exact List.forall_mem_cons.mpr ⟨trivial, fun _ h => absurd h List.not_mem_nil⟩
  | once status hfirst hend =>
    exact List.forall_mem_cons.mpr ⟨trivial, hdrains _ hfirst.relocating⟩
  | retried status hfirst hmissing hretry =>
    refine List.forall_mem_cons.mpr ⟨trivial, List.forall_mem_append.mpr ⟨?_, ?_⟩⟩
    · exact hdrains _ hfirst.relocating
    · exact hdrains _ hretry.relocating

/-- The two ways in which an attempt succeeds. -/
theorem Attempting.of_ok {told : Option Uid} (h : Attempting uids target turns (.ok told)) :
    turns = [⟨.move uids target, .ok told⟩] ∨
      ∃ text more, Removing uids more (.ok ()) ∧ turns =
        ⟨.move uids target, .error (.bad text)⟩ :: ⟨.copy uids target, .ok told⟩ ::
          ⟨.store uids .add [.deleted], .ok ()⟩ :: more := by
  generalize hresult : (Except.ok told : Except Fault (Option Uid)) = result at h
  cases h with
  | moved told' =>
    obtain rfl := Except.ok.inj hresult
    exact Or.inl rfl
  | @copied text told' more result hremoving =>
    cases result with
    | error fault => cases hresult
    | ok done =>
      obtain rfl := Except.ok.inj hresult
      exact Or.inr ⟨text, more, hremoving, rfl⟩
  | _ => cases hresult

/-- An attempt at a move that succeeds takes the message away. -/
theorem Attempting.gone {told : Option Uid} (h : Attempting [uid] target turns (.ok told))
    (hne : target ≠ input) (hopen : x.1.selected = some input)
    (hrecites : Recites Server.answer turns x y) : y.2.Gone input uid := by
  rcases h.of_ok with rfl | ⟨text, more, hremoving, rfl⟩
  · obtain ⟨hreply, rfl⟩ := hrecites
    obtain ⟨c, s⟩ := x
    rcases Server.answer_move [uid] target c s with ⟨fault, hmove⟩ | hmove
    · rw [hmove] at hreply
      cases hreply
    rcases Server.copyInto_cases s c [uid] target true with ⟨fault, hcopy⟩ | ⟨source, hw, hcopy⟩
    · rw [hmove, hcopy] at hreply
      cases hreply
    · obtain rfl : input = source :=
        Option.some.inj (hopen.symm.trans (Server.writable_eq_ok_iff.mp hw).2.1)
      rw [hmove, hcopy]
      exact Server.gone_moved s hne uid
  · obtain ⟨-, -, hstore, hrest⟩ := hrecites
    -- The mailbox in which the message is marked is still the one that was open at first.
    generalize hz : (Server.answer (.copy [uid] target)
      (Server.answer (.move [uid] target) x).2).2 = z at hstore hrest
    have hmove : Request.move [uid] target ∈ Request.relocating [uid] target := by
      simp [Request.relocating]
    have hcopy : Request.copy [uid] target ∈ Request.relocating [uid] target := by
      simp [Request.relocating]
    have hsame : z.1 = x.1 := by
      rw [← hz]
      exact (Server.connection_relocating hcopy _ _).trans (Server.connection_relocating hmove _ _)
    obtain ⟨name, hname, hserver⟩ := Server.store_eq_ok hstore
    obtain rfl : input = name :=
      Option.some.inj (hopen.symm.trans ((congrArg Connection.selected hsame).symm.trans hname))
    refine Server.gone_of_removing hremoving ?_ ?_ hrest
    · exact (congrArg Connection.selected (Server.connection_changing _)).trans hname
    · rw [hserver]
      exact Server.marked_store z.2 uid .deleted

/-- A move that succeeds leaves no message of the identifier. -/
theorem Moving.gone {told : Option Uid} (h : Moving [uid] input target turns (.ok told))
    (hne : target ≠ input) (hrecites : Recites Server.answer turns x y) : y.2.Gone input uid := by
  generalize hresult : (Except.ok told : Except Fault (Option Uid)) = result at h
  cases h with
  | notOpened fault => cases hresult
  | once status hfirst hend =>
    obtain ⟨hselect, hfirstRecites⟩ := hrecites
    exact (hresult ▸ hfirst).gone hne (Server.selected_of_select hselect) hfirstRecites
  | retried status hfirst hmissing hretry =>
    obtain ⟨hselect, hrest⟩ := hrecites
    obtain ⟨z, hfirstRecites, hretryRecites⟩ := recites_append.mp hrest
    have hopen : z.1.selected = some input :=
      (congrArg Connection.selected (Server.connection_of_recites hfirst.relocating
        hfirstRecites)).trans (Server.selected_of_select hselect)
    cases hretry with
    | again listings hlisted hsecond =>
      obtain ⟨-, -, hsecondRecites⟩ := hretryRecites
      refine (hresult ▸ hsecond).gone hne ?_ hsecondRecites
      have hcreate : Request.create target ∈ Request.relocating [uid] target := by
        simp [Request.relocating]
      have hsame := Server.connection_relocating hcreate z.1 z.2
      exact (congrArg Connection.selected hsame).trans hopen
    | _ => cases hresult

end Talk

end Postroom
