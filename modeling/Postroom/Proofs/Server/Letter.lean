import Mathlib.Data.Finset.Basic
import Mathlib.Algebra.Order.Group.Multiset
import Postroom.Proofs.Server.Errand

/-! # What there is of a message

Where a message is, which flags it has and what it says: that is all of it but for its
identifier and its place among the others.  A `Letter` is just this, and the letters of a
server (`Server.letters`) are those of all its mailboxes, each as often as it is there.

An errand turns one letter into another (`Errand.after`), and it does nothing else to a
server: what comes out is balanced against what went in (`Server.letters_deal`,
`Server.letters_dealAll`).
-/

namespace Postroom

namespace Server

/-! ### Sets of flags -/

/-- Combines sets of flags as lists of flags are combined. -/
def combineSets (mode : StoreMode) (given flags : Finset Flag) : Finset Flag :=
  match mode with
  | .add => flags ∪ given
  | .remove => flags \ given
  | .replace => given

theorem toFinset_combine (mode : StoreMode) (given flags : List Flag) :
    (combine mode given flags).toFinset = combineSets mode given.toFinset flags.toFinset := by
  ext f
  cases mode with
  | add => simp [combine, combineSets, mem_foldl_addFlag]
  | remove => simp [combine, combineSets]
  | replace => rfl

/-- A set of flags after changes that are made one after the other. -/
def reviseSet (changes : List (StoreMode × List Flag)) (flags : Finset Flag) : Finset Flag :=
  changes.foldl (fun flags change => combineSets change.1 (keptFlags change.2).toFinset flags) flags

theorem toFinset_reviseBy (changes : List (StoreMode × List Flag)) (flags : List Flag) :
    (reviseBy changes flags).toFinset = reviseSet changes flags.toFinset := by
  induction changes generalizing flags with
  | nil => rfl
  | cons change rest ih =>
    refine (ih _).trans ?_
    rw [toFinset_combine]
    rfl

/-- A change says whether messages have a flag afterwards. -/
def Decides (f : Flag) (change : StoreMode × List Flag) : Prop :=
  change.1 = .replace ∨ f ∈ keptFlags change.2

section Deciding
variable {f : Flag} {change : StoreMode × List Flag} {changes front : List (StoreMode × List Flag)}
  {F G : Finset Flag}

theorem mem_combineSets_of_decides (h : Decides f change) :
    f ∈ combineSets change.1 (keptFlags change.2).toFinset F ↔
      f ∈ combineSets change.1 (keptFlags change.2).toFinset G := by
  obtain ⟨mode, given⟩ := change
  cases mode with
  | replace => exact Iff.rfl
  | add | remove =>
    have hgiven : f ∈ keptFlags given := h.resolve_left (by simp)
    simp [combineSets, hgiven]

theorem mem_combineSets_of_not_decides (h : ¬ Decides f change) :
    f ∈ combineSets change.1 (keptFlags change.2).toFinset F ↔ f ∈ F := by
  obtain ⟨mode, given⟩ := change
  obtain ⟨hmode, hgiven⟩ := not_or.mp h
  cases mode with
  | replace => exact absurd rfl hmode
  | add | remove => simp [combineSets, hgiven]

theorem mem_reviseSet_of_not_decides (h : ∀ change ∈ changes, ¬ Decides f change) :
    f ∈ reviseSet changes F ↔ f ∈ F := by
  induction changes generalizing F with
  | nil => exact Iff.rfl
  | cons change rest ih =>
    obtain ⟨hfirst, hrest⟩ := List.forall_mem_cons.mp h
    exact (ih hrest).trans (mem_combineSets_of_not_decides hfirst)

/-- The last change that decides counts; only without any it matters what was before. -/
theorem mem_reviseSet_congr (h : (∀ change ∈ changes, ¬ Decides f change) → (f ∈ F ↔ f ∈ G)) :
    f ∈ reviseSet changes F ↔ f ∈ reviseSet changes G := by
  induction changes generalizing F G with
  | nil => exact h fun change hchange => absurd hchange List.not_mem_nil
  | cons change rest ih =>
    refine ih fun hrest => ?_
    by_cases hfirst : Decides f change
    · exact mem_combineSets_of_decides hfirst
    · rw [mem_combineSets_of_not_decides hfirst, mem_combineSets_of_not_decides hfirst]
      exact h (List.forall_mem_cons.mpr ⟨hfirst, hrest⟩)

/-- If some changes were made already, making all of them comes to the same. -/
theorem reviseSet_reviseSet (h : front <+: changes) (F : Finset Flag) :
    reviseSet changes (reviseSet front F) = reviseSet changes F := by
  ext f
  exact mem_reviseSet_congr fun hnone =>
    mem_reviseSet_of_not_decides fun change hchange => hnone change (h.subset hchange)

end Deciding

end Server

/-! ### Letters -/

/-- What there is of a message. -/
structure Letter where
  /-- The mailbox it is in. -/
  place : String
  /-- Its flags. -/
  flags : Finset Flag
  /-- Its content. -/
  content : List UInt8
deriving DecidableEq

/-- A message of a mailbox. -/
def StoredMessage.letter (place : String) (msg : StoredMessage) : Letter :=
  ⟨place, msg.flags.toFinset, msg.content⟩

namespace StoredMailbox

variable {m : StoredMailbox} {msg : StoredMessage}

/-- The messages of a mailbox. -/
def letters (place : String) (m : StoredMailbox) : Multiset Letter :=
  (m.messages.map (StoredMessage.letter place) : List Letter)

theorem letters_push (m : StoredMailbox) (place : String) (flags : List Flag)
    (content : List UInt8) : (m.push flags content).letters place =
      m.letters place + {⟨place, flags.toFinset, content⟩} := by
  rw [letters, push, List.map_append, ← Multiset.coe_add]
  rfl

theorem letters_of_split {before after : List StoredMessage} (place : String)
    (h : m.messages = before ++ msg :: after) :
    m.letters place = {msg.letter place} +
      ((before ++ after).map (StoredMessage.letter place) : List Letter) := by
  rw [letters, h, Multiset.singleton_add, Multiset.cons_coe, ← List.map_cons]
  exact Multiset.coe_eq_coe.mpr (List.perm_middle.map _)

theorem letters_reflag (hm : m.Sound) (hmsg : msg ∈ m.messages) (place : String)
    (f : List Flag → List Flag) :
    (m.reflag msg.uid f).letters place + {msg.letter place} =
      m.letters place + {⟨place, (f msg.flags).toFinset, msg.content⟩} := by
  obtain ⟨before, after, heq, hbefore, hafter⟩ := hm.exists_split hmsg
  have hkeep : ∀ l : List StoredMessage, (∀ other ∈ l, other.uid ≠ msg.uid) →
      (l.map fun other => if other.uid = msg.uid then { other with flags := f other.flags }
        else other) = l := by
    intro l hl
    refine (List.map_congr_left fun other hother => ?_).trans l.map_id'
    exact if_neg (hl other hother)
  have hsplit : (m.reflag msg.uid f).messages =
      before ++ { msg with flags := f msg.flags } :: after := by
    rw [reflag, messages_change, heq, List.map_append, List.map_cons, hkeep before hbefore,
      hkeep after hafter, if_pos rfl]
  have hletter : StoredMessage.letter place { msg with flags := f msg.flags } =
      ⟨place, (f msg.flags).toFinset, msg.content⟩ := rfl
  rw [letters_of_split place heq, letters_of_split place hsplit, hletter]
  ac_rfl

theorem letters_without (hm : m.Sound) (hmsg : msg ∈ m.messages) (place : String) :
    (m.without [msg.uid]).letters place + {msg.letter place} = m.letters place := by
  obtain ⟨before, after, heq, hbefore, hafter⟩ := hm.exists_split hmsg
  have hkeep : ∀ l : List StoredMessage, (∀ other ∈ l, other.uid ≠ msg.uid) →
      (l.filter fun other => !([msg.uid].contains other.uid)) = l := by
    intro l hl
    refine List.filter_eq_self.mpr fun other hother => ?_
    simpa using hl other hother
  have hsplit : (m.without [msg.uid]).messages = before ++ after := by
    rw [without, messages_keep, heq, List.filter_append, List.filter_cons_of_neg (by simp),
      hkeep before hbefore, hkeep after hafter]
  rw [letters_of_split place heq, letters, hsplit, add_comm]

end StoredMailbox

namespace Server

variable {s : Server} {input : String} {msg : StoredMessage} {rest : List StoredMessage}

/-- The messages of all mailboxes. -/
def letters (s : Server) : Multiset Letter := (s.mailboxes.map fun e => e.2.letters e.1).sum

theorem letters_put (hs : s.Sound) (name : String) (m : StoredMailbox) :
    (s.put name m).letters + (s.box name).letters name = s.letters + m.letters name := by
  have hbox : ((s.mailboxes.get? name).map (StoredMailbox.letters name)).getD 0 =
      (s.box name).letters name := by
    unfold box
    cases s.mailboxes.get? name <;> rfl
  rw [← hbox]
  exact Assoc.sum_insert hs.ascending (fun name m => m.letters name) name m

/-- The letters of a place are those of the mailbox. -/
theorem filter_letters (hs : s.Sound) (name : String) :
    s.letters.filter (fun x => x.place = name) = (s.box name).letters name := by
  have hplace : ∀ (k : String) (m : StoredMailbox), ∀ x ∈ m.letters k, x.place = k := by
    intro k m x hx
    obtain ⟨msg, -, rfl⟩ := List.mem_map.mp (Multiset.mem_coe.mp hx)
    rfl
  have htable : ∀ t : Assoc StoredMailbox, t.Ascending →
      (t.map fun e : String × StoredMailbox => e.2.letters e.1).sum.filter
          (fun x => x.place = name) =
        ((t.get? name).getD .empty).letters name := by
    intro t ht
    induction t with
    | nil => rfl
    | cons head rest ih =>
      obtain ⟨k, v⟩ := head
      obtain ⟨hhead, hrest⟩ := List.pairwise_cons.mp ht
      rw [List.map_cons, List.sum_cons, Multiset.filter_add, ih hrest, Assoc.get?]
      by_cases hk : k = name
      · subst hk
        have hnone : Assoc.get? k rest = none := by
          cases hget : Assoc.get? k rest with
          | none => rfl
          | some w => exact absurd (hhead _ (Assoc.mem_of_get? hget)) (String.lt_irrefl k)
        rw [Multiset.filter_eq_self.mpr (hplace k v), hnone, if_pos rfl]
        exact add_zero _
      · rw [Multiset.filter_eq_nil.mpr fun x hx heq => hk ((hplace k v x hx).symm.trans heq),
          if_neg hk]
        exact zero_add _
  exact htable s.mailboxes hs.ascending

/-! ### Errands -/

end Server

namespace Errand

/-- All changes of flags; a message that is moved is no longer recent. -/
def steps (e : Errand) : List (StoreMode × List Flag) :=
  match e.target with
  | none => e.changes
  | some _ => (.remove, [.recent]) :: e.changes

theorem steps_upTo (e : Errand) {front : List (StoreMode × List Flag)} (h : front <+: e.changes) :
    (e.upTo front).steps <+: e.steps := by
  unfold steps upTo
  cases e.target with
  | none => exact h
  | some target => exact List.cons_prefix_cons.mpr ⟨rfl, h⟩

/-- What becomes of a letter of the input. -/
def after (e : Errand) (input : String) (x : Letter) : Letter :=
  ⟨e.target.getD input, Server.reviseSet e.steps x.flags, x.content⟩

/-- If an errand was run in part before, running it comes to the same. -/
theorem after_after (e : Errand) (input : String) {front : List (StoreMode × List Flag)}
    (h : front <+: e.changes) (x : Letter) :
    e.after input ((e.upTo front).after input x) = e.after input x :=
  congrArg (Letter.mk (e.target.getD input) · x.content)
    (Server.reviseSet_reviseSet (e.steps_upTo h) x.flags)

theorem after_letter (e : Errand) (input : String) (msg : StoredMessage) :
    e.after input (msg.letter input) =
      ⟨e.target.getD input, (Server.reviseBy e.steps msg.flags).toFinset, msg.content⟩ :=
  congrArg (Letter.mk (e.target.getD input) · msg.content)
    (Server.toFinset_reviseBy e.steps msg.flags).symm

/-- The flags of a message that is moved. -/
theorem flagsMoved_treatment (e : Errand) (msg : StoredMessage) :
    e.treatment.flagsMoved msg = Server.reviseBy ((.remove, [.recent]) :: e.changes) msg.flags := by
  have hrecent : msg.flags.filter (· ≠ .recent) =
      Server.combine .remove (Server.keptFlags [.recent]) msg.flags := by
    have hkept : Server.keptFlags [.recent] = [.recent] := rfl
    rw [hkept]
    exact List.filter_congr fun f _ => by simp
  show Server.reviseBy e.changes (msg.flags.filter (· ≠ .recent)) = _
  rw [hrecent]
  rfl

end Errand

namespace Server

variable {s : Server} {input : String} {msg : StoredMessage} {rest order : List StoredMessage}

/-- What goes in and what comes out when a message is dealt with. -/
theorem letters_deal (h : s.Pending input (msg :: rest)) (e : Errand) :
    (s.deal input e.treatment msg).letters + {msg.letter input} =
      s.letters + {e.after input (msg.letter input)} := by
  have hbox := h.sound.box input
  have hmsg := h.here msg List.mem_cons_self
  -- What the mailbox loses the server loses.
  have hbalance : ∀ {m : StoredMailbox} {y : Multiset Letter},
      m.letters input + {msg.letter input} = (s.box input).letters input + y →
      (s.put input m).letters + {msg.letter input} = s.letters + y := by
    intro m y hy
    refine add_right_cancel (b := (s.box input).letters input) ?_
    calc (s.put input m).letters + {msg.letter input} + (s.box input).letters input
        = (s.put input m).letters + (s.box input).letters input + {msg.letter input} :=
          add_right_comm _ _ _
      _ = s.letters + (m.letters input + {msg.letter input}) := by
          rw [letters_put h.sound, add_assoc]
      _ = s.letters + y + (s.box input).letters input := by
          rw [hy, add_assoc, add_comm y]
  rw [Errand.after_letter]
  unfold deal Errand.steps
  cases htarget : e.target with
  | none =>
    have hnone : e.treatment.target = none := htarget
    simp only [hnone]
    exact hbalance (StoredMailbox.letters_reflag hbox hmsg input (reviseBy e.changes))
  | some target =>
    have hsome : e.treatment.target = some target := htarget
    simp only [hsome]
    set left := s.put input ((s.box input).without [msg.uid]) with hleft
    have hleftSound : left.Sound := h.sound.put input (hbox.keep _)
    have hout : left.letters + {msg.letter input} = s.letters + 0 :=
      hbalance ((StoredMailbox.letters_without hbox hmsg input).trans (add_zero _).symm)
    have hin := letters_put hleftSound target
      ((left.box target).push (e.treatment.flagsMoved msg) msg.content)
    rw [StoredMailbox.letters_push, add_comm ((left.box target).letters target), ← add_assoc] at hin
    rw [add_right_cancel hin, add_right_comm, hout, add_zero, Errand.flagsMoved_treatment]
    rfl

/-- So it is when messages are dealt with in a row. -/
theorem letters_dealAll (errand : List UInt8 → Errand) (h : s.Pending input order) :
    (s.dealAll input (fun msg => (errand msg.content).treatment) order).letters +
        (order.map (StoredMessage.letter input) : List Letter) =
      s.letters + (order.map fun msg =>
        (errand msg.content).after input (msg.letter input) : List Letter) := by
  induction order generalizing s with
  | nil => rfl
  | cons msg rest ih =>
    have hrest := ih (h.deal (errand msg.content).treatment)
    have hmsg := letters_deal h (errand msg.content)
    rw [List.map_cons, List.map_cons, ← Multiset.cons_coe, ← Multiset.cons_coe,
      ← Multiset.singleton_add, ← Multiset.singleton_add, ← add_assoc, ← add_assoc, ← hmsg,
      add_right_comm, add_right_comm _ {msg.letter input}]
    exact congrArg (· + {msg.letter input}) hrest

end Server

end Postroom
