import Postroom.Proofs.Server.Letter

/-! # Sorting that was interrupted

Sorting turns each letter that is due into what its errand makes of it and leaves the
others (`Letter.sorted`, `Server.letters_dealAll_candidates`).  Doing that twice is doing it
once, since a letter that is due again goes the same way (`Letter.sorted_sorted`).

So if sorting was interrupted and is done again, the letters are those of sorting that
was not, unless a message was left on its way with flags or in a place that keep it from
being due (`Server.Partway.resumes`).  There is at most one such message.  No mailbox is
made that would not have been made, and none is left out (`Server.Partway.leads`).
-/

namespace Postroom

/-! ### Letters that are due -/

namespace Letter

/-- The letter is in the input and carries none of some flags. -/
def IsDue (input : String) (excluded : List Flag) (x : Letter) : Prop :=
  x.place = input ∧ ∀ f ∈ excluded, f ∉ x.flags

instance (input : String) (excluded : List Flag) (x : Letter) :
    Decidable (x.IsDue input excluded) :=
  inferInstanceAs (Decidable (_ ∧ _))

/-- What sorting makes of a letter. -/
def sorted (input : String) (excluded : List Flag) (errand : List UInt8 → Errand) (x : Letter) :
    Letter :=
  if x.IsDue input excluded then (errand x.content).after input x else x

variable {input : String} {excluded : List Flag} {errand : List UInt8 → Errand} {x : Letter}

theorem sorted_of_due (h : x.IsDue input excluded) :
    x.sorted input excluded errand = (errand x.content).after input x := if_pos h

theorem sorted_of_not_due (h : ¬ x.IsDue input excluded) : x.sorted input excluded errand = x :=
  if_neg h

/-- A letter that is due after the first part of its errand goes the whole way. -/
theorem sorted_upTo {front : List (StoreMode × List Flag)}
    (hfront : front <+: (errand x.content).changes)
    (h : (((errand x.content).upTo front).after input x).IsDue input excluded) :
    (((errand x.content).upTo front).after input x).sorted input excluded errand =
      (errand x.content).after input x :=
  (sorted_of_due h).trans ((errand x.content).after_after input hfront x)

theorem sorted_after (x : Letter) :
    ((errand x.content).after input x).sorted input excluded errand =
      (errand x.content).after input x := by
  by_cases h : ((errand x.content).after input x).IsDue input excluded
  · exact sorted_upTo (List.prefix_refl _) h
  · exact sorted_of_not_due h

/-- Sorting again changes nothing. -/
theorem sorted_sorted (x : Letter) : (x.sorted input excluded errand).sorted input excluded errand =
    x.sorted input excluded errand := by
  by_cases h : x.IsDue input excluded
  · rw [sorted_of_due h]
    exact sorted_after x
  · rw [sorted_of_not_due h, sorted_of_not_due h]

end Letter

theorem StoredMessage.isDue_letter {input : String} {excluded : List Flag} {msg : StoredMessage} :
    (msg.letter input).IsDue input excluded ↔ (!excluded.any msg.flags.contains) = true := by
  simp [Letter.IsDue, letter]

namespace Server

variable {s t : Server} {input : String} {excluded : List Flag} {errand : List UInt8 → Errand}
  {msg : StoredMessage} {order rest : List StoredMessage}

theorem isDue_of_candidate (h : msg ∈ (s.box input).candidates excluded) :
    (msg.letter input).IsDue input excluded :=
  StoredMessage.isDue_letter.mpr (List.mem_filter.mp h).2

/-- The letters that are due are those of the candidates. -/
theorem filter_isDue (hs : s.Sound) (input : String) (excluded : List Flag) :
    s.letters.filter (Letter.IsDue input excluded) =
      (((s.box input).candidates excluded).map (StoredMessage.letter input) : List Letter) := by
  have hsplit : s.letters.filter (Letter.IsDue input excluded) =
      (s.letters.filter fun x => x.place = input).filter (Letter.IsDue input excluded) := by
    rw [Multiset.filter_filter]
    refine Multiset.filter_congr fun x _ => ?_
    exact ⟨fun h => ⟨h, h.1⟩, fun h => h.1⟩
  rw [hsplit, filter_letters hs, StoredMailbox.letters, Multiset.filter_coe, List.filter_map]
  refine congrArg (fun l : List StoredMessage => ((l.map _ : List Letter) : Multiset Letter)) ?_
  refine List.filter_congr fun msg _ => ?_
  rw [Bool.eq_iff_iff]
  exact decide_eq_true_iff.trans StoredMessage.isDue_letter

/-- Dealing with all candidates sorts all letters. -/
theorem letters_dealAll_candidates (hs : s.Sound) (hinput : s.mailboxes.has input = true)
    (horder : order.Perm ((s.box input).candidates excluded)) :
    (s.dealAll input (fun msg => (errand msg.content).treatment) order).letters =
      s.letters.map (Letter.sorted input excluded errand) := by
  have hpending := (pending_candidates hs hinput excluded).perm horder
  have hall := letters_dealAll errand hpending
  have hdue : s.letters.filter (Letter.IsDue input excluded) =
      (order.map (StoredMessage.letter input) : List Letter) := by
    rw [filter_isDue hs]
    exact Multiset.coe_eq_coe.mpr (horder.symm.map _)
  set due := s.letters.filter (Letter.IsDue input excluded)
  set others := s.letters.filter fun x => ¬ x.IsDue input excluded
  have hsplit : due + others = s.letters := Multiset.filter_add_not _ _
  have hafter : due.map (Letter.sorted input excluded errand) =
      (order.map fun msg => (errand msg.content).after input (msg.letter input) : List Letter) := by
    rw [hdue, Multiset.map_coe, List.map_map]
    refine congrArg (fun l : List Letter => (l : Multiset Letter)) (List.map_congr_left ?_)
    exact fun msg hmsg => Letter.sorted_of_due (isDue_of_candidate (horder.mem_iff.mp hmsg))
  have hleft : others.map (Letter.sorted input excluded errand) = others :=
    (Multiset.map_congr rfl fun x hx =>
      Letter.sorted_of_not_due (Multiset.mem_filter.mp hx).2).trans (Multiset.map_id' _)
  rw [← hafter, ← hdue] at hall
  refine add_right_cancel (hall.trans ?_)
  calc s.letters + due.map (Letter.sorted input excluded errand)
      = due + others + due.map (Letter.sorted input excluded errand) := by rw [hsplit]
    _ = due.map (Letter.sorted input excluded errand) +
        others.map (Letter.sorted input excluded errand) + due := by
        rw [hleft]
        ac_rfl
    _ = s.letters.map (Letter.sorted input excluded errand) + due := by
        rw [← Multiset.map_add, hsplit]

end Server

/-! ### Messages on their way -/

namespace Errand

/-- The errand of a letter of the input is run in part, and the letter is not due any more. -/
structure Breaks (e : Errand) (input : String) (excluded : List Flag)
    (front : List (StoreMode × List Flag)) (x : Letter) : Prop where
  /-- Some changes of flags have been made, the first ones. -/
  begun : front <+: e.changes
  /-- The letter is not due. -/
  passed : ¬ ((e.upTo front).after input x).IsDue input excluded

end Errand

namespace Server

/-- Sorting one server gives the letters that sorting another gives, or it does but for one message
whose errand broke off.  Then the errands of those in front of it have been run, and nothing
else has been done. -/
inductive Resumes (input : String) (excluded : List Flag) (errand : List UInt8 → Errand)
    (s : Server) (order : List StoredMessage) (t : Server) : Prop
  /-- All letters are the same. -/
  | whole (h : t.letters.map (Letter.sorted input excluded errand) =
      s.letters.map (Letter.sorted input excluded errand))
  /-- One letter is another. -/
  | broken {before behind : List StoredMessage} {msg : StoredMessage}
    {front : List (StoreMode × List Flag)} (horder : order = before ++ msg :: behind)
    (hreached : t = (s.dealAll input (fun msg => (errand msg.content).treatment) before).deal input
      ((errand msg.content).upTo front).treatment msg)
    (hbreaks : (errand msg.content).Breaks input excluded front (msg.letter input))
    (h : t.letters.map (Letter.sorted input excluded errand) +
        {(errand msg.content).after input (msg.letter input)} =
      s.letters.map (Letter.sorted input excluded errand) +
        {((errand msg.content).upTo front).after input (msg.letter input)})

variable {s t : Server} {input : String} {excluded : List Flag} {errand : List UInt8 → Errand}
  {msg : StoredMessage} {order rest : List StoredMessage}

/-- What sorting makes of letters when one of them has become another. -/
theorem map_sorted_deal (errand : List UInt8 → Errand) (h : s.Pending input (msg :: rest))
    (hdue : (msg.letter input).IsDue input excluded) (e : Errand) :
    (s.deal input e.treatment msg).letters.map (Letter.sorted input excluded errand) +
        {(errand msg.content).after input (msg.letter input)} =
      s.letters.map (Letter.sorted input excluded errand) +
        {(e.after input (msg.letter input)).sorted input excluded errand} := by
  have hmap := congrArg (Multiset.map (Letter.sorted input excluded errand)) (letters_deal h e)
  rwa [Multiset.map_add, Multiset.map_add, Multiset.map_singleton, Multiset.map_singleton,
    Letter.sorted_of_due hdue] at hmap

theorem Midway.resumes (h : s.Midway input (errand msg.content) msg t)
    (hpending : s.Pending input (msg :: rest)) (hdue : (msg.letter input).IsDue input excluded) :
    Resumes input excluded errand s (msg :: rest) t := by
  cases h with
  | untouched => exact .whole rfl
  | @made target htarget hnew =>
    have hput := letters_put hpending.sound target StoredMailbox.empty
    rw [box_eq_empty hnew] at hput
    exact .whole (congrArg _ (add_right_cancel hput))
  | @changed front hfront =>
    have hdeal := map_sorted_deal errand hpending hdue ((errand msg.content).upTo front)
    by_cases hagain :
        (((errand msg.content).upTo front).after input (msg.letter input)).IsDue input excluded
    · have hsame : (((errand msg.content).upTo front).after input (msg.letter input)).sorted input
          excluded errand = (errand msg.content).after input (msg.letter input) :=
        Letter.sorted_upTo (x := msg.letter input) hfront hagain
      rw [hsame] at hdeal
      exact .whole (add_right_cancel hdeal)
    · rw [Letter.sorted_of_not_due hagain] at hdeal
      exact .broken (List.nil_append _).symm rfl ⟨hfront, hagain⟩ hdeal

/-- While sorting is under way, sorting resumes it. -/
theorem Partway.resumes (h : Partway input (fun msg => errand msg.content) s order t)
    (hpending : s.Pending input order)
    (hdue : ∀ msg ∈ order, (msg.letter input).IsDue input excluded) :
    Resumes input excluded errand s order t := by
  induction h with
  | nil s => exact .whole rfl
  | here h => exact h.resumes hpending (hdue _ List.mem_cons_self)
  | @next s t msg rest _ ih =>
    obtain ⟨hmsg, hrest⟩ := List.forall_mem_cons.mp hdue
    -- Dealing with the first message leaves nothing else to do with it.
    have hdone : ((errand msg.content).after input (msg.letter input)).sorted input excluded
          errand = (errand msg.content).after input (msg.letter input) :=
      Letter.sorted_after (msg.letter input)
    have hdeal := map_sorted_deal errand hpending hmsg (errand msg.content)
    rw [hdone] at hdeal
    have hsame := add_right_cancel hdeal
    cases ih (hpending.deal _) hrest with
    | whole h => exact .whole (h.trans hsame)
    | @broken before behind torn front horder hreached hbreaks h =>
      have horder' : msg :: rest = (msg :: before) ++ torn :: behind :=
        congrArg (msg :: ·) horder
      exact .broken horder' hreached hbreaks (hsame ▸ h)

/-! ### What is still to be sorted -/

/-- A content of messages that are due. -/
def IsAwaited (s : Server) (input : String) (excluded : List Flag) (content : List UInt8) : Prop :=
  ∃ x ∈ s.letters, x.IsDue input excluded ∧ x.content = content

/-- There is a mailbox of the name, or there will be one when the messages that are due are
sorted. -/
def WillHave (s : Server) (input : String) (excluded : List Flag) (errand : List UInt8 → Errand)
    (name : String) : Prop :=
  s.mailboxes.has name = true ∨
    ∃ content, s.IsAwaited input excluded content ∧ (errand content).target = some name

/-- Nothing is due on the second server that was not due on the first, and in the end there will be
the same mailboxes. -/
structure Leads (input : String) (excluded : List Flag) (errand : List UInt8 → Errand)
    (s t : Server) : Prop where
  /-- What is due was due. -/
  awaited : ∀ content, t.IsAwaited input excluded content → s.IsAwaited input excluded content
  /-- There will be the same mailboxes. -/
  willHave : ∀ name,
    t.WillHave input excluded errand name ↔ s.WillHave input excluded errand name

theorem Leads.refl (input : String) (excluded : List Flag) (errand : List UInt8 → Errand)
    (s : Server) : Leads input excluded errand s s := ⟨fun _ h => h, fun _ => Iff.rfl⟩

theorem Leads.trans {u : Server} (hst : Leads input excluded errand s t)
    (htu : Leads input excluded errand t u) : Leads input excluded errand s u :=
  ⟨fun content h => hst.awaited content (htu.awaited content h),
    fun name => (htu.willHave name).trans (hst.willHave name)⟩

theorem letter_mem_letters (hs : s.Sound) {name : String} (h : msg ∈ (s.box name).messages) :
    msg.letter name ∈ s.letters := by
  have hbox : msg.letter name ∈ (s.box name).letters name :=
    Multiset.mem_coe.mpr (List.mem_map_of_mem h)
  rw [← filter_letters hs] at hbox
  exact (Multiset.mem_filter.mp hbox).1

/-- A step with one message that is due: it keeps all others, and the mailbox that the message is to
be moved to is there when it is not due any more. -/
theorem Leads.of_step {x y : Letter} (hx : x ∈ s.letters) (hdue : x.IsDue input excluded)
    (hletters : t.letters + {x} = s.letters + {y}) (hcontent : y.content = x.content)
    (hhas : ∀ name, t.mailboxes.has name = true ↔
      (errand x.content).target = some name ∨ s.mailboxes.has name = true) :
    Leads input excluded errand s t := by
  have hawaited : ∀ content, t.IsAwaited input excluded content →
      s.IsAwaited input excluded content := by
    rintro content ⟨z, hz, hzdue, rfl⟩
    have hmem : z ∈ s.letters + {y} := hletters ▸ Multiset.mem_add.mpr (Or.inl hz)
    rcases Multiset.mem_add.mp hmem with hold | hnew
    · exact ⟨z, hold, hzdue, rfl⟩
    · rw [Multiset.mem_singleton.mp hnew, hcontent]
      exact ⟨x, hx, hdue, rfl⟩
  refine ⟨hawaited, fun name => ⟨?_, ?_⟩⟩
  · rintro (hthere | ⟨content, hcontent, htarget⟩)
    · rcases (hhas name).mp hthere with htarget | hbefore
      · exact Or.inr ⟨x.content, ⟨x, hx, hdue, rfl⟩, htarget⟩
      · exact Or.inl hbefore
    · exact Or.inr ⟨content, hawaited content hcontent, htarget⟩
  · rintro (hbefore | ⟨content, ⟨z, hz, hzdue, rfl⟩, htarget⟩)
    · exact Or.inl ((hhas name).mpr (Or.inr hbefore))
    · have hmem : z ∈ t.letters + {x} := hletters ▸ Multiset.mem_add.mpr (Or.inl hz)
      rcases Multiset.mem_add.mp hmem with hleft | hgone
      · exact Or.inr ⟨z.content, ⟨z, hleft, hzdue, rfl⟩, htarget⟩
      · rw [Multiset.mem_singleton.mp hgone] at htarget
        exact Or.inl ((hhas name).mpr (Or.inl htarget))

theorem Midway.leads (h : s.Midway input (errand msg.content) msg t)
    (hpending : s.Pending input (msg :: rest)) (hdue : (msg.letter input).IsDue input excluded) :
    Leads input excluded errand s t := by
  have hmem := letter_mem_letters hpending.sound (hpending.here msg List.mem_cons_self)
  cases h with
  | untouched => exact .refl input excluded errand s
  | @made target htarget hnew =>
    have hput := letters_put hpending.sound target StoredMailbox.empty
    rw [box_eq_empty hnew] at hput
    refine .of_step hmem hdue (congrArg (· + {msg.letter input}) (add_right_cancel hput)) rfl
      fun name => ?_
    have hsame : (errand (msg.letter input).content).target = some target := htarget
    rw [has_put, hsame, Bool.or_eq_true, decide_eq_true_iff, Option.some_inj, eq_comm]
  | @changed front hfront =>
    refine .of_step hmem hdue (letters_deal hpending ((errand msg.content).upTo front)) rfl
      fun name => ?_
    rw [has_deal hpending.found, Bool.or_eq_true, decide_eq_true_iff]
    rfl

theorem Partway.leads (h : Partway input (fun msg => errand msg.content) s order t)
    (hpending : s.Pending input order)
    (hdue : ∀ msg ∈ order, (msg.letter input).IsDue input excluded) :
    Leads input excluded errand s t := by
  induction h with
  | nil s => exact .refl input excluded errand s
  | here h => exact h.leads hpending (hdue _ List.mem_cons_self)
  | @next s t msg rest _ ih =>
    obtain ⟨hmsg, hrest⟩ := List.forall_mem_cons.mp hdue
    have hfirst : s.Midway input (errand msg.content) msg
        (s.deal input (errand msg.content).treatment msg) := .changed (List.prefix_refl _)
    exact (hfirst.leads hpending hmsg).trans (ih (hpending.deal _) hrest)

theorem isAwaited_iff (hs : s.Sound) {content : List UInt8} : s.IsAwaited input excluded content ↔
    ∃ msg ∈ (s.box input).candidates excluded, msg.content = content := by
  constructor
  · rintro ⟨x, hx, hdue, rfl⟩
    have hmem := Multiset.mem_filter.mpr ⟨hx, hdue⟩
    rw [filter_isDue hs] at hmem
    obtain ⟨msg, hmsg, rfl⟩ := List.mem_map.mp (Multiset.mem_coe.mp hmem)
    exact ⟨msg, hmsg, rfl⟩
  · rintro ⟨msg, hmsg, rfl⟩
    exact ⟨msg.letter input, letter_mem_letters hs (List.mem_of_mem_filter hmsg),
      isDue_of_candidate hmsg, rfl⟩

/-- After sorting there are the mailboxes that there will be. -/
theorem has_dealAll_candidates (hs : s.Sound) (hinput : s.mailboxes.has input = true)
    (horder : order.Perm ((s.box input).candidates excluded)) (name : String) :
    (s.dealAll input (fun msg => (errand msg.content).treatment) order).mailboxes.has name = true ↔
      s.WillHave input excluded errand name := by
  have hbound : (!(Treatment.bound (fun msg => (errand msg.content).treatment) name order).isEmpty)
      = true ↔ ∃ msg ∈ order, (errand msg.content).target = some name := by
    simp only [Treatment.bound, Errand.treatment, Bool.not_eq_true', List.isEmpty_eq_false_iff,
      ne_eq, List.filter_eq_nil_iff, not_forall, not_not, exists_prop]
    exact exists_congr fun msg => and_congr_right fun _ => decide_eq_true_iff
  rw [has_dealAll hinput, Bool.or_eq_true, hbound, or_comm]
  refine or_congr_right ⟨?_, ?_⟩
  · rintro ⟨msg, hmsg, htarget⟩
    exact ⟨_, (isAwaited_iff hs).mpr ⟨msg, horder.mem_iff.mp hmsg, rfl⟩, htarget⟩
  · rintro ⟨_, hawaited, htarget⟩
    obtain ⟨msg, hmsg, rfl⟩ := (isAwaited_iff hs).mp hawaited
    exact ⟨msg, horder.mem_iff.mpr hmsg, htarget⟩

end Server

end Postroom
