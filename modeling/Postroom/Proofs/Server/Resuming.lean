import Postroom.Proofs.Server.Census
import Postroom.Proofs.Server.Underway

/-! # Sorting again

What the census says of servers on which sorting is under way is said here of sorting
itself: a server on which sorting was interrupted can be read like the one on which it was
begun (`Server.Partway.readable`), and sorting it leaves the mailboxes that sorting twice
without an interruption leaves, with the same messages but for one at most
(`Server.sorted_again`).  That one was matched by a filter, and sorting was interrupted when it
had been moved and some changes of its flags had been made, and before others that count; where
it is now it is not sorted any more (`Server.Halfway`).
-/

namespace Postroom

namespace Server

/-- Each mailbox has the same messages on two servers. -/
def SameMail (s t : Server) : Prop :=
  ∀ name, (s.box name).letters name = (t.box name).letters name

/-- Each mailbox has the same messages on two servers but for one message, which is one letter on
the first and another on the second. -/
structure SameMailBut (x y : Letter) (s t : Server) : Prop where
  /-- The letters are in one place. -/
  place : x.place = y.place
  /-- In other places nothing is different. -/
  elsewhere : ∀ name, name ≠ x.place → (s.box name).letters name = (t.box name).letters name
  /-- In this place nothing else is different. -/
  here : ∃ others, (s.box x.place).letters x.place = x ::ₘ others ∧
    (t.box x.place).letters x.place = y ::ₘ others

section Comparing
variable {s t : Server} {x y : Letter}

theorem sameMail_of_letters (hs : s.Sound) (ht : t.Sound) (h : s.letters = t.letters) :
    SameMail s t := by
  intro name
  rw [← filter_letters hs, ← filter_letters ht, h]

theorem sameMailBut_of_letters (hs : s.Sound) (ht : t.Sound) (hplace : x.place = y.place)
    (hne : x ≠ y) (h : s.letters + {y} = t.letters + {x}) : SameMailBut x y s t := by
  have hfilter : ∀ name, (s.box name).letters name + Multiset.filter (fun z => z.place = name) {y} =
      (t.box name).letters name + Multiset.filter (fun z => z.place = name) {x} := by
    intro name
    rw [← filter_letters hs, ← filter_letters ht, ← Multiset.filter_add, h, Multiset.filter_add]
  refine ⟨hplace, fun name hname => ?_, ?_⟩
  · have hnone : ∀ z : Letter, z.place ≠ name →
        Multiset.filter (fun z => z.place = name) {z} = 0 := by
      intro z hz
      rw [Multiset.filter_singleton, if_neg hz]
      rfl
    have hname' := hfilter name
    rwa [hnone y (hplace ▸ Ne.symm hname), hnone x (Ne.symm hname), add_zero, add_zero] at hname'
  · have hone : ∀ z : Letter, z.place = x.place →
        Multiset.filter (fun z => z.place = x.place) {z} = {z} := by
      intro z hz
      rw [Multiset.filter_singleton, if_pos hz]
    have hhere := hfilter x.place
    rw [hone y hplace.symm, hone x rfl] at hhere
    -- The letters are different, so each is on its side.
    have hmem : x ∈ (s.box x.place).letters x.place := by
      have hin : x ∈ (s.box x.place).letters x.place + {y} :=
        hhere ▸ Multiset.mem_add.mpr (Or.inr (Multiset.mem_singleton_self x))
      exact (Multiset.mem_add.mp hin).resolve_right fun hy => hne (Multiset.mem_singleton.mp hy)
    obtain ⟨others, hothers⟩ := Multiset.exists_cons_of_mem hmem
    refine ⟨others, hothers, ?_⟩
    refine add_right_cancel (b := {x}) (hhere.symm.trans ?_)
    rw [hothers, ← Multiset.singleton_add, ← Multiset.singleton_add]
    ac_rfl

end Comparing

section Sorting
variable {s t : Server} {input fallback : String} {excluded : List Flag} {filters : Assoc Filter}

theorem inTurn_perm (s : Server) (input : String) (excluded : List Flag) (filters : Assoc Filter) :
    (s.inTurn input excluded filters).Perm ((s.box input).candidates excluded) := dealt_perm _ _

theorem letters_sorted (hs : s.Sound) (h : s.Readable input excluded) (fallback : String)
    (filters : Assoc Filter) : (s.sorted input excluded fallback filters).letters =
      s.letters.map (Letter.sorted input excluded (errand input fallback filters)) :=
  letters_dealAll_candidates hs h.found (s.inTurn_perm input excluded filters)

theorem has_sorted (hs : s.Sound) (h : s.Readable input excluded) (fallback : String)
    (filters : Assoc Filter) (name : String) :
    (s.sorted input excluded fallback filters).mailboxes.has name = true ↔
      s.WillHave input excluded (errand input fallback filters) name :=
  has_dealAll_candidates hs h.found (s.inTurn_perm input excluded filters) name

theorem readable_iff (hs : s.Sound) : s.Readable input excluded ↔
    s.mailboxes.has input = true ∧ ∀ content, s.IsAwaited input excluded content →
      ∃ headers, Header.ofBlock (StoredMessage.header ⟨0, [], content⟩) .empty = .ok headers := by
  constructor
  · rintro ⟨hfound, hheaders⟩
    refine ⟨hfound, fun content hcontent => ?_⟩
    obtain ⟨msg, hmsg, rfl⟩ := (isAwaited_iff hs).mp hcontent
    exact hheaders msg hmsg
  · rintro ⟨hfound, hheaders⟩
    exact ⟨hfound, fun msg hmsg => hheaders msg.content ((isAwaited_iff hs).mpr ⟨msg, hmsg, rfl⟩)⟩

/-- A server on which messages are being sorted. -/
abbrev Sorting (input : String) (excluded : List Flag) (fallback : String) (filters : Assoc Filter)
    (s t : Server) : Prop :=
  Partway input (fun msg => errand input fallback filters msg.content) s
    (s.inTurn input excluded filters) t

variable (hs : s.Sound) (hread : s.Readable input excluded)

include hs hread in
theorem pending_inTurn (filters : Assoc Filter) :
    s.Pending input (s.inTurn input excluded filters) :=
  (pending_candidates hs hread.found excluded).perm (s.inTurn_perm input excluded filters)

theorem isDue_inTurn {msg : StoredMessage} (hmsg : msg ∈ s.inTurn input excluded filters) :
    (msg.letter input).IsDue input excluded :=
  isDue_of_candidate ((s.inTurn_perm input excluded filters).mem_iff.mp hmsg)

include hs hread in
theorem Sorting.leads (h : Sorting input excluded fallback filters s t) :
    Leads input excluded (errand input fallback filters) s t :=
  Partway.leads h (pending_inTurn hs hread filters) fun _ hmsg => isDue_inTurn hmsg

include hs hread in
theorem Sorting.resumes (h : Sorting input excluded fallback filters s t) :
    Resumes input excluded (errand input fallback filters) s (s.inTurn input excluded filters) t :=
  Partway.resumes h (pending_inTurn hs hread filters) fun _ hmsg => isDue_inTurn hmsg

include hs hread in
theorem Sorting.sound (h : Sorting input excluded fallback filters s t) : t.Sound :=
  Partway.sound h (pending_inTurn hs hread filters)

include hs hread in
theorem Sorting.readable (h : Sorting input excluded fallback filters s t) :
    t.Readable input excluded := by
  have hheaders := ((readable_iff hs).mp hread).2
  refine (readable_iff (h.sound hs hread)).mpr
    ⟨Partway.found h hread.found, fun content hcontent => ?_⟩
  exact hheaders content ((h.leads hs hread).awaited content hcontent)

theorem sorting_sorted (s : Server) (input : String) (excluded : List Flag) (fallback : String)
    (filters : Assoc Filter) :
    Sorting input excluded fallback filters s (s.sorted input excluded fallback filters) :=
  Partway.finish input _ s _

/-- A message on which a filter was at work when sorting was interrupted at the second server: some
changes of its flags were still to be made, and with those that were made it is not sorted again. -/
structure Halfway (s torn : Server) (input : String) (excluded : List Flag) (fallback : String)
    (filters : Assoc Filter) (msg : StoredMessage) (filter : Filter)
    (front : List (StoreMode × List Flag)) : Prop where
  /-- It was to be sorted. -/
  candidate : msg ∈ (s.box input).candidates excluded
  /-- The filter is the first that matches it. -/
  matched : ∃ headers, Header.ofBlock msg.header .empty = .ok headers ∧
    Filter.firstMatch headers (Filter.ordered filters) = .ok (some filter)
  /-- Some changes were made, and some were not. -/
  begun : ∃ later, later ≠ [] ∧ filter.commands.changes = front ++ later
  /-- So far the messages in front of it had been sorted, it had been moved if it is to be, these
  changes had been made, and nothing else had been done. -/
  reached : ∃ before behind, s.inTurn input excluded filters = before ++ msg :: behind ∧
    torn.mailboxes = ((s.dealAll input
      (fun msg => (errand input fallback filters msg.content).treatment) before).deal input
        ((Errand.ofCommands filter.commands).upTo front).treatment msg).mailboxes
  /-- A change that was not made counts. -/
  wanting : ((Errand.ofCommands filter.commands).upTo front).after input (msg.letter input) ≠
    (Errand.ofCommands filter.commands).after input (msg.letter input)
  /-- It is not sorted again. -/
  passed : ¬ (((Errand.ofCommands filter.commands).upTo front).after input
    (msg.letter input)).IsDue input excluded

theorem Halfway.of_mailboxes {torn torn' : Server} {msg : StoredMessage} {filter : Filter}
    {front : List (StoreMode × List Flag)} (hsame : torn'.mailboxes = torn.mailboxes)
    (h : Halfway s torn input excluded fallback filters msg filter front) :
    Halfway s torn' input excluded fallback filters msg filter front :=
  { h with
    reached := by
      obtain ⟨before, behind, horder, hmailboxes⟩ := h.reached
      exact ⟨before, behind, horder, hsame.trans hmailboxes⟩ }

/-- An errand of the fallback cannot break off halfway: it has one change at most, and before that
the message is where it was. -/
theorem not_breaks_ofFallback {front : List (StoreMode × List Flag)} {x : Letter}
    (hdue : x.IsDue input excluded)
    (hbreaks : (Errand.ofFallback input fallback).Breaks input excluded front x) :
    front = (Errand.ofFallback input fallback).changes := by
  obtain ⟨hbegun, hpassed⟩ := hbreaks
  unfold Errand.ofFallback at hbegun hpassed ⊢
  split at hbegun
  · next hstay =>
    rw [if_pos hstay] at hpassed ⊢
    rcases List.prefix_cons_iff.mp hbegun with rfl | ⟨rest, rfl, hrest⟩
    · refine absurd ?_ hpassed
      have hsame : Errand.after ⟨none, []⟩ input x = x := by
        obtain ⟨place, flags, content⟩ := x
        obtain rfl : place = input := hdue.1
        rfl
      exact hsame.symm ▸ hdue
    · rw [List.prefix_nil.mp hrest]
  · next hstay =>
    rw [if_neg hstay]
    exact List.prefix_nil.mp hbegun

include hs hread in
/-- **Sorting resumes what was interrupted.** -/
theorem sorted_again (hdecided : Filter.Decided filters)
    (h : Sorting input excluded fallback filters s t) (generation logins : Nat) :
    let again := { t with generation := generation, logins := logins }
    let torn := again.sorted input excluded fallback filters
    let calm := (s.sorted input excluded fallback filters).sorted input excluded fallback filters
    (∀ name, torn.mailboxes.has name = calm.mailboxes.has name) ∧
      (SameMail torn calm ∨ ∃ msg filter front,
        Halfway s t input excluded fallback filters msg filter front ∧
        SameMailBut
          (((Errand.ofCommands filter.commands).upTo front).after input (msg.letter input))
          ((Errand.ofCommands filter.commands).after input (msg.letter input)) torn calm) := by
  intro again torn calm
  have hsorted := sorting_sorted s input excluded fallback filters
  have ht := h.sound hs hread
  have hagain : again.Sound := ⟨ht.ascending, ht.boxes⟩
  have hreadAgain : again.Readable input excluded := by
    obtain ⟨hfound, hheaders⟩ := h.readable hs hread
    exact ⟨hfound, hheaders⟩
  have hone := hsorted.sound hs hread
  have hreadOne := hsorted.readable hs hread
  have htorn : torn.Sound :=
    (sorting_sorted again input excluded fallback filters).sound hagain hreadAgain
  have hcalm : calm.Sound := (sorting_sorted _ input excluded fallback filters).sound hone hreadOne
  have hhas : ∀ name, torn.mailboxes.has name = calm.mailboxes.has name := by
    intro name
    rw [Bool.eq_iff_iff, has_sorted hagain hreadAgain, has_sorted hone hreadOne]
    exact ((h.leads hs hread).willHave name).trans ((hsorted.leads hs hread).willHave name).symm
  have hletters : torn.letters =
      t.letters.map (Letter.sorted input excluded (errand input fallback filters)) :=
    letters_sorted hagain hreadAgain fallback filters
  have hlettersCalm : calm.letters =
      s.letters.map (Letter.sorted input excluded (errand input fallback filters)) := by
    refine (letters_sorted hone hreadOne fallback filters).trans ?_
    rw [letters_sorted hs hread, Multiset.map_map]
    exact Multiset.map_congr rfl fun x _ => Letter.sorted_sorted x
  refine ⟨hhas, ?_⟩
  cases h.resumes hs hread with
  | whole hwhole =>
    exact Or.inl (sameMail_of_letters htorn hcalm (hletters.trans (hwhole.trans hlettersCalm.symm)))
  | @broken before behind msg front horder hreached hbreaks hbroken =>
    have hmsg : msg ∈ s.inTurn input excluded filters :=
      horder ▸ List.mem_append_right before List.mem_cons_self
    rw [← hletters, ← hlettersCalm] at hbroken
    by_cases hsame : ((errand input fallback filters msg.content).upTo front).after input
          (msg.letter input) =
        (errand input fallback filters msg.content).after input (msg.letter input)
    · rw [hsame] at hbroken
      exact Or.inl (sameMail_of_letters htorn hcalm (add_right_cancel hbroken))
    · have hunfinished : front ≠ (errand input fallback filters msg.content).changes :=
        fun heq => hsame (heq ▸ rfl)
      have hcandidate := (s.inTurn_perm input excluded filters).mem_iff.mp hmsg
      obtain ⟨headers, hheaders⟩ := hread.headers msg hcandidate
      have hfirst := Filter.firstMatch_chosen hdecided hheaders
      cases hchosen : Filter.chosen filters msg.content with
      | none =>
        rw [errand, hchosen] at hbreaks hunfinished
        exact absurd (not_breaks_ofFallback (isDue_inTurn hmsg) hbreaks) hunfinished
      | some filter =>
        have herrand : errand input fallback filters msg.content = .ofCommands filter.commands := by
          rw [errand, hchosen]
          rfl
        rw [herrand] at hreached hbreaks hunfinished hsame hbroken
        rw [hchosen] at hfirst
        obtain ⟨later, hlater⟩ := hbreaks.begun
        refine Or.inr ⟨msg, filter, front, ⟨hcandidate, ⟨headers, hheaders, hfirst⟩,
          ⟨later, ?_, hlater.symm⟩, ⟨before, behind, horder, congrArg mailboxes hreached⟩, hsame,
          hbreaks.passed⟩, ?_⟩
        · rintro rfl
          exact hunfinished ((List.append_nil front).symm.trans hlater)
        · exact sameMailBut_of_letters htorn hcalm rfl hsame hbroken

end Sorting

end Server

end Postroom
