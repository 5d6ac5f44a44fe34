import Postroom.Proofs.Text.Words
import Postroom.Proofs.Wire.Sending
import Postroom.Server

/-! # Search criteria as a text

A server that decides itself is sent a text, which it reads as search keys: a message is searched
for if all of them hold of its flags.  The words of the text of criteria are those of one key for
each flag, and a word behind `KEYWORD` or `UNKEYWORD` is never taken for a key (`says_keys`), so the
keys read are those that were meant (`read?_toString`), and they decide as the criteria do
(`all_holds_keysOf`).  A server in memory searches with the criteria, any other one with their text;
both find the same messages (`text_searches_alike`).
-/

namespace Postroom

open Text

/-- A search key, which says something about the flags of a message. -/
inductive SearchKey where
  /-- Nothing. -/
  | all
  /-- A flag is there. -/
  | carries (f : Flag)
  /-- A flag is not there. -/
  | lacks (f : Flag)
deriving Repr, DecidableEq

namespace SearchKey

/-- Whether a key holds of flags. -/
def holds (flags : List Flag) : SearchKey → Bool
  | all => true
  | carries f => flags.contains f
  | lacks f => !flags.contains f

/-- The key that is a single word. -/
def ofWord? : String → Option SearchKey
  | "ALL" => some all
  | "SEEN" => some (carries .seen)
  | "UNSEEN" => some (lacks .seen)
  | "ANSWERED" => some (carries .answered)
  | "UNANSWERED" => some (lacks .answered)
  | "FLAGGED" => some (carries .flagged)
  | "UNFLAGGED" => some (lacks .flagged)
  | "DELETED" => some (carries .deleted)
  | "UNDELETED" => some (lacks .deleted)
  | "DRAFT" => some (carries .draft)
  | "UNDRAFT" => some (lacks .draft)
  | "RECENT" => some (carries .recent)
  | "OLD" => some (lacks .recent)
  | _ => none

/-- What a word says of the keyword behind it. -/
def ofAnnouncement? : String → Option (Flag → SearchKey)
  | "KEYWORD" => some carries
  | "UNKEYWORD" => some lacks
  | _ => none

/-- The keys that words stand for, if they stand for keys.  A keyword that is announced is taken as
it is. -/
def ofWords? : List String → Option (List SearchKey)
  | [] => some []
  | word :: rest =>
    match ofWord? word, ofAnnouncement? word, rest with
    | some key, _, rest => (ofWords? rest).map (key :: ·)
    | none, some announced, name :: rest => (ofWords? rest).map (announced (.keyword name) :: ·)
    | _, _, _ => none

/-- The keys of a text, of which there must be one. -/
def read? (text : String) : Option (List SearchKey) :=
  (ofWords? (words text)).filter (· ≠ [])

end SearchKey

open SearchKey

namespace Criteria

/-- A flag can be searched for if it is a system flag that messages carry, or a keyword that is a
word. -/
def IsSearchable : Flag → Prop
  | .mayCreate => False
  | .keyword name => IsWord name
  | _ => True

instance : DecidablePred IsSearchable
  | .mayCreate => isFalse nofun
  | .keyword name => inferInstanceAs (Decidable (IsWord name))
  | .seen | .answered | .flagged | .deleted | .draft | .recent => isTrue trivial

/-- Criteria that name only flags that can be searched for. -/
def AreSearchable (c : Criteria) : Prop := ∀ f ∈ c.present ++ c.absent, IsSearchable f

instance (c : Criteria) : Decidable c.AreSearchable :=
  inferInstanceAs (Decidable (∀ f ∈ c.present ++ c.absent, IsSearchable f))

/-- The keys that criteria mean. -/
def keysOf (c : Criteria) : List SearchKey :=
  if c.present ++ c.absent = [] then [all] else c.present.map carries ++ c.absent.map lacks

/-- A text stands for a key, whatever words are behind it. -/
structure Says (text : String) (key : SearchKey) : Prop where
  /-- It has words. -/
  nonempty : text ≠ ""
  /-- They are read as the key. -/
  read (rest : List String) :
    ofWords? (words text ++ rest) = (ofWords? rest).map (key :: ·)

/-- A keyword behind the word that announces it is not taken for anything else. -/
theorem says_keyword {name : String} (h : IsWord name) :
    Says ("KEYWORD " ++ name) (carries (.keyword name)) ∧
      Says ("UNKEYWORD " ++ name) (lacks (.keyword name)) := by
  have hwords (announced : String) (hannounced : IsWord announced) :
      words (announced ++ " " ++ name) = [announced, name] := by
    rw [words_append hannounced.1 h.1, words_of_isWord hannounced, words_of_isWord h]
    rfl
  refine ⟨⟨append_blank_ne_empty "KEYWORD" name, fun rest => ?_⟩,
    ⟨append_blank_ne_empty "UNKEYWORD" name, fun rest => ?_⟩⟩
  · rw [show words ("KEYWORD " ++ name) = _ from hwords "KEYWORD" (by decide)]
    rfl
  · rw [show words ("UNKEYWORD " ++ name) = _ from hwords "UNKEYWORD" (by decide)]
    rfl

/-- A word that is a key stands for it. -/
theorem says_of_ofWord? {word : String} {key : SearchKey} (hword : IsWord word)
    (h : ofWord? word = some key) : Says word key :=
  ⟨hword.1, fun rest => by simp [words_of_isWord hword, ofWords?, h]⟩

/-- The texts for a flag stand for the keys that it is there and that it is not. -/
theorem says_keys {f : Flag} (h : IsSearchable f) :
    Says (keys f).1 (carries f) ∧ Says (keys f).2 (lacks f) := by
  cases f with
  | mayCreate => exact h.elim
  | keyword name => exact says_keyword h
  | _ => exact ⟨says_of_ofWord? (by decide) rfl, says_of_ofWord? (by decide) rfl⟩

/-- Texts for flags, one after the other, stand for the keys for these flags. -/
theorem ofWords?_flatMap {text : Flag → String} {key : Flag → SearchKey} {flags : List Flag}
    (h : ∀ f ∈ flags, Says (text f) (key f)) (rest : List String) :
    ofWords? ((flags.map text).flatMap words ++ rest) =
      (ofWords? rest).map (flags.map key ++ ·) := by
  induction flags with
  | nil => simp
  | cons f flags ih =>
    obtain ⟨hf, hflags⟩ := List.forall_mem_cons.mp h
    rw [List.map_cons, List.flatMap_cons, List.append_assoc, hf.read, ih hflags, Option.map_map]
    rfl

variable {c : Criteria}

theorem toString_of_ne_nil (h : c.present ++ c.absent ≠ []) :
    c.toString =
      String.intercalate " " (c.present.map (keys · |>.1) ++ c.absent.map (keys · |>.2)) := by
  rw [Criteria.toString, if_neg]
  simpa using h

/-- The text of criteria is read as the keys that they mean. -/
theorem read?_toString (h : c.AreSearchable) : read? c.toString = some c.keysOf := by
  by_cases hnil : c.present ++ c.absent = []
  · obtain ⟨hpresent, habsent⟩ := List.append_eq_nil_iff.mp hnil
    rw [Criteria.toString, keysOf, if_pos hnil, hpresent, habsent]
    decide
  · obtain ⟨hpresent, habsent⟩ := List.forall_mem_append.mp h
    have hsaysPresent := fun f hf => (says_keys (hpresent f hf)).1
    have hsaysAbsent := fun f hf => (says_keys (habsent f hf)).2
    have hnonempty : ∀ text ∈ c.present.map (keys · |>.1) ++ c.absent.map (keys · |>.2),
        text ≠ "" := by
      simp only [List.forall_mem_append, List.forall_mem_map]
      exact ⟨fun f hf => (hsaysPresent f hf).nonempty, fun f hf => (hsaysAbsent f hf).nonempty⟩
    have hread : ofWords? (words c.toString) = some c.keysOf := by
      rw [toString_of_ne_nil hnil, words_intercalate hnonempty, List.flatMap_append,
        ofWords?_flatMap hsaysPresent, ← List.append_nil ((c.absent.map _).flatMap _),
        ofWords?_flatMap hsaysAbsent, keysOf, if_neg hnil]
      simp [ofWords?]
    have hkeys : c.keysOf ≠ [] := by
      rw [keysOf, if_neg hnil]
      simpa using hnil
    rw [read?, hread, Option.filter_some, if_pos (decide_eq_true hkeys)]

/-- The keys that criteria mean decide as they do. -/
theorem all_holds_keysOf (c : Criteria) (flags : List Flag) :
    c.keysOf.all (·.holds flags) = c.holds flags := by
  by_cases hnil : c.present ++ c.absent = []
  · obtain ⟨hpresent, habsent⟩ := List.append_eq_nil_iff.mp hnil
    rw [keysOf, if_pos hnil, Criteria.holds, hpresent, habsent]
    rfl
  · rw [keysOf, if_neg hnil, List.all_append, List.all_map, List.all_map, Criteria.holds,
      List.not_any_eq_all_not]
    rfl

/-- **The text of criteria means what they decide.**  Criteria that name only system flags that
messages carry and keywords that are words are read back from their text as search keys which hold
of the flags of a message exactly if the criteria do.  So the same messages are found whether a
client sends the text or a server in memory is asked. -/
theorem text_searches_alike (c : Criteria) (h : c.AreSearchable) :
    ∃ ks, read? c.toString = some ks ∧
      (∀ flags, ks.all (·.holds flags) = c.holds flags) ∧
      (∀ client : Wire.Client, client.blocked = none →
        (client.record (.request (.search c))).written =
          Wire.commandLine (client.tag + 1) ("UID SEARCH " ++ c.toString)) ∧
      ∀ connection server, (Server.answer (.search c) (connection, server)).1 =
        (server.openMessages connection).map fun messages =>
          (messages.filter fun m => ks.all (·.holds m.flags)).map StoredMessage.uid := by
  refine ⟨c.keysOf, read?_toString h, all_holds_keysOf c, fun client hopen => ?_,
    fun connection server => ?_⟩
  · have hcommand : (Wire.Call.request (.search c)).command =
        .ok (some ("UID SEARCH " ++ c.toString)) := rfl
    rcases Wire.Client.written_of_sent (Wire.Client.sent_of_command hopen hcommand) with
      hwritten | ⟨bs, hcontent, -⟩
    · exact hwritten
    · cases hcontent
  · simp only [all_holds_keysOf]
    simp only [Server.answer, Server.reading]
    cases server.openMessages connection <;> rfl

/-- Keywords that look like search keys, one of them twice, and flags that look alike. -/
theorem lookalikes_searched_alike :
    let c : Criteria := ⟨[.keyword "KEYWORD", .keyword "KEYWORD"], [.keyword "SEEN", .seen,
      .keyword "\\Seen"]⟩
    c.toString = "KEYWORD KEYWORD KEYWORD KEYWORD UNKEYWORD SEEN UNSEEN UNKEYWORD \\Seen" ∧
      ∃ ks, read? c.toString = some ks ∧ ∀ flags, ks.all (·.holds flags) = c.holds flags := by
  intro c
  obtain ⟨ks, hread, hholds, -⟩ := text_searches_alike c (by decide)
  exact ⟨by decide +kernel, ks, hread, hholds⟩

end Criteria

end Postroom
