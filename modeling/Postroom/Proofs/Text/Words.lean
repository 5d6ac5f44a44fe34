import Postroom.Text.Split

/-! # Words with blanks between them

The words of a text are what stands between its blanks.  A blank between texts divides their words
(`words_append`), so texts with a blank between each two have the words of all of them
(`words_intercalate`).  A text without a blank is a word itself, whatever else is in it
(`words_of_isWord`).
-/

namespace Postroom.Text

section

variable {α : Type} [DecidableEq α] {separator : α} {part : List α}

theorem splitFrom_append (piece part rest : List α) :
    splitFrom separator piece (part ++ separator :: rest) =
      splitFrom separator piece part ++ split separator rest := by
  induction part generalizing piece with
  | nil => simp [splitFrom, split]
  | cons c part ih => by_cases hc : c = separator <;> simp [splitFrom, hc, ih]

/-- A separator divides the pieces. -/
theorem split_append (part rest : List α) :
    split separator (part ++ separator :: rest) = split separator part ++ split separator rest :=
  splitFrom_append [] part rest

theorem splitFrom_of_notMem (h : separator ∉ part) (piece : List α) :
    splitFrom separator piece part = [piece.reverse ++ part] := by
  induction part generalizing piece with
  | nil => simp [splitFrom]
  | cons c part ih =>
    obtain ⟨hc, hpart⟩ := not_or.mp (mt List.mem_cons.mpr h)
    rw [splitFrom, if_neg (Ne.symm hc), ih hpart]
    simp

/-- Without a separator there is one piece. -/
theorem split_of_notMem (h : separator ∉ part) : split separator part = [part] :=
  splitFrom_of_notMem h []

/-- Parts with a separator between each two are found again where it divides them. -/
theorem split_intercalate {parts : List (List α)} (hne : parts ≠ [])
    (h : ∀ part ∈ parts, separator ∉ part) :
    split separator (List.intercalate [separator] parts) = parts := by
  induction parts with
  | nil => exact absurd rfl hne
  | cons part parts ih =>
    obtain ⟨hpart, hparts⟩ := List.forall_mem_cons.mp h
    cases parts with
    | nil => rw [List.intercalate_singleton, split_of_notMem hpart]
    | cons next parts =>
      rw [List.intercalate_cons_cons, List.append_assoc, List.singleton_append, split_append,
        split_of_notMem hpart, ih (List.cons_ne_nil _ _) hparts, List.singleton_append]

end

/-- The words of a text, with a blank between each two; the empty text has none. -/
def words (s : String) : List String :=
  if s = "" then [] else (split ' ' s.toList).map String.ofList

/-- A text that is a word of its own. -/
def IsWord (s : String) : Prop := s ≠ "" ∧ ' ' ∉ s.toList

instance (s : String) : Decidable (IsWord s) := inferInstanceAs (Decidable (_ ∧ _))

theorem words_of_isWord {s : String} (h : IsWord s) : words s = [s] := by
  rw [words, if_neg h.1, split_of_notMem h.2]
  simp

theorem append_blank_ne_empty (s t : String) : s ++ " " ++ t ≠ "" := by
  intro h
  have hlist := congrArg String.toList h
  simp at hlist

theorem words_append {s t : String} (hs : s ≠ "") (ht : t ≠ "") :
    words (s ++ " " ++ t) = words s ++ words t := by
  have hlist : (s ++ " " ++ t).toList = s.toList ++ ' ' :: t.toList := by simp
  rw [words, words, words, if_neg (append_blank_ne_empty s t), if_neg hs, if_neg ht, hlist,
    split_append, List.map_append]

theorem intercalate_ne_empty {t : String} (h : t ≠ "") (ts : List String) :
    String.intercalate " " (t :: ts) ≠ "" := by
  cases ts with
  | nil => simpa using h
  | cons next ts => exact String.intercalate_cons_cons ▸ append_blank_ne_empty _ _

/-- Texts with a blank between each two have the words of all of them, in order. -/
theorem words_intercalate {ts : List String} (h : ∀ t ∈ ts, t ≠ "") :
    words (String.intercalate " " ts) = ts.flatMap words := by
  induction ts with
  | nil => rfl
  | cons t ts ih =>
    obtain ⟨ht, hts⟩ := List.forall_mem_cons.mp h
    cases ts with
    | nil => simp
    | cons next ts =>
      rw [String.intercalate_cons_cons,
        words_append ht (intercalate_ne_empty (hts next List.mem_cons_self) ts), ih hts]
      rfl

/-- Words with a blank between each two are the words of the text that they make. -/
theorem words_intercalate_of_isWord {ws : List String} (h : ∀ w ∈ ws, IsWord w) :
    words (String.intercalate " " ws) = ws := by
  rw [words_intercalate fun w hw => (h w hw).1]
  induction ws with
  | nil => rfl
  | cons w ws ih =>
    obtain ⟨hw, hws⟩ := List.forall_mem_cons.mp h
    rw [List.flatMap_cons, words_of_isWord hw, ih hws, List.singleton_append]

end Postroom.Text
