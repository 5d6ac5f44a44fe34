import Postroom.Wire.Grammar

/-! # What a reader takes and leaves

Every reader takes a front of the bytes it is given and gives the rest back as it stands, and what
it has decided by that front stays decided when more bytes come (`TakesFront`).  The ways of putting
readers together keep this, so each word of the wire has it by its own definition.
-/

namespace Postroom.Wire

open Text Reader

section

variable {α β : Type} {p q : Reader α} {f : α → Reader β} {input rest : List UInt8}

theorem bind_eq_done {b : β} :
    p.bind f input = .done b rest ↔
      ∃ a middle, p input = .done a middle ∧ f a middle = .done b rest := by
  unfold Reader.bind
  cases p input <;> simp [and_assoc]

/-- What a choice reads is read by one of its sides. -/
theorem done_of_orElse {a : α} (h : p.orElse q input = .done a rest) :
    p input = .done a rest ∨ q input = .done a rest := by
  unfold Reader.orElse at h
  cases hread : p input with
  | done | more => simp_all
  | fail => exact .inr (by simpa [hread] using h)

theorem orElse_of_fail (h : p input = .fail) : p.orElse q input = q input := by
  simp only [Reader.orElse, h]

theorem orElse_of_done {a : α} (h : p input = .done a rest) : p.orElse q input = .done a rest := by
  simp only [Reader.orElse, h]

theorem orElse_eq_fail : p.orElse q input = .fail ↔ p input = .fail ∧ q input = .fail := by
  unfold Reader.orElse
  cases p input <;> simp

theorem bind_of_done {a : α} (h : p input = .done a rest) : p.bind f input = f a rest := by
  simp only [Reader.bind, h]

theorem bind_of_fail (h : p input = .fail) : p.bind f input = .fail := by
  simp only [Reader.bind, h]

theorem bind_eq_fail :
    p.bind f input = .fail ↔
      p input = .fail ∨ ∃ a middle, p input = .done a middle ∧ f a middle = .fail := by
  unfold Reader.bind
  cases p input <;> simp [and_assoc]

theorem eq_append_of_bytes {bs : List UInt8} (h : Reader.bytes bs input = .done () rest) :
    input = bs ++ rest := by
  fun_induction Reader.bytes bs input with
  | case1 =>
    cases h
    rfl
  | case3 t ts bs ih => rw [ih h, List.cons_append]
  | case2 | case4 => cases h

end

/-- What is not read as a backslash is none, whether bytes follow it or not. -/
theorem ne_backslash {b : UInt8} {bs : List UInt8} (hlast : b = 92 → bs = [] → False)
    (hmore : ∀ e rest, b = 92 → bs = e :: rest → False) : b ≠ 92 := by
  intro heq
  cases bs with
  | nil => exact hlast heq rfl
  | cons e rest => exact hmore e rest heq rfl

/-- A byte other than a backslash is read by itself. -/
theorem quotedBody_cons {b : UInt8} (hb : b ≠ 92) (rest : List UInt8) :
    quotedBody (b :: rest) =
      if isTextByte b && b != 34 then
        match quotedBody rest with
        | .done bs rest => .done (b :: bs) rest
        | outcome => outcome
      else .done [] (b :: rest) :=
  quotedBody.eq_4 b rest (fun h _ => hb h) fun _ _ h _ => hb h

/-- Such a reader takes a front of its bytes and looks no further. -/
class TakesFront {α : Type} (p : Reader α) : Prop where
  /-- What is left is the end of what was given. -/
  suffix {input : List UInt8} {a : α} {rest : List UInt8} : p input = .done a rest → rest <:+ input
  /-- What was read is read the same when more is given. -/
  done_append {input : List UInt8} {a : α} {rest : List UInt8} (more : List UInt8) :
    p input = .done a rest → p (input ++ more) = .done a (rest ++ more)
  /-- What cannot be read cannot be read when more is given. -/
  fail_append {input : List UInt8} (more : List UInt8) : p input = .fail → p (input ++ more) = .fail

namespace TakesFront

/-! ### Ways of putting readers together -/

section Combinators

variable {α β : Type} (p q : Reader α) [hp : TakesFront p] [hq : TakesFront q]

instance pure (a : α) : TakesFront (Reader.pure a) where
  suffix h := by
    cases h
    exact List.suffix_refl _
  done_append more h := by
    cases h
    rfl
  fail_append _ h := nomatch h

instance failure : TakesFront (Reader.failure : Reader α) where
  suffix h := nomatch h
  done_append _ h := nomatch h
  fail_append _ _ := rfl

instance bind (f : α → Reader β) [hf : ∀ a, TakesFront (f a)] : TakesFront (p.bind f) where
  suffix h := by
    obtain ⟨a, middle, hfirst, hsecond⟩ := bind_eq_done.mp h
    exact ((hf a).suffix hsecond).trans (hp.suffix hfirst)
  done_append more h := by
    obtain ⟨a, middle, hfirst, hsecond⟩ := bind_eq_done.mp h
    rw [bind_of_done (hp.done_append more hfirst)]
    exact (hf a).done_append more hsecond
  fail_append more h := by
    rcases bind_eq_fail.mp h with hfirst | ⟨a, middle, hfirst, hsecond⟩
    · exact bind_of_fail (hp.fail_append more hfirst)
    · rw [bind_of_done (hp.done_append more hfirst)]
      exact (hf a).fail_append more hsecond

instance pure_monad (a : α) : TakesFront (Pure.pure a : Reader α) := pure a

instance bind_monad (f : α → Reader β) [∀ a, TakesFront (f a)] : TakesFront (p >>= f) := bind p f

instance orElse : TakesFront (p.orElse q) where
  suffix h := (done_of_orElse h).elim hp.suffix hq.suffix
  done_append more h := by
    cases hread : p _ with
    | fail =>
      rw [orElse_of_fail hread] at h
      rw [orElse_of_fail (hp.fail_append more hread)]
      exact hq.done_append more h
    | done a middle =>
      rw [orElse_of_done hread] at h
      cases h
      exact orElse_of_done (hp.done_append more hread)
    | more => simp [Reader.orElse, hread] at h
  fail_append more h := by
    obtain ⟨hfirst, hsecond⟩ := orElse_eq_fail.mp h
    exact orElse_eq_fail.mpr ⟨hp.fail_append more hfirst, hq.fail_append more hsecond⟩

instance choice_nil : TakesFront (choice ([] : List (Reader α))) := failure

instance choice_cons (ps : List (Reader α)) [TakesFront (choice ps)] :
    TakesFront (choice (p :: ps)) := orElse p (choice ps)

instance optional : TakesFront (optional p) := by
  unfold Reader.optional
  infer_instance

instance filterMap (f : α → Option β) : TakesFront (p.filterMap f) := by
  have (a : α) : TakesFront (match f a with
      | some b => Reader.pure b
      | none => Reader.failure) := by
    split <;> infer_instance
  exact bind p _

/-- The rounds of a repetition, each from where the last one stopped. -/
instance many : TakesFront (many p) where
  suffix {input as rest} h := by
    replace h : manyFrom p input = _ := h
    fun_induction manyFrom p input generalizing as with
    -- The repetition stops where the reader fails; what it has read until then is a front.
    | case1 =>
      cases h
      exact List.suffix_refl _
    | case2 => cases h
    | case3 input a middle hread hshorter bs middle' hrounds ih =>
      cases h
      exact (ih hrounds).trans (hp.suffix hread)
    | case4 input a middle hread hshorter hstop ih => exact absurd h (hstop as rest)
    | case5 => cases h
  done_append {input as rest} more h := by
    replace h : manyFrom p input = _ := h
    change manyFrom p (input ++ more) = _
    fun_induction manyFrom p input generalizing as with
    | case1 input hread =>
      cases h
      rw [manyFrom, hp.fail_append more hread]
    | case2 => cases h
    | case3 input a middle hread hshorter bs middle' hrounds ih =>
      cases h
      have hshorter : (middle ++ more).length < (input ++ more).length := by simpa using hshorter
      rw [manyFrom, hp.done_append more hread]
      simp only [if_pos hshorter, ih hrounds]
    | case4 input a middle hread hshorter hstop ih => exact absurd h (hstop as rest)
    | case5 => cases h
  fail_append {input} more h := by
    replace h : manyFrom p input = _ := h
    change manyFrom p (input ++ more) = _
    fun_induction manyFrom p input with
    | case1 | case2 | case3 => cases h
    | case4 input a middle hread hshorter hstop ih =>
      have hshorter : (middle ++ more).length < (input ++ more).length := by simpa using hshorter
      rw [manyFrom, hp.done_append more hread]
      simp only [if_pos hshorter, ih h]
    | case5 input a middle hread hlonger =>
      have hlonger : ¬ (middle ++ more).length < (input ++ more).length := by simpa using hlonger
      rw [manyFrom, hp.done_append more hread]
      simp only [if_neg hlonger]

instance many1 : TakesFront (many1 p) := by
  unfold Reader.many1
  infer_instance

instance sepBy1 (separator : Reader Unit) [TakesFront separator] :
    TakesFront (sepBy1 separator p) := by
  unfold Reader.sepBy1
  infer_instance

instance sepBy (separator : Reader Unit) [TakesFront separator] :
    TakesFront (sepBy separator p) := by
  unfold Reader.sepBy
  infer_instance

instance bytes (bs : List UInt8) : TakesFront (bytes bs) where
  suffix h := eq_append_of_bytes h ▸ List.suffix_append _ _
  done_append {input a rest} more h := by
    fun_induction Reader.bytes bs input with
    | case1 =>
      cases h
      rfl
    | case3 t ts bs ih => simpa [Reader.bytes] using ih h
    | case2 | case4 => cases h
  fail_append {input} more h := by
    fun_induction Reader.bytes bs input with
    | case3 t ts bs ih => simpa [Reader.bytes] using ih h
    | case4 t ts b bs hne => simp [Reader.bytes, hne]
    | case1 | case2 => cases h

instance char (c : Char) : TakesFront (char c) := bytes _

instance anyCase (bs : List UInt8) : TakesFront (anyCase bs) where
  suffix {input a rest} h := by
    fun_induction Reader.anyCase bs input with
    | case1 =>
      cases h
      exact List.suffix_refl _
    | case3 t ts b bs hsame ih => exact (ih h).trans (List.suffix_cons _ _)
    | case2 | case4 => cases h
  done_append {input a rest} more h := by
    fun_induction Reader.anyCase bs input with
    | case1 =>
      cases h
      rfl
    | case3 t ts b bs hsame ih => simpa [Reader.anyCase, hsame] using ih h
    | case2 | case4 => cases h
  fail_append {input} more h := by
    fun_induction Reader.anyCase bs input with
    | case3 t ts b bs hsame ih => simpa [Reader.anyCase, hsame] using ih h
    | case4 t ts b bs hne => simp [Reader.anyCase, hne]
    | case1 | case2 => cases h

instance word (w : String) : TakesFront (word w) := anyCase _

instance takeWhile (test : UInt8 → Bool) : TakesFront (takeWhile test) where
  suffix {input as rest} h := by
    fun_induction Reader.takeWhile test input generalizing as with
    | case1 => cases h
    | case2 b bs htest taken middle hread ih =>
      cases h
      exact (ih hread).trans (List.suffix_cons _ _)
    | case3 b bs htest hstop ih => exact absurd h (hstop as rest)
    | case4 =>
      cases h
      exact List.suffix_refl _
  done_append {input as rest} more h := by
    fun_induction Reader.takeWhile test input generalizing as with
    | case1 => cases h
    | case2 b bs htest taken middle hread ih =>
      cases h
      simp [Reader.takeWhile, htest, ih hread]
    | case3 b bs htest hstop ih => exact absurd h (hstop as rest)
    | case4 b bs htest =>
      cases h
      simp [Reader.takeWhile, htest]
  fail_append {input} more h := by
    fun_induction Reader.takeWhile test input with
    | case1 | case2 | case4 => cases h
    | case3 b bs htest hstop ih => simp [Reader.takeWhile, htest, ih h]

instance takeWhile1 (test : UInt8 → Bool) : TakesFront (takeWhile1 test) := filterMap _ _

instance take (n : Nat) : TakesFront (take n) where
  suffix {input as rest} h := by
    unfold Reader.take at h
    split at h
    · cases h
    · cases h
      exact List.drop_suffix _ _
  done_append {input as rest} more h := by
    unfold Reader.take at h ⊢
    split at h
    · cases h
    · next hlong =>
      cases h
      have hle : n ≤ input.length := Nat.le_of_not_lt hlong
      have hlong : ¬ (input ++ more).length < n := by
        rw [List.length_append]
        omega
      rw [if_neg hlong, List.take_append_of_le_length hle, List.drop_append_of_le_length hle]
  fail_append {input} more h := by
    unfold Reader.take at h
    split at h <;> cases h

instance between (before after : Char) : TakesFront (between before after p) := by
  unfold Reader.between
  infer_instance

instance inParens : TakesFront (inParens p) := between p _ _

instance after (w : String) : TakesFront (after w p) := bind (Reader.word w) _

instance spaced : TakesFront (spaced p) := bind (Reader.char ' ') _

end Combinators

variable {α : Type}

/-! ### Words -/

instance : TakesFront atom := by
  unfold atom
  infer_instance

instance (limit : Nat) : TakesFront (numberUpTo limit) := by
  unfold numberUpTo
  infer_instance

instance : TakesFront number := by
  unfold number
  infer_instance

instance : TakesFront longNumber := by
  unfold longNumber
  infer_instance

instance : TakesFront text := by
  unfold text
  infer_instance

instance : TakesFront lineEnd := by
  unfold lineEnd
  infer_instance

instance : TakesFront quotedBody where
  suffix {input as rest} h := by
    fun_induction quotedBody input generalizing as with
    | case1 | case2 | case5 => cases h
    | case3 e bs hescaped taken middle hread ih =>
      cases h
      exact ((ih hread).trans (List.suffix_cons _ _)).trans (List.suffix_cons _ _)
    | case4 e bs hescaped hstop ih => exact absurd h (hstop as rest)
    | case6 b bs _ _ htext taken middle hread ih =>
      cases h
      exact (ih hread).trans (List.suffix_cons _ _)
    | case7 b bs _ _ htext hstop ih => exact absurd h (hstop as rest)
    | case8 =>
      cases h
      exact List.suffix_refl _
  done_append {input as rest} more h := by
    fun_induction quotedBody input generalizing as with
    | case1 | case2 | case5 => cases h
    | case3 e bs hescaped taken middle hread ih =>
      cases h
      simp [quotedBody, hescaped, ih hread]
    | case4 e bs hescaped hstop ih => exact absurd h (hstop as rest)
    | case6 b bs hlast hmore htext taken middle hread ih =>
      cases h
      rw [List.cons_append, quotedBody_cons (ne_backslash hlast hmore), if_pos htext, ih hread]
    | case7 b bs _ _ htext hstop ih => exact absurd h (hstop as rest)
    | case8 b bs hlast hmore htext =>
      cases h
      rw [List.cons_append, quotedBody_cons (ne_backslash hlast hmore), if_neg htext]
  fail_append {input} more h := by
    fun_induction quotedBody input with
    | case1 | case2 | case3 | case6 | case8 => cases h
    | case4 e bs hescaped hstop ih => simp [quotedBody, hescaped, ih h]
    | case5 e bs hescaped => simp [quotedBody, hescaped]
    | case7 b bs hlast hmore htext hstop ih =>
      rw [List.cons_append, quotedBody_cons (ne_backslash hlast hmore), if_pos htext, ih h]

instance : TakesFront quotedString := by
  unfold quotedString
  infer_instance

instance : TakesFront literal := by
  unfold literal
  infer_instance

instance : TakesFront string := by
  unfold string
  infer_instance

instance : TakesFront nil := by
  unfold nil
  infer_instance

instance : TakesFront stringOrNil := by
  unfold stringOrNil
  infer_instance

instance : TakesFront wordOrString := by
  unfold wordOrString
  infer_instance

instance (p : Reader (List UInt8)) [TakesFront p] : TakesFront (utf8 p) := filterMap p _

instance : TakesFront textOrNil := by
  unfold textOrNil
  infer_instance

instance : TakesFront mailboxName := by
  unfold mailboxName
  infer_instance

instance (p : Reader α) [TakesFront p] : TakesFront (listOf p) := by
  unfold listOf
  infer_instance

instance (p : Reader α) [TakesFront p] : TakesFront (listOf1 p) := by
  unfold listOf1
  infer_instance

instance : TakesFront systemFlag := by
  unfold systemFlag
  infer_instance

instance : TakesFront anyFlag := by
  unfold anyFlag
  infer_instance

instance : TakesFront flagList := by
  unfold flagList
  infer_instance

instance : TakesFront uidPair := by
  unfold uidPair
  infer_instance

instance : TakesFront uidSet := by
  unfold uidSet
  infer_instance

instance : TakesFront gap := by
  unfold gap
  infer_instance

end TakesFront

end Postroom.Wire
