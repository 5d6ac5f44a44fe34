import Postroom.Proofs.Wire.Front

/-! # Contents inside contents

The reader of a content goes down into the contents inside it and is given the depth to which it may
go.  The depth bounds nothing, because every level takes a byte: two readers with depths that cover
the bytes do the same (`partWithin_agree`).  So the reader that takes its depth from the bytes it is
given (`partStructure`) looks no further than any other.
-/

namespace Postroom.Wire

open Text Reader

-- A row of readers counts twice for each thing read before it.
set_option synthInstance.maxSize 4000

/-! ### Readers that do the same with few bytes -/

/-- Two readers do the same with fewer than `n` bytes. -/
def AgreeBelow {α : Type} (n : Nat) (p q : Reader α) : Prop :=
  ∀ input, input.length < n → p input = q input

namespace AgreeBelow

variable {α β : Type} {n : Nat} {p q : Reader α}

theorem refl (n : Nat) (p : Reader α) : AgreeBelow n p p := fun _ _ => rfl

theorem bind [hp : TakesFront p] {f g : α → Reader β} (h : AgreeBelow n p q)
    (hfg : ∀ a, AgreeBelow n (f a) (g a)) : AgreeBelow n (p >>= f) (q >>= g) := by
  intro input hinput
  change p.bind f input = q.bind g input
  unfold Reader.bind
  rw [← h input hinput]
  cases hread : p input with
  | done a rest =>
    have hshorter := (hp.suffix hread).length_le
    exact hfg a rest (by omega)
  | more | fail => rfl

theorem orElse {p' q' : Reader α} (h : AgreeBelow n p q) (h' : AgreeBelow n p' q') :
    AgreeBelow n (p.orElse p') (q.orElse q') := by
  intro input hinput
  simp only [Reader.orElse, h input hinput, h' input hinput]

theorem choice_cons {ps qs : List (Reader α)} (h : AgreeBelow n p q)
    (hs : AgreeBelow n (choice ps) (choice qs)) :
    AgreeBelow n (choice (p :: ps)) (choice (q :: qs)) := orElse h hs

theorem optional [TakesFront p] (h : AgreeBelow n p q) :
    AgreeBelow n (optional p) (optional q) := by
  unfold Reader.optional
  exact orElse (bind h fun _ => refl n _) (refl n _)

theorem many (h : AgreeBelow n p q) : AgreeBelow n (many p) (many q) := by
  intro input hinput
  change manyFrom p input = manyFrom q input
  fun_induction manyFrom p input with
  | case1 input hread | case2 input hread => rw [manyFrom, ← h input hinput, hread]
  | case3 input a middle hread hshorter bs rest hrounds ih =>
    rw [manyFrom, ← h input hinput, hread]
    simp only [if_pos hshorter, ← ih (by omega), hrounds]
  | case4 input a middle hread hshorter hstop ih =>
    conv => rhs; rw [manyFrom, ← h input hinput, hread]
    simp only [if_pos hshorter, ← ih (by omega)]
  | case5 input a middle hread hlonger =>
    rw [manyFrom, ← h input hinput, hread]
    simp only [if_neg hlonger]

theorem many1 [TakesFront p] (h : AgreeBelow n p q) : AgreeBelow n (many1 p) (many1 q) :=
  h.bind fun _ => h.many.bind fun _ => refl n _

theorem skip [TakesFront p] (h : AgreeBelow n p q) : AgreeBelow n (skip p) (skip q) :=
  h.bind fun _ => refl n _

theorem spaced (h : AgreeBelow n p q) : AgreeBelow n (spaced p) (spaced q) :=
  bind (p := Reader.char ' ') (refl n _) fun _ => h

/-- The parenthesis takes a byte, so the readers between parentheses meet fewer. -/
theorem inParens [TakesFront p] (h : AgreeBelow n p q) :
    AgreeBelow (n + 1) (inParens p) (inParens q) := by
  have hbody : AgreeBelow n (p >>= fun a => Reader.char ')' >>= fun _ => Reader.pure a)
      (q >>= fun a => Reader.char ')' >>= fun _ => Reader.pure a) := h.bind fun _ => refl n _
  intro input hinput
  change (Reader.char '(').bind _ input = (Reader.char '(').bind _ input
  unfold Reader.bind
  cases hread : Reader.char '(' input with
  | done a rest =>
    have hlength : input.length = rest.length + 1 := by
      rw [eq_append_of_bytes hread]
      rfl
    exact hbody rest (by omega)
  | more | fail => rfl

theorem listOf1 [TakesFront p] (h : AgreeBelow n p q) :
    AgreeBelow (n + 1) (listOf1 p) (listOf1 q) := by
  have hitems : AgreeBelow n (sepBy1 (Reader.char ' ') p) (sepBy1 (Reader.char ' ') q) :=
    h.bind fun _ => (spaced h).many.bind fun _ => refl n _
  exact inParens hitems

end AgreeBelow

namespace TakesFront

variable {α : Type}

/-! ### Envelopes and the structure of messages -/

instance (p : Reader α) [TakesFront p] : TakesFront (skip p) := by
  unfold skip
  infer_instance

instance inRow_nil : TakesFront (inRow []) := pure ()

instance inRow_one (p : Reader Unit) [hp : TakesFront p] : TakesFront (inRow [p]) := hp

instance inRow_cons (p q : Reader Unit) (ps : List (Reader Unit)) [TakesFront p]
    [TakesFront (inRow (q :: ps))] : TakesFront (inRow (p :: q :: ps)) := by
  unfold inRow
  infer_instance

instance : TakesFront address := by
  unfold address
  simp only [List.replicate]
  infer_instance

instance : TakesFront addresses := by
  unfold addresses
  infer_instance

instance : TakesFront envelope := by
  unfold envelope
  simp only [List.replicate, List.cons_append, List.nil_append]
  infer_instance

instance : TakesFront textString := by
  unfold textString
  infer_instance

instance : TakesFront parameters := by
  unfold parameters
  infer_instance

instance : TakesFront encoding := by
  unfold encoding
  infer_instance

instance : TakesFront commonFields := by
  unfold commonFields
  infer_instance

instance : TakesFront disposition := by
  unfold disposition
  infer_instance

instance : TakesFront languages := by
  unfold languages
  infer_instance

/-- By induction on the depth. -/
instance extension (depth : Nat) : TakesFront (extension depth) := by
  induction depth with
  | zero => exact failure
  | succ depth ih =>
    have step : TakesFront
        (choice [skip number, skip textOrNil, skip (listOf1 (Wire.extension depth))]) :=
      inferInstance
    exact step

instance (depth : Nat) (first : Reader Unit) [TakesFront first] :
    TakesFront (closingFields depth first) := by
  unfold closingFields
  infer_instance

instance (depth : Nat) (inner : Reader Unit) [TakesFront inner] :
    TakesFront (partAround depth inner) := by
  unfold partAround
  dsimp only
  infer_instance

/-- By induction on the depth. -/
instance partWithin (depth : Nat) : TakesFront (partWithin depth) := by
  induction depth with
  | zero => exact failure
  | succ depth ih =>
    have step : TakesFront (partAround depth (Wire.partWithin depth)) := inferInstance
    exact step

end TakesFront

/-! ### Depths that cover the bytes -/

/-- By induction on the bound: a list of values lies one level deeper and one byte further. -/
theorem extension_agree {n d d' : Nat} (hd : n ≤ d) (hd' : n ≤ d') :
    AgreeBelow n (extension d) (extension d') := by
  induction n generalizing d d' with
  | zero => exact fun _ h => absurd h (Nat.not_lt_zero _)
  | succ n ih =>
    obtain ⟨d, rfl⟩ : ∃ e, d = e + 1 := ⟨d - 1, by omega⟩
    obtain ⟨d', rfl⟩ : ∃ e, d' = e + 1 := ⟨d' - 1, by omega⟩
    have hinner : AgreeBelow n (extension d) (extension d') := ih (by omega) (by omega)
    exact .choice_cons (.refl _ _) (.choice_cons (.refl _ _)
      (.choice_cons hinner.listOf1.skip (.refl _ _)))

theorem closingFields_agree {n d d' : Nat} (hd : n ≤ d) (hd' : n ≤ d') (first : Reader Unit)
    [TakesFront first] : AgreeBelow n (closingFields d first) (closingFields d' first) :=
  .bind (.refl _ _) fun _ => .bind (.refl _ _) fun _ => .bind (.refl _ _) fun _ =>
    .bind (.refl _ _) fun _ => (extension_agree hd hd').spaced.optional.skip

/-- A content that holds others agrees where they do, and one byte further. -/
theorem partAround_agree {n d d' : Nat} (hd : n ≤ d) (hd' : n ≤ d') {inner inner' : Reader Unit}
    [TakesFront inner] (h : AgreeBelow n inner inner') :
    AgreeBelow (n + 1) (partAround d inner) (partAround d' inner') := by
  have hsingle := closingFields_agree hd hd' (skip textOrNil)
  refine AgreeBelow.inParens (.choice_cons ?_ (.choice_cons ?_ (.choice_cons ?_
    (.choice_cons ?_ (.refl _ _)))))
  · exact .bind (.refl _ _) fun _ => hsingle
  · -- A message holds the content of its body, once.
    refine .bind ?_ fun _ => hsingle
    exact .bind (.refl _ _) fun _ => .bind (.refl _ _) fun _ => .bind (.refl _ _) fun _ =>
      .bind (.refl _ _) fun _ => .bind (.refl _ _) fun _ => .bind (.refl _ _) fun _ =>
      h.bind fun _ => .refl _ _
  · exact .bind (.refl _ _) fun _ => hsingle
  · -- A content in several parts holds one content or more.
    refine .bind ?_ fun _ => closingFields_agree hd hd' parameters
    exact h.many1.skip.bind fun _ => .refl _ _

/-- The depth to which a reader may go does not matter as long as it covers the bytes. -/
theorem partWithin_agree {n d d' : Nat} (hd : n ≤ d) (hd' : n ≤ d') :
    AgreeBelow n (partWithin d) (partWithin d') := by
  induction n generalizing d d' with
  | zero => exact fun _ h => absurd h (Nat.not_lt_zero _)
  | succ n ih =>
    obtain ⟨d, rfl⟩ : ∃ e, d = e + 1 := ⟨d - 1, by omega⟩
    obtain ⟨d', rfl⟩ : ∃ e, d' = e + 1 := ⟨d' - 1, by omega⟩
    exact partAround_agree (by omega) (by omega) (ih (by omega) (by omega))

theorem partStructure_eq {input : List UInt8} {depth : Nat} (h : input.length < depth) :
    partStructure input = partWithin depth input :=
  partWithin_agree (Nat.le_refl _) h input (Nat.lt_succ_self _)

instance : TakesFront partStructure where
  suffix h := (TakesFront.partWithin _).suffix h
  done_append {input a rest} more h := by
    -- With more bytes the depth is greater, and the smaller one did the same.
    have hlength : input.length < (input ++ more).length + 1 := by
      rw [List.length_append]
      omega
    rw [partStructure_eq hlength] at h
    exact (TakesFront.partWithin _).done_append more h
  fail_append {input} more h := by
    have hlength : input.length < (input ++ more).length + 1 := by
      rw [List.length_append]
      omega
    rw [partStructure_eq hlength] at h
    exact (TakesFront.partWithin _).fail_append more h

end Postroom.Wire
