import Postroom.Proofs.Text.Decimal
import Postroom.Proofs.Wire.Argument
import Postroom.Proofs.Wire.Ending

/-! # Written words are read back

Each word of the wire is read back from its written form, whatever follows it, as long as what
follows does not belong to the word: a number ends before a byte that is no digit (`number_repr`), a
flag before a byte that cannot stand in an atom (`flagName_toString`), and a literal where its size
says (`literal_append`).  Items with blanks between them are read one by one (`sepBy1_joined`).
-/

namespace Postroom.Wire

open Text Reader

/-! ### Choices and runs -/

section

variable {α β : Type} {p : Reader α} {ps : List (Reader α)} {input rest : List UInt8} {a : α}

theorem choice_of_fail (h : p input = .fail) : choice (p :: ps) input = choice ps input :=
  orElse_of_fail h

theorem choice_of_done (h : p input = .done a rest) : choice (p :: ps) input = .done a rest :=
  orElse_of_done h

/-- Choices between readers that do the same do the same. -/
theorem orElse_eq {p' q q' : Reader α} {input' : List UInt8} (hp : p input = p' input')
    (hq : q input = q' input') : p.orElse q input = p'.orElse q' input' := by
  simp only [Reader.orElse, hp, hq]

theorem choice_append (ps qs : List (Reader α)) :
    choice (ps ++ qs) input = (choice ps).orElse (choice qs) input := by
  induction ps with
  | nil => rfl
  | cons p ps ih =>
    change p.orElse (choice (ps ++ qs)) input = (p.orElse (choice ps)).orElse (choice qs) input
    simp only [Reader.orElse] at ih ⊢
    cases p input with
    | done | more => rfl
    | fail => exact ih

theorem choice_append_of_done {qs : List (Reader α)} (h : choice ps input = .done a rest) :
    choice (ps ++ qs) input = .done a rest :=
  (choice_append ps qs).trans (orElse_of_done h)

theorem takeWhile_append {test : UInt8 → Bool} {bs : List UInt8} {b : UInt8}
    (hbs : ∀ b ∈ bs, test b = true) (hb : test b = false) (rest : List UInt8) :
    Reader.takeWhile test (bs ++ b :: rest) = .done bs (b :: rest) := by
  induction bs with
  | nil => simp [Reader.takeWhile, hb]
  | cons c bs ih =>
    have hrest := ih fun d hd => hbs d (List.mem_cons_of_mem _ hd)
    simp [Reader.takeWhile, hbs c List.mem_cons_self, hrest]

theorem takeWhile1_append {test : UInt8 → Bool} {bs : List UInt8} {b : UInt8} (hne : bs ≠ [])
    (hbs : ∀ b ∈ bs, test b = true) (hb : test b = false) (rest : List UInt8) :
    takeWhile1 test (bs ++ b :: rest) = .done bs (b :: rest) := by
  rw [takeWhile1, Reader.filterMap, bind_of_done (takeWhile_append hbs hb rest),
    if_neg (by simpa using hne)]
  rfl

theorem takeWhile1_of_not {test : UInt8 → Bool} {b : UInt8} (hb : test b = false)
    (rest : List UInt8) : takeWhile1 test (b :: rest) = .fail := by
  have hnone : Reader.takeWhile test (b :: rest) = .done [] (b :: rest) := by
    simp [Reader.takeWhile, hb]
  rw [takeWhile1, Reader.filterMap, bind_of_done hnone]
  rfl

/-- What is not the first byte of a word is not read as the word. -/
theorem anyCase_of_ne {t b : UInt8} (h : foldByte t ≠ foldByte b) (ts bs : List UInt8) :
    anyCase (t :: ts) (b :: bs) = .fail := by
  rw [anyCase, if_neg h]

/-- Behind an item comes the blank before the next one, or the byte that ends them all. -/
theorem exists_next (write : β → List UInt8) (items : List β) (b : UInt8) (rest : List UInt8) :
    ∃ next later, items.flatMap (fun x => 32 :: write x) ++ b :: rest = next :: later ∧
      (next = 32 ∨ next = b) := by
  cases items with
  | nil => exact ⟨b, rest, rfl, .inr rfl⟩
  | cons x items => exact ⟨32, _, rfl, .inl rfl⟩

/-- Items that are written with a blank between each two are read one by one, up to a byte
that is no blank. -/
theorem many_joined (write : β → List UInt8) (value : β → α) {items : List β} {b : UInt8}
    (hb : b ≠ 32)
    (hread : ∀ x ∈ items, ∀ next rest, next = 32 ∨ next = b →
      p (write x ++ next :: rest) = .done (value x) (next :: rest)) (rest : List UInt8) :
    many (spaced p) (items.flatMap (fun x => 32 :: write x) ++ b :: rest) =
      .done (items.map value) (b :: rest) := by
  change manyFrom (spaced p) _ = _
  induction items with
  | nil =>
    have hstop : spaced p (b :: rest) = .fail := by
      have hblank : Reader.char ' ' (b :: rest) = .fail := by
        change (if (32 : UInt8) = b then _ else _) = _
        rw [if_neg hb.symm]
      exact bind_of_fail hblank
    rw [List.flatMap_nil, List.nil_append, manyFrom, hstop]
    rfl
  | cons x items ih =>
    have hrest := ih fun y hy => hread y (List.mem_cons_of_mem _ hy)
    -- The first item is read before whatever byte comes next, and that byte is a blank or `b`.
    obtain ⟨next, later, hlater, hnext⟩ := exists_next write items b rest
    have hfirst : spaced p (32 :: (write x ++ next :: later)) = .done (value x) (next :: later) :=
      hread x List.mem_cons_self next later hnext
    rw [List.flatMap_cons, List.cons_append, List.cons_append, List.append_assoc, hlater, manyFrom,
      hfirst]
    rw [hlater] at hrest
    have hshorter : (next :: later).length < (32 :: (write x ++ next :: later)).length := by
      simp only [List.length_cons, List.length_append]
      omega
    simp only [if_pos hshorter, hrest, List.map_cons]

theorem sepBy1_joined (write : β → List UInt8) (value : β → α) {first : β} {items : List β}
    {b : UInt8} (hb : b ≠ 32)
    (hread : ∀ x ∈ first :: items, ∀ next rest, next = 32 ∨ next = b →
      p (write x ++ next :: rest) = .done (value x) (next :: rest)) (rest : List UInt8) :
    sepBy1 (Reader.char ' ') p
        (write first ++ (items.flatMap (fun x => 32 :: write x) ++ b :: rest)) =
      .done (value first :: items.map value) (b :: rest) := by
  obtain ⟨next, later, hlater, hnext⟩ := exists_next write items b rest
  have hmany := many_joined write value hb (fun x hx => hread x (List.mem_cons_of_mem _ hx)) rest
  have hfirst := hread first List.mem_cons_self next later hnext
  rw [← hlater] at hfirst
  change Reader.bind p _ _ = _
  rw [bind_of_done hfirst]
  change Reader.bind (many (spaced p)) _ _ = _
  rw [bind_of_done hmany]
  rfl

end

/-! ### Numbers -/

/-- A text without quotes is read back from its bytes. -/
theorem asciiString_bytes {s : String} (h : AllChars isBare s) :
    asciiString (Utf8.bytes s) = s := by
  have hascii := ascii_of_isBare h
  have hchar : ∀ c ∈ s.toList, Char.ofNat c.toUInt8.toNat = c := fun c hc => by
    rw [Utf8.toNat_toUInt8 (hascii c hc), Char.ofNat_toNat]
  have hmap : s.toList.map (fun c => Char.ofNat c.toUInt8.toNat) = s.toList := by
    rw [List.map_congr_left (g := id) hchar, List.map_id]
  rw [Utf8.bytes_eq_encode, Utf8.encode_of_ascii hascii, asciiString, List.map_map]
  exact (congrArg String.ofList hmap).trans String.ofList_toList

theorem bytes_ne_nil {s : String} (h : AllChars isBare s) (hne : s.toList ≠ []) :
    Utf8.bytes s ≠ [] := by
  rw [Utf8.bytes_eq_encode, Utf8.encode_of_ascii (ascii_of_isBare h)]
  simpa using hne

theorem isDigitByte_of_mem_repr (n : Nat) : ∀ b ∈ Utf8.bytes n.repr, isDigitByte b = true := by
  have hdigits : AllChars Char.isDigit n.repr := by
    intro c hc
    rw [Nat.toList_repr] at hc
    exact Nat.isDigit_of_mem_toDigits (by decide) (by decide) hc
  exact forall_mem_bytes (ascii_of_isBare (isBare_of_repr n)) hdigits (by decide)

theorem bytes_repr_ne_nil (n : Nat) : Utf8.bytes n.repr ≠ [] :=
  bytes_ne_nil (isBare_of_repr n) (Nat.toList_repr ▸ Nat.toDigits_ne_nil)

/-- A number is read back from its digits, before a byte that is none. -/
theorem number_repr {n : Nat} (hn : n ≤ Decimal.maxUInt32) {b : UInt8} (hb : isDigitByte b = false)
    (rest : List UInt8) : number (Utf8.bytes n.repr ++ b :: rest) = .done n (b :: rest) := by
  have htake := takeWhile1_append (bytes_repr_ne_nil n) (isDigitByte_of_mem_repr n) hb rest
  rw [number, numberUpTo, Reader.filterMap, bind_of_done htake,
    asciiString_bytes (isBare_of_repr n), Decimal.readUpTo?_repr hn]
  rfl

/-- A number starts with a digit, so it is not read as a word that starts with something else. -/
theorem anyCase_of_repr {t : UInt8} (ht : isDigitByte (foldByte t) = false) (n : Nat)
    (ts rest : List UInt8) : anyCase (t :: ts) (Utf8.bytes n.repr ++ rest) = .fail := by
  have hdigits := isDigitByte_of_mem_repr n
  cases hbytes : Utf8.bytes n.repr with
  | nil => exact absurd hbytes (bytes_repr_ne_nil n)
  | cons d ds =>
    have hd : isDigitByte d = true := hdigits d (by simp [hbytes])
    -- Digits have no case.
    have hfold : foldByte d = d := by
      have hle : d ≤ 57 := by
        rw [isDigitByte, Bool.and_eq_true, decide_eq_true_eq, decide_eq_true_eq] at hd
        exact hd.2
      refine if_neg ?_
      rintro ⟨hlow, -⟩
      exact absurd (UInt8.le_trans hlow hle) (by decide)
    refine anyCase_of_ne ?_ ts (ds ++ rest)
    intro heq
    rw [heq, hfold, hd] at ht
    cases ht

/-! ### Flags -/

/-- Reads a flag. -/
def flagName : Reader String := choice [anyFlag, systemFlag, atom]

theorem flagList_eq : flagList = listOf flagName := rfl

/-- The name of a flag that can be sent can be sent as a keyword, unless it stands for all flags to
come. -/
theorem checkFlag_toString {f : Flag} (hf : f ≠ .mayCreate) (hcheck : checkFlag f = .ok ()) :
    checkFlag (.keyword f.toString) = .ok () := by
  cases f with
  | keyword name => exact hcheck
  | mayCreate => exact absurd rfl hf
  | _ => rfl

/-- So it is an atom, with a backslash before it or without. -/
theorem exists_atom {f : Flag} (hf : f ≠ .mayCreate) (hcheck : checkFlag f = .ok ()) :
    ∃ name : String, AllChars isAtomChar name ∧ name.toList ≠ [] ∧
      (f.toString = "\\" ++ name ∨ f.toString = name) := by
  obtain ⟨hne, hatom⟩ := checkFlag_keyword_iff.mp (checkFlag_toString hf hcheck)
  unfold withoutBackslash at hne hatom
  split at hne
  · next cs hname =>
    refine ⟨String.ofList cs, by simpa [AllChars, hname] using hatom, by simpa using hne, .inl ?_⟩
    rw [← String.ofList_toList (s := f.toString), hname]
    exact String.ofList_cons
  · exact ⟨f.toString, by simpa [AllChars] using hatom, hne, .inr rfl⟩

section

variable {name : String}

theorem isBare_of_atom (h : AllChars isAtomChar name) : AllChars isBare name :=
  h.mono fun _ => isBare_of_isAtomChar

/-- The bytes of an atom can stand in an atom, and none of them is a wildcard or a backslash. -/
theorem exists_bytes_of_atom (h : AllChars isAtomChar name) (hne : name.toList ≠ []) :
    ∃ a as, Utf8.bytes name = a :: as ∧ foldByte 42 ≠ foldByte a ∧ foldByte 92 ≠ foldByte a ∧
      ∀ b ∈ a :: as, isAtomByte b = true := by
  have hbytes := forall_mem_bytes (q := fun b => isAtomByte b && foldByte 42 != foldByte b &&
    foldByte 92 != foldByte b) (ascii_of_isBare (isBare_of_atom h)) h (by decide)
  cases hname : Utf8.bytes name with
  | nil => exact absurd hname (bytes_ne_nil (isBare_of_atom h) hne)
  | cons a as =>
    simp only [hname, Bool.and_eq_true, bne_iff_ne] at hbytes
    have ha := hbytes a List.mem_cons_self
    exact ⟨a, as, rfl, ha.1.2, ha.2, fun b hb => (hbytes b hb).1.1⟩

theorem flagName_atom (h : AllChars isAtomChar name) (hne : name.toList ≠ []) {b : UInt8}
    (hb : isAtomByte b = false) (rest : List UInt8) :
    flagName (Utf8.bytes name ++ b :: rest) = .done name (b :: rest) := by
  obtain ⟨a, as, hname, -, hbackslash, hatom⟩ := exists_bytes_of_atom h hne
  have hread : atom (a :: as ++ b :: rest) = .done name (b :: rest) := by
    change Reader.bind _ _ _ = _
    rw [bind_of_done (takeWhile1_append (List.cons_ne_nil a as) hatom hb rest), ← hname,
      asciiString_bytes (isBare_of_atom h)]
    rfl
  have hany : anyFlag (a :: (as ++ b :: rest)) = .fail :=
    bind_of_fail (anyCase_of_ne hbackslash [42] _)
  have hchar : Reader.char '\\' (a :: (as ++ b :: rest)) = .fail := by
    have hne : (92 : UInt8) ≠ a := fun heq => hbackslash (congrArg foldByte heq)
    change (if (92 : UInt8) = a then _ else _) = _
    rw [if_neg hne]
  rw [hname, flagName, List.cons_append, choice_of_fail hany,
    choice_of_fail (p := systemFlag) (bind_of_fail hchar)]
  exact choice_of_done hread

theorem flagName_backslash (h : AllChars isAtomChar name) (hne : name.toList ≠ []) {b : UInt8}
    (hb : isAtomByte b = false) (rest : List UInt8) :
    flagName (Utf8.bytes ("\\" ++ name) ++ b :: rest) = .done ("\\" ++ name) (b :: rest) := by
  obtain ⟨a, as, hname, hwildcard, -, hatom⟩ := exists_bytes_of_atom h hne
  have hbackslash : Utf8.bytes "\\" = [92] := by decide +kernel
  have hbytes : Utf8.bytes ("\\" ++ name) ++ b :: rest = 92 :: (a :: as ++ b :: rest) := by
    rw [Utf8.bytes_append, hbackslash, hname]
    rfl
  have hany : anyFlag (92 :: (a :: as ++ b :: rest)) = .fail := by
    refine bind_of_fail ?_
    change anyCase [42] (a :: (as ++ b :: rest)) = .fail
    exact anyCase_of_ne hwildcard [] _
  have hread : systemFlag (92 :: (a :: as ++ b :: rest)) = .done ("\\" ++ name) (b :: rest) := by
    change Reader.bind (Reader.takeWhile isAtomByte) _ _ = _
    rw [bind_of_done (takeWhile_append hatom hb rest), ← hname,
      asciiString_bytes (isBare_of_atom h)]
    rfl
  rw [hbytes, flagName, choice_of_fail hany]
  exact choice_of_done hread

end

/-- A flag is read back by its name, before a byte that cannot stand in an atom. -/
theorem flagName_toString {f : Flag} (hcheck : checkFlag f = .ok ()) {b : UInt8}
    (hb : isAtomByte b = false) (rest : List UInt8) :
    flagName (Utf8.bytes f.toString ++ b :: rest) = .done f.toString (b :: rest) := by
  by_cases hf : f = .mayCreate
  · subst hf
    have hbytes : Utf8.bytes Flag.mayCreate.toString = [92, 42] := by decide +kernel
    rw [hbytes]
    exact choice_of_done rfl
  obtain ⟨name, hatom, hne, hname | hname⟩ := exists_atom hf hcheck
  · rw [hname]
    exact flagName_backslash hatom hne hb rest
  · rw [hname]
    exact flagName_atom hatom hne hb rest

/-- Texts with blanks between them, as bytes. -/
theorem bytes_intercalate (s : String) (ss : List String) :
    Utf8.bytes (String.intercalate " " (s :: ss)) =
      Utf8.bytes s ++ ss.flatMap fun t => 32 :: Utf8.bytes t := by
  have hblank : Utf8.bytes " " = [32] := by decide +kernel
  induction ss generalizing s with
  | nil => simp
  | cons t ss ih =>
    rw [String.intercalate_cons_cons, Utf8.bytes_append, Utf8.bytes_append, ih, hblank]
    simp

/-- Flags in parentheses. -/
def flagBytes (flags : List Flag) : List UInt8 := 40 :: Utf8.bytes (Flag.join flags) ++ [41]

/-- Flags are read back by their names, in their order. -/
theorem flagList_flagBytes {flags : List Flag}
    (hflags : ∀ f ∈ flags, checkFlag f = .ok ()) (rest : List UInt8) :
    flagList (flagBytes flags ++ rest) = .done (flags.map Flag.toString) rest := by
  have hbody : sepBy (Reader.char ' ') flagName (Utf8.bytes (Flag.join flags) ++ 41 :: rest) =
      .done (flags.map Flag.toString) (41 :: rest) := by
    cases flags with
    | nil =>
      have hempty : Utf8.bytes (Flag.join []) = [] := by decide +kernel
      rw [hempty]
      rfl
    | cons f flags =>
      have hread : ∀ g ∈ f :: flags, ∀ next rest, next = 32 ∨ next = 41 →
          flagName (Utf8.bytes g.toString ++ next :: rest) = .done g.toString (next :: rest) := by
        intro g hg next rest hnext
        exact flagName_toString (hflags g hg) (by rcases hnext with rfl | rfl <;> rfl) rest
      have hjoined := sepBy1_joined (fun g : Flag => Utf8.bytes g.toString) Flag.toString
        (by decide) hread rest
      rw [Flag.join, List.map_cons, bytes_intercalate, List.append_assoc, List.flatMap_map]
      exact orElse_of_done hjoined
  have hbytes : flagBytes flags ++ rest = 40 :: (Utf8.bytes (Flag.join flags) ++ 41 :: rest) := by
    simp [flagBytes]
  rw [hbytes, flagList_eq]
  change Reader.bind (sepBy (Reader.char ' ') flagName) _ _ = _
  rw [bind_of_done hbody]
  rfl

/-! ### Literals -/

/-- Bytes as a literal. -/
def literalBytes (bs : List UInt8) : List UInt8 :=
  Utf8.bytes ("\x7b" ++ bs.length.repr ++ "\x7d") ++ [13, 10] ++ bs

/-- A literal is read back, whatever it holds and whatever follows it. -/
theorem literal_append {bs : List UInt8} (hzero : 0 ∉ bs) (hsize : bs.length ≤ Decimal.maxUInt32)
    (rest : List UInt8) : literal (literalBytes bs ++ rest) = .done bs rest := by
  have hbytes : literalBytes bs ++ rest =
      123 :: (Utf8.bytes bs.length.repr ++ 125 :: 13 :: 10 :: (bs ++ rest)) := by
    have hopening : Utf8.bytes "\x7b" = [123] := by decide +kernel
    have hclosing : Utf8.bytes "\x7d" = [125] := by decide +kernel
    simp [literalBytes, Utf8.bytes_append, hopening, hclosing]
  have hnumber := number_repr hsize (b := 125) rfl (13 :: 10 :: (bs ++ rest))
  have hbetween : between '{' '}' number (literalBytes bs ++ rest) =
      .done bs.length (13 :: 10 :: (bs ++ rest)) := by
    rw [hbytes]
    change Reader.bind number _ _ = _
    rw [bind_of_done hnumber]
    rfl
  have htake : Reader.take bs.length (bs ++ rest) = .done bs rest := by
    rw [Reader.take, if_neg (by simp), List.take_left, List.drop_left]
  have hkept : (if bs.contains 0 then none else some bs) = some bs := if_neg (by simpa using hzero)
  change Reader.bind _ _ _ = _
  rw [bind_of_done hbetween]
  change Reader.bind (Reader.take bs.length) _ _ = _
  rw [bind_of_done htake]
  simp only [hkept]
  rfl

end Postroom.Wire
