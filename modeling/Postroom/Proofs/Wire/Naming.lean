import Postroom.Proofs.Wire.Sending

/-! # Every mailbox name survives the wire

A server reads a name in quotes: it takes the quotes off and undoes the backslashes (`unquote?`).
What it reads that way are exactly the bytes that were put in quotes (`unquote?_eq_some_iff`).  The
requests that name a mailbox write nothing but printable characters around the quotes, and no other
quote, so the line of each of them carries the name as one quoted string, from which the name comes
back whatever characters it has (`name_carried`).
-/

namespace Postroom

namespace Request

/-- The mailbox that a request names. -/
def named? : Request → Option String
  | select mailbox | examine mailbox | create mailbox | delete mailbox | copy _ mailbox
  | move _ mailbox | append mailbox _ _ => some mailbox
  | _ => none

/-- The flags that a message is added with. -/
def marks : Request → List Flag
  | append _ flags _ => flags
  | _ => []

end Request

namespace Wire

open Text MailboxName

/-! ### Quoted strings as a server reads them -/

/-- A byte between quotes. -/
def escapeByte (b : UInt8) : List UInt8 := if b = 92 ∨ b = 34 then [92, b] else [b]

/-- Bytes in quotes. -/
def quoteBytes (bs : List UInt8) : List UInt8 := 34 :: bs.flatMap escapeByte ++ [34]

/-- What stands before the closing quote, without the backslashes that only protect the byte behind
them, and what follows the quote. -/
def unquoteBody? : List UInt8 → Option (List UInt8 × List UInt8)
  | [] | [92] => none
  | 92 :: e :: rest =>
    if e = 92 ∨ e = 34 then (unquoteBody? rest).map fun (bs, rest) => (e :: bs, rest) else none
  | b :: rest =>
    if b = 34 then some ([], rest)
    else if isTextByte b then (unquoteBody? rest).map fun (bs, rest) => (b :: bs, rest)
    else none

/-- What a quoted string stands for, and what follows it. -/
def unquote? : List UInt8 → Option (List UInt8 × List UInt8)
  | 34 :: rest => unquoteBody? rest
  | _ => none

theorem unquoteBody?_escaped {bs : List UInt8} (hbs : ∀ b ∈ bs, isTextByte b = true)
    (rest : List UInt8) : unquoteBody? (bs.flatMap escapeByte ++ 34 :: rest) = some (bs, rest) := by
  induction bs with
  | nil => rfl
  | cons b bs ih =>
    have hrest := ih fun b hb => hbs b (List.mem_cons_of_mem _ hb)
    have hb : isTextByte b = true := hbs b List.mem_cons_self
    by_cases hspecial : b = 92 ∨ b = 34
    · simp only [List.flatMap_cons, escapeByte, if_pos hspecial, List.cons_append, List.nil_append,
        unquoteBody?]
      simpa using hrest
    · obtain ⟨hbackslash, hquote⟩ := not_or.mp hspecial
      have hread : unquoteBody? (b :: (bs.flatMap escapeByte ++ 34 :: rest)) =
          (unquoteBody? (bs.flatMap escapeByte ++ 34 :: rest)).map
            fun (bs, rest) => (b :: bs, rest) := by
        rw [unquoteBody?]
        · simp [hquote, hb]
        · simp [hbackslash]
        · simp [hbackslash]
      rw [List.flatMap_cons, escapeByte, if_neg hspecial, List.cons_append, List.cons_append,
        List.nil_append, hread, hrest]
      rfl

theorem eq_of_unquoteBody? {input bs rest : List UInt8}
    (h : unquoteBody? input = some (bs, rest)) :
    input = bs.flatMap escapeByte ++ 34 :: rest ∧ ∀ b ∈ bs, isTextByte b = true := by
  fun_induction unquoteBody? input generalizing bs with
  | case1 | case2 | case4 | case7 => cases h
  | case3 e middle he ih =>
    obtain ⟨⟨taken, after⟩, htaken, heq⟩ := Option.map_eq_some_iff.mp h
    cases heq
    obtain ⟨rfl, htext⟩ := ih htaken
    have hself : isTextByte e = true := by rcases he with rfl | rfl <;> rfl
    simpa [escapeByte, he, hself] using htext
  | case5 =>
    cases h
    simp
  | case6 b middle hlast hmore hquote hb ih =>
    obtain ⟨⟨taken, after⟩, htaken, heq⟩ := Option.map_eq_some_iff.mp h
    cases heq
    obtain ⟨rfl, htext⟩ := ih htaken
    -- A backslash is read together with the byte behind it, so this is none.
    have hbackslash : b ≠ 92 := ne_backslash hlast hmore
    simpa [escapeByte, hbackslash, hquote, hb] using htext

/-- A quoted string is read exactly if it is the text it stands for in quotes. -/
theorem unquote?_eq_some_iff {input bs rest : List UInt8} :
    unquote? input = some (bs, rest) ↔
      input = quoteBytes bs ++ rest ∧ ∀ b ∈ bs, isTextByte b = true := by
  constructor
  · intro h
    unfold unquote? at h
    split at h
    · obtain ⟨rfl, htext⟩ := eq_of_unquoteBody? h
      exact ⟨by simp [quoteBytes], htext⟩
    · cases h
  · rintro ⟨rfl, htext⟩
    have hquoted : quoteBytes bs ++ rest = 34 :: (bs.flatMap escapeByte ++ 34 :: rest) := by
      simp [quoteBytes]
    rw [hquoted, unquote?, unquoteBody?_escaped htext]

/-! ### The bytes of printable texts -/

/-- The bytes of a character in quotes are the bytes of the character in quotes. -/
theorem flatMap_escapeByte (c : Char) :
    (Utf8.encodeChar c).flatMap escapeByte = Utf8.encode (escape c) := by
  by_cases hspecial : c = '\\' ∨ c = '"'
  · rcases hspecial with rfl | rfl <;> decide
  · have hplain : ∀ b ∈ Utf8.encodeChar c, escapeByte b = [b] := by
      intro b hb
      have hmem : b ∈ Utf8.bytes (String.ofList [c]) := by
        rw [Utf8.bytes_ofList, Utf8.encode, List.flatMap_singleton]
        exact hb
      have hb : ¬ (b = 92 ∨ b = 34) := by
        rintro (rfl | rfl)
        · have hc := (Utf8.mem_bytes_iff (c := '\\') rfl).mp hmem
          exact hspecial (.inl (by simpa [eq_comm] using hc))
        · have hc := (Utf8.mem_bytes_iff (c := '"') rfl).mp hmem
          exact hspecial (.inr (by simpa [eq_comm] using hc))
      rw [escapeByte, if_neg hb]
    rw [escape, if_neg hspecial, Utf8.encode, List.flatMap_singleton, List.flatMap_def,
      List.map_congr_left hplain]
    exact List.flatMap_singleton' _

/-- A text with a backslash before each quote and backslash. -/
def escaped (s : String) : String := String.ofList (s.toList.flatMap escape)

theorem bytes_escaped (s : String) :
    Utf8.bytes (escaped s) = (Utf8.bytes s).flatMap escapeByte := by
  simp only [escaped, Utf8.bytes_eq_encode, Utf8.encode, String.toList_ofList, List.flatMap_assoc,
    flatMap_escapeByte]

/-- A text is put in quotes as its bytes are. -/
theorem bytes_inQuotes (s : String) : Utf8.bytes (inQuotes s) = quoteBytes (Utf8.bytes s) := by
  have hquote : Utf8.bytes "\"" = [34] := by decide +kernel
  have hparts : inQuotes s = "\"" ++ escaped s ++ "\"" := by
    rw [inQuotes, String.ofList_append, String.ofList_cons]
    rfl
  rw [hparts, Utf8.bytes_append, Utf8.bytes_append, bytes_escaped, hquote]
  rfl

/-- A printable text has printable bytes. -/
theorem printable_bytes {s : String} (h : AllChars isPrintable s) :
    ∀ b ∈ Utf8.bytes s, 32 ≤ b ∧ b ≤ 126 := by
  have hbytes := forall_mem_bytes (q := fun b => 32 ≤ b && b ≤ 126) (ascii_of_isPrintable h) h
    (by decide)
  simpa using hbytes

theorem isTextByte_of_mem_bytes {s : String} (h : AllChars isPrintable s) :
    ∀ b ∈ Utf8.bytes s, isTextByte b = true :=
  forall_mem_bytes (ascii_of_isPrintable h) h (by decide)

theorem quote_notMem_bytes {s : String} (h : AllChars isBare s) : 34 ∉ Utf8.bytes s := by
  intro hmem
  have := h _ ((Utf8.mem_bytes_iff (c := '"') rfl).mp hmem)
  exact absurd this (by decide)

/-! ### Lines that carry a name -/

/-- The parts of a line carry a mailbox name: all of it is printable, and the one quoted string in
it is the wire form of the name, which the name comes back from. -/
structure Carried (name : String) (front quoted back : List UInt8) : Prop where
  /-- All bytes are printable. -/
  printable : ∀ b ∈ front ++ quoted ++ back, 32 ≤ b ∧ b ≤ 126
  /-- There is no quote before the name. -/
  front_bare : 34 ∉ front
  /-- There is no quote behind the name. -/
  back_bare : 34 ∉ back
  /-- A server reads the wire form of the name. -/
  read : unquote? (quoted ++ back) = some (Utf8.bytes (encode name), back)
  /-- The name comes back from its wire form. -/
  decoded : decode (encode name) = name

/-- A name in quotes is carried by texts without quotes around it. -/
theorem carried_of_isBare {before behind : String} (name : String)
    (hbefore : AllChars isBare before)
    (hbehind : AllChars isBare behind) :
    Carried name (Utf8.bytes before) (Utf8.bytes (inQuotes (encode name)))
      (Utf8.bytes behind) where
  printable := by
    rw [← Utf8.bytes_append, ← Utf8.bytes_append]
    refine printable_bytes ?_
    rw [AllChars.append_iff, AllChars.append_iff]
    exact ⟨⟨hbefore.mono fun _ => isPrintable_of_isBare, isPrintable_inQuotes name⟩,
      hbehind.mono fun _ => isPrintable_of_isBare⟩
  front_bare := quote_notMem_bytes hbefore
  back_bare := quote_notMem_bytes hbehind
  read := by
    rw [bytes_inQuotes]
    exact unquote?_eq_some_iff.mpr ⟨rfl, isTextByte_of_mem_bytes (isPrintable_encode name)⟩
  decoded := decode_encode name

/-! ### Requests that name a mailbox -/

theorem error_of_forM {ε α : Type} {f : α → Except ε Unit} {as : List α} {e : ε}
    (h : as.forM f = .error e) : ∃ a ∈ as, f a = .error e := by
  induction as with
  | nil => cases h
  | cons a as ih =>
    change (f a >>= fun _ => as.forM f) = .error e at h
    cases hfirst : f a with
    | error e' =>
      rw [hfirst] at h
      cases h
      exact ⟨a, List.mem_cons_self, hfirst⟩
    | ok =>
      rw [hfirst] at h
      obtain ⟨a', ha', herror⟩ := ih h
      exact ⟨a', List.mem_cons_of_mem a ha', herror⟩

/-- Flags are refused only for one of them. -/
theorem error_of_flagArgument {flags : List Flag} {fault : Fault}
    (h : Order.flagArgument flags = .error fault) : ∃ f ∈ flags, checkFlag f = .error fault := by
  unfold Order.flagArgument flagText at h
  split at h
  · cases h
  · cases hforM : flags.forM checkFlag with
    | error fault' =>
      rw [hforM] at h
      cases h
      exact error_of_forM hforM
    | ok =>
      rw [hforM] at h
      cases h

/-- The text of a command has a name in quotes, and no other quote. -/
def HasName (name text : String) : Prop :=
  ∃ before behind, AllChars isBare before ∧ AllChars isBare behind ∧
    text = before ++ inQuotes (encode name) ++ behind

namespace Order

/-- A command that ends with the name has it in quotes. -/
theorem hasName_of_last {o : Order} {word name : String} (hword : AllChars isBare word)
    (hcommand : o.command = do return word ++ (← quotedMailbox name)) :
    ∃ text, o.command = .ok text ∧ HasName name text := by
  rw [quotedMailbox_eq] at hcommand
  exact ⟨_, hcommand, word, "", hword, by decide, String.append_empty.symm⟩

/-- The command to add a message has the name in quotes, unless the flags are refused. -/
theorem hasName_of_append {name : String} {flags : List Flag} (content : List UInt8) {t : String}
    (hflags : flagArgument flags = .ok t) :
    ∃ text, (append name flags content).command = .ok text ∧ HasName name text := by
  have hword : AllChars isBare "APPEND " := by decide
  have hopening : AllChars isBare " \x7b" := by decide
  have hclosing : AllChars isBare "\x7d" := by decide
  have hcommand : (append name flags content).command =
      .ok ("APPEND " ++ inQuotes (encode name) ++ t ++ " \x7b" ++ content.length.repr ++
        "\x7d") := by
    rw [command_append_eq, hflags]
    rfl
  refine ⟨_, hcommand, "APPEND ", t ++ " \x7b" ++ content.length.repr ++ "\x7d", hword, ?_, ?_⟩
  · simp [hopening, hclosing, isBare_of_repr, isBare_of_flagArgument hflags]
  · simp only [String.append_assoc]

end Order

namespace Call

theorem command_of_order {r : Request} {o : Order} {text : String}
    (hgiven : Order.ofRequest r = .ok (some o)) (hcommand : o.command = .ok text) :
    (Call.request r).command = .ok (some text) := by
  rw [Call.command, hgiven]
  simp only [bind, Except.bind, hcommand]
  rfl

/-- A request that names a mailbox has a text with the name, unless flags are refused.  The name is
no reason to refuse it. -/
theorem hasName_or {r : Request} {name : String} (hnamed : r.named? = some name) :
    (∃ text, (Call.request r).command = .ok (some text) ∧ HasName name text) ∨
      ∃ f ∈ r.marks, ∃ fault, checkFlag f = .error fault ∧
        (Call.request r).command = .error fault := by
  have hlast (word : String) {o : Order} (hword : AllChars isBare word)
      (hgiven : Order.ofRequest r = .ok (some o))
      (hcommand : o.command = do return word ++ (← quotedMailbox name)) :
      ∃ text, (Call.request r).command = .ok (some text) ∧ HasName name text := by
    obtain ⟨text, htext, hname⟩ := Order.hasName_of_last hword hcommand
    exact ⟨text, command_of_order hgiven htext, hname⟩
  cases r with
  | select =>
    cases hnamed
    exact .inl (hlast "SELECT " (by decide) rfl rfl)
  | examine =>
    cases hnamed
    exact .inl (hlast "EXAMINE " (by decide) rfl rfl)
  | create =>
    cases hnamed
    exact .inl (hlast "CREATE " (by decide) rfl rfl)
  | delete =>
    cases hnamed
    exact .inl (hlast "DELETE " (by decide) rfl rfl)
  | copy uids =>
    cases hnamed
    have hword : AllChars isBare ("UID COPY " ++ UidSet.render uids ++ " ") := by
      rw [AllChars.append_iff, AllChars.append_iff]
      exact ⟨⟨by decide, isBare_of_render uids⟩, by decide⟩
    exact .inl (hlast _ hword rfl rfl)
  | move uids =>
    cases hnamed
    have hword : AllChars isBare ("UID MOVE " ++ UidSet.render uids ++ " ") := by
      rw [AllChars.append_iff, AllChars.append_iff]
      exact ⟨⟨by decide, isBare_of_render uids⟩, by decide⟩
    exact .inl (hlast _ hword rfl rfl)
  | append mailbox flags content =>
    cases hnamed
    cases hflags : Order.flagArgument flags with
    | ok t =>
      obtain ⟨text, htext, hname⟩ := Order.hasName_of_append content hflags
      exact .inl ⟨text, command_of_order rfl htext, hname⟩
    | error fault =>
      obtain ⟨f, hf, herror⟩ := error_of_flagArgument hflags
      have hcommand : (Order.append name flags content).command = .error fault := by
        rw [Order.command, hflags]
        rfl
      refine .inr ⟨f, hf, fault, herror, ?_⟩
      rw [Call.command]
      simp only [Order.ofRequest, pure_bind, hcommand]
      rfl
  | _ => cases hnamed

end Call

namespace Client

/-- Every mailbox name survives the wire.  A request that names a mailbox is not refused for the
name, only for a flag that cannot be sent.  Otherwise it writes a line that carries the name: the
line is printable, the one quoted string in it is read by a server as the wire form of the name, and
the name comes back from that. -/
theorem name_carried (r : Request) (name : String) (hnamed : r.named? = some name) :
    (∀ fault, (Call.request r).command = .error fault → ∃ f ∈ r.marks, checkFlag f = .error fault) ∧
      ∀ c : Client, c.blocked = none → (∀ f ∈ r.marks, checkFlag f = .ok ()) →
        ∃ front quoted back,
          front ++ quoted ++ back ++ [13, 10] <+: (record c (.request r)).written ∧
            Carried name front quoted back := by
  constructor
  · intro fault hrefused
    rcases Call.hasName_or hnamed with ⟨text, hcommand, -⟩ | ⟨f, hf, fault', herror, hcommand⟩
    · rw [hcommand] at hrefused
      cases hrefused
    · rw [hcommand] at hrefused
      cases hrefused
      exact ⟨f, hf, herror⟩
  · intro c hopen hmarks
    rcases Call.hasName_or hnamed with ⟨text, hcommand, hname⟩ | ⟨f, hf, fault, herror, -⟩
    · obtain ⟨before, behind, hbefore, hbehind, rfl⟩ := hname
      have htag : AllChars isBare ("a" ++ (c.tag + 1).repr ++ " ") := by
        rw [AllChars.append_iff, AllChars.append_iff]
        exact ⟨⟨by decide, isBare_of_repr _⟩, by decide⟩
      have hfront : AllChars isBare ("a" ++ (c.tag + 1).repr ++ " " ++ before) :=
        AllChars.append_iff.mpr ⟨htag, hbefore⟩
      refine ⟨_, _, _, ?_, carried_of_isBare name hfront hbehind⟩
      have hconduct := conduct_record c (.request r)
      rw [show (record c (.request r)).call.command = _ from hcommand] at hconduct
      -- The line comes first; an append sends its content behind it.
      have hline : commandLine (c.tag + 1) (before ++ inQuotes (encode name) ++ behind) <+:
          (record c (.request r)).written := by
        rcases written_of_sent (hconduct.sent_of_open hopen) with hwritten | ⟨bs, -, hwritten⟩
        · exact hwritten ▸ List.prefix_refl _
        · exact hwritten ▸ List.prefix_append _ _
      simpa only [commandLine, Utf8.bytes_append, List.append_assoc] using hline
    · rw [hmarks f hf] at herror
      cases herror

/-- A message is added to a mailbox whose name has umlauts, a line break, quotes, a backslash, an
ampersand and a character beyond the first plane. -/
theorem outlandish_name_carried :
    let name := "Ü\r\n\"&\\😀"
    let r : Request := .append name [.seen, .keyword "k"] [1, 2]
    let c := ofScript [] none none
    encode name = "&ANwADQAK-\"&-\\&2D3eAA-" ∧
      ∃ front quoted back,
        front ++ quoted ++ back ++ [13, 10] <+: (record c (.request r)).written ∧
          Carried name front quoted back := by
  intro name r c
  exact ⟨by decide +kernel, (name_carried r name rfl).2 c rfl (by decide)⟩

end Client

end Wire

end Postroom
