import Postroom.Proofs.Recovery
import Postroom.Proofs.Wire.Naming
import Postroom.Proofs.Wire.Rendering
import Postroom.Proofs.Wire.Streaming

/-! # Under which name a mailbox is listed

A quoted string is read with the backslashes in it (`quotedString_quoteBytes`), and nothing takes
them off again before a name is decoded.  The backslashes pass through the decoding, so a mailbox
is listed under its name with a backslash before each quote and backslash
(`listings_of_isListLine`).  For a name without these that is the name itself, and then a session
finds the mailbox in the listing, as does a move that was told that the mailbox is missing; under
any other name neither does (`listed_iff`).
-/

namespace Postroom

namespace Wire

open Text Reader MailboxName

/-! ### Names with backslashes -/

/-- A text without quotes and backslashes. -/
def Plain (s : String) : Prop := '"' ∉ s.toList ∧ '\\' ∉ s.toList

instance (s : String) : Decidable (Plain s) := inferInstanceAs (Decidable (_ ∧ _))

theorem backslash_mem_flatMap {cs : List Char} (h : '"' ∈ cs ∨ '\\' ∈ cs) :
    '\\' ∈ cs.flatMap escape := by
  rcases h with h | h
  · exact List.mem_flatMap.mpr ⟨_, h, by decide⟩
  · exact List.mem_flatMap.mpr ⟨_, h, by decide⟩

theorem length_le_flatMap_escape (cs : List Char) : cs.length ≤ (cs.flatMap escape).length := by
  induction cs with
  | nil => exact Nat.le_refl _
  | cons c cs ih =>
    have hc : 1 ≤ (escape c).length := by
      unfold escape
      split <;> simp
    rw [List.flatMap_cons, List.length_append, List.length_cons]
    omega

/-- Characters stay as they are exactly if none of them gets a backslash. -/
theorem flatMap_escape_eq_iff (cs : List Char) :
    cs.flatMap escape = cs ↔ '"' ∉ cs ∧ '\\' ∉ cs := by
  induction cs with
  | nil => simp
  | cons c cs ih =>
    by_cases hspecial : c = '\\' ∨ c = '"'
    · -- A backslash too many cannot be made up for behind it.
      have hlonger : (c :: cs).flatMap escape ≠ c :: cs := by
        intro heq
        have hlength := congrArg List.length heq
        have hle := length_le_flatMap_escape cs
        rw [List.flatMap_cons, escape, if_pos hspecial] at hlength
        simp only [List.length_append, List.length_cons, List.length_nil] at hlength
        omega
      refine iff_of_false hlonger ?_
      rcases hspecial with rfl | rfl <;> simp
    · obtain ⟨hbackslash, hquote⟩ := not_or.mp hspecial
      rw [List.flatMap_cons, escape, if_neg hspecial, List.singleton_append, List.cons.injEq, ih]
      simp [Ne.symm hbackslash, Ne.symm hquote]

/-- A text is as it is with backslashes exactly if it needs none. -/
theorem escaped_eq_iff (s : String) : escaped s = s ↔ Plain s := by
  rw [Plain, ← flatMap_escape_eq_iff, escaped]
  constructor
  · intro h
    rw [← String.toList_ofList (l := s.toList.flatMap escape), h]
  · intro h
    rw [h, String.ofList_toList]

/-- The wire form of a run is no place for quotes and backslashes. -/
theorem flatMap_escape_encodeRun (run : List Char) :
    (encodeRun run).flatMap escape = encodeRun run := by
  have hplain : ∀ c ∈ encodeRun run, c ≠ '"' ∧ c ≠ '\\' := by
    intro c hc
    unfold encodeRun at hc
    split at hc
    · cases hc
    · simp only [List.mem_cons, List.mem_append, List.not_mem_nil, or_false] at hc
      rcases hc with rfl | hc | rfl
      · decide
      · obtain ⟨hlow, -, -, hbackslash⟩ := mem_shift hc
        refine ⟨?_, hbackslash⟩
        rintro rfl
        exact absurd hlow (by decide)
      · decide
  exact (flatMap_escape_eq_iff _).mpr ⟨fun h => (hplain _ h).1 rfl, fun h => (hplain _ h).2 rfl⟩

/-- Backslashes before the characters of a name come to such before those of its wire form. -/
theorem flatMap_escape_encodeFrom (run cs : List Char) :
    (encodeFrom run cs).flatMap escape = encodeFrom run (cs.flatMap escape) := by
  induction cs generalizing run with
  | nil => exact flatMap_escape_encodeRun run
  | cons c cs ih =>
    by_cases hspecial : c = '\\' ∨ c = '"'
    · -- A backslash is printable, so it ends the pending run where the character did.
      have hc : isPrintable c = true := by rcases hspecial with rfl | rfl <;> rfl
      have hwritten : encodePrintable c = [c] := by rcases hspecial with rfl | rfl <;> rfl
      have hescape : escape c = ['\\', c] := if_pos hspecial
      have hbackslash : isPrintable '\\' = true := rfl
      rw [encodeFrom, if_pos hc, hwritten, List.flatMap_append, List.flatMap_append,
        flatMap_escape_encodeRun, ih [], List.flatMap_singleton, List.flatMap_cons, hescape,
        List.cons_append, List.singleton_append, encodeFrom, if_pos hbackslash, encodeFrom,
        if_pos hc, hwritten]
      simp [encodePrintable, encodeRun]
    · have hescape : escape c = [c] := if_neg hspecial
      rw [List.flatMap_cons, hescape, List.singleton_append]
      by_cases hc : isPrintable c
      · have hwritten : (encodePrintable c).flatMap escape = encodePrintable c := by
          unfold encodePrintable
          split
          · rfl
          · rw [List.flatMap_singleton, hescape]
        rw [encodeFrom, if_pos hc, encodeFrom, if_pos hc, List.flatMap_append, List.flatMap_append,
          flatMap_escape_encodeRun, hwritten, ih []]
      · rw [encodeFrom, if_neg hc, encodeFrom, if_neg hc, ih]

theorem escaped_encode (name : String) : escaped (encode name) = encode (escaped name) := by
  simp only [escaped, encode, encodeChars, String.toList_ofList, flatMap_escape_encodeFrom]

/-- A wire form without an ampersand is the name itself. -/
theorem encodeChars_of_notMem {cs : List Char} (h : '&' ∉ encodeChars cs) :
    encodeChars cs = cs := by
  have hself {ds : List Char} (hds : '&' ∉ ds) : decodeFrom? none ds = some ds := by
    induction ds with
    | nil => rfl
    | cons d ds ih =>
      simp only [List.mem_cons, not_or] at hds
      rw [decodeFrom?_cons (Ne.symm hds.1), ih hds.2, Option.map_some]
  have hread : decodeFrom? none (encodeChars cs) = some cs := decodeChars?_encodeChars cs
  exact Option.some.inj ((hself h).symm.trans hread)

/-- Whether a name is the inbox, which is named in any case of letters. -/
def isInbox (name : String) : Bool := name.toList.map Char.toUpper = "INBOX".toList

theorem notMem_of_isInbox {name : String} (h : isInbox name = true) {c : Char}
    (hc : c.toUpper ∉ "INBOX".toList) : c ∉ name.toList := by
  intro hmem
  have heq : name.toList.map Char.toUpper = "INBOX".toList := by simpa [isInbox] using h
  exact hc (heq ▸ List.mem_map_of_mem hmem)

/-- The wire form of a name, with backslashes, is the inbox only if the name is. -/
theorem isInbox_of_wire {name : String} (h : isInbox (escaped (encode name)) = true) :
    isInbox name = true := by
  -- The inbox has no ampersand, so nothing was shifted, and no backslash, so none was put in.
  have hampersand : '&' ∉ (escaped (encode name)).toList := notMem_of_isInbox h (by decide)
  have hwire : escaped (encode name) = escaped name := by
    rw [escaped_encode, encode] at hampersand ⊢
    rw [String.toList_ofList] at hampersand
    rw [encodeChars_of_notMem hampersand, String.ofList_toList]
  rw [hwire] at h
  have hbackslash : '\\' ∉ (escaped name).toList := notMem_of_isInbox h (by decide)
  have hplain : Plain name := by
    rw [escaped, String.toList_ofList] at hbackslash
    exact ⟨fun hmem => hbackslash (backslash_mem_flatMap (.inl hmem)),
      fun hmem => hbackslash (backslash_mem_flatMap (.inr hmem))⟩
  rwa [(escaped_eq_iff name).mpr hplain] at h

/-! ### What is read in quotes -/

/-- What stands between quotes is kept as it is written. -/
theorem quotedBody_escaped {bs : List UInt8} (hbs : ∀ b ∈ bs, isTextByte b = true)
    (rest : List UInt8) :
    quotedBody (bs.flatMap escapeByte ++ 34 :: rest) =
      .done (bs.flatMap escapeByte) (34 :: rest) := by
  induction bs with
  | nil => rfl
  | cons b bs ih =>
    have hrest := ih fun b hb => hbs b (List.mem_cons_of_mem _ hb)
    by_cases hspecial : b = 92 ∨ b = 34
    · rw [List.flatMap_cons, escapeByte, if_pos hspecial, List.append_assoc, List.cons_append,
        List.singleton_append, quotedBody, if_pos hspecial, hrest]
      rfl
    · obtain ⟨hbackslash, hquote⟩ := not_or.mp hspecial
      have htext : (isTextByte b && b != 34) = true := by simp [hbs b List.mem_cons_self, hquote]
      rw [List.flatMap_cons, escapeByte, if_neg hspecial, List.append_assoc, List.singleton_append,
        quotedBody_cons hbackslash, if_pos htext, hrest]
      rfl

theorem quotedString_quoteBytes {bs : List UInt8} (hbs : ∀ b ∈ bs, isTextByte b = true)
    (rest : List UInt8) :
    quotedString (quoteBytes bs ++ rest) = .done (bs.flatMap escapeByte) rest := by
  have hbytes : quoteBytes bs ++ rest = 34 :: (bs.flatMap escapeByte ++ 34 :: rest) := by
    simp [quoteBytes]
  rw [hbytes]
  change Reader.bind quotedBody _ _ = _
  rw [bind_of_done (quotedBody_escaped hbs rest)]
  rfl

/-- A printable text is read back from its bytes. -/
theorem string?_bytes {s : String} (h : AllChars isPrintable s) :
    Utf8.string? (Utf8.bytes s) = some s := by
  have hascii := ascii_of_isPrintable h
  rw [Utf8.bytes_eq_encode, Utf8.encode_of_ascii hascii, Utf8.string?_of_ascii hascii,
    String.ofList_toList]

theorem isPrintable_escaped {s : String} (h : AllChars isPrintable s) :
    AllChars isPrintable (escaped s) := by
  intro c hc
  rw [escaped, String.toList_ofList, List.mem_flatMap] at hc
  obtain ⟨d, hd, hc⟩ := hc
  rcases mem_escape hc with rfl | rfl
  · exact h c hd
  · rfl

/-- A mailbox name in quotes is read with the backslashes in it. -/
theorem mailboxName_quoted {name : String} (hinbox : isInbox name = false) {quoted : List UInt8}
    (hquoted : unquote? quoted = some (Utf8.bytes (encode name), [])) (rest : List UInt8) :
    mailboxName (quoted ++ rest) = .done (escaped (encode name)) rest := by
  obtain ⟨hbytes, htext⟩ := unquote?_eq_some_iff.mp hquoted
  rw [List.append_nil] at hbytes
  subst hbytes
  have hstring : string (quoteBytes (Utf8.bytes (encode name)) ++ rest) =
      .done (Utf8.bytes (escaped (encode name))) rest := by
    rw [bytes_escaped]
    exact orElse_of_done (quotedString_quoteBytes htext rest)
  have hword : wordOrString (quoteBytes (Utf8.bytes (encode name)) ++ rest) =
      .done (Utf8.bytes (escaped (encode name))) rest :=
    (orElse_of_fail (takeWhile1_of_not rfl _)).trans hstring
  have hread : utf8 wordOrString (quoteBytes (Utf8.bytes (encode name)) ++ rest) =
      .done (escaped (encode name)) rest := by
    rw [utf8, Reader.filterMap, bind_of_done hword,
      string?_bytes (isPrintable_escaped (isPrintable_encode name))]
    rfl
  -- A reader of names makes every case of the inbox the same name, and so must not meet one.
  have hother : ¬ (escaped (encode name)).toList.map Char.toUpper = "INBOX".toList := by
    intro heq
    have hsame : isInbox name = true := isInbox_of_wire (by simpa [isInbox] using heq)
    rw [hinbox] at hsame
    cases hsame
  change Reader.bind (utf8 wordOrString) _ _ = _
  rw [bind_of_done hread, if_neg hother]
  rfl

/-! ### The line that lists a mailbox -/

/-- Reads what separates the levels of a name, if anything does. -/
def delimiterMark : Reader (Option String) :=
  orElse (do return some (← utf8 quotedString)) (do nil; return none)

instance : TakesFront delimiterMark := by
  unfold delimiterMark
  infer_instance

/-- A line lists a mailbox with attributes and a delimiter: the name stands in quotes in its wire
form, with a backslash before each quote and backslash. -/
def IsListLine (name : String) (attributes : List String) (delimiter : Option String)
    (line : List UInt8) : Prop :=
  ∃ flags mark quoted, flagList flags = .done attributes [] ∧
    delimiterMark mark = .done delimiter [] ∧
    unquote? quoted = some (Utf8.bytes (encode name), []) ∧
    line = Utf8.bytes "* LIST " ++ flags ++ [32] ++ mark ++ [32] ++ quoted ++ [13, 10]

/-- The mailbox as it is listed. -/
def listedAs (name : String) (attributes : List String) (delimiter : Option String) : Listing :=
  ⟨escaped name, delimiter, attributes.map ListingAttribute.ofString⟩

section

variable {name : String} {attributes : List String} {delimiter : Option String} {line : List UInt8}

theorem isWhole_of_isListLine (hinbox : isInbox name = false)
    (hline : IsListLine name attributes delimiter line) :
    IsWhole line (.listing attributes delimiter (escaped (encode name))) := by
  obtain ⟨flags, mark, quoted, hflags, hmark, hquoted, rfl⟩ := hline
  refine isWhole_of_accepted ?_
  have hword : Utf8.bytes "* LIST " = [42, 32, 76, 73, 83, 84, 32] := by decide +kernel
  have hlisting : listing (flags ++ 32 :: (mark ++ 32 :: (quoted ++ [13, 10]))) =
      .done (.listing attributes delimiter (escaped (encode name))) [13, 10] := by
    change Reader.bind flagList _ _ = _
    rw [bind_of_done (TakesFront.done_append _ hflags)]
    change Reader.bind delimiterMark _ (mark ++ 32 :: (quoted ++ [13, 10])) = _
    rw [bind_of_done (TakesFront.done_append _ hmark)]
    change Reader.bind mailboxName _ (quoted ++ [13, 10]) = _
    rw [bind_of_done (mailboxName_quoted hinbox hquoted [13, 10])]
    rfl
  have hdata : mailboxData (76 :: 73 :: 83 :: 84 :: 32 ::
      (flags ++ 32 :: (mark ++ 32 :: (quoted ++ [13, 10])))) =
        .done (.listing attributes delimiter (escaped (encode name))) [13, 10] := by
    unfold mailboxData
    iterate 2 refine (choice_of_fail rfl).trans ?_
    exact choice_of_done hlisting
  have huntagged : untagged (42 :: 32 :: 76 :: 73 :: 83 :: 84 :: 32 ::
      (flags ++ 32 :: (mark ++ 32 :: (quoted ++ [13, 10])))) =
        .done (.listing attributes delimiter (escaped (encode name))) [] := by
    change Reader.bind (choice _) _ _ = _
    exact (bind_of_done ((choice_of_fail rfl).trans (choice_of_done hdata))).trans rfl
  have hparts : Utf8.bytes "* LIST " ++ flags ++ [32] ++ mark ++ [32] ++ quoted ++ [13, 10] =
      42 :: 32 :: 76 :: 73 :: 83 :: 84 :: 32 ::
        (flags ++ 32 :: (mark ++ 32 :: (quoted ++ [13, 10]))) := by
    simp [hword]
  rw [hparts]
  unfold response
  exact (choice_of_fail rfl).trans (choice_of_done huntagged)

/-- A mailbox is listed under its name with backslashes, among what else is listed. -/
theorem listings_of_isListLine (hinbox : isInbox name = false)
    (hline : IsListLine name attributes delimiter line) {before : List (List UInt8)}
    {earlier later : List Listing} {behind : List UInt8}
    (hbefore : ∀ bs ∈ before, ∃ r, IsWhole bs r) (hearlier : listings before.flatten = .ok earlier)
    (hlater : listings behind = .ok later) :
    listings (before.flatten ++ (line ++ behind)) =
      .ok (earlier ++ listedAs name attributes delimiter :: later) := by
  have hname : MailboxName.decode (escaped (encode name)) = escaped name := by
    rw [escaped_encode, decode_encode]
  have hitem : listed? (.listing attributes delimiter (escaped (encode name))) =
      some (listedAs name attributes delimiter) := by
    rw [listed?, hname, listedAs]
  have hmiddle : listings (line ++ behind) = .ok (listedAs name attributes delimiter :: later) := by
    rw [listings, items_cons (isWhole_of_isListLine hinbox hline), hitem]
    simp only
    rw [show items listed? behind = _ from hlater]
    rfl
  rw [listings, items_append hbefore hearlier]
  rw [show items listed? (line ++ behind) = _ from hmiddle]
  rfl

end

/-! ### The listing of a session -/

namespace Client

/-- Requests are answered by a client. -/
def answers : Answerer Client := fun request c => Action.exec (answer request) c

theorem exec_listing {c : Client} {data : List (List UInt8)} {completion rest : List UInt8}
    {remark : Remark} {found : List Listing} (hopen : c.blocked = none)
    (hdata : ∀ bs ∈ data, ∃ r, IsWhole bs r ∧ r.isCompletion = false)
    (hcompletion : IsWhole completion (.completion ("a" ++ (c.tag + 1).repr) .ok remark))
    (hincoming : c.incoming = linesOf (data.flatten ++ completion ++ rest))
    (hfound : listings data.flatten = .ok found) :
    ∃ after, Talk.exec answers Talk.list c =
        (.ok (Assoc.ofList (found.map fun l => (l.name, l))), after) ∧
      after.incoming = linesOf rest := by
  have hreference : quotedText "" = .ok "\"\"" := by decide
  have hpattern : quotedText "*" = .ok "\"*\"" := by decide
  obtain ⟨copied, after, hrun, hafter⟩ := exec_run_of_ok hopen hdata hcompletion hincoming
    ("LIST " ++ "\"\"" ++ " " ++ "\"*\"")
  have hlist : answers .list c = (.ok found, after) := by
    change Action.exec (list "" "*") c = _
    rw [list, hreference, hpattern]
    simp only [Action.exec_bind, Action.exec_liftM]
    rw [hrun]
    simp only [hfound]
  refine ⟨after, ?_, hafter⟩
  rw [Talk.list, Talk.exec_ask_bind_of_ok hlist, Talk.exec_pure]

/-- Under which name a session finds a mailbox in the listing.  A mailbox other than the inbox is
listed with its name in quotes, as it would be put into a command.  It is found under its name
exactly if the name has neither a quote nor a backslash (or is listed besides); then a move that was
told that the mailbox is missing fails with that, and otherwise it goes on to make the mailbox. -/
theorem listed_iff (c : Client) (name : String) (attributes : List String)
    (delimiter : Option String) (before after : List (List UInt8))
    (line completion rest : List UInt8) (earlier later : List Listing) (remark : Remark)
    (hopen : c.blocked = none) (hinbox : isInbox name = false)
    (hline : IsListLine name attributes delimiter line)
    (hdata : ∀ bs ∈ before ++ after, ∃ r, IsWhole bs r ∧ r.isCompletion = false)
    (hearlier : listings before.flatten = .ok earlier) (hlater : listings after.flatten = .ok later)
    (hcompletion : IsWhole completion (.completion ("a" ++ (c.tag + 1).repr) .ok remark))
    (hincoming : c.incoming =
      linesOf (before.flatten ++ line ++ after.flatten ++ completion ++ rest)) :
    ∃ entry c',
      listings (before.flatten ++ line ++ after.flatten) = .ok (earlier ++ entry :: later) ∧
      entry.delimiter = delimiter ∧ entry.attributes = attributes.map ListingAttribute.ofString ∧
      (entry.name = name ↔ Plain name) ∧
      ∃ table, Talk.exec answers Talk.list c = (.ok table, c') ∧ c'.incoming = linesOf rest ∧
        (table.has name = true ↔ Plain name ∨ name ∈ (earlier ++ later).map Listing.name) ∧
        ∀ uids missing, Talk.exec answers (Talk.retry uids name missing) c =
          if Plain name ∨ name ∈ (earlier ++ later).map Listing.name then (.error missing, c')
          else Talk.exec answers (do
            Talk.ask (.create name)
            Talk.moveOnce uids name) c' := by
  have hwhole : ∀ bs ∈ before, ∃ r, IsWhole bs r := fun bs hbs =>
    (hdata bs (List.mem_append_left _ hbs)).imp fun _ h => h.1
  have hfound : listings (before.flatten ++ line ++ after.flatten) =
      .ok (earlier ++ listedAs name attributes delimiter :: later) := by
    rw [List.append_assoc]
    exact listings_of_isListLine hinbox hline hwhole hearlier hlater
  have hall : ∀ bs ∈ before ++ line :: after, ∃ r, IsWhole bs r ∧ r.isCompletion = false := by
    intro bs hbs
    rcases List.mem_append.mp hbs with hbs | hbs
    · exact hdata bs (List.mem_append_left _ hbs)
    rcases List.mem_cons.mp hbs with rfl | hbs
    · exact ⟨_, isWhole_of_isListLine hinbox hline, rfl⟩
    · exact hdata bs (List.mem_append_right _ hbs)
  have hflatten : (before ++ line :: after).flatten = before.flatten ++ line ++ after.flatten := by
    simp
  obtain ⟨c', hlist, hrest⟩ := exec_listing hopen hall hcompletion (by rw [hflatten, hincoming])
    (by rw [hflatten, hfound])
  have hname : (listedAs name attributes delimiter).name = name ↔ Plain name := escaped_eq_iff name
  -- The table has the name of every line as a key, so it has the name or it was listed besides.
  have hhas : (Assoc.ofList ((earlier ++ listedAs name attributes delimiter :: later).map
      fun l => (l.name, l))).has name = true ↔
        Plain name ∨ name ∈ (earlier ++ later).map Listing.name := by
    rw [Talk.has_listed, ← hname, List.map_append, List.map_append, List.map_cons, List.mem_append,
      List.mem_append, List.mem_cons, eq_comm (a := name)]
    exact or_left_comm
  refine ⟨listedAs name attributes delimiter, c', hfound, rfl, rfl, hname, _, hlist, hrest, hhas,
    fun uids missing => ?_⟩
  rw [Talk.retry, Talk.exec_bind_of_ok hlist]
  by_cases hlisted : Plain name ∨ name ∈ (earlier ++ later).map Listing.name
  · rw [if_pos hlisted, if_pos (hhas.mpr hlisted), Talk.exec_throw]
  · rw [if_neg hlisted, if_neg fun h => hlisted (hhas.mp h)]

/-- A mailbox whose name is no ASCII is found under its name, and a move that misses it
does not make it. -/
theorem umlaut_listed :
    let name := "Entwürfe & Café"
    let line := Utf8.bytes "* LIST (\\Marked) NIL \"Entw&APw-rfe &- Caf&AOk-\"\r\n"
    let aside := Utf8.bytes "* 2 EXISTS\r\n"
    let completion := Utf8.bytes "a1 OK done\r\n"
    let c := ofScript (line ++ aside ++ completion) none none
    ∃ table c', Talk.exec answers Talk.list c = (.ok table, c') ∧ table.has name = true ∧
      ∀ uids missing,
        Talk.exec answers (Talk.retry uids name missing) c = (.error missing, c') := by
  intro name line aside completion c
  have hline : IsListLine name ["\\Marked"] none line :=
    ⟨Utf8.bytes "(\\Marked)", Utf8.bytes "NIL", Utf8.bytes "\"Entw&APw-rfe &- Caf&AOk-\"",
      by decide +kernel, by decide +kernel, by decide +kernel, by decide +kernel⟩
  have haside : IsWhole aside (.messages 2) := by decide +kernel
  have hcompletion : IsWhole completion (.completion ("a" ++ (c.tag + 1).repr) .ok
      ⟨none, some "done"⟩) := by decide +kernel
  have hlater : listings [aside].flatten = .ok [] := (items_cons haside []).trans items_nil
  have hdata : ∀ bs ∈ [] ++ [aside], ∃ r, IsWhole bs r ∧ r.isCompletion = false := fun bs hbs =>
    List.mem_singleton.mp hbs ▸ ⟨_, haside, rfl⟩
  have hplain : Plain name := by decide
  obtain ⟨entry, c', -, -, -, -, table, hlist, -, hhas, hretry⟩ :=
    listed_iff c name ["\\Marked"] none
    [] [aside] line completion [] [] [] _ rfl (by decide) hline hdata items_nil hlater hcompletion
    (by simp [c]; rfl)
  refine ⟨table, c', hlist, hhas.mpr (.inl hplain), fun uids missing => ?_⟩
  rw [hretry, if_pos (.inl hplain)]

/-- A mailbox with a quote in its name is listed under another name. -/
theorem quote_listed_otherwise :
    let name := "a\"b"
    let line := Utf8.bytes "* LIST () \"/\" \"a\\\"b\"\r\n"
    isInbox name = false ∧ IsListLine name [] (some "/") line ∧
      ∃ entry, listings line = .ok [entry] ∧ entry.name = "a\\\"b" ∧ entry.name ≠ name := by
  intro name line
  have hinbox : isInbox name = false := by decide
  have hline : IsListLine name [] (some "/") line :=
    ⟨Utf8.bytes "()", Utf8.bytes "\"/\"", Utf8.bytes "\"a\\\"b\"", by decide +kernel,
      by decide +kernel, by decide +kernel, by decide +kernel⟩
  have hnone : ∀ bs ∈ ([] : List (List UInt8)), ∃ r, IsWhole bs r := nofun
  have hfound := listings_of_isListLine hinbox hline hnone items_nil items_nil
  exact ⟨hinbox, hline, _, by simpa using hfound, by decide, by decide⟩

end Client

end Wire

end Postroom
