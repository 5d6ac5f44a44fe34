import Postroom.Proofs.Header.Address
import Postroom.Proofs.Header.Naming
import Postroom.Proofs.Table

/-! # What the headers of a message hold

The normal form of a header block is made by three loops over the fields, one for each
kind of header.  `Normalizes` says what comes of them for each name, in terms of the
fields with that name in lower case (`named`), and which of them count.  A header with
addresses has one value from its first field (`get?_foldl_withAddresses`), the headers that
the envelope holds too are set after it, and any other field is put to those of its name
that came before it (`get?_foldl_addOther`).  By the name in lower case a field takes part
in one of these only.

Nothing else can keep a block that was split into fields from its normal form than a
header with addresses that cannot be read and has an at sign (`addAddresses_cases`).
-/

namespace Postroom.Header

open Text

variable {fields : List Field} {envelope : Envelope} {m : Map} {names : List String}

/-! ### The normal form -/

/-- The fields whose name is `name` in lower case. -/
def named (fields : List Field) (name : String) : List Field :=
  fields.filter fun f => lower f.name = name

/-- An address as it is shown: its name and the address in angle brackets. -/
def shownAddress (a : Address) : String :=
  lower (trimmed (String.ofList (a.name.getD []) ++ " <" ++ String.ofList a.address ++ ">"))

/-- The value of a field with addresses: the addresses if there are any and each of them has an at
sign, and else the text of the field. -/
def addressValue (f : Field) : String :=
  match Address.readList f.tokens with
  | .ok addresses =>
    if addresses ≠ [] ∧ ∀ a ∈ addresses, '@' ∈ a.address then
      String.intercalate ", " (addresses.map shownAddress)
    else lower (trimmed f.text)
  | .error _ => lower (trimmed f.text)

/-- Texts as one value: none of no texts, a single one of one text, a list of several. -/
def gathered : List String → Option Value
  | [] => none
  | [text] => some (.single text)
  | texts => some (.multi texts)

/-- Every header is there once, under its name in lower case. -/
def Map.Orderly (m : Map) : Prop :=
  m.entries.Ascending ∧ ∀ entry ∈ m.entries, lower entry.1 = entry.1

/-- What the headers of a block hold, given its fields and the envelope. -/
structure Normalizes (fields : List Field) (envelope : Envelope) (m : Map) : Prop where
  /-- The subject is that of the first field, else that of the envelope, else empty. -/
  subject : m.get? "subject" = some (.single (lower (trimmed
    ((((named fields "subject").head?.map Field.text).or envelope.subject).getD ""))))
  /-- The date is that of the envelope, else that of the first field, else empty; one that can be
  read is written anew. -/
  date : m.get? "date" = some (.single (lower
    (match envelope.date.or ((named fields "date").head?.map Field.text) with
      | some text =>
        match Moment.read? (trim text.toList) with
        | some moment => moment.toString
        | none => trimmed text
      | none => "")))
  /-- The identifier is that of the envelope, else that of the first field, else empty. -/
  messageId : m.get? "message-id" = some (.single (lower (trimmed
    ((envelope.messageId.or ((named fields "message-id").head?.map Field.text)).getD ""))))
  /-- A header with addresses has one value, unless its first field is blank or there is none. -/
  addresses : ∀ name ∈ ["from", "to", "cc", "reply-to"], m.get? name =
    (named fields name).head?.bind fun f =>
      if isBlankText f.text then none else some (.single (addressValue f))
  /-- Any other header has the values of all its fields in their order. -/
  others : ∀ name : String, lower name ∉
      ["from", "to", "cc", "reply-to", "subject", "date", "message-id"] →
    m.get? name = gathered ((named fields (lower name)).map fun f => lower f.text)
  /-- No header is there that is not looked up by one of these names. -/
  orderly : m.Orderly

/-! ### Headers with addresses -/

theorem firstField?_eq {name : String} (hname : name ∈ addressNames ++ envelopeNames)
    (fields : List Field) : firstField? fields name = (named fields name).head? := by
  have hsame : (fun f : Field => f.isNamed name) = fun f => decide (lower f.name = name) := by
    funext f
    rw [Bool.eq_iff_iff, isNamed_iff hname, decide_eq_true_iff]
  rw [firstField?, hsame, named, List.head?_filter]

theorem shown_eq (a : Address) : String.ofList a.shown = shownAddress a := by
  simp [Address.shown, shownAddress, lower, trimmed]

/-- A field with addresses is refused if it has an at sign and cannot be read, is left out if it is
blank, and has its value otherwise. -/
theorem addressText?_cases (f : Field) :
    (∃ cause, addressText? f = .error cause ∧ '@' ∈ f.text.toList ∧
        Address.readList f.tokens = .error cause) ∨
      (¬ ('@' ∈ f.text.toList ∧ ∃ cause, Address.readList f.tokens = .error cause) ∧
        addressText? f = .ok (if isBlankText f.text then none else some (addressValue f))) := by
  have hempty := isEmpty_plain f.text
  have hat := contains_plain f.text
  unfold addressText? addressValue
  by_cases hblank : isBlankText f.text = true
  · -- White space is no at sign.
    have hnone : '@' ∉ f.text.toList := by
      intro hmem
      rw [isBlankText, List.all_eq_true] at hblank
      exact absurd (hblank '@' hmem) (by decide)
    refine Or.inr ⟨fun h => hnone h.1, ?_⟩
    simp [hempty, hblank]
  · have hfilled : ¬ (plain f.text).isEmpty = true := by rwa [hempty]
    simp only [if_neg hblank, if_neg hfilled]
    cases hread : Address.readList f.tokens with
    | error cause =>
      by_cases hsign : '@' ∈ f.text.toList
      · refine Or.inl ⟨cause, ?_, hsign, rfl⟩
        simp only [if_pos (hat.mpr hsign)]
      · refine Or.inr ⟨fun h => hsign h.1, ?_⟩
        simp only [if_neg (mt hat.mp hsign)]
        rfl
    | ok addresses =>
      refine Or.inr ⟨?_, ?_⟩
      · rintro ⟨-, cause, h⟩
        cases h
      cases addresses with
      | nil => rfl
      | cons a rest =>
        have hall := Address.contains_of_readList hread
        have hshown : (a :: rest).map (fun a => String.ofList a.shown) =
            (a :: rest).map shownAddress := List.map_congr_left fun b _ => shown_eq b
        simp only [shownList, hshown]
        rw [if_pos ⟨List.cons_ne_nil a rest, hall⟩]

/-- The value of a header with addresses, unless its first field is blank or there is none. -/
def addressesOf? (fields : List Field) (name : String) : Option Value :=
  (firstField? fields name).bind fun f =>
    if isBlankText f.text then none else some (.single (addressValue f))

/-- What one header with addresses adds. -/
def withAddresses (fields : List Field) (m : Map) (name : String) : Map :=
  match addressesOf? fields name with
  | some value => m.insert name value
  | none => m

/-- The first field of a name has an at sign and cannot be read as addresses. -/
def Unreadable (fields : List Field) (name : String) : Prop :=
  ∃ f, firstField? fields name = some f ∧ '@' ∈ f.text.toList ∧
    ∃ cause, Address.readList f.tokens = .error cause

/-- The headers with addresses are refused if one of them is, and are added in a row otherwise. -/
theorem addAddresses_cases (fields : List Field) (names : List String) (m : Map) :
    ((∃ name ∈ names, Unreadable fields name) ∧
        ∃ cause, addAddresses fields names m = .error cause) ∨
      ((¬ ∃ name ∈ names, Unreadable fields name) ∧
        addAddresses fields names m = .ok (names.foldl (withAddresses fields) m)) := by
  induction names generalizing m with
  | nil => exact Or.inr ⟨by simp, rfl⟩
  | cons name rest ih =>
    simp only [List.mem_cons, exists_eq_or_imp, List.foldl_cons, addAddresses]
    cases hfirst : firstField? fields name with
    | none =>
      have hreadable : ¬ Unreadable fields name := by
        rintro ⟨f, hf, -⟩
        rw [hfirst] at hf
        cases hf
      have hsame : withAddresses fields m name = m := by
        simp [withAddresses, addressesOf?, hfirst]
      simpa [hreadable, hsame] using ih m
    | some f =>
      rcases addressText?_cases f with ⟨cause, htext, hsign, hread⟩ | ⟨hreads, htext⟩
      · refine Or.inl ⟨Or.inl ⟨f, hfirst, hsign, cause, hread⟩, cause, ?_⟩
        simp only [htext]
        rfl
      · have hreadable : ¬ Unreadable fields name := by
          rintro ⟨g, hg, hsign, hread⟩
          obtain rfl : f = g := Option.some.inj (hfirst.symm.trans hg)
          exact hreads ⟨hsign, hread⟩
        simp only [hreadable, false_or, htext]
        by_cases hblank : isBlankText f.text = true
        · have hsame : withAddresses fields m name = m := by
            simp [withAddresses, addressesOf?, hfirst, hblank]
          rw [if_pos hblank, hsame]
          exact ih m
        · have hadded : withAddresses fields m name = m.insert name (.single (addressValue f)) := by
            simp [withAddresses, addressesOf?, hfirst, hblank]
          rw [if_neg hblank, hadded]
          exact ih _

theorem get?_withAddresses (fields : List Field) (m : Map) (name other : String) :
    (withAddresses fields m name).get? other =
      if lower other = lower name then (addressesOf? fields name).or (m.get? other)
      else m.get? other := by
  unfold withAddresses
  cases addressesOf? fields name with
  | none => simp
  | some value => simp [Map.get?_insert]

/-- Adding headers with addresses sets no header of another name. -/
theorem get?_foldl_withAddresses_of_notMem {other : String}
    (h : ∀ name ∈ names, lower other ≠ lower name) (m : Map) :
    (names.foldl (withAddresses fields) m).get? other = m.get? other := by
  induction names generalizing m with
  | nil => rfl
  | cons name rest ih =>
    obtain ⟨hname, hrest⟩ := List.forall_mem_cons.mp h
    rw [List.foldl_cons, ih hrest, get?_withAddresses, if_neg hname]

/-- A header with addresses that was not there before has the value of its first field. -/
theorem get?_foldl_withAddresses {other : String} (hmem : other ∈ names)
    (hnodup : (names.map lower).Nodup) (hnone : m.get? other = none) :
    (names.foldl (withAddresses fields) m).get? other = addressesOf? fields other := by
  induction names generalizing m with
  | nil => cases hmem
  | cons name rest ih =>
    obtain ⟨hfresh, hnodup⟩ := List.nodup_cons.mp hnodup
    rw [List.foldl_cons]
    rcases List.mem_cons.mp hmem with rfl | hmem
    · have hother : ∀ name ∈ rest, lower other ≠ lower name := fun name hname heq =>
        hfresh (heq ▸ List.mem_map_of_mem hname)
      rw [get?_foldl_withAddresses_of_notMem hother, get?_withAddresses, if_pos rfl, hnone,
        Option.or_none]
    · have hne : lower other ≠ lower name := fun heq => hfresh (heq ▸ List.mem_map_of_mem hmem)
      exact ih hmem hnodup (by rw [get?_withAddresses, if_neg hne, hnone])

/-! ### Other headers -/

/-- A value with more texts behind it. -/
def gatherOnto (v : Option Value) (texts : List String) : Option Value :=
  texts.foldl (fun v text => some (match v with
    | some v => v.push text
    | none => .single text)) v

theorem gatherOnto_multi (before texts : List String) :
    gatherOnto (some (.multi before)) texts = some (.multi (before ++ texts)) := by
  induction texts generalizing before with
  | nil => simp [gatherOnto]
  | cons text rest ih =>
    have hstep : gatherOnto (some (.multi before)) (text :: rest) =
        gatherOnto (some (.multi (before ++ [text]))) rest := rfl
    rw [hstep, ih, List.append_assoc, List.singleton_append]

/-- Texts that are put one to another are gathered in the end. -/
theorem gatherOnto_none (texts : List String) : gatherOnto none texts = gathered texts := by
  match texts with
  | [] => rfl
  | [text] => rfl
  | first :: second :: rest =>
    have hstep : gatherOnto none (first :: second :: rest) =
        gatherOnto (some (.multi [first, second])) rest := rfl
    rw [hstep, gatherOnto_multi]
    rfl

/-- Whether a header has a kind of its own. -/
def hasKind (name : String) : Bool := addressNames.contains name || envelopeNames.contains name

theorem addOther_eq (m : Map) (f : Field) : addOther m f =
    if hasKind (lower f.name) then m else m.append (lower f.name) (lower f.text) := rfl

theorem get?_append (m : Map) (name other text : String) :
    (m.append name text).get? other =
      if lower other = lower name then gatherOnto (m.get? other) [text] else m.get? other := by
  rw [Map.append, Map.get?_insert]
  by_cases heq : lower other = lower name
  · have hsame : m.get? name = m.get? other := by rw [Map.get?, Map.get?, heq]
    rw [if_pos heq, if_pos heq, hsame]
    rfl
  · rw [if_neg heq, if_neg heq]

theorem get?_addOther (m : Map) (f : Field) (name : String) :
    (addOther m f).get? name =
      if lower f.name = lower name ∧ hasKind (lower name) = false then
        gatherOnto (m.get? name) [lower f.text]
      else m.get? name := by
  rw [addOther_eq]
  by_cases heq : lower f.name = lower name
  · cases hkind : hasKind (lower name) with
    | true => simp [heq, hkind]
    | false => simp [heq, hkind, get?_append]
  · cases hkind : hasKind (lower f.name) with
    | true => simp [heq]
    | false => simp [heq, get?_append, Ne.symm heq]

/-- The fields of a row put their texts to the header of their name, in order. -/
theorem get?_foldl_addOther (fields : List Field) (m : Map) (name : String) :
    (fields.foldl addOther m).get? name =
      if hasKind (lower name) then m.get? name
      else gatherOnto (m.get? name) ((named fields (lower name)).map fun f => lower f.text) := by
  induction fields generalizing m with
  | nil => simp [named, gatherOnto]
  | cons f rest ih =>
    rw [List.foldl_cons, ih, get?_addOther]
    by_cases hkind : hasKind (lower name) = true
    · simp [hkind]
    · by_cases heq : lower f.name = lower name
      · simp [hkind, heq, named, gatherOnto]
      · simp [hkind, heq, named]

/-! ### Names in the normal form -/

theorem orderly_empty : Map.empty.Orderly := by
  refine ⟨List.Pairwise.nil, fun entry h => ?_⟩
  cases h

theorem orderly_insert (h : m.Orderly) (name : String) (value : Value) :
    (m.insert name value).Orderly := by
  refine ⟨h.1.insert _ value, fun entry hmem => ?_⟩
  rcases Assoc.mem_of_mem_insert hmem with rfl | hmem
  · exact lower_lower name
  · exact h.2 entry hmem

theorem orderly_foldl_withAddresses (h : m.Orderly) (names : List String) :
    (names.foldl (withAddresses fields) m).Orderly := by
  induction names generalizing m with
  | nil => exact h
  | cons name rest ih =>
    refine ih ?_
    unfold withAddresses
    split
    · exact orderly_insert h _ _
    · exact h

theorem orderly_foldl_addOther (h : m.Orderly) (fields : List Field) :
    (fields.foldl addOther m).Orderly := by
  induction fields generalizing m with
  | nil => exact h
  | cons f rest ih =>
    refine ih ?_
    rw [addOther_eq]
    split
    · exact h
    · exact orderly_insert h _ _

/-! ### Headers of a block -/

/-- The headers that the envelope holds too, set on top of others. -/
def withEnvelope (fields : List Field) (envelope : Envelope) (m : Map) : Map :=
  ((m.insert "subject" (.single (subjectOf fields envelope))).insert "date"
    (.single (dateOf fields envelope))).insert "message-id" (.single (messageIdOf fields envelope))

theorem get?_withEnvelope (name : String) :
    (withEnvelope fields envelope m).get? name =
      if lower name = "message-id" then some (.single (messageIdOf fields envelope))
      else if lower name = "date" then some (.single (dateOf fields envelope))
      else if lower name = "subject" then some (.single (subjectOf fields envelope))
      else m.get? name := by
  have hnames : lower "message-id" = "message-id" ∧ lower "date" = "date" ∧
      lower "subject" = "subject" := by decide +kernel
  simp only [withEnvelope, Map.get?_insert, hnames]

/-- The headers of fields whose addresses can all be read. -/
def assembled (fields : List Field) (envelope : Envelope) : Map :=
  fields.foldl addOther
    (withEnvelope fields envelope (addressNames.foldl (withAddresses fields) Map.empty))

/-- A block is refused because of its addresses or has its headers put together. -/
theorem normalize_cases (fields : List Field) (envelope : Envelope) :
    ((∃ name ∈ addressNames, Unreadable fields name) ∧
        ∃ cause, normalize fields envelope = .error cause) ∨
      ((¬ ∃ name ∈ addressNames, Unreadable fields name) ∧
        normalize fields envelope = .ok (assembled fields envelope)) := by
  unfold normalize
  rcases addAddresses_cases fields addressNames Map.empty with ⟨hbad, cause, hread⟩ | ⟨hgood, hread⟩
  · refine Or.inl ⟨hbad, cause, ?_⟩
    rw [hread]
    rfl
  · refine Or.inr ⟨hgood, ?_⟩
    rw [hread]
    rfl

theorem firstText?_eq {name : String} (hname : name ∈ addressNames ++ envelopeNames)
    (fields : List Field) : firstText? fields name = (named fields name).head?.map Field.text := by
  rw [firstText?, firstField?_eq hname]

theorem dateOf_eq (fields : List Field) (envelope : Envelope) : dateOf fields envelope = lower
    (match envelope.date.or ((named fields "date").head?.map Field.text) with
      | some text =>
        match Moment.read? (trim text.toList) with
        | some moment => moment.toString
        | none => trimmed text
      | none => "") := by
  rw [dateOf, firstText?_eq (by decide)]
  cases envelope.date.or ((named fields "date").head?.map Field.text) with
  | none => rfl
  | some text =>
    cases hmoment : Moment.read? (trim text.toList) with
    | none => simp only [Option.map_some, Option.getD_some, dateText, hmoment]
    | some moment => simp only [Option.map_some, Option.getD_some, dateText, hmoment]

/-- What is put together from the fields of a block is its normal form. -/
theorem normalizes_assembled (fields : List Field) (envelope : Envelope) :
    Normalizes fields envelope (assembled fields envelope) := by
  have hkinds := kinds_plain
  have hlower : ∀ name ∈ envelopeNames, lower name = name :=
    fun name hname => (hkinds name (List.mem_append_right _ hname)).2.1
  have hget : ∀ name ∈ envelopeNames, (assembled fields envelope).get? name =
      (withEnvelope fields envelope (addressNames.foldl (withAddresses fields) Map.empty)).get?
        name := by
    intro name hname
    have hkind : hasKind (lower name) = true := by
      rw [hlower name hname, hasKind, List.contains_iff_mem.mpr hname, Bool.or_true]
    rw [assembled, get?_foldl_addOther, if_pos hkind]
  constructor
  case subject =>
    rw [hget "subject" (by decide), get?_withEnvelope, hlower "subject" (by decide),
      if_neg (by decide), if_neg (by decide), if_pos rfl, subjectOf, firstText?_eq (by decide),
      plain]
  case date =>
    rw [hget "date" (by decide), get?_withEnvelope, hlower "date" (by decide),
      if_neg (by decide), if_pos rfl, dateOf_eq]
  case messageId =>
    rw [hget "message-id" (by decide), get?_withEnvelope, hlower "message-id" (by decide),
      if_pos rfl, messageIdOf, firstText?_eq (by decide), plain]
  case addresses =>
    intro name hname
    have hmem : name ∈ addressNames ++ envelopeNames := List.mem_append_left _ hname
    have hlower : lower name = name := (hkinds name hmem).2.1
    have hkind : hasKind (lower name) = true := by
      rw [hlower, hasKind, Bool.or_eq_true]
      exact Or.inl (List.contains_iff_mem.mpr hname)
    have hother : name ≠ "message-id" ∧ name ≠ "date" ∧ name ≠ "subject" := by
      revert name
      decide
    have hnodup : (addressNames.map lower).Nodup := by decide +kernel
    rw [assembled, get?_foldl_addOther, if_pos hkind, get?_withEnvelope, hlower,
      if_neg hother.1, if_neg hother.2.1, if_neg hother.2.2,
      get?_foldl_withAddresses (show name ∈ addressNames from hname) hnodup (Map.get?_empty name),
      addressesOf?, firstField?_eq hmem]
  case others =>
    intro name hname
    have hkind : ¬ hasKind (lower name) = true := by
      simpa [hasKind, addressNames, envelopeNames, and_assoc] using hname
    simp only [List.mem_cons, List.not_mem_nil, or_false, not_or] at hname
    obtain ⟨-, -, -, -, hsubject, hdate, hid⟩ := hname
    have hnone : ∀ other ∈ addressNames, lower name ≠ lower other := by
      intro other hother heq
      rw [(hkinds other (List.mem_append_left _ hother)).2.1] at heq
      exact hkind (by rw [hasKind, heq, List.contains_iff_mem.mpr hother, Bool.true_or])
    rw [assembled, get?_foldl_addOther, if_neg hkind, get?_withEnvelope, if_neg hid, if_neg hdate,
      if_neg hsubject, get?_foldl_withAddresses_of_notMem hnone, Map.get?_empty, gatherOnto_none]
  case orderly =>
    refine orderly_foldl_addOther ?_ fields
    refine orderly_insert (orderly_insert (orderly_insert ?_ _ _) _ _) _ _
    exact orderly_foldl_withAddresses orderly_empty addressNames

/-- **The normal form loses and invents nothing.**  A block that is split into fields is refused
exactly if the first field of one of the headers with addresses has an at sign and cannot be read
as a list of addresses.  Otherwise it has its normal form. -/
theorem ofBlock_normalizes {block : List UInt8} {fields : List Field}
    (h : Field.ofBlock block = .ok fields) (envelope : Envelope) :
    ((∃ cause, ofBlock block envelope = .error cause) ↔
      ∃ name ∈ ["from", "to", "cc", "reply-to"], ∃ f, (named fields name).head? = some f ∧
        '@' ∈ f.text.toList ∧ ∃ cause, Address.readList f.tokens = .error cause) ∧
    ∀ m, ofBlock block envelope = .ok m → Normalizes fields envelope m := by
  have hnormal : ofBlock block envelope = normalize fields envelope := by
    rw [ofBlock, h]
    rfl
  have hbad : (∃ name ∈ addressNames, Unreadable fields name) ↔
      ∃ name ∈ ["from", "to", "cc", "reply-to"], ∃ f, (named fields name).head? = some f ∧
        '@' ∈ f.text.toList ∧ ∃ cause, Address.readList f.tokens = .error cause := by
    refine exists_congr fun name => and_congr_right fun hname => ?_
    rw [Unreadable, firstField?_eq (List.mem_append_left _ hname)]
  rw [hnormal, ← hbad]
  rcases normalize_cases fields envelope with ⟨hrefused, cause, hresult⟩ | ⟨hread, hresult⟩
  · refine ⟨iff_of_true ⟨cause, hresult⟩ hrefused, fun m hm => ?_⟩
    rw [hresult] at hm
    cases hm
  · refine ⟨iff_of_false ?_ hread, fun m hm => ?_⟩
    · rintro ⟨cause, hm⟩
      rw [hresult] at hm
      cases hm
    · obtain rfl : assembled fields envelope = m := Except.ok.inj (hresult.symm.trans hm)
      exact normalizes_assembled fields envelope

/-- Of two fields `Received` both values are kept, in lower case and in order, and the address of a
group stands beside the one before it. -/
theorem crowded_block_normalizes : ∃ m, ofBlock
      "Received: One\r\nFrom: A <A@x>, g: b@y;\r\nreceived: Two\r\n\r\n".toUTF8.toList
      Envelope.empty = .ok m ∧
    m.get? "Received" = some (.multi ["one", "two"]) ∧
    m.get? "from" = some (.single "a <a@x>, <b@y>") ∧ m.get? "cc" = none := by
  have hfields : Field.ofBlock
      "Received: One\r\nFrom: A <A@x>, g: b@y;\r\nreceived: Two\r\n\r\n".toUTF8.toList = .ok
      [⟨"Received".toUTF8.toList, "One".toUTF8.toList⟩,
        ⟨"From".toUTF8.toList, "A <A@x>, g: b@y;".toUTF8.toList⟩,
        ⟨"received".toUTF8.toList, "Two".toUTF8.toList⟩] := by decide +kernel
  have hread : (ofBlock
      "Received: One\r\nFrom: A <A@x>, g: b@y;\r\nreceived: Two\r\n\r\n".toUTF8.toList
      Envelope.empty).toOption.isSome = true := by decide +kernel
  cases hresult : ofBlock
      "Received: One\r\nFrom: A <A@x>, g: b@y;\r\nreceived: Two\r\n\r\n".toUTF8.toList
      Envelope.empty with
  | error cause =>
    rw [hresult] at hread
    cases hread
  | ok m =>
    have hm := (ofBlock_normalizes hfields Envelope.empty).2 m hresult
    refine ⟨m, rfl, ?_, ?_, ?_⟩
    · rw [hm.others "Received" (by decide +kernel)]
      decide +kernel
    · rw [hm.addresses "from" (by decide)]
      decide +kernel
    · rw [hm.addresses "cc" (by decide)]
      decide +kernel

end Postroom.Header
