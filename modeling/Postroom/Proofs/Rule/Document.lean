import Postroom.Filter.Reading
import Postroom.Proofs.Document
import Postroom.Proofs.Table
import Postroom.Toml.Reader

/-! # Rules in documents, both ways

What is written from rules reads back as the same rules.  In the other direction there
are more documents than that: numbers are taken for texts and nested lists for flat ones.
The grammar (`IsPattern`, `IsPredicate`, `IsRule`) says which documents are read, and
`DescribesRule` what is read from them.  Neither mentions a reader.

One kind of value is read that the grammar of predicates does not have.  A moment passes for a table
wherever a table is asked for, and as its text is a pattern it is read as a predicate
(`moment_read_as_predicate`).

The statement is about the values that there are in JSON and TOML (`Document.Proper`).
There a whole number beyond 64 bits is none, and a table has one value to a key.

The readers of lists all go through `readEach`, and `readEach_eq_ok_iff` says item by item
what they come to.  Patterns nest, so for them it is an induction over the document
(`IsPattern.read`, `isPattern_of_read`).
-/

namespace Postroom

open Document (Mismatch readEach readEach_eq_ok_iff)

/-- A value that can be written in JSON or TOML: a whole number has 64 bits, with a sign or without,
and no key comes twice in a table. -/
inductive Document.Proper : Document → Prop
  | null : Proper .null
  | bool (b : Bool) : Proper (.bool b)
  | integer {n : Int} (least : -0x8000000000000000 ≤ n) (greatest : n < 0x10000000000000000) :
    Proper (.integer n)
  | float : Proper .float
  | text (s : String) : Proper (.text s)
  | moment (s : String) : Proper (.moment (s := s))
  | list {items : List Document} (each : ∀ d ∈ items, Proper d) : Proper (.list items)
  | table {entries : List (String × Document)} (keys : (entries.map (·.1)).Nodup)
      (each : ∀ e ∈ entries, Proper e.2) : Proper (.table entries)

/-! ### The grammar -/

/-- A text, a whole number of 64 bits, or a list of such values nested to any depth. -/
inductive IsPattern : Document → Prop
  | text (s : String) : IsPattern (.text s)
  | integer {n : Int} (least : -0x8000000000000000 ≤ n) (greatest : n < 0x10000000000000000) :
    IsPattern (.integer n)
  | list {items : List Document} (each : ∀ d ∈ items, IsPattern d) : IsPattern (.list items)

/-- A table with one key, whose value is a pattern. -/
def IsPredicate (d : Document) : Prop :=
  ∃ header value, d = .table [(header, value)] ∧ IsPattern value

/-- A list whose items are all of one form. -/
def IsListOf (Is : Document → Prop) (d : Document) : Prop :=
  ∃ items, d = .list items ∧ ∀ item ∈ items, Is item

/-- A date, a time or both. -/
def IsMoment (d : Document) : Prop := ∃ s, d = .moment (s := s)

/-- A table of lists of values of one form, which is that of predicates. -/
def IsRule (Is : Document → Prop) (d : Document) : Prop :=
  ∃ entries, d = .table entries ∧ ∀ e ∈ entries, IsListOf Is e.2

/-! ### What is read -/

mutual

/-- The texts and numbers of a pattern from left to right, the numbers in decimal. -/
def Document.leaves : Document → List String
  | .text s => [s]
  | .integer n => [toString n]
  | .list items => leavesOfEach items
  | _ => []

/-- The texts and numbers of the items of a list. -/
def Document.leavesOfEach : List Document → List String
  | [] => []
  | d :: rest => Document.leaves d ++ leavesOfEach rest

end

/-- A list holds all its leaves; anything else is one pattern. -/
def DescribesAlternatives (d : Document) : Alternatives → Prop
  | .one p => (∀ items, d ≠ .list items) ∧ d.leaves = [p]
  | .several ps => (∃ items, d = .list items) ∧ d.leaves = ps

/-- The one key is the header, and the value holds the patterns.  Of a moment the text is the
pattern. -/
inductive DescribesPredicate : Document → Predicate → Prop
  | table {header : String} {value : Document} {alternatives : Alternatives}
    (h : DescribesAlternatives value alternatives) :
    DescribesPredicate (.table [(header, value)]) ⟨header, alternatives⟩
  | moment (s : String) :
    DescribesPredicate (.moment (s := s)) ⟨"$__toml_private_datetime", .one s⟩

/-- A list describes item by item. -/
def DescribesEach {α : Type} (Describes : Document → α → Prop) (d : Document) (as : List α) :
    Prop :=
  ∃ items, d = .list items ∧ List.Forall₂ Describes items as

/-- Each entry describes an operator and its predicates.  The rule has the operators by name. -/
def DescribesRule (d : Document) (rule : Rule) : Prop :=
  ∃ entries operators, d = .table entries ∧
    List.Forall₂ (fun e o => e.1 = o.1 ∧ DescribesEach DescribesPredicate e.2 o.2)
      entries operators ∧
    rule.operators.Ascending ∧ rule.operators.Perm operators

/-! ### Lists -/

/-- There is a list item by item for another exactly if there is an item for each. -/
theorem exists_forall₂_iff {α β : Type} {R : α → β → Prop} {l : List α} :
    (∃ bs, List.Forall₂ R l bs) ↔ ∀ a ∈ l, ∃ b, R a b := by
  induction l with
  | nil => simp
  | cons a rest ih =>
    rw [List.forall_mem_cons, ← ih]
    constructor
    · rintro ⟨bs, hbs⟩
      cases hbs with
      | cons hb hrest => exact ⟨⟨_, hb⟩, ⟨_, hrest⟩⟩
    · rintro ⟨⟨b, hb⟩, ⟨bs, hbs⟩⟩
      exact ⟨b :: bs, .cons hb hbs⟩

/-- A reader takes a value exactly if the grammar admits it, and reads what the value describes. -/
structure ReadBy {α : Type} (read : Document → Except Mismatch α) (Is : Document → Prop)
    (Describes : Document → α → Prop) (d : Document) : Prop where
  /-- The grammar decides. -/
  accepted : (∃ a, read d = .ok a) ↔ Is d
  /-- What is read is described. -/
  described : ∀ a, read d = .ok a → Describes d a

theorem ReadBy.readList {α : Type} {read : Document → Except Mismatch α} {Is : Document → Prop}
    {Describes : Document → α → Prop} {d : Document}
    (h : ∀ items, d = .list items → ∀ item ∈ items, ReadBy read Is Describes item) :
    ReadBy (Document.readList read) (IsListOf Is) (DescribesEach Describes) d := by
  cases d with
  | list items =>
    have heach := h items rfl
    refine ⟨⟨?_, ?_⟩, fun as has => ?_⟩
    · rintro ⟨as, has⟩
      have hread := exists_forall₂_iff.mp ⟨as, readEach_eq_ok_iff.mp has⟩
      exact ⟨items, rfl, fun item hmem => (heach item hmem).accepted.mp (hread item hmem)⟩
    · rintro ⟨_, heq, hIs⟩
      cases heq
      have hread : ∀ item ∈ items, ∃ a, read item = .ok a :=
        fun item hmem => (heach item hmem).accepted.mpr (hIs item hmem)
      obtain ⟨as, has⟩ := exists_forall₂_iff.mpr hread
      exact ⟨as, readEach_eq_ok_iff.mpr has⟩
    · have hboth := (List.forall₂_and_left _ _).mpr ⟨heach, readEach_eq_ok_iff.mp has⟩
      exact ⟨items, rfl, hboth.imp fun item a h => h.1.described a h.2⟩
  | _ =>
    refine ⟨⟨?_, ?_⟩, ?_⟩
    · rintro ⟨_, has⟩
      cases has
    · rintro ⟨_, heq, -⟩
      cases heq
    · rintro _ has
      cases has

/-! ### Patterns -/

theorem DescribesAlternatives.patterns {d : Document} {alternatives : Alternatives}
    (h : DescribesAlternatives d alternatives) : alternatives.patterns = d.leaves := by
  cases alternatives with
  | one p => exact h.2.symm
  | several ps => exact h.2.symm

/-- Items that are read one by one are read together, and hold the leaves of the list. -/
theorem flatten_eq_leaves {items : List Document}
    (h : ∀ d ∈ items, ∃ alternatives, Alternatives.ofDocument d = .ok alternatives ∧
      DescribesAlternatives d alternatives) :
    Alternatives.flatten items = .ok (Document.leavesOfEach items) := by
  induction items with
  | nil => rfl
  | cons d rest ih =>
    obtain ⟨⟨alternatives, hread, hdescribes⟩, hrest⟩ := List.forall_mem_cons.mp h
    rw [Alternatives.flatten, hread, ih hrest, Document.leavesOfEach, ← hdescribes.patterns]
    rfl

theorem IsPattern.read {d : Document} (h : IsPattern d) :
    ∃ alternatives, Alternatives.ofDocument d = .ok alternatives ∧
      DescribesAlternatives d alternatives := by
  induction h with
  | text s => exact ⟨.one s, rfl, ⟨(fun _ hlist => by cases hlist), rfl⟩⟩
  | integer => exact ⟨.one _, rfl, ⟨(fun _ hlist => by cases hlist), rfl⟩⟩
  | @list items _ ih =>
    refine ⟨.several (Document.leavesOfEach items), ?_, ⟨⟨items, rfl⟩, rfl⟩⟩
    rw [Alternatives.ofDocument, flatten_eq_leaves ih]
    rfl

/-- If the items of a list are read together, each of them can be read. -/
theorem read_of_flatten {items : List Document} {patterns : List String}
    (h : Alternatives.flatten items = .ok patterns) :
    ∀ d ∈ items, ∃ alternatives, Alternatives.ofDocument d = .ok alternatives := by
  induction items generalizing patterns with
  | nil => exact fun d hd => by cases hd
  | cons d rest ih =>
    obtain ⟨alternatives, hread, hrest⟩ := bind_eq_ok_iff.mp h
    obtain ⟨more, hmore, -⟩ := bind_eq_ok_iff.mp hrest
    exact List.forall_mem_cons.mpr ⟨⟨alternatives, hread⟩, ih hmore⟩

/-- However deep a value stands that is no pattern, it is refused. -/
theorem isPattern_of_read {d : Document} (hd : d.Proper) {alternatives : Alternatives}
    (h : Alternatives.ofDocument d = .ok alternatives) : IsPattern d := by
  induction hd generalizing alternatives with
  | text s => exact .text s
  | integer least greatest => exact .integer least greatest
  | list _ ih =>
    obtain ⟨patterns, hflatten, -⟩ := bind_eq_ok_iff.mp h
    have hread := read_of_flatten hflatten
    refine .list fun d hmem => ?_
    obtain ⟨_, hd⟩ := hread d hmem
    exact ih d hmem hd
  | null => cases h
  | bool => cases h
  | float => cases h
  | moment => cases h
  | table => cases h

theorem patterns_readBy {d : Document} (hd : d.Proper) :
    ReadBy Alternatives.ofDocument IsPattern DescribesAlternatives d := by
  refine ⟨⟨fun ⟨_, h⟩ => isPattern_of_read hd h, fun h => ?_⟩, fun alternatives h => ?_⟩
  · obtain ⟨alternatives, hread, -⟩ := h.read
    exact ⟨alternatives, hread⟩
  · obtain ⟨other, hother, hdescribes⟩ := (isPattern_of_read hd h).read
    cases h.symm.trans hother
    exact hdescribes

/-! ### Predicates and rules -/

/-- A table is read if the value of each entry is. -/
theorem readEntries_eq_ok_iff {β : Type} {read : Document → Except Mismatch β}
    {entries : List (String × Document)} {operators : List (String × β)} :
    readEach (fun (name, d) => do return (name, ← read d)) entries = .ok operators ↔
      List.Forall₂ (fun e o => e.1 = o.1 ∧ read e.2 = .ok o.2) entries operators := by
  rw [readEach_eq_ok_iff]
  refine iff_of_eq (congrArg (List.Forall₂ · entries operators) ?_)
  funext ⟨name, d⟩ ⟨name', b⟩
  rw [eq_iff_iff, bind_eq_ok_iff]
  constructor
  · rintro ⟨b', hb, heq⟩
    cases heq
    exact ⟨rfl, hb⟩
  · rintro ⟨rfl, hb⟩
    exact ⟨b, hb, rfl⟩

/-- The names of the entries are kept. -/
theorem keys_eq_of_forall₂ {β : Type} {R : Document → β → Prop}
    {entries : List (String × Document)} {operators : List (String × β)}
    (h : List.Forall₂ (fun e o => e.1 = o.1 ∧ R e.2 o.2) entries operators) :
    Assoc.keys operators = entries.map (·.1) := by
  induction h with
  | nil => rfl
  | cons hfirst _ ih => exact congrArg₂ List.cons hfirst.1.symm ih

/-- Where a table is asked for, a proper value has one value to a key. -/
theorem Document.Proper.entries {d : Document} (hd : d.Proper) {entries : List (String × Document)}
    (h : d.entries? = some entries) :
    (entries.map (·.1)).Nodup ∧ ∀ e ∈ entries, e.2.Proper := by
  cases hd with
  | table keys each =>
    obtain rfl := Option.some.inj h
    exact ⟨keys, each⟩
  | moment s =>
    obtain rfl := Option.some.inj h
    exact ⟨List.pairwise_singleton _ _, fun e he => List.mem_singleton.mp he ▸ .text s⟩
  | _ => cases h

/-- A proper value is read as a predicate exactly if it has one key and its value is read. -/
theorem predicate_eq_ok_iff {d : Document} (hd : d.Proper) {p : Predicate} :
    Predicate.ofDocument d = .ok p ↔ ∃ value, d.entries? = some [(p.header, value)] ∧
      Alternatives.ofDocument value = .ok p.alternatives := by
  unfold Predicate.ofDocument
  cases hentries : d.entries? with
  | none => exact iff_of_false nofun fun ⟨_, h, _⟩ => nomatch h
  | some entries =>
    constructor
    · intro h
      obtain ⟨read, hread, hone⟩ := bind_eq_ok_iff.mp h
      have heach := readEntries_eq_ok_iff.mp hread
      have hnames : (Assoc.keys read).Nodup := by
        rw [keys_eq_of_forall₂ (R := fun d a => Alternatives.ofDocument d = .ok a) heach]
        exact (hd.entries hentries).1
      have hperm := Assoc.ofList_perm hnames
      split at hone
      · next header alternatives hsingle =>
        cases hone
        rw [hsingle] at hperm
        rw [← List.singleton_perm.mp hperm] at heach
        obtain ⟨⟨header', value⟩, _, ⟨hheader, hvalue⟩, hnil, rfl⟩ :=
          List.forall₂_cons_right_iff.mp heach
        obtain rfl := List.forall₂_nil_right_iff.mp hnil
        cases hheader
        exact ⟨value, rfl, hvalue⟩
      · cases hone
    · rintro ⟨value, heq, hvalue⟩
      obtain rfl := Option.some.inj heq
      have hentry : List.Forall₂ (fun e o => e.1 = o.1 ∧ Alternatives.ofDocument e.2 = .ok o.2)
          [(p.header, value)] [(p.header, p.alternatives)] := .cons ⟨rfl, hvalue⟩ .nil
      simp only [readEntries_eq_ok_iff.mpr hentry]
      rfl

/-- What has one entry where a table is asked for is a table with one key, or a moment. -/
theorem entries?_eq_singleton_iff {d value : Document} {header : String} :
    d.entries? = some [(header, value)] ↔ d = .table [(header, value)] ∨
      ∃ s, d = .moment (s := s) ∧ header = "$__toml_private_datetime" ∧ value = .text s := by
  cases d <;> simp [Document.entries?, Document.momentKey, eq_comm]

theorem predicates_readBy {d : Document} (hd : d.Proper) :
    ReadBy Predicate.ofDocument (fun d => IsPredicate d ∨ IsMoment d) DescribesPredicate d := by
  have hvalue : ∀ {header value}, d.entries? = some [(header, value)] →
      ReadBy Alternatives.ofDocument IsPattern DescribesAlternatives value :=
    fun hentries => patterns_readBy ((hd.entries hentries).2 _ List.mem_cons_self)
  refine ⟨⟨?_, ?_⟩, fun p h => ?_⟩
  · rintro ⟨p, h⟩
    obtain ⟨value, hentries, hread⟩ := (predicate_eq_ok_iff hd).mp h
    rcases entries?_eq_singleton_iff.mp hentries with heq | ⟨s, heq, -⟩
    · exact Or.inl ⟨p.header, value, heq, (hvalue hentries).accepted.mp ⟨_, hread⟩⟩
    · exact Or.inr ⟨s, heq⟩
  · rintro (⟨header, value, rfl, hpattern⟩ | ⟨s, rfl⟩)
    · obtain ⟨alternatives, hread⟩ := (hvalue rfl).accepted.mpr hpattern
      exact ⟨⟨header, alternatives⟩, (predicate_eq_ok_iff hd).mpr ⟨value, rfl, hread⟩⟩
    · exact ⟨_, rfl⟩
  · obtain ⟨value, hentries, hread⟩ := (predicate_eq_ok_iff hd).mp h
    obtain ⟨header, alternatives⟩ := p
    rcases entries?_eq_singleton_iff.mp hentries with rfl | ⟨s, rfl, rfl, rfl⟩
    · exact .table ((hvalue hentries).described _ hread)
    · cases hread
      exact .moment s

theorem predicatesOfDocument_eq :
    Rule.predicatesOfDocument = Document.readList Predicate.ofDocument := by
  funext d
  cases d <;> rfl

theorem listOfDocument_eq : Rule.listOfDocument = Document.readList Rule.ofDocument := by
  funext d
  cases d <;> rfl

theorem operator_readBy {d : Document} (hd : d.Proper) :
    ReadBy (Document.readList Predicate.ofDocument)
      (IsListOf fun d => IsPredicate d ∨ IsMoment d) (DescribesEach DescribesPredicate) d := by
  refine .readList ?_
  rintro items rfl item hitem
  cases hd with
  | list each => exact predicates_readBy (each item hitem)

theorem rule_eq_ok_iff {d : Document} {rule : Rule} :
    Rule.ofDocument d = .ok rule ↔ ∃ entries operators, d = .table entries ∧
      List.Forall₂ (fun e o => e.1 = o.1 ∧ Document.readList Predicate.ofDocument e.2 = .ok o.2)
        entries operators ∧ rule.operators = Assoc.ofList operators := by
  constructor
  · intro h
    cases d with
    | table entries =>
      rw [Rule.ofDocument, predicatesOfDocument_eq] at h
      obtain ⟨read, hread, hrule⟩ := bind_eq_ok_iff.mp h
      cases hrule
      exact ⟨entries, read, rfl, readEntries_eq_ok_iff.mp hread, rfl⟩
    | _ => cases h
  · rintro ⟨entries, operators, rfl, heach, hrule⟩
    obtain ⟨_⟩ := rule
    simp only [Rule.ofDocument, Document.entries?_table, predicatesOfDocument_eq,
      readEntries_eq_ok_iff.mpr heach]
    exact congrArg (fun t => Except.ok (Rule.mk t)) hrule.symm

theorem rule_readBy {d : Document} (hd : d.Proper) :
    ReadBy Rule.ofDocument (IsRule fun d => IsPredicate d ∨ IsMoment d) DescribesRule d := by
  have hentries : ∀ {entries}, d = .table entries → (entries.map (·.1)).Nodup ∧
      ∀ e ∈ entries, ReadBy (Document.readList Predicate.ofDocument)
        (IsListOf fun d => IsPredicate d ∨ IsMoment d) (DescribesEach DescribesPredicate) e.2 := by
    rintro entries rfl
    cases hd with
    | table hkeys each => exact ⟨hkeys, fun e he => operator_readBy (each e he)⟩
  refine ⟨⟨?_, ?_⟩, fun rule h => ?_⟩
  · rintro ⟨rule, h⟩
    obtain ⟨entries, operators, heq, heach, -⟩ := rule_eq_ok_iff.mp h
    obtain ⟨-, hread⟩ := hentries heq
    refine ⟨entries, heq, fun e he => ?_⟩
    obtain ⟨o, -, ho⟩ := exists_forall₂_iff.mp ⟨operators, heach⟩ e he
    exact (hread e he).accepted.mp ⟨o.2, ho⟩
  · rintro ⟨entries, heq, hIs⟩
    obtain ⟨-, hread⟩ := hentries heq
    have heach : ∀ e ∈ entries, ∃ o : String × List Predicate,
        e.1 = o.1 ∧ Document.readList Predicate.ofDocument e.2 = .ok o.2 := by
      intro e he
      obtain ⟨predicates, hpredicates⟩ := (hread e he).accepted.mpr (hIs e he)
      exact ⟨(e.1, predicates), rfl, hpredicates⟩
    obtain ⟨operators, hoperators⟩ := exists_forall₂_iff.mpr heach
    exact ⟨⟨Assoc.ofList operators⟩, rule_eq_ok_iff.mpr ⟨entries, operators, heq, hoperators, rfl⟩⟩
  · obtain ⟨entries, operators, heq, heach, hrule⟩ := rule_eq_ok_iff.mp h
    obtain ⟨hkeys, hread⟩ := hentries heq
    have hnames : (Assoc.keys operators).Nodup := by
      rw [keys_eq_of_forall₂
        (R := fun d a => Document.readList Predicate.ofDocument d = .ok a) heach]
      exact hkeys
    have hboth := (List.forall₂_and_left _ _).mpr ⟨hread, heach⟩
    refine ⟨entries, operators, heq, hboth.imp fun e o h => ⟨h.2.1, h.1.described o.2 h.2.2⟩, ?_⟩
    rw [hrule]
    exact ⟨Assoc.Ascending.ofList operators, Assoc.ofList_perm hnames⟩

/-! ### Written rules -/

theorem Alternatives.ofDocument_toDocument (alternatives : Alternatives) :
    Alternatives.ofDocument alternatives.toDocument = .ok alternatives := by
  cases alternatives with
  | one p => rfl
  | several ps =>
    have hflatten : Alternatives.flatten (ps.map .text) = .ok ps := by
      induction ps with
      | nil => rfl
      | cons p rest ih =>
        rw [List.map_cons, Alternatives.flatten, ih]
        rfl
    rw [Alternatives.toDocument, Alternatives.ofDocument, hflatten]
    rfl

theorem Predicate.ofDocument_toDocument (p : Predicate) :
    Predicate.ofDocument p.toDocument = .ok p := by
  rw [Predicate.toDocument, Predicate.ofDocument]
  simp only [Document.entries?_table, readEach, Alternatives.ofDocument_toDocument]
  rfl

theorem readList_map {α : Type} {read : Document → Except Mismatch α} {write : α → Document}
    {as : List α} (h : ∀ a ∈ as, read (write a) = .ok a) :
    Document.readList read (.list (as.map write)) = .ok as := by
  refine readEach_eq_ok_iff.mpr ?_
  rw [List.forall₂_map_left_iff]
  exact List.forall₂_same.mpr h

/-- A rule whose operators are in the order of their names is read as it was written. -/
theorem Rule.ofDocument_toDocument {rule : Rule} (h : rule.operators.Ascending) :
    Rule.ofDocument rule.toDocument = .ok rule := by
  refine rule_eq_ok_iff.mpr ⟨_, rule.operators, rfl, ?_, (Assoc.ofList_eq_self h).symm⟩
  rw [List.forall₂_map_left_iff]
  refine List.forall₂_same.mpr fun e _ => ⟨rfl, ?_⟩
  exact readList_map fun p _ => p.ofDocument_toDocument

theorem Rule.listOfDocument_listToDocument {rules : List Rule}
    (h : ∀ rule ∈ rules, rule.operators.Ascending) :
    Rule.listOfDocument (Rule.listToDocument rules) = .ok rules := by
  rw [listOfDocument_eq]
  exact readList_map fun rule hrule => Rule.ofDocument_toDocument (h rule hrule)

theorem DescribesRule.ascending {d : Document} {rule : Rule} (h : DescribesRule d rule) :
    rule.operators.Ascending := by
  obtain ⟨_, _, _, _, hascending, _⟩ := h
  exact hascending

/-- **Rules survive being written, and are read by exactly their grammar, but for moments.**  What
is read from a document holds its texts and numbers in their order, and once written stays as it is.
Where a predicate should stand, a moment is read as well: as a predicate of one header that no
message has, with the text of the moment. -/
theorem Rule.listOfDocument_exact {d : Document} (hd : d.Proper) :
    (∀ rules : List Rule, (∀ rule ∈ rules, rule.operators.Ascending) →
      Rule.listOfDocument (Rule.listToDocument rules) = .ok rules) ∧
    ((∃ rules, Rule.listOfDocument d = .ok rules) ↔
      IsListOf (IsRule fun d => IsPredicate d ∨ IsMoment d) d) ∧
    ∀ rules, Rule.listOfDocument d = .ok rules →
      DescribesEach DescribesRule d rules ∧
      ∃ again, Rule.listOfDocument (Rule.listToDocument rules) = .ok again ∧
        Rule.listToDocument again = Rule.listToDocument rules := by
  have hread : ReadBy (Document.readList Rule.ofDocument)
      (IsListOf (IsRule fun d => IsPredicate d ∨ IsMoment d)) (DescribesEach DescribesRule) d := by
    refine .readList ?_
    rintro items rfl item hitem
    cases hd with
    | list each => exact rule_readBy (each item hitem)
  rw [listOfDocument_eq]
  refine ⟨fun rules h => ?_, hread.accepted, fun rules hrules => ?_⟩
  · rw [← listOfDocument_eq]
    exact Rule.listOfDocument_listToDocument h
  obtain ⟨items, hitems, heach⟩ := hread.described rules hrules
  have hascending : ∀ rule ∈ rules, rule.operators.Ascending := by
    intro rule hrule
    obtain ⟨item, hitem⟩ := exists_forall₂_iff.mp ⟨items, heach.flip⟩ rule hrule
    exact DescribesRule.ascending hitem
  have hagain := Rule.listOfDocument_listToDocument hascending
  rw [listOfDocument_eq] at hagain
  exact ⟨⟨items, hitems, heach⟩, rules, hagain, rfl⟩

/-- Numbers and nested lists come out as one list of texts, and the operators by name.  One
predicate is a moment. -/
theorem nested_patterns_read :
    let dated : Predicate := ⟨"$__toml_private_datetime", .one "07:32:00"⟩
    let rule : Rule := ⟨[("and", [dated]), ("or", [⟨"from", .several ["7", "a", "-2"]⟩])]⟩
    let nested : Document := .list [.integer 7, .list [.text "a", .list [], .integer (-2)]]
    let d : Document := .list [.table [("or", .list [.table [("from", nested)]]),
      ("and", .list [.moment (s := "07:32:00")])]]
    d.Proper ∧ Rule.listOfDocument d = .ok [rule] ∧
      IsListOf (IsRule fun d => IsPredicate d ∨ IsMoment d) d ∧
      DescribesEach DescribesRule d [rule] ∧
      Rule.listOfDocument (Rule.listToDocument [rule]) = .ok [rule] := by
  intro dated rule nested d
  have hinteger : ∀ n : Int, n = 7 ∨ n = -2 → (Document.integer n).Proper := by
    rintro n (rfl | rfl) <;> exact .integer (by decide) (by decide)
  have hnested : nested.Proper := by
    have hinner : (Document.list [.text "a", .list [], .integer (-2)]).Proper :=
      .list (by simp [hinteger, Document.Proper.text, Document.Proper.list])
    exact .list (by simp [hinteger, hinner])
  have hoperators : (Document.table [("or", .list [.table [("from", nested)]]),
      ("and", .list [.moment (s := "07:32:00")])]).Proper := by
    have hpredicate : (Document.table [("from", nested)]).Proper :=
      .table (by simp) (by simp [hnested])
    exact .table (by simp) (by simp [hpredicate, Document.Proper.list, Document.Proper.moment])
  have hd : d.Proper := .list (by simp [hoperators])
  have hread : Rule.listOfDocument d = .ok [rule] := rfl
  have hascending : ∀ r ∈ [rule], r.operators.Ascending := by
    intro r hr
    obtain rfl := List.mem_singleton.mp hr
    have hnames : rule.operators.Pairwise fun a b => a.1 < b.1 := by decide
    exact hnames
  obtain ⟨hwritten, haccepted, hdescribed⟩ := Rule.listOfDocument_exact hd
  exact ⟨hd, hread, haccepted.mp ⟨_, hread⟩, (hdescribed _ hread).1, hwritten [rule] hascending⟩

/-- A date stands where a predicate should, and a filter with this rule is read. -/
theorem moment_read_as_predicate :
    let d : Document := .list [.table [("or", .list [.moment (s := "1979-05-27")])]]
    let rule : Rule := ⟨[("or", [⟨"$__toml_private_datetime", .one "1979-05-27"⟩])]⟩
    d.Proper ∧ ¬ IsListOf (IsRule IsPredicate) d ∧ Rule.listOfDocument d = .ok [rule] ∧
      ((Toml.read "[dated]\nrules = [ { or = [ 1979-05-27 ] } ]").bind
        Filter.setOfDocument).toOption = some [("dated", ⟨0, Commands.none, [rule]⟩)] := by
  intro d rule
  have hproper : d.Proper :=
    .list (by simp [Document.Proper.table, Document.Proper.list, Document.Proper.moment])
  refine ⟨hproper, ?_, rfl, by decide +kernel⟩
  rintro ⟨_, hitems, heach⟩
  obtain rfl := Document.list.inj hitems
  obtain ⟨_, hentries, hall⟩ := heach _ List.mem_cons_self
  cases hentries
  obtain ⟨_, hlist, hpredicates⟩ := hall _ List.mem_cons_self
  cases hlist
  obtain ⟨_, _, hpredicate, -⟩ := hpredicates _ List.mem_cons_self
  cases hpredicate

end Postroom
