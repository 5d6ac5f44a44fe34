import Mathlib.Data.List.Forall2
import Postroom.Document.Record
import Postroom.Fault

/-!
# What is read from documents

A list is read item by item (`readEach_eq_ok_iff`), so each value of a table was read on its own
(`exists_read_of_mem`).  A record is read field by field, from a table or from a list; what every
field keeps to, the whole record keeps to (`readRecord_keeps`).
-/

namespace Postroom.Document

variable {α β : Type} {d : Document} {a b : α}

/-! ### Lists and tables -/

/-- A list is read if each item is, in their order. -/
theorem readEach_eq_ok_iff {α β : Type} {read : α → Except Mismatch β} {l : List α} {bs : List β} :
    readEach read l = .ok bs ↔ List.Forall₂ (fun a b => read a = .ok b) l bs := by
  induction l generalizing bs with
  | nil =>
    rw [List.forall₂_nil_left_iff]
    exact ⟨fun h => by cases h; rfl, fun h => by rw [h]; rfl⟩
  | cons a rest ih =>
    rw [readEach, bind_eq_ok_iff, List.forall₂_cons_left_iff]
    refine exists_congr fun b => ?_
    constructor
    · rintro ⟨hb, hrest⟩
      obtain ⟨more, hmore, hbs⟩ := bind_eq_ok_iff.mp hrest
      cases hbs
      exact ⟨more, hb, ih.mp hmore, rfl⟩
    · rintro ⟨more, hb, hmore, rfl⟩
      exact ⟨hb, bind_eq_ok_iff.mpr ⟨more, ih.mpr hmore, rfl⟩⟩

/-- Each value of a table was read. -/
theorem exists_read_of_mem {read : Document → Except Mismatch β} {v : List (String × β)}
    (h : readTable read d = .ok v) {e : String × β} (he : e ∈ v) : ∃ d', read d' = .ok e.2 := by
  unfold readTable at h
  split at h
  · next entries hentries =>
    have heach := readEach_eq_ok_iff.mp h
    clear h hentries
    induction heach with
    | nil => cases he
    | cons hfirst _ ih =>
      rcases List.mem_cons.mp he with rfl | hmem
      · obtain ⟨value, hvalue, hpair⟩ := bind_eq_ok_iff.mp hfirst
        obtain rfl := Except.ok.inj hpair
        exact ⟨_, hvalue⟩
      · exact ih hmem
  · cases h

/-! ### Records -/

variable {P : α → Prop} {fields : List (RecordField α)}

theorem put_of_eq_ok_iff {name : String} {read : Document → Except Mismatch β} {put : β → α → α} :
    (RecordField.of name read put).put d a = .ok b ↔ ∃ v, read d = .ok v ∧ put v a = b :=
  map_eq_ok_iff

theorem readItems_keeps (hfields : ∀ f ∈ fields, ∀ d a b, f.put d a = .ok b → P a → P b)
    {items : List Document} {start : α} (h : readItems fields items start = .ok a)
    (hstart : P start) : P a := by
  induction items generalizing fields start with
  | nil =>
    rw [readItems] at h
    exact Except.ok.inj h ▸ hstart
  | cons d rest ih =>
    cases fields with
    | nil => cases h
    | cons f fields =>
      rw [readItems] at h
      obtain ⟨b, hb, hrest⟩ := bind_eq_ok_iff.mp h
      exact ih (fun g hg => hfields g (List.mem_cons_of_mem _ hg)) hrest
        (hfields f List.mem_cons_self _ _ _ hb hstart)

theorem readEntries_keeps (hfields : ∀ f ∈ fields, ∀ d a b, f.put d a = .ok b → P a → P b)
    {entries : List (String × Document)} {start : α}
    (h : entries.foldlM (readEntry fields) start = .ok a) (hstart : P start) : P a := by
  induction entries generalizing start with
  | nil => exact Except.ok.inj h ▸ hstart
  | cons entry rest ih =>
    rw [List.foldlM_cons] at h
    obtain ⟨b, hb, hrest⟩ := bind_eq_ok_iff.mp h
    refine ih hrest ?_
    unfold readEntry at hb
    split at hb
    · next f hf => exact hfields f (List.mem_of_find?_eq_some hf) _ _ _ hb hstart
    · cases hb

/-- What every field of a record keeps to, the record keeps to. -/
theorem readRecord_keeps (hfields : ∀ f ∈ fields, ∀ d a b, f.put d a = .ok b → P a → P b)
    {start : α} (h : readRecord fields start d = .ok a) (hstart : P start) : P a := by
  unfold readRecord at h
  split at h
  · exact readItems_keeps hfields h hstart
  · split at h
    · exact readEntries_keeps hfields h hstart
    · cases h

end Postroom.Document
