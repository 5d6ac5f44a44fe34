import Postroom.Proofs.Wire.Action
import Postroom.Proofs.Wire.Ending

/-! # Where a response ends

A client reads line by line and parses what it has so far, so a literal that holds line feeds
reaches the parser in pieces.  `IsWhole` says that the pieces are nothing but beginnings until the
last line makes them one response.  From one whole response the reading goes on as if it had been a
single line (`completionIn_whole`), from a row of them as if they had been kept at once
(`completionIn_data`), so the bytes up to the completion are read and no others
(`readCompletion_framed`).
-/

namespace Postroom.Wire

open Text

/-! ### Lines -/

/-- Bytes that end where a line ends, if there are any. -/
def EndsLine (bs : List UInt8) : Prop := ∀ b ∈ bs.getLast?, b = 10

theorem EndsLine.tail {b : UInt8} {bs : List UInt8} (h : EndsLine (b :: bs)) : EndsLine bs := by
  intro last hlast
  exact h last (by simp_all [List.getLast?_cons])

theorem EndsLine.append {front back : List UInt8} (hfront : EndsLine front)
    (hback : EndsLine back) : EndsLine (front ++ back) := by
  intro last hlast
  rw [List.getLast?_append] at hlast
  grind [EndsLine]

theorem EndsLine.flatten {parts : List (List UInt8)} (h : ∀ bs ∈ parts, EndsLine bs) :
    EndsLine parts.flatten := by
  induction parts with
  | nil => simp [EndsLine]
  | cons bs parts ih =>
    exact (h bs List.mem_cons_self).append (ih fun bs hbs => h bs (List.mem_cons_of_mem _ hbs))

theorem flatten_linesOf (bs : List UInt8) : (linesOf bs).flatten = bs := by
  fun_induction linesOf bs with
  | case1 => rfl
  | case2 rest ih => simp [ih]
  | case3 b rest hb hrest ih => simp_all
  | case4 b rest hb line more hrest ih => simp_all

theorem linesOf_append {front : List UInt8} (hfront : EndsLine front)
    (back : List UInt8) : linesOf (front ++ back) = linesOf front ++ linesOf back := by
  fun_induction linesOf front with
  | case1 => rfl
  | case2 rest ih => simp [linesOf, ih hfront.tail]
  | case3 b rest hb hrest ih =>
    -- A byte that is no line feed would be the last one.
    have hempty : rest = [] := by simpa [hrest] using (flatten_linesOf rest).symm
    exact absurd (hfront b (by simp [hempty])) hb
  | case4 b rest hb line more hrest ih => simp [linesOf, hb, ih hfront.tail, hrest]

theorem getLast?_of_mem_linesOf {bs : List UInt8} (hbs : EndsLine bs) :
    ∀ line ∈ linesOf bs, line.getLast? = some 10 := by
  fun_induction linesOf bs with
  | case1 => simp
  | case2 rest ih => simpa using ih hbs.tail
  | case3 b rest hb hrest ih =>
    have hempty : rest = [] := by simpa [hrest] using (flatten_linesOf rest).symm
    exact absurd (hbs b (by simp [hempty])) hb
  | case4 b rest hb line more hrest ih =>
    have hlines := ih hbs.tail
    simp_all [List.getLast?_cons]

/-! ### Whole responses -/

/-- Whether a response completes a command. -/
def Response.isCompletion : Response → Bool
  | .completion .. => true
  | _ => false

/-- These bytes are one response and become one with their last line only: all of them are read, and
up to the end of a line before the last they are the beginning of something.  Between the lines may
stand anything, a line that could be a completion among it. -/
structure IsWhole (bs : List UInt8) (r : Response) : Prop where
  /-- All of the bytes are read. -/
  accepted : response bs = .done r []
  /-- Some of the lines are a beginning. -/
  held {front : List UInt8} :
    front <+: bs → front ≠ bs → front.getLast? = some 10 → response front = .more

namespace IsWhole

variable {bs : List UInt8} {r : Response}

theorem endsLine (h : IsWhole bs r) : EndsLine bs := by
  intro b hb
  simpa [getLast?_of_response h.accepted] using hb.symm

theorem ne_nil (h : IsWhole bs r) : bs ≠ [] := by
  rintro rfl
  simpa using getLast?_of_response h.accepted

end IsWhole

theorem isWhole_iff {bs : List UInt8} {r : Response} :
    IsWhole bs r ↔ response bs = .done r [] ∧
      ∀ n < bs.length, (bs.take n).getLast? = some 10 → response (bs.take n) = .more := by
  constructor
  · intro h
    refine ⟨h.accepted, fun n hn hend => h.held (List.take_prefix n bs) ?_ hend⟩
    intro heq
    have := congrArg List.length heq
    grind
  · rintro ⟨haccepted, hheld⟩
    refine ⟨haccepted, fun {front} hfront hne hend => ?_⟩
    have htake : front = bs.take front.length := List.prefix_iff_eq_take.mp hfront
    have hlength : front.length < bs.length :=
      Nat.lt_of_le_of_ne hfront.length_le fun heq => hne (hfront.eq_of_length heq)
    have := hheld front.length hlength
    rw [← htake] at this
    exact this hend

instance (bs : List UInt8) (r : Response) : Decidable (IsWhole bs r) :=
  decidable_of_iff' _ isWhole_iff

namespace Client

variable {expected : String} {ending : Fault} {bs : List UInt8} {r : Response}

/-- How the reading goes on after a whole response: a completion ends it, anything else is kept. -/
def resume (expected : String) (ending : Fault) (untagged bs : List UInt8) (later : List Line) :
    Response → Except Fault Completed × List Line
  | .completion tag status remark => (judge expected untagged tag status remark, later)
  | _ => completionIn expected ending (untagged ++ bs) [] later

theorem resume_of_data {untagged : List UInt8} {later : List Line} (hr : r.isCompletion = false) :
    resume expected ending untagged bs later r =
      completionIn expected ending (untagged ++ bs) [] later := by
  cases r <;> first | rfl | cases hr

theorem completionIn_of_done {untagged start line rest : List UInt8} {later : List Line}
    (h : response (start ++ line) = .done r rest) :
    completionIn expected ending untagged start (line :: later) =
      resume expected ending untagged (start ++ line) later r := by
  rw [completionIn, h]
  cases r <;> rfl

/-- The lines of one whole response, of which `start` has been read, are read as that response.  By
induction on the lines that are still to come: all but the last leave a beginning. -/
theorem completionIn_lines (untagged start : List UInt8) (lines later : List Line)
    (hne : lines ≠ []) (hends : ∀ line ∈ lines, line.getLast? = some 10)
    (hwhole : IsWhole (start ++ lines.flatten) r) :
    completionIn expected ending untagged start (lines ++ later) =
      resume expected ending untagged (start ++ lines.flatten) later r := by
  induction lines generalizing start with
  | nil => exact absurd rfl hne
  | cons line lines ih =>
    have hend : line.getLast? = some 10 := hends line List.mem_cons_self
    cases lines with
    | nil =>
      have haccepted : response (start ++ line) = .done r [] := by simpa using hwhole.accepted
      simpa using completionIn_of_done haccepted
    | cons next more =>
      -- There is more to come, so the bytes so far are a proper front, and they end a line.
      have hnext : next ≠ [] := by
        rintro rfl
        simpa using hends [] (by simp)
      have hheld : response (start ++ line) = .more :=
        hwhole.held ⟨(next :: more).flatten, by simp⟩ (by simp [hnext]) (by simp [hend])
      rw [List.cons_append, completionIn, hheld]
      simpa using ih (start ++ line) (by simp) (fun l hl => hends l (List.mem_cons_of_mem _ hl))
        (by simpa using hwhole)

/-- One whole response is read as that response. -/
theorem completionIn_whole (untagged : List UInt8) (later : List Line) (hwhole : IsWhole bs r) :
    completionIn expected ending untagged [] (linesOf bs ++ later) =
      resume expected ending untagged bs later r := by
  have hne : linesOf bs ≠ [] := by
    intro hnil
    exact hwhole.ne_nil (by simpa [hnil] using (flatten_linesOf bs).symm)
  have h : completionIn expected ending untagged [] (linesOf bs ++ later) = _ :=
    completionIn_lines untagged [] (linesOf bs) later hne
      (getLast?_of_mem_linesOf hwhole.endsLine) (by simpa [flatten_linesOf] using hwhole)
  simpa only [List.nil_append, flatten_linesOf] using h

/-- Whole responses that complete nothing are kept.  By induction on the responses. -/
theorem completionIn_data (untagged : List UInt8) (data : List (List UInt8)) (later : List Line)
    (hdata : ∀ bs ∈ data, ∃ r, IsWhole bs r ∧ r.isCompletion = false) :
    completionIn expected ending untagged [] (linesOf data.flatten ++ later) =
      completionIn expected ending (untagged ++ data.flatten) [] later := by
  induction data generalizing untagged with
  | nil => simp [linesOf]
  | cons bs data ih =>
    obtain ⟨r, hwhole, hr⟩ := hdata bs List.mem_cons_self
    rw [List.flatten_cons, linesOf_append hwhole.endsLine, List.append_assoc,
      completionIn_whole untagged _ hwhole, resume_of_data hr,
      ih (untagged ++ bs) fun bs hbs => hdata bs (List.mem_cons_of_mem _ hbs), List.append_assoc]

/-- Behind whole responses that complete nothing a completion is judged, and what
follows it stays. -/
theorem completionIn_framed {tag : String} {data : List (List UInt8)} {completion : List UInt8}
    {status : Status} {remark : Remark}
    (hdata : ∀ bs ∈ data, ∃ r, IsWhole bs r ∧ r.isCompletion = false)
    (hcompletion : IsWhole completion (.completion tag status remark)) (rest : List UInt8) :
    completionIn expected ending [] [] (linesOf (data.flatten ++ completion ++ rest)) =
      (judge expected data.flatten tag status remark, linesOf rest) := by
  have hends : EndsLine data.flatten :=
    EndsLine.flatten fun bs hbs => (hdata bs hbs).elim fun _ h => h.1.endsLine
  rw [linesOf_append (hends.append hcompletion.endsLine), linesOf_append hends, List.append_assoc,
    completionIn_data [] data _ hdata, completionIn_whole _ _ hcompletion, List.nil_append, resume]

/-- Up to a completion the lines of the responses before it and its own are read. -/
theorem exec_readCompletion_of_whole {c : Client} {data : List (List UInt8)}
    {completion rest : List UInt8} {status : Status} {remark : Remark}
    (hdata : ∀ bs ∈ data, ∃ r, IsWhole bs r ∧ r.isCompletion = false)
    (hcompletion : IsWhole completion (.completion ("a" ++ c.tag.repr) status remark))
    (hincoming : c.incoming = linesOf (data.flatten ++ completion ++ rest)) :
    ∃ exchanges, readCompletion.exec c =
      (judge ("a" ++ c.tag.repr) data.flatten ("a" ++ c.tag.repr) status remark,
        { c with incoming := linesOf rest, exchanges := exchanges }) := by
  have hends : EndsLine data.flatten :=
    EndsLine.flatten fun bs hbs => (hdata bs hbs).elim fun _ h => h.1.endsLine
  have hlines : c.incoming = linesOf (data.flatten ++ completion) ++ linesOf rest := by
    rw [hincoming, linesOf_append (hends.append hcompletion.endsLine)]
  refine ⟨_, exec_readCompletion hlines ?_⟩
  rw [hincoming]
  exact completionIn_framed hdata hcompletion rest

/-- A completion is read from exactly its own bytes.  Before it come whole responses, which may hold
anything in their literals; what follows it stays for the next command.  The outcome is the data in
front of the completion, or the fault that its status, code and text stand for. -/
theorem readCompletion_framed (c : Client) (data : List (List UInt8)) (completion rest : List UInt8)
    (status : Status) (remark : Remark)
    (hdata : ∀ bs ∈ data, ∃ r, IsWhole bs r ∧ r.isCompletion = false)
    (hcompletion : IsWhole completion (.completion ("a" ++ c.tag.repr) status remark))
    (hincoming : c.incoming = linesOf (data.flatten ++ completion ++ rest)) :
    ∃ outcome,
      readCompletion.exec c = (outcome, { c with
        incoming := linesOf rest
        exchanges := ((linesOf (data.flatten ++ completion)).map Exchange.received).reverse
          ++ c.exchanges }) ∧
      let text := remark.text.getD "no explanation given"
      match status with
      | .ok => ∃ copied, outcome = .ok ⟨data.flatten, copied⟩
      | .no => outcome = .error (if remark.code = some .tryCreate ∨ Fault.saysMissing text
          then .mailboxMissing text else .no text)
      | .bad => outcome = .error (.bad text)
      | _ => ∃ surprise, outcome = .error (.unexpected surprise) := by
  have hdataEnds : EndsLine data.flatten :=
    EndsLine.flatten fun bs hbs => (hdata bs hbs).elim fun _ h => h.1.endsLine
  have hends : EndsLine (data.flatten ++ completion) := hdataEnds.append hcompletion.endsLine
  have hlines : c.incoming = linesOf (data.flatten ++ completion) ++ linesOf rest := by
    rw [hincoming, linesOf_append hends]
  have hread : completionIn ("a" ++ c.tag.repr) c.ending [] [] c.incoming =
      (judge ("a" ++ c.tag.repr) data.flatten ("a" ++ c.tag.repr) status remark, linesOf rest) := by
    rw [hlines, linesOf_append hdataEnds, List.append_assoc, completionIn_data [] data _ hdata,
      completionIn_whole _ _ hcompletion, List.nil_append, resume]
  refine ⟨_, exec_readCompletion hlines hread, ?_⟩
  cases status with
  | ok => cases hcode : remark.code with
    | none => simp [judge, hcode]
    | some code => cases code <;> simp [judge, hcode]
  | no => simp [judge, Fault.ofNo]
  | bad | preauth | bye => simp [judge]

/-- A literal that holds what could be the completion, and a further response behind the
completion. -/
theorem literal_framed :
    let whole := Utf8.bytes "* 1 FETCH (UID 7 BODY[HEADER] \x7b10\x7d\r\na1 OK no\r\n)\r\n"
    let completion := Utf8.bytes "a1 OK done\r\n"
    let rest := Utf8.bytes "* 2 EXISTS\r\n"
    let c := { Client.ofScript (whole ++ completion ++ rest) none none with tag := 1 }
    ∃ copied after, readCompletion.exec c = (.ok ⟨whole, copied⟩, after) ∧
      after.incoming = linesOf rest := by
  intro whole completion rest c
  have hwhole : IsWhole whole
      (.fetched 1 [.uid 7, .section (some (Utf8.bytes "a1 OK no\r\n"))]) := by decide +kernel
  have hcompletion :
      IsWhole completion (.completion ("a" ++ (1 : Nat).repr) .ok ⟨none, some "done"⟩) := by
    decide +kernel
  obtain ⟨outcome, hread, copied, rfl⟩ := readCompletion_framed c [whole] completion rest .ok _
    (fun bs hbs => List.mem_singleton.mp hbs ▸ ⟨_, hwhole, rfl⟩) hcompletion (by simp [c]; rfl)
  exact ⟨copied, _, by simpa using hread, rfl⟩

end Client

end Postroom.Wire
