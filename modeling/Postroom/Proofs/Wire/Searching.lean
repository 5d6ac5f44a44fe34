import Postroom.Proofs.UidSet
import Postroom.Proofs.Wire.Fetching

/-! # What a search finds

A server may tell what a search has found in several lines, in any order and more than once, and may
say between them whatever it may say at any time (`Response.isAside`).  A client collects the
identifiers from all the lines (`searched_of_forall₂`) and gives them out in ascending order, each
of them once.  An ascending list is fixed by its members, so neither the order of the lines nor how
the identifiers are spread over them makes a difference (`search_finds`).
-/

namespace Postroom.Wire

open Text Reader

/-! ### Lines that tell what was found -/

/-- What is said of mailboxes is read behind the star. -/
theorem response_of_mailboxData {body : List UInt8} {r : Response} (hstatus : status body = .fail)
    (hread : mailboxData body = .done r [13, 10]) : response (42 :: 32 :: body) = .done r [] := by
  have huntagged : untagged (42 :: 32 :: body) = .done r [] := by
    change Reader.bind (choice _) _ body = _
    exact (bind_of_done
      ((choice_of_fail (bind_of_fail hstatus)).trans (choice_of_done hread))).trans rfl
  unfold response
  exact (choice_of_fail rfl).trans (choice_of_done huntagged)

/-- A line that tells what was found, as written. -/
def findingBytes (uids : List Numeral) : List UInt8 :=
  Utf8.bytes "* SEARCH" ++ (uids.flatMap fun n => Utf8.bytes (" " ++ n.val.repr)) ++
    Utf8.bytes "\r\n"

/-- Identifiers are read one by one, in the order in which they are written. -/
theorem isWhole_findingBytes (uids : List Numeral) :
    IsWhole (findingBytes uids) (.found (uids.map (·.val))) := by
  refine isWhole_of_accepted ?_
  have hword : Utf8.bytes "* SEARCH" = [42, 32, 83, 69, 65, 82, 67, 72] := by decide +kernel
  have hblank : Utf8.bytes " " = [32] := by decide +kernel
  have hend : Utf8.bytes "\r\n" = [13, 10] := by decide +kernel
  have hnumbers : many (spaced number)
      (uids.flatMap (fun n => 32 :: Utf8.bytes n.val.repr) ++ 13 :: [10]) =
        .done (uids.map (·.val)) (13 :: [10]) := by
    refine many_joined (fun n : Numeral => Utf8.bytes n.val.repr) (·.val) (by decide) ?_ [10]
    intro n _ next rest hnext
    exact number_repr n.property (by rcases hnext with rfl | rfl <;> rfl) rest
  have hfound : uidsFound (uids.flatMap (fun n => 32 :: Utf8.bytes n.val.repr) ++ 13 :: [10]) =
      .done (uids.map (·.val)) [13, 10] := by
    change Reader.bind (many (spaced number)) _ _ = _
    rw [bind_of_done hnumbers]
    rfl
  have hbytes : findingBytes uids = 42 :: 32 :: 83 :: 69 :: 65 :: 82 :: 67 :: 72 ::
      (uids.flatMap (fun n => 32 :: Utf8.bytes n.val.repr) ++ 13 :: [10]) := by
    simp [findingBytes, Utf8.bytes_append, hword, hblank, hend]
  rw [hbytes]
  refine response_of_mailboxData rfl ?_
  -- The word before the identifiers is that of the seventh kind.
  unfold mailboxData
  iterate 6 refine (choice_of_fail rfl).trans ?_
  refine choice_of_done ?_
  change Reader.bind uidsFound _ _ = _
  rw [bind_of_done hfound]
  rfl

/-! ### All that was found -/

/-- The identifiers that responses tell, as they stand there. -/
def findings (rs : List Response) : List Uid := (rs.filterMap found?).flatten

theorem mem_findings {uid : Uid} {rs : List Response} :
    uid ∈ findings rs ↔ ∃ found, Response.found found ∈ rs ∧ uid ∈ found := by
  rw [findings, List.mem_flatten]
  constructor
  · rintro ⟨found, hfound, huid⟩
    obtain ⟨r, hr, hsome⟩ := List.mem_filterMap.mp hfound
    cases r with
    | found => exact ⟨found, by cases hsome; exact hr, huid⟩
    | _ => cases hsome
  · rintro ⟨found, hr, huid⟩
    exact ⟨found, List.mem_filterMap.mpr ⟨_, hr, rfl⟩, huid⟩

/-- A search finds all that was told, whatever is said between. -/
theorem searched_of_forall₂ {data : List (List UInt8)} {rs : List Response}
    (hdata : List.Forall₂ IsWhole data rs)
    (hrs : ∀ r ∈ rs, r.isAside = true ∨ ∃ found, r = .found found) :
    searched data.flatten = .ok (UidSet.ascending (findings rs)) := by
  have hskipped : ∀ r ∈ rs, found? r = none → unasked r = .ok () := by
    intro r hr hnone
    rcases hrs r hr with haside | ⟨found, rfl⟩
    · exact Response.unasked_of_isAside haside
    · cases hnone
  have hitems : items found? data.flatten = .ok (rs.filterMap found?) :=
    collectFrom_of_forall₂ hdata (collect_eq_filterMap hskipped [])
  rw [searched, hitems]
  rfl

namespace Client

open Postroom.Wire.Action

/-- **A search finds exactly what the server tells, in ascending order.**  A server tells what it
has found in any number of lines, says between them what it may say at any time, and completes the
command.  Then a client gets the identifiers that stand in these lines, each of them once and a
smaller one before a greater one, and leaves what follows the completion.  So it gets the same from
any other answer that tells the same identifiers.  A line may tell any identifiers in any order, and
is read as it is written. -/
theorem search_finds (c : Client) (hopen : c.blocked = none) {completion : List UInt8}
    {remark : Remark}
    (hcompletion : IsWhole completion (.completion ("a" ++ (c.tag + 1).repr) .ok remark))
    (rest : List UInt8) :
    let answered := fun (data : List (List UInt8)) =>
      { c with incoming := linesOf (data.flatten ++ completion ++ rest) }
    let tells := fun (data : List (List UInt8)) (rs : List Response) =>
      List.Forall₂ IsWhole data rs ∧ ∀ r ∈ rs, r.isAside = true ∨ ∃ found, r = .found found
    (∀ keys data rs, tells data rs →
      ∃ uids after, exec (search keys) (answered data) = (.ok uids, after) ∧
        after.incoming = linesOf rest ∧ uids.Pairwise (· < ·) ∧
        ∀ uid, uid ∈ uids ↔ ∃ found, Response.found found ∈ rs ∧ uid ∈ found) ∧
      (∀ keys data rs data' rs', tells data rs → tells data' rs' →
        (∀ uid, (∃ found, Response.found found ∈ rs ∧ uid ∈ found) ↔
          ∃ found, Response.found found ∈ rs' ∧ uid ∈ found) →
        (exec (search keys) (answered data)).1 = (exec (search keys) (answered data')).1) ∧
      ∀ uids, IsWhole (findingBytes uids) (.found (uids.map (·.val))) := by
  intro answered tells
  have hsearch : ∀ keys data rs, tells data rs → ∃ after,
      exec (search keys) (answered data) = (.ok (UidSet.ascending (findings rs)), after) ∧
        after.incoming = linesOf rest := by
    rintro keys data rs ⟨hdata, hrs⟩
    have hnone : ∀ r ∈ rs, r.isCompletion = false := by
      intro r hr
      rcases hrs r hr with haside | ⟨found, rfl⟩
      · exact Response.isCompletion_of_isAside haside
      · rfl
    obtain ⟨copied, after, hrun, hafter⟩ := exec_run_of_ok (c := answered data) hopen
      (exists_isWhole_of_forall₂ hdata hnone) hcompletion rfl ("UID SEARCH " ++ keys)
    refine ⟨after, ?_, hafter⟩
    rw [search, exec_bind, hrun]
    simp only [exec_liftM, searched_of_forall₂ hdata hrs]
  refine ⟨fun keys data rs htells => ?_, fun keys data rs data' rs' htells htells' hsame => ?_,
    isWhole_findingBytes⟩
  · obtain ⟨after, hexec, hafter⟩ := hsearch keys data rs htells
    exact ⟨_, after, hexec, hafter, UidSet.pairwise_ascending _, fun uid => by
      rw [UidSet.mem_ascending, mem_findings]⟩
  · obtain ⟨after, hexec, -⟩ := hsearch keys data rs htells
    obtain ⟨after', hexec', -⟩ := hsearch keys data' rs' htells'
    have heq : UidSet.ascending (findings rs) = UidSet.ascending (findings rs') :=
      UidSet.ascending_eq_of_mem_iff fun uid => by rw [mem_findings, mem_findings, hsame]
    rw [hexec, hexec', heq]

/-- Three lines tell five identifiers, one of them twice, with other things between; one line that
tells the four of them is answered alike. -/
theorem scattered_findings_found :
    let c := ofScript [] none none
    let scattered := [Utf8.bytes "* SEARCH 7 2\r\n", Utf8.bytes "* 9 EXISTS\r\n",
      Utf8.bytes "* SEARCH\r\n", Utf8.bytes "* OK [UNSEEN 4] more\r\n",
      Utf8.bytes "* STATUS INBOX (MESSAGES 9)\r\n", Utf8.bytes "* SEARCH 4 7 1\r\n",
      Utf8.bytes "* 3 FETCH (UID 8)\r\n"]
    let gathered := [Utf8.bytes "* SEARCH 1 2 4 7\r\n"]
    let completion := Utf8.bytes "a1 OK done\r\n"
    let answered := fun (data : List (List UInt8)) =>
      { c with incoming := linesOf (data.flatten ++ completion ++ []) }
    (exec (search "ALL") (answered scattered)).1 = (exec (search "ALL") (answered gathered)).1 ∧
      (exec (search "ALL") (answered gathered)).1 = .ok [1, 2, 4, 7] := by
  intro c scattered gathered completion answered
  have hcompletion : IsWhole completion (.completion ("a" ++ (c.tag + 1).repr) .ok
      ⟨none, some "done"⟩) := by decide +kernel
  have hscattered : List.Forall₂ IsWhole scattered [.found [7, 2], .messages 9, .found [],
      .status .ok ⟨some (.unseen 4), some "more"⟩, .mailboxStatus "INBOX", .found [4, 7, 1],
      .fetched 3 [.uid 8]] := by
    iterate 7 refine .cons (by decide +kernel) ?_
    exact .nil
  have hgathered : List.Forall₂ IsWhole gathered [.found [1, 2, 4, 7]] :=
    .cons (by decide +kernel) .nil
  refine ⟨(search_finds c rfl hcompletion []).2.1 "ALL" scattered _ gathered _
    ⟨hscattered, by simp [Response.isAside]⟩ ⟨hgathered, by simp⟩ fun uid => ?_, by decide +kernel⟩
  simp only [List.mem_cons, reduceCtorEq, Response.found.injEq, List.not_mem_nil, or_false]
  grind

end Client

end Postroom.Wire
