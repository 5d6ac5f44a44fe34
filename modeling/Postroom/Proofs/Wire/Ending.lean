import Postroom.Proofs.Wire.Nesting

/-! # Responses end their line

Every word of the grammar, up to whole responses, takes a front of the bytes it is given and looks
no further.  A reader that reads the end of a line last takes a front that ends there (`TakesLine`),
and a response is read by such a reader.
-/

namespace Postroom.Wire

open Text Reader

-- A row of readers counts twice for each thing read before it.
set_option synthInstance.maxSize 4000

namespace TakesFront

instance : TakesFront status := by
  unfold status
  infer_instance

instance : TakesFront ability := by
  unfold ability
  infer_instance

instance : TakesFront abilities := by
  unfold abilities
  infer_instance

instance : TakesFront codeBody := by
  unfold codeBody
  infer_instance

instance : TakesFront code := by
  unfold code
  infer_instance

instance : TakesFront remark := by
  unfold remark
  infer_instance

instance : TakesFront optionalRemark := by
  unfold optionalRemark
  infer_instance

instance : TakesFront statusItem := by
  unfold statusItem
  infer_instance

instance : TakesFront listing := by
  unfold listing
  infer_instance

instance : TakesFront uidsFound := by
  unfold uidsFound
  infer_instance

instance : TakesFront mailboxData := by
  unfold mailboxData
  infer_instance

instance : TakesFront sectionName := by
  unfold sectionName
  dsimp only
  infer_instance

instance : TakesFront detail := by
  unfold detail
  infer_instance

instance : TakesFront entryName := by
  unfold entryName
  infer_instance

instance : TakesFront annotations := by
  unfold annotations
  infer_instance

instance : TakesFront vanished := by
  unfold vanished
  infer_instance

instance : TakesFront quota := by
  unfold quota
  dsimp only
  infer_instance

instance : TakesFront quotaRoot := by
  unfold quotaRoot
  infer_instance

instance : TakesFront continuation := by
  unfold continuation
  infer_instance

instance : TakesFront completion := by
  unfold completion
  infer_instance

instance : TakesFront untagged := by
  unfold untagged
  infer_instance

instance : TakesFront response := by
  unfold response
  infer_instance

end TakesFront

/-- Such a reader takes a front of its bytes that ends with the end of a line. -/
class TakesLine {α : Type} (p : Reader α) : Prop where
  /-- The end of a line and what is left are the end of what was given. -/
  suffix {input : List UInt8} {a : α} {rest : List UInt8} :
    p input = .done a rest → 13 :: 10 :: rest <:+ input

namespace TakesLine

variable {α β : Type}

instance bind (p : Reader α) (f : α → Reader β) [hp : TakesFront p] [hf : ∀ a, TakesLine (f a)] :
    TakesLine (p >>= f) where
  suffix h := by
    obtain ⟨a, middle, hfirst, hsecond⟩ := bind_eq_done.mp h
    exact ((hf a).suffix hsecond).trans (hp.suffix hfirst)

instance lineEnd_pure (a : α) : TakesLine (lineEnd >>= fun _ => Pure.pure a) where
  suffix h := by
    obtain ⟨_, middle, hend, hpure⟩ := bind_eq_done.mp h
    cases hpure
    exact eq_append_of_bytes hend ▸ List.suffix_refl _

instance choice_nil : TakesLine (choice ([] : List (Reader α))) where
  suffix h := nomatch h

instance choice_cons (p : Reader α) (ps : List (Reader α)) [hp : TakesLine p]
    [hps : TakesLine (choice ps)] : TakesLine (choice (p :: ps)) where
  suffix h := (done_of_orElse (q := choice ps) h).elim hp.suffix hps.suffix

instance : TakesLine response := by
  unfold response continuation untagged completion
  infer_instance

end TakesLine

/-- What is read whole as a response ends with a line feed. -/
theorem getLast?_of_response {bs : List UInt8} {r : Response} (h : response bs = .done r []) :
    bs.getLast? = some 10 := by
  obtain ⟨front, rfl⟩ := TakesLine.suffix h
  simp

end Postroom.Wire
