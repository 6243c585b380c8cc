import Gazetteer.Note.Basic
import Gazetteer.Proofs.Pattern.Groups
import Mathlib.Data.List.Nodup

/-!
# Ids of blocks

No two blocks of a note have the same id, and the ids are made of letters, digits and hyphens, so
they stand for themselves in a link (`Note.hasPlainIds_ofText`).
-/

namespace Gazetteer

/-- The ids of blocks are different, and made of letters, digits and hyphens. -/
structure HasPlainIds (bs : List Block) : Prop where
  nodup : (bs.map Block.id).Nodup
  plain : ∀ b ∈ bs, b.id.toList.all (fun c => c.isAlphanum || c == '-') = true

variable {b : Block} {bs : List Block}

theorem HasPlainIds.nil : HasPlainIds [] :=
  ⟨List.nodup_nil, by simp⟩

theorem HasPlainIds.cons (h : HasPlainIds bs) (hb : bs.any (·.id == b.id) = false)
    (hplain : b.id.toList.all (fun c => c.isAlphanum || c == '-') = true) :
    HasPlainIds (b :: bs) where
  nodup := by
    refine List.nodup_cons.2 ⟨fun hmem => ?_, h.nodup⟩
    obtain ⟨other, hother, hid⟩ := List.mem_map.1 hmem
    exact List.any_eq_false.1 hb other hother (beq_iff_eq.2 hid)
  plain := List.forall_mem_cons.2 ⟨hplain, h.plain⟩

theorem HasPlainIds.reverse (h : HasPlainIds bs) : HasPlainIds bs.reverse where
  nodup := by
    rw [List.map_reverse]
    exact List.nodup_reverse.2 h.nodup
  plain b hb := h.plain b (List.mem_reverse.1 hb)

theorem HasPlainIds.eq_of_id_eq (h : HasPlainIds bs) {b' : Block} (hb : b ∈ bs) (hb' : b' ∈ bs)
    (hid : b'.id = b.id) : b' = b :=
  List.inj_on_of_nodup_map h.nodup hb' hb hid

/-- A plain id has no escapes. -/
theorem HasPlainIds.percent_not_mem (h : HasPlainIds bs) (hb : b ∈ bs) : '%' ∉ b.id.toList :=
  fun hmem => absurd (List.all_eq_true.1 (h.plain b hb) '%' hmem) (by decide)

theorem Pattern.groupAllows_blockId (c : Char) :
    blockId.groupAllows "id" c = (c.isAlphanum || c == '-') := by
  simp [blockId, all, lit, many1, many, blanks, groupAllows, allows]

namespace Note

theorem plain_of_blockOf {lineOf : Nat → Nat} {ofItem : Bool} {slice : List Char} {start stop : Nat}
    (h : blockOf lineOf ofItem slice start stop = some b) :
    b.id.toList.all (fun c => c.isAlphanum || c == '-') = true := by
  obtain ⟨m, hm, rfl⟩ := Option.map_eq_some_iff.1 h
  obtain ⟨line, -, hfind⟩ := Option.bind_eq_some_iff.1 hm
  refine List.all_eq_true.2 fun c hc => ?_
  rw [String.toList_ofList] at hc
  rw [← Pattern.groupAllows_blockId]
  exact Pattern.groupAllows_of_find? hfind hc

namespace Findings

variable {f : Findings}

theorem hasPlainIds_addBlock (h : HasPlainIds f.blocks) {block : Option Block}
    (hplain : ∀ b, block = some b → b.id.toList.all (fun c => c.isAlphanum || c == '-') = true) :
    HasPlainIds (f.addBlock block).blocks := by
  cases block with
  | none => exact h
  | some b =>
    rw [addBlock]
    split
    · exact h
    · rename_i hnew
      exact h.cons (Bool.eq_false_iff.2 hnew) (hplain b rfl)

/-- Reading on keeps the ids different and plain. -/
theorem hasPlainIds_step (source : Array Char) (byteOf lineOf : Nat → Nat)
    (h : HasPlainIds f.blocks) (e : Markdown.Event) :
    HasPlainIds (f.step source byteOf lineOf e).blocks := by
  cases e with
  | openHeading | openLink | text | code => exact h
  | closeHeading | closeLink =>
    rw [step]
    split <;> exact h
  | paragraph start stop => exact hasPlainIds_addBlock h fun b => plain_of_blockOf
  | item start stop => exact hasPlainIds_addBlock h fun b => plain_of_blockOf

theorem hasPlainIds_foldl (source : Array Char) (byteOf lineOf : Nat → Nat)
    (es : List Markdown.Event) (h : HasPlainIds f.blocks) :
    HasPlainIds (es.foldl (step source byteOf lineOf) f).blocks := by
  induction es generalizing f with
  | nil => exact h
  | cons e es ih => exact ih (hasPlainIds_step source byteOf lineOf h e)

end Findings

/-- **The blocks of a note have ids of their own**, made of letters, digits and hyphens. -/
theorem hasPlainIds_ofText (text : String) : HasPlainIds (ofText text).outline.blocks :=
  (Findings.hasPlainIds_foldl (f := {}) _ _ _ _ .nil).reverse

end Note

end Gazetteer
