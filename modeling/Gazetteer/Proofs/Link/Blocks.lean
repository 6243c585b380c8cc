import Gazetteer.Link.Target
import Gazetteer.Proofs.Layer.Building
import Gazetteer.Proofs.Layer.Facts
import Gazetteer.Proofs.Link.Relation
import Gazetteer.Proofs.Note.Blocks
import Gazetteer.Proofs.Note.Name
import Mathlib.Data.List.Nodup

/-!
# Links to blocks

A layer keeps one block, the first one of its note that its line belongs to, and a link to a block
points at the layers that keep this block (`LinkRef.pointsAt_block`). Where no other block has their
line these are the places on the lines of the block (`LinkRef.pointsAt_iff_covers`). List items do
share lines with the items inside them, and a link to an inner item points at nothing on these
lines.
-/

namespace Gazetteer

/-- The lines of a block. -/
def Block.Covers (b : Block) (line : Nat) : Prop := b.startLine ≤ line ∧ line ≤ b.endLine

instance (b : Block) (line : Nat) : Decidable (b.Covers line) :=
  inferInstanceAs (Decidable (_ ∧ _))

/-- What a layer knows about its place in a note is what the outline says about its line. -/
structure LayerInfo.LiesIn (i : LayerInfo) (outline : Option Outline) : Prop where
  offset : i.offset.isSome = i.line.isSome
  heading : i.heading = i.line.bind fun line => outline.bind (·.headingAt line)
  block : i.block = i.line.bind fun line => outline.bind (·.blockAt line)

theorem LayerInfo.LiesIn.withId {i : LayerInfo} {outline : Option Outline} (h : i.LiesIn outline)
    (id : String) : { i with id }.LiesIn outline :=
  ⟨h.offset, h.heading, h.block⟩

variable {notes : Notes} {rules : Option DisplayRules} {source : SourceRef} {text : List Char}
  {facts : List Fact} {fileTags : List String} {o : Outline} {b : Block} {line : Nat}

/-! ## Layers in the outline -/

namespace Layer

theorem liesIn_infoOf {outline : Option Outline} {f : Fact} {i : LayerInfo}
    (h : infoOf source outline text fileTags f = some i) : i.LiesIn outline := by
  unfold infoOf at h
  simp only at h
  split at h
  · cases h
    exact ⟨rfl, rfl, rfl⟩
  · obtain ⟨parts, -, rfl⟩ := Option.map_eq_some_iff.1 h
    exact ⟨rfl, rfl, rfl⟩

theorem liesIn_of_mem_ofFacts {l : Layer} {i : LayerInfo}
    (h : l ∈ ofFacts notes rules source text facts fileTags) (hi : l.info? = some i) :
    i.LiesIn (notes.outline? source) := by
  obtain ⟨f, -, hf⟩ := List.mem_filterMap.1 h
  obtain ⟨j, hj, rfl⟩ := Option.map_eq_some_iff.1 hf
  rw [info?_style, info?_ofPayload] at hi
  obtain rfl := Option.some.inj hi
  exact (liesIn_infoOf hj).withId _

end Layer

/-! ## Blocks by id and by line -/

namespace Outline

/-- A reference with the id of a block is resolved to the block. -/
theorem resolveAnchor_block (h : HasPlainIds o.blocks) (hb : b ∈ o.blocks) :
    o.resolveAnchor ("^" ++ b.id) = some (.block b) := by
  have hdecode : percentDecode ("^" ++ b.id) = "^" ++ b.id := by
    refine percentDecode_of_not_mem ?_
    rw [String.toList_append]
    simpa using h.percent_not_mem hb
  have hlist : (percentDecode ("^" ++ b.id)).toList = '^' :: b.id.toList := by
    rw [hdecode, String.toList_append]
    rfl
  unfold resolveAnchor
  rw [hlist]
  simp only [String.ofList_toList]
  cases hfind : o.blocks.find? fun b' => b'.id == b.id with
  | none => simpa using List.find?_eq_none.1 hfind b hb
  | some b' =>
    have hid : b'.id = b.id := by simpa using List.find?_some hfind
    rw [h.eq_of_id_eq hb (List.mem_of_find?_eq_some hfind) hid]
    rfl

theorem blockAt_eq_some_iff : o.blockAt line = some b ↔
    b.Covers line ∧ ∃ before after, o.blocks = before ++ b :: after ∧
      ∀ b' ∈ before, ¬b'.Covers line := by
  unfold blockAt
  have hcovers : ∀ b : Block,
      (decide (b.startLine ≤ line) && decide (line ≤ b.endLine)) = true ↔ b.Covers line :=
    fun b => by rw [Bool.and_eq_true, decide_eq_true_iff, decide_eq_true_iff, Block.Covers]
  rw [List.find?_eq_some_iff_append]
  simp only [hcovers, Bool.not_eq_true', ← Bool.not_eq_true]

end Outline

/-! ## Links -/

namespace LinkRef

open LinkGraph (markersOf mem_markersOf)

variable {l : LinkRef} {origin : SourceRef} {m : Marker}

section Block

variable (hm : .marker m ∈ Layer.ofFacts notes rules source text facts fileTags)
  (hline : m.info.line = some line) (ho : notes.outline? source = some o)
  (hids : HasPlainIds o.blocks) (hb : b ∈ o.blocks)
  (hl : l.targets notes origin source = true)
  (hanchor : l.anchor = some ("^" ++ b.id))

include hm hline ho hids hb hl hanchor

/-- A link to a block points at the places that keep the block. -/
theorem pointsAt_iff_blockAt :
    l.pointsAt notes origin (.marker m) = true ↔ o.blockAt line = some b := by
  have hlies := Layer.liesIn_of_mem_ofFacts hm rfl
  have hsource : m.info.source = source :=
    Option.some.inj (Layer.source?_of_mem_ofFacts hm)
  have hoffset : m.info.isDocumentLevel = false := by
    rw [LayerInfo.isDocumentLevel, Option.isNone_eq_false_iff, hlies.offset, hline]
    rfl
  have hblock : m.info.block = o.blockAt line := by
    rw [hlies.block, hline, ho]
    rfl
  have hreaches : reaches notes ("^" ++ b.id) m.info = (o.blockAt line).any (·.id == b.id) := by
    rw [reaches, hsource, ho, Option.bind_some, Outline.resolveAnchor_block hids hb, hblock]
  unfold pointsAt
  simp only [Layer.info?, hsource, hl, hoffset, hanchor, hreaches, hblock]
  cases hat : o.blockAt line with
  | none => simp [Layer.kind]
  | some own =>
    have hid : own.id = b.id ↔ own = b :=
      ⟨hids.eq_of_id_eq hb (List.mem_of_find?_eq_some hat), fun h => h ▸ rfl⟩
    simpa [Layer.kind] using hid

/-- Where no other block has the line of a place, a link to the block of the line points at it. -/
theorem pointsAt_iff_covers (hown : ∀ b' ∈ o.blocks, b'.Covers line → b' = b) :
    l.pointsAt notes origin (.marker m) = true ↔ b.Covers line := by
  rw [pointsAt_iff_blockAt hm hline ho hids hb hl hanchor, Outline.blockAt_eq_some_iff]
  refine ⟨And.left, fun hcovers => ⟨hcovers, ?_⟩⟩
  obtain ⟨before, after, hblocks⟩ := List.append_of_mem hb
  refine ⟨before, after, hblocks, fun b' hb' hcovers' => ?_⟩
  -- the block itself does not stand in front of itself
  have hnodup : (before ++ b :: after).Nodup := hblocks ▸ List.Nodup.of_map Block.id hids.nodup
  have heq := hown b' (hblocks ▸ List.mem_append_left _ hb') hcovers'
  exact (List.nodup_append.1 hnodup).2.2 b' hb' b List.mem_cons_self heq

/-- **A link to a block points at the places on its lines that no block in front of it has.** -/
theorem pointsAt_block :
    l.pointsAt notes origin (.marker m) = true ↔
      b.Covers line ∧ ∃ before after, o.blocks = before ++ b :: after ∧
        ∀ b' ∈ before, ¬b'.Covers line :=
  (pointsAt_iff_blockAt hm hline ho hids hb hl hanchor).trans Outline.blockAt_eq_some_iff

end Block

/-- A link to a list item points at a place in an item inside it. -/
theorem pointsAt_outer_item :
    let text := "- around ^outer\n  - [x](geo:1,2) ^inner\n"
    let notes := (NoteStore.ofList [("A.md", text)]).notes
    let ls := Layer.ofFacts notes none ⟨"A.md"⟩ text.toList
      (Extraction.ofNote text.toList none "location").facts []
    let l : LinkRef := ⟨"A#^outer", none, some 0⟩
    let outer : Block := ⟨"outer", 0, 1⟩
    ∃ o m, .marker m ∈ ls ∧ m.info.line = some 1 ∧ notes.outline? ⟨"A.md"⟩ = some o ∧
      HasPlainIds o.blocks ∧ outer ∈ o.blocks ∧ l.targets notes ⟨"B.md"⟩ ⟨"A.md"⟩ = true ∧
      l.anchor = some ("^" ++ outer.id) ∧ l.pointsAt notes ⟨"B.md"⟩ (.marker m) = true := by
  intro text notes ls l outer
  obtain ⟨m, hms⟩ : ∃ m, markersOf ls = [m] := List.length_eq_one_iff.1 (by decide +kernel)
  have hlines : (markersOf ls).map (·.info.line) = [some 1] := by decide +kernel
  have hblocks : (Note.ofText text).outline.blocks = [outer, ⟨"inner", 1, 1⟩] := by decide +kernel
  have hm : .marker m ∈ ls := mem_markersOf.1 (by simp [hms])
  have hline : m.info.line = some 1 := by simpa [hms] using hlines
  have ho : notes.outline? ⟨"A.md"⟩ = some (Note.ofText text).outline := by decide +kernel
  have hids := Note.hasPlainIds_ofText text
  have hb : outer ∈ (Note.ofText text).outline.blocks := hblocks ▸ List.mem_cons_self
  have hl : l.targets notes ⟨"B.md"⟩ ⟨"A.md"⟩ = true := by decide +kernel
  have hanchor : l.anchor = some ("^" ++ outer.id) := by decide +kernel
  exact ⟨_, m, hm, hline, ho, hids, hb, hl, hanchor,
    (pointsAt_block hm hline ho hids hb hl hanchor).2 ⟨by decide, [], _, hblocks, by simp⟩⟩

/-- A link to the inner item does not, though the place stands on its line. -/
theorem pointsAt_inner_item :
    let text := "- around ^outer\n  - [x](geo:1,2) ^inner\n"
    let notes := (NoteStore.ofList [("A.md", text)]).notes
    let ls := Layer.ofFacts notes none ⟨"A.md"⟩ text.toList
      (Extraction.ofNote text.toList none "location").facts []
    let l : LinkRef := ⟨"A#^inner", none, some 0⟩
    let inner : Block := ⟨"inner", 1, 1⟩
    ∃ o m, .marker m ∈ ls ∧ m.info.line = some 1 ∧ notes.outline? ⟨"A.md"⟩ = some o ∧
      HasPlainIds o.blocks ∧ inner ∈ o.blocks ∧ l.targets notes ⟨"B.md"⟩ ⟨"A.md"⟩ = true ∧
      l.anchor = some ("^" ++ inner.id) ∧ inner.Covers 1 ∧
      l.pointsAt notes ⟨"B.md"⟩ (.marker m) = false := by
  intro text notes ls l inner
  let o : Outline := ⟨[], [⟨"outer", 0, 1⟩, inner], [], []⟩
  obtain ⟨m, hms⟩ : ∃ m, markersOf ls = [m] := List.length_eq_one_iff.1 (by decide +kernel)
  have hlines : (markersOf ls).map (·.info.line) = [some 1] := by decide +kernel
  have hpoints : (markersOf ls).map (fun m => l.pointsAt notes ⟨"B.md"⟩ (.marker m)) = [false] := by
    decide +kernel
  exact ⟨o, m, mem_markersOf.1 (by simp [hms]), by simpa [hms] using hlines, by decide +kernel,
    ⟨by decide, by decide⟩, by decide, by decide +kernel, by decide +kernel, by decide,
    by simpa [hms] using hpoints⟩

end LinkRef

end Gazetteer
