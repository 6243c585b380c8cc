import Gazetteer.Proofs.Layer.Building
import Gazetteer.Proofs.Layer.Facts
import Gazetteer.Proofs.Note.Lines

/-!
# The lines of layers

A layer counts the line feeds in front of its fact, and an outline looks its lines up in a table.
Both give the same line for every byte (`Layer.lines_agree`), so a layer is put below the last
heading that does not stand below its fact.
-/

namespace Gazetteer

open Text (LineTable lineFeedsBefore utf8Length)

namespace Layer

variable {notes : Notes} {rules : Option DisplayRules} {source : SourceRef} {text : List Char}
  {facts : List Fact} {fileTags : List String} {f : Fact} {l : Layer} {i : LayerInfo}

theorem line_of_infoOf {outline : Option Outline}
    (h : infoOf source outline text fileTags f = some i) :
    i.line = i.byteOffset.map (lineFeedsBefore text) := by
  unfold infoOf at h
  simp only at h
  split at h
  · cases h
    rfl
  · rename_i spot _
    obtain ⟨⟨preceding, rest⟩, hsplit, rfl⟩ := Option.map_eq_some_iff.1 h
    obtain ⟨rfl, hoffset⟩ := Text.eq_append_of_splitBytes hsplit
    rw [Option.map_some, ← hoffset, Text.lineFeedsBefore_append]

theorem line_of_mem_ofFacts (h : l ∈ ofFacts notes rules source text facts fileTags)
    (hi : l.info? = some i) : i.line = i.byteOffset.map (lineFeedsBefore text) := by
  obtain ⟨f, -, hf⟩ := List.mem_filterMap.1 h
  obtain ⟨j, hj, rfl⟩ := Option.map_eq_some_iff.1 hf
  have hline := line_of_infoOf hj
  rw [info?_style, info?_ofPayload] at hi
  obtain rfl := Option.some.inj hi
  exact hline

/-- A fact at a byte where a character starts has a layer. -/
theorem exists_mem_ofFacts (notes : Notes) (rules : Option DisplayRules) (source : SourceRef)
    (fileTags : List String) (hf : f ∈ facts) {spot : Spot} (hspot : f.spot = some spot)
    {before rest : List Char} (htext : text = before ++ rest)
    (hoffset : spot.byteOffset = utf8Length before) :
    ∃ l ∈ ofFacts notes rules source text facts fileTags, ∃ i, l.info? = some i ∧
      i.byteOffset = some spot.byteOffset := by
  have hsplit : Text.splitBytes text spot.byteOffset = some (before, rest) := by
    rw [htext, hoffset, Text.splitBytes_append]
  obtain ⟨i, hi, hbyte⟩ : ∃ i, infoOf source (notes.outline? source) text fileTags f = some i ∧
      i.byteOffset = some spot.byteOffset := by
    unfold infoOf
    simp only [hspot, hsplit, Option.map_some]
    exact ⟨_, rfl, rfl⟩
  refine ⟨(ofPayload i f.payload).style rules notes, List.mem_filterMap.2 ⟨f, hf, ?_⟩, _,
    (info?_style ..).trans (info?_ofPayload i f.payload), hbyte⟩
  rw [hi, Option.map_some]

/-- **Both ways to count lines agree.** For every text:

* for every byte the search in the table of the lines succeeds, or fails behind the first line, and
  it gives the number of line feeds in front of the byte;
* these are the lines with which the outline lists the headings, blocks and links of the text;
* they are also the lines of the layers, whatever the notes around are and however layers are drawn,
  and there is a layer for each fact that stands where a character starts;
* the headings of the outline are listed in the order of their lines, and among headings in this
  order the one at a line is the last one that is not below it. -/
theorem lines_agree (text : String) :
    let cs := text.toList
    let table := LineTable.ofText cs
    let outline := (Note.ofText text).outline
    (∀ offset, table.search offset ≠ .miss 0 ∧
      table.lineOf offset = lineFeedsBefore cs offset) ∧
    outline.LinesIn cs ∧
    (∀ notes rules source facts fileTags,
      (∀ l ∈ ofFacts notes rules source cs facts fileTags, ∀ i, l.info? = some i →
        i.line = i.byteOffset.map table.lineOf) ∧
      ∀ f ∈ facts, ∀ spot before rest, f.spot = some spot → cs = before ++ rest →
        spot.byteOffset = utf8Length before →
        ∃ l ∈ ofFacts notes rules source cs facts fileTags, ∃ i, l.info? = some i ∧
          i.byteOffset = some spot.byteOffset ∧ i.line = some (table.lineOf spot.byteOffset)) ∧
    outline.headings.Pairwise (·.line ≤ ·.line) ∧
    ∀ o : Outline, o.headings.Pairwise (·.line ≤ ·.line) → ∀ line,
      (o.headingAt line = none ↔ ∀ h ∈ o.headings, line < h.line) ∧
      ∀ h, o.headingAt line = some h ↔
        ∃ front back, o.headings = front ++ h :: back ∧ (∀ k ∈ front, k.line ≤ h.line) ∧
          h.line ≤ line ∧ ∀ k ∈ back, line < k.line := by
  intro cs table outline
  have hline : table.lineOf = lineFeedsBefore cs := funext (LineTable.lineOf_ofText cs)
  refine ⟨fun offset => ⟨LineTable.search_ofText_ne cs offset, congrFun hline offset⟩,
    Note.linesIn_ofText text, fun notes rules source facts fileTags => ⟨fun l hl i hi => ?_,
      fun f hf spot before rest hspot htext hoffset => ?_⟩,
    Note.pairwise_headings_ofText text, fun o hordered line =>
      ⟨Outline.headingAt_eq_none_iff, fun h => Outline.headingAt_eq_some_iff hordered⟩⟩
  · rw [hline]
    exact line_of_mem_ofFacts hl hi
  · obtain ⟨l, hl, i, hi, hbyte⟩ :=
      exists_mem_ofFacts notes rules source fileTags hf hspot htext hoffset
    refine ⟨l, hl, i, hi, hbyte, ?_⟩
    rw [line_of_mem_ofFacts hl hi, hbyte, hline, Option.map_some]

/-- Line ends of two characters and characters of two bytes, around a block of two lines that has a
place and a link on its second one. -/
theorem lines_agree_between_headings :
    let text := "# É\r\n\r\nÄ\r\n[a](geo:1,2) [[B#c|b]] ^d\n## Ω\n"
    let before := "# É\r\n\r\nÄ\r\n".toList
    let rest := "[a](geo:1,2) [[B#c|b]] ^d\n## Ω\n".toList
    let facts := (Extraction.ofNote text.toList none "location").facts
    let o : Outline :=
      ⟨[⟨"É", 1, 0⟩, ⟨"Ω", 2, 4⟩], [⟨"d", 2, 3⟩], [⟨"B#c", some "b", some 3⟩], []⟩
    (Note.ofText text).outline = o ∧ o.LinesIn text.toList ∧
      o.headings.Pairwise (·.line ≤ ·.line) ∧
      ∃ f ∈ facts, f.spot = some ⟨10, 12⟩ ∧ text.toList = before ++ rest ∧
        12 = utf8Length before ∧
        (∃ l ∈ ofFacts (NoteStore.ofList []).notes none ⟨"A.md"⟩ text.toList facts [],
          ∃ i, l.info? = some i ∧ i.line = some 3) ∧
        o.headingAt 3 = some ⟨"É", 1, 0⟩ := by
  intro text before rest facts o
  have hfact : facts.any (fun f => f.spot == some ⟨10, 12⟩) = true := by decide +kernel
  obtain ⟨f, hf, hspot⟩ := List.any_eq_true.1 hfact
  rw [beq_iff_eq] at hspot
  have houtline : (Note.ofText text).outline = o := by decide +kernel
  have hordered : o.headings.Pairwise (·.line ≤ ·.line) := by decide
  have htext : text.toList = before ++ rest := by decide +kernel
  have hoffset : 12 = utf8Length before := by decide +kernel
  have hline : (LineTable.ofText text.toList).lineOf 12 = 3 := by decide +kernel
  obtain ⟨-, hlines, hlayers, -, hheadings⟩ := lines_agree text
  obtain ⟨l, hl, i, hi, -, hi3⟩ := (hlayers (NoteStore.ofList []).notes none ⟨"A.md"⟩ facts []).2 f
    hf _ before rest hspot htext hoffset
  rw [hline] at hi3
  exact ⟨houtline, houtline ▸ hlines, hordered, f, hf, hspot, htext, hoffset, ⟨l, hl, i, hi, hi3⟩,
    ((hheadings o hordered 3).2 _).2 ⟨[], [⟨"Ω", 2, 4⟩], rfl, by simp, by decide, by decide⟩⟩

end Layer

end Gazetteer
