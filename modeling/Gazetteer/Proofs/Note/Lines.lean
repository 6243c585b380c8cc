import Gazetteer.Note.Basic
import Gazetteer.Proofs.Markdown.Order
import Gazetteer.Proofs.Text.Lines

/-!
# The lines of an outline

An outline counts the line feeds in front of what it lists (`Note.linesIn_ofText`). Its headings
have the lines where the headings of the text start, one for each and in their order. Its blocks are
those of the paragraphs and list items that carry an id, the first one of each id, and its links
those that are opened and closed in the text and lead to notes, each with its own lines. So the last
heading at or above a line is the lowest one (`Outline.headingAt_eq_some_iff`).
-/

namespace Gazetteer

open Markdown (Event headingStarts headingStartsOf)
open Text (ByteTable LineTable lineFeedsBefore utf8Length)

/-! ## Headings above a line -/

namespace Outline

variable {o : Outline} {h : Heading} {line : Nat}

theorem headingAt_eq_none_iff : o.headingAt line = none ↔ ∀ h ∈ o.headings, line < h.line := by
  simp [headingAt]

/-- Among headings in their order, the last one that is not below a line is the lowest one. -/
theorem headingAt_eq_some_iff (hordered : o.headings.Pairwise (·.line ≤ ·.line)) :
    o.headingAt line = some h ↔
      ∃ front back, o.headings = front ++ h :: back ∧ (∀ k ∈ front, k.line ≤ h.line) ∧
        h.line ≤ line ∧ ∀ k ∈ back, line < k.line := by
  rw [headingAt, List.find?_eq_some_iff_append]
  constructor
  · rintro ⟨hle, back, front, hreverse, hback⟩
    have hsplit : o.headings = front.reverse ++ h :: back.reverse := by
      rw [← List.reverse_reverse o.headings, hreverse]
      simp
    refine ⟨front.reverse, back.reverse, hsplit, fun k hk => ?_, of_decide_eq_true hle,
      fun k hk => ?_⟩
    · rw [hsplit, List.pairwise_append] at hordered
      exact hordered.2.2 k hk h List.mem_cons_self
    · simpa using hback k (List.mem_reverse.1 hk)
  · rintro ⟨front, back, hsplit, -, hle, hback⟩
    refine ⟨decide_eq_true hle, back.reverse, front.reverse, by simp [hsplit], fun k hk => ?_⟩
    simpa using hback k (List.mem_reverse.1 hk)

end Outline

/-! ## Reading headings -/

namespace Note.Findings

variable (source : Array Char) (byteOf lineOf : Nat → Nat) {f f' f'' : Findings} {e : Event}
  {es : List Event} {starts starts' : List Nat}

/-- The lines of the headings found so far. -/
def headingLines (f : Findings) : List Nat := (f.headings.map (·.line)).reverse

theorem headings_step_of_isHeading (f : Findings) (h : e.isHeading = false) :
    (f.step source byteOf lineOf e).headings = f.headings ∧
      (f.step source byteOf lineOf e).openHeading.map (·.line) = f.openHeading.map (·.line) := by
  have haddBlock : ∀ block : Option Block, (f.addBlock block).headings = f.headings ∧
      (f.addBlock block).openHeading.map (·.line) = f.openHeading.map (·.line) := fun block => by
    unfold addBlock
    split
    · split <;> exact ⟨rfl, rfl⟩
    · exact ⟨rfl, rfl⟩
  cases e with
  | openHeading | closeHeading => cases h
  | openLink => exact ⟨rfl, rfl⟩
  | closeLink =>
    rw [step]
    split <;> exact ⟨rfl, rfl⟩
  | paragraph | item => exact haddBlock _
  | text s | code s =>
    refine ⟨rfl, ?_⟩
    rw [step]
    simp [addText, Function.comp_def]

/-- Running text leaves headings alone, but for their titles. -/
theorem headings_foldl_of_isHeading (f : Findings) (h : ∀ e ∈ es, e.isHeading = false) :
    (es.foldl (step source byteOf lineOf) f).headings = f.headings ∧
      (es.foldl (step source byteOf lineOf) f).openHeading.map (·.line) =
        f.openHeading.map (·.line) := by
  induction es generalizing f with
  | nil => exact ⟨rfl, rfl⟩
  | cons e es ih =>
    obtain ⟨he, hes⟩ := List.forall_mem_cons.1 h
    obtain ⟨hstep, hopen⟩ := headings_step_of_isHeading source byteOf lineOf f he
    obtain ⟨hfold, hfoldOpen⟩ := ih (f.step source byteOf lineOf e) hes
    exact ⟨hfold.trans hstep, hfoldOpen.trans hopen⟩

/-- Between blocks no heading is open, and the headings found in some of them have the lines where
they start. -/
structure Gains (starts : List Nat) (f f' : Findings) : Prop where
  closed : f'.openHeading = none
  lines : f'.headingLines = f.headingLines ++ starts.map fun start => lineOf (byteOf start)

variable {byteOf lineOf} in
theorem Gains.append (h : Gains byteOf lineOf starts f f')
    (h' : Gains byteOf lineOf starts' f' f'') : Gains byteOf lineOf (starts ++ starts') f f'' :=
  ⟨h'.closed, by rw [h'.lines, h.lines, List.map_append, List.append_assoc]⟩

theorem gains_of_isHeading (hclosed : f.openHeading = none) (h : ∀ e ∈ es, e.isHeading = false) :
    Gains byteOf lineOf [] f (es.foldl (step source byteOf lineOf) f) := by
  obtain ⟨hheadings, hopen⟩ := headings_foldl_of_isHeading source byteOf lineOf f h
  rw [hclosed, Option.map_none, Option.map_eq_none_iff] at hopen
  exact ⟨hopen, by rw [headingLines, hheadings, List.map_nil, List.append_nil, headingLines]⟩

theorem gains_heading (level start : Nat) (h : ∀ e ∈ es, e.isHeading = false) :
    Gains byteOf lineOf [start] f
      ((Event.openHeading level start :: es ++ [Event.closeHeading]).foldl
        (step source byteOf lineOf) f) := by
  rw [List.cons_append, List.foldl_cons, List.foldl_append, List.foldl_cons, List.foldl_nil]
  obtain ⟨hheadings, hopen⟩ := headings_foldl_of_isHeading source byteOf lineOf
    (f.step source byteOf lineOf (.openHeading level start)) h
  generalize es.foldl (step source byteOf lineOf) _ = read at hheadings hopen ⊢
  obtain ⟨o, ho, hline⟩ := Option.map_eq_some_iff.1 hopen
  simp only [step, ho]
  refine ⟨rfl, ?_⟩
  simp [headingLines, hheadings, hline, step]

mutual

theorem gains_blockEvents (d : Markdown.Document) (tight : Bool) :
    ∀ (b : Markdown.Block) (f : Findings), f.openHeading = none →
      Gains byteOf lineOf b.headingStarts f
        ((Markdown.blockEvents source d tight b).foldl (step source byteOf lineOf) f)
  | .paragraph leaf, f, hf => by
    refine gains_of_isHeading source byteOf lineOf hf fun e he => ?_
    rw [Markdown.blockEvents, List.mem_append] at he
    rcases he with he | he
    · cases tight
      · rw [List.mem_singleton.1 he]
        rfl
      · cases he
    · exact Markdown.isHeading_of_mem_leafEvents he
  | .heading level leaf, f, _ =>
    gains_heading source byteOf lineOf level leaf.start fun _ =>
      Markdown.isHeading_of_mem_leafEvents
  | .table cells, f, hf => by
    refine gains_of_isHeading source byteOf lineOf hf fun e he => ?_
    obtain ⟨cell, -, he⟩ := List.mem_flatMap.1 he
    exact Markdown.isHeading_of_mem_leafEvents he
  | .verbatim, f, hf => gains_of_isHeading source byteOf lineOf hf (List.forall_mem_nil _)
  | .quote bs, f, hf | .footnote bs, f, hf => gains_blocksEvents d false bs f hf
  | .list tight bs, f, hf => gains_blocksEvents d tight bs f hf
  | .item start stop bs, f, hf => by
    have hitem : Gains byteOf lineOf [] f
        ([Event.item start stop].foldl (step source byteOf lineOf) f) :=
      gains_of_isHeading source byteOf lineOf hf (List.forall_mem_singleton.2 rfl)
    exact hitem.append (gains_blocksEvents d tight bs _ hitem.closed)

theorem gains_blocksEvents (d : Markdown.Document) (tight : Bool) :
    ∀ (bs : List Markdown.Block) (f : Findings), f.openHeading = none →
      Gains byteOf lineOf (headingStartsOf bs) f
        ((Markdown.blocksEvents source d tight bs).foldl (step source byteOf lineOf) f)
  | [], f, hf => gains_of_isHeading source byteOf lineOf hf (List.forall_mem_nil _)
  | b :: bs, f, hf => by
    have hb := gains_blockEvents d tight b f hf
    rw [Markdown.blocksEvents, List.foldl_append, headingStartsOf]
    exact hb.append (gains_blocksEvents d tight bs _ hb.closed)

end

/-- The headings found in a text have the lines where they start. -/
theorem headingLines_foldl_events :
    ((Markdown.events source).foldl (step source byteOf lineOf) {}).headingLines =
      (headingStarts (Markdown.events source)).map fun start => lineOf (byteOf start) := by
  have hgains := gains_blocksEvents source byteOf lineOf (Markdown.Document.ofText source) false
    (Markdown.Document.ofText source).blocks {} rfl
  rw [Markdown.events, Markdown.headingStarts_blocksEvents, hgains.lines]
  rfl

end Note.Findings

/-! ## What an outline lists -/

theorem Note.line_of_linkRef {target shown : List Char} {wiki : Bool} {line : Nat} {l : LinkRef}
    (h : linkRef target wiki line shown = some l) : l.line = some line := by
  unfold linkRef at h
  simp only at h
  split at h
  · cases h
  · cases h
    rfl

namespace Outline

/-- The block between two characters, if it carries an id. It has the line where it starts and that
of its last byte. -/
def blockIn (cs : List Char) (ofItem : Bool) (start stop : Nat) : Option Block :=
  let first := utf8Length (cs.take start)
  let behind := utf8Length (cs.take stop)
  ((Note.idLine ofItem (cs.extract start stop)).bind Pattern.blockId.find?).map fun m =>
    { id := String.ofList (m.group "id")
      startLine := lineFeedsBefore cs first
      endLine := lineFeedsBefore cs (if first < behind then behind - 1 else first) }

/-- The block that a paragraph or a list item is, if it carries an id. -/
def blockOfEvent (cs : List Char) : Event → Option Block
  | .paragraph start stop => blockIn cs false start stop
  | .item start stop => blockIn cs true start stop
  | _ => none

/-- What an open link still shows before it is closed, unless another link is opened first. -/
def shownText : List Event → Option (List Char)
  | [] => none
  | .openLink _ _ :: _ => none
  | .closeLink :: _ => some []
  | .text s :: es | .code s :: es => (shownText es).map (s ++ ·)
  | _ :: es => shownText es

/-- The links to notes among some events, each with the line where it starts. -/
def linksOfEvents (cs : List Char) : List Event → List LinkRef
  | [] => []
  | .openLink target start :: es =>
    ((shownText es).bind (Note.linkRef target.text target.isWiki
      (lineFeedsBefore cs (utf8Length (cs.take start))))).toList ++ linksOfEvents cs es
  | _ :: es => linksOfEvents cs es

/-- An outline lists what stands in a text, with the lines where it stands. Events count in
characters, line feeds are counted in front of bytes. -/
structure LinesIn (o : Outline) (cs : List Char) : Prop where
  headings : o.headings.map (·.line) = (headingStarts (Markdown.events cs.toArray)).map fun start =>
    lineFeedsBefore cs (utf8Length (cs.take start))
  /-- Of the blocks with one id the first one is listed. -/
  blocks : o.blocks =
    ((Markdown.events cs.toArray).filterMap (blockOfEvent cs)).eraseDupsBy fun b b' => b.id == b'.id
  links : o.links = linksOfEvents cs (Markdown.events cs.toArray)
  linkLines : ∀ l ∈ o.links, ∃ target start,
    Event.openLink target start ∈ Markdown.events cs.toArray ∧
    l.line = some (lineFeedsBefore cs (utf8Length (cs.take start)))

theorem exists_of_mem_linksOfEvents {cs : List Char} {es : List Event} {l : LinkRef}
    (h : l ∈ linksOfEvents cs es) : ∃ target start, Event.openLink target start ∈ es ∧
      l.line = some (lineFeedsBefore cs (utf8Length (cs.take start))) := by
  induction es with
  | nil => cases h
  | cons e es ih =>
    have hrest : l ∈ linksOfEvents cs es → ∃ target start, Event.openLink target start ∈ e :: es ∧
        l.line = some (lineFeedsBefore cs (utf8Length (cs.take start))) := fun h => by
      obtain ⟨target, start, he, hline⟩ := ih h
      exact ⟨target, start, List.mem_cons_of_mem _ he, hline⟩
    cases e with
    | openLink target start =>
      rcases List.mem_append.1 h with h | h
      · obtain ⟨shown, -, hlink⟩ := Option.bind_eq_some_iff.1 (Option.mem_toList.1 h)
        exact ⟨target, start, List.mem_cons_self, Note.line_of_linkRef hlink⟩
      · exact hrest h
    | _ => exact hrest h

end Outline

/-! ## Reading blocks and links -/

namespace Note.Findings

open Outline (blockOfEvent shownText linksOfEvents)

variable {cs : List Char} {es : List Event}

/-- What was found in a text, after one more event. -/
def stepIn (cs : List Char) : Findings → Event → Findings :=
  step cs.toArray (fun i => utf8Length (cs.take i)) (lineFeedsBefore cs)

/-- Blocks are listed unless there is one with the same id. -/
theorem loop_blocks_addBlock (f : Findings) (block : Option Block) (bs : List Block) :
    List.eraseDupsBy.loop (fun b b' => b.id == b'.id) (block.toList ++ bs) f.blocks =
      List.eraseDupsBy.loop (fun b b' => b.id == b'.id) bs (f.addBlock block).blocks := by
  cases block with
  | none => rfl
  | some b =>
    have hany : f.blocks.any (fun b' => b.id == b'.id) = f.blocks.any fun b' => b'.id == b.id :=
      congrArg f.blocks.any (funext fun b' => Bool.beq_comm)
    rw [Option.toList_some, List.singleton_append, List.eraseDupsBy.loop, hany, addBlock]
    cases f.blocks.any fun b' => b'.id == b.id <;> rfl

theorem loop_blocks_step (f : Findings) (e : Event) (bs : List Block) :
    List.eraseDupsBy.loop (fun b b' => b.id == b'.id) ((blockOfEvent cs e).toList ++ bs) f.blocks =
      List.eraseDupsBy.loop (fun b b' => b.id == b'.id) bs (f.stepIn cs e).blocks := by
  cases e with
  | openHeading | openLink | text | code => rfl
  | closeHeading | closeLink =>
    rw [stepIn, step]
    split <;> rfl
  | paragraph start stop | item start stop =>
    rw [stepIn, step, ← loop_blocks_addBlock, Array.toList_extract]
    rfl

theorem blocks_foldl (f : Findings) (es : List Event) :
    (es.foldl (stepIn cs) f).blocks.reverse =
      List.eraseDupsBy.loop (fun b b' => b.id == b'.id) (es.filterMap (blockOfEvent cs))
        f.blocks := by
  induction es generalizing f with
  | nil => rfl
  | cons e es ih =>
    rw [List.foldl_cons, ih, ← loop_blocks_step, List.filterMap_cons]
    cases blockOfEvent cs e <;> rfl

/-- The link that an open one becomes, if it leads to a note and is closed. -/
def pendingLink (l : OpenLink) (es : List Event) : Option LinkRef :=
  (shownText es).bind fun shown => linkRef l.target l.wiki l.line (l.title ++ shown)

/-- The links that will be listed when some more events have been read. -/
def linksAfter (cs : List Char) (f : Findings) (es : List Event) : List LinkRef :=
  f.links.reverse ++ ((f.openLink.bind (pendingLink · es)).toList ++ linksOfEvents cs es)

theorem linksAfter_addBlock (f : Findings) (block : Option Block) :
    linksAfter cs (f.addBlock block) es = linksAfter cs f es := by
  unfold addBlock
  split
  · split <;> rfl
  · rfl

/-- Text that is read is shown in front of the text to come. -/
theorem bind_pendingLink_addText (f : Findings) (s : List Char) (es : List Event) :
    (f.addText s).openLink.bind (pendingLink · es) =
      f.openLink.bind (pendingLink · (.text s :: es)) := by
  cases hopen : f.openLink with
  | none => simp [addText, hopen]
  | some l =>
    simp only [addText, hopen, Option.map_some, Option.bind_some, pendingLink, shownText]
    cases shownText es with
    | none => rfl
    | some shown => simp

theorem linksAfter_step (f : Findings) (e : Event) (es : List Event) :
    linksAfter cs (f.stepIn cs e) es = linksAfter cs f (e :: es) := by
  cases e with
  | openHeading level start => rfl
  | closeHeading =>
    rw [stepIn, step]
    split <;> rfl
  | openLink target start =>
    have hnone : f.openLink.bind (pendingLink · (.openLink target start :: es)) = none := by
      cases f.openLink <;> rfl
    rw [linksAfter, linksAfter, hnone]
    rfl
  | closeLink =>
    rw [stepIn, step, linksAfter, linksAfter]
    cases hopen : f.openLink with
    | none => simp [hopen, linksOfEvents]
    | some l =>
      have hclosed : pendingLink l (.closeLink :: es) = linkRef l.target l.wiki l.line l.title := by
        simp [pendingLink, shownText]
      simp only [Option.bind_some, hclosed]
      cases linkRef l.target l.wiki l.line l.title <;> simp [linksOfEvents]
  | paragraph start stop | item start stop => exact linksAfter_addBlock f _
  | text s | code s =>
    exact congrArg (fun o => f.links.reverse ++ (Option.toList o ++ linksOfEvents cs es))
      (bind_pendingLink_addText f s es)

theorem links_foldl (f : Findings) (es : List Event) :
    (es.foldl (stepIn cs) f).links.reverse = linksAfter cs f es := by
  induction es generalizing f with
  | nil =>
    have hnone : f.openLink.bind (pendingLink · []) = none := by
      cases f.openLink <;> rfl
    rw [linksAfter, hnone]
    simp [linksOfEvents]
  | cons e es ih => rw [List.foldl_cons, ih, linksAfter_step]

end Note.Findings

/-! ## The outline -/

namespace Note

theorem Findings.linesIn (cs : List Char) (frontMatterLinks : List LinkRef) :
    let f := (Markdown.events cs.toArray).foldl (stepIn cs) {}
    Outline.LinesIn ⟨f.headings.reverse, f.blocks.reverse, f.links.reverse, frontMatterLinks⟩
      cs := by
  intro f
  have hlinks : f.links.reverse = Outline.linksOfEvents cs (Markdown.events cs.toArray) :=
    links_foldl {} _
  exact ⟨List.map_reverse.trans (headingLines_foldl_events ..), blocks_foldl {} _, hlinks,
    fun l hl => Outline.exists_of_mem_linksOfEvents (hlinks ▸ hl)⟩

/-- **The lines of an outline are those that counting line feeds gives.** -/
theorem linesIn_ofText (text : String) : (ofText text).outline.LinesIn text.toList := by
  have hbytes : (ByteTable.ofText text.toList).byteOf = fun i => utf8Length (text.toList.take i) :=
    funext fun i => ByteTable.byteOf_ofText text.toList i
  have hlines : (LineTable.ofText text.toList).lineOf = lineFeedsBefore text.toList :=
    funext fun offset => LineTable.lineOf_ofText text.toList offset
  rw [ofText]
  simp only [hbytes, hlines]
  exact Findings.linesIn ..

/-- **The headings of a note are listed in the order of their lines.** -/
theorem pairwise_headings_ofText (text : String) :
    (ofText text).outline.headings.Pairwise (·.line ≤ ·.line) := by
  have hmono : ∀ {i j}, i ≤ j → lineFeedsBefore text.toList (utf8Length (text.toList.take i)) ≤
      lineFeedsBefore text.toList (utf8Length (text.toList.take j)) := fun hij =>
    Text.lineFeedsBefore_mono _ (Text.utf8Length_take_mono _ hij)
  rw [← List.pairwise_map (R := (· ≤ ·)), (linesIn_ofText text).headings]
  exact (Markdown.pairwise_headingStarts_events _).map _ fun _ _ => hmono

end Note

end Gazetteer
