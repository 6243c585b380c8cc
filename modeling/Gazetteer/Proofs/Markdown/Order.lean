import Gazetteer.Markdown.Inline
import Mathlib.Data.List.Infix

/-!
# The order of headings

The headings of a text are met in the order in which they stand in it
(`pairwise_headingStarts_events`). Blocks are put on a stack of open containers, so the order is
that of the blocks on the whole stack: closing a container leaves it as it is, and a line adds at
most one heading, which starts in the line.
-/

namespace Gazetteer.Markdown

/-! ## Headings among events and blocks -/

/-- Whether an event opens or closes a heading. -/
def Event.isHeading : Event → Bool
  | .openHeading .. | .closeHeading => true
  | _ => false

def Event.headingStart? : Event → Option Nat
  | .openHeading _ start => some start
  | _ => none

/-- Where the headings among events start. -/
def headingStarts (es : List Event) : List Nat :=
  es.filterMap Event.headingStart?

@[simp] theorem headingStarts_append (es es' : List Event) :
    headingStarts (es ++ es') = headingStarts es ++ headingStarts es' :=
  List.filterMap_append

theorem headingStarts_flatMap {α : Type} (f : α → List Event) (xs : List α) :
    headingStarts (xs.flatMap f) = xs.flatMap fun x => headingStarts (f x) := by
  induction xs with
  | nil => rfl
  | cons x xs ih => rw [List.flatMap_cons, headingStarts_append, ih, List.flatMap_cons]

mutual

/-- Where the headings of a block start, in their order. -/
def Block.headingStarts : Block → List Nat
  | .heading _ leaf => [leaf.start]
  | .quote blocks | .list _ blocks | .item _ _ blocks | .footnote blocks =>
    headingStartsOf blocks
  | .paragraph _ | .table _ | .verbatim => []

def headingStartsOf : List Block → List Nat
  | [] => []
  | b :: bs => b.headingStarts ++ headingStartsOf bs

end

@[simp] theorem headingStartsOf_append (bs bs' : List Block) :
    headingStartsOf (bs ++ bs') = headingStartsOf bs ++ headingStartsOf bs' := by
  induction bs with
  | nil => rfl
  | cons b bs ih => rw [List.cons_append, headingStartsOf, headingStartsOf, ih, List.append_assoc]

mutual

theorem isHeading_of_mem_inlineEvents {e : Event} (start : Nat) :
    ∀ i : Inline, e ∈ inlineEvents start i → e.isHeading = false
  | .text _, h | .code _, h => by rw [List.mem_singleton.1 h]; rfl
  | .delimiter .., h | .other, h => nomatch h
  | .link target content, h => by
    rw [inlineEvents, List.mem_append, List.mem_cons, List.mem_singleton] at h
    rcases h with (rfl | h) | rfl
    · rfl
    · exact isHeading_of_mem_runEvents _ _ content h
    · rfl
  | .image content, h => isHeading_of_mem_runEvents _ _ content h

/-- Running text has no headings. -/
theorem isHeading_of_mem_runEvents {e : Event} (index : Nat) (left : Leftovers) :
    ∀ is : List (Nat × Inline), e ∈ runEvents index left is → e.isHeading = false
  | [], h => nomatch h
  | (start, .delimiter c _ _ _) :: rest, h => by
    rw [runEvents, List.mem_append] at h
    rcases h with h | h
    · rw [List.eq_of_mem_replicate h]
      rfl
    · exact isHeading_of_mem_runEvents _ _ rest h
  | (start, .text s) :: rest, h | (start, .code s) :: rest, h | (start, .link s t) :: rest, h
  | (start, .image s) :: rest, h | (start, .other) :: rest, h => by
    rw [runEvents, List.mem_append] at h
    · rcases h with h | h
      · exact isHeading_of_mem_inlineEvents start _ h
      · exact isHeading_of_mem_runEvents _ _ rest h
    · simp

end

theorem isHeading_of_mem_leafEvents {source : Array Char} {d : Document} {leaf : Leaf} {e : Event}
    (h : e ∈ leafEvents source d leaf) : e.isHeading = false :=
  isHeading_of_mem_runEvents _ _ _ h

theorem headingStarts_leafEvents (source : Array Char) (d : Document) (leaf : Leaf) :
    headingStarts (leafEvents source d leaf) = [] := by
  refine List.filterMap_eq_nil_iff.2 fun e he => ?_
  have hnone := isHeading_of_mem_leafEvents he
  cases e <;> first | rfl | cases hnone

mutual

theorem headingStarts_blockEvents (source : Array Char) (d : Document) (tight : Bool) :
    ∀ b : Block, headingStarts (blockEvents source d tight b) = b.headingStarts
  | .paragraph leaf => by
    rw [blockEvents, headingStarts_append, headingStarts_leafEvents]
    cases tight <;> rfl
  | .heading level leaf => by
    rw [blockEvents, List.cons_append]
    show leaf.start :: headingStarts (leafEvents source d leaf ++ [.closeHeading]) = [leaf.start]
    rw [headingStarts_append, headingStarts_leafEvents]
    rfl
  | .table cells => by
    rw [blockEvents, headingStarts_flatMap]
    simp [headingStarts_leafEvents, Block.headingStarts]
  | .verbatim => rfl
  | .quote bs | .footnote bs => headingStarts_blocksEvents source d false bs
  | .list t bs => headingStarts_blocksEvents source d t bs
  | .item _ _ bs => headingStarts_blocksEvents source d tight bs

theorem headingStarts_blocksEvents (source : Array Char) (d : Document) (tight : Bool) :
    ∀ bs : List Block, headingStarts (blocksEvents source d tight bs) = headingStartsOf bs
  | [] => rfl
  | b :: bs => by
    rw [blocksEvents, headingStarts_append, headingStarts_blockEvents, headingStarts_blocksEvents,
      headingStartsOf]

end

/-! ## Cursors -/

namespace Cursor

/-- A cursor that goes on in the line of another one. -/
structure Follows (c' c : Cursor) : Prop where
  le : c.offset ≤ c'.offset
  stop_eq : c'.offset + c'.rest.length = c.offset + c.rest.length

variable {c c' c'' : Cursor}

theorem Follows.refl (c : Cursor) : c.Follows c := ⟨Nat.le_refl _, rfl⟩

theorem Follows.trans (h : c'.Follows c) (h' : c''.Follows c') : c''.Follows c :=
  ⟨Nat.le_trans h.le h'.le, h'.stop_eq.trans h.stop_eq⟩

theorem follows_skipColumnsFrom (want offset passed tabStart pending : Nat) (cs : List Char) :
    (skipColumnsFrom want offset passed tabStart pending cs).2.Follows ⟨cs, offset, 0, 0, 0⟩ := by
  fun_induction skipColumnsFrom want offset passed tabStart pending cs with
  | case1 | case2 | case5 => exact ⟨Nat.le_refl _, rfl⟩
  | case3 _ _ _ _ _ cs _ ih | case4 _ _ _ _ _ cs _ _ _ _ ih =>
    refine Follows.trans ⟨Nat.le_succ _, ?_⟩ ih
    simp only [List.length_cons]
    omega

theorem follows_skipColumns (want : Nat) (c : Cursor) : (c.skipColumns want).2.Follows c := by
  have h := follows_skipColumnsFrom (want - min c.pending want) c.offset c.passed c.tabStart
    (c.pending - min c.pending want) c.rest
  exact ⟨h.le, h.stop_eq⟩

theorem follows_advance (h : c.rest ≠ []) : c.advance.Follows c := by
  refine ⟨Nat.le_succ _, ?_⟩
  have := List.length_pos_of_ne_nil h
  simp only [advance, List.length_drop]
  omega

theorem follows_restart {n : Nat} (h : n ≤ c.rest.length) : (c.restart n).Follows c := by
  refine ⟨Nat.le_add_right _ _, ?_⟩
  simp only [restart, List.length_drop]
  omega

theorem follows_of_skipQuoteMark (h : c.skipQuoteMark = some c') : c'.Follows c := by
  unfold skipQuoteMark at h
  split at h
  · rename_i hrest
    cases h
    exact (follows_advance (by simp [hrest])).trans (follows_skipColumns 1 _)
  · cases h

theorem follows_of_skipIndent {indent : Nat} (h : c.skipIndent indent = some c') :
    c'.Follows c := by
  unfold skipIndent at h
  simp only at h
  split at h
  · cases h
    exact follows_skipColumns indent c
  · cases h

theorem follows_of_enter {k : Container} (h : k.enter c = some c') : c'.Follows c := by
  cases k with
  | quote => exact (follows_skipColumns 3 c).trans (follows_of_skipQuoteMark h)
  | list =>
    cases h
    exact .refl c
  | item | footnote => exact follows_of_skipIndent h

theorem follows_enterAll (ks : List Container) (c : Cursor) : (enterAll ks c).2.Follows c := by
  induction ks generalizing c with
  | nil => exact .refl c
  | cons k ks ih =>
    unfold enterAll
    split
    · exact .refl c
    · rename_i c' h
      exact (follows_of_enter h).trans (ih c')

theorem length_listMark {cs rest : List Char} {marker : Char} {n : Nat}
    (h : listMark cs = some (marker, n, rest)) : rest.length ≤ cs.length := by
  unfold listMark at h
  split at h
  · cases h
  · split at h
    · cases h
      simp
    · simp only at h
      split at h
      · rename_i hdrop
        split at h
        · cases h
          have := congrArg List.length hdrop
          simp only [List.length_drop, List.length_cons] at this
          simp only [List.length_cons]
          omega
        · cases h
      · cases h

theorem follows_of_length_le {rest : List Char} (h : rest.length ≤ c.rest.length) :
    Follows ⟨rest, c.offset + (c.rest.length - rest.length),
      c.passed + (c.rest.length - rest.length), c.tabStart, c.pending⟩ c := by
  refine ⟨Nat.le_add_right _ _, ?_⟩
  simp only
  omega

theorem follows_of_skipListMark {outer indent : Nat} {marker : Char}
    (h : c.skipListMark outer = some (marker, indent, c')) : c'.Follows c := by
  unfold skipListMark at h
  split at h
  · cases h
  · split at h
    · cases h
    · rename_i rest hmark
      have hlength := length_listMark hmark
      have hspaced := (follows_of_length_le hlength).trans (follows_skipColumns 1 _)
      simp only at h
      split at h
      · cases h
      · split at h
        · cases h
          exact hspaced
        · split at h
          · cases h
            exact hspaced
          · cases h
            exact hspaced.trans (follows_skipColumns 4 _)

/-- Behind the box of a task. -/
theorem follows_advance_three {x y z : Char} {rest : List Char} (h : c.rest = x :: y :: z :: rest) :
    c.advance.advance.advance.Follows c := by
  refine ⟨by simp only [advance]; omega, ?_⟩
  simp only [advance, h, List.drop_succ_cons, List.drop_zero, List.length_cons]
  omega

theorem follows_skipTaskMark (c : Cursor) : c.skipTaskMark.Follows c := by
  have hinner := follows_skipColumns 3 c
  unfold skipTaskMark
  simp only
  generalize (c.skipColumns 3).2 = inner at hinner ⊢
  split
  · rename_i hrest
    split
    · exact hinner.trans (follows_advance_three hrest)
    · exact .refl c
  · rename_i hrest
    split
    · exact hinner.trans (follows_advance_three hrest)
    · exact .refl c
  · exact .refl c

end Cursor

/-! ## Open containers -/

/-- Where the headings in open containers start, listed from the outside in. -/
def frameHeadingStarts : List Frame → List Nat
  | [] => []
  | f :: fs => frameHeadingStarts fs ++ headingStartsOf f.blocks.reverse

theorem Frame.headingStarts_close (f : Frame) (stop : Nat) :
    (f.close stop).headingStarts = headingStartsOf f.blocks.reverse := by
  unfold Frame.close
  split <;> rfl

namespace State

/-- Where the headings read so far start, in their order. -/
def headingStarts (s : State) : List Nat :=
  headingStartsOf s.blocks.reverse ++ frameHeadingStarts s.frames

theorem headingStarts_add (s : State) (b : Block) :
    (s.add b).headingStarts = s.headingStarts ++ b.headingStarts := by
  unfold add
  split <;> simp [headingStarts, frameHeadingStarts, headingStartsOf, *]

/-- Closing a container leaves its headings where they are. -/
@[simp] theorem headingStarts_close (s : State) (stop : Nat) :
    (s.close stop).headingStarts = s.headingStarts := by
  unfold close
  split
  · rfl
  · rename_i f fs hframes
    have hadd : (({ s with frames := fs } : State).add (f.close stop)).headingStarts =
        s.headingStarts := by
      rw [headingStarts_add, f.headingStarts_close]
      simp [headingStarts, hframes, frameHeadingStarts]
    simp only
    split <;> exact hadd

@[simp] theorem headingStarts_closeMany (s : State) (stop n : Nat) :
    (s.closeMany stop n).headingStarts = s.headingStarts := by
  induction n generalizing s with
  | zero => rfl
  | succ n ih => rw [closeMany, ih, headingStarts_close]

@[simp] theorem headingStarts_push (s : State) (k : Container) (start : Nat) :
    (s.push k start).headingStarts = s.headingStarts := by
  simp [headingStarts, push, frameHeadingStarts, headingStartsOf]

@[simp] theorem headingStarts_loosenOuter (s : State) :
    s.loosenOuter.headingStarts = s.headingStarts := by
  unfold loosenOuter
  split
  · split <;> simp [headingStarts, frameHeadingStarts, *]
  · rfl

@[simp] theorem headingStarts_finishEmptyItem (s : State) :
    s.finishEmptyItem.headingStarts = s.headingStarts := by
  unfold finishEmptyItem
  split
  · exact headingStarts_close ..
  · rfl

@[simp] theorem headingStarts_finishList (s : State) (stop : Nat) :
    (s.finishList stop).headingStarts = s.headingStarts := by
  have hclosed : ∀ s' : State, s'.headingStarts = s.headingStarts →
      (if s'.lastBlank then { s'.loosenOuter with lastBlank := false } else s').headingStarts =
        s.headingStarts := fun s' h => by
    split
    · exact (headingStarts_loosenOuter s').trans h
    · exact h
  refine hclosed _ ?_
  split
  · rw [headingStarts_close, headingStarts_finishEmptyItem]
  · exact headingStarts_finishEmptyItem s

@[simp] theorem headingStarts_continueList (s : State) (start : Nat) (marker : Char) :
    (s.continueList start marker).headingStarts = s.headingStarts := by
  have hfresh : ∀ s' : State, s'.headingStarts = s.headingStarts →
      (if (s'.push (.list true marker) start).lastBlank then
        (s'.push (.list true marker) start).loosenOuter
      else s'.push (.list true marker) start).headingStarts = s.headingStarts := fun s' h => by
    split <;> simpa using h
  unfold continueList
  simp only
  split
  · rename_i hframes
    split
    · rw [← headingStarts_finishEmptyItem s]
      simp [headingStarts, hframes, frameHeadingStarts]
    · exact hfresh _ (by simp)
  · exact hfresh _ (by simp)
  · exact hfresh _ (by simp)

@[simp] theorem headingStarts_takeBlank (s : State) :
    s.takeBlank.headingStarts = s.headingStarts := by
  unfold takeBlank
  split <;> simp [headingStarts, frameHeadingStarts, *]

end State

/-- Opening containers adds no headings, and what is left of the line is a later part of it. -/
theorem openContainers_spec (l : Line) (fuel : Nat) (s : State) (c : Cursor) :
    (openContainers l fuel s c).1.headingStarts = s.headingStarts ∧
      ∀ c', (openContainers l fuel s c).2 = some c' → c'.Follows c := by
  induction fuel generalizing s c with
  | zero => exact ⟨rfl, fun c' h => Option.some.inj h ▸ .refl c⟩
  | succ fuel ih =>
    have hinner := c.follows_skipColumns 4
    have hstay : s.headingStarts = s.headingStarts ∧ ∀ c', some c = some c' → c'.Follows c :=
      ⟨rfl, fun c' h => Option.some.inj h ▸ .refl c⟩
    have hon : ∀ (s' : State) (c' : Cursor), s'.headingStarts = s.headingStarts → c'.Follows c →
        (openContainers l fuel s' c').1.headingStarts = s.headingStarts ∧
          ∀ c'', (openContainers l fuel s' c').2 = some c'' → c''.Follows c :=
      fun s' c' hs hc => ⟨(ih s' c').1.trans hs, fun c'' h => hc.trans ((ih s' c').2 c'' h)⟩
    unfold openContainers
    simp only
    generalize (c.skipColumns 4).2 = inner at hinner ⊢
    split
    · exact hstay
    · split
      · refine hon _ _ ?_ (hinner.trans (Cursor.follows_restart (Nat.sub_le _ _)))
        rw [State.headingStarts_push]
        split
        · exact (State.headingStarts_close ..).trans (State.headingStarts_finishList ..)
        · exact State.headingStarts_finishList ..
      · split
        · rename_i marker indent behind hmark
          have hbehind := hinner.trans (Cursor.follows_of_skipListMark hmark)
          have hstarts : ((s.continueList inner.offset marker).push (.item indent)
              inner.offset).headingStarts = s.headingStarts := by simp
          split
          · exact ⟨hstarts, fun c' h => nomatch h⟩
          · split
            · exact ⟨hstarts, fun c' h => nomatch h⟩
            · exact hon _ _ hstarts (hbehind.trans (Cursor.follows_skipTaskMark behind))
        · split
          · rename_i hquote
            exact hon _ _ (by simp) (hinner.trans (Cursor.follows_of_skipQuoteMark hquote))
          · exact hstay

/-! ## Leaves -/

/-! What is left behind a leaf is the end of the lines that were left in front of it. -/

section Behind

variable (source : Array Char) (ks : List Container) (ls : List Line)

theorem suffix_afterFence (indent : Nat) (mark : Char) (count : Nat) :
    afterFence ks indent mark count ls <:+ ls := by
  induction ls with
  | nil => exact List.suffix_refl _
  | cons l ls ih =>
    simp only [afterFence]
    split
    · exact List.suffix_refl _
    · split
      · exact List.suffix_cons ..
      · exact ih.trans (List.suffix_cons ..)

theorem suffix_afterIndented (lastBlank : Bool) : (afterIndented ks lastBlank ls).2 <:+ ls := by
  induction ls generalizing lastBlank with
  | nil => exact List.suffix_refl _
  | cons l ls ih =>
    simp only [afterIndented]
    split
    · exact (ih _).trans (List.suffix_cons ..)
    · exact List.suffix_refl _

theorem suffix_afterMarked (mark text : List Char) : afterMarked ks mark text ls <:+ ls := by
  induction ls generalizing text with
  | nil => exact List.suffix_refl _
  | cons l ls ih =>
    simp only [afterMarked]
    split
    · exact List.suffix_refl _
    · exact (ih _).trans (List.suffix_cons ..)

theorem suffix_afterElement : afterElement ks ls <:+ ls := by
  induction ls with
  | nil => exact List.suffix_refl _
  | cons l ls ih =>
    simp only [afterElement]
    split
    · exact List.suffix_refl _
    · exact ih.trans (List.suffix_cons ..)

theorem suffix_afterMetadata : afterMetadata ks ls <:+ ls := by
  induction ls with
  | nil => exact List.suffix_refl _
  | cons l ls ih =>
    simp only [afterMetadata]
    split
    · exact List.suffix_refl _
    · split
      · exact List.suffix_cons ..
      · exact ih.trans (List.suffix_cons ..)

theorem suffix_tableRows (columns : Nat) : (tableRows source ks columns ls).2 <:+ ls := by
  induction ls with
  | nil => exact List.suffix_refl _
  | cons l ls ih =>
    simp only [tableRows]
    split
    · exact List.suffix_refl _
    · exact ih.trans (List.suffix_cons ..)

theorem suffix_gather (l : Line) (c : Cursor) : (gather source ks l c ls).rest <:+ ls := by
  fun_induction gather source ks l c ls with
  | case1 | case3 => exact List.suffix_refl _
  | case2 => exact List.suffix_cons ..
  | case4 =>
    rename_i ih
    exact ih.trans (List.suffix_cons ..)

end Behind

/-- What a line adds to the headings read so far: nothing, or one heading that starts in it. -/
def State.Adds (s' s : State) (l : Line) : Prop :=
  ∃ new, s'.headingStarts = s.headingStarts ++ new ∧
    (new = [] ∨ ∃ start, new = [start] ∧ l.start ≤ start ∧ start ≤ l.stop)

variable {source : Array Char} {s s' : State} {l : Line} {c : Cursor} {ls : List Line}

theorem State.adds_of_eq (h : s'.headingStarts = s.headingStarts) : s'.Adds s l :=
  ⟨[], by rw [h, List.append_nil], .inl rfl⟩

theorem State.adds_add {b : Block} (h : b.headingStarts = []) : (s.add b).Adds s l :=
  State.adds_of_eq (by rw [State.headingStarts_add, h, List.append_nil])

theorem State.adds_heading {b : Block} {start : Nat} (h : b.headingStarts = [start])
    (hle : l.start ≤ start) (hstop : start ≤ l.stop) : (s.add b).Adds s l :=
  ⟨[start], by rw [State.headingStarts_add, h], .inr ⟨start, rfl, hle, hstop⟩⟩

/-- A leaf adds at most one heading, which starts in its first line, and uses up lines from the
front. -/
theorem takeLeaf_spec (source : Array Char) (s : State) (hle : l.start ≤ c.offset)
    (hstop : c.offset + c.rest.length ≤ l.stop) (ls : List Line) :
    (takeLeaf source s l c ls).1.Adds s l ∧ (takeLeaf source s l c ls).2 <:+ ls := by
  have hinner := c.follows_skipColumns 4
  have hstart : l.start ≤ (c.skipColumns 4).2.offset := Nat.le_trans hle hinner.le
  have hend : (c.skipColumns 4).2.offset ≤ l.stop := by
    have := hinner.stop_eq
    omega
  unfold takeLeaf
  simp only
  generalize (c.skipColumns 4).2 = inner at hinner hstart hend ⊢
  -- one case for each kind of leaf, in the order in which they are tried
  split
  · exact ⟨State.adds_add rfl, suffix_afterIndented ..⟩
  · split
    · exact ⟨State.adds_add rfl, suffix_afterMetadata ..⟩
    · split
      · rename_i hhtml
        refine ⟨State.adds_add rfl, ?_⟩
        split at hhtml
        · split at hhtml
          · cases hhtml
            exact suffix_afterMarked ..
          · split at hhtml
            · cases hhtml
              exact suffix_afterElement ..
            · cases hhtml
        · cases hhtml
      · split
        · exact ⟨State.adds_add rfl, List.suffix_refl _⟩
        · split
          · exact ⟨State.adds_heading rfl hstart hend, List.suffix_refl _⟩
          · split
            · exact ⟨State.adds_add rfl, suffix_afterFence ..⟩
            · split
              · exact ⟨State.adds_of_eq rfl, List.dropWhile_suffix _⟩
              · split
                · exact ⟨State.adds_add rfl,
                    (suffix_tableRows ..).trans (List.drop_suffix 1 ls)⟩
                · refine ⟨?_, suffix_gather ..⟩
                  split
                  · exact State.adds_heading rfl hstart hend
                  · exact State.adds_add rfl

/-! ## Lines -/

/-- Lines that stand behind each other. -/
structure AreLines (ls : List Line) : Prop where
  text_le : ∀ l ∈ ls, l.start + l.text.length ≤ l.stop
  ordered : ls.Pairwise fun l l' => l.stop ≤ l'.start

theorem AreLines.of_suffix {ls' : List Line} (h : AreLines ls) (hsuffix : ls' <:+ ls) :
    AreLines ls' :=
  ⟨fun l hl => h.text_le l (hsuffix.subset hl), h.ordered.sublist hsuffix.sublist⟩

theorem le_of_mem_linesFrom {start pos : Nat} {begun cs : List Char} (hpos : start ≤ pos)
    (hl : l ∈ linesFrom start pos begun cs) : start ≤ l.start := by
  fun_induction linesFrom start pos begun cs with
  | case1 => cases hl
  | case2 =>
    rw [List.mem_singleton.1 hl]
  | case3 start pos begun cs ih =>
    rcases List.mem_cons.1 hl with rfl | hl
    · exact Nat.le_refl _
    · exact Nat.le_trans (by omega) (ih (Nat.le_refl _) hl)
  | case4 start pos begun cs c _ _ ih =>
    rcases List.mem_cons.1 hl with rfl | hl
    · exact Nat.le_refl _
    · exact Nat.le_trans (by omega) (ih (Nat.le_refl _) hl)
  | case5 start pos begun cs c _ _ ih => exact ih (by omega) hl

theorem AreLines.cons (h : AreLines ls) (htext : l.start + l.text.length ≤ l.stop)
    (hbehind : ∀ l' ∈ ls, l.stop ≤ l'.start) : AreLines (l :: ls) :=
  ⟨List.forall_mem_cons.2 ⟨htext, h.text_le⟩, List.pairwise_cons.2 ⟨hbehind, h.ordered⟩⟩

theorem areLines_linesFrom {start pos : Nat} {begun : List Char}
    (h : start + begun.length = pos) (cs : List Char) :
    AreLines (linesFrom start pos begun cs) := by
  have hnil : AreLines [] := ⟨List.forall_mem_nil _, .nil⟩
  fun_induction linesFrom start pos begun cs with
  | case1 => exact hnil
  | case2 => exact hnil.cons (by simp [h]) fun _ h => nomatch h
  | case3 start pos begun cs ih =>
    exact (ih rfl).cons (by simp; omega) fun l' => le_of_mem_linesFrom (Nat.le_refl _)
  | case4 start pos begun cs c _ _ ih =>
    exact (ih rfl).cons (by simp; omega) fun l' => le_of_mem_linesFrom (Nat.le_refl _)
  | case5 start pos begun cs c _ _ ih => exact ih (by rw [List.length_cons]; omega)

/-- So does a line. -/
theorem takeLine_spec (source : Array Char) (s : State)
    (htext : l.start + l.text.length ≤ l.stop) (ls : List Line) :
    (takeLine source s l ls).1.Adds s l ∧ (takeLine source s l ls).2 <:+ ls := by
  have henter := l.cursor.follows_enterAll s.containers
  unfold takeLine
  simp only
  generalize enterAll s.containers l.cursor = entered at henter ⊢
  obtain ⟨hstarts, hfollows⟩ := openContainers_spec l (entered.2.rest.length + 1)
    (s.closeMany l.start (s.frames.length - entered.1)) entered.2
  rw [State.headingStarts_closeMany] at hstarts
  split
  · exact ⟨State.adds_of_eq hstarts, List.suffix_refl _⟩
  · rename_i c hc
    split
    · exact ⟨State.adds_of_eq ((State.headingStarts_takeBlank _).trans hstarts),
        List.suffix_refl _⟩
    · have hline := henter.trans (hfollows c hc)
      have hstop : c.offset + c.rest.length ≤ l.stop := by
        rw [hline.stop_eq]
        exact htext
      obtain ⟨⟨new, hnew, hadds⟩, hsuffix⟩ := takeLeaf_spec source
        ((openContainers l (entered.2.rest.length + 1)
          (s.closeMany l.start (s.frames.length - entered.1)) entered.2).1.finishList l.start)
        hline.le hstop ls
      refine ⟨⟨new, ?_, hadds⟩, hsuffix⟩
      rw [hnew, State.headingStarts_finishList, hstarts]

/-- The headings read so far are in order, and stand in front of the lines that are left. -/
structure InOrder (s : State) (ls : List Line) : Prop where
  ordered : s.headingStarts.Pairwise (· ≤ ·)
  le_start : ∀ start ∈ s.headingStarts, ∀ l ∈ ls, start ≤ l.start

theorem InOrder.takeLine (h : InOrder s (l :: ls)) (hls : AreLines (l :: ls)) :
    InOrder (takeLine source s l ls).1 (takeLine source s l ls).2 := by
  obtain ⟨⟨new, hnew, hadds⟩, hsuffix⟩ :=
    takeLine_spec source s (hls.text_le l List.mem_cons_self) ls
  have hbehind : ∀ l' ∈ ls, l.stop ≤ l'.start := (List.pairwise_cons.1 hls.ordered).1
  constructor
  · rw [hnew, List.pairwise_append]
    refine ⟨h.ordered, ?_, fun start hstart start' hstart' => ?_⟩
    · rcases hadds with rfl | ⟨start, rfl, -, -⟩
      · exact .nil
      · exact List.pairwise_singleton ..
    · rcases hadds with rfl | ⟨start'', rfl, hle, -⟩
      · cases hstart'
      · rw [List.mem_singleton.1 hstart']
        exact Nat.le_trans (h.le_start start hstart l List.mem_cons_self) hle
  · intro start hstart l' hl'
    have hmem : l' ∈ ls := hsuffix.subset hl'
    rw [hnew] at hstart
    rcases List.mem_append.1 hstart with hstart | hstart
    · exact h.le_start start hstart l' (List.mem_cons_of_mem _ hmem)
    · rcases hadds with rfl | ⟨start', rfl, -, hle⟩
      · cases hstart
      · rw [List.mem_singleton.1 hstart]
        exact Nat.le_trans hle (hbehind l' hmem)

theorem InOrder.takeLines (fuel : Nat) (h : InOrder s ls) (hls : AreLines ls) :
    (takeLines source fuel s ls).headingStarts.Pairwise (· ≤ ·) := by
  induction fuel generalizing s ls with
  | zero => exact h.ordered
  | succ fuel ih =>
    cases ls with
    | nil => exact h.ordered
    | cons l ls =>
      have hsuffix := (takeLine_spec source s (hls.text_le l List.mem_cons_self) ls).2
      exact ih (h.takeLine hls) (hls.of_suffix (hsuffix.trans (List.suffix_cons l ls)))

namespace State

theorem length_frames_add (s : State) (b : Block) : (s.add b).frames.length = s.frames.length := by
  unfold add
  split <;> simp [*]

theorem length_frames_close (s : State) (stop : Nat) :
    (s.close stop).frames.length = s.frames.length - 1 := by
  unfold close
  split
  · simp [*]
  · rename_i f fs hframes
    have hadd : (({ s with frames := fs } : State).add (f.close stop)).frames.length =
        s.frames.length - 1 := by
      rw [length_frames_add, hframes]
      rfl
    simp only
    split <;> exact hadd

theorem frames_closeMany {n : Nat} (h : s.frames.length ≤ n) (stop : Nat) :
    (s.closeMany stop n).frames = [] := by
  induction n generalizing s with
  | zero => exact List.length_eq_zero_iff.1 (Nat.le_zero.1 h)
  | succ n ih => exact ih (by rw [length_frames_close]; omega)

end State

/-- **The headings of a text are met in the order in which they stand in it.** -/
theorem pairwise_headingStarts_events (source : Array Char) :
    (headingStarts (events source)).Pairwise (· ≤ ·) := by
  have hlines : AreLines (lines source.toList) :=
    areLines_linesFrom (show 0 + ([] : List Char).length = 0 from rfl) _
  generalize hs : takeLines source (lines source.toList).length {} (lines source.toList) = s
  have hread : s.headingStarts.Pairwise (· ≤ ·) :=
    hs ▸ InOrder.takeLines _ ⟨.nil, List.forall_mem_nil _⟩ hlines
  have hclosed : headingStartsOf (s.closeMany source.size s.frames.length).blocks.reverse =
      s.headingStarts := by
    rw [← s.headingStarts_closeMany source.size s.frames.length, State.headingStarts,
      State.frames_closeMany (Nat.le_refl _), frameHeadingStarts, List.append_nil]
  rw [events, headingStarts_blocksEvents, Document.ofText, hs, hclosed]
  exact hread

end Gazetteer.Markdown
