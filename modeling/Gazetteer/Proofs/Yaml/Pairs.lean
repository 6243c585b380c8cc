import Gazetteer.Yaml.Reader
import Mathlib.Data.List.Basic

/-!
# The pairs of a mapping

A mapping is read pair by pair, and what follows a pair makes no difference to it: where the mapping
could end, another key can stand (`framed_readBlockPairs`).
-/

namespace Gazetteer.Yaml

variable {Z ts ts' us : List Token} {α β : Type} {n m d : Nat}

/-- What follows a pair of a block mapping: its end or another key. -/
def FollowsPair (Z : List Token) : Prop := ∃ ts, Z = .blockEnd :: ts ∨ Z = .key :: ts

/-- The same tokens, with others in the place of the end of the mapping behind them. -/
inductive Frame (Z : List Token) : List Token → List Token → Prop
  | last : Frame Z [.blockEnd] Z
  | cons (t : Token) {ts ts' : List Token} (h : Frame Z ts ts') : Frame Z (t :: ts) (t :: ts')

/-- What is read with something left of the tokens is read in the same way with others behind
them. -/
def Framed (Z : List Token) (x y : Option (α × Input)) : Prop :=
  ∀ a i, x = some (a, i) → i.tokens ≠ [] →
    ∃ ts, Frame Z i.tokens ts ∧ y = some (a, { i with tokens := ts })

theorem framed_none (y : Option (α × Input)) : Framed Z none y := by
  intro a i h
  cases h

theorem framed_of_none {x y : Option (α × Input)} (h : x = none) : Framed Z x y :=
  h ▸ framed_none _

theorem framed_some (a : α) {anchors : List (String × Node)} (h : Frame Z ts ts') :
    Framed Z (some (a, ⟨ts, anchors⟩)) (some (a, ⟨ts', anchors⟩)) := by
  intro a' i hi hne
  obtain ⟨rfl, rfl⟩ := Prod.mk.inj (Option.some.inj hi)
  exact ⟨ts', h, rfl⟩

/-- Nothing is said about what takes in all tokens. -/
theorem framed_some_nil (a : α) (anchors : List (String × Node)) (y : Option (α × Input)) :
    Framed Z (some (a, ⟨[], anchors⟩)) y := by
  intro a' i hi hne
  obtain ⟨rfl, rfl⟩ := Prod.mk.inj (Option.some.inj hi)
  exact absurd rfl hne

/-- One reader behind another. -/
theorem Framed.bind {x y : Option (α × Input)} {f g : α × Input → Option (β × Input)}
    (h : Framed Z x y)
    (hfg : ∀ a ts ts' anchors, Frame Z ts ts' →
      Framed Z (f (a, ⟨ts, anchors⟩)) (g (a, ⟨ts', anchors⟩)))
    (hnil : ∀ a anchors b i, f (a, ⟨[], anchors⟩) = some (b, i) → i.tokens = []) :
    Framed Z (x.bind f) (y.bind g) := by
  intro b j hj hne
  obtain ⟨⟨a, i⟩, hx, hf⟩ := Option.bind_eq_some_iff.1 hj
  have htokens : i.tokens ≠ [] := by
    intro hi
    obtain ⟨ts, anchors⟩ := i
    obtain rfl : ts = [] := hi
    exact hne (hnil a anchors b j hf)
  obtain ⟨ts, hts, hy⟩ := h a i hx htokens
  rw [hy, Option.bind_some]
  exact hfg a i.tokens ts i.anchors hts b j hf hne

/-- What happens to the anchors makes no difference to the tokens. -/
theorem Framed.map {x y : Option (α × Input)} (h : Framed Z x y) (f : α → β)
    (g : α → List (String × Node) → List (String × Node)) :
    Framed Z (x.map fun (a, i) => (f a, { i with anchors := g a i.anchors }))
      (y.map fun (a, i) => (f a, { i with anchors := g a i.anchors })) := by
  intro b j hj hne
  obtain ⟨⟨a, i⟩, hx, hj⟩ := Option.map_eq_some_iff.1 hj
  obtain ⟨rfl, rfl⟩ := Prod.mk.inj hj
  obtain ⟨ts, hts, hy⟩ := h a i hx hne
  exact ⟨ts, hts, by rw [hy]; rfl⟩

section Looking

variable (hZ : FollowsPair Z) (h : Frame Z ts ts')
include hZ h

/-- A test of the first token that does not tell the end of a mapping from a key. -/
theorem ends_frame (ends : List Token → Bool)
    (hfirst : ∀ t us us', ends (t :: us) = ends (t :: us'))
    (hsame : ends [.blockEnd] = ends [.key]) : ends ts = ends ts' := by
  cases h with
  | last =>
    obtain ⟨us, rfl | rfl⟩ := hZ
    · exact hfirst ..
    · exact hsame.trans (hfirst ..)
  | cons t h => exact hfirst ..

theorem endsBlockPart_frame : endsBlockPart ts = endsBlockPart ts' :=
  ends_frame hZ h endsBlockPart (fun t _ _ => by cases t <;> rfl) rfl

theorem endsFlowItem_frame : endsFlowItem ts = endsFlowItem ts' :=
  ends_frame hZ h endsFlowItem (fun t _ _ => by cases t <;> rfl) rfl

theorem endsFlowPair_frame : endsFlowPair ts = endsFlowPair ts' :=
  ends_frame hZ h endsFlowPair (fun t _ _ => by cases t <;> rfl) rfl

theorem endsLooseItem_frame : (endsBlockItem ts || endsBlockPart ts) =
    (endsBlockItem ts' || endsBlockPart ts') :=
  ends_frame hZ h (fun ts => endsBlockItem ts || endsBlockPart ts)
    (fun t _ _ => by cases t <;> rfl) rfl

theorem readProperties_frame : (readProperties ts).1 = (readProperties ts').1 ∧
    Frame Z (readProperties ts).2 (readProperties ts').2 := by
  cases h with
  | last =>
    obtain ⟨us, rfl | rfl⟩ := hZ <;> exact ⟨rfl, .last⟩
  | cons t h =>
    cases h with
    | last =>
      obtain ⟨us, rfl | rfl⟩ := hZ <;> cases t <;>
        exact ⟨rfl, by first | exact .last | exact .cons _ .last⟩
    | cons t' h =>
      cases t <;> cases t' <;>
        exact ⟨rfl, by first | exact h | exact .cons _ h | exact .cons _ (.cons _ h)⟩

end Looking

/-! ## The readers, step by step -/

/-- A node that has been read gets its anchor. -/
def Properties.named (p : Properties) (r : Option (Node × Input)) : Option (Node × Input) :=
  r.map fun (n, i) => (n, i.define p n)

def Properties.collection (p : Properties) (r : Option (Json × Input)) : Option (Node × Input) :=
  if p.fitCollection then p.named (r.map fun (j, i) => (⟨j, none⟩, i)) else none

/-- A node that is nothing but its anchor and its tag. -/
def Properties.bare (p : Properties) (i : Input) : Option (Node × Input) :=
  if p.anchor.isSome || p.tag.isSome then p.named ((scalarNode p "" true).map (·, i)) else none

/-- Read a node behind its anchor and its tag. -/
def readBody (fuel depth : Nat) (block loose : Bool) (p : Properties) (i : Input) :
    Option (Node × Input) :=
  match i.tokens with
  | .blockEntry :: _ => if loose then p.collection (readLoose fuel depth [] i) else p.bare i
  | .scalar text plain :: ts =>
    p.named ((scalarNode p text plain).map (·, { i with tokens := ts }))
  | .flowSequenceStart :: ts =>
    p.collection (readFlowItems fuel depth true [] { i with tokens := ts })
  | .flowMappingStart :: ts =>
    p.collection (readFlowPairs fuel depth true [] { i with tokens := ts })
  | .blockSequenceStart :: ts =>
    if block then p.collection (readBlockItems fuel depth [] { i with tokens := ts }) else none
  | .blockMappingStart :: ts =>
    if block then p.collection (readBlockPairs fuel depth [] { i with tokens := ts }) else none
  | _ => p.bare i

theorem readNode_succ (fuel depth : Nat) (block loose : Bool) (i : Input) :
    readNode (fuel + 1) (depth + 1) block loose i =
      match i.tokens with
      | .alias a :: ts =>
        ((i.anchors.find? (·.1 == a)).map (·.2)).map fun n => (n, { i with tokens := ts })
      | ts => readBody fuel depth block loose (readProperties ts).1
          { i with tokens := (readProperties ts).2 } := by
  rw [readNode]
  obtain ⟨tokens, anchors⟩ := i
  cases tokens with
  | nil => rfl
  | cons t ts =>
    cases t <;> try rfl
    exact Option.map_eq_bind.symm

/-- Read a node, or find that it is missing. -/
def orMissing (ends : Bool) (read : Input → Option (Node × Input)) (i : Input) :
    Option (Node × Input) :=
  if ends then some (missing, i) else read i

theorem readLoose_succ (fuel depth : Nat) (items : List Json) (i : Input) :
    readLoose (fuel + 1) depth items i =
      match i.tokens with
      | .blockEntry :: ts =>
        (orMissing (endsBlockItem ts || endsBlockPart ts) (readNode fuel depth true false)
          { i with tokens := ts }).bind fun (n, i) => readLoose fuel depth (n.value :: items) i
      | _ => some (.arr items.reverse, i) := by
  rw [readLoose]
  obtain ⟨tokens, anchors⟩ := i
  cases tokens with
  | nil => rfl
  | cons t ts =>
    cases t with
    | blockEntry =>
      simp only [orMissing]
      split
      · rfl
      · cases readNode fuel depth true false ⟨ts, anchors⟩ <;> rfl
    | _ => rfl

theorem readBlockItems_succ (fuel depth : Nat) (items : List Json) (i : Input) :
    readBlockItems (fuel + 1) depth items i =
      match i.tokens with
      | .blockEntry :: ts =>
        (orMissing (endsBlockItem ts) (readNode fuel depth true false)
          { i with tokens := ts }).bind fun (n, i) => readBlockItems fuel depth (n.value :: items) i
      | .blockEnd :: ts => some (.arr items.reverse, { i with tokens := ts })
      | _ => none := by
  rw [readBlockItems]
  obtain ⟨tokens, anchors⟩ := i
  cases tokens with
  | nil => rfl
  | cons t ts =>
    cases t with
    | blockEntry =>
      simp only [orMissing]
      split
      · rfl
      · cases readNode fuel depth true false ⟨ts, anchors⟩ <;> rfl
    | _ => rfl

/-- Read the key of a pair of a block mapping. -/
def blockKey (fuel depth : Nat) (i : Input) : Option (Node × Input) :=
  match i.tokens with
  | .key :: ts =>
    orMissing (endsBlockPart ts) (readNode fuel depth true true) { i with tokens := ts }
  | .value :: _ => some (missing, i)
  | _ => none

/-- Read the value of a pair, up to what ends it. -/
def valueUpTo (ends : List Token → Bool) (read : Input → Option (Node × Input)) (i : Input) :
    Option (Node × Input) :=
  match i.tokens with
  | .value :: ts => orMissing (ends ts) read { i with tokens := ts }
  | _ => some (missing, i)

/-- Go on with a pair that has been read. -/
def afterPair {α : Type} (k : Option (Node × Input)) (v : Input → Option (Node × Input))
    (next : String → Json → Input → Option α) : Option α :=
  k.bind fun (k, i) => (v i).bind fun (v, i) => k.text.bind fun key => next key v.value i

theorem afterPair_eq {α : Type} (k : Option (Node × Input)) (v : Input → Option (Node × Input))
    (next : String → Json → Input → Option α) : afterPair k v next =
      match k with
      | none => none
      | some (k, i) =>
        match k.text, v i with
        | some key, some (v, i) => next key v.value i
        | _, _ => none := by
  unfold afterPair
  cases k with
  | none => rfl
  | some r =>
    obtain ⟨k, i⟩ := r
    simp only [Option.bind_some]
    cases v i with
    | none => cases k.text <;> rfl
    | some r => cases k.text <;> rfl

theorem readBlockPairs_succ (fuel depth : Nat) (fields : List (String × Json)) (i : Input) :
    readBlockPairs (fuel + 1) depth fields i =
      match i.tokens with
      | .blockEnd :: ts => some (.obj fields, { i with tokens := ts })
      | _ => afterPair (blockKey fuel depth i)
        (valueUpTo endsBlockPart (readNode fuel depth true true)) fun key v i =>
        readBlockPairs fuel depth (Entries.insert key v fields) i := by
  rw [readBlockPairs]
  simp only [afterPair_eq]
  obtain ⟨tokens, anchors⟩ := i
  cases tokens with
  | nil => rfl
  | cons t ts => cases t <;> rfl

/-- Behind the comma in front of an entry of a flow collection, if one is due. -/
def behindComma (first : Bool) (ts : List Token) : Option (List Token) :=
  match first, ts with
  | true, ts => some ts
  | false, .flowEntry :: ts => some ts
  | false, _ => none

/-- Read the key of a pair in a flow collection, behind its mark. -/
def flowKey (ends : List Token → Bool) (read : Input → Option (Node × Input)) (i : Input) :
    Option (Node × Input) :=
  match i.tokens with
  | .value :: _ => some (missing, i)
  | ts => orMissing (ends ts) read i

/-- Read an entry of a flow sequence, behind the comma, and those that follow. -/
def flowItem (fuel depth : Nat) (items : List Json) (i : Input) : Option (Json × Input) :=
  match i.tokens with
  | .flowSequenceEnd :: ts => some (.arr items.reverse, { i with tokens := ts })
  | .key :: ts =>
    afterPair (flowKey endsFlowItem (readNode fuel depth false false) { i with tokens := ts })
      (valueUpTo endsFlowItem (readNode fuel depth false false))
      fun key v i => readFlowItems fuel depth false (.obj [(key, v)] :: items) i
  | _ =>
    match readNode fuel depth false false i with
    | some (n, i) => readFlowItems fuel depth false (n.value :: items) i
    | none => none

theorem readFlowItems_succ (fuel depth : Nat) (first : Bool) (items : List Json) (i : Input) :
    readFlowItems (fuel + 1) depth first items i =
      match i.tokens with
      | .flowSequenceEnd :: ts => some (.arr items.reverse, { i with tokens := ts })
      | ts => (behindComma first ts).bind fun ts =>
        flowItem fuel depth items { i with tokens := ts } := by
  rw [readFlowItems]
  simp only [flowItem, afterPair_eq]
  obtain ⟨tokens, anchors⟩ := i
  cases tokens with
  | nil => cases first <;> rfl
  | cons t ts =>
    cases first with
    | true =>
      cases t <;> try rfl
      cases ts with
      | nil => rfl
      | cons t ts => cases t <;> rfl
    | false =>
      cases t <;> try rfl
      cases ts with
      | nil => rfl
      | cons t ts =>
        cases t <;> try rfl
        cases ts with
        | nil => rfl
        | cons t ts => cases t <;> rfl

/-- Read the key of a pair of a flow mapping. -/
def pairKey (fuel depth : Nat) (i : Input) : Option (Node × Input) :=
  match i.tokens with
  | .key :: ts => flowKey endsFlowPair (readNode fuel depth false false) { i with tokens := ts }
  | _ => readNode fuel depth false false i

/-- Read the value of a pair of a flow mapping, given its tokens; only behind a mark a key has
one. -/
def pairValue (fuel depth : Nat) (pair : List Token) (i : Input) : Option (Node × Input) :=
  match pair, i.tokens with
  | .key :: _, .value :: ts =>
    orMissing (endsFlowPair ts) (readNode fuel depth false false) { i with tokens := ts }
  | _, _ => some (missing, i)

/-- Read a pair of a flow mapping, behind the comma, and those that follow. -/
def flowPair (fuel depth : Nat) (fields : List (String × Json)) (i : Input) :
    Option (Json × Input) :=
  match i.tokens with
  | .flowMappingEnd :: ts => some (.obj fields, { i with tokens := ts })
  | ts => afterPair (pairKey fuel depth i) (pairValue fuel depth ts)
    fun key v i => readFlowPairs fuel depth false (Entries.insert key v fields) i

theorem readFlowPairs_succ (fuel depth : Nat) (first : Bool) (fields : List (String × Json))
    (i : Input) :
    readFlowPairs (fuel + 1) depth first fields i =
      match i.tokens with
      | .flowMappingEnd :: ts => some (.obj fields, { i with tokens := ts })
      | ts => (behindComma first ts).bind fun ts =>
        flowPair fuel depth fields { i with tokens := ts } := by
  rw [readFlowPairs]
  simp only [flowPair, afterPair_eq]
  obtain ⟨tokens, anchors⟩ := i
  cases tokens with
  | nil => cases first <;> rfl
  | cons t ts =>
    cases first with
    | true =>
      cases t <;> try rfl
      cases ts with
      | nil => rfl
      | cons t ts => cases t <;> rfl
    | false =>
      cases t <;> try rfl
      cases ts with
      | nil => rfl
      | cons t ts =>
        cases t <;> try rfl
        cases ts with
        | nil => rfl
        | cons t ts => cases t <;> rfl

/-! ## What follows makes no difference -/

theorem Framed.named {x y : Option (Node × Input)} (h : Framed Z x y) (p : Properties) :
    Framed Z (p.named x) (p.named y) := by
  have hdefine : p.named = Option.map fun (n, i) =>
      (n, { i with anchors := (p.anchor.map fun a => (a, n) :: i.anchors).getD i.anchors }) := by
    unfold Properties.named Input.define
    cases p.anchor <;> rfl
  rw [hdefine]
  exact h.map id fun n anchors => (p.anchor.map fun a => (a, n) :: anchors).getD anchors

theorem Framed.collection {x y : Option (Json × Input)} (h : Framed Z x y) (p : Properties) :
    Framed Z (p.collection x) (p.collection y) := by
  unfold Properties.collection
  split
  · exact (h.map (fun j => ⟨j, none⟩) fun _ anchors => anchors).named p
  · exact framed_none _

variable {anchors : List (String × Node)} {read read' : Input → Option (Node × Input)}

theorem framed_map_some {r : Option Node} (h : Frame Z ts ts') :
    Framed Z (r.map (·, ⟨ts, anchors⟩)) (r.map (·, ⟨ts', anchors⟩)) := by
  cases r with
  | none => exact framed_none _
  | some n => exact framed_some n h

theorem framed_bare (h : Frame Z ts ts') (p : Properties) :
    Framed Z (p.bare ⟨ts, anchors⟩) (p.bare ⟨ts', anchors⟩) := by
  unfold Properties.bare
  split
  · exact (framed_map_some h).named p
  · exact framed_none _

theorem framed_orMissing {e e' : Bool} (h : Frame Z ts ts') (he : e = e')
    (hread : Framed Z (read ⟨ts, anchors⟩) (read' ⟨ts', anchors⟩)) :
    Framed Z (orMissing e read ⟨ts, anchors⟩) (orMissing e' read' ⟨ts', anchors⟩) := by
  subst he
  unfold orMissing
  split
  · exact framed_some missing h
  · exact hread

/-- A reader of nodes that reads in the same way whatever follows. -/
def FramedReader (Z : List Token) (read read' : Input → Option (Node × Input)) : Prop :=
  ∀ ⦃ts ts' anchors⦄, Frame Z ts ts' → Framed Z (read ⟨ts, anchors⟩) (read' ⟨ts', anchors⟩)

section Parts

variable {ends : List Token → Bool} (hZ : FollowsPair Z) (hread : FramedReader Z read read')
  (hends : ∀ {ts ts'}, Frame Z ts ts' → ends ts = ends ts')
include hZ hread hends

theorem framed_valueUpTo : FramedReader Z (valueUpTo ends read) (valueUpTo ends read') := by
  intro ts ts' anchors h
  cases h with
  | last =>
    obtain ⟨us, rfl | rfl⟩ := hZ <;> exact framed_some missing .last
  | cons t h =>
    cases t <;> first
      | exact framed_orMissing h (hends h) (hread h)
      | exact framed_some missing (.cons _ h)

theorem framed_flowKey : FramedReader Z (flowKey ends read) (flowKey ends read') := by
  intro ts ts' anchors h
  have hother : Framed Z (orMissing (ends ts) read ⟨ts, anchors⟩)
      (orMissing (ends ts') read' ⟨ts', anchors⟩) := framed_orMissing h (hends h) (hread h)
  cases h with
  | last =>
    obtain ⟨us, rfl | rfl⟩ := hZ <;> exact hother
  | cons t h =>
    cases t <;> first
      | exact hother
      | exact framed_some missing (.cons _ h)

end Parts

theorem Framed.afterPair {k k' : Option (Node × Input)} {v v' : Input → Option (Node × Input)}
    {next next' : String → Json → Input → Option (α × Input)} (hk : Framed Z k k')
    (hv : FramedReader Z v v')
    (hnext : ∀ key j ts ts' anchors, Frame Z ts ts' →
      Framed Z (next key j ⟨ts, anchors⟩) (next' key j ⟨ts', anchors⟩))
    (hvnil : ∀ anchors n i, v ⟨[], anchors⟩ = some (n, i) → i.tokens = [])
    (hnextnil : ∀ key j anchors, next key j ⟨[], anchors⟩ = none) :
    Framed Z (afterPair k v next) (afterPair k' v' next') := by
  have hgo : ∀ (n : Node) (w : Node) ts ts' anchors, Frame Z ts ts' →
      Framed Z (n.text.bind fun key => next key w.value ⟨ts, anchors⟩)
        (n.text.bind fun key => next' key w.value ⟨ts', anchors⟩) := by
    intro n w ts ts' anchors h
    cases n.text with
    | none => exact framed_none _
    | some key => exact hnext key w.value ts ts' anchors h
  have hstop : ∀ (n : Node) (w : Node) anchors (r : α × Input),
      (n.text.bind fun key => next key w.value ⟨[], anchors⟩) ≠ some r := by
    intro n w anchors r h
    obtain ⟨key, -, h⟩ := Option.bind_eq_some_iff.1 h
    rw [hnextnil] at h
    cases h
  refine hk.bind (fun n ts ts' anchors h => ?_) fun n anchors a i h => ?_
  · exact (hv h).bind (fun w ts ts' anchors h => hgo n w ts ts' anchors h)
      fun w anchors a i h => absurd h (hstop n w anchors _)
  · obtain ⟨⟨w, j⟩, hj, h⟩ := Option.bind_eq_some_iff.1 h
    obtain ⟨tokens, anchors'⟩ := j
    obtain rfl : tokens = [] := hvnil anchors w _ hj
    exact absurd h (hstop n w anchors' _)

/-! ## Without tokens -/

/-- Where there are no tokens a value is missing. -/
theorem tokens_of_missing {w : Node} {i : Input}
    (h : some (missing, (⟨[], anchors⟩ : Input)) = some (w, i)) : i.tokens = [] := by
  obtain ⟨-, rfl⟩ := Prod.mk.inj (Option.some.inj h)
  rfl

theorem readLoose_nil {items : List Json} {j : Json} {i : Input}
    (h : readLoose n d items ⟨[], anchors⟩ = some (j, i)) : i.tokens = [] := by
  cases n with
  | zero => simp [readLoose] at h
  | succ n =>
    rw [readLoose_succ] at h
    obtain ⟨-, rfl⟩ := Prod.mk.inj (Option.some.inj h)
    rfl

/-- No node stands where a mapping or the text ends. -/
theorem readNode_eq_none (h : ts = [] ∨ ts = [.blockEnd]) (block loose : Bool) :
    readNode n d block loose ⟨ts, anchors⟩ = none := by
  cases n with
  | zero => simp [readNode]
  | succ n =>
    cases d with
    | zero => simp [readNode]
    | succ d =>
      rw [readNode_succ]
      rcases h with rfl | rfl <;> rfl

theorem readNode_nil (block loose : Bool) : readNode n d block loose ⟨[], anchors⟩ = none :=
  readNode_eq_none (Or.inl rfl) block loose

theorem readNode_blockEnd (block loose : Bool) :
    readNode n d block loose ⟨[.blockEnd], anchors⟩ = none :=
  readNode_eq_none (Or.inr rfl) block loose

theorem readBlockItems_nil (items : List Json) :
    readBlockItems n d items ⟨[], anchors⟩ = none := by
  cases n with
  | zero => simp [readBlockItems]
  | succ n => rw [readBlockItems_succ]

theorem readBlockItems_end {items : List Json} {j : Json} {i : Input}
    (h : readBlockItems n d items ⟨[.blockEnd], anchors⟩ = some (j, i)) : i.tokens = [] := by
  cases n with
  | zero => simp [readBlockItems] at h
  | succ n =>
    rw [readBlockItems_succ] at h
    obtain ⟨-, rfl⟩ := Prod.mk.inj (Option.some.inj h)
    rfl

theorem readBlockPairs_nil (fields : List (String × Json)) :
    readBlockPairs n d fields ⟨[], anchors⟩ = none := by
  cases n with
  | zero => simp [readBlockPairs]
  | succ n =>
    rw [readBlockPairs_succ]
    rfl

theorem readFlowItems_nil (first : Bool) (items : List Json) :
    readFlowItems n d first items ⟨[], anchors⟩ = none := by
  cases n with
  | zero => simp [readFlowItems]
  | succ n =>
    rw [readFlowItems_succ]
    cases first with
    | true => simp [behindComma, flowItem, readNode_nil]
    | false => rfl

theorem readFlowPairs_nil (first : Bool) (fields : List (String × Json)) :
    readFlowPairs n d first fields ⟨[], anchors⟩ = none := by
  cases n with
  | zero => simp [readFlowPairs]
  | succ n =>
    rw [readFlowPairs_succ]
    cases first with
    | true => simp [behindComma, flowPair, pairKey, afterPair, readNode_nil]
    | false => rfl

/-- With `n` steps of fuel, and at least as many in front of other tokens, everything is read in the
same way whatever follows. -/
structure FramedAt (Z : List Token) (n : Nat) : Prop where
  node : ∀ {m} d block loose, n ≤ m →
    FramedReader Z (readNode n d block loose) (readNode m d block loose)
  loose : ∀ {m} d items {ts ts' anchors}, n ≤ m → Frame Z ts ts' →
    Framed Z (readLoose n d items ⟨ts, anchors⟩) (readLoose m d items ⟨ts', anchors⟩)
  blockItems : ∀ {m} d items {ts ts' anchors}, n ≤ m → Frame Z ts ts' →
    Framed Z (readBlockItems n d items ⟨ts, anchors⟩) (readBlockItems m d items ⟨ts', anchors⟩)
  blockPairs : ∀ {m} d fields {ts ts' anchors}, n ≤ m → Frame Z ts ts' →
    Framed Z (readBlockPairs n d fields ⟨ts, anchors⟩) (readBlockPairs m d fields ⟨ts', anchors⟩)
  flowItems : ∀ {m} d first items {ts ts' anchors}, n ≤ m → Frame Z ts ts' →
    Framed Z (readFlowItems n d first items ⟨ts, anchors⟩)
      (readFlowItems m d first items ⟨ts', anchors⟩)
  flowPairs : ∀ {m} d first fields {ts ts' anchors}, n ≤ m → Frame Z ts ts' →
    Framed Z (readFlowPairs n d first fields ⟨ts, anchors⟩)
      (readFlowPairs m d first fields ⟨ts', anchors⟩)

section Steps

variable (hZ : FollowsPair Z) (ih : FramedAt Z n) (hnm : n ≤ m)
include hZ ih hnm

theorem framed_readBody (d : Nat) (block loose : Bool) (p : Properties) :
    FramedReader Z (readBody n d block loose p) (readBody m d block loose p) := by
  intro ts ts' anchors h
  have hbare : Framed Z (p.bare ⟨ts, anchors⟩) (p.bare ⟨ts', anchors⟩) := framed_bare h p
  cases h with
  | last =>
    obtain ⟨us, rfl | rfl⟩ := hZ <;> exact hbare
  | cons t h =>
    cases t <;> try exact hbare
    · -- a block sequence
      unfold readBody
      simp only
      split
      · exact (ih.blockItems d [] hnm h).collection p
      · exact framed_none _
    · unfold readBody
      simp only
      split
      · exact (ih.blockPairs d [] hnm h).collection p
      · exact framed_none _
    · exact (ih.flowItems d true [] hnm h).collection p
    · exact (ih.flowPairs d true [] hnm h).collection p
    · unfold readBody
      simp only
      split
      · exact (ih.loose d [] hnm (.cons _ h)).collection p
      · exact hbare
    · exact (framed_map_some h).named p

theorem framed_readNode_succ (d : Nat) (block loose : Bool) :
    FramedReader Z (readNode (n + 1) d block loose) (readNode (m + 1) d block loose) := by
  intro ts ts' anchors h
  cases d with
  | zero =>
    exact framed_of_none (by simp [readNode])
  | succ d =>
    rw [readNode_succ, readNode_succ]
    obtain ⟨hproperties, hframe⟩ := readProperties_frame hZ h
    have hbody : Framed Z
        (readBody n d block loose (readProperties ts).1 ⟨(readProperties ts).2, anchors⟩)
        (readBody m d block loose (readProperties ts').1 ⟨(readProperties ts').2, anchors⟩) := by
      rw [← hproperties]
      exact framed_readBody hZ ih hnm d block loose _ hframe
    cases h with
    | last =>
      obtain ⟨us, rfl | rfl⟩ := hZ <;> exact hbody
    | cons t h =>
      cases t <;> first
        | exact hbody
        | exact framed_map_some (r := (anchors.find? _).map (·.2)) h

theorem framed_readLoose_succ (d : Nat) (items : List Json) (h : Frame Z ts ts') :
    Framed Z (readLoose (n + 1) d items ⟨ts, anchors⟩)
      (readLoose (m + 1) d items ⟨ts', anchors⟩) := by
  rw [readLoose_succ, readLoose_succ]
  cases h with
  | last =>
    obtain ⟨us, rfl | rfl⟩ := hZ <;> exact framed_some _ .last
  | cons t h =>
    cases t <;> try exact framed_some _ (.cons _ h)
    exact (framed_orMissing h (endsLooseItem_frame hZ h) (ih.node d true false hnm h)).bind
      (fun w ts ts' anchors h => ih.loose d (w.value :: items) hnm h)
      fun w anchors j i hj => readLoose_nil hj

omit hZ in
theorem framed_readBlockItems_succ (d : Nat) (items : List Json) (h : Frame Z ts ts') :
    Framed Z (readBlockItems (n + 1) d items ⟨ts, anchors⟩)
      (readBlockItems (m + 1) d items ⟨ts', anchors⟩) := by
  rw [readBlockItems_succ, readBlockItems_succ]
  cases h with
  | last => exact framed_some_nil _ _ _
  | cons t h =>
    cases t <;> try exact framed_none _
    · exact framed_some _ h
    · -- an entry
      cases h with
      | last =>
        intro a i hi hne
        obtain ⟨⟨w, j⟩, hj, hi⟩ := Option.bind_eq_some_iff.1 hi
        obtain ⟨rfl, rfl⟩ := Prod.mk.inj (Option.some.inj hj)
        exact absurd (readBlockItems_end hi) hne
      | cons t h =>
        refine (framed_orMissing (.cons t h) (by cases t <;> rfl)
          (ih.node d true false hnm (.cons t h))).bind
            (fun w ts ts' anchors h => ih.blockItems d (w.value :: items) hnm h)
            fun w anchors j i hj => ?_
        simp only [readBlockItems_nil] at hj
        cases hj

theorem framed_blockKey (d : Nat) : FramedReader Z (blockKey n d) (blockKey m d) := by
  intro ts ts' anchors h
  cases h with
  | last => exact framed_none _
  | cons t h =>
    cases t <;> first
      | exact framed_none _
      | exact framed_some missing (.cons _ h)
      | exact framed_orMissing h (endsBlockPart_frame hZ h) (ih.node d true true hnm h)

theorem framed_readBlockPairs_succ (d : Nat) (fields : List (String × Json)) (h : Frame Z ts ts') :
    Framed Z (readBlockPairs (n + 1) d fields ⟨ts, anchors⟩)
      (readBlockPairs (m + 1) d fields ⟨ts', anchors⟩) := by
  have hkey : Framed Z (blockKey n d ⟨ts, anchors⟩) (blockKey m d ⟨ts', anchors⟩) :=
    framed_blockKey hZ ih hnm d h
  have hpair := hkey.afterPair
    (framed_valueUpTo hZ (ih.node d true true hnm) (endsBlockPart_frame hZ))
    (fun key j ts ts' anchors h => ih.blockPairs d (Entries.insert key j fields) hnm h)
    (fun _ _ _ hi => tokens_of_missing hi)
    fun key j anchors => readBlockPairs_nil _
  rw [readBlockPairs_succ, readBlockPairs_succ]
  cases h with
  | last => exact framed_some_nil _ _ _
  | cons t h =>
    cases t <;> first
      | exact framed_some _ h
      | exact hpair

theorem framed_flowItem (d : Nat) (items : List Json) (h : Frame Z ts ts') :
    Framed Z (flowItem n d items ⟨ts, anchors⟩) (flowItem m d items ⟨ts', anchors⟩) := by
  have hnode : Framed Z (readNode n d false false ⟨ts, anchors⟩)
      (readNode m d false false ⟨ts', anchors⟩) := ih.node d false false hnm h
  have hitem := hnode.bind
    (f := fun (w, i) => readFlowItems n d false (w.value :: items) i)
    (g := fun (w, i) => readFlowItems m d false (w.value :: items) i)
    (fun w ts ts' anchors h => ih.flowItems d false (w.value :: items) hnm h)
    fun w anchors j i hj => by
      simp only [readFlowItems_nil] at hj
      cases hj
  have hmatch : ∀ (k : Nat) (i : Input), (readNode k d false false i).bind (fun (w, i) =>
      readFlowItems k d false (w.value :: items) i) = match readNode k d false false i with
        | some (w, i) => readFlowItems k d false (w.value :: items) i
        | none => none := fun k i => by cases readNode k d false false i <;> rfl
  rw [hmatch, hmatch] at hitem
  cases h with
  | last =>
    exact framed_of_none (by simp [flowItem, readNode_blockEnd])
  | cons t h =>
    cases t <;> first
      | exact hitem
      | exact framed_some _ h
      | skip
    -- a pair
    have hkey : Framed Z (flowKey endsFlowItem (readNode n d false false) ⟨_, anchors⟩)
        (flowKey endsFlowItem (readNode m d false false) ⟨_, anchors⟩) :=
      framed_flowKey hZ (ih.node d false false hnm) (endsFlowItem_frame hZ) h
    exact hkey.afterPair
      (framed_valueUpTo hZ (ih.node d false false hnm) (endsFlowItem_frame hZ))
      (fun key j ts ts' anchors h => ih.flowItems d false (.obj [(key, j)] :: items) hnm h)
      (fun _ _ _ hi => tokens_of_missing hi)
      fun key j anchors => readFlowItems_nil ..

omit hZ ih hnm in
theorem framed_behindComma {first : Bool} {f g : List Token → Option (α × Input)}
    (h : Frame Z ts ts') (hfg : ∀ {ts ts'}, Frame Z ts ts' → Framed Z (f ts) (g ts')) :
    Framed Z ((behindComma first ts).bind f) ((behindComma first ts').bind g) := by
  cases first with
  | true => exact hfg h
  | false =>
    cases h with
    | last => exact framed_none _
    | cons t h =>
      cases t <;> first
        | exact framed_none _
        | exact hfg h

theorem framed_readFlowItems_succ (d : Nat) (first : Bool) (items : List Json)
    (h : Frame Z ts ts') :
    Framed Z (readFlowItems (n + 1) d first items ⟨ts, anchors⟩)
      (readFlowItems (m + 1) d first items ⟨ts', anchors⟩) := by
  have hentry : Framed Z
      ((behindComma first ts).bind fun ts => flowItem n d items ⟨ts, anchors⟩)
      ((behindComma first ts').bind fun ts => flowItem m d items ⟨ts, anchors⟩) :=
    framed_behindComma h fun h => framed_flowItem hZ ih hnm d items h
  rw [readFlowItems_succ, readFlowItems_succ]
  cases h with
  | last =>
    obtain ⟨us, rfl | rfl⟩ := hZ <;> exact hentry
  | cons t h =>
    cases t <;> first
      | exact hentry
      | exact framed_some _ h

omit hZ ih hnm in
theorem pairValue_key (fuel depth : Nat) (us : List Token) :
    pairValue fuel depth (.key :: us) =
      valueUpTo endsFlowPair (readNode fuel depth false false) := by
  funext i
  obtain ⟨tokens, anchors⟩ := i
  cases tokens with
  | nil => rfl
  | cons t ts => cases t <;> rfl

theorem framed_flowPair (d : Nat) (fields : List (String × Json)) (h : Frame Z ts ts') :
    Framed Z (flowPair n d fields ⟨ts, anchors⟩) (flowPair m d fields ⟨ts', anchors⟩) := by
  have hnext : ∀ key j ts ts' anchors, Frame Z ts ts' →
      Framed Z (readFlowPairs n d false (Entries.insert key j fields) ⟨ts, anchors⟩)
        (readFlowPairs m d false (Entries.insert key j fields) ⟨ts', anchors⟩) :=
    fun key j ts ts' anchors h => ih.flowPairs d false _ hnm h
  cases h with
  | last =>
    exact framed_of_none (by simp [flowPair, pairKey, afterPair, readNode_blockEnd])
  | @cons t ts ts' h =>
    have hnode : Framed Z (readNode n d false false ⟨t :: ts, anchors⟩)
        (readNode m d false false ⟨t :: ts', anchors⟩) := ih.node d false false hnm (.cons t h)
    have hmissing : FramedReader Z (fun i => some (missing, i)) fun i => some (missing, i) :=
      fun ts ts' anchors h => framed_some missing h
    have hpair := hnode.afterPair hmissing hnext (fun _ _ _ hi => tokens_of_missing hi)
      fun key j anchors => readFlowPairs_nil ..
    cases t <;> first
      | exact framed_some _ h
      | exact hpair
      | skip
    -- a key with its mark
    have hkey : Framed Z (flowKey endsFlowPair (readNode n d false false) ⟨ts, anchors⟩)
        (flowKey endsFlowPair (readNode m d false false) ⟨ts', anchors⟩) :=
      framed_flowKey hZ (ih.node d false false hnm) (endsFlowPair_frame hZ) h
    unfold flowPair
    simp only [pairValue_key]
    exact hkey.afterPair
      (framed_valueUpTo hZ (ih.node d false false hnm) (endsFlowPair_frame hZ)) hnext
      (fun _ _ _ hi => tokens_of_missing hi)
      fun key j anchors => readFlowPairs_nil ..

theorem framed_readFlowPairs_succ (d : Nat) (first : Bool) (fields : List (String × Json))
    (h : Frame Z ts ts') :
    Framed Z (readFlowPairs (n + 1) d first fields ⟨ts, anchors⟩)
      (readFlowPairs (m + 1) d first fields ⟨ts', anchors⟩) := by
  have hentry : Framed Z
      ((behindComma first ts).bind fun ts => flowPair n d fields ⟨ts, anchors⟩)
      ((behindComma first ts').bind fun ts => flowPair m d fields ⟨ts, anchors⟩) :=
    framed_behindComma h fun h => framed_flowPair hZ ih hnm d fields h
  rw [readFlowPairs_succ, readFlowPairs_succ]
  cases h with
  | last =>
    obtain ⟨us, rfl | rfl⟩ := hZ <;> exact hentry
  | cons t h =>
    cases t <;> first
      | exact hentry
      | exact framed_some _ h

end Steps

theorem framedAt (hZ : FollowsPair Z) (n : Nat) : FramedAt Z n := by
  induction n with
  | zero =>
    constructor
    · intro m d block loose _ ts ts' anchors _
      exact framed_of_none (by simp [readNode])
    · intros
      exact framed_of_none (by simp [readLoose])
    · intros
      exact framed_of_none (by simp [readBlockItems])
    · intros
      exact framed_of_none (by simp [readBlockPairs])
    · intros
      exact framed_of_none (by simp [readFlowItems])
    · intros
      exact framed_of_none (by simp [readFlowPairs])
  | succ n ih =>
    have hpred : ∀ {m}, n + 1 ≤ m → ∃ k, m = k + 1 ∧ n ≤ k := fun {m} h =>
      ⟨m - 1, by omega, by omega⟩
    constructor
    · intro m d block loose hm
      obtain ⟨k, rfl, hk⟩ := hpred hm
      exact framed_readNode_succ hZ ih hk d block loose
    · intro m d items ts ts' anchors hm h
      obtain ⟨k, rfl, hk⟩ := hpred hm
      exact framed_readLoose_succ hZ ih hk d items h
    · intro m d items ts ts' anchors hm h
      obtain ⟨k, rfl, hk⟩ := hpred hm
      exact framed_readBlockItems_succ ih hk d items h
    · intro m d fields ts ts' anchors hm h
      obtain ⟨k, rfl, hk⟩ := hpred hm
      exact framed_readBlockPairs_succ hZ ih hk d fields h
    · intro m d first items ts ts' anchors hm h
      obtain ⟨k, rfl, hk⟩ := hpred hm
      exact framed_readFlowItems_succ hZ ih hk d first items h
    · intro m d first fields ts ts' anchors hm h
      obtain ⟨k, rfl, hk⟩ := hpred hm
      exact framed_readFlowPairs_succ hZ ih hk d first fields h

/-! ## Pair by pair -/

/-- Insert entries one after another. -/
def insertAll (fields pairs : List (String × Json)) : List (String × Json) :=
  pairs.foldl (fun fields (key, j) => Entries.insert key j fields) fields

theorem readBlockPairs_pair {fields : List (String × Json)} {i : Input}
    (h : ∀ ts, i.tokens ≠ .blockEnd :: ts) : readBlockPairs (n + 1) d fields i =
      afterPair (blockKey n d i) (valueUpTo endsBlockPart (readNode n d true true)) fun key v i =>
        readBlockPairs n d (Entries.insert key v fields) i := by
  rw [readBlockPairs_succ]
  split
  · rename_i ts hts
    exact absurd hts (h ts)
  · rfl

theorem Frame.ne_blockEnd (h : Frame Z ts ts') (hend : ∀ us, ts ≠ .blockEnd :: us) :
    ∀ us, ts' ≠ .blockEnd :: us := by
  rintro us rfl
  cases h with
  | last => exact hend [] rfl
  | cons t h => exact hend _ rfl

/-- **A pair is read in the same way** with other tokens behind the pairs and with other fields to
start from. -/
theorem readBlockPairs_step (hZ : FollowsPair Z) (hend : ∀ us, ts ≠ .blockEnd :: us)
    {fields : List (String × Json)} {anchors : List (String × Node)} {r : Json × Input}
    (h : readBlockPairs (n + 1) d fields ⟨ts, anchors⟩ = some r) :
    ∃ key v us anchors₁,
      readBlockPairs n d (Entries.insert key v fields) ⟨us, anchors₁⟩ = some r ∧
      ∀ ts' m fields', Frame Z ts ts' → n ≤ m → ∃ us', Frame Z us us' ∧
        readBlockPairs (m + 1) d fields' ⟨ts', anchors⟩ =
          readBlockPairs m d (Entries.insert key v fields') ⟨us', anchors₁⟩ := by
  rw [readBlockPairs_pair hend] at h
  obtain ⟨⟨k, i⟩, hk, h⟩ := Option.bind_eq_some_iff.1 h
  obtain ⟨⟨v, j⟩, hv, h⟩ := Option.bind_eq_some_iff.1 h
  obtain ⟨key, htext, h⟩ := Option.bind_eq_some_iff.1 h
  -- a key and a value are read in front of something
  have hj : j.tokens ≠ [] := by
    obtain ⟨tokens, anchors''⟩ := j
    rintro rfl
    simp only [readBlockPairs_nil] at h
    cases h
  have hi : i.tokens ≠ [] := by
    obtain ⟨tokens, anchors''⟩ := i
    rintro rfl
    obtain ⟨-, rfl⟩ := Prod.mk.inj (Option.some.inj hv)
    exact hj rfl
  refine ⟨key, v.value, j.tokens, j.anchors, h, fun ts' m fields' hframe hm => ?_⟩
  have hat := framedAt hZ n
  obtain ⟨us, hus, hk'⟩ := framed_blockKey hZ hat hm d hframe k i hk hi
  obtain ⟨vs, hvs, hv'⟩ := framed_valueUpTo hZ (hat.node d true true hm)
    (endsBlockPart_frame hZ) hus v j hv hj
  refine ⟨vs, hvs, ?_⟩
  rw [readBlockPairs_pair (hframe.ne_blockEnd hend), afterPair, hk']
  simp only [Option.bind_some]
  rw [hv']
  simp only [Option.bind_some, htext]

/-- **A mapping that is read to its end is read pair by pair.** With other tokens behind its pairs,
and with other fields to start from, the same pairs are read first. -/
theorem readBlockPairs_unroll (hZ : FollowsPair Z) {fields result : List (String × Json)}
    {anchors' : List (String × Node)}
    (h : readBlockPairs n d fields ⟨ts, anchors⟩ = some (.obj result, ⟨[], anchors'⟩)) :
    ∃ pairs k, k < n ∧ result = insertAll fields pairs ∧ ∀ ts' m fields', Frame Z ts ts' → n ≤ m →
      readBlockPairs m d fields' ⟨ts', anchors⟩ =
        readBlockPairs (m - k) d (insertAll fields' pairs) ⟨Z, anchors'⟩ := by
  induction n generalizing fields ts anchors with
  | zero => simp [readBlockPairs] at h
  | succ n ih =>
    by_cases hend : ∃ us, ts = .blockEnd :: us
    · -- the end of the mapping
      obtain ⟨us, rfl⟩ := hend
      rw [readBlockPairs_succ] at h
      simp only [Option.some.injEq, Prod.mk.injEq, Json.obj.injEq, Input.mk.injEq] at h
      obtain ⟨rfl, rfl, rfl⟩ := h
      refine ⟨[], 0, Nat.succ_pos _, rfl, fun ts' m fields' hframe _ => ?_⟩
      cases hframe with
      | last => rfl
      | cons t hframe => cases hframe
    · obtain ⟨key, v, us, anchors₁, h, hstep⟩ := readBlockPairs_step hZ (not_exists.1 hend) h
      obtain ⟨pairs, steps, hsteps, hresult, hgo⟩ := ih h
      refine ⟨(key, v) :: pairs, steps + 1, by omega, hresult, fun ts' m fields' hframe hm => ?_⟩
      obtain ⟨m, rfl⟩ : ∃ k, m = k + 1 := ⟨m - 1, by omega⟩
      have hm : n ≤ m := by omega
      obtain ⟨us', hus', heq⟩ := hstep ts' m fields' hframe hm
      rw [heq, hgo us' m _ hus' hm, Nat.add_sub_add_right]
      rfl

end Gazetteer.Yaml
