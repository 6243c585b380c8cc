import Gazetteer.Proofs.Yaml.Pairs
import Gazetteer.Proofs.Yaml.Parts

/-!
# Reading a mapping in parts

A mapping at the margin is read part by part: its fields are those of its parts, and where two parts
have the same key the later one counts (`IsPart.append`). A text that is one part is read as its
fields (`IsPart.read_eq`).
-/

namespace Gazetteer.Yaml

open Scanner (lineText IsLabel IsItem)

variable {cs ds w a b : List Char} {ts us Z : List Token} {d n m : Nat}
  {anchors anchors' anchors'' : List (String × Node)} {fields fields' pairs : List (String × Json)}

/-! ## Fields -/

/-- Of two values for a key the later one counts. -/
theorem get?_insertAll (key : String) (fields pairs : List (String × Json)) :
    Entries.get? key (insertAll fields pairs) =
      (Entries.get? key (insertAll [] pairs)).or (Entries.get? key fields) := by
  induction pairs using List.reverseRecOn with
  | nil => rfl
  | append_singleton pairs pair ih =>
    obtain ⟨k, j⟩ := pair
    simp only [insertAll, List.foldl_append, List.foldl_cons, List.foldl_nil] at ih ⊢
    rw [Entries.get?_insert, Entries.get?_insert, ih]
    split <;> rfl

theorem get?_singleton_self (key : String) (j : Json) : Entries.get? key [(key, j)] = some j :=
  (Entries.get?_insert key key j []).trans (if_pos Std.ReflOrd.compare_self)

theorem get?_singleton_of_ne {key k : String} (h : k ≠ key) (j : Json) :
    Entries.get? k [(key, j)] = none :=
  (Entries.get?_insert key k j []).trans (if_neg fun hc => h (Std.LawfulEqOrd.eq_of_compare hc))

/-! ## Tokens -/

/-- The tokens of pairs are read as fields, with enough fuel for whatever is behind them. -/
def Reads (anchors : List (String × Node)) (ts : List Token) (fields : List (String × Json))
    (anchors' : List (String × Node)) : Prop :=
  readBlockPairs (4 * ts.length + 1) maxDepth [] ⟨ts ++ [.blockEnd], anchors⟩ =
    some (.obj fields, ⟨[], anchors'⟩)

theorem frame_append (Z ts : List Token) : Frame Z (ts ++ [.blockEnd]) (ts ++ Z) := by
  induction ts with
  | nil => exact .last
  | cons t ts ih => exact .cons t ih

/-- What is read of some tokens is read of them with more fuel and others behind them. -/
theorem Reads.unroll (h : Reads anchors ts fields anchors') (hZ : FollowsPair Z) :
    ∃ pairs k, k ≤ 4 * ts.length ∧ fields = insertAll [] pairs ∧
      ∀ m fields', 4 * ts.length < m → readBlockPairs m maxDepth fields' ⟨ts ++ Z, anchors⟩ =
        readBlockPairs (m - k) maxDepth (insertAll fields' pairs) ⟨Z, anchors'⟩ := by
  obtain ⟨pairs, k, hk, hfields, hgo⟩ := readBlockPairs_unroll hZ h
  exact ⟨pairs, k, by omega, hfields, fun m fields' hm => hgo _ m fields' (frame_append Z ts) hm⟩

/-- Tokens that are none or start with a key. -/
def StartsPair (ts : List Token) : Prop := ts = [] ∨ ∃ us, ts = .key :: us

theorem StartsPair.followsPair (h : StartsPair ts) : FollowsPair (ts ++ [.blockEnd]) := by
  rcases h with rfl | ⟨us, rfl⟩
  · exact ⟨[], Or.inl rfl⟩
  · exact ⟨us ++ [.blockEnd], Or.inr rfl⟩

theorem readBlockPairs_end (h : 0 < m) : readBlockPairs m d fields ⟨[.blockEnd], anchors⟩ =
    some (.obj fields, ⟨[], anchors⟩) := by
  obtain ⟨m, rfl⟩ : ∃ k, m = k + 1 := ⟨m - 1, by omega⟩
  rw [readBlockPairs_succ]

theorem Reads.readBlockPairs_eq (h : Reads anchors ts fields anchors') (hm : 4 * ts.length < m) :
    readBlockPairs m maxDepth [] ⟨ts ++ [.blockEnd], anchors⟩ =
      some (.obj fields, ⟨[], anchors'⟩) := by
  obtain ⟨pairs, k, hk, rfl, hgo⟩ := h.unroll (Z := [.blockEnd]) ⟨[], Or.inl rfl⟩
  rw [hgo m [] hm, readBlockPairs_end (by omega)]

theorem Reads.append (h : Reads anchors ts fields anchors')
    (h' : Reads anchors' us fields' anchors'') (hus : StartsPair us) :
    ∃ merged, Reads anchors (ts ++ us) merged anchors'' ∧
      ∀ key, Entries.get? key merged = (Entries.get? key fields').or (Entries.get? key fields) := by
  obtain ⟨pairs, k, hk, rfl, hgo⟩ := h.unroll hus.followsPair
  obtain ⟨pairs', k', hk', rfl, hgo'⟩ := h'.unroll (Z := [.blockEnd]) ⟨[], Or.inl rfl⟩
  refine ⟨insertAll (insertAll [] pairs) pairs', ?_, fun key => get?_insertAll ..⟩
  unfold Reads
  rw [List.append_assoc, hgo _ _ (by rw [List.length_append]; omega),
    hgo' _ _ (by rw [List.length_append]; omega),
    readBlockPairs_end (by rw [List.length_append]; omega)]

theorem Reads.eq_nil (h : Reads anchors [] fields anchors') : fields = [] := by
  unfold Reads at h
  rw [List.nil_append, readBlockPairs_end (by simp)] at h
  simp only [Option.some.injEq, Prod.mk.injEq, Json.obj.injEq] at h
  exact h.1.symm

/-! ## Parts of a mapping -/

/-- A part of a mapping at the margin, what it says, and the anchors that it adds. -/
structure IsPart (anchors : List (String × Node)) (cs : List Char) (fields : List (String × Json))
    (anchors' : List (String × Node)) : Prop where
  allowed : cs.all isAllowed = true
  reads : ∃ ts, Holds cs ts ∧ Reads anchors ts fields anchors'

theorem isPart_nil (anchors : List (String × Node)) : IsPart anchors [] [] anchors :=
  ⟨rfl, [], holds_nil, readBlockPairs_end (by decide)⟩

/-- **The fields of a mapping are those of its parts**; of two with the same key the later one
counts. -/
theorem IsPart.append (h : IsPart anchors cs fields anchors')
    (h' : IsPart anchors' ds fields' anchors'') (hds : ds = [] ∨ StartsEntry ds) :
    ∃ merged, IsPart anchors (cs ++ ds) merged anchors'' ∧
      ∀ key, Entries.get? key merged = (Entries.get? key fields').or (Entries.get? key fields) := by
  obtain ⟨ts, hts, hread⟩ := h.reads
  obtain ⟨us, hus, hread'⟩ := h'.reads
  have hstarts : StartsPair us := hus.tokens_cases.imp And.right And.right
  obtain ⟨merged, hmerged, hget⟩ := hread.append hread' hstarts
  refine ⟨merged, ⟨?_, ts ++ us, hts.append hus hds, hmerged⟩, hget⟩
  rw [List.all_append, h.allowed, h'.allowed]
  rfl

/-- **A text that is a mapping at the margin is read as its fields**, if it has tokens. -/
theorem IsPart.read_eq (h : IsPart [] cs fields anchors) :
    (read cs = none ∧ fields = []) ∨ (read cs = some (.obj fields)) := by
  obtain ⟨ts, hts, hread⟩ := h.reads
  have htokens : tokens cs =
      some (if ts = [] then [] else .blockMappingStart :: (ts ++ [.blockEnd])) := by
    rw [tokens_eq, if_pos h.allowed, hts.scan_eq]
  by_cases hnil : ts = []
  · subst hnil
    exact Or.inl ⟨by simp [read, htokens], hread.eq_nil⟩
  · refine Or.inr ?_
    rw [if_neg hnil] at htokens
    have hnode : readNode (4 * (ts.length + 2) + 4) (maxDepth + 1) true false
        ⟨.blockMappingStart :: (ts ++ [.blockEnd]), []⟩ =
          some (⟨.obj fields, none⟩, ⟨[], anchors⟩) := by
      rw [show 4 * (ts.length + 2) + 4 = (4 * ts.length + 11) + 1 by omega, readNode_succ]
      show Properties.collection {} (readBlockPairs (4 * ts.length + 11) maxDepth []
        ⟨ts ++ [.blockEnd], []⟩) = _
      rw [hread.readBlockPairs_eq (by omega)]
      rfl
    have hstart : (.blockMappingStart :: (ts ++ [.blockEnd]) : List Token).dropWhile
        (· == .directive) = .blockMappingStart :: (ts ++ [.blockEnd]) :=
      List.dropWhile_cons_of_neg (by decide)
    have hlength : (.blockMappingStart :: (ts ++ [.blockEnd]) : List Token).length =
        ts.length + 2 := by simp
    simp only [read, htokens, Option.bind_eq_bind, Option.bind_some, hstart, hlength]
    rw [hnode]
    rfl

/-! ## A pair of plain scalars -/

theorem readNode_scalar {text : String} {j : Json} (h : plainValue text = some j)
    (block loose : Bool) : readNode (n + 1) (d + 1) block loose ⟨.scalar text true :: ts, anchors⟩ =
      some (⟨j, some text⟩, ⟨ts, anchors⟩) := by
  rw [readNode_succ]
  simp [readProperties, readBody, scalarNode, h, Properties.named, Input.define]

theorem readFlowItems_pair {s t : String} {x y : Json} (hs : plainValue s = some x)
    (ht : plainValue t = some y) (n d : Nat) (ts : List Token) :
    readFlowItems (n + 4) (d + 1) true [] ⟨.scalar s true :: .flowEntry :: .scalar t true ::
      .flowSequenceEnd :: ts, anchors⟩ = some (.arr [x, y], ⟨ts, anchors⟩) := by
  rw [readFlowItems_succ]
  simp only [behindComma, Option.bind_some, flowItem]
  rw [readNode_scalar hs]
  simp only
  rw [readFlowItems_succ]
  simp only [behindComma, Option.bind_some, flowItem]
  rw [readNode_scalar ht]
  simp only
  rw [readFlowItems_succ]
  simp

theorem reads_pair {k x y : Json} (hw : plainValue (lineText w) = some k)
    (ha : plainValue (lineText a) = some x) (hb : plainValue (lineText b) = some y)
    (anchors : List (String × Node)) :
    Reads anchors (pairTokens w a b) [(lineText w, .arr [x, y])] anchors := by
  have hvalue : readNode 32 maxDepth true true ⟨[.flowSequenceStart, .scalar (lineText a) true,
      .flowEntry, .scalar (lineText b) true, .flowSequenceEnd, .blockEnd], anchors⟩ =
        some (⟨.arr [x, y], none⟩, ⟨[.blockEnd], anchors⟩) := by
    rw [maxDepth, readNode_succ]
    show Properties.collection {} (readFlowItems 31 127 true [] _) = _
    rw [readFlowItems_pair ha hb]
    rfl
  show readBlockPairs 33 maxDepth [] _ = _
  rw [readBlockPairs_pair (by simp [pairTokens])]
  simp only [pairTokens, List.cons_append, List.nil_append, blockKey, orMissing, endsBlockPart,
    Bool.false_eq_true, if_false, afterPair]
  rw [maxDepth, readNode_scalar hw]
  simp only [Option.bind_some, valueUpTo, endsBlockPart, orMissing, Bool.false_eq_true, if_false]
  rw [maxDepth] at hvalue
  rw [hvalue]
  simp only [Option.bind_some]
  rw [readBlockPairs_end (by decide)]
  rfl

/-- **An entry whose value is a pair is a part of a mapping that says just that.** -/
theorem isPart_pair {k x y : Json} (hlabel : IsLabel w) (hitem : IsItem a) (hitem' : IsItem b)
    (hcs : Holds cs []) (hallowed : (w ++ (a ++ (b ++ cs))).all isAllowed = true)
    (hw : plainValue (lineText w) = some k) (ha : plainValue (lineText a) = some x)
    (hb : plainValue (lineText b) = some y) (anchors : List (String × Node)) :
    IsPart anchors (w ++ ':' :: (" [".toList ++ (a ++ (", ".toList ++ (b ++ ']' :: '\n' :: cs)))))
      [(lineText w, .arr [x, y])] anchors := by
  refine ⟨?_, _, holds_pair hlabel hitem hitem' hcs, reads_pair hw ha hb anchors⟩
  simp only [List.all_append, Bool.and_eq_true] at hallowed
  obtain ⟨hallowed, hallowed₁, hallowed₂, hallowed₃⟩ := hallowed
  simp only [List.all_append, List.all_cons, hallowed, hallowed₁, hallowed₂, hallowed₃]
  decide

end Gazetteer.Yaml
