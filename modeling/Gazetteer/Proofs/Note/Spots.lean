import Gazetteer.Proofs.Note.Facts

/-!
# Where the facts of a note stand

No two facts of a note stand at one place. Those of one notation do not overlap, and those of two
notations begin with different texts (`FactKind.opening`), neither of which begins with the other.
-/

namespace Gazetteer

namespace Pattern

variable {ps : List Pattern} {a b w : List Char}

/-- A sequence that begins with a literal text. -/
theorem prefix_of_spans_lit {s : String} (h : (all (lit s :: ps)).Spans a w b) :
    s.toList <+: w := by
  obtain ⟨v, w', rfl, hlit, -⟩ := (spans_all_cons ..).1 h
  rw [(spans_lit_iff s).1 hlit]
  exact List.prefix_append ..

end Pattern

/-- The text with which every fact of a notation begins. -/
def FactKind.opening : FactKind → List Char
  | .legacy => Pattern.codeMark :: "location:".toList
  | .inline => ['[']
  | .geometryBlock => [Pattern.codeMark, Pattern.codeMark, Pattern.codeMark]
  | .frontMatter => []

namespace FactKind

variable {kind kind' : FactKind} {p p' : Pattern} {a b w : List Char}

theorem opening_of_spans (hp : kind.pattern? = some p) (h : p.Spans a w b) :
    kind.opening <+: w := by
  cases kind with
  | legacy =>
    cases hp
    obtain ⟨_, w', rfl, hmark, hrest⟩ := (Pattern.spans_all_cons ..).1 h
    obtain ⟨x, hx, rfl⟩ := Pattern.spans_char_iff.1 hmark
    rw [beq_iff_eq.1 hx]
    exact List.cons_prefix_cons.2 ⟨rfl, Pattern.prefix_of_spans_lit hrest⟩
  | inline =>
    cases hp
    exact Pattern.prefix_of_spans_lit h
  | geometryBlock =>
    cases hp
    exact Pattern.prefix_of_spans_lit h
  | frontMatter => cases hp

/-- No text notation begins as another one does. -/
theorem eq_of_opening (hk : kind ≠ .frontMatter) (h : kind.opening <+: kind'.opening) :
    kind = kind' := by
  revert hk h
  cases kind <;> cases kind' <;> decide

theorem ne_frontMatter_of_pattern? (hp : kind.pattern? = some p) : kind ≠ .frontMatter := by
  rintro rfl
  cases hp

end FactKind

namespace Extraction

variable {kind kind' : FactKind} {text : List Char} {frontMatter : Option Json} {key : String}
  {p p' : Pattern} {m m' : Pattern.Match} {f f' : Fact}

/-- A text without some character with which a notation begins has no fact of it. -/
theorem matchesOf_eq_nil {c : Char} (hc : c ∈ kind.opening) (htext : c ∉ text) :
    matchesOf kind text = [] := by
  unfold matchesOf
  cases hp : kind.pattern? with
  | none => rfl
  | some p =>
    refine List.eq_nil_iff_forall_not_mem.2 fun m hm => htext ?_
    have hms := Pattern.successive_occurrences (FactKind.mayBeEmpty_pattern hp) text
    obtain ⟨a, b, rfl, -, -, hw, -⟩ := hms.standsIn m hm
    have hin := (FactKind.opening_of_spans hp hw).subset hc
    exact List.mem_append_right a (List.mem_append_left b hin)

/-- Facts of two notations do not begin at one place. -/
theorem start_ne_of_kind_ne (hp : kind.pattern? = some p) (hp' : kind'.pattern? = some p')
    (h : m.StandsIn p text) (h' : m'.StandsIn p' text) (hne : kind ≠ kind') :
    m.start ≠ m'.start := by
  intro he
  obtain ⟨a, b, heq, hstart, -, hw, -⟩ := h
  obtain ⟨a', b', heq', hstart', -, hw', -⟩ := h'
  obtain ⟨-, hrest⟩ := List.append_inj (heq.symm.trans heq') (by omega)
  -- both openings are what the text behind that place begins with
  have hopening : kind.opening <+: m.text ++ b :=
    (FactKind.opening_of_spans hp hw).trans (List.prefix_append ..)
  have hopening' : kind'.opening <+: m.text ++ b :=
    hrest ▸ (FactKind.opening_of_spans hp' hw').trans (List.prefix_append ..)
  rcases List.prefix_or_prefix_of_prefix hopening hopening' with hle | hle
  · exact hne (FactKind.eq_of_opening (FactKind.ne_frontMatter_of_pattern? hp) hle)
  · exact hne (FactKind.eq_of_opening (FactKind.ne_frontMatter_of_pattern? hp') hle).symm

/-- Two facts are at different places. -/
def Apart (f f' : Fact) : Prop :=
  f.spot.map (·.offset) ≠ f'.spot.map (·.offset)

theorem apart_of_mem_ofKind (hf : f ∈ (ofKind kind text).facts)
    (hf' : f' ∈ (ofKind kind' text).facts) (hne : kind ≠ kind') : Apart f f' := by
  obtain ⟨p, m, hp, hm, -, hs⟩ := exists_standsIn_of_mem_ofKind hf
  obtain ⟨p', m', hp', hm', -, hs'⟩ := exists_standsIn_of_mem_ofKind hf'
  unfold Apart
  rw [hs, hs', Option.map_some, Option.map_some, ne_eq, Option.some.injEq]
  exact start_ne_of_kind_ne hp hp' hm hm' hne

/-- A fact of the text is not where the place of the whole note is. -/
theorem apart_of_mem_ofFrontMatter (hf : f ∈ (ofKind kind text).facts)
    (hf' : f' ∈ (ofFrontMatter frontMatter key).facts) : Apart f f' := by
  obtain ⟨p, m, -, -, -, hs⟩ := exists_standsIn_of_mem_ofKind hf
  unfold Apart
  rw [hs, (kind_of_mem_facts_ofFrontMatter hf').2]
  exact Option.some_ne_none _

theorem pairwise_apart_ofKind (kind : FactKind) (text : List Char) :
    (ofKind kind text).facts.Pairwise Apart := by
  unfold ofKind ofList matchesOf
  rw [List.pairwise_filterMap, List.pairwise_map]
  cases hp : kind.pattern? with
  | none => exact List.Pairwise.nil
  | some p =>
    have hms := Pattern.successive_occurrences (FactKind.mayBeEmpty_pattern hp) text
    refine hms.pairwise.imp_of_mem fun {m m'} hm hm' hle f hf f' hf' => ?_
    have hspot := (readFrom_of_getLeft? hf).spot
    have hspot' := (readFrom_of_getLeft? hf').spot
    obtain ⟨_, _, -, -, -, hw, -⟩ := hms.standsIn m hm
    have hpos := List.length_pos_iff.2 (hw.ne_nil (FactKind.mayBeEmpty_pattern hp))
    unfold Apart
    rw [hspot, hspot', Option.map_some, Option.map_some, ne_eq, Option.some.injEq]
    show m.start ≠ m'.start
    omega

/-- No two facts of a note stand at one place. -/
theorem pairwise_apart (text : List Char) (frontMatter : Option Json) (key : String) :
    (ofNote text frontMatter key).facts.Pairwise Apart := by
  have hfront : (ofFrontMatter frontMatter key).facts.Pairwise Apart := by
    rcases ofFrontMatter_cases frontMatter key with ⟨-, h⟩ | ⟨p, -, h⟩
    · rw [h]
      exact List.Pairwise.nil
    · rw [h]
      exact List.pairwise_singleton ..
  simp only [ofNote_eq, facts_append, List.pairwise_append, List.mem_append]
  refine ⟨⟨⟨pairwise_apart_ofKind .., pairwise_apart_ofKind .., ?_⟩, pairwise_apart_ofKind .., ?_⟩,
    hfront, ?_⟩
  · exact fun f hf f' hf' => apart_of_mem_ofKind hf hf' FactKind.noConfusion
  · rintro f (hf | hf) f' hf'
    · exact apart_of_mem_ofKind hf hf' FactKind.noConfusion
    · exact apart_of_mem_ofKind hf hf' FactKind.noConfusion
  · rintro f ((hf | hf) | hf) f' hf'
    · exact apart_of_mem_ofFrontMatter hf hf'
    · exact apart_of_mem_ofFrontMatter hf hf'
    · exact apart_of_mem_ofFrontMatter hf hf'

end Extraction

end Gazetteer
