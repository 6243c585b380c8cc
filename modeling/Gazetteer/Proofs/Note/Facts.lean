import Gazetteer.Note.Fact
import Gazetteer.Proofs.Pattern.Occurrences

/-!
# The facts of each notation

Finding the facts of a note goes the same way for each of the three text notations: every place at
which the pattern of the notation occurs gives a fact or a dropped piece (`Extraction.found`). What
the facts and the pieces of the whole note are follows from that (`Extraction.ofNote_eq`), and those
of one notation can be told from the others by their kind (`Extraction.filter_facts_ofNote`).
-/

namespace Gazetteer

/-- The pattern of a notation; the front matter is not found by a pattern. -/
def FactKind.pattern? : FactKind → Option Pattern
  | .legacy => some Pattern.legacyLocation
  | .inline => some Pattern.inlineLocation
  | .geometryBlock => some Pattern.geometryBlock
  | .frontMatter => none

theorem FactKind.mayBeEmpty_pattern {kind : FactKind} {p : Pattern} (h : kind.pattern? = some p) :
    p.mayBeEmpty = false := by
  cases kind <;> cases h <;> rfl

namespace Extraction

variable {kind kind' : FactKind} {text : List Char} {frontMatter : Option Json} {key : String}
  {m : Pattern.Match} {f : Fact} {d : DroppedFact}

@[simp] theorem facts_append (a b : Extraction) : (a ++ b).facts = a.facts ++ b.facts := rfl

@[simp] theorem dropped_append (a b : Extraction) : (a ++ b).dropped = a.dropped ++ b.dropped := rfl

/-- What a match of a notation comes to: a fact, or a piece that is dropped. -/
def found (kind : FactKind) (m : Pattern.Match) : Fact ⊕ DroppedFact :=
  match kind with
  | .geometryBlock => ofMatch .geometryBlock payloadName m (geometryOf m)
  | kind => ofMatch kind (fun _ => groupText m "name") m (placeOf m)

/-- The matches of the pattern of a notation. -/
def matchesOf (kind : FactKind) (text : List Char) : List Pattern.Match :=
  (kind.pattern?.map (·.occurrences text)).getD []

/-- The facts of one notation. -/
def ofKind (kind : FactKind) (text : List Char) : Extraction :=
  ofList ((matchesOf kind text).map (found kind))

theorem ofNote_eq (text : List Char) (frontMatter : Option Json) (key : String) :
    ofNote text frontMatter key =
      ofKind .legacy text ++ ofKind .inline text ++ ofKind .geometryBlock text ++
        ofFrontMatter frontMatter key := rfl

/-! ## Single matches -/

/-- What the groups of a match of a notation hold: a place and the name in front of it, or a
geometry, which brings its name along. -/
inductive Holds (m : Pattern.Match) : FactKind → Payload → Option String → Prop
  | place {kind : FactKind} {p : LatLng} (hkind : kind ≠ .geometryBlock)
      (h : LatLng.read (m.group "lat") (m.group "lng") = .ok p) :
      Holds m kind (.place p) (groupText m "name")
  | geometry {d : GeoDocument}
      (h : GeoDocument.read (String.ofList (m.group "payload")) = .ok d) :
      Holds m .geometryBlock (.geometry d) d.name?

/-- Why the groups of a match of a notation hold neither. -/
inductive HoldsNone (m : Pattern.Match) : FactKind → Error → Prop
  | place {kind : FactKind} {fault : LatLng.Fault} (hkind : kind ≠ .geometryBlock)
      (h : LatLng.read (m.group "lat") (m.group "lng") = .error fault) :
      HoldsNone m kind fault.toError
  | geometry {fault : GeoDocument.Fault}
      (h : GeoDocument.read (String.ofList (m.group "payload")) = .error fault) :
      HoldsNone m .geometryBlock fault.toError

/-- A fact is read from a match: it is what the groups hold, with the text and the position. -/
structure ReadFrom (kind : FactKind) (m : Pattern.Match) (f : Fact) : Prop where
  holds : Holds m kind f.payload f.displayName
  tagsText : f.tagsText = groupText m "tags"
  kind : f.kind = kind
  text : f.text = m.text
  spot : f.spot = some ⟨m.start, m.byteStart⟩

/-- A piece is dropped for a match: its groups hold nothing. -/
structure DroppedFor (kind : FactKind) (m : Pattern.Match) (d : DroppedFact) : Prop where
  holdsNone : HoldsNone m kind d.error
  kind : d.kind = kind
  text : d.text = m.text
  offset : d.offset = some m.start

/-- A fact or a dropped piece stands for a match. -/
def StandsFor (kind : FactKind) (m : Pattern.Match) : Fact ⊕ DroppedFact → Prop
  | .inl f => ReadFrom kind m f
  | .inr d => DroppedFor kind m d

theorem found_of_ne (hkind : kind ≠ .geometryBlock) :
    found kind m = ofMatch kind (fun _ => groupText m "name") m (placeOf m) := by
  cases kind with
  | geometryBlock => exact absurd rfl hkind
  | _ => rfl

theorem standsFor_found (kind : FactKind) (m : Pattern.Match) :
    StandsFor kind m (found kind m) := by
  by_cases hkind : kind = .geometryBlock
  · subst hkind
    unfold found geometryOf
    cases h : GeoDocument.read (String.ofList (m.group "payload")) with
    | ok d => exact ⟨.geometry h, rfl, rfl, rfl, rfl⟩
    | error fault => exact ⟨.geometry h, rfl, rfl, rfl⟩
  · rw [found_of_ne hkind, placeOf]
    cases h : LatLng.read (m.group "lat") (m.group "lng") with
    | ok p => exact ⟨.place hkind h, rfl, rfl, rfl, rfl⟩
    | error fault => exact ⟨.place hkind h, rfl, rfl, rfl⟩

/-- A notation other than that of geometries holds a place. -/
theorem Holds.place_of_ne {payload : Payload} {name : Option String}
    (h : Holds m kind payload name) (hkind : kind ≠ .geometryBlock) :
    (∃ p, payload = .place p) ∧ name = groupText m "name" := by
  cases h with
  | place => exact ⟨⟨_, rfl⟩, rfl⟩
  | geometry => exact absurd rfl hkind

/-- **Nothing else stands for a match than what it is found to be.** -/
theorem StandsFor.eq_found {x : Fact ⊕ DroppedFact} (h : StandsFor kind m x) :
    x = found kind m := by
  cases x with
  | inl f =>
    obtain ⟨hholds, htags, hkind, htext, hspot⟩ := h
    obtain ⟨_, payload, name, _, _, _⟩ := f
    subst htags hkind htext hspot
    cases hholds with
    | place hkind h =>
      rw [found_of_ne hkind, placeOf, h]
      rfl
    | geometry h =>
      rw [found, geometryOf, h]
      rfl
  | inr d =>
    obtain ⟨hnone, hkind, htext, hoffset⟩ := h
    obtain ⟨_, _, _, error⟩ := d
    subst hkind htext hoffset
    cases hnone with
    | place hkind h =>
      rw [found_of_ne hkind, placeOf, h]
      rfl
    | geometry h =>
      rw [found, geometryOf, h]
      rfl

theorem readFrom_of_found (h : found kind m = .inl f) : ReadFrom kind m f := by
  have hstands := standsFor_found kind m
  rwa [h] at hstands

theorem readFrom_of_getLeft? (h : (found kind m).getLeft? = some f) : ReadFrom kind m f :=
  readFrom_of_found (Sum.getLeft?_eq_some_iff.1 h)

theorem droppedFor_of_found (h : found kind m = .inr d) : DroppedFor kind m d := by
  have hstands := standsFor_found kind m
  rwa [h] at hstands

/-! ## Notes -/

theorem mem_facts_ofKind_iff :
    f ∈ (ofKind kind text).facts ↔ ∃ m ∈ matchesOf kind text, found kind m = .inl f := by
  simp only [ofKind, ofList, List.mem_filterMap, List.mem_map, Sum.getLeft?_eq_some_iff,
    exists_exists_and_eq_and]

theorem mem_dropped_ofKind_iff :
    d ∈ (ofKind kind text).dropped ↔ ∃ m ∈ matchesOf kind text, found kind m = .inr d := by
  simp only [ofKind, ofList, List.mem_filterMap, List.mem_map, Sum.getRight?_eq_some_iff,
    exists_exists_and_eq_and]

/-- The front matter holds at most one fact, a place, and nothing of it is dropped. -/
theorem ofFrontMatter_cases (frontMatter : Option Json) (key : String) :
    (frontMatter.bind (LatLng.ofFrontMatter · key) = none ∧
        ofFrontMatter frontMatter key = ⟨[], []⟩) ∨
      ∃ p, frontMatter.bind (LatLng.ofFrontMatter · key) = some p ∧
        ofFrontMatter frontMatter key = ⟨[⟨.frontMatter, .place p, none, none, none, []⟩], []⟩ := by
  unfold ofFrontMatter
  cases frontMatter.bind (LatLng.ofFrontMatter · key) with
  | none => exact Or.inl ⟨rfl, rfl⟩
  | some p => exact Or.inr ⟨p, rfl, rfl⟩

/-- Every fact of a note is a match of a text notation or stands in the front matter. -/
theorem mem_facts_ofNote_iff :
    f ∈ (ofNote text frontMatter key).facts ↔
      (∃ kind, ∃ m ∈ matchesOf kind text, found kind m = .inl f) ∨
        f ∈ (ofFrontMatter frontMatter key).facts := by
  simp only [ofNote_eq, facts_append, List.mem_append, mem_facts_ofKind_iff]
  constructor
  · rintro (((h | h) | h) | h)
    · exact Or.inl ⟨_, h⟩
    · exact Or.inl ⟨_, h⟩
    · exact Or.inl ⟨_, h⟩
    · exact Or.inr h
  · rintro (⟨kind, h⟩ | h)
    · cases kind with
      | legacy => exact Or.inl (Or.inl (Or.inl h))
      | inline => exact Or.inl (Or.inl (Or.inr h))
      | geometryBlock => exact Or.inl (Or.inr h)
      | frontMatter => simp [matchesOf, FactKind.pattern?] at h
    · exact Or.inr h

/-! ## One notation -/

theorem kind_of_mem_facts_ofKind (h : f ∈ (ofKind kind text).facts) : f.kind = kind := by
  obtain ⟨m, -, hm⟩ := mem_facts_ofKind_iff.1 h
  exact (readFrom_of_found hm).kind

theorem kind_of_mem_dropped_ofKind (h : d ∈ (ofKind kind text).dropped) : d.kind = kind := by
  obtain ⟨m, -, hm⟩ := mem_dropped_ofKind_iff.1 h
  exact (droppedFor_of_found hm).kind

theorem filter_facts_ofKind (kind kind' : FactKind) (text : List Char) :
    (ofKind kind text).facts.filter (·.kind == kind') =
      if kind = kind' then (ofKind kind text).facts else [] := by
  split
  · rename_i h
    exact List.filter_eq_self.2 fun f hf => beq_iff_eq.2 (h ▸ kind_of_mem_facts_ofKind hf)
  · rename_i h
    refine List.filter_eq_nil_iff.2 fun f hf he => h ?_
    rw [← kind_of_mem_facts_ofKind hf, beq_iff_eq.1 he]

theorem filter_dropped_ofKind (kind kind' : FactKind) (text : List Char) :
    (ofKind kind text).dropped.filter (·.kind == kind') =
      if kind = kind' then (ofKind kind text).dropped else [] := by
  split
  · rename_i h
    exact List.filter_eq_self.2 fun d hd => beq_iff_eq.2 (h ▸ kind_of_mem_dropped_ofKind hd)
  · rename_i h
    refine List.filter_eq_nil_iff.2 fun d hd he => h ?_
    rw [← kind_of_mem_dropped_ofKind hd, beq_iff_eq.1 he]

theorem kind_of_mem_facts_ofFrontMatter (h : f ∈ (ofFrontMatter frontMatter key).facts) :
    f.kind = .frontMatter ∧ f.spot = none := by
  rcases ofFrontMatter_cases frontMatter key with ⟨-, hnone⟩ | ⟨p, -, hsome⟩
  · rw [hnone] at h
    cases h
  · rw [hsome] at h
    rw [List.mem_singleton.1 h]
    exact ⟨rfl, rfl⟩

theorem payload_facts_ofFrontMatter (frontMatter : Option Json) (key : String) :
    (ofFrontMatter frontMatter key).facts.map Fact.payload =
      ((frontMatter.bind (LatLng.ofFrontMatter · key)).map Payload.place).toList := by
  rcases ofFrontMatter_cases frontMatter key with ⟨hp, h⟩ | ⟨p, hp, h⟩ <;> rw [h, hp] <;> rfl

theorem dropped_ofFrontMatter (frontMatter : Option Json) (key : String) :
    (ofFrontMatter frontMatter key).dropped = [] := by
  rcases ofFrontMatter_cases frontMatter key with ⟨-, h⟩ | ⟨p, -, h⟩ <;> rw [h]

/-- The facts of one text notation among those of a note. -/
theorem filter_facts_ofNote {p : Pattern} (hp : kind.pattern? = some p) :
    (ofNote text frontMatter key).facts.filter (·.kind == kind) = (ofKind kind text).facts := by
  have hfront : (ofFrontMatter frontMatter key).facts.filter (·.kind == kind) = [] := by
    refine List.filter_eq_nil_iff.2 fun f hf he => ?_
    rw [(kind_of_mem_facts_ofFrontMatter hf).1] at he
    rw [← beq_iff_eq.1 he] at hp
    cases hp
  simp only [ofNote_eq, facts_append, List.filter_append, filter_facts_ofKind, hfront]
  cases kind with
  | legacy => simp
  | inline => simp
  | geometryBlock => simp
  | frontMatter => cases hp

/-- The dropped pieces of one text notation among those of a note. -/
theorem filter_dropped_ofNote {p : Pattern} (hp : kind.pattern? = some p) :
    (ofNote text frontMatter key).dropped.filter (·.kind == kind) = (ofKind kind text).dropped := by
  simp only [ofNote_eq, dropped_append, List.filter_append, filter_dropped_ofKind,
    dropped_ofFrontMatter, List.append_nil]
  cases kind with
  | legacy => simp
  | inline => simp
  | geometryBlock => simp
  | frontMatter => cases hp

/-- The notations come one after the other, the front matter last. -/
theorem facts_ofNote_eq (text : List Char) (frontMatter : Option Json) (key : String) :
    let fs := (ofNote text frontMatter key).facts
    fs = fs.filter (·.kind == .legacy) ++ fs.filter (·.kind == .inline) ++
      fs.filter (·.kind == .geometryBlock) ++ (ofFrontMatter frontMatter key).facts := by
  intro fs
  rw [show fs.filter (·.kind == .legacy) = _ from filter_facts_ofNote rfl,
    show fs.filter (·.kind == .inline) = _ from filter_facts_ofNote rfl,
    show fs.filter (·.kind == .geometryBlock) = _ from filter_facts_ofNote rfl]
  rfl

/-- Nothing of the front matter is dropped. -/
theorem kind_of_mem_dropped_ofNote (h : d ∈ (ofNote text frontMatter key).dropped) :
    d.kind ≠ .frontMatter := by
  rw [ofNote_eq, dropped_append, dropped_ofFrontMatter, List.append_nil] at h
  simp only [dropped_append, List.mem_append] at h
  rcases h with (h | h) | h <;> simp [kind_of_mem_dropped_ofKind h]

/-- Every fact outside the front matter has a position. -/
theorem exists_spot_of_kind_ne (hf : f ∈ (ofNote text frontMatter key).facts)
    (hk : f.kind ≠ .frontMatter) : ∃ spot, f.spot = some spot := by
  rcases mem_facts_ofNote_iff.1 hf with ⟨kind, m, -, hfound⟩ | hfront
  · exact ⟨_, (readFrom_of_found hfound).spot⟩
  · exact absurd (kind_of_mem_facts_ofFrontMatter hfront).1 hk

/-- Every fact of a text notation is a match of its pattern. -/
theorem exists_standsIn_of_mem_ofKind (h : f ∈ (ofKind kind text).facts) :
    ∃ p m, kind.pattern? = some p ∧ Pattern.Match.StandsIn m p text ∧ f.text = m.text ∧
      f.spot = some ⟨m.start, m.byteStart⟩ := by
  obtain ⟨m, hm, hfound⟩ := mem_facts_ofKind_iff.1 h
  have hread := readFrom_of_found hfound
  unfold matchesOf at hm
  cases hp : kind.pattern? with
  | none =>
    rw [hp] at hm
    cases hm
  | some p =>
    rw [hp] at hm
    have hms := Pattern.successive_occurrences (FactKind.mayBeEmpty_pattern hp) text
    exact ⟨p, m, rfl, hms.standsIn m hm, hread.text, hread.spot⟩

/-- Every fact with a position is a match of a text notation. -/
theorem exists_standsIn_of_spot (hf : f ∈ (ofNote text frontMatter key).facts) {spot : Spot}
    (hs : f.spot = some spot) :
    ∃ p m, Pattern.Match.StandsIn m p text ∧ f.text = m.text ∧ spot = ⟨m.start, m.byteStart⟩ := by
  rcases mem_facts_ofNote_iff.1 hf with ⟨kind, hfound⟩ | hfront
  · obtain ⟨p, m, -, hm, htext, hspot⟩ :=
      exists_standsIn_of_mem_ofKind (mem_facts_ofKind_iff.2 hfound)
    rw [hs, Option.some.injEq] at hspot
    exact ⟨p, m, hm, htext, hspot⟩
  · rw [(kind_of_mem_facts_ofFrontMatter hfront).2] at hs
    cases hs

end Extraction

end Gazetteer
