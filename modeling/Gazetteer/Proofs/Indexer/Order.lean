import Gazetteer.Proofs.Indexer.Consistency

/-!
# The order of updates

Two notes can give layers with one id, as ids have file names in them and no paths. An update of a
note takes no id away from another note, so the first one that is updated keeps the id
(`ownerAfter`). What two updates leave therefore depends on their order exactly if the notes contest
an id: both give it and it is free, or one note has it and does not give it any longer, while the
other gives it now.
-/

namespace Gazetteer

variable {a b source t : SourceRef} {o : Option SourceRef} {i j : LayerIndex} {l : Layer}
  {id : String}

/-! ## Who has an id -/

/-- Who has an id after a note was indexed anew: another note that had it before, or the note itself
if it gives a layer with the id. -/
def ownerAfter (source : SourceRef) (gives : Bool) (owner : Option SourceRef) :
    Option SourceRef :=
  if owner.all (· == source) then (if gives then some source else none) else owner

/-- Two notes that may give an id contest it: it is free and both give it, or one of them has it and
only the other one gives it. -/
def Contested (a b : SourceRef) (givesA givesB : Bool) (owner : Option SourceRef) : Prop :=
  owner = none ∧ givesA = true ∧ givesB = true ∨
    owner = some a ∧ givesA = false ∧ givesB = true ∨
    owner = some b ∧ givesA = true ∧ givesB = false

theorem ownerAfter_of_ne (h : t ≠ source) (gives : Bool) :
    ownerAfter source gives (some t) = some t := by
  simp [ownerAfter, h]

theorem ownerAfter_of_forall_eq (h : ∀ t, o = some t → t = source) (gives : Bool) :
    ownerAfter source gives o = if gives then some source else none := by
  have hall : o.all (· == source) = true := by simpa [Option.all_eq_true] using h
  rw [ownerAfter, if_pos hall]

/-- Who has an id after two notes were indexed anew depends on the order if they contest it, and
only then. -/
theorem ownerAfter_comm_iff (hab : a ≠ b) (givesA givesB : Bool) (o : Option SourceRef) :
    ownerAfter b givesB (ownerAfter a givesA o) = ownerAfter a givesA (ownerAfter b givesB o) ↔
      ¬Contested a b givesA givesB o := by
  cases o with
  | none => cases givesA <;> cases givesB <;> simp [ownerAfter, Contested, hab, hab.symm]
  | some t =>
    by_cases ha : t = a
    · subst ha
      cases givesA <;> cases givesB <;> simp [ownerAfter, Contested, hab]
    · by_cases hb : t = b
      · subst hb
        cases givesA <;> cases givesB <;> simp [ownerAfter, Contested, hab.symm]
      · simp [ownerAfter, Contested, ha, hb]

namespace LayerIndex

/-- The note that the layer under an id comes from. -/
def owner? (i : LayerIndex) (id : String) : Option SourceRef :=
  (i.get? id).bind Layer.source?

theorem owner?_eq_some_iff :
    i.owner? id = some source ↔ ∃ l, i.get? id = some l ∧ l.source? = some source := by
  unfold owner?
  rw [Option.bind_eq_some_iff]

theorem WF.owner?_eq_none_iff (h : i.WF) : i.owner? id = none ↔ i.get? id = none := by
  unfold owner?
  rw [Option.bind_eq_none_iff]
  constructor
  · intro hall
    cases hg : i.get? id with
    | none => rfl
    | some l =>
      obtain ⟨source, hs⟩ := h.sourced hg
      rw [hall l hg] at hs
      cases hs
  · intro hg l hl
    rw [hg] at hl
    cases hl

/-- Indexes have the same ids from the same notes if every id has the same owner. -/
theorem WF.owner?_eq_iff (h : i.WF) (h' : j.WF) :
    (∀ id, i.owner? id = j.owner? id) ↔
      i.ids = j.ids ∧
        ∀ id l l', i.get? id = some l → j.get? id = some l' → l.source? = l'.source? := by
  have hcontains : ∀ {k : LayerIndex}, k.WF → ∀ id,
      k.contains id = true ↔ ∃ source, k.owner? id = some source := by
    intro k hk id
    rw [contains_iff, ← Option.isSome_iff_exists, ← Option.isSome_iff_exists,
      Option.isSome_iff_ne_none, Option.isSome_iff_ne_none, ne_eq, ne_eq, hk.owner?_eq_none_iff]
  constructor
  · intro howner
    refine ⟨SortedMap.keys_congr fun id => Bool.eq_iff_iff.2 ?_, fun id l l' hl hl' => ?_⟩
    · exact (hcontains h id).trans (by rw [howner id]; exact (hcontains h' id).symm)
    · have ho := howner id
      unfold owner? at ho
      rwa [hl, hl'] at ho
  · rintro ⟨hids, hsources⟩ id
    have hboth : i.contains id = true ↔ j.contains id = true := by
      have hi : id ∈ i.ids ↔ i.contains id = true := SortedMap.mem_keys_iff
      have hj : id ∈ j.ids ↔ j.contains id = true := SortedMap.mem_keys_iff
      rw [← hi, ← hj, hids]
    rw [contains_iff, contains_iff] at hboth
    unfold owner?
    cases hg : i.get? id with
    | none =>
      cases hg' : j.get? id with
      | none => rfl
      | some l' =>
        obtain ⟨l, hl⟩ := hboth.2 ⟨l', hg'⟩
        rw [hg] at hl
        cases hl
    | some l =>
      obtain ⟨l', hl'⟩ := hboth.1 ⟨l, hg⟩
      rw [hl']
      exact hsources id l l' hg hl'

end LayerIndex

/-! ## Updates -/

namespace Indexer

variable {x : Indexer} {notes : Notes} {d : Applied}

/-- The ids of the layers that a note has when it is indexed anew. -/
def givenIds (x : Indexer) (notes : Notes) (source : SourceRef) : List String :=
  match x.rebuild notes source with
  | .ok (ls, _) => ls.map Layer.id
  | .error _ => []

/-- Whether a note gives a layer with an id when it is indexed anew. -/
def gives (x : Indexer) (notes : Notes) (source : SourceRef) (id : String) : Bool :=
  (x.givenIds notes source).contains id

theorem gives_of_rebuild {ls : List Layer} {ds : List DroppedFact}
    (h : x.rebuild notes source = .ok (ls, ds)) (id : String) :
    x.gives notes source id = true ↔ ∃ b ∈ ls, b.id = id := by
  simp [gives, givenIds, h]

theorem isOk_of_gives (h : x.gives notes source id = true) :
    (x.rebuild notes source).isOk = true := by
  unfold gives givenIds at h
  split at h
  · rename_i hbuilt
    rw [hbuilt]
    rfl
  · cases h

theorem gives_update {scope : UpdateScope} {notes' : Notes} (h : x.update notes' scope = .ok d)
    (notes : Notes) (source : SourceRef) (id : String) :
    d.indexer.gives notes source id = x.gives notes source id := by
  unfold gives givenIds
  rw [rebuild_update h]

/-- Notes that give layers can be updated, one after the other. -/
theorem exists_update_file_file {id' : String} (ha : x.gives notes a id = true)
    (hb : x.gives notes b id' = true) :
    ∃ d₁ d₂, x.update notes (.file a) = .ok d₁ ∧ d₁.indexer.update notes (.file b) = .ok d₂ := by
  obtain ⟨d₁, h₁⟩ := exists_update_file_iff.2 (isOk_of_gives ha)
  rw [← gives_update h₁] at hb
  obtain ⟨d₂, h₂⟩ := exists_update_file_iff.2 (isOk_of_gives hb)
  exact ⟨d₁, d₂, h₁, h₂⟩

/-- Who has an id after candidates of a note were put into an index. -/
theorem owner?_reconcileNext_file {next : NextState} (h : i.WF)
    (hr : next.restamped = (i.others source).filterMap next.graph.restamp?)
    (hc : ∀ c ∈ next.candidates, c.source? = some source) (id : String) :
    (reconcileNext i (.file source) next).1.owner? id =
      ownerAfter source (next.candidates.any fun c => c.id == id) (i.owner? id) := by
  have hget : ∀ l, (reconcileNext i (.file source) next).1.get? id = some l ↔ _ := fun l =>
    get?_reconcileNext_file h hr
  by_cases hother : ∃ old ∈ i.others source, old.id = id
  · obtain ⟨old, hold, hid⟩ := hother
    obtain ⟨hg, hs⟩ := h.mem_others.1 hold
    obtain ⟨t, ht⟩ := h.sourced hg
    have hne : t ≠ source := fun he => hs (ht.trans (congrArg some he))
    have howner : i.owner? id = some t := LayerIndex.owner?_eq_some_iff.2 ⟨old, hid ▸ hg, ht⟩
    rw [howner, ownerAfter_of_ne hne, LayerIndex.owner?_eq_some_iff]
    exact ⟨_, (hget _).2 (Or.inl ⟨old, hold, hid, rfl⟩), by rw [LinkGraph.source?_stamp, ht]⟩
  · have hfree : ∀ old ∈ i.others source, old.id ≠ id := fun old hold hid =>
      hother ⟨old, hold, hid⟩
    have hown := h.forall_others_ne_iff.1 hfree
    have howner : ∀ t, i.owner? id = some t → t = source := by
      intro t ht
      obtain ⟨l, hl, hs⟩ := LayerIndex.owner?_eq_some_iff.1 ht
      exact Option.some.inj (hs.symm.trans (hown l hl))
    rw [ownerAfter_of_forall_eq howner]
    split
    · rename_i hany
      obtain ⟨c, hmem, hid⟩ := List.any_eq_true.1 hany
      have hfloat := Layer.isFloating_eq_false_iff.2 ⟨source, hc c hmem⟩
      obtain ⟨c', hc', hid'⟩ := exists_mem_distinctLayers hmem hfloat List.not_mem_nil
      have hidc : c'.id = id := hid'.trans (beq_iff_eq.1 hid)
      refine LayerIndex.owner?_eq_some_iff.2
        ⟨_, (hget _).2 (Or.inr ⟨hfree, c', hc', hidc, rfl⟩), ?_⟩
      rcases i.settle_cases c' with hsame | ⟨hg, -⟩
      · rw [hsame, hc c' (mem_of_mem_distinctLayers hc')]
      · exact hown _ (hidc ▸ hg)
    · rename_i hany
      rw [(wf_reconcileNext h _ _).owner?_eq_none_iff, Option.eq_none_iff_forall_ne_some]
      intro l hl
      rcases (hget l).1 hl with ⟨old, hold, hid, -⟩ | ⟨-, c, hmem, hid, -⟩
      · exact hfree old hold hid
      · exact hany (List.any_eq_true.2 ⟨c, mem_of_mem_distinctLayers hmem, beq_iff_eq.2 hid⟩)

/-- Who has an id after an update of a note. -/
theorem owner?_update_file (hi : x.index.WF) (h : x.update notes (.file source) = .ok d)
    (id : String) :
    d.indexer.index.owner? id =
      ownerAfter source (x.gives notes source id) (x.index.owner? id) := by
  obtain ⟨ls, ds, hbuilt, hcase⟩ := update_file_eq_ok h
  have hgives := gives_of_rebuild hbuilt id
  rcases hcase with ⟨hnil, hhas, hd⟩ | hd
  · -- The note neither had the id nor gives it.
    have hno : x.gives notes source id = false := by simp [Bool.eq_false_iff, hgives, hnil]
    rw [hd, hno]
    show x.index.owner? id = _
    cases ho : x.index.owner? id with
    | none => rfl
    | some t =>
      refine (ownerAfter_of_ne ?_ _).symm
      rintro rfl
      obtain ⟨l, hl, hs⟩ := LayerIndex.owner?_eq_some_iff.1 ho
      rw [hi.hasLayersOf_iff.2 ⟨id, l, hl, hs⟩] at hhas
      cases hhas
  · have hcand : (x.stateWith notes source ls).candidates =
        ls.map (x.stateWith notes source ls).graph.stamp := rfl
    rw [hd]
    refine (owner?_reconcileNext_file hi rfl (fun c hc => ?_) id).trans ?_
    · obtain ⟨b, hb, rfl⟩ := List.mem_map.1 hc
      rw [LinkGraph.source?_stamp]
      exact source?_of_mem_rebuild hbuilt hb
    · congr 1
      rw [Bool.eq_iff_iff, hgives, hcand]
      simp

end Indexer

namespace Session

variable {s : Session}

/-- **The order of two updates shows exactly in the ids that the notes contest.** Let two notes be
indexed anew, one after the other, whatever happened before, for instance after everything was
indexed and both notes were edited. Then they can be indexed in the other order as well. Both orders
leave the same ids, each with a layer from the same note, if and only if the notes contest no id. -/
theorem order_of_file_updates (h : s.Reachable) (hab : a ≠ b) {d₁ d₂ : Indexer.Applied}
    (h₁ : s.indexer.update s.notes (.file a) = .ok d₁)
    (h₂ : d₁.indexer.update s.notes (.file b) = .ok d₂) :
    ∃ e₁ e₂, s.indexer.update s.notes (.file b) = .ok e₁ ∧
      e₁.indexer.update s.notes (.file a) = .ok e₂ ∧
      ((d₂.indexer.index.ids = e₂.indexer.index.ids ∧
          ∀ id l l', d₂.indexer.index.get? id = some l → e₂.indexer.index.get? id = some l' →
            l.source? = l'.source?) ↔
        ∀ id, ¬Contested a b (s.indexer.gives s.notes a id) (s.indexer.gives s.notes b id)
          (s.indexer.index.owner? id)) := by
  have hwf := h.consistent.counted.wf
  have hwf₁ := Indexer.wf_update hwf h₁
  obtain ⟨e₁, he₁⟩ : ∃ e₁, s.indexer.update s.notes (.file b) = .ok e₁ := by
    rw [Indexer.exists_update_file_iff, ← Indexer.rebuild_update h₁,
      ← Indexer.exists_update_file_iff]
    exact ⟨d₂, h₂⟩
  obtain ⟨e₂, he₂⟩ : ∃ e₂, e₁.indexer.update s.notes (.file a) = .ok e₂ := by
    rw [Indexer.exists_update_file_iff, Indexer.rebuild_update he₁,
      ← Indexer.exists_update_file_iff]
    exact ⟨d₁, h₁⟩
  have hwf₁' := Indexer.wf_update hwf he₁
  refine ⟨e₁, e₂, he₁, he₂, ?_⟩
  rw [← (Indexer.wf_update hwf₁ h₂).owner?_eq_iff (Indexer.wf_update hwf₁' he₂)]
  refine forall_congr' fun id => ?_
  rw [Indexer.owner?_update_file hwf₁ h₂, Indexer.owner?_update_file hwf h₁,
    Indexer.owner?_update_file hwf₁' he₂, Indexer.owner?_update_file hwf he₁,
    Indexer.gives_update h₁, Indexer.gives_update he₁]
  exact ownerAfter_comm_iff hab _ _ _

/-- Everything was indexed when there were no notes, and then there are some. -/
theorem run_of_first_notes {config : Config} {x : Indexer} (hx : Indexer.new config = .ok x)
    (notes : Notes) :
    ∃ d, x.update NoteStore.empty.notes .full = .ok d ∧ d.indexer.index = .empty ∧
      (start x NoteStore.empty.notes).run [.prepare .full, .apply 0, .edit notes] =
        ⟨d.indexer, notes, [], d.events⟩ := by
  obtain ⟨d, hd⟩ := Indexer.exists_update_eq_ok (Indexer.prepare_full x NoteStore.empty.notes)
  refine ⟨d, hd, ?_, ?_⟩
  · rw [Indexer.index_first_update_full hx hd]
    rfl
  · exact congrArg (fun s => s.step (.edit notes))
      (run_update (s := start x NoteStore.empty.notes) rfl hd)

/-- Two new notes with a place each, under two names. -/
theorem order_of_file_updates_two_names :
    ∃ x, Indexer.new .default = .ok x ∧
      let store := NoteStore.ofList [("A.md", "[a](geo:1,2)"), ("B.md", "[b](geo:3,4) [[A]]")]
      let s := (start x NoteStore.empty.notes).run [.prepare .full, .apply 0, .edit store.notes]
      ∃ d₁ d₂ e₁ e₂, s.indexer.update s.notes (.file ⟨"A.md"⟩) = .ok d₁ ∧
        d₁.indexer.update s.notes (.file ⟨"B.md"⟩) = .ok d₂ ∧
        s.indexer.update s.notes (.file ⟨"B.md"⟩) = .ok e₁ ∧
        e₁.indexer.update s.notes (.file ⟨"A.md"⟩) = .ok e₂ ∧
        d₂.indexer.index.ids = e₂.indexer.index.ids := by
  have hcheck : (Indexer.new .default).toOption.any (fun x =>
      let store := NoteStore.ofList [("A.md", "[a](geo:1,2)"), ("B.md", "[b](geo:3,4) [[A]]")]
      x.givenIds store.notes ⟨"A.md"⟩ == ["A.md1200"] &&
        x.givenIds store.notes ⟨"B.md"⟩ == ["B.md3400"]) = true := by
    decide +kernel
  obtain ⟨x, hx, hcheck⟩ := exists_of_any_toOption hcheck
  refine ⟨x, hx, ?_⟩
  intro store s
  obtain ⟨hA, hB⟩ := Bool.and_eq_true_iff.1 hcheck
  obtain ⟨d, hd, hempty, hs⟩ := run_of_first_notes hx store.notes
  have hgivesA : ∀ id, d.indexer.gives store.notes ⟨"A.md"⟩ id = ["A.md1200"].contains id :=
    fun id => by rw [Indexer.gives_update hd, Indexer.gives, beq_iff_eq.1 hA]
  have hgivesB : ∀ id, d.indexer.gives store.notes ⟨"B.md"⟩ id = ["B.md3400"].contains id :=
    fun id => by rw [Indexer.gives_update hd, Indexer.gives, beq_iff_eq.1 hB]
  have hreach : s.Reachable := (Reachable.start hx _).run _
  rw [show s = _ from hs] at hreach ⊢
  obtain ⟨d₁, d₂, h₁, h₂⟩ := Indexer.exists_update_file_file
    ((hgivesA "A.md1200").trans (by decide)) ((hgivesB "B.md3400").trans (by decide))
  obtain ⟨e₁, e₂, he₁, he₂, hsame⟩ := order_of_file_updates hreach (by decide) h₁ h₂
  refine ⟨d₁, d₂, e₁, e₂, h₁, h₂, he₁, he₂, (hsame.2 fun id hc => ?_).1⟩
  simp only [hgivesA, hgivesB, hempty] at hc
  rcases hc with ⟨-, ha, hb⟩ | ⟨ho, -⟩ | ⟨ho, -⟩
  · rw [List.contains_iff_mem, List.mem_singleton] at ha hb
    exact absurd (ha.symm.trans hb) (by decide)
  · cases ho
  · cases ho

/-- Two new notes under one name in different folders, with the same place: the one that is updated
first has it. -/
theorem owners_of_one_name_in_both_orders :
    ∃ x, Indexer.new .default = .ok x ∧
      let store := NoteStore.ofList [("A/X.md", "[x](geo:1,2)"), ("B/X.md", "[x](geo:1,2)")]
      let s := (start x NoteStore.empty.notes).run [.prepare .full, .apply 0, .edit store.notes]
      ∃ d₁ d₂ e₁ e₂, s.indexer.update s.notes (.file ⟨"A/X.md"⟩) = .ok d₁ ∧
        d₁.indexer.update s.notes (.file ⟨"B/X.md"⟩) = .ok d₂ ∧
        s.indexer.update s.notes (.file ⟨"B/X.md"⟩) = .ok e₁ ∧
        e₁.indexer.update s.notes (.file ⟨"A/X.md"⟩) = .ok e₂ ∧
        d₂.indexer.index.owner? "X.md1200" = some ⟨"A/X.md"⟩ ∧
        e₂.indexer.index.owner? "X.md1200" = some ⟨"B/X.md"⟩ := by
  have hcheck : (Indexer.new .default).toOption.any (fun x =>
      let store := NoteStore.ofList [("A/X.md", "[x](geo:1,2)"), ("B/X.md", "[x](geo:1,2)")]
      x.gives store.notes ⟨"A/X.md"⟩ "X.md1200" && x.gives store.notes ⟨"B/X.md"⟩ "X.md1200") =
        true := by
    decide +kernel
  obtain ⟨x, hx, hcheck⟩ := exists_of_any_toOption hcheck
  refine ⟨x, hx, ?_⟩
  intro store s
  obtain ⟨hA, hB⟩ := Bool.and_eq_true_iff.1 hcheck
  obtain ⟨d, hd, hempty, hs⟩ := run_of_first_notes hx store.notes
  rw [← Indexer.gives_update hd] at hA hB
  rw [show s = _ from hs]
  have hwf : d.indexer.index.WF := hempty ▸ .empty
  obtain ⟨d₁, d₂, h₁, h₂⟩ := Indexer.exists_update_file_file hA hB
  obtain ⟨e₁, e₂, he₁, he₂⟩ := Indexer.exists_update_file_file hB hA
  refine ⟨d₁, d₂, e₁, e₂, h₁, h₂, he₁, he₂, ?_, ?_⟩
  · rw [Indexer.owner?_update_file (Indexer.wf_update hwf h₁) h₂,
      Indexer.owner?_update_file hwf h₁, Indexer.gives_update h₁, hA, hB, hempty]
    decide
  · rw [Indexer.owner?_update_file (Indexer.wf_update hwf he₁) he₂,
      Indexer.owner?_update_file hwf he₁, Indexer.gives_update he₁, hA, hB, hempty]
    decide

end Session

end Gazetteer
