import Gazetteer.Proofs.Indexer.Invariant
import Gazetteer.Proofs.Indexer.Reports
import Gazetteer.Proofs.Layer.Moving

/-!
# Moving indexed markers

A marker is moved where its text was when it came into the index, so it can be moved as long as its
text stands there (`LayerInfo.StandsIn`). The layers that a note has now stand in its text now. But
an update leaves a marker as it is if its candidate says nothing new, and neither the text of a fact
nor its position in bytes is compared: such a marker may be written in another way in the text, or
the bytes in front of it may be others, and then it cannot be moved although the note was just
indexed.
-/

namespace Gazetteer

variable {notes : Notes} {source : SourceRef} {text : List Char} {f : Fact} {i : LayerInfo}
  {l b : Layer} {m : Marker} {p : LatLng} {id : String}

/-! ## Moving an indexed marker -/

/-- Moving an indexed marker that is written in the text of its note. -/
theorem Indexer.move_eq {x : Indexer} (hg : x.index.get? id = some (.marker m)) {content : String}
    (ht : notes.text m.info.source = .ok content) (hk : m.info.factKind ≠ some .frontMatter) :
    x.move notes id p = ((m.moveIn content.toList p).mapError MoveFault.toError).map
      fun moved => (m.info.source, String.ofList moved) := by
  unfold move
  simp only [hg, if_neg hk]
  rw [bind_of_eq_ok ht]
  cases m.moveIn content.toList p <;> rfl

/-! ## The layers of a file -/

/-- Layers of facts in a text know where they stand. -/
def Layer.KnowsSpot (l : Layer) : Prop :=
  ∀ i kind, l.info? = some i → i.factKind = some kind → kind ≠ .frontMatter →
    i.offset ≠ none ∧ (∃ offset, i.byteOffset = some offset) ∧ ∃ raw, i.rawText = some raw

theorem Layer.lasting_knowsSpot : Layer.Lasting Layer.KnowsSpot := by
  intro g l h i kind hi
  rw [LinkGraph.info?_stamp] at hi
  exact h i kind hi

theorem LayerInfo.Describes.knowsSpot {frontMatter : Option Json} {key : String}
    (h : i.Describes source text f) (hf : f ∈ (Extraction.ofNote text frontMatter key).facts)
    (hi : l.info? = some i) : l.KnowsSpot := by
  intro i' kind hi' hkind hne
  rw [hi, Option.some.injEq] at hi'
  subst hi'
  rw [h.factKind, Option.some.injEq] at hkind
  obtain ⟨spot, hs⟩ := Extraction.exists_spot_of_kind_ne hf (hkind ▸ hne)
  refine ⟨?_, ⟨spot.byteOffset, ?_⟩, ⟨String.ofList f.text, ?_⟩⟩
  · rw [h.offset, hs]
    exact Option.some_ne_none _
  · rw [h.byteOffset, hs]
    rfl
  · rw [h.rawText, hs]
    rfl

namespace Indexer

variable {x : Indexer} {ls : List Layer} {ds : List DroppedFact}

/-- A layer of a file shows a fact of a note, unless it is the geometry of a whole file. -/
theorem exists_shows_of_mem_buildIndexed (h : x.buildIndexed notes source = .ok (ls, ds))
    (hl : l ∈ ls) :
    (∃ i, l.info? = some i ∧ i.factKind = none ∧ i.offset = none) ∨
      ∃ note, notes.read source = .ok note ∧
        ∃ f ∈ (Extraction.ofNote note.text.toList note.frontMatter x.config.key).facts,
          l.Shows source note.text.toList f := by
  unfold buildIndexed build at h
  split at h
  · split at h
    · obtain ⟨content, -, htext⟩ := exists_of_bind_eq_ok h
      obtain ⟨geometry, -, hgeometry⟩ := exists_of_bind_eq_ok htext
      cases hgeometry
      rw [List.mem_singleton.1 hl]
      exact Or.inl ⟨_, rfl, rfl, rfl⟩
    · cases h
      cases hl
    · exact Or.inr (Layer.exists_shows_of_mem_ofSource h hl)
  · cases h
    cases hl

end Indexer

theorem Notes.yield_knowsSpot (notes : Notes) : notes.Yield Layer.KnowsSpot := by
  intro x source ls ds hok l hl
  rcases Indexer.exists_shows_of_mem_buildIndexed hok hl with
    ⟨i, hi, hnone, -⟩ | ⟨note, -, f, hf, -, i, hi, hdescribes⟩
  · intro i' kind hi' hkind
    rw [hi, Option.some.injEq] at hi'
    rw [← hi', hnone] at hkind
    cases hkind
  · exact hdescribes.knowsSpot hf hi

namespace Indexer

variable {x : Indexer} {ls : List Layer} {ds : List DroppedFact}

/-- A layer of a file that has a position stands in the text that the file has. -/
theorem standsIn_of_mem_rebuild (h : x.rebuild notes source = .ok (ls, ds)) (hb : b ∈ ls)
    (hi : b.info? = some i) (ho : i.offset ≠ none) :
    ∃ content, notes.text source = .ok content ∧ i.StandsIn content.toList := by
  obtain ⟨ls', ds', hbuilt, hb'⟩ := (mem_rebuild_iff h).1 hb
  rcases exists_shows_of_mem_buildIndexed hbuilt hb' with
    ⟨i', hi', -, hnone⟩ | ⟨note, hnote, f, hf, -, i', hi', hdescribes⟩
  · rw [hi, Option.some.injEq] at hi'
    exact absurd (hi' ▸ hnone) ho
  · rw [hi, Option.some.injEq] at hi'
    subst hi'
    refine ⟨note.text, ?_, hdescribes.standsIn hf ho⟩
    unfold Notes.text
    rw [hnote]
    rfl

/-- What is indexed for a note after it was indexed anew: its layers, or layers that were indexed
before and have the same content. -/
theorem get?_update_file {d : Applied} (hi : x.index.WF)
    (h : x.update notes (.file source) = .ok d) (hg : d.indexer.index.get? id = some l)
    (hs : l.source? = some source) :
    ∃ ls ds, x.rebuild notes source = .ok (ls, ds) ∧ ∃ b ∈ ls, b.id = id ∧
      (l = d.indexer.graph.stamp b ∨
        x.index.get? id = some l ∧ l.sameContent false (d.indexer.graph.stamp b) = true) := by
  obtain ⟨ls, ds, hbuilt, ⟨-, hnone, heq⟩ | heq⟩ := update_file_eq_ok h
  · rw [heq] at hg
    have hin : x.index.hasLayersOf source.path = true :=
      hi.hasLayersOf_iff.2 ⟨id, l, hg, hs⟩
    rw [hnone] at hin
    cases hin
  · rw [heq] at hg ⊢
    refine ⟨ls, ds, hbuilt, ?_⟩
    -- the layers that stay beside the update come from other notes
    rcases (get?_reconcileNext_file hi rfl).1 hg with ⟨old, hold, -, rfl⟩ | ⟨-, c, hc, hid, rfl⟩
    · rw [LinkGraph.source?_stamp] at hs
      exact absurd hs (hi.mem_others.1 hold).2
    · obtain ⟨b, hb, rfl⟩ := List.mem_map.1 (mem_of_mem_distinctLayers hc)
      have hcases := x.index.settle_cases ((x.stateWith notes source ls).graph.stamp b)
      rw [LinkGraph.id_stamp] at hid hcases
      rw [hid] at hcases
      exact ⟨b, hb, hid, hcases⟩

end Indexer

/-- What has the same content as a marker stands behind the same number of characters. -/
theorem Layer.exists_info_of_sameContent (h : (Layer.marker m).sameContent false l = true) :
    ∃ i, l.info? = some i ∧ i.offset = m.info.offset := by
  cases l with
  | marker m' =>
    simp only [Layer.sameContent, Marker.sameContent, LayerInfo.samePosition, Bool.and_eq_true,
      beq_iff_eq] at h
    exact ⟨m'.info, rfl, h.1.1.1.1.1.2.symm⟩
  | _ => cases h

/-! ## Sessions -/

namespace Session

variable {s : Session}

/-- Whatever is indexed of a note after an update of it came with a layer of some note at some time,
and so knows where it stands. -/
theorem knowsSpot_of_update_file (h : s.Reachable) {done : Indexer.Applied}
    (hu : s.indexer.update s.notes (.file source) = .ok done)
    (hg : done.indexer.index.get? id = some l) (hs : l.source? = some source) : l.KnowsSpot := by
  obtain ⟨ls, ds, hbuilt, b, hb, -, hcases⟩ :=
    Indexer.get?_update_file h.consistent.counted.wf hu hg hs
  rcases hcases with rfl | ⟨hold, -⟩
  · obtain ⟨ls', ds', hbuilt', hb'⟩ := (Indexer.mem_rebuild_iff hbuilt).1 hb
    exact Layer.lasting_knowsSpot _ b (s.notes.yield_knowsSpot _ _ ls' ds' hbuilt' b hb')
  · exact (h.all Layer.lasting_knowsSpot Notes.yield_knowsSpot).index _ _ hold

/-- **When a marker can be moved after its note was indexed.** Whatever was edited, prepared and
applied before, an indexed marker of the note that is written in its text can be moved to a place as
long as its text stands in the note where the marker says, and then nothing else of the text
changes; otherwise the note is said to have changed. The note as it is now has a layer with this id
behind the same number of characters, which stands in the text; so a marker cannot be moved only if
it was indexed before, has the same content as that layer, and is another one in its bytes. -/
theorem move_after_update (h : s.Reachable) {done : Indexer.Applied}
    (hu : s.indexer.update s.notes (.file source) = .ok done)
    (hm : .marker m ∈ done.indexer.index.layers) (hs : m.info.source = source)
    (hk : m.info.factKind = some .legacy ∨ m.info.factKind = some .inline) (hp : p.IsPlace) :
    ∃ content, s.notes.text source = .ok content ∧
      let move := done.indexer.move s.notes m.info.id p
      (∀ before raw after, m.info.StandsBetween content.toList before raw after →
        move = .ok (source, String.ofList
          (before ++ writePlace (m.info.displayName.getD "") p (m.writtenTags raw) ++ after))) ∧
      (¬m.info.StandsIn content.toList →
        move = .error (MoveFault.textChanged source m.info.id).toError) ∧
      ∃ ls ds b i, s.indexer.rebuild s.notes source = .ok (ls, ds) ∧ b ∈ ls ∧ b.id = m.info.id ∧
        b.info? = some i ∧ i.StandsIn content.toList ∧ i.offset = m.info.offset ∧
        (¬m.info.StandsIn content.toList →
          .marker m ∈ s.indexer.index.layers ∧
            (Layer.marker m).sameContent false (done.indexer.graph.stamp b) = true ∧
            (m.info.byteOffset ≠ i.byteOffset ∨ m.info.rawText ≠ i.rawText)) := by
  subst hs
  have hwf := h.consistent.counted.wf
  have hget : done.indexer.index.get? m.info.id = some (.marker m) :=
    (Indexer.wf_update hwf hu).mem_layers.1 hm
  obtain ⟨kind, hkind, htext⟩ : ∃ kind, m.info.factKind = some kind ∧ kind ≠ .frontMatter := by
    rcases hk with hk | hk
    · exact ⟨_, hk, FactKind.noConfusion⟩
    · exact ⟨_, hk, FactKind.noConfusion⟩
  obtain ⟨ls, ds, hbuilt, b, hb, hid, hcases⟩ := Indexer.get?_update_file hwf hu hget rfl
  obtain ⟨hoffset, ⟨offset, hbyte⟩, raw, hraw⟩ :=
    knowsSpot_of_update_file h hu hget rfl m.info kind rfl hkind htext
  obtain ⟨i, hi, hioffset⟩ : ∃ i, b.info? = some i ∧ i.offset = m.info.offset := by
    rw [← LinkGraph.info?_stamp done.indexer.graph b]
    rcases hcases with heq | ⟨-, hsame⟩
    · rw [← heq]
      exact ⟨m.info, rfl, rfl⟩
    · exact Layer.exists_info_of_sameContent hsame
  obtain ⟨content, hcontent, hstands⟩ :=
    Indexer.standsIn_of_mem_rebuild hbuilt hb hi (hioffset ▸ hoffset)
  have hkind' : m.info.factKind ≠ some .frontMatter := by
    rw [hkind, ne_eq, Option.some.injEq]
    exact htext
  have hmove := Indexer.move_eq (p := p) hget hcontent hkind'
  refine ⟨content, hcontent, fun before raw' after hbetween => ?_, fun hno => ?_, ls, ds, b, i,
    hbuilt, hb, hid, hi, hstands, hioffset, fun hno => ?_⟩
  · rw [hmove, Marker.moveIn_of_standsBetween hp hbetween]
    rfl
  · rw [hmove, Marker.moveIn_of_not_standsIn hp hbyte hraw hno]
    rfl
  · -- a marker of the layer that the note has now stands in the text, so this one was kept
    rcases hcases with heq | ⟨hold, hsame⟩
    · have hinfo := congrArg Layer.info? heq
      rw [LinkGraph.info?_stamp, hi] at hinfo
      cases hinfo
      exact absurd hstands hno
    · refine ⟨hwf.mem_layers.2 hold, hsame, ?_⟩
      by_contra hsame'
      rw [not_or, not_ne_iff, not_ne_iff] at hsame'
      exact hno (hstands.congr hsame'.1 hsame'.2)

/-- Everything is indexed, the notes change, and a note that has layers is indexed again at once. -/
theorem exists_update_file_again {config : Config} {x : Indexer} (hx : Indexer.new config = .ok x)
    (notes : Notes) {notes' : Notes} {ls : List Layer} {ds : List DroppedFact}
    (hb : x.rebuild notes' source = .ok (ls, ds)) (hne : ls ≠ []) :
    ∃ (s : Session) (done : Indexer.Applied), s.Reachable ∧ s.notes = notes' ∧
      s.indexer.index = firstIndex x notes ∧ s.indexer.update s.notes (.file source) = .ok done ∧
        done.indexer.index = (secondUpdate x notes notes' source ls).1 := by
  obtain ⟨s, hreach, rfl, -, hindex, hrebuild⟩ := exists_first_session hx notes notes'
  have hbuilt := (hrebuild source).trans hb
  obtain ⟨done, hdone⟩ := Indexer.exists_update_file_iff.2 (by rw [hbuilt]; rfl)
  refine ⟨s, done, hreach, rfl, hindex, hdone, ?_⟩
  obtain ⟨ls', ds', hbuilt', hcases⟩ := Indexer.update_file_eq_ok hdone
  rw [hbuilt'] at hbuilt
  cases hbuilt
  rcases hcases with ⟨hnil, -⟩ | heq
  · exact absurd hnil hne
  · rw [heq]
    show (Indexer.reconcileNext s.indexer.index (.file source)
      (.beside s.notes (s.indexer.index.others source) ls)).1 = _
    rw [Indexer.reconcileNext_beside, hindex]
    rfl

/-- A place gets another name and its note is indexed again: the place can be moved. -/
theorem move_after_update_renamed :
    ∃ (s : Session) (done : Indexer.Applied) (m : Marker), s.Reachable ∧
      s.indexer.update s.notes (.file ⟨"A.md"⟩) = .ok done ∧
        .marker m ∈ done.indexer.index.layers ∧ m.info.source = ⟨"A.md"⟩ ∧
          m.info.factKind = some .inline ∧ LatLng.IsPlace ⟨3, 4⟩ ∧
            ∃ moved, done.indexer.move s.notes m.info.id ⟨3, 4⟩ = .ok (⟨"A.md"⟩, moved) := by
  let store := NoteStore.ofList [("A.md", "[x](geo:1,2)")]
  let store' := NoteStore.ofList [("A.md", "[y](geo:1,2)")]
  have hcheck : (Indexer.new .default).toOption.any (fun x =>
      (x.rebuild store'.notes ⟨"A.md"⟩).toOption.any fun built =>
        !built.1.isEmpty && ((firstIndex x store.notes).layers.all (fun l => l.name == "x") &&
          (secondUpdate x store.notes store'.notes ⟨"A.md"⟩ built.1).1.layers.any fun l =>
            l.name == "y" && l.marker?.any fun m =>
              m.info.source == ⟨"A.md"⟩ && m.info.factKind == some .inline)) = true := by
    decide +kernel
  have hplace : LatLng.IsPlace ⟨3, 4⟩ := by decide +kernel
  obtain ⟨x, hx, hcheck⟩ := exists_of_any_toOption hcheck
  obtain ⟨⟨ls, ds⟩, hb, hcheck⟩ := exists_of_any_toOption hcheck
  dsimp only at hcheck
  obtain ⟨hne, hcheck⟩ := Bool.and_eq_true_iff.1 hcheck
  obtain ⟨hold, hcheck⟩ := Bool.and_eq_true_iff.1 hcheck
  rw [Bool.not_eq_true', List.isEmpty_eq_false_iff] at hne
  obtain ⟨s, done, hreach, -, hfirst, hdone, hindex⟩ :=
    exists_update_file_again hx store.notes hb hne
  rw [← hindex] at hcheck
  obtain ⟨l, hl, hcheck⟩ := List.any_eq_true.1 hcheck
  obtain ⟨hname, hcheck⟩ := Bool.and_eq_true_iff.1 hcheck
  cases l with
  | marker m =>
    obtain ⟨hsource, hkind⟩ := Bool.and_eq_true_iff.1 hcheck
    rw [beq_iff_eq] at hsource hkind
    obtain ⟨content, -, hmove, -, _, _, _, _, -, -, -, -, -, -, hstale⟩ :=
      move_after_update hreach hdone hl hsource (Or.inr hkind) hplace
    refine ⟨s, done, m, hreach, hdone, hl, hsource, hkind, hplace, ?_⟩
    by_cases hstands : m.info.StandsIn content.toList
    · obtain ⟨before, raw, after, hbetween⟩ := hstands
      exact ⟨_, hmove before raw after hbetween⟩
    -- the marker was not there before, so it is the one that the note has now
    have hwas := (hstale hstands).1
    rw [hfirst] at hwas
    have hname' := List.all_eq_true.1 hold _ hwas
    rw [beq_iff_eq] at hname hname'
    rw [hname] at hname'
    exact absurd hname' (by decide)
  | _ => cases hcheck

/-- The place of a note is written in another way and the note is indexed again: as the place is the
same, its marker stays, with the text that there was, and cannot be moved. -/
theorem not_moved_after_update :
    ∃ (s : Session) (done : Indexer.Applied) (m : Marker), s.Reachable ∧
      s.indexer.update s.notes (.file ⟨"A.md"⟩) = .ok done ∧
        .marker m ∈ done.indexer.index.layers ∧ m.info.source = ⟨"A.md"⟩ ∧
          m.info.factKind = some .inline ∧ LatLng.IsPlace ⟨3, 4⟩ ∧
            done.indexer.move s.notes m.info.id ⟨3, 4⟩ =
              .error (MoveFault.textChanged ⟨"A.md"⟩ "A.md1200").toError := by
  let store := NoteStore.ofList [("A.md", "[x](geo:1,2)")]
  let store' := NoteStore.ofList [("A.md", "[x](geo:1.0,2)")]
  have hcheck : (Indexer.new .default).toOption.any (fun x =>
      (x.rebuild store'.notes ⟨"A.md"⟩).toOption.any fun built =>
        !built.1.isEmpty &&
          (secondUpdate x store.notes store'.notes ⟨"A.md"⟩ built.1).1.layers.any fun l =>
            l.marker?.any fun m => m.info.source == ⟨"A.md"⟩ && (m.info.factKind == some .inline &&
              m.moveIn "[x](geo:1.0,2)".toList ⟨3, 4⟩ ==
                .error (.textChanged ⟨"A.md"⟩ "A.md1200"))) = true := by
    decide +kernel
  have hplace : LatLng.IsPlace ⟨3, 4⟩ := by decide +kernel
  have htext : store'.notes.text ⟨"A.md"⟩ = .ok "[x](geo:1.0,2)" := by decide +kernel
  obtain ⟨x, hx, hcheck⟩ := exists_of_any_toOption hcheck
  obtain ⟨⟨ls, ds⟩, hb, hcheck⟩ := exists_of_any_toOption hcheck
  dsimp only at hcheck
  obtain ⟨hne, hcheck⟩ := Bool.and_eq_true_iff.1 hcheck
  rw [Bool.not_eq_true', List.isEmpty_eq_false_iff] at hne
  obtain ⟨s, done, hreach, hnotes, -, hdone, hindex⟩ :=
    exists_update_file_again hx store.notes hb hne
  rw [← hindex] at hcheck
  obtain ⟨l, hl, hcheck⟩ := List.any_eq_true.1 hcheck
  cases l with
  | marker m =>
    obtain ⟨hsource, hcheck⟩ := Bool.and_eq_true_iff.1 hcheck
    obtain ⟨hkind, hmove⟩ := Bool.and_eq_true_iff.1 hcheck
    rw [beq_iff_eq] at hsource hkind hmove
    refine ⟨s, done, m, hreach, hdone, hl, hsource, hkind, hplace, ?_⟩
    have hget : done.indexer.index.get? m.info.id = some (.marker m) :=
      (Indexer.wf_update hreach.consistent.counted.wf hdone).mem_layers.1 hl
    rw [hnotes, Indexer.move_eq hget (by rw [hsource]; exact htext) (by rw [hkind]; decide), hmove]
    rfl
  | _ => cases hcheck

end Session

end Gazetteer
