import Gazetteer.Proofs.Note.Name
import Gazetteer.Proofs.Note.Resolution
import Gazetteer.Proofs.Number.Plain

/-!
# Links without the extension

A link may leave out the extension of the note that it names. It counts as left out where the link
has none of its own, so a name in which a dot stands between other characters is looked for as it is
(`resolveLink_without_extension`).
-/

namespace Gazetteer

variable {sep : Char} {cs before after front name : List Char} {p : LinkPath}

theorem exists_last_of_mem (h : sep ∈ cs) :
    ∃ before after, cs = before ++ sep :: after ∧ sep ∉ after := by
  obtain ⟨after, before, hcs, hafter⟩ := List.eq_append_cons_of_mem (List.mem_reverse.2 h)
  refine ⟨before.reverse, after.reverse, ?_, by simpa using hafter⟩
  rw [← List.reverse_reverse cs, hcs]
  simp

theorem splitLast_eq_some_iff :
    splitLast sep cs = some (before, after) ↔ cs = before ++ sep :: after ∧ sep ∉ after := by
  constructor
  · intro h
    by_cases hmem : sep ∈ cs
    · obtain ⟨before', after', rfl, hafter⟩ := exists_last_of_mem hmem
      rw [splitLast_append hafter] at h
      obtain ⟨rfl, rfl⟩ := Prod.mk.inj (Option.some.inj h)
      exact ⟨rfl, hafter⟩
    · rw [splitLast_of_not_mem hmem] at h
      cases h
  · rintro ⟨rfl, hafter⟩
    exact splitLast_append hafter

/-- A path whose name has an extension: something behind its last dot, and something of the name in
front of it. -/
def HasExtension (path : List Char) : Prop :=
  ∃ front c ext, path = front ++ c :: '.' :: ext ∧ c ≠ '/' ∧ ext ≠ [] ∧ '/' ∉ ext ∧ '.' ∉ ext

namespace LinkPath

/-- The name is the end of the file part, without `/`. -/
theorem exists_file_eq_append (p : LinkPath) :
    ∃ front, p.file = front ++ p.parts.2 ∧ '/' ∉ p.parts.2 := by
  unfold parts
  by_cases h : '/' ∈ p.file
  · obtain ⟨before, after, hfile, hafter⟩ := exists_last_of_mem h
    rw [hfile, splitLast_append hafter]
    exact ⟨before ++ ['/'], by simp, hafter⟩
  · rw [splitLast_of_not_mem h]
    exact ⟨[], rfl, h⟩

/-- The end of the file part belongs to the name as far as no `/` is in it. -/
theorem exists_name_eq_append (hfile : p.file = front ++ name) (h : '/' ∉ name) :
    ∃ start, p.parts.2 = start ++ name := by
  unfold parts
  by_cases hfront : '/' ∈ front
  · obtain ⟨before, after, rfl, hafter⟩ := exists_last_of_mem hfront
    rw [hfile, List.append_assoc, List.cons_append, splitLast_append (by simp [hafter, h])]
    exact ⟨after, rfl⟩
  · rw [hfile, splitLast_of_not_mem (by simp [hfront, h])]
    exact ⟨front, rfl⟩

theorem extension_ne_iff : p.extension ≠ "" ↔ HasExtension p.file := by
  unfold extension stemAndExtension
  constructor
  · intro h
    obtain ⟨front, hfile, hname⟩ := exists_file_eq_append p
    cases hsplit : splitLast '.' p.parts.2 with
    | none => simp [hsplit] at h
    | some split =>
      obtain ⟨stem, ext⟩ := split
      obtain ⟨hparts, hext⟩ := splitLast_eq_some_iff.1 hsplit
      rcases List.eq_nil_or_concat stem with rfl | ⟨stem, c, rfl⟩
      · simp [hsplit] at h
      · rw [hparts] at hfile hname
        refine ⟨front ++ stem, c, ext, by simpa using hfile, ?_, ?_, ?_, hext⟩
        · rintro rfl
          simp at hname
        · rintro rfl
          simp [hsplit] at h
        · exact fun hmem => hname (by simp [hmem])
  · rintro ⟨front, c, ext, hfile, hc, hne, hslash, hdot⟩
    obtain ⟨start, hname⟩ := exists_name_eq_append hfile (by simp [hslash, hc.symm])
    have hsplit : splitLast '.' p.parts.2 = some (start ++ [c], ext) :=
      splitLast_eq_some_iff.2 ⟨by simp [hname], hdot⟩
    rw [hsplit]
    cases start <;> simpa [← String.toList_inj] using hne

end LinkPath

instance (path : List Char) : Decidable (HasExtension path) :=
  decidable_of_iff _ (LinkPath.extension_ne_iff (p := ⟨path, none⟩))

/-! ## Links -/

/-- A path that a link gives as it is: it starts with its first component, nothing in it is an
escape, a reference or another way to write the separator, and no blanks are around it. -/
structure IsLinkable (path : String) : Prop where
  hash : '#' ∉ path.toList
  percent : '%' ∉ path.toList
  backslash : '\\' ∉ path.toList
  slash : path.toList.head? ≠ some '/'
  step : ¬['.', '/'] <+: path.toList
  start : path.toList.head?.any Unicode.isBlank = false
  stop : path.toList.getLast?.any Unicode.isBlank = false

instance (path : String) : Decidable (IsLinkable path) :=
  decidable_of_iff ('#' ∉ path.toList ∧ '%' ∉ path.toList ∧ '\\' ∉ path.toList ∧
      path.toList.head? ≠ some '/' ∧ ¬['.', '/'] <+: path.toList ∧
      path.toList.head?.any Unicode.isBlank = false ∧
      path.toList.getLast?.any Unicode.isBlank = false)
    ⟨fun ⟨h₁, h₂, h₃, h₄, h₅, h₆, h₇⟩ => ⟨h₁, h₂, h₃, h₄, h₅, h₆, h₇⟩,
      fun ⟨h₁, h₂, h₃, h₄, h₅, h₆, h₇⟩ => ⟨h₁, h₂, h₃, h₄, h₅, h₆, h₇⟩⟩

variable {path : String} {sources : List SourceRef}

theorem IsLinkable.ofWritten (h : IsLinkable path) :
    LinkPath.ofWritten path = ⟨path.toList, none⟩ := by
  have hblank : ∀ {o : Option Char}, o.any Unicode.isBlank = false →
      ∀ c ∈ o, Unicode.isBlank c = false := by
    rintro _ h c rfl
    exact h
  have htrim : Unicode.trim path.toList = path.toList :=
    Unicode.trim_eq_self (hblank h.start) (hblank (by simpa using h.stop))
  have hfile : ∀ c ∈ path.toList, (c != '#') = true := bne_of_not_mem h.hash
  rw [LinkPath.ofWritten, Unicode.trimText, htrim, String.ofList_toList,
    percentDecode_of_not_mem h.percent, LinkPath.ofString, LinkPath.ofList,
    List.takeWhile_eq_self_iff.2 hfile, List.dropWhile_eq_nil_iff.2 hfile]

/-- What is looked for is the path with the extension of notes, unless it has one. -/
theorem IsLinkable.notePath (h : IsLinkable path) :
    (HasExtension path.toList → (LinkPath.ofWritten path).notePath = path.toList) ∧
      (¬HasExtension path.toList →
        (LinkPath.ofWritten path).notePath = (path ++ ".md").toList) := by
  have hiff : (LinkPath.ofWritten path).extension ≠ "" ↔ HasExtension path.toList := by
    rw [LinkPath.extension_ne_iff, h.ofWritten]
  unfold LinkPath.notePath withNoteExtension
  rw [h.ofWritten, stripRoot_eq_self h.step h.slash, ← h.ofWritten]
  constructor
  · exact fun hext => if_neg (hiff.2 hext)
  · intro hext
    rw [if_pos (not_not.1 fun hne => hext (hiff.1 hne)), String.toList_append]
    rfl

/-- The path of a note does not end in what is left of it without the extension. -/
theorem not_endsIn_path (path : String) : ¬(SourceRef.mk (path ++ ".md")).EndsIn path.toList := by
  have hcount : ∀ ch : Char, ch = '.' ∨ ch = '/' → (foldName (path ++ ".md")).toList.count ch =
      (foldName path).toList.count ch + ".md".toList.count ch := by
    rintro ch (rfl | rfl) <;>
    · rw [count_foldName (by decide) (by decide), count_foldName (by decide) (by decide),
        String.toList_append, List.count_append]
  have hdot := hcount '.' (Or.inl rfl)
  have hslash := hcount '/' (Or.inr rfl)
  rintro (h | ⟨front, h⟩)
  · -- the extension has a dot
    simp only [String.ofList_toList] at h
    rw [h] at hdot
    revert hdot
    simp
  · -- a `/` would stand in front of the path
    simp only [String.ofList_toList] at h
    rw [h] at hslash
    revert hslash
    simp
    omega

theorem dir_root : SourceRef.root.dir = "" := by decide

theorem inDirectory_root (path : String) : SourceRef.inDirectory "" path.toList = ⟨path⟩ := by
  rw [SourceRef.inDirectory, if_pos rfl, String.ofList_toList]

theorem IsLinkable.file_ne_nil (h : IsLinkable path) (hne : path ≠ "") :
    (LinkPath.ofWritten path).file ≠ [] := by
  rw [h.ofWritten]
  exact fun hnil => hne (String.toList_eq_nil_iff.1 hnil)

theorem resolveLink_of_not_hasExtension (h : IsLinkable path) (hne : path ≠ "")
    (hext : ¬HasExtension path.toList) (hmem : (SourceRef.mk (path ++ ".md")) ∈ sources) :
    resolveLink sources path SourceRef.root = some ⟨path ++ ".md"⟩ := by
  rw [resolveLink_eq (h.file_ne_nil hne), h.notePath.2 hext, dir_root]
  simp only [inDirectory_root]
  exact if_pos hmem

theorem resolveLink_of_hasExtension (h : IsLinkable path) (hext : HasExtension path.toList) :
    resolveLink sources path SourceRef.root ≠ some ⟨path ++ ".md"⟩ := by
  have hne : path ≠ "" := by
    rintro rfl
    exact absurd hext (by decide)
  have hself : (SourceRef.mk path) ≠ ⟨path ++ ".md"⟩ := by
    intro heq
    have hlength := congrArg (fun s : SourceRef => s.path.toList.length) heq
    simp at hlength
  rw [Ne, resolveLink_eq_some_iff (h.file_ne_nil hne), h.notePath.1 hext, SourceRef.IsNamed,
    dir_root, inDirectory_root]
  rintro (⟨-, heq⟩ | ⟨-, -, heq⟩ | ⟨-, -, hnearest⟩)
  · exact hself heq.symm
  · exact hself heq.symm
  · exact not_endsIn_path path hnearest.1.2

/-- **The extension of a note may be left out of a link exactly if what is left has none.** -/
theorem resolveLink_without_extension (h : IsLinkable path)
    (hmem : (SourceRef.mk (path ++ ".md")) ∈ sources) :
    resolveLink sources path SourceRef.root = some ⟨path ++ ".md"⟩ ↔
      path ≠ "" ∧ ¬HasExtension path.toList := by
  constructor
  · intro hresolve
    refine ⟨?_, fun hext => resolveLink_of_hasExtension h hext hresolve⟩
    rintro rfl
    rw [resolveLink_of_isEmpty (by rw [h.ofWritten]; rfl), Option.some.injEq] at hresolve
    exact absurd hresolve (by decide)
  · rintro ⟨hne, hext⟩
    exact resolveLink_of_not_hasExtension h hne hext hmem

/-- A dot in the directory makes no difference, and other notes of the name are passed over. -/
theorem resolveLink_without_extension_dotted_directory :
    let sources : List SourceRef :=
      [⟨"Côte.md"⟩, ⟨"Trips 2.0/côte.md"⟩, ⟨"Trips 2.0/Côte.md"⟩]
    IsLinkable "Trips 2.0/Côte" ∧ (SourceRef.mk ("Trips 2.0/Côte" ++ ".md")) ∈ sources ∧
      resolveLink sources "Trips 2.0/Côte" SourceRef.root = some ⟨"Trips 2.0/Côte.md"⟩ := by
  intro sources
  have h : IsLinkable "Trips 2.0/Côte" := by decide
  have hmem : (SourceRef.mk ("Trips 2.0/Côte" ++ ".md")) ∈ sources := by decide
  exact ⟨h, hmem, (resolveLink_without_extension h hmem).2 ⟨by decide, by decide⟩⟩

/-- A version in the name of a note is taken for an extension, so the note is not found. -/
theorem resolveLink_passes_over_version :
    let sources : List SourceRef := [⟨"v1.2.md"⟩]
    IsLinkable "v1.2" ∧ (SourceRef.mk ("v1.2" ++ ".md")) ∈ sources ∧
      (SourceRef.mk "v1.2") ∉ sources ∧ resolveLink sources "v1.2" SourceRef.root = none := by
  decide +kernel

end Gazetteer
