import Gazetteer.Note.LinkPath
import Gazetteer.Proofs.Files.Path
import Gazetteer.Proofs.Data.Lists
import Mathlib.Data.List.Infix

/-!
# The parts of a note path

A note path is split like a link target. Its name is the last component, its directory are the
components in front (`LinkPath.parts_of_components`), but of what stands in front of the first `#`
only, since there the reference of a link target starts.
-/

namespace Gazetteer

variable {sep : Char} {cs before after : List Char} {init : List String} {name stem ext : String}

/-! ## Splitting at the last separator -/

theorem bne_of_not_mem (h : sep ∉ cs) : ∀ c ∈ cs, (c != sep) = true :=
  fun _ hc => bne_iff_ne.2 fun he => h (he ▸ hc)

theorem splitLast_append (h : sep ∉ after) :
    splitLast sep (before ++ sep :: after) = some (before, after) := by
  have hrev : (before ++ sep :: after).reverse = after.reverse ++ sep :: before.reverse := by simp
  have hrun : ∀ c ∈ after.reverse, (c != sep) = true := bne_of_not_mem (by simpa using h)
  unfold splitLast
  have hstop : ∀ c ∈ (sep :: before.reverse).head?, (c != sep) = false := by
    rintro c ⟨⟩
    exact bne_self_eq_false sep
  rw [hrev, takeWhile_run hrun hstop, dropWhile_run hrun hstop]
  simp

theorem splitLast_of_not_mem (h : sep ∉ cs) : splitLast sep cs = none := by
  have hnone : cs.reverse.dropWhile (· != sep) = [] :=
    List.dropWhile_eq_nil_iff.2 (bne_of_not_mem (by simpa using h))
  unfold splitLast
  rw [hnone]

namespace LinkPath

variable {p : LinkPath}

/-- The name is the last component of the file part, the directory are those in front of it. -/
theorem parts_of_components (h : Path.components p.filePath = init ++ [name]) :
    p.parts = (("/".intercalate init).toList, name.toList) := by
  have hname : '/' ∉ name.toList :=
    Path.not_mem_of_mem_components (h ▸ List.mem_append_right _ (List.mem_singleton_self name))
  have hfile : p.file = ("/".intercalate (init ++ [name])).toList := by
    rw [← h, Path.intercalate_components, filePath, String.toList_ofList]
  unfold parts
  cases init with
  | nil =>
    rw [hfile, List.nil_append, String.intercalate_singleton, splitLast_of_not_mem hname]
    simp
  | cons c init =>
    rw [hfile, Path.toList_intercalate_concat (List.cons_ne_nil c init), splitLast_append hname]
    rfl

theorem stemAndExtension_of_name (h : p.parts.2 = (stem ++ "." ++ ext).toList) (hstem : stem ≠ "")
    (hext : '.' ∉ ext.toList) : p.stemAndExtension = (stem.toList, some ext.toList) := by
  have hsplit : splitLast '.' p.parts.2 = some (stem.toList, ext.toList) := by
    have hname : (stem ++ "." ++ ext).toList = stem.toList ++ '.' :: ext.toList := by
      simp [String.toList_append]
    rw [h, hname, splitLast_append hext]
  obtain ⟨c, cs, hcs⟩ :=
    List.exists_cons_of_ne_nil fun he => hstem (String.toList_eq_nil_iff.1 he)
  unfold stemAndExtension
  rw [hsplit, hcs]

/-- What is in the file part is in the directory or in the name, but for the `/` between them. -/
theorem mem_file_iff {c : Char} (hc : c ≠ '/') : c ∈ p.file ↔ c ∈ p.parts.1 ∨ c ∈ p.parts.2 := by
  have hne := Path.components_ne_nil p.filePath
  have hcomponents := (List.dropLast_concat_getLast hne).symm
  have hfile : p.file =
      ("/".intercalate ((Path.components p.filePath).dropLast ++
        [(Path.components p.filePath).getLast hne])).toList := by
    rw [← hcomponents, Path.intercalate_components, filePath, String.toList_ofList]
  rw [parts_of_components hcomponents, hfile, Path.mem_intercalate_concat_iff hc]

end LinkPath

/-! ## Paths that start at the vault -/

theorem stripRoot_eq_self (hdot : ¬['.', '/'] <+: cs) (hslash : cs.head? ≠ some '/') :
    stripRoot cs = cs := by
  have hstay : stripRepeatedly ['.', '/'] cs.length cs = cs := by
    cases cs with
    | nil => rfl
    | cons c cs =>
      have hnone : List.isPrefixOf? ['.', '/'] (c :: cs) = none :=
        Option.eq_none_iff_forall_ne_some.2 fun rest hrest =>
          hdot ⟨rest, List.isPrefixOf?_eq_some_iff_append_eq.1 hrest⟩
      rw [List.length_cons, stripRepeatedly, hnone]
  rw [stripRoot, hstay]
  exact List.dropWhile_beq_eq_self_of_head?_ne hslash

namespace SourceRef

variable {source : SourceRef} {front rest : String}

/-- A path of steps without backslashes is that of a note as it is. -/
theorem ofString_intercalate {c : String} {cs : List String} (hidle : Path.isIdle c = false)
    (hnames : ∀ c' ∈ c :: cs, '/' ∉ c'.toList ∧ '\\' ∉ c'.toList) :
    ofString ("/".intercalate (c :: cs)) = ⟨"/".intercalate (c :: cs)⟩ := by
  have hcomponents :=
    Path.components_intercalate (List.cons_ne_nil c cs) fun c' hc' => (hnames c' hc').1
  have hbackslash : '\\' ∉ ("/".intercalate (c :: cs)).toList := by
    rw [Path.mem_intercalate_iff (by decide)]
    rintro ⟨c', hc', h⟩
    exact (hnames c' hc').2 h
  generalize "/".intercalate (c :: cs) = path at *
  have hmap : (path.toList.map fun x => if x = '\\' then '/' else x) = path.toList := by
    refine (List.map_congr_left fun x hx => ?_).trans (List.map_id _)
    exact if_neg fun he : x = '\\' => hbackslash (he ▸ hx)
  -- A path with `./` or `/` in front has a first component that leads nowhere.
  rw [ofString, hmap, stripRoot_eq_self, String.ofList_toList]
  · rintro ⟨rest, hrest⟩
    have hpath : path = "." ++ "/" ++ String.ofList rest := by
      rw [← String.toList_inj, ← hrest]
      simp
    rw [← Path.first_of_components hcomponents (by decide) hpath] at hidle
    cases hidle
  · intro hhead
    obtain ⟨rest, hrest⟩ := List.head?_eq_some_iff.1 hhead
    have hpath : path = "" ++ "/" ++ String.ofList rest := by
      rw [← String.toList_inj, hrest]
      simp
    rw [← Path.first_of_components hcomponents (by decide) hpath] at hidle
    cases hidle

/-! ## The file part -/

theorem file_link_of_not_mem (h : '#' ∉ source.path.toList) :
    source.link.file = source.path.toList :=
  List.takeWhile_eq_self_iff.2 (bne_of_not_mem h)

theorem not_mem_file_link (source : SourceRef) : '#' ∉ source.link.file :=
  fun h => by simpa using List.mem_takeWhile_imp h

theorem file_link_of_eq_append (hfront : '#' ∉ front.toList)
    (h : source.path = front ++ "#" ++ rest) :
    source.link.file = (SourceRef.mk front).link.file := by
  have hlist : source.path.toList = front.toList ++ '#' :: rest.toList := by
    rw [h, String.toList_append, String.toList_append]
    simp
  rw [file_link_of_not_mem hfront]
  show source.path.toList.takeWhile _ = front.toList
  refine hlist ▸ takeWhile_run (bne_of_not_mem hfront) ?_
  rintro c ⟨⟩
  exact bne_self_eq_false '#'

/-! ## Name, directory and extension -/

theorem parts_of_components (hpath : Path.components source.path = init ++ [stem ++ "." ++ ext])
    (hstem : stem ≠ "") (hext : '.' ∉ ext.toList) (h : '#' ∉ source.path.toList) :
    source.name = stem ++ "." ++ ext ∧ source.dir = "/".intercalate init ∧
      source.extension = ext := by
  have hfile : source.link.filePath = source.path := by
    rw [LinkPath.filePath, file_link_of_not_mem h, String.ofList_toList]
  rw [← hfile] at hpath
  have hparts := LinkPath.parts_of_components hpath
  have hstemExt := LinkPath.stemAndExtension_of_name (congrArg Prod.snd hparts) hstem hext
  refine ⟨?_, ?_, ?_⟩
  · rw [name, LinkPath.fileName, hparts, String.ofList_toList]
  · rw [dir, LinkPath.dir, hparts, String.ofList_toList]
  · rw [extension, LinkPath.extension, hstemExt, Option.getD_some, String.ofList_toList]

/-- A path whose last component is the name and whose other ones are the directory has no `#`. -/
theorem not_mem_of_parts (hpath : Path.components source.path = init ++ [name])
    (hname : source.name = name) (hdir : source.dir = "/".intercalate init) :
    '#' ∉ source.path.toList := by
  intro h
  refine not_mem_file_link source ((LinkPath.mem_file_iff (by decide)).2 ?_)
  rw [← Path.intercalate_components source.path, hpath,
    Path.mem_intercalate_concat_iff (by decide), ← hname, ← hdir] at h
  simpa only [SourceRef.name, dir, LinkPath.fileName, LinkPath.dir, String.toList_ofList] using h

/-- A path with a `#` has the name, the directory and the extension of what stands in front. -/
theorem parts_of_eq_append (hfront : '#' ∉ front.toList) (h : source.path = front ++ "#" ++ rest) :
    source.name = (SourceRef.mk front).name ∧ source.dir = (SourceRef.mk front).dir ∧
      source.extension = (SourceRef.mk front).extension := by
  simp only [name, dir, extension, LinkPath.fileName, LinkPath.dir, LinkPath.extension,
    LinkPath.stemAndExtension, LinkPath.parts, file_link_of_eq_append hfront h, and_self]

end SourceRef

end Gazetteer
