import Gazetteer.Note.Resolution
import Gazetteer.Proofs.Note.Source

/-!
# Which note a link names

A link names the note at its path seen from the directory of the document, or else from the root of
the vault, or else the first one whose path ends in it (`LinkPath.Names`). That depends on which
notes are listed and not on how (`resolveLink_names`). What counts as the directory of a note is
`SourceRef.dir`, which is the directory of its path unless there is a `#` in it.
-/

namespace Gazetteer

variable {dir text : String} {origin r s t : SourceRef} {sources sources' : List SourceRef}
  {path : List Char}

/-! ## The order of notes -/

/-- One note comes before another one, as seen from a document: notes in its directory come first,
then those with a shorter path, then those whose path comes first in the order of texts. -/
def SourceRef.Precedes (a : SourceRef) (directory : SourceRef → String) (origin b : SourceRef) :
    Prop :=
  (directory a = directory origin ∧ directory b ≠ directory origin) ∨
    (directory a = directory origin ↔ directory b = directory origin) ∧
      (a.path.utf8ByteSize < b.path.utf8ByteSize ∨
        a.path.utf8ByteSize = b.path.utf8ByteSize ∧ a.path < b.path)

instance (dir : String) : Std.TransCmp (compareNearness dir) :=
  inferInstanceAs (Std.TransCmp (compareLex (compareOn fun s : SourceRef => decide (s.dir ≠ dir))
    (compareLex (compareOn fun s : SourceRef => s.path.utf8ByteSize) (compareOn SourceRef.path))))

theorem compareNearness_eq_eq (h : compareNearness dir s t = .eq) : s = t := by
  simp only [compareNearness, Ordering.then_eq_eq] at h
  cases s
  cases t
  exact congrArg SourceRef.mk (Std.LawfulEqCmp.eq_of_compare h.2.2)

theorem isNearer_iff : isNearer origin.dir s t = true ↔ s.Precedes SourceRef.dir origin t := by
  have hbool : ∀ x y : Bool, (compare x y = .lt ↔ x = false ∧ y = true) ∧
      (compare x y = .eq ↔ x = y) := by decide
  have hpath : compare s.path t.path = .lt ↔ s.path < t.path := compareOfLessAndEq_eq_lt
  unfold isNearer compareNearness SourceRef.Precedes
  rw [beq_iff_eq, Ordering.then_eq_lt, Ordering.then_eq_lt, (hbool _ _).1, (hbool _ _).2, hpath,
    Nat.compare_eq_lt, Nat.compare_eq_eq, decide_eq_false_iff_not, decide_eq_true_eq,
    decide_eq_decide, not_ne_iff, not_iff_not]

/-- Of several notes the first one as seen from a document. -/
def SourceRef.IsNearest (directory : SourceRef → String) (origin : SourceRef)
    (P : SourceRef → Prop) (r : SourceRef) : Prop :=
  P r ∧ ∀ s, P s → s = r ∨ r.Precedes directory origin s

theorem isLE_nearer (dir : String) (s t : SourceRef) :
    let best := if isNearer dir t s then t else s
    (best = s ∨ best = t) ∧ (compareNearness dir best s).isLE = true ∧
      (compareNearness dir best t).isLE = true := by
  by_cases h : isNearer dir t s = true
  · have hlt : compareNearness dir t s = .lt := beq_iff_eq.1 h
    simp [h, hlt, Std.ReflCmp.isLE_rfl]
  · have hle : (compareNearness dir s t).isLE = true := by
      by_contra hgt
      exact h (beq_iff_eq.2 (Std.OrientedCmp.lt_of_not_isLE hgt))
    simp [h, hle, Std.ReflCmp.isLE_rfl]

/-- The note that is left in the end is one of all, and none comes before it. -/
theorem foldl_nearer (dir : String) (s : SourceRef) (ss : List SourceRef) :
    let r := ss.foldl (fun best t => if isNearer dir t best then t else best) s
    r ∈ s :: ss ∧ ∀ t ∈ s :: ss, (compareNearness dir r t).isLE = true := by
  induction ss generalizing s with
  | nil => simp [Std.ReflCmp.isLE_rfl]
  | cons t ss ih =>
    obtain ⟨hbest, hs, ht⟩ := isLE_nearer dir s t
    rw [List.foldl_cons]
    generalize (if isNearer dir t s then t else s) = best at *
    obtain ⟨hmem, hle⟩ := ih best
    have hbetter := hle best List.mem_cons_self
    generalize ss.foldl _ best = r at *
    constructor
    · rw [List.mem_cons] at hmem
      simp only [List.mem_cons]
      rcases hmem with h | h
      · rw [h]
        exact hbest.imp_right Or.inl
      · exact Or.inr (Or.inr h)
    · intro u hu
      simp only [List.mem_cons] at hu
      rcases hu with h | h | h
      · rw [h]
        exact Std.TransCmp.isLE_trans hbetter hs
      · rw [h]
        exact Std.TransCmp.isLE_trans hbetter ht
      · exact hle u (List.mem_cons_of_mem _ h)

theorem nearest_eq_none_iff : nearest dir sources = none ↔ ∀ s, s ∉ sources := by
  cases sources with
  | nil => simp [nearest]
  | cons s ss =>
    simp only [nearest, reduceCtorEq, false_iff, not_forall, not_not]
    exact ⟨s, List.mem_cons_self⟩

namespace SourceRef

theorem isNearest_of_nearest (h : nearest origin.dir sources = some r) :
    IsNearest SourceRef.dir origin (· ∈ sources) r := by
  cases sources with
  | nil => cases h
  | cons s ss =>
    obtain ⟨hmem, hle⟩ := foldl_nearer origin.dir s ss
    rw [nearest, Option.some.injEq] at h
    rw [h] at hmem hle
    refine ⟨hmem, fun t ht => ?_⟩
    rw [← isNearer_iff]
    cases hcompare : compareNearness origin.dir r t with
    | lt => exact Or.inr (beq_iff_eq.2 hcompare)
    | eq => exact Or.inl (compareNearness_eq_eq hcompare).symm
    | gt =>
      have hrt := hle t ht
      rw [hcompare] at hrt
      cases hrt

theorem IsNearest.unique {P : SourceRef → Prop} (hs : IsNearest SourceRef.dir origin P s)
    (ht : IsNearest SourceRef.dir origin P t) : s = t := by
  rcases ht.2 s hs.1 with h | hts
  · exact h
  · rcases hs.2 t ht.1 with h | hst
    · exact h.symm
    · -- no two notes come before one another
      rw [← isNearer_iff, isNearer, beq_iff_eq] at hst hts
      have hswap : compareNearness origin.dir t s = (compareNearness origin.dir s t).swap :=
        Std.OrientedCmp.eq_swap
      rw [hswap, hst] at hts
      cases hts

end SourceRef

/-- The nearest of some notes comes before all others. -/
theorem nearest_eq_some_iff :
    nearest origin.dir sources = some r ↔
      SourceRef.IsNearest SourceRef.dir origin (· ∈ sources) r := by
  refine ⟨SourceRef.isNearest_of_nearest, fun h => ?_⟩
  cases hnearest : nearest origin.dir sources with
  | none => exact absurd h.1 (nearest_eq_none_iff.1 hnearest r)
  | some t => rw [(SourceRef.isNearest_of_nearest hnearest).unique h]

/-! ## Paths that links name -/

/-- A path that is, or ends behind a `/` with, the path of a link, both as names are compared. -/
def SourceRef.EndsIn (s : SourceRef) (path : List Char) : Prop :=
  foldName s.path = foldName (String.ofList path) ∨
    ∃ front, (foldName s.path).toList = front ++ '/' :: (foldName (String.ofList path)).toList

theorem endsInPath_iff :
    endsInPath (foldName (String.ofList path)) s.path = true ↔ s.EndsIn path := by
  unfold endsInPath SourceRef.EndsIn
  rw [Bool.or_eq_true, beq_iff_eq, List.isSuffixOf_iff_suffix]
  exact or_congr_right (exists_congr fun front => eq_comm)

/-- The note at a path seen from a directory. -/
def SourceRef.inDirectory (directory : String) (path : List Char) : SourceRef :=
  if directory = "" then ⟨String.ofList path⟩
  else ⟨String.ofList (directory.toList ++ '/' :: path)⟩

/-- What a link with some path names in a document, among the notes that are listed: the note at
this path, seen from the directory of the document or else from the root, or else the nearest note
whose path ends in it. -/
def SourceRef.IsNamed (directory : SourceRef → String) (Listed : SourceRef → Prop)
    (path : List Char) (origin r : SourceRef) : Prop :=
  let seen := inDirectory (directory origin) path
  let root := inDirectory "" path
  Listed seen ∧ r = seen ∨ ¬Listed seen ∧ Listed root ∧ r = root ∨
    ¬Listed seen ∧ ¬Listed root ∧ IsNearest directory origin (fun s => Listed s ∧ s.EndsIn path) r

theorem find?_path_eq (path : String) :
    sources.find? (fun s => s.path == path) =
      if (⟨path⟩ : SourceRef) ∈ sources then some ⟨path⟩ else none := by
  have hpath : ∀ s : SourceRef, (s.path == path) = true → s = ⟨path⟩ := by
    intro s hs
    cases s
    exact congrArg SourceRef.mk (beq_iff_eq.1 hs)
  by_cases h : (⟨path⟩ : SourceRef) ∈ sources
  · rw [if_pos h]
    cases hfind : sources.find? (fun s => s.path == path) with
    | none => simpa using List.find?_eq_none.1 hfind _ h
    | some s =>
      have hs := List.find?_some hfind
      rw [hpath s hs]
  · rw [if_neg h, List.find?_eq_none]
    exact fun s hs hs' => h (hpath s hs' ▸ hs)

/-! ## Resolving links -/

/-- The path that a link names: its file part without `./` and `/` in front, with the extension of
notes if it has none. -/
def LinkPath.notePath (target : LinkPath) : List Char :=
  withNoteExtension target.extension (stripRoot target.file)

/-- The target of a link as it is written. -/
def LinkPath.ofWritten (text : String) : LinkPath :=
  ofString (percentDecode (Unicode.trimText text))

theorem resolveLink_of_isEmpty (h : (LinkPath.ofWritten text).file = []) :
    resolveLink sources text origin = some origin := by
  unfold LinkPath.ofWritten at h
  unfold resolveLink
  simp [h]

theorem resolveLink_eq (h : (LinkPath.ofWritten text).file ≠ []) :
    resolveLink sources text origin =
      let path := (LinkPath.ofWritten text).notePath
      if SourceRef.inDirectory origin.dir path ∈ sources then
        some (SourceRef.inDirectory origin.dir path)
      else if SourceRef.inDirectory "" path ∈ sources then some (SourceRef.inDirectory "" path)
      else nearest origin.dir (sources.filter fun s =>
        endsInPath (foldName (String.ofList path)) s.path) := by
  unfold resolveLink
  simp only
  rw [← LinkPath.ofWritten, if_neg (by simpa using h), ← LinkPath.notePath]
  generalize (LinkPath.ofWritten text).notePath = path
  simp only [find?_path_eq]
  unfold SourceRef.inDirectory
  by_cases hdir : origin.dir = ""
  · simp only [hdir, if_true, Option.none_or]
    by_cases hroot : (⟨String.ofList path⟩ : SourceRef) ∈ sources
    · simp [hroot]
    · simp [hroot]
  · simp only [hdir, if_false, if_true]
    generalize String.ofList (origin.dir.toList ++ '/' :: path) = seen
    by_cases hseen : (⟨seen⟩ : SourceRef) ∈ sources
    · simp [hseen]
    · by_cases hroot : (⟨String.ofList path⟩ : SourceRef) ∈ sources
      · simp [hseen, hroot]
      · simp [hseen, hroot]

theorem resolveLink_eq_some_iff (h : (LinkPath.ofWritten text).file ≠ []) :
    resolveLink sources text origin = some r ↔
      SourceRef.IsNamed SourceRef.dir (· ∈ sources) (LinkPath.ofWritten text).notePath origin r := by
  rw [resolveLink_eq h]
  unfold SourceRef.IsNamed
  simp only
  generalize (LinkPath.ofWritten text).notePath = path
  by_cases hseen : SourceRef.inDirectory origin.dir path ∈ sources
  · simp [hseen, eq_comm]
  · by_cases hroot : SourceRef.inDirectory "" path ∈ sources
    · simp [hseen, hroot, eq_comm]
    · have hmem : ∀ s, s ∈ sources.filter (fun s =>
          endsInPath (foldName (String.ofList path)) s.path) ↔ s ∈ sources ∧ s.EndsIn path :=
        fun s => by rw [List.mem_filter, endsInPath_iff]
      simp only [hseen, hroot, if_false, nearest_eq_some_iff, hmem]
      simp

/-- A link names nothing only if no note has its path, seen from anywhere. -/
theorem resolveLink_eq_none_iff (h : (LinkPath.ofWritten text).file ≠ []) :
    resolveLink sources text origin = none ↔
      let path := (LinkPath.ofWritten text).notePath
      SourceRef.inDirectory origin.dir path ∉ sources ∧ SourceRef.inDirectory "" path ∉ sources ∧
        ∀ s ∈ sources, ¬s.EndsIn path := by
  rw [resolveLink_eq h]
  simp only
  generalize (LinkPath.ofWritten text).notePath = path
  by_cases hseen : SourceRef.inDirectory origin.dir path ∈ sources
  · simp [hseen]
  · by_cases hroot : SourceRef.inDirectory "" path ∈ sources
    · simp [hseen, hroot]
    · simp only [hseen, hroot, if_false, nearest_eq_none_iff, List.mem_filter, endsInPath_iff]
      simp

/-- Everything that a link names is listed. -/
theorem SourceRef.IsNamed.listed {directory : SourceRef → String} {Listed : SourceRef → Prop}
    (h : IsNamed directory Listed path origin r) : Listed r := by
  rcases h with ⟨hseen, rfl⟩ | ⟨-, hroot, rfl⟩ | ⟨-, -, hnearest⟩
  · exact hseen
  · exact hroot
  · exact hnearest.1.1

/-! ## Directories -/

/-- The directory of a note: what stands in front of the last `/` of its path. -/
def SourceRef.directory (s : SourceRef) : String :=
  String.ofList (((splitLast '/' s.path.toList).map (·.1)).getD [])

namespace SourceRef

theorem dir_eq_directory (h : '#' ∉ s.path.toList) : s.dir = s.directory := by
  unfold dir LinkPath.dir LinkPath.parts directory
  rw [file_link_of_not_mem h]
  cases splitLast '/' s.path.toList <;> rfl

variable {directory directory' : SourceRef → String} {Listed P : SourceRef → Prop}

theorem IsNearest.congr (horigin : directory origin = directory' origin)
    (hP : ∀ s, P s → directory s = directory' s) (h : IsNearest directory origin P r) :
    IsNearest directory' origin P r := by
  refine ⟨h.1, fun s hs => (h.2 s hs).imp_right fun hrs => ?_⟩
  unfold Precedes at hrs ⊢
  rwa [← horigin, ← hP r h.1, ← hP s hs]

/-- What a link names depends only on the directories of the document and of the notes. -/
theorem isNamed_congr (horigin : directory origin = directory' origin)
    (h : ∀ s, Listed s → directory s = directory' s) :
    IsNamed directory Listed path origin r ↔ IsNamed directory' Listed path origin r := by
  unfold IsNamed
  rw [horigin]
  refine or_congr_right (or_congr_right (and_congr_right fun _ => and_congr_right fun _ => ?_))
  constructor
  · exact fun hr => hr.congr horigin fun s hs => h s hs.1
  · exact fun hr => hr.congr horigin.symm fun s hs => (h s hs.1).symm

end SourceRef

/-- **A link names the best match among the notes, in whatever order they are listed.** A link
without a file part names its own document. Any other one names what `SourceRef.IsNamed` says, which
is a listed note, and nothing only if no note has its path, seen from the document, from the root or
from elsewhere. So any list with the same notes gives the same answer. The directories of the
document and of the notes are those of `SourceRef.dir`; where no path has a `#` in it they are what
stands in front of the last `/`. -/
theorem resolveLink_names (sources : List SourceRef) (text : String) (origin : SourceRef) :
    let target := LinkPath.ofWritten text
    let path := target.notePath
    (target.file = [] → resolveLink sources text origin = some origin) ∧
    (target.file ≠ [] →
      (∀ r, resolveLink sources text origin = some r ↔
        SourceRef.IsNamed SourceRef.dir (· ∈ sources) path origin r) ∧
      (∀ r, resolveLink sources text origin = some r → r ∈ sources) ∧
      (resolveLink sources text origin = none ↔
        SourceRef.inDirectory origin.dir path ∉ sources ∧
          SourceRef.inDirectory "" path ∉ sources ∧ ∀ s ∈ sources, ¬s.EndsIn path) ∧
      ((∀ s ∈ origin :: sources, '#' ∉ s.path.toList) → ∀ r,
        resolveLink sources text origin = some r ↔
          SourceRef.IsNamed SourceRef.directory (· ∈ sources) path origin r)) ∧
    ∀ sources', (∀ s, s ∈ sources' ↔ s ∈ sources) →
      resolveLink sources' text origin = resolveLink sources text origin := by
  intro target path
  refine ⟨fun h => resolveLink_of_isEmpty h, fun h => ⟨fun r => resolveLink_eq_some_iff h,
    fun r hr => ((resolveLink_eq_some_iff h).1 hr).listed, resolveLink_eq_none_iff h,
    fun hhash r => ?_⟩, fun sources' hsame => ?_⟩
  · rw [resolveLink_eq_some_iff h]
    exact SourceRef.isNamed_congr
      (SourceRef.dir_eq_directory (hhash origin List.mem_cons_self))
      fun s hs => SourceRef.dir_eq_directory (hhash s (List.mem_cons_of_mem _ hs))
  · by_cases h : target.file = []
    · rw [resolveLink_of_isEmpty h, resolveLink_of_isEmpty h]
    · have hmem : (· ∈ sources') = (· ∈ sources) := funext fun s => propext (hsame s)
      ext r
      rw [resolveLink_eq_some_iff h, resolveLink_eq_some_iff h, hmem]

/-- A document in a directory with a `#` in its name counts as one at the root, so a link in it does
not name the note beside it. -/
theorem resolveLink_passes_over_directory :
    let origin : SourceRef := ⟨"a#b/F.md"⟩
    let sources : List SourceRef := [⟨"a#b/X.md"⟩, ⟨"X.md"⟩]
    resolveLink sources "X" origin = some ⟨"X.md"⟩ ∧
      SourceRef.IsNamed SourceRef.directory (· ∈ sources) (LinkPath.ofWritten "X").notePath origin
        ⟨"a#b/X.md"⟩ := by
  intro origin sources
  exact ⟨by decide +kernel, Or.inl ⟨by decide +kernel, by decide +kernel⟩⟩

end Gazetteer
