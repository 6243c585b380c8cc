import Gazetteer.Files.Path

/-!
# Paths and their components

A path is its components with `/` between them (`intercalate_components`), and components without
`/` in them are those of the path that they make (`components_intercalate`). A path that is joined
to a directory takes the steps to the directory first (`steps_join`).
-/

namespace Gazetteer.Path

variable {path dir file c : String} {cs : List String}

/-! ## Components -/

theorem components_ne_nil (path : String) : components path ≠ [] :=
  fun h => List.splitOn_ne_nil '/' path.toList (List.map_eq_nil_iff.1 h)

theorem map_toList_components (path : String) :
    (components path).map String.toList = path.toList.splitOn '/' := by
  rw [components, List.map_map]
  exact (List.map_congr_left fun _ _ => String.toList_ofList).trans (List.map_id _)

theorem intercalate_components (path : String) : "/".intercalate (components path) = path := by
  rw [← String.toList_inj, String.toList_intercalate, map_toList_components]
  exact List.intercalate_splitOn '/'

theorem components_intercalate (hne : cs ≠ []) (h : ∀ c ∈ cs, '/' ∉ c.toList) :
    components ("/".intercalate cs) = cs := by
  have hsplit : ("/".intercalate cs).toList.splitOn '/' = cs.map String.toList := by
    rw [String.toList_intercalate]
    refine List.splitOn_intercalate '/' (fun l hl => ?_) (by simpa using hne)
    obtain ⟨c, hc, rfl⟩ := List.mem_map.1 hl
    exact h c hc
  rw [components, hsplit, List.map_map]
  exact (List.map_congr_left fun _ _ => String.ofList_toList).trans (List.map_id _)

theorem components_append (dir file : String) :
    components (dir ++ "/" ++ file) = components dir ++ components file := by
  have hlist : (dir ++ "/" ++ file).toList = dir.toList ++ '/' :: file.toList := by
    simp [String.toList_append]
  rw [components, hlist, List.splitOn_append_cons_self, List.map_append]
  rfl

/-- The pieces of a text are without the separator, and hold nothing new. -/
theorem pieces_of_splitOn {cs l : List Char} (h : l ∈ cs.splitOn '/') : '/' ∉ l ∧ l ⊆ cs := by
  induction cs generalizing l with
  | nil =>
    rw [List.splitOn_nil, List.mem_singleton] at h
    simp [h]
  | cons x cs ih =>
    obtain ⟨first, rest, hrest⟩ := List.exists_cons_of_ne_nil (List.splitOn_ne_nil '/' cs)
    rw [List.splitOn_cons_eq_if_modifyHead, hrest] at h
    rw [hrest] at ih
    split at h
    · rcases List.mem_cons.1 h with rfl | h
      · simp
      · exact ⟨(ih h).1, List.subset_cons_of_subset x (ih h).2⟩
    · rename_i hx
      rcases List.mem_cons.1 h with rfl | h
      · have hfirst := ih List.mem_cons_self
        simp only [beq_iff_eq] at hx
        exact ⟨by simp [hfirst.1, eq_comm, hx], List.cons_subset_cons x hfirst.2⟩
      · have hl := ih (List.mem_cons_of_mem _ h)
        exact ⟨hl.1, List.subset_cons_of_subset x hl.2⟩

theorem not_mem_of_mem_components (h : c ∈ components path) : '/' ∉ c.toList := by
  obtain ⟨l, hl, rfl⟩ := List.mem_map.1 h
  rw [String.toList_ofList]
  exact (pieces_of_splitOn hl).1

theorem subset_of_mem_components (h : c ∈ components path) : c.toList ⊆ path.toList := by
  obtain ⟨l, hl, rfl⟩ := List.mem_map.1 h
  rw [String.toList_ofList]
  exact (pieces_of_splitOn hl).2

theorem components_of_not_mem (h : '/' ∉ path.toList) : components path = [path] := by
  rw [components, List.splitOn_eq_singleton h, List.map_singleton, String.ofList_toList]

/-- What stands in front of the first `/` is the first component. -/
theorem first_of_components {first rest : String} (h : components path = c :: cs)
    (hfirst : '/' ∉ first.toList) (hpath : path = first ++ "/" ++ rest) : first = c := by
  rw [hpath, components_append, components_of_not_mem hfirst] at h
  exact (List.cons.inj h).1

/-! ## What is in a path -/

theorem mem_intercalate_iff {x : Char} (hx : x ≠ '/') :
    x ∈ ("/".intercalate cs).toList ↔ ∃ c ∈ cs, x ∈ c.toList := by
  induction cs with
  | nil => simp
  | cons c cs ih =>
    by_cases hne : cs = []
    · simp [hne]
    · rw [String.intercalate_cons_of_ne_nil hne, String.toList_append, String.toList_append,
        List.mem_append, List.mem_append, ih]
      simp [hx]

theorem mem_intercalate_concat_iff {x : Char} (hx : x ≠ '/') :
    x ∈ ("/".intercalate (cs ++ [c])).toList ↔ x ∈ ("/".intercalate cs).toList ∨ x ∈ c.toList := by
  rw [mem_intercalate_iff hx, mem_intercalate_iff hx]
  simp [or_and_right, exists_or]

theorem toList_intercalate_concat (hne : cs ≠ []) (c : String) :
    ("/".intercalate (cs ++ [c])).toList = ("/".intercalate cs).toList ++ '/' :: c.toList := by
  rw [String.intercalate_append_of_ne_nil hne (List.cons_ne_nil c []),
    String.intercalate_singleton, String.toList_append, String.toList_append, List.append_assoc]
  rfl

/-! ## Steps -/

theorem mem_steps_iff : c ∈ steps path ↔ c ∈ components path ∧ isIdle c = false := by
  simp [steps]

theorem steps_append (dir file : String) :
    steps (dir ++ "/" ++ file) = steps dir ++ steps file := by
  simp only [steps, components_append, List.filter_append]

@[simp] theorem steps_empty : steps "" = [] := rfl

/-- A `/` at the end of a path leads nowhere. -/
theorem steps_append_of_getLast? (h : dir.toList.getLast? = some '/') :
    steps (dir ++ file) = steps dir ++ steps file := by
  obtain ⟨front, hfront⟩ := List.getLast?_eq_some_iff.1 h
  have hdir : dir = String.ofList front ++ "/" := by
    rw [← String.toList_inj, hfront]
    simp
  have hsteps : steps dir = steps (String.ofList front) := by
    have happend := steps_append (String.ofList front) ""
    rwa [String.append_empty, ← hdir, steps_empty, List.append_nil] at happend
  rw [hsteps, hdir, steps_append]

theorem steps_join (h : isAbsolute file = false) :
    steps (join dir file) = steps dir ++ steps file := by
  unfold join
  rw [if_neg (by simp [h])]
  split
  · rename_i hdir
    rcases hdir with rfl | hlast
    · rw [String.empty_append, steps_empty, List.nil_append]
    · exact steps_append_of_getLast? hlast
  · exact steps_append dir file

theorem isAbsolute_append (h : dir ≠ "") : isAbsolute (dir ++ file) = isAbsolute dir := by
  obtain ⟨x, xs, hdir⟩ := List.exists_cons_of_ne_nil fun he => h (String.toList_eq_nil_iff.1 he)
  rw [isAbsolute, isAbsolute, String.toList_append, hdir]
  rfl

theorem isAbsolute_of_not_mem (h : '/' ∉ path.toList) : isAbsolute path = false := by
  refine beq_eq_false_iff_ne.2 fun he => h ?_
  exact List.mem_of_mem_head? he

theorem exists_join_eq_append (h : isAbsolute file = false) (dir : String) :
    ∃ rest, join dir file = dir ++ rest := by
  unfold join
  rw [if_neg (by simp [h])]
  split
  · exact ⟨file, rfl⟩
  · exact ⟨"/" ++ file, String.append_assoc⟩

/-- Names that are joined to a directory are the steps behind those to the directory. -/
theorem foldl_join {root : String} {names : List String} (hroot : root ≠ "")
    (hnames : ∀ c ∈ names, '/' ∉ c.toList ∧ isIdle c = false) :
    steps (names.foldl join root) = steps root ++ names ∧
      isAbsolute (names.foldl join root) = isAbsolute root := by
  induction names generalizing root with
  | nil => exact ⟨(List.append_nil _).symm, rfl⟩
  | cons c names ih =>
    obtain ⟨hslash, hidle⟩ := hnames c List.mem_cons_self
    have hrel := isAbsolute_of_not_mem hslash
    obtain ⟨rest, hjoin⟩ := exists_join_eq_append hrel root
    -- The path never gets empty, so it stays absolute or relative as it was.
    have hne : join root c ≠ "" := by
      rw [hjoin]
      exact fun he => hroot (String.append_eq_empty_iff.1 he).1
    obtain ⟨hsteps, habs⟩ := ih hne fun c hc => hnames c (List.mem_cons_of_mem _ hc)
    refine ⟨hsteps.trans ?_, habs.trans ?_⟩
    · have hc : steps c = [c] := by
        rw [steps, components_of_not_mem hslash]
        exact List.filter_eq_self.2 (by simp [hidle])
      rw [steps_join hrel, hc, List.append_assoc]
      rfl
    · rw [hjoin, isAbsolute_append hroot]

end Gazetteer.Path
