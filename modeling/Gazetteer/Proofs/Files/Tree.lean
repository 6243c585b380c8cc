import Gazetteer.Files.Tree
import Gazetteer.Proofs.Files.Path
import Mathlib.Data.List.Nodup

/-!
# The files of a directory

A directory has a file at a path if the names of the path lead to it, one entry after the other
(`FileTree.HasFile`). Listing a directory finds the files that are not hidden on the way
(`mem_files_iff`). If entries have different names and none of these leads elsewhere, each file is
listed once (`Named.nodup_files`) and walking along its path ends at it (`Named.walk_of_hasFile`).
-/

namespace Gazetteer.FileTree

variable {t here : FileTree} {above : List FileTree} {entries : List (String × FileTree)}
variable {path cs : List String} {name : String} {content : Except SystemFault Note}

/-! ## Paths to files -/

/-- A directory has a file with some content at a path. -/
inductive HasFile : FileTree → List String → Except SystemFault Note → Prop
  | file (content : Except SystemFault Note) : HasFile (.file content) [] content
  | entry {entries : List (String × FileTree)} {name : String} {t : FileTree} {path : List String}
      {content : Except SystemFault Note} (hmem : (name, t) ∈ entries)
      (hpath : HasFile t path content) : HasFile (.dir entries) (name :: path) content

theorem hasFile_cons_iff :
    HasFile t (name :: path) content ↔
      ∃ entries next, t = .dir entries ∧ (name, next) ∈ entries ∧ next.HasFile path content := by
  constructor
  · rintro ⟨⟩
    rename_i entries next hmem hpath
    exact ⟨entries, next, rfl, hmem, hpath⟩
  · rintro ⟨entries, next, rfl, hmem, hpath⟩
    exact .entry hmem hpath

theorem mem_filesIn_iff :
    path ∈ filesIn entries ↔
      ∃ name next rest, (name, next) ∈ entries ∧ isHidden name = false ∧ rest ∈ next.files ∧
        path = name :: rest := by
  induction entries with
  | nil => simp [filesIn]
  | cons e es ih =>
    obtain ⟨first, next⟩ := e
    rw [filesIn, List.mem_append, ih]
    constructor
    · rintro (hfirst | ⟨name, next', rest, hmem, hrest⟩)
      · split at hfirst
        · exact absurd hfirst List.not_mem_nil
        · rename_i hhidden
          obtain ⟨rest, hrest, rfl⟩ := List.mem_map.1 hfirst
          exact ⟨first, next, rest, List.mem_cons_self, Bool.eq_false_iff.2 hhidden, hrest, rfl⟩
      · exact ⟨name, next', rest, List.mem_cons_of_mem _ hmem, hrest⟩
    · rintro ⟨name, next', rest, hmem, hhidden, hrest, rfl⟩
      rcases List.mem_cons.1 hmem with heq | hmem
      · obtain ⟨rfl, rfl⟩ := Prod.mk.inj heq
        rw [if_neg (by simp [hhidden])]
        exact .inl (List.mem_map_of_mem hrest)
      · exact .inr ⟨name, next', rest, hmem, hhidden, hrest, rfl⟩

/-- The files that are listed are those that no hidden name leads to. -/
theorem mem_files_iff :
    path ∈ t.files ↔ (∀ c ∈ path, isHidden c = false) ∧ ∃ content, t.HasFile path content := by
  -- Both sides go down the tree along the path, so this is an induction on the path.
  induction path generalizing t with
  | nil =>
    cases t with
    | file content => simpa [files] using ⟨content, .file content⟩
    | dir entries =>
      constructor
      · intro h
        rw [files, mem_filesIn_iff] at h
        obtain ⟨_, _, _, -, -, -, hnil⟩ := h
        cases hnil
      · rintro ⟨-, _, ⟨⟩⟩
  | cons c path ih =>
    simp only [hasFile_cons_iff, List.forall_mem_cons]
    cases t with
    | file content => simp [files]
    | dir entries =>
      rw [files, mem_filesIn_iff]
      constructor
      · rintro ⟨_, next, _, hmem, hhidden, hrest, ⟨⟩⟩
        obtain ⟨hall, content, hfile⟩ := ih.1 hrest
        exact ⟨⟨hhidden, hall⟩, content, entries, next, rfl, hmem, hfile⟩
      · rintro ⟨⟨hhidden, hall⟩, content, _, next, ⟨⟩, hmem, hfile⟩
        exact ⟨c, next, path, hmem, hhidden, ih.2 ⟨hall, content, hfile⟩, rfl⟩

/-! ## Names -/

/-- A name that an entry of a directory can have, and that is not taken apart as a path. -/
structure IsName (name : String) : Prop where
  not_idle : Path.isIdle name = false
  ne_up : name ≠ ".."
  no_slash : '/' ∉ name.toList
  no_backslash : '\\' ∉ name.toList
  no_nul : '\x00' ∉ name.toList
  short : name.utf8ByteSize ≤ 255

instance (name : String) : Decidable (IsName name) :=
  decidable_of_iff
    (Path.isIdle name = false ∧ name ≠ ".." ∧ '/' ∉ name.toList ∧ '\\' ∉ name.toList ∧
      '\x00' ∉ name.toList ∧ name.utf8ByteSize ≤ 255)
    ⟨fun ⟨h₁, h₂, h₃, h₄, h₅, h₆⟩ => ⟨h₁, h₂, h₃, h₄, h₅, h₆⟩,
      fun ⟨h₁, h₂, h₃, h₄, h₅, h₆⟩ => ⟨h₁, h₂, h₃, h₄, h₅, h₆⟩⟩

/-- All entries, here and below, have names, and different ones in each directory. -/
inductive Named : FileTree → Prop
  | file (content : Except SystemFault Note) : Named (.file content)
  | dir {entries : List (String × FileTree)} (ordered : Entries.Ordered entries)
      (names : ∀ e ∈ entries, IsName e.1) (below : ∀ e ∈ entries, Named e.2) :
      Named (.dir entries)

theorem Named.isName_of_hasFile (h : t.Named) (hfile : t.HasFile path content) :
    ∀ c ∈ path, IsName c := by
  induction hfile with
  | file => exact fun c hc => absurd hc List.not_mem_nil
  | entry hmem hpath ih =>
    cases h with
    | dir ordered names below =>
      exact List.forall_mem_cons.2 ⟨names _ hmem, ih (below _ hmem)⟩

theorem nodup_filesIn (hordered : Entries.Ordered entries)
    (hnodup : ∀ e ∈ entries, e.2.files.Nodup) : (filesIn entries).Nodup := by
  induction entries with
  | nil => exact List.nodup_nil
  | cons e es ih =>
    obtain ⟨first, next⟩ := e
    obtain ⟨hlt, hes⟩ := List.pairwise_cons.1 hordered
    have hrest := ih hes fun e he => hnodup e (List.mem_cons_of_mem _ he)
    rw [filesIn]
    split
    · exact hrest
    · have hfirst : (next.files.map (first :: ·)).Nodup :=
        (hnodup _ List.mem_cons_self).map (List.cons_injective)
      refine List.nodup_append.2 ⟨hfirst, hrest, fun path hpath other hother heq => ?_⟩
      -- Paths of later entries start with greater names.
      obtain ⟨rest, -, rfl⟩ := List.mem_map.1 hpath
      obtain ⟨name, next', rest', hmem, -, -, rfl⟩ := mem_filesIn_iff.1 hother
      obtain ⟨rfl, -⟩ := List.cons.inj heq
      have hself := hlt _ hmem
      rw [Std.ReflOrd.compare_self] at hself
      cases hself

theorem Named.nodup_files (h : t.Named) : t.files.Nodup := by
  induction h with
  | file content => simp [files]
  | dir ordered names below ih =>
    rw [files]
    exact nodup_filesIn ordered ih

/-! ## Walking -/

theorem walk_dir (above : List FileTree) (entries : List (String × FileTree)) (c : String)
    (cs : List String) :
    walk above (.dir entries) (c :: cs) =
      if Path.isIdle c then walk above (.dir entries) cs
      else if c = ".." then
        match above with
        | [] => walk [] (.dir entries) cs
        | parent :: rest => walk rest parent cs
      else if 255 < c.utf8ByteSize then .error .invalidFilename
      else
        match Entries.get? c entries with
        | some next => walk (.dir entries :: above) next cs
        | none => .error .notFound :=
  rfl

theorem walk_cons (hname : IsName name) :
    walk above (.dir entries) (name :: cs) =
      match Entries.get? name entries with
      | some next => walk (.dir entries :: above) next cs
      | none => .error .notFound := by
  rw [walk_dir, hname.not_idle, if_neg Bool.false_ne_true, if_neg hname.ne_up,
    if_neg (Nat.not_lt.2 hname.short)]

theorem Named.walk_of_hasFile (h : t.Named) (hfile : t.HasFile path content)
    (above : List FileTree) : walk above t path = .ok (.file content) := by
  induction hfile generalizing above with
  | file => rfl
  | entry hmem hpath ih =>
    cases h with
    | dir ordered names below =>
      rw [walk_cons (names _ hmem), (Entries.get?_eq_some_iff ordered).2 hmem]
      exact ih (below _ hmem) _

theorem Named.content_unique {content' : Except SystemFault Note} (h : t.Named)
    (hfile : t.HasFile path content) (hfile' : t.HasFile path content') : content = content' := by
  have hwalk := h.walk_of_hasFile hfile []
  rw [h.walk_of_hasFile hfile' [], Except.ok.injEq, FileTree.file.injEq] at hwalk
  exact hwalk.symm

/-- A walk along two paths is one along the first and then, from where it ends, one along the
second. -/
theorem exists_walk_append (h : walk above here cs = .ok t) :
    ∃ above', ∀ more, walk above here (cs ++ more) = walk above' t more := by
  induction cs generalizing above here with
  | nil =>
    obtain rfl := Except.ok.inj h
    exact ⟨above, fun _ => rfl⟩
  | cons c cs ih =>
    cases here with
    | file content => cases h
    | dir entries =>
      simp only [List.cons_append, walk_dir] at h ⊢
      by_cases hidle : Path.isIdle c
      · simp only [if_pos hidle] at h ⊢
        exact ih h
      by_cases hup : c = ".."
      · simp only [if_neg hidle, if_pos hup] at h ⊢
        cases above with
        | nil => exact ih h
        | cons parent rest => exact ih h
      by_cases hlong : 255 < c.utf8ByteSize
      · rw [if_neg hidle, if_neg hup, if_pos hlong] at h
        cases h
      simp only [if_neg hidle, if_neg hup, if_neg hlong] at h ⊢
      cases hnext : Entries.get? c entries with
      | none =>
        rw [hnext] at h
        cases h
      | some next =>
        rw [hnext] at h
        exact ih h

theorem walk_of_not_mem (h : ".." ∉ cs) (above above' : List FileTree) (here : FileTree) :
    walk above here cs = walk above' here cs := by
  induction cs generalizing above above' here with
  | nil => rfl
  | cons c cs ih =>
    obtain ⟨hc, hcs⟩ := not_or.1 (mt List.mem_cons.2 h)
    cases here with
    | file content => rfl
    | dir entries =>
      rw [walk_dir, walk_dir, if_neg (Ne.symm hc), if_neg (Ne.symm hc), ih hcs above above']
      cases Entries.get? c entries with
      | none => rfl
      | some next =>
        show (if _ then _ else if _ then _ else walk _ next cs) = _
        rw [ih hcs (.dir entries :: above) (.dir entries :: above')]

end Gazetteer.FileTree
