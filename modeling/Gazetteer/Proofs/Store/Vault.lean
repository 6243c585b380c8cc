import Gazetteer.Proofs.Files.Tree
import Gazetteer.Proofs.Note.Source
import Gazetteer.Store.Vault

/-!
# Vaults and the files in them

Listing a vault goes from files to notes, reading one from a note to a file. The way from a file to
its note starts at the vault if the path of the vault is absolute, and where relative paths start if
it is relative (`Vault.lead`, `sourceFor_pathOf`); the way back always starts at the vault
(`exists_read_eq`). So the two agree for absolute paths and for those that take no steps, and the
notes of a vault at any other relative path are looked for below the vault at the same path once
more.
-/

namespace Gazetteer.Vault

variable {v : Vault} {t : FileTree} {file : List String} {content : Except SystemFault Note}

/-! ## From files to notes -/

/-- The components in front of the path of a file, as seen from the vault, in the path of its
note. -/
def lead (v : Vault) : List String :=
  if Path.isAbsolute v.root then [] else Path.steps v.root

theorem sourceFor_pathOf (hroot : v.root ≠ "") (hfile : ∀ c ∈ file, FileTree.IsName c) :
    v.sourceFor (v.pathOf file) = .ok (SourceRef.ofString ("/".intercalate (v.lead ++ file))) := by
  obtain ⟨hsteps, habsolute⟩ :=
    Path.foldl_join hroot fun c hc => ⟨(hfile c hc).no_slash, (hfile c hc).not_idle⟩
  unfold sourceFor lead pathOf
  rw [hsteps, habsolute]
  cases hv : Path.isAbsolute v.root with
  | true =>
    have hinside : List.isPrefixOf? (Path.steps v.root) (Path.steps v.root ++ file) = some file :=
      List.isPrefixOf?_eq_some_iff_append_eq.2 rfl
    rw [if_pos rfl, hinside]
    rfl
  | false => rw [if_neg Bool.false_ne_true, if_neg Bool.false_ne_true, Path.plain, hsteps]

theorem lead_names :
    ∀ c ∈ v.lead, Path.isIdle c = false ∧ '/' ∉ c.toList ∧ c.toList ⊆ v.root.toList := by
  unfold lead
  split
  · exact fun c hc => absurd hc List.not_mem_nil
  · intro c hc
    obtain ⟨hc, hidle⟩ := Path.mem_steps_iff.1 hc
    exact ⟨hidle, Path.not_mem_of_mem_components hc, Path.subset_of_mem_components hc⟩

/-! ## The files of a vault -/

theorem ne_empty_of_at? (ht : v.disk.at? v.root = .ok t) : v.root ≠ "" := by
  intro he
  rw [Disk.at?, if_pos he] at ht
  cases ht

theorem files_eq (ht : v.disk.at? v.root = .ok t) :
    v.files = t.files.filter fun file => file.getLast?.any v.holds := by
  rw [files, ht]

theorem mem_files_iff (ht : v.disk.at? v.root = .ok t) :
    file ∈ v.files ↔ file.getLast?.any v.holds = true ∧
      (∀ c ∈ file, FileTree.isHidden c = false) ∧ ∃ content, t.HasFile file content := by
  rw [files_eq ht, List.mem_filter, FileTree.mem_files_iff, and_comm]

theorem isName_of_mem_files (ht : v.disk.at? v.root = .ok t) (hnamed : t.Named)
    (hfile : file ∈ v.files) : file ≠ [] ∧ ∀ c ∈ file, FileTree.IsName c := by
  obtain ⟨hholds, -, content, hhas⟩ := (mem_files_iff ht).1 hfile
  refine ⟨?_, hnamed.isName_of_hasFile hhas⟩
  rintro rfl
  cases hholds

theorem perm_sources (ht : v.disk.at? v.root = .ok t) (hnamed : t.Named) :
    v.sources.Perm
      (v.files.map fun file => SourceRef.ofString ("/".intercalate (v.lead ++ file))) := by
  have hmap : v.files.filterMap (fun file => (v.sourceFor (v.pathOf file)).toOption) =
      v.files.map fun file => SourceRef.ofString ("/".intercalate (v.lead ++ file)) := by
    rw [← List.filterMap_eq_map]
    refine List.filterMap_congr fun file hfile => ?_
    rw [sourceFor_pathOf (ne_empty_of_at? ht) (isName_of_mem_files ht hnamed hfile).2]
    rfl
  rw [sources, hmap]
  exact List.mergeSort_perm _ _

theorem ofString_lead (hroot : v.lead = [] ∨ '\\' ∉ v.root.toList)
    (hne : file ≠ []) (hfile : ∀ c ∈ file, FileTree.IsName c) :
    SourceRef.ofString ("/".intercalate (v.lead ++ file)) = ⟨"/".intercalate (v.lead ++ file)⟩ := by
  have hnames : ∀ c ∈ v.lead ++ file,
      Path.isIdle c = false ∧ '/' ∉ c.toList ∧ '\\' ∉ c.toList := by
    intro c hc
    rcases List.mem_append.1 hc with hc | hc
    · obtain ⟨hidle, hslash, hsub⟩ := lead_names c hc
      refine ⟨hidle, hslash, fun hback => ?_⟩
      rcases hroot with hnil | hroot
      · rw [hnil] at hc
        cases hc
      · exact hroot (hsub hback)
    · exact ⟨(hfile c hc).not_idle, (hfile c hc).no_slash, (hfile c hc).no_backslash⟩
  obtain ⟨c, cs, hcs⟩ := List.exists_cons_of_ne_nil (List.append_ne_nil_of_right_ne_nil v.lead hne)
  rw [hcs] at hnames ⊢
  exact SourceRef.ofString_intercalate (hnames c List.mem_cons_self).1
    fun c' hc' => (hnames c' hc').2

/-! ## From notes to files -/

theorem follow_eq_walk {d : Disk} {route : List String} (h : ∀ c ∈ route, '\x00' ∉ c.toList) :
    d.follow route = FileTree.walk [] d.top route := by
  unfold Disk.follow
  rw [if_neg]
  simpa using h

theorem at?_eq_walk {d : Disk} {path : String} (hne : path ≠ "")
    (hnul : ∀ c ∈ d.route path, '\x00' ∉ c.toList) :
    d.at? path = FileTree.walk [] d.top (d.route path) := by
  rw [Disk.at?, if_neg hne, follow_eq_walk hnul]

theorem walk_route (ht : v.disk.at? v.root = .ok t) :
    (∀ c ∈ v.disk.route v.root, '\x00' ∉ c.toList) ∧
      FileTree.walk [] v.disk.top (v.disk.route v.root) = .ok t := by
  rw [Disk.at?, if_neg (ne_empty_of_at? ht)] at ht
  have hnul : ∀ c ∈ v.disk.route v.root, '\x00' ∉ c.toList := by
    unfold Disk.follow at ht
    split at ht
    · cases ht
    · rename_i hnul
      simpa using hnul
  exact ⟨hnul, follow_eq_walk hnul ▸ ht⟩

theorem lead_subset_route (v : Vault) : v.lead ⊆ v.disk.route v.root := by
  unfold lead Disk.route
  split
  · exact List.nil_subset _
  · exact fun c hc => List.mem_append_right _ (Path.mem_steps_iff.1 hc).1

/-- Reading a note takes the route to the vault first. -/
theorem read_eq_follow {cs : List String} (hne : cs ≠ []) (hcs : ∀ c ∈ cs, '/' ∉ c.toList) :
    v.notes.read ⟨"/".intercalate cs⟩ =
      ((v.disk.follow (v.disk.route v.root ++ cs)).bind FileTree.note).mapError
        FileTree.errorOf := by
  show ((v.disk.follow (v.disk.route v.root ++ Path.components _)).bind _).mapError _ = _
  rw [Path.components_intercalate hne hcs]

/-- Reading a note goes on from the vault, with the components of the path of the note. -/
theorem exists_read_eq (ht : v.disk.at? v.root = .ok t) :
    ∃ above, ∀ cs, cs ≠ [] → (∀ c ∈ cs, '/' ∉ c.toList ∧ '\x00' ∉ c.toList) →
      v.notes.read ⟨"/".intercalate cs⟩ =
        ((FileTree.walk above t cs).bind FileTree.note).mapError FileTree.errorOf := by
  obtain ⟨hnul, hwalk⟩ := walk_route ht
  obtain ⟨above, hmore⟩ := FileTree.exists_walk_append hwalk
  refine ⟨above, fun cs hne hcs => ?_⟩
  have hall : ∀ c ∈ v.disk.route v.root ++ cs, '\x00' ∉ c.toList := by
    intro c hc
    rcases List.mem_append.1 hc with hc | hc
    · exact hnul c hc
    · exact (hcs c hc).2
  rw [read_eq_follow hne fun c hc => (hcs c hc).1, follow_eq_walk hall, hmore]

theorem read_intercalate (ht : v.disk.at? v.root = .ok t) (hnamed : t.Named) (hne : file ≠ [])
    (hfile : t.HasFile file content) :
    v.notes.read ⟨"/".intercalate file⟩ = content.mapError FileTree.errorOf := by
  have hnames := hnamed.isName_of_hasFile hfile
  obtain ⟨above, hread⟩ := exists_read_eq ht
  rw [hread file hne fun c hc => ⟨(hnames c hc).no_slash, (hnames c hc).no_nul⟩,
    hnamed.walk_of_hasFile hfile]
  rfl

/-- Reading a note as it is listed looks below the vault for the path with the components in
front. -/
theorem read_lead (ht : v.disk.at? v.root = .ok t) (hup : ".." ∉ v.lead) (hne : file ≠ [])
    (hfile : ∀ c ∈ file, FileTree.IsName c) :
    v.notes.read ⟨"/".intercalate (v.lead ++ file)⟩ =
      ((FileTree.walk [] t (v.lead ++ file)).bind FileTree.note).mapError FileTree.errorOf := by
  obtain ⟨above, hread⟩ := exists_read_eq ht
  have hup' : ".." ∉ v.lead ++ file := by
    rw [List.mem_append]
    rintro (h | h)
    · exact hup h
    · exact (hfile _ h).ne_up rfl
  rw [hread _ (List.append_ne_nil_of_right_ne_nil v.lead hne),
    FileTree.walk_of_not_mem hup' above []]
  intro c hc
  rcases List.mem_append.1 hc with hc | hc
  · exact ⟨(lead_names c hc).2.1, (walk_route ht).1 c (v.lead_subset_route hc)⟩
  · exact ⟨(hfile c hc).no_slash, (hfile c hc).no_nul⟩

/-! ## Listing and reading -/

/-- **Which file the notes of a vault are read from.** Let the entries of a vault have valid names
without backslashes. Its files are those that are not hidden and have one of its extensions, each
once, and its notes are these files, each once, with the components of `lead` in front of their
paths: none if the path of the vault is absolute, and the steps of that path if it is relative. If
there are none, every note is named by the path of exactly one file of the vault, as seen from the
vault, and reading the note reads that file. If there are some, and no backslash is in the path of
the vault, reading a note takes the route to the vault, these components once more and then those of
the file; so without `..` it looks below the vault for the path of the file behind those steps. -/
theorem sources_name_files (ht : v.disk.at? v.root = .ok t) (hnamed : t.Named) :
    (∀ file, file ∈ v.files ↔ file.getLast?.any v.holds = true ∧
        (∀ c ∈ file, FileTree.isHidden c = false) ∧ ∃ content, t.HasFile file content) ∧
      v.files.Nodup ∧
      v.sources.Perm
        (v.files.map fun file => SourceRef.ofString ("/".intercalate (v.lead ++ file))) ∧
      (v.lead = [] → ∀ source ∈ v.sources, ∃ file ∈ v.files, ∃ content,
        source.path = "/".intercalate file ∧ t.HasFile file content ∧
          v.notes.read source = content.mapError FileTree.errorOf ∧
            ∀ other ∈ v.files, source.path = "/".intercalate other → other = file) ∧
      ('\\' ∉ v.root.toList → ∀ file ∈ v.files,
        ⟨"/".intercalate (v.lead ++ file)⟩ ∈ v.sources ∧
          v.notes.read ⟨"/".intercalate (v.lead ++ file)⟩ =
            ((v.disk.follow (v.disk.route v.root ++ (v.lead ++ file))).bind
              FileTree.note).mapError FileTree.errorOf ∧
          (".." ∉ v.lead → v.notes.read ⟨"/".intercalate (v.lead ++ file)⟩ =
            ((FileTree.walk [] t (v.lead ++ file)).bind FileTree.note).mapError
              FileTree.errorOf)) := by
  refine ⟨fun _ => mem_files_iff ht, ?_, perm_sources ht hnamed, ?_, ?_⟩
  · rw [files_eq ht]
    exact hnamed.nodup_files.filter _
  · -- Nothing stands in front of the path of the file, so reading ends at the file.
    intro hlead source hsource
    obtain ⟨file, hfile, rfl⟩ := List.mem_map.1 ((perm_sources ht hnamed).subset hsource)
    obtain ⟨hne, hnames⟩ := isName_of_mem_files ht hnamed hfile
    obtain ⟨-, -, content, hhas⟩ := (mem_files_iff ht).1 hfile
    rw [ofString_lead (.inl hlead) hne hnames, hlead, List.nil_append]
    refine ⟨file, hfile, content, rfl, hhas, read_intercalate ht hnamed hne hhas, ?_⟩
    intro other hother (hpath : "/".intercalate file = "/".intercalate other)
    obtain ⟨hne', hnames'⟩ := isName_of_mem_files ht hnamed hother
    rw [← Path.components_intercalate hne' fun c hc => (hnames' c hc).no_slash, ← hpath,
      Path.components_intercalate hne fun c hc => (hnames c hc).no_slash]
  · -- The steps to the vault stand in front, and are taken once more from the vault.
    intro hroot file hfile
    obtain ⟨hne, hnames⟩ := isName_of_mem_files ht hnamed hfile
    refine ⟨?_, ?_, fun hup => read_lead ht hup hne hnames⟩
    · rw [← ofString_lead (.inr hroot) hne hnames]
      exact (perm_sources ht hnamed).symm.subset (List.mem_map_of_mem hfile)
    · refine read_eq_follow (List.append_ne_nil_of_right_ne_nil v.lead hne) fun c hc => ?_
      rcases List.mem_append.1 hc with hc | hc
      · exact (lead_names c hc).2.1
      · exact (hnames c hc).no_slash

/-- A directory at the top of the disk, with a component that leads nowhere in front of its name. -/
theorem at?_vault {c : String} (hc : c = "" ∨ c = ".") (hdisk : v.disk.top = .dir [("vault", t)])
    (hroot : v.root ≠ "") (hroute : v.disk.route v.root = [c, "vault"]) :
    v.disk.at? v.root = .ok t := by
  have hidle : Path.isIdle c = true := by rcases hc with rfl | rfl <;> decide
  have hnul : ∀ c' ∈ [c, "vault"], '\x00' ∉ c'.toList := by rcases hc with rfl | rfl <;> decide
  have hname : FileTree.IsName "vault" := by decide +kernel
  have hget : Entries.get? "vault" [("vault", t)] = some t :=
    (Entries.get?_eq_some_iff (List.pairwise_singleton ..)).2 List.mem_cons_self
  rw [at?_eq_walk hroot (hroute ▸ hnul), hroute, hdisk, FileTree.walk_dir, if_pos hidle,
    FileTree.walk_cons hname, hget]
  rfl

/-- A vault at an absolute path, a file below a directory, one that is no text, one with
another extension and a hidden one. -/
theorem sources_name_files_below :
    let note := Note.ofText ""
    let trips : FileTree := .dir
      [("Rome.MD", .file (.error .invalidData)), ("map.png", .file (.error .invalidData))]
    let t : FileTree := .dir
      [(".trash.md", .file (.ok note)), ("A.md", .file (.ok note)), ("Trips", trips)]
    let v : Vault := ⟨⟨.dir [("vault", t)], ["home"]⟩, "/vault", ["md"]⟩
    v.disk.at? v.root = .ok t ∧ t.Named ∧ v.sources.Perm [⟨"A.md"⟩, ⟨"Trips/Rome.MD"⟩] ∧
      v.notes.read ⟨"Trips/Rome.MD"⟩ = .error (FileTree.errorOf .invalidData) := by
  intro note trips t v
  have ht : v.disk.at? v.root = .ok t :=
    at?_vault (.inl rfl) rfl (by decide +kernel) (by decide +kernel)
  have htrips : trips.Named := .dir (by unfold Entries.Ordered; decide +kernel) (by decide +kernel)
    (List.forall_mem_cons.2 ⟨.file _, List.forall_mem_singleton.2 (.file _)⟩)
  have hnamed : t.Named := .dir (by unfold Entries.Ordered; decide +kernel) (by decide +kernel)
    (List.forall_mem_cons.2 ⟨.file _, List.forall_mem_cons.2
      ⟨.file _, List.forall_mem_singleton.2 htrips⟩⟩)
  have hfiles : v.files = [["A.md"], ["Trips", "Rome.MD"]] := by decide +kernel
  obtain ⟨-, -, hperm, hread, -⟩ := sources_name_files ht hnamed
  rw [hfiles, show List.map _ _ = [(⟨"A.md"⟩ : SourceRef), ⟨"Trips/Rome.MD"⟩] by decide +kernel]
    at hperm
  refine ⟨ht, hnamed, hperm, ?_⟩
  have hmem : (⟨"Trips/Rome.MD"⟩ : SourceRef) ∈ v.sources :=
    hperm.symm.subset (List.mem_cons_of_mem _ List.mem_cons_self)
  obtain ⟨file, -, content, -, hhas, hcontent, hunique⟩ := hread (by decide +kernel) _ hmem
  obtain rfl : ["Trips", "Rome.MD"] = file := hunique _ (by rw [hfiles]; simp) (by decide +kernel)
  have hfile : t.HasFile ["Trips", "Rome.MD"] (.error .invalidData) :=
    .entry (t := trips) (by simp) (.entry (by simp) (.file _))
  rw [hcontent, hnamed.content_unique hhas hfile]
  rfl

/-- A vault at a relative path lists a note that it does not have. -/
theorem listed_where_it_is_not :
    let t : FileTree := .dir [("A.md", .file (.ok (Note.ofText "")))]
    let v : Vault := ⟨⟨.dir [("vault", t)], []⟩, "./vault", ["md"]⟩
    v.disk.at? v.root = .ok t ∧ t.Named ∧ v.files = [["A.md"]] ∧
      v.sources = [⟨"vault/A.md"⟩] ∧
        v.notes.read ⟨"vault/A.md"⟩ = .error (FileTree.errorOf .notFound) := by
  intro t v
  have hnamed : t.Named := .dir (by unfold Entries.Ordered; decide +kernel) (by decide +kernel)
    (List.forall_mem_singleton.2 (.file _))
  have ht : v.disk.at? v.root = .ok t :=
    at?_vault (.inr rfl) rfl (by decide +kernel) (by decide +kernel)
  have hlead : v.lead = ["vault"] := by decide +kernel
  have hnames : ∀ c ∈ ["A.md"], FileTree.IsName c := by decide +kernel
  have hread := read_lead ht (by rw [hlead]; decide +kernel) (List.cons_ne_nil _ _) hnames
  rw [hlead] at hread
  refine ⟨ht, hnamed, by decide +kernel, by decide +kernel, hread.trans ?_⟩
  have hvault : FileTree.IsName "vault" := by decide +kernel
  have hnone : Entries.get? "vault" [("A.md", FileTree.file (.ok (Note.ofText "")))] = none := by
    rw [Entries.get?, show compare "vault" "A.md" = .gt by decide +kernel]
    rfl
  rw [List.singleton_append, FileTree.walk_cons hvault, hnone]
  rfl

end Gazetteer.Vault
