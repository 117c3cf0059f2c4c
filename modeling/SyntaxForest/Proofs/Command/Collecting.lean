import SyntaxForest.Command.Collect
import SyntaxForest.Proofs.Files.Listing
import SyntaxForest.Proofs.Grammar.History

/-!
# The files that paths stand for

A path to a directory stands for the regular files below it that have a grammar, each once, in the
order of their paths; any other path stands for itself. Members and order determine the list, so the
order in which the directory is walked does not show in it.

## Main definitions

* `Session.StandsFor`: the files that a path stands for
* `Session.Resolves`: a path to a directory, or one that has a grammar
* `Session.Forces`: the grammar that a language forces on all files

## Main results

* `Session.StandsFor.unique`: a path stands for one list of files
* `Session.standsFor_sorted`: the list in which a walk in any order results
* `Session.collect_lists_files`: the files that several paths stand for
-/

namespace SyntaxForest.Command.Session

open FileEntry FileSystem Std

/-! ## What a path stands for -/

/-- A path stands for files with their grammars. -/
inductive StandsFor (s : Session) (forced : Option Grammar) (p : Path) :
    List SourceFile → Prop where
  /-- A path to no directory stands for itself. -/
  | file {grammar : Grammar} (noDirectory : s.files.isDirectory p = false)
    (speaks : s.grammarFor? forced p = some grammar) : StandsFor s forced p [⟨p, grammar⟩]
  /-- A path to a directory stands for the regular files below it that have a grammar, at any depth,
  in the strict order of their paths. The names that lead to a file are the last parts of its path,
  and they decide its place. -/
  | directory {entries : List (String × FileEntry)} {found : List SourceFile}
    (leads : s.files.entryAt p = .ok (.directory entries))
    (complete : ∀ file, file ∈ found ↔ ∃ names, HasFile (.directory entries) names ∧
      file.path = p.under names ∧ s.grammarFor? forced file.path = some file.grammar)
    (parts : ∀ names, HasFile (.directory entries) names →
      (p.under names).components = p.components ++ names.map .normal)
    (places : ∀ as bs, HasFile (.directory entries) as → HasFile (.directory entries) bs →
      ((p.under as).compare (p.under bs) = .lt ↔ as < bs))
    (ordered : found.Pairwise fun a b => a.path.compare b.path = .lt) : StandsFor s forced p found

/-- A path leads to a directory or has a grammar. -/
def Resolves (s : Session) (forced : Option Grammar) (p : Path) : Prop :=
  s.files.isDirectory p = true ∨ (s.grammarFor? forced p).isSome = true

instance (s : Session) (forced : Option Grammar) (p : Path) : Decidable (s.Resolves forced p) :=
  inferInstanceAs (Decidable (_ ∨ _))

/-- The grammar that a language forces on all files: the one that it names, or none without a
language. -/
inductive Forces (s : Session) : Option String → Option Grammar → Prop where
  | none : Forces s none none
  | named {name : String} {g : Grammar} (found : s.registry.find? name = some g) :
    Forces s (some name) (some g)

/-- The files that a walk comes upon, as far as they have a grammar, in the order of their paths. -/
def sorted (s : Session) (forced : Option Grammar) (walked : List Path) : List SourceFile :=
  (walked.filterMap (s.sourceFile? forced)).mergeSort fun a b => a.path.compare b.path ≠ .gt

section Directories

variable {s : Session} {forced : Option Grammar} {p : Path} {entries : List (String × FileEntry)}
  {found found' : List SourceFile} {walked : List Path}

theorem sourceFile?_eq_some_iff {file : SourceFile} :
    s.sourceFile? forced p = some file ↔
      file.path = p ∧ s.grammarFor? forced file.path = some file.grammar := by
  rw [sourceFile?, Option.map_eq_some_iff]
  constructor
  · rintro ⟨g, speaks, rfl⟩
    exact ⟨rfl, speaks⟩
  · rintro ⟨rfl, speaks⟩
    exact ⟨_, speaks, rfl⟩

theorem mem_sorted_iff {file : SourceFile} :
    file ∈ s.sorted forced walked ↔
      file.path ∈ walked ∧ s.grammarFor? forced file.path = some file.grammar := by
  simp only [sorted, List.mem_mergeSort, List.mem_filterMap, sourceFile?_eq_some_iff]
  constructor
  · rintro ⟨_, holds, rfl, speaks⟩
    exact ⟨holds, speaks⟩
  · rintro ⟨holds, speaks⟩
    exact ⟨_, holds, rfl, speaks⟩

/-- Paths that are walked once each are sorted strictly. -/
theorem pairwise_sorted (once : walked.Pairwise fun a b => a.compare b ≠ .eq) :
    (s.sorted forced walked).Pairwise fun a b => a.path.compare b.path = .lt := by
  have order : (s.sorted forced walked).Pairwise fun a b =>
      decide (a.path.compare b.path ≠ .gt) = true :=
    List.pairwise_mergeSort
      (fun a b c ab bc => by
        rw [decide_eq_true_eq, ne_eq, Ordering.ne_gt_iff_isLE] at ab bc ⊢
        exact TransCmp.isLE_trans ab bc)
      (fun a b => by
        rw [Bool.or_eq_true, decide_eq_true_eq, decide_eq_true_eq]
        by_cases later : a.path.compare b.path = .gt
        · refine .inr ?_
          rw [OrientedCmp.gt_iff_lt.mp later]
          decide
        · exact .inl later) _
  -- Sorting permutes the files, and that paths differ is symmetric.
  have different : (s.sorted forced walked).Pairwise fun a b => a.path.compare b.path ≠ .eq := by
    refine (List.mergeSort_perm _ _).symm.pairwise ?_ fun ne same => ne (OrientedCmp.eq_symm same)
    refine List.pairwise_filterMap.mpr (once.imp ?_)
    intro a b ne file first file' later
    rw [(sourceFile?_eq_some_iff.mp first).1, (sourceFile?_eq_some_iff.mp later).1]
    exact ne
  refine order.imp₂ (fun a b le ne => ?_) different
  cases h : a.path.compare b.path with
  | lt => rfl
  | eq => exact absurd h ne
  | gt => exact absurd h (of_decide_eq_true le)

/-- The paths of the files below a directory differ. -/
theorem pairwise_files (ne : p.text ≠ "") (proper : IsProper (.directory entries)) :
    ((FileEntry.directory entries).files p).Pairwise fun a b => a.compare b ≠ .eq := by
  rw [files_eq, List.pairwise_map]
  refine (List.Pairwise.and_mem.mp (nodup_names proper)).imp ?_
  rintro as bs ⟨ha, hb, differ⟩ same
  -- Paths that compare as equal have the same parts, and the last of them are the names.
  rw [Path.compare, LawfulEqCmp.compare_eq_iff_eq,
    Path.components_under ne ((mem_names_iff.mp ha).isName proper),
    Path.components_under ne ((mem_names_iff.mp hb).isName proper),
    List.append_cancel_left_eq] at same
  exact differ (List.map_injective_iff.mpr (fun _ _ => Path.Component.normal.inj) same)

/-- **A walk that comes upon each file below a directory once**, in whatever order, results in the
files that the directory stands for. -/
theorem standsFor_sorted (leads : s.files.entryAt p = .ok (.directory entries))
    (proper : s.files.root.IsProper) (once : walked.Perm ((FileEntry.directory entries).files p)) :
    s.StandsFor forced p (s.sorted forced walked) := by
  have ne := text_ne_of_entryAt leads
  have proper := isProper_of_entryAt proper leads
  refine .directory leads (fun file => ?_)
    (fun names has => Path.components_under ne (has.isName proper))
    (fun as bs ha hb => Path.compare_under_eq_lt_iff ne (ha.isName proper) (hb.isName proper))
    (pairwise_sorted ?_)
  · rw [mem_sorted_iff, once.mem_iff, files_eq, List.mem_map]
    constructor
    · rintro ⟨⟨names, listed, path⟩, speaks⟩
      exact ⟨names, mem_names_iff.mp listed, path.symm, speaks⟩
    · rintro ⟨names, has, path, speaks⟩
      exact ⟨⟨names, mem_names_iff.mpr has, path.symm⟩, speaks⟩
  · exact once.symm.pairwise (pairwise_files ne proper) fun ne same => ne (OrientedCmp.eq_symm same)

/-- **A path stands for one list of files**, as members and order determine it. -/
theorem StandsFor.unique (h : s.StandsFor forced p found) (h' : s.StandsFor forced p found') :
    found = found' := by
  cases h with
  | file noDirectory speaks =>
    cases h' with
    | file noDirectory' speaks' =>
      rw [speaks] at speaks'
      cases speaks'
      rfl
    | directory leads' => rw [isDirectory, leads'] at noDirectory; cases noDirectory
  | directory leads complete parts places ordered =>
    cases h' with
    | file noDirectory' => rw [isDirectory, leads] at noDirectory'; cases noDirectory'
    | directory leads' complete' parts' places' ordered' =>
      rw [leads] at leads'
      cases leads'
      -- In strict order no file stands twice, so lists with the same members are permutations.
      have nodup {found : List SourceFile}
          (ordered : found.Pairwise fun a b => a.path.compare b.path = .lt) : found.Nodup := by
        refine ordered.imp fun {a b} lt => ?_
        rintro rfl
        exact OrientedCmp.not_lt_of_lt lt lt
      refine List.Perm.eq_of_pairwise (fun a b _ _ lt gt => ?_) ordered ordered' ?_
      · exact absurd gt (OrientedCmp.not_lt_of_lt lt)
      refine (List.perm_ext_iff_of_nodup (nodup ordered) (nodup ordered')).mpr fun file => ?_
      rw [complete, complete']

end Directories

/-! ## One path -/

section Paths

variable {s : Session} {forced : Option Grammar} {p : Path} {found : List SourceFile}
  {fs : FileSystem}

theorem filesAt_eq_error (h : ¬ s.Resolves forced p) :
    s.filesAt forced p =
      .error ⟨s!"no grammar for {p.text}; pass --language to choose one", []⟩ := by
  obtain ⟨noDirectory, silent⟩ := not_or.mp h
  rw [Option.isSome_iff_ne_none, not_not] at silent
  rw [filesAt, if_neg noDirectory, sourceFile?, silent]
  rfl

theorem exists_of_isDirectory (h : s.files.isDirectory p = true) :
    ∃ entries, s.files.entryAt p = .ok (.directory entries) := by
  rw [isDirectory] at h
  split at h
  next entries leads => exact ⟨entries, leads⟩
  next => cases h

theorem filesBelow_standsFor (proper : s.files.root.IsProper)
    {entries : List (String × FileEntry)}
    (leads : s.files.entryAt p = .ok (.directory entries)) :
    s.StandsFor forced p (s.filesBelow forced p) := by
  have listed : s.files.filesBelow p = (FileEntry.directory entries).files p := by
    rw [FileSystem.filesBelow, leads]
  exact standsFor_sorted leads proper (.of_eq listed)

theorem exists_filesAt (proper : s.files.root.IsProper) (h : s.Resolves forced p) :
    ∃ found, s.filesAt forced p = .ok found ∧ s.StandsFor forced p found := by
  by_cases directory : s.files.isDirectory p = true
  · obtain ⟨entries, leads⟩ := exists_of_isDirectory directory
    exact ⟨_, by rw [filesAt, if_pos directory], filesBelow_standsFor proper leads⟩
  · obtain ⟨g, speaks⟩ := Option.isSome_iff_exists.mp (h.resolve_left directory)
    refine ⟨[⟨p, g⟩], ?_, .file (Bool.eq_false_iff.mpr directory) speaks⟩
    rw [filesAt, if_neg directory, sourceFile?, speaks]
    rfl

/-- A path stands for the same files, whatever the order of entries is. -/
theorem StandsFor.relisted (h : s.StandsFor forced p found) (same : s.files.Relisted fs)
    (proper : s.files.root.IsProper) : StandsFor { s with files := fs } forced p found := by
  cases h with
  | file noDirectory speaks =>
    exact .file ((same.isDirectory proper p).symm.trans noDirectory) speaks
  | directory leads complete parts places ordered =>
    have answer := same.entryAt proper p
    rw [leads] at answer
    generalize there : fs.entryAt p = other at answer
    cases answer with
    | ok below =>
      cases below with
      | directory listed =>
        have holds (names : List String) :
            HasFile (.directory _) names ↔ HasFile (.directory _) names :=
          (FileEntry.Relisted.directory listed).hasFile_iff
        refine .directory there (fun file => ?_)
          (fun names has => parts names ((holds names).mpr has))
          (fun as bs ha hb => places as bs ((holds as).mpr ha) ((holds bs).mpr hb)) ordered
        rw [complete]
        exact exists_congr fun names => and_congr_left' (holds names)

theorem filesAt_relisted (same : s.files.Relisted fs) (proper : s.files.root.IsProper) :
    filesAt { s with files := fs } forced p = s.filesAt forced p := by
  have directory : fs.isDirectory p = s.files.isDirectory p := (same.isDirectory proper p).symm
  have resolves : Resolves { s with files := fs } forced p ↔ s.Resolves forced p := by
    rw [Resolves, Resolves, directory]
    rfl
  by_cases h : s.Resolves forced p
  · obtain ⟨found, ok, stands⟩ := exists_filesAt proper h
    obtain ⟨found', ok', stands'⟩ :=
      exists_filesAt (s := { s with files := fs }) (same.root.isProper proper) (resolves.mpr h)
    rw [ok, ok', (stands.relisted same proper).unique stands']
  · rw [filesAt_eq_error h, filesAt_eq_error (mt resolves.mp h)]

end Paths

/-! ## Several paths -/

section Collections

variable {s : Session} {forced : Option Grammar} {paths before behind : List Path} {p : Path}

theorem exists_filesAtAll (proper : s.files.root.IsProper) (h : ∀ p ∈ paths, s.Resolves forced p) :
    ∃ found, s.filesAtAll forced paths = .ok found.flatten ∧
      List.Forall₂ (s.StandsFor forced) paths found := by
  induction paths with
  | nil => exact ⟨[], rfl, .nil⟩
  | cons p paths ih =>
    obtain ⟨first, later⟩ := List.forall_mem_cons.mp h
    obtain ⟨files, ok, stands⟩ := exists_filesAt proper first
    obtain ⟨found, rest, all⟩ := ih later
    refine ⟨files :: found, ?_, .cons stands all⟩
    rw [filesAtAll, ok, rest]
    rfl

theorem filesAtAll_eq_error (proper : s.files.root.IsProper)
    (h : ∀ q ∈ before, s.Resolves forced q) (fails : ¬ s.Resolves forced p) :
    s.filesAtAll forced (before ++ p :: behind) =
      .error ⟨s!"no grammar for {p.text}; pass --language to choose one", []⟩ := by
  induction before with
  | nil => rw [List.nil_append, filesAtAll, filesAt_eq_error fails]
  | cons q before ih =>
    obtain ⟨first, later⟩ := List.forall_mem_cons.mp h
    obtain ⟨files, ok, -⟩ := exists_filesAt proper first
    rw [List.cons_append, filesAtAll, ok, ih later]
    rfl

theorem filesAtAll_relisted {fs : FileSystem} (same : s.files.Relisted fs)
    (proper : s.files.root.IsProper) :
    filesAtAll { s with files := fs } forced paths = s.filesAtAll forced paths := by
  induction paths with
  | nil => rfl
  | cons p paths ih => rw [filesAtAll, filesAtAll, filesAt_relisted same proper, ih]

theorem forcedGrammar_eq_ok_iff {language : Option String} :
    s.forcedGrammar language = .ok forced ↔ s.Forces language forced := by
  constructor
  · intro h
    cases language with
    | none => cases h; exact .none
    | some name =>
      rw [Session.forcedGrammar] at h
      split at h
      next => cases h
      next g known => cases h; exact .named (Registry.get_eq_ok_iff.mp known)
  · intro h
    cases h with
    | none => rfl
    | named found => rw [Session.forcedGrammar, Registry.get_eq_ok_iff.mpr found]

end Collections

/-! ## Grammars of files -/

section Grammars

variable {s : Session} {forced : Option Grammar} {paths : List Path} {p : Path} {g : Grammar}
  {found : List SourceFile}

/-- What the registry has under a name it has under the name of the grammar. -/
theorem find?_name_of_find? {name : String} (h : s.registry.find? name = some g) :
    s.registry.find? g.name = some g := by
  rwa [Registry.name_of_get (Registry.get_eq_ok_iff.mpr h)]

/-- The grammar that a language forces is the one of its own name. -/
theorem Forces.registered {language : Option String} (h : s.Forces language forced) :
    ∀ g, forced = some g → s.registry.find? g.name = some g := by
  cases h with
  | none => exact nofun
  | named found =>
    intro g same
    cases same
    exact find?_name_of_find? found

/-- The grammar of a file is the one of its own name. -/
theorem find?_of_grammarFor? (registered : ∀ g, forced = some g → s.registry.find? g.name = some g)
    (h : s.grammarFor? forced p = some g) : s.registry.find? g.name = some g := by
  rcases Option.or_eq_some_iff.mp h with named | ⟨-, owned⟩
  · exact registered g named
  · obtain ⟨extension, -, owned⟩ := Option.bind_eq_some_iff.mp owned
    obtain ⟨name, -, found⟩ := Option.bind_eq_some_iff.mp owned
    exact find?_name_of_find? found

theorem grammarFor?_of_mem_filesAt (h : s.filesAt forced p = .ok found) :
    ∀ file ∈ found, s.grammarFor? forced file.path = some file.grammar := by
  rw [filesAt] at h
  split at h
  next =>
    cases h
    exact fun file member => (mem_sorted_iff.mp member).2
  next =>
    split at h
    next file known =>
      cases h
      exact List.forall_mem_singleton.mpr (sourceFile?_eq_some_iff.mp known).2
    next => cases h

theorem grammarFor?_of_mem_filesAtAll (h : s.filesAtAll forced paths = .ok found) :
    ∀ file ∈ found, s.grammarFor? forced file.path = some file.grammar := by
  induction paths generalizing found with
  | nil =>
    cases h
    exact List.forall_mem_nil _
  | cons p paths ih =>
    rw [filesAtAll] at h
    split at h
    next => cases h
    next files first =>
      cases rest : s.filesAtAll forced paths with
      | error f => rw [rest] at h; cases h
      | ok later =>
        rw [rest] at h
        cases h
        exact List.forall_mem_append.mpr ⟨grammarFor?_of_mem_filesAt first, ih rest⟩

/-- **Files of one grammar name are of one grammar**, the one that the registry has under it. -/
theorem find?_of_mem_collect {language : Option String} (h : s.collect paths language = .ok found) :
    ∀ file ∈ found, s.registry.find? file.grammar.name = some file.grammar := by
  intro file member
  rw [collect] at h
  split at h
  next => cases h
  next forced forces =>
    have registered := (forcedGrammar_eq_ok_iff.mp forces).registered
    exact find?_of_grammarFor? registered (grammarFor?_of_mem_filesAtAll h file member)

end Grammars

/-- A directory with a name in which a dash stands where another name ends, a file without a grammar
and a link, listed as given. -/
def dashedSession (list : List (String × FileEntry) → List (String × FileEntry)) : Session where
  registry := { grammars := [⟨"json", ⟨"json"⟩, ["json"]⟩], extensions := [("json", "json")] }
  operationLimit := none
  files := ⟨⟨"/home"⟩, .directory [("src", .directory (list
    [("a-b.json", .file []), ("note.txt", .file []), ("a", .directory [("z.json", .file [])]),
      ("l.json", .link (.file []))]))]⟩

end SyntaxForest.Command.Session
