import Mathlib.Data.List.Nodup
import SyntaxForest.Files
import SyntaxForest.Proofs.Text.PathOrder

/-!
# What a directory holds

The regular files below a directory are found under lists of names, each under one of its own, as no
directory gives a name twice. In which order a directory lists its entries decides in which order
the files below it are listed, and nothing else: a path leads to the same entries, and there are the
same files under the same names.

## Main definitions

* `FileEntry.HasFile`: a regular file stands under names
* `FileEntry.IsProper`: directories that give different names to their entries
* `FileEntry.Relisted`: the same entries, listed in another order
* `FileEntry.names`: the names of the regular files, as they are listed

## Main results

* `FileEntry.files_eq`, `FileEntry.mem_names_iff`, `FileEntry.nodup_names`: the files that are
  listed
* `FileEntry.Relisted.hasFile_iff`: the order of entries does not count for what they hold
* `FileSystem.Relisted.entryAt`: nor for where paths lead
-/

namespace SyntaxForest

namespace FileEntry

/-- A regular file stands under these names, with no link on the way to it. -/
inductive HasFile : FileEntry → List String → Prop where
  /-- It is the entry itself. -/
  | here {contents : Bytes} : HasFile (.file contents) []
  /-- It stands below an entry of a directory. -/
  | inside {entries : List (String × FileEntry)} {name : String} {entry : FileEntry}
    {names : List String} (holds : (name, entry) ∈ entries) (rest : entry.HasFile names) :
    HasFile (.directory entries) (name :: names)

mutual

/-- Every directory gives its entries names that differ and that may stand in a path. -/
def IsProper : FileEntry → Prop
  | .file _ | .special => True
  | .directory entries => (entries.map (·.1)).Nodup ∧ AreProper entries
  | .link target => target.IsProper

/-- The entries have names that may stand in a path, and so have those below them. -/
def AreProper : List (String × FileEntry) → Prop
  | [] => True
  | (name, entry) :: rest => Path.IsName name ∧ entry.IsProper ∧ AreProper rest

end

mutual

/-- Two entries are the same but for the order in which directories list their entries. -/
inductive Relisted : FileEntry → FileEntry → Prop where
  /-- Two files are the same. -/
  | file {contents : Bytes} : Relisted (.file contents) (.file contents)
  /-- Two directories hold the same entries. -/
  | directory {entries others : List (String × FileEntry)} (same : RelistedAll entries others) :
    Relisted (.directory entries) (.directory others)
  /-- Two links lead to the same entry. -/
  | link {target other : FileEntry} (same : Relisted target other) :
    Relisted (.link target) (.link other)
  /-- Two entries of other kinds are the same. -/
  | special : Relisted .special .special

/-- Each entry of one list has its place in the other, under its name. -/
inductive RelistedAll :
    List (String × FileEntry) → List (String × FileEntry) → Prop where
  | nil : RelistedAll [] []
  | cons {name : String} {entry other : FileEntry} {rest before behind : List (String × FileEntry)}
    (first : Relisted entry other) (later : RelistedAll rest (before ++ behind)) :
    RelistedAll ((name, entry) :: rest) (before ++ (name, other) :: behind)

end

mutual

/-- The names of the regular files at or below an entry, as they are listed. -/
def names : FileEntry → List (List String)
  | .file _ => [[]]
  | .directory entries => namesOfAll entries
  | .link _ | .special => []

/-- The names of the regular files at or below entries. -/
def namesOfAll : List (String × FileEntry) → List (List String)
  | [] => []
  | (name, entry) :: rest => entry.names.map (name :: ·) ++ namesOfAll rest

end

/-! ## The files that are listed -/

section Listed

variable {name : String} {ns : List String}

mutual

/-- Files are listed under their names. -/
theorem files_eq (p : Path) : ∀ entry : FileEntry, entry.files p = entry.names.map p.under
  | .file _ => rfl
  | .directory entries => filesOfAll_eq p entries
  | .link _ | .special => rfl

theorem filesOfAll_eq (p : Path) : ∀ entries : List (String × FileEntry),
    filesOfAll p entries = (namesOfAll entries).map p.under
  | [] => rfl
  | (name, entry) :: rest => by
    rw [filesOfAll, namesOfAll, List.map_append, List.map_map, files_eq (p.join ⟨name⟩) entry,
      filesOfAll_eq p rest]
    rfl

end

mutual

/-- **Each regular file is listed**, and nothing else is. -/
theorem mem_names_iff :
    ∀ {entry : FileEntry} {ns : List String}, ns ∈ entry.names ↔ entry.HasFile ns
  | .file _, ns => by
    rw [names, List.mem_singleton]
    exact ⟨fun none => none ▸ .here, fun h => by cases h; rfl⟩
  | .directory entries, ns => by
    rw [names, mem_namesOfAll_iff]
    constructor
    · rintro ⟨name, entry, rest, rfl, holds, below⟩
      exact .inside holds below
    · intro h
      cases h with
      | inside holds below => exact ⟨_, _, _, rfl, holds, below⟩
  | .link _, _ | .special, _ => iff_of_false List.not_mem_nil nofun

theorem mem_namesOfAll_iff : ∀ {entries : List (String × FileEntry)} {ns : List String},
    ns ∈ namesOfAll entries ↔
      ∃ name entry rest, ns = name :: rest ∧ (name, entry) ∈ entries ∧ entry.HasFile rest
  | [], ns => iff_of_false List.not_mem_nil (by simp)
  | (name, entry) :: later, ns => by
    rw [namesOfAll, List.mem_append, mem_namesOfAll_iff, List.mem_map]
    constructor
    · rintro (⟨rest, below, rfl⟩ | ⟨other, e, rest, rfl, holds, below⟩)
      · exact ⟨name, entry, rest, rfl, List.mem_cons_self, mem_names_iff.mp below⟩
      · exact ⟨other, e, rest, rfl, List.mem_cons_of_mem _ holds, below⟩
    · rintro ⟨other, e, rest, rfl, holds, below⟩
      rcases List.mem_cons.mp holds with same | holds
      · cases same
        exact .inl ⟨rest, mem_names_iff.mpr below, rfl⟩
      · exact .inr ⟨other, e, rest, rfl, holds, below⟩

end

theorem areProper_iff {entries : List (String × FileEntry)} :
    AreProper entries ↔ ∀ e ∈ entries, Path.IsName e.1 ∧ e.2.IsProper := by
  induction entries with
  | nil => exact iff_of_true trivial nofun
  | cons e entries ih => rw [AreProper, ih, List.forall_mem_cons, and_assoc]

mutual

/-- No file is listed twice. -/
theorem nodup_names : ∀ {entry : FileEntry}, entry.IsProper → entry.names.Nodup
  | .file _, _ => List.nodup_singleton []
  | .directory _, proper => nodup_namesOfAll proper.1 proper.2
  | .link _, _ | .special, _ => List.nodup_nil

theorem nodup_namesOfAll : ∀ {entries : List (String × FileEntry)},
    (entries.map (·.1)).Nodup → AreProper entries → (namesOfAll entries).Nodup
  | [], _, _ => List.nodup_nil
  | (name, entry) :: later, distinct, ⟨_, proper, others⟩ => by
    obtain ⟨apart, distinct⟩ := List.nodup_cons.mp distinct
    rw [namesOfAll]
    refine (((nodup_names proper).map (List.cons_injective)).append
      (nodup_namesOfAll distinct others) ?_)
    -- Below other entries the lists begin with other names.
    intro ns first behind
    obtain ⟨rest, -, rfl⟩ := List.mem_map.mp first
    obtain ⟨other, e, rest', same, holds, -⟩ := mem_namesOfAll_iff.mp behind
    cases same
    exact apart (List.mem_map.mpr ⟨_, holds, rfl⟩)

end

theorem HasFile.isName {entry : FileEntry} (h : entry.HasFile ns) (proper : entry.IsProper) :
    ∀ name ∈ ns, Path.IsName name := by
  induction h with
  | here => exact nofun
  | inside holds _ ih =>
    obtain ⟨name, below⟩ := areProper_iff.mp proper.2 _ holds
    exact List.forall_mem_cons.mpr ⟨name, ih below⟩

end Listed

/-! ## The order of entries -/

section Relisting

variable {entry other : FileEntry} {entries others : List (String × FileEntry)} {name : String}

mutual

theorem Relisted.refl : ∀ entry : FileEntry, entry.Relisted entry
  | .file _ => .file
  | .directory entries => .directory (RelistedAll.refl entries)
  | .link target => .link (Relisted.refl target)
  | .special => .special

theorem RelistedAll.refl : ∀ entries : List (String × FileEntry), RelistedAll entries entries
  | [] => .nil
  | (name, entry) :: rest =>
    @RelistedAll.cons name entry entry rest [] rest (Relisted.refl entry) (RelistedAll.refl rest)

end

/-- A directory may list its entries in any order. -/
theorem RelistedAll.of_perm (h : entries.Perm others) : RelistedAll entries others := by
  induction entries generalizing others with
  | nil =>
    rw [List.nil_perm.mp h]
    exact .nil
  | cons e entries ih =>
    obtain ⟨before, behind, rfl⟩ := List.append_of_mem (h.subset List.mem_cons_self)
    exact .cons (Relisted.refl e.2) (ih (List.Perm.cons_inv (h.trans List.perm_middle)))

/-- Each entry of the one list stands in the other. -/
theorem RelistedAll.exists_of_mem_left :
    ∀ {entries others : List (String × FileEntry)}, RelistedAll entries others →
      ∀ {entry : FileEntry}, (name, entry) ∈ entries →
        ∃ other, (name, other) ∈ others ∧ entry.Relisted other
  | _, _, .cons first later, _, h => by
    rcases List.mem_cons.mp h with same | h
    · cases same
      exact ⟨_, List.mem_append_right _ List.mem_cons_self, first⟩
    · obtain ⟨other, holds, same⟩ := later.exists_of_mem_left h
      refine ⟨other, ?_, same⟩
      rw [List.mem_append, List.mem_cons]
      exact (List.mem_append.mp holds).imp_right .inr

theorem RelistedAll.exists_of_mem_right :
    ∀ {entries others : List (String × FileEntry)}, RelistedAll entries others →
      ∀ {other : FileEntry}, (name, other) ∈ others →
        ∃ entry, (name, entry) ∈ entries ∧ entry.Relisted other
  | _, _, .cons first later, _, h => by
    rw [List.mem_append, List.mem_cons, or_left_comm] at h
    rcases h with same | h
    · cases same
      exact ⟨_, List.mem_cons_self, first⟩
    · obtain ⟨entry, holds, same⟩ := later.exists_of_mem_right (List.mem_append.mpr h)
      exact ⟨entry, List.mem_cons_of_mem _ holds, same⟩

/-- The names are the same, listed in another order. -/
theorem RelistedAll.perm_names :
    ∀ {entries others : List (String × FileEntry)}, RelistedAll entries others →
      (entries.map (·.1)).Perm (others.map (·.1))
  | _, _, .nil => .nil
  | _, _, .cons _ later => by
    have names := later.perm_names
    rw [List.map_append] at names
    rw [List.map_append, List.map_cons]
    exact (names.cons _).trans List.perm_middle.symm

/-- **The same regular files** stand under the same names. -/
theorem Relisted.hasFile_iff {ns : List String} (h : entry.Relisted other) :
    entry.HasFile ns ↔ other.HasFile ns := by
  constructor
  · intro has
    induction has generalizing other with
    | here =>
      cases h
      exact .here
    | inside holds _ ih =>
      cases h with
      | directory same =>
        obtain ⟨below, holds', first⟩ := same.exists_of_mem_left holds
        exact .inside holds' (ih first)
  · intro has
    induction has generalizing entry with
    | here =>
      cases h
      exact .here
    | inside holds _ ih =>
      cases h with
      | directory same =>
        obtain ⟨above, holds', first⟩ := same.exists_of_mem_right holds
        exact .inside holds' (ih first)

mutual

theorem Relisted.isProper : ∀ {entry other : FileEntry}, entry.Relisted other → entry.IsProper →
    other.IsProper
  | _, _, .file, _ | _, _, .special, _ => trivial
  | _, _, .directory same, ⟨distinct, proper⟩ =>
    ⟨same.perm_names.nodup_iff.mp distinct, same.areProper proper⟩
  | _, _, .link same, proper => same.isProper proper

theorem RelistedAll.areProper : ∀ {entries others : List (String × FileEntry)},
    RelistedAll entries others → AreProper entries → AreProper others
  | _, _, .nil, _ => trivial
  | _, _, .cons first later, ⟨name, proper, rest⟩ => by
    have others := areProper_iff.mp (later.areProper rest)
    refine areProper_iff.mpr fun e he => ?_
    rw [List.mem_append, List.mem_cons, or_left_comm] at he
    rcases he with rfl | he
    · exact ⟨name, first.isProper proper⟩
    · exact others e (List.mem_append.mpr he)

end

theorem Relisted.followed : ∀ {entry other : FileEntry}, entry.Relisted other →
    entry.followed.Relisted other.followed
  | _, _, .file => .file
  | _, _, .directory same => .directory same
  | _, _, .link same => same.followed
  | _, _, .special => .special

/-- With different names, an entry is found under its own. -/
theorem lookup_eq_some_iff (distinct : (entries.map (·.1)).Nodup) :
    entries.lookup name = some entry ↔ (name, entry) ∈ entries := by
  induction entries with
  | nil => simp
  | cons e entries ih =>
    obtain ⟨first, later⟩ := List.nodup_cons.mp distinct
    obtain ⟨name', entry'⟩ := e
    rw [List.lookup_cons, List.mem_cons, Prod.mk.injEq]
    by_cases same : name = name'
    · subst same
      have none : (name, entry) ∉ entries := fun holds => first (List.mem_map.mpr ⟨_, holds, rfl⟩)
      simp [none, eq_comm]
    · simp [beq_false_of_ne same, same, ih later]

/-- What is found under a name is the same, or nothing is. -/
theorem RelistedAll.lookup (same : RelistedAll entries others)
    (distinct : (entries.map (·.1)).Nodup) (name : String) :
    (entries.lookup name = none ∧ others.lookup name = none) ∨
      ∃ entry other, entries.lookup name = some entry ∧ others.lookup name = some other ∧
        entry.Relisted other := by
  have distinct' := same.perm_names.nodup_iff.mp distinct
  cases found : entries.lookup name with
  | none =>
    refine .inl ⟨rfl, Option.eq_none_iff_forall_ne_some.mpr fun other found' => ?_⟩
    obtain ⟨entry, holds, -⟩ := same.exists_of_mem_right ((lookup_eq_some_iff distinct').mp found')
    rw [(lookup_eq_some_iff distinct).mpr holds] at found
    cases found
  | some entry =>
    obtain ⟨other, holds, first⟩ := same.exists_of_mem_left ((lookup_eq_some_iff distinct).mp found)
    exact .inr ⟨entry, other, rfl, (lookup_eq_some_iff distinct').mpr holds, first⟩

/-- What stands under a name in a proper directory is proper. -/
theorem IsProper.of_lookup (proper : IsProper (.directory entries))
    (found : entries.lookup name = some entry) : entry.IsProper :=
  (areProper_iff.mp proper.2 _ ((lookup_eq_some_iff proper.1).mp found)).2

/-- What a link leads to is proper as the link is. -/
theorem isProper_followed : ∀ entry : FileEntry, entry.IsProper → entry.followed.IsProper
  | .file _, proper | .directory _, proper | .special, proper => proper
  | .link target, proper => isProper_followed target proper

end Relisting

end FileEntry

namespace FileSystem

open FileEntry

/-- Two file systems hold the same entries, which they may list in different orders. -/
structure Relisted (fs other : FileSystem) : Prop where
  /-- They have the same home. -/
  home : fs.home = other.home
  /-- Below it are the same entries. -/
  root : fs.root.Relisted other.root

/-- Two paths lead nowhere for the same reason, or to the same entry. -/
inductive SameAnswer : Except FileError FileEntry → Except FileError FileEntry → Prop where
  | error {e : FileError} : SameAnswer (.error e) (.error e)
  | ok {entry other : FileEntry} (same : entry.Relisted other) : SameAnswer (.ok entry) (.ok other)

section Descents

variable {above others : List FileEntry} {here there entry : FileEntry}

/-- A way down from proper entries leads to proper entries. -/
theorem isProper_of_descend {parts : List Path.Component} (proper : here.IsProper)
    (properAbove : ∀ e ∈ above, e.IsProper) (h : descend above here parts = .ok entry) :
    entry.IsProper := by
  fun_induction descend above here parts with
  | case1 => cases h; exact proper
  | case3 above rest entries name target found ih =>
    exact ih (isProper_followed (.link target) (proper.of_lookup found)) nofun h
  | case4 above rest entries name next noLink found ih =>
    exact ih (proper.of_lookup found) (List.forall_mem_cons.mpr ⟨proper, properAbove⟩) h
  | case5 rest entries ih => exact ih ⟨List.nodup_nil, trivial⟩ nofun h
  | case6 rest entries up above ih =>
    obtain ⟨first, later⟩ := List.forall_mem_cons.mp properAbove
    exact ih first later h
  | case7 above rest entries ih | case8 above rest entries ih => exact ih proper properAbove h
  | case2 | case9 | case10 | case11 => cases h

/-- A way down leads to the same entry, whatever the order of entries is. -/
theorem sameAnswer_descend {parts : List Path.Component} (same : here.Relisted there)
    (sameAbove : List.Forall₂ FileEntry.Relisted above others) (proper : here.IsProper)
    (properAbove : ∀ e ∈ above, e.IsProper) :
    SameAnswer (descend above here parts) (descend others there parts) := by
  -- A part leads down, to an end of a link or up, so the directories above change with each part.
  induction parts generalizing above others here there with
  | nil => exact .ok same
  | cons part rest ih =>
    cases same with
    | file | link | special => exact .error
    | @directory entries entries' same =>
      cases part with
      | normal name =>
        rcases same.lookup proper.1 name with ⟨none, none'⟩ | ⟨next, next', found, found', first⟩
        · simp only [descend, none, none']
          exact .error
        · have below := proper.of_lookup found
          simp only [descend, found, found']
          have kept := first
          -- Only a link leaves the directories behind.
          cases first with
          | link first => exact ih first.followed .nil (isProper_followed _ below) nofun
          | file | special | directory =>
            exact ih kept (.cons (.directory same) sameAbove) below
              (List.forall_mem_cons.mpr ⟨proper, properAbove⟩)
      | parent =>
        cases sameAbove with
        | nil => exact ih (.directory .nil) .nil ⟨List.nodup_nil, trivial⟩ nofun
        | cons first later =>
          obtain ⟨properUp, properLater⟩ := List.forall_mem_cons.mp properAbove
          exact ih first later properUp properLater
      | root | current => exact ih (.directory same) sameAbove proper properAbove

end Descents

section Answers

variable {fs other : FileSystem}

/-- The entry at a path is proper as all entries are. -/
theorem isProper_of_entryAt {p : Path} {entry : FileEntry} (proper : fs.root.IsProper)
    (h : fs.entryAt p = .ok entry) : entry.IsProper := by
  have start := isProper_followed _ proper
  rw [entryAt] at h
  split at h
  next => cases h
  next =>
    split at h
    next => cases h
    next parts _ =>
      split at h
      next contents _ => split at h <;> cases h; trivial
      next => exact isProper_of_descend start (List.forall_mem_nil _) h

/-- Only a path with a text leads to an entry. -/
theorem text_ne_of_entryAt {p : Path} {entry : FileEntry} (h : fs.entryAt p = .ok entry) :
    p.text ≠ "" := by
  intro empty
  rw [entryAt, if_pos empty] at h
  cases h

namespace Relisted

/-- **A path leads to the same entry**, whatever the order of entries is. -/
theorem entryAt (same : fs.Relisted other) (proper : fs.root.IsProper) (p : Path) :
    SameAnswer (fs.entryAt p) (other.entryAt p) := by
  have way (parts : List Path.Component) :
      SameAnswer (descend [] fs.root.followed parts) (descend [] other.root.followed parts) :=
    sameAnswer_descend same.root.followed .nil (isProper_followed _ proper)
      (List.forall_mem_nil _)
  simp only [FileSystem.entryAt, partsFromHome?, same.home]
  split
  next => exact .error
  next =>
    split
    next => exact .error
    next parts _ =>
      have answer := way parts
      revert answer
      generalize descend [] fs.root.followed parts = here
      generalize descend [] other.root.followed parts = there
      intro answer
      cases answer with
      | error => exact .error
      | ok same =>
        cases same with
        | file =>
          dsimp only
          split
          · exact .error
          · exact .ok .file
        | directory same => exact .ok (.directory same)
        | link same => exact .ok (.link same)
        | special => exact .ok .special

/-- A path leads to a directory in both, or in neither. -/
theorem isDirectory (same : fs.Relisted other) (proper : fs.root.IsProper) (p : Path) :
    fs.isDirectory p = other.isDirectory p := by
  have answer := same.entryAt proper p
  rw [FileSystem.isDirectory, FileSystem.isDirectory]
  revert answer
  generalize fs.entryAt p = here
  generalize other.entryAt p = there
  intro answer
  cases answer with
  | error => rfl
  | ok same => cases same <;> rfl

end Relisted

end Answers

end FileSystem

end SyntaxForest
