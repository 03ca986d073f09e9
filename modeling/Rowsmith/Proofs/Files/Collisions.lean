/-
Which generated files collide. Every table and every nested structure is
given a file, and so is every directory on the way to one of these. A file
is named after the type that is generated, a directory after the modules
of the declared type, and neither name keeps all of what it was taken
from. So two units may be given the same file, or a unit the file of a
directory.

The files of two directories never collide, since the components of a
directory are told apart by their text. That leaves the units: a unit
collides with the file of a directory only if that is its own directory,
and then it is called like that file.

Main result: no two files collide exactly if the files of the units are
distinct and none of them is called like the file of a directory
(`files_increasing_iff`). Two models whose names differ only in case may
have the same file (`files_collide`).
-/
import Mathlib.Data.List.Nodup
import Rowsmith.Emit
import Rowsmith.Model.Registry
import Rowsmith.Proofs.Attempt
import Rowsmith.Proofs.Files.ModuleTree
import Rowsmith.Schema.Resolve

namespace Rowsmith.Emit

open Attempt

-- =============================================================== places

/-- The places of the units of a schema. -/
def locations (s : Schema) : List Location :=
  s.tables.map Location.ofTable ++ s.structures.map fun x => .ofAdapter x.type

/-- The directory of the file at a place. -/
def Location.directory (l : Location) : Directory :=
  ((l.file.parent?.map Path.components).getD []).map PathComponent.text

theorem unitFile_path {location : Location} {uses : Uses} {body : Text.Lines} {file : SourceFile}
    (h : unitFile location uses body = .ok file) : file.path = location.file := by
  obtain ⟨_, -, h⟩ := bind_eq_ok.1 h
  obtain ⟨_, -, h⟩ := bind_eq_ok.1 h
  obtain ⟨_, -, h⟩ := bind_eq_ok.1 h
  obtain rfl := pure_eq_ok.1 h
  rfl

theorem tableUnit_path {s : Schema} {target : Target} {t : Table} {file : SourceFile}
    (h : tableUnit s target t = .ok file) : file.path = (Location.ofTable t).file := by
  obtain ⟨_, -, h⟩ := bind_eq_ok.1 h
  exact unitFile_path h

theorem adapterUnit_path {target : Target} {x : Structure} {file : SourceFile}
    (h : adapterUnit target x = .ok file) : file.path = (Location.ofAdapter x.type).file := by
  obtain ⟨_, -, h⟩ := bind_eq_ok.1 h
  exact unitFile_path h

/-- The units are one accessor for each table and one adapter for each
structure, each at its place. -/
theorem units_eq_ok {s : Schema} {target : Target} {files : List SourceFile} :
    units s target = .ok files ↔ ∃ accessors adapters,
      List.Forall₂ (fun t file => tableUnit s target t = .ok file) s.tables accessors ∧
      List.Forall₂ (fun x file => adapterUnit target x = .ok file) s.structures adapters ∧
      files = accessors ++ adapters := by
  unfold units
  simp only [bind_eq_ok, pure_eq_ok, mapM_eq_ok_iff]
  constructor
  · intro ⟨accessors, haccessors, adapters, hadapters, h⟩
    exact ⟨accessors, adapters, haccessors, hadapters, h.symm⟩
  · intro ⟨accessors, adapters, haccessors, hadapters, h⟩
    exact ⟨accessors, haccessors, adapters, hadapters, h.symm⟩

theorem units_paths {s : Schema} {target : Target} {files : List SourceFile}
    (h : units s target = .ok files) : files.map (·.path) = (locations s).map Location.file := by
  obtain ⟨accessors, adapters, haccessors, hadapters, rfl⟩ := units_eq_ok.1 h
  have hpaths : ∀ {α : Type} {place : α → Location} {l : List α} {files : List SourceFile},
      List.Forall₂ (fun a file => file.path = (place a).file) l files →
        files.map (·.path) = (l.map place).map Location.file := by
    intro α place l files hfiles
    induction hfiles with
    | nil => rfl
    | cons hfile _ ih => rw [List.map_cons, List.map_cons, List.map_cons, hfile, ih]
  unfold locations
  rw [List.map_append, List.map_append, hpaths (haccessors.imp fun _ _ => tableUnit_path),
    hpaths (hadapters.imp fun _ _ => adapterUnit_path)]

-- ========================================================== directories

/-- The file of a unit has a name, and the directory of the unit is what
comes before it. -/
theorem Location.exists_components (l : Location) : ∃ cs name,
    l.file.components = cs ++ [.normal name] ∧ l.file.fileName? = some name ∧ Proper cs ∧
      l.directory = cs.map PathComponent.text := by
  obtain ⟨before, hjoin⟩ := Path.join_text (Path.below l.modules) ⟨l.stem ++ ".rs"⟩
  have htext : l.file.text.toList = (before ++ l.stem.toList) ++ ['.', 'r', 's'] := by
    rw [List.append_assoc]
    exact hjoin.trans (congrArg (before ++ ·) String.toList_append)
  obtain ⟨cs, name, hcs⟩ := Path.exists_components_concat htext (by decide) (by decide)
  obtain ⟨hname, parent, hparent, hcomponents⟩ := Path.exists_parent hcs
  have hproper : Proper cs := by
    refine l.file.components_proper.of_leading ?_
    rw [hcs]
    exact List.prefix_append _ _
  refine ⟨cs, name, hcs, hname, hproper, ?_⟩
  unfold Location.directory
  rw [hparent]
  exact congrArg (List.map _) hcomponents

/-- The directories that a unit makes declare something are those on the
way to it. -/
theorem Location.mem_declaredBy {l : Location} {dir : Directory} :
    dir ∈ (declaredBy l.file).map (·.1) ↔ dir <+: l.directory := by
  obtain ⟨cs, name, hcs, -, -, hdirectory⟩ := l.exists_components
  rw [mem_map_declaredBy hcs, hdirectory]

/-- The directories on the way to units, each once. -/
def directories (places : List Location) : List Directory :=
  declaringDirectories ((places.map Location.file).flatMap declaredBy)

theorem mem_directories {places : List Location} {dir : Directory} :
    dir ∈ directories places ↔ ∃ l ∈ places, dir <+: l.directory := by
  unfold directories
  rw [mem_declaringDirectories, List.map_flatMap, List.mem_flatMap]
  constructor
  · intro ⟨_, hfile, hdir⟩
    obtain ⟨l, hl, rfl⟩ := List.mem_map.1 hfile
    exact ⟨l, hl, Location.mem_declaredBy.1 hdir⟩
  · intro ⟨l, hl, hdir⟩
    exact ⟨l.file, List.mem_map_of_mem hl, Location.mem_declaredBy.2 hdir⟩

theorem nodup_directories (places : List Location) : (directories places).Nodup :=
  nodup_declaringDirectories _

theorem moduleFiles_paths (places : List Location) :
    (moduleFiles (places.map Location.file)).map (·.path) =
      (directories places).map moduleFilePath := by
  unfold moduleFiles directories
  rw [List.map_map]
  rfl

/-- A directory on the way to a unit has components. -/
theorem exists_of_mem_directories {places : List Location} {dir : Directory}
    (h : dir ∈ directories places) : ∃ cs, Proper cs ∧ dir = cs.map PathComponent.text := by
  obtain ⟨l, -, hleads⟩ := mem_directories.1 h
  obtain ⟨all, name, -, -, hproper, hdirectory⟩ := l.exists_components
  rw [hdirectory] at hleads
  obtain ⟨cs, hcs, rfl⟩ := List.prefix_map_iff.1 hleads
  exact ⟨cs, hproper.of_leading hcs, rfl⟩

/-- The files of directories do not collide with each other. -/
theorem nodup_moduleFilePaths (places : List Location) :
    ((directories places).map fun dir => (moduleFilePath dir).components).Nodup := by
  refine List.Nodup.map_on ?_ (nodup_directories places)
  intro dir hdir dir' hdir' hsame
  obtain ⟨cs, hcs, rfl⟩ := exists_of_mem_directories hdir
  obtain ⟨cs', hcs', rfl⟩ := exists_of_mem_directories hdir'
  rw [components_moduleFilePath hcs, components_moduleFilePath hcs'] at hsame
  rw [(List.append_inj' hsame rfl).1]

/-- A unit collides with the file of a directory exactly if it is called
like one. The directory is then its own. -/
theorem collides_iff {places : List Location} {l : Location} (hl : l ∈ places) :
    (∃ dir ∈ directories places, (moduleFilePath dir).components = l.file.components) ↔
      l.file.fileName? = some "mod.rs" := by
  obtain ⟨cs, name, hcs, hname, hproper, hdirectory⟩ := l.exists_components
  rw [hcs, hname]
  constructor
  · intro ⟨dir, hdir, hsame⟩
    obtain ⟨cs', hproper', rfl⟩ := exists_of_mem_directories hdir
    rw [components_moduleFilePath hproper'] at hsame
    have hlast := List.cons.inj (List.append_inj' hsame rfl).2
    rw [PathComponent.normal.inj hlast.1]
  · intro hmod
    obtain rfl := Option.some.inj hmod
    refine ⟨l.directory, mem_directories.2 ⟨l, hl, List.prefix_rfl⟩, ?_⟩
    rw [hdirectory, components_moduleFilePath hproper]

-- ================================================================ files

/-- Sorted files are strictly increasing if no two of them are the same
file. -/
theorem increasing_iff {files : List SourceFile}
    (hsorted : files.Pairwise fun a b => a.path.le b.path = true) :
    (files.Pairwise fun a b => a.path.order b.path = .lt) ↔
      (files.map fun file => file.path.components).Nodup := by
  simp only [Path.order_eq_lt]
  rw [List.pairwise_and_iff, List.Nodup, List.pairwise_map]
  exact and_iff_right hsorted

/-- Files can be generated if the units can be written. -/
theorem generate_eq_ok {s : Schema} {target : Target} {files : List SourceFile} :
    generate s target = .ok files ↔ ∃ found, units s target = .ok found ∧
      files = (found ++ moduleFiles (found.map (·.path))).mergeSort fun a b =>
        a.path.le b.path := by
  refine bind_eq_ok.trans (exists_congr fun found => and_congr_right fun _ => ?_)
  rw [pure_eq_ok]
  exact eq_comm

/-- The files of a schema, if they can be generated: one accessor for each
table and one adapter for each structure, each at its place, and one file
for each directory on the way to them, sorted by path. They are strictly
increasing, and so pairwise distinct, exactly if the files of the units
are distinct and none is called like the file of a directory. Then no file
takes the place of another when they are written. -/
theorem files_increasing_iff {s : Schema} {target : Target} {files : List SourceFile}
    (h : generate s target = .ok files) :
    ∃ (accessors adapters modules : List SourceFile) (dirs : List Directory),
      List.Forall₂ (fun t file => tableUnit s target t = .ok file ∧
        file.path = (Location.ofTable t).file) s.tables accessors ∧
      List.Forall₂ (fun x file => adapterUnit target x = .ok file ∧
        file.path = (Location.ofAdapter x.type).file) s.structures adapters ∧
      dirs.Nodup ∧ (∀ dir, dir ∈ dirs ↔ ∃ l ∈ locations s, dir <+: l.directory) ∧
      modules.map (·.path) = dirs.map moduleFilePath ∧
      files.Perm (accessors ++ adapters ++ modules) ∧
      (files.Pairwise fun a b => a.path.le b.path = true) ∧
      ((files.Pairwise fun a b => a.path.order b.path = .lt) ↔
        ((locations s).map fun l => l.file.components).Nodup ∧
          ∀ l ∈ locations s, l.file.fileName? ≠ some "mod.rs") ∧
      ((files.Pairwise fun a b => a.path.order b.path = .lt) →
        ∀ a ∈ files, ∀ b ∈ files, a.path.components = b.path.components → a = b) := by
  obtain ⟨found, hfound, rfl⟩ := generate_eq_ok.1 h
  have hpaths := units_paths hfound
  obtain ⟨accessors, adapters, haccessors, hadapters, rfl⟩ := units_eq_ok.1 hfound
  have hmodules := moduleFiles_paths (locations s)
  rw [← hpaths] at hmodules
  have hperm := List.mergeSort_perm (accessors ++ adapters ++
    moduleFiles ((accessors ++ adapters).map (·.path))) fun a b => a.path.le b.path
  have hsorted := List.pairwise_mergeSort
    (fun a b c : SourceFile => (Path.le_trans : a.path.le b.path = true → _))
    (fun a b : SourceFile => Path.le_total a.path b.path)
    (accessors ++ adapters ++ moduleFiles ((accessors ++ adapters).map (·.path)))
  refine ⟨accessors, adapters, _, directories (locations s), ?_, ?_, nodup_directories _,
    fun dir => mem_directories, hmodules, hperm, hsorted, ?_, ?_⟩
  · exact haccessors.imp fun _ _ hunit => ⟨hunit, tableUnit_path hunit⟩
  · exact hadapters.imp fun _ _ hunit => ⟨hunit, adapterUnit_path hunit⟩
  · -- whether the files are distinct does not depend on their order
    have hunits : (accessors ++ adapters).map (fun file => file.path.components) =
        (locations s).map fun l => l.file.components := by
      have hcomponents := congrArg (List.map Path.components) hpaths
      rw [List.map_map, List.map_map] at hcomponents
      exact hcomponents
    have hdirectories : (moduleFiles ((accessors ++ adapters).map (·.path))).map
        (fun file => file.path.components) =
          (directories (locations s)).map fun dir => (moduleFilePath dir).components := by
      have hcomponents := congrArg (List.map Path.components) hmodules
      rw [List.map_map, List.map_map] at hcomponents
      exact hcomponents
    rw [increasing_iff hsorted, (hperm.map _).nodup_iff, List.map_append, hunits, hdirectories,
      List.nodup_append]
    refine and_congr_right fun _ => ?_
    constructor
    · intro ⟨_, hdisjoint⟩ l hl hname
      obtain ⟨dir, hdir, hsame⟩ := (collides_iff hl).2 hname
      exact hdisjoint _ (List.mem_map_of_mem hl) _ (List.mem_map_of_mem hdir) hsame.symm
    · intro hnames
      refine ⟨nodup_moduleFilePaths _, ?_⟩
      intro cs hcs cs' hcs' hsame
      obtain ⟨l, hl, rfl⟩ := List.mem_map.1 hcs
      obtain ⟨dir, hdir, rfl⟩ := List.mem_map.1 hcs'
      exact hnames l hl ((collides_iff hl).1 ⟨dir, hdir, hsame.symm⟩)
  · intro hincreasing a ha b hb hsame
    exact List.inj_on_of_nodup_map ((increasing_iff hsorted).1 hincreasing) ha hb hsame

/-- Two structures. -/
def logCatalog (first second : TypeExpr) : Catalog :=
  ⟨[⟨first, [.plain "id" (.named "i32")], false, none, none, [], none⟩,
    ⟨second, [.plain "id" (.named "i32")], false, none, none, [], none⟩], []⟩

/-- Both structures are asked for on their own. -/
def resolveLogs (first second : TypeExpr) : Except Failure Schema :=
  resolve (logCatalog first second).describer Registry.empty.locator ⟨[], [first, second]⟩

/-- The adapters of two structures in one module are two files. -/
theorem files_increasing_logs :
    ∃ s files, resolveLogs (.named "model::HttpLog") (.named "model::QueryLog") = .ok s ∧
      generate s .default = .ok files ∧
      files.Pairwise fun a b => a.path.order b.path = .lt := by
  have hfound : ((resolveLogs (.named "model::HttpLog")
      (.named "model::QueryLog")).toOption.filter fun s =>
        (units s .default).toOption.isSome && decide (
          ((locations s).map fun l => l.file.components).Nodup ∧
            ∀ l ∈ locations s, l.file.fileName? ≠ some "mod.rs")).isSome = true := by
    decide +kernel
  obtain ⟨s, hfound⟩ := Option.isSome_iff_exists.1 hfound
  obtain ⟨hs, hchecks⟩ := Option.filter_eq_some_iff.1 hfound
  obtain ⟨hunits, hdistinct⟩ := Bool.and_eq_true_iff.1 hchecks
  obtain ⟨found, hunits⟩ := Option.isSome_iff_exists.1 hunits
  have hfiles := generate_eq_ok.2 ⟨found, toOption_eq_some.1 hunits, rfl⟩
  obtain ⟨_, _, _, _, -, -, -, -, -, -, -, hiff, -⟩ := files_increasing_iff hfiles
  exact ⟨s, _, toOption_eq_some.1 hs, hfiles, hiff.2 (of_decide_eq_true hdistinct)⟩

/-- The adapters of two structures whose names differ in case only are one
file. -/
theorem files_collide :
    ∃ s files, resolveLogs (.named "model::HttpLog") (.named "model::HTTPLog") = .ok s ∧
      generate s .default = .ok files ∧
      ¬ (files.map fun file => file.path.components).Nodup := by
  have hfound : ((resolveLogs (.named "model::HttpLog")
      (.named "model::HTTPLog")).toOption.filter fun s =>
        (units s .default).toOption.isSome &&
          decide ¬ ((locations s).map fun l => l.file.components).Nodup).isSome = true := by
    decide +kernel
  obtain ⟨s, hfound⟩ := Option.isSome_iff_exists.1 hfound
  obtain ⟨hs, hchecks⟩ := Option.filter_eq_some_iff.1 hfound
  obtain ⟨hunits, hclash⟩ := Bool.and_eq_true_iff.1 hchecks
  obtain ⟨found, hunits⟩ := Option.isSome_iff_exists.1 hunits
  have hunits := toOption_eq_some.1 hunits
  refine ⟨s, _, toOption_eq_some.1 hs, generate_eq_ok.2 ⟨found, hunits, rfl⟩, ?_⟩
  rw [((List.mergeSort_perm _ _).map _).nodup_iff, List.map_append]
  intro hnodup
  have hpaths := congrArg (List.map Path.components) (units_paths hunits)
  rw [List.map_map, List.map_map] at hpaths
  exact of_decide_eq_true hclash (hpaths ▸ (List.nodup_append.1 hnodup).1)

end Rowsmith.Emit
