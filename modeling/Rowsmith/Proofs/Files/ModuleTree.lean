/-
The tree of modules that declares generated units. A path makes every
directory on the way to it declare the next one, and the last of them
declare the unit (`mem_declaredBy`). All that is declared is collected in
one list, from which each directory takes what is its own; so which units
a directory declares does not depend on the others, or on their order.

The file of a directory is called `mod.rs`, and has one line for each name
that the directory declares (`SourceFile.Declares`). The files come in the
order of their directories, which are compared name by name.

A unit is in a directory if its path is made up of the names of the
directory and of a file (`UnitAt`). A directory is part of the tree if
there are units in it or below it (`Holds`), and it is then declared by
the directory above it. So every directory is reached from the root of the
tree by way of modules that are declared (`Reached`), and from its
directory every unit.

Main result: `modules_reach_units`.
-/
import Rowsmith.Emit.ModuleTree
import Rowsmith.Proofs.Paths
import Rowsmith.Proofs.Related

namespace Rowsmith

namespace Related

/-- Keeping each item once leaves the items in their order. -/
theorem eraseDups_sublist {α : Type} [BEq α] [LawfulBEq α] (l : List α) : l.eraseDups.Sublist l := by
  induction hlength : l.length using Nat.strongRecOn generalizing l with
  | ind n ih =>
      cases l with
      | nil => exact List.Sublist.refl []
      | cons a l =>
          rw [List.eraseDups_cons]
          have hfilter := List.length_filter_le (fun b => !b == a) l
          rw [List.length_cons] at hlength
          have hkept := ih (l.filter fun b => !b == a).length (by omega) _ rfl
          exact (hkept.trans List.filter_sublist).cons_cons a

end Related

namespace Emit

variable {file : Path} {cs : List PathComponent} {dir d : Directory} {stem name child : String}
  {units : List Path}

-- ======================================================== declarations

/-- A file makes the directories on the way to it declare each other, and
its own declare it. -/
theorem declaredBy_eq (h : file.components = cs ++ [.normal name]) :
    declaredBy file =
      ((cs.map PathComponent.text).zipIdx.map fun (child, i) =>
        ((cs.map PathComponent.text).take i, child)) ++
      [(cs.map PathComponent.text, String.ofList (Path.stemOf name.toList))] := by
  obtain ⟨hname, parent, hparent, hcs⟩ := Path.exists_parent h
  unfold declaredBy Path.stem?
  rw [hname, hparent, Option.map_some, Option.getD_some, hcs]
  rfl

/-- A directory is made to declare what leads on to the file, and its own
directory the stem of the file. -/
theorem mem_declaredBy (h : file.components = cs ++ [.normal name]) :
    (d, child) ∈ declaredBy file ↔ d ++ [child] <+: cs.map PathComponent.text ∨
      d = cs.map PathComponent.text ∧ child = String.ofList (Path.stemOf name.toList) := by
  rw [declaredBy_eq h, List.mem_append, List.mem_singleton, Prod.mk.injEq]
  refine or_congr_left ?_
  generalize cs.map PathComponent.text = dir
  rw [List.mem_map]
  constructor
  · intro ⟨⟨child', i⟩, hmem, hsame⟩
    have hget : dir[i]? = some child' := List.mem_zipIdx_iff_getElem?.1 hmem
    obtain ⟨hlt, hchild⟩ := List.getElem?_eq_some_iff.1 hget
    obtain ⟨rfl, rfl⟩ := Prod.mk.inj hsame
    rw [← hchild, List.take_append_getElem hlt]
    exact List.take_prefix _ _
  · intro ⟨rest, hrest⟩
    rw [List.append_assoc, List.singleton_append] at hrest
    have hget : dir[d.length]? = some child := by
      rw [← hrest, List.getElem?_append_right (Nat.le_refl _), Nat.sub_self, List.getElem?_cons_zero]
    refine ⟨(child, d.length), List.mem_zipIdx_iff_getElem?.2 hget, ?_⟩
    show (dir.take d.length, child) = (d, child)
    rw [← hrest, List.take_left]

/-- The directories that a file makes declare something are those on the
way to it. -/
theorem mem_map_declaredBy (h : file.components = cs ++ [.normal name]) :
    d ∈ (declaredBy file).map (·.1) ↔ d <+: cs.map PathComponent.text := by
  rw [List.mem_map]
  constructor
  · rintro ⟨⟨_, child⟩, hmem, rfl⟩
    rcases (mem_declaredBy h).1 hmem with hleads | ⟨rfl, -⟩
    · exact (List.prefix_append _ _).trans hleads
    · exact List.prefix_rfl
  · rintro ⟨rest, hrest⟩
    cases rest with
    | nil =>
        rw [List.append_nil] at hrest
        exact ⟨(d, _), (mem_declaredBy h).2 (Or.inr ⟨hrest, rfl⟩), rfl⟩
    | cons child rest =>
        refine ⟨(d, child), (mem_declaredBy h).2 (Or.inl ⟨rest, ?_⟩), rfl⟩
        rw [← hrest, List.append_assoc]
        rfl

theorem mem_childrenOf {declared : List (Directory × String)} :
    child ∈ childrenOf declared dir ↔ (dir, child) ∈ declared := by
  unfold childrenOf
  rw [List.mem_eraseDups, List.mem_mergeSort, List.mem_map]
  constructor
  · rintro ⟨⟨d, child⟩, hkept, rfl⟩
    obtain ⟨hmem, hdir⟩ := List.mem_filter.1 hkept
    have hdir : d = dir := of_decide_eq_true hdir
    exact hdir ▸ hmem
  · intro hmem
    exact ⟨(dir, child), List.mem_filter.2 ⟨hmem, decide_eq_true rfl⟩, rfl⟩

/-- Children are sorted, and no two of them are the same. -/
theorem pairwise_childrenOf (declared : List (Directory × String)) (dir : Directory) :
    (childrenOf declared dir).Pairwise (· < ·) := by
  have htrans : ∀ a b c : String, decide (a ≤ b) = true → decide (b ≤ c) = true →
      decide (a ≤ c) = true := by
    simp only [decide_eq_true_eq]
    exact fun _ _ _ => String.le_trans
  have htotal : ∀ a b : String, (decide (a ≤ b) || decide (b ≤ a)) = true := by
    simp only [Bool.or_eq_true, decide_eq_true_eq]
    exact String.le_total
  have hsorted := List.pairwise_mergeSort htrans htotal
    ((declared.filter fun d => d.1 = dir).map (·.2))
  have hkept := (hsorted.sublist (Related.eraseDups_sublist _)).and (Related.nodup_eraseDups _)
  refine hkept.imp fun {a b} ⟨hle, hne⟩ => String.not_le.1 fun hge => hne ?_
  exact String.le_antisymm (of_decide_eq_true hle) hge

-- ================================================================= units

/-- The stem of a name that ends in `.rs`: what is in front of the ending,
if there is anything. -/
def IsStemOf (stem name : String) : Prop :=
  stem ≠ "" ∧ name = stem ++ ".rs" ∨ stem = ".rs" ∧ name = ".rs"

/-- A file is a unit in a directory: its path consists of names, those of
the directory and one that ends in `.rs`. -/
def UnitAt (file : Path) (dir : Directory) (stem : String) : Prop :=
  ∃ name, file.components = dir.map .normal ++ [.normal name] ∧ IsStemOf stem name

/-- There are units in a directory or below it. -/
def Holds (units : List Path) (dir : Directory) : Prop :=
  ∃ unit ∈ units, ∃ below stem, UnitAt unit (dir ++ below) stem

theorem map_text_normal (dir : Directory) :
    (dir.map PathComponent.normal).map PathComponent.text = dir := by
  rw [List.map_map]
  exact List.map_id _

theorem IsStemOf.stemOf (h : IsStemOf stem name) :
    String.ofList (Path.stemOf name.toList) = stem := by
  rcases h with ⟨hne, rfl⟩ | ⟨rfl, rfl⟩
  · have hempty : stem.toList.reverse.isEmpty = false := by simpa using hne
    have hlist : (stem ++ ".rs").toList.reverse = 's' :: 'r' :: '.' :: stem.toList.reverse := by
      rw [String.toList_append, List.reverse_append]
      rfl
    unfold Path.stemOf
    rw [hlist, List.dropWhile_cons_of_pos (by decide), List.dropWhile_cons_of_pos (by decide),
      List.dropWhile_cons_of_neg (by decide)]
    dsimp only
    rw [hempty, if_neg Bool.false_ne_true, List.reverse_reverse, String.ofList_toList]
  · rfl

theorem UnitAt.mem_declaredBy (h : UnitAt file dir stem) :
    (d, child) ∈ declaredBy file ↔ d ++ [child] <+: dir ∨ d = dir ∧ child = stem := by
  obtain ⟨name, hcomponents, hstem⟩ := h
  rw [Emit.mem_declaredBy hcomponents, map_text_normal, hstem.stemOf]

section

variable (h : ∀ unit ∈ units, ∃ dir stem, UnitAt unit dir stem)
include h

/-- What a directory is made to declare are the units in it and the
directories in it that hold units. -/
theorem mem_flatMap_declaredBy : (d, child) ∈ units.flatMap declaredBy ↔
    (∃ unit ∈ units, UnitAt unit d child) ∨ Holds units (d ++ [child]) := by
  rw [List.mem_flatMap]
  constructor
  · intro ⟨unit, hunit, hmem⟩
    obtain ⟨dir, stem, hat⟩ := h unit hunit
    rcases hat.mem_declaredBy.1 hmem with ⟨below, rfl⟩ | ⟨rfl, rfl⟩
    · exact Or.inr ⟨unit, hunit, below, stem, hat⟩
    · exact Or.inl ⟨unit, hunit, hat⟩
  · rintro (⟨unit, hunit, hat⟩ | ⟨unit, hunit, below, stem, hat⟩)
    · exact ⟨unit, hunit, hat.mem_declaredBy.2 (Or.inr ⟨rfl, rfl⟩)⟩
    · exact ⟨unit, hunit, hat.mem_declaredBy.2 (Or.inl (List.prefix_append _ below))⟩

/-- The directories that are made to declare something are those that hold
units. -/
theorem mem_map_flatMap_declaredBy :
    d ∈ (units.flatMap declaredBy).map (·.1) ↔ Holds units d := by
  rw [List.map_flatMap, List.mem_flatMap]
  constructor
  · intro ⟨unit, hunit, hmem⟩
    obtain ⟨dir, stem, name, hcomponents, hstem⟩ := h unit hunit
    rw [mem_map_declaredBy hcomponents, map_text_normal] at hmem
    obtain ⟨below, rfl⟩ := hmem
    exact ⟨unit, hunit, below, stem, name, hcomponents, hstem⟩
  · intro ⟨unit, hunit, below, stem, name, hcomponents, hstem⟩
    refine ⟨unit, hunit, ?_⟩
    rw [mem_map_declaredBy hcomponents, map_text_normal]
    exact List.prefix_append _ _

end

/-- The root holds all units. -/
theorem holds_root_iff (h : ∀ unit ∈ units, ∃ dir stem, UnitAt unit dir stem) :
    Holds units [] ↔ units ≠ [] := by
  constructor
  · rintro ⟨unit, hunit, -⟩ rfl
    cases hunit
  · intro hne
    obtain ⟨unit, rest, rfl⟩ := List.exists_cons_of_ne_nil hne
    exact ⟨unit, List.mem_cons_self, h unit List.mem_cons_self⟩

/-- What holds a directory holds what is below it. -/
theorem Holds.above (h : Holds units (dir ++ [name])) : Holds units dir := by
  obtain ⟨unit, hunit, below, stem, hat⟩ := h
  exact ⟨unit, hunit, name :: below, stem, by rwa [List.append_assoc] at hat⟩

-- ======================================================== module files

/-- The file of a directory is put below its components. -/
theorem components_moduleFilePath (h : Proper cs) :
    (moduleFilePath (cs.map PathComponent.text)).components = cs ++ [.normal "mod.rs"] := by
  have hfile : Proper (cs ++ [.normal "mod.rs"]) := by
    refine h.append fun c hc => ?_
    obtain rfl := List.mem_singleton.1 hc
    exact ⟨by decide, by decide⟩
  have hbelow := (Path.components_below hfile).1
  rw [List.map_append, List.map_singleton, Path.below_concat] at hbelow
  exact hbelow

/-- The names of a directory that holds units can be those of a path. -/
theorem Holds.proper (h : Holds units dir) : Proper (dir.map .normal) := by
  obtain ⟨unit, -, below, stem, name, hcomponents, -⟩ := h
  refine unit.components_proper.of_leading ?_
  rw [hcomponents, List.map_append, List.append_assoc]
  exact List.prefix_append _ _

theorem Holds.components_below (h : Holds units dir) :
    (Path.below dir).components = dir.map .normal := by
  have hbelow := (Path.components_below h.proper).1
  rwa [map_text_normal] at hbelow

/-- The file of a directory that holds units is in this directory. -/
theorem Holds.components (h : Holds units dir) :
    (moduleFilePath dir).components = dir.map .normal ++ [.normal "mod.rs"] := by
  have hfile := components_moduleFilePath h.proper
  rwa [map_text_normal] at hfile

/-- Paths of names compare like the lists of the names. -/
theorem orderComponents_normal (a b : Directory) :
    Path.orderComponents (a.map .normal) (b.map .normal) = .lt ↔ a < b := by
  induction a generalizing b with
  | nil =>
      cases b with
      | nil => simp [Path.orderComponents]
      | cons name b => simp [Path.orderComponents]
  | cons first a ih =>
      cases b with
      | nil => simp [Path.orderComponents]
      | cons name b =>
          have hnames : (PathComponent.normal first).order (.normal name) = compare first name := rfl
          have hlt : compare first name = .lt ↔ first < name := compareOfLessAndEq_eq_lt
          rw [List.map_cons, List.map_cons, Path.orderComponents, Ordering.then_eq_lt, ih, hnames,
            List.cons_lt_cons_iff, hlt, Std.compare_eq_iff_eq]

theorem mem_declaringDirectories {declared : List (Directory × String)} :
    dir ∈ declaringDirectories declared ↔ dir ∈ declared.map (·.1) := by
  unfold declaringDirectories
  rw [List.mem_mergeSort, List.mem_eraseDups]

theorem nodup_declaringDirectories (declared : List (Directory × String)) :
    (declaringDirectories declared).Nodup :=
  (List.mergeSort_perm _ _).nodup_iff.2 (Related.nodup_eraseDups _)

/-- The file of a directory: it lies in the directory, and has a line for
each of some modules. -/
structure SourceFile.Declares (file : SourceFile) (dir : Directory) (children : List String) :
    Prop where
  path : file.path.components = dir.map .normal ++ [.normal "mod.rs"]
  content : file.content = "// @generated by archgen. Do not edit.\n\n" ++
    String.join (children.map fun child => "pub mod " ++ child ++ ";\n")

/-- A tree of modules: directories, each with the names that it
declares. -/
abbrev ModuleTree := List (Directory × List String)

namespace ModuleTree

def directories (tree : ModuleTree) : List Directory := tree.map (·.1)

/-- A directory of the tree declares a name. -/
def Declares (tree : ModuleTree) (dir : Directory) (name : String) : Prop :=
  ∃ children, (dir, children) ∈ tree ∧ name ∈ children

/-- A directory is reached from the root of the tree: every directory on the
way declares the next one, which has a file of its own. -/
inductive Reached (tree : ModuleTree) : Directory → Prop
  | root (h : [] ∈ tree.directories) : Reached tree []
  | declared {dir : Directory} {name : String} (h : Reached tree dir)
    (hname : tree.Declares dir name) (hdir : dir ++ [name] ∈ tree.directories) :
    Reached tree (dir ++ [name])

/-- The tree that declares units. -/
def ofUnits (units : List Path) : ModuleTree :=
  (declaringDirectories (units.flatMap declaredBy)).map fun dir =>
    (dir, childrenOf (units.flatMap declaredBy) dir)

theorem directories_ofUnits (units : List Path) :
    (ofUnits units).directories = declaringDirectories (units.flatMap declaredBy) := by
  unfold directories ofUnits
  rw [List.map_map]
  exact List.map_id _

theorem mem_ofUnits {children : List String} :
    (dir, children) ∈ ofUnits units ↔
      dir ∈ (ofUnits units).directories ∧ children = childrenOf (units.flatMap declaredBy) dir := by
  rw [directories_ofUnits]
  unfold ofUnits
  rw [List.mem_map]
  constructor
  · rintro ⟨d, hd, hsame⟩
    obtain ⟨rfl, rfl⟩ := Prod.mk.inj hsame
    exact ⟨hd, rfl⟩
  · rintro ⟨hd, rfl⟩
    exact ⟨dir, hd, rfl⟩

section

variable (h : ∀ unit ∈ units, ∃ dir stem, UnitAt unit dir stem)
include h

theorem mem_directories_ofUnits : dir ∈ (ofUnits units).directories ↔ Holds units dir := by
  rw [directories_ofUnits, mem_declaringDirectories, mem_map_flatMap_declaredBy h]

/-- The directories are in the order of their paths. -/
theorem increasing_directories_ofUnits : (ofUnits units).directories.Pairwise (· < ·) := by
  have hcomponents : ∀ dir ∈ (ofUnits units).directories,
      (Path.below dir).components = dir.map .normal :=
    fun dir hdir => ((mem_directories_ofUnits h).1 hdir).components_below
  rw [directories_ofUnits] at hcomponents ⊢
  have hsorted := List.pairwise_mergeSort
    (fun a b c : Directory => (Path.le_trans : (Path.below a).le (Path.below b) = true → _))
    (fun a b : Directory => Path.le_total (Path.below a) (Path.below b))
    (((units.flatMap declaredBy).map (·.1)).eraseDups)
  refine ((nodup_declaringDirectories _).and hsorted).imp_of_mem fun {a b} ha hb ⟨hne, hle⟩ => ?_
  rw [← orderComponents_normal, ← hcomponents a ha, ← hcomponents b hb]
  refine Path.order_eq_lt.2 ⟨hle, fun hsame => hne ?_⟩
  rw [hcomponents a ha, hcomponents b hb] at hsame
  rw [← map_text_normal a, hsame, map_text_normal]

/-- The files are those of the directories. -/
theorem moduleFiles_declares : List.Forall₂
    (fun (dir, children) file => SourceFile.Declares file dir children) (ofUnits units)
      (moduleFiles units) := by
  unfold ofUnits moduleFiles
  rw [List.forall₂_map_left_iff, List.forall₂_map_right_iff, List.forall₂_same]
  intro dir hdir
  rw [← directories_ofUnits] at hdir
  exact ⟨((mem_directories_ofUnits h).1 hdir).components, rfl⟩

theorem mem_children_ofUnits {children : List String} (hmem : (dir, children) ∈ ofUnits units) :
    name ∈ children ↔ (∃ unit ∈ units, UnitAt unit dir name) ∨ Holds units (dir ++ [name]) := by
  obtain ⟨-, rfl⟩ := mem_ofUnits.1 hmem
  rw [mem_childrenOf, mem_flatMap_declaredBy h]

theorem declares_ofUnits (hdir : Holds units dir) : (ofUnits units).Declares dir name ↔
    (∃ unit ∈ units, UnitAt unit dir name) ∨ Holds units (dir ++ [name]) := by
  have hmem := mem_ofUnits.2 ⟨(mem_directories_ofUnits h).2 hdir, rfl⟩
  constructor
  · intro ⟨children, hchildren, hname⟩
    exact (mem_children_ofUnits h hchildren).1 hname
  · intro hname
    exact ⟨_, hmem, (mem_children_ofUnits h hmem).2 hname⟩

/-- Every directory that holds units is reached: the one above it holds
units as well, and declares it. -/
theorem reached_ofUnits (hdir : Holds units dir) : (ofUnits units).Reached dir := by
  induction dir using List.reverseRecOn with
  | nil => exact .root ((mem_directories_ofUnits h).2 hdir)
  | append_singleton dir name ih =>
      have habove := hdir.above
      exact .declared (ih habove) ((declares_ofUnits h habove).2 (Or.inr hdir))
        ((mem_directories_ofUnits h).2 hdir)

end

end ModuleTree

/-- The module files of units are those of a tree of modules: each of them
lies in its directory, and has a line for each name that the directory
declares, and no other lines below the header. The tree has one file for
every directory with units in it or below it, the root among them unless
there are no units, and no others; they come in the order of the
directories. A directory declares, in order and each once, the stems of the
units in it and the directories in it that are part of the tree. So from the
root every directory is reached, and from its directory every unit, and
nothing is declared that is neither a unit nor a directory with a file of
its own. -/
theorem modules_reach_units (units : List Path)
    (h : ∀ unit ∈ units, ∃ dir stem, UnitAt unit dir stem) :
    ∃ tree : ModuleTree,
      List.Forall₂ (fun (dir, children) file => file.Declares dir children) tree
        (moduleFiles units) ∧
      tree.directories.Nodup ∧ tree.directories.Pairwise (· < ·) ∧
      (∀ dir, dir ∈ tree.directories ↔ Holds units dir) ∧
      ([] ∈ tree.directories ↔ units ≠ []) ∧
      (∀ dir children, (dir, children) ∈ tree → children.Pairwise (· < ·) ∧
        ∀ name, name ∈ children ↔
          (∃ unit ∈ units, UnitAt unit dir name) ∨ Holds units (dir ++ [name])) ∧
      (∀ unit ∈ units, ∀ dir stem, UnitAt unit dir stem →
        tree.Reached dir ∧ tree.Declares dir stem) ∧
      (∀ dir ∈ tree.directories, tree.Reached dir) ∧
      ∀ dir name, tree.Declares dir name →
        (∃ unit ∈ units, UnitAt unit dir name) ∨ dir ++ [name] ∈ tree.directories := by
  have hdirs : ∀ dir, dir ∈ (ModuleTree.ofUnits units).directories ↔ Holds units dir :=
    fun dir => ModuleTree.mem_directories_ofUnits h
  refine ⟨.ofUnits units, ModuleTree.moduleFiles_declares h, ?_,
    ModuleTree.increasing_directories_ofUnits h, hdirs, ?_, ?_, ?_, ?_, ?_⟩
  · rw [ModuleTree.directories_ofUnits]
    exact nodup_declaringDirectories _
  · rw [hdirs, holds_root_iff h]
  · intro dir children hmem
    refine ⟨?_, fun name => ModuleTree.mem_children_ofUnits h hmem⟩
    obtain ⟨-, rfl⟩ := ModuleTree.mem_ofUnits.1 hmem
    exact pairwise_childrenOf _ dir
  · intro unit hunit dir stem hat
    have hdir : Holds units dir := ⟨unit, hunit, [], stem, by rwa [List.append_nil]⟩
    exact ⟨ModuleTree.reached_ofUnits h hdir,
      (ModuleTree.declares_ofUnits h hdir).2 (Or.inl ⟨unit, hunit, hat⟩)⟩
  · exact fun dir hdir => ModuleTree.reached_ofUnits h ((hdirs dir).1 hdir)
  · intro dir name ⟨children, hmem, hname⟩
    exact ((ModuleTree.mem_children_ofUnits h hmem).1 hname).imp_right (hdirs _).2

/-- A unit in the root, and one two directories down. -/
def pointUnits : List Path := [⟨"tag_table.rs"⟩, ⟨"model/geo/point_adapter.rs"⟩]

/-- A unit is reached through a directory that has no units of its own. -/
theorem modules_reach_units_point :
    (∀ unit ∈ pointUnits, ∃ dir stem, UnitAt unit dir stem) ∧
      ∃ tree : ModuleTree,
        List.Forall₂ (fun (dir, children) file => file.Declares dir children) tree
          (moduleFiles pointUnits) ∧
        tree.Declares [] "model" ∧ tree.Reached ["model", "geo"] ∧
        tree.Declares ["model", "geo"] "point_adapter" := by
  have htag : UnitAt ⟨"tag_table.rs"⟩ [] "tag_table" :=
    ⟨"tag_table.rs", by decide +kernel, Or.inl ⟨by decide, by decide +kernel⟩⟩
  have hpoint : UnitAt ⟨"model/geo/point_adapter.rs"⟩ ["model", "geo"] "point_adapter" :=
    ⟨"point_adapter.rs", by decide +kernel, Or.inl ⟨by decide, by decide +kernel⟩⟩
  have hunits : ∀ unit ∈ pointUnits, ∃ dir stem, UnitAt unit dir stem :=
    List.forall_mem_cons.2 ⟨⟨_, _, htag⟩, List.forall_mem_singleton.2 ⟨_, _, hpoint⟩⟩
  have hmodel : Holds pointUnits ["model"] :=
    ⟨_, List.mem_cons_of_mem _ List.mem_cons_self, ["geo"], _, hpoint⟩
  obtain ⟨tree, hfiles, -, -, hdirs, hroot, hdeclares, hreached, -⟩ :=
    modules_reach_units pointUnits hunits
  obtain ⟨⟨dir, children⟩, hmem, rfl⟩ := List.mem_map.1 (hroot.2 (List.cons_ne_nil _ _))
  refine ⟨hunits, tree, hfiles, ⟨children, hmem, ?_⟩, ?_⟩
  · exact ((hdeclares _ _ hmem).2 "model").2 (Or.inr hmodel)
  · exact hreached _ (List.mem_cons_of_mem _ List.mem_cons_self) _ _ hpoint

example : pointUnits.flatMap declaredBy = [([], "tag_table"), ([], "model"), (["model"], "geo"),
    (["model", "geo"], "point_adapter")] := by decide +kernel

end Emit

end Rowsmith
