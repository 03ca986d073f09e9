/-
What sources hold, module by module. Files and modules are walked through
item by item, and what is found is added to what was found before. Here
the walk is undone: all items are listed, each with the module it stands
in (`placedIn`), and whatever is collected is read off this list
(`collect_eq`). The structures and the enumerations are those of the list,
in its order.

The names that a module imports are read off the trees of its imports. A
tree is a way of writing several paths down, one for each of its leaves: it
is listed leaf by leaf, each with the segments that lead to it
(`UseTree.written`). A leaf binds at most one name (`UseLeaf.binding?`), and
to which path is decided by all segments above it. What a name is found to
stand for is the path of the last leaf that binds it
(`findAssoc?_importsOf`).
-/
import Mathlib.Data.List.Induction
import Rowsmith.Source.Declarations

namespace Rowsmith

/-- What is found under a key, after several values were put under theirs,
is the last one that was put under this key. -/
theorem findAssoc?_foldl_put {α β : Type} [DecidableEq α] (entries l : List (α × β)) (key : α) :
    findAssoc? (l.foldl (fun found (k, v) => putAssoc found k v) entries) key =
      (findAssoc? l.reverse key).or (findAssoc? entries key) := by
  induction l using List.reverseRecOn with
  | nil => rfl
  | append_singleton l e ih =>
      obtain ⟨k, v⟩ := e
      rw [List.foldl_append, List.foldl_cons, List.foldl_nil, findAssoc?_putAssoc, ih,
        List.reverse_append, List.reverse_singleton, List.singleton_append]
      unfold findAssoc?
      by_cases h : k = key
      · rw [if_pos h, List.find?_cons_of_pos (by simpa using h)]
        rfl
      · rw [if_neg h, List.find?_cons_of_neg (by simpa using h)]

theorem findAssoc?_append {α β : Type} [DecidableEq α] (l l' : List (α × β)) (key : α) :
    findAssoc? (l ++ l') key = (findAssoc? l key).or (findAssoc? l' key) := by
  unfold findAssoc?
  rw [List.find?_append, Option.map_or]

theorem findAssoc?_map {α β γ : Type} [DecidableEq α] (f : β → γ) (l : List (α × β)) (key : α) :
    findAssoc? (l.map fun (k, v) => (k, f v)) key = (findAssoc? l key).map f := by
  unfold findAssoc?
  rw [List.find?_map, Option.map_map, Option.map_map]
  rfl

namespace Source

-- ============================================================== imports

/-- A leaf of a tree, as it is written. -/
inductive UseLeaf
  -- A name, or `self`.
  | named (name : String)
  -- A name, or `self`, under another name.
  | renamed (name given : String)
  -- All names of a module.
  | all
deriving DecidableEq, Repr

/-- The name that a leaf below some segments binds, and the path it stands
for. Where `self` is written, it stands for the segments themselves, and
binds the last of them unless it is given a name. -/
def UseLeaf.binding? (above : List String) : UseLeaf → Option (String × List String)
  | .named name =>
    if name = "self" then above.getLast?.map fun last => (last, above)
    else some (name, above ++ [name])
  | .renamed name given => some (given, if name = "self" then above else above ++ [name])
  | .all => none

namespace UseTree

mutual

/-- The leaves of a tree in the order in which they are written, each with
the segments that lead to it. -/
def written : UseTree → List (List String × UseLeaf)
  | .under segment tree => tree.written.map fun (segments, tip) => (segment :: segments, tip)
  | .leaf name => [([], .named name)]
  | .renamed name given => [([], .renamed name given)]
  | .all => [([], .all)]
  | .several trees => writtenAll trees

/-- The leaves of several trees. -/
def writtenAll : List UseTree → List (List String × UseLeaf)
  | [] => []
  | tree :: rest => tree.written ++ writtenAll rest

end

/-- The names that leaves bind, below some segments that are above all of
them. -/
def bindingsBelow (above : List String) (leaves : List (List String × UseLeaf)) :
    List (String × List String) :=
  leaves.filterMap fun (segments, tip) => tip.binding? (above ++ segments)

theorem bindingsBelow_cons (above : List String) (segment : String)
    (leaves : List (List String × UseLeaf)) :
    bindingsBelow above (leaves.map fun (segments, tip) => (segment :: segments, tip)) =
      bindingsBelow (above ++ [segment]) leaves := by
  unfold bindingsBelow
  rw [List.filterMap_map]
  congr 1
  funext (segments, tip)
  show tip.binding? (above ++ segment :: segments) = tip.binding? (above ++ [segment] ++ segments)
  rw [List.append_assoc]
  rfl

theorem bindingsBelow_append (above : List String) (leaves more : List (List String × UseLeaf)) :
    bindingsBelow above (leaves ++ more) = bindingsBelow above leaves ++ bindingsBelow above more :=
  List.filterMap_append

theorem bindingsBelow_singleton (above : List String) (tip : UseLeaf) :
    bindingsBelow above [([], tip)] = (tip.binding? above).toList := by
  unfold bindingsBelow
  rw [List.filterMap_cons, List.filterMap_nil]
  dsimp only
  rw [List.append_nil]
  cases tip.binding? above with
  | none => rfl
  | some binding => rfl

/-- The names that a tree binds below some segments, each with the path it
stands for. -/
def bindings (above : List String) (tree : UseTree) : List (String × List String) :=
  bindingsBelow above tree.written

end UseTree

/-- Binds names to paths in a module, one after another. -/
def Imports.bindAll (imports : Imports) (module : String) (leaves : List (String × List String)) :
    Imports :=
  leaves.foldl (fun imports (name, path) => putAssoc imports name (absolute module path)) imports

theorem Imports.bindAll_append (imports : Imports) (module : String)
    (leaves more : List (String × List String)) :
    imports.bindAll module (leaves ++ more) = (imports.bindAll module leaves).bindAll module more :=
  List.foldl_append

namespace UseWalk

/-- Entering and leaving again changes nothing above. -/
theorem enter_bindHere_leave (w : UseWalk) (module segment name : String) :
    ((w.enter segment).bindHere module name).leave =
      ⟨w.above, putAssoc w.imports name (absolute module (w.above ++ [segment]))⟩ := by
  unfold enter bindHere leave
  rw [List.dropLast_concat]

mutual

/-- A walk binds the names of the leaves to their paths, and is back where
it began. -/
theorem visit_eq (module : String) (w : UseWalk) : (tree : UseTree) →
    w.visit module tree = ⟨w.above, w.imports.bindAll module (tree.bindings w.above)⟩
  | .under segment tree => by
      unfold visit UseTree.bindings UseTree.written
      rw [visit_eq module (w.enter segment) tree, UseTree.bindingsBelow_cons]
      unfold leave enter
      rw [List.dropLast_concat]
      rfl
  | .leaf name => by
      unfold visit UseTree.bindings UseTree.written
      rw [UseTree.bindingsBelow_singleton, UseLeaf.binding?]
      split
      · cases w.above.getLast? with
        | none => rfl
        | some last => rfl
      · exact enter_bindHere_leave w module name name
  | .renamed name given => by
      unfold visit UseTree.bindings UseTree.written
      rw [UseTree.bindingsBelow_singleton, UseLeaf.binding?]
      split
      · rfl
      · exact enter_bindHere_leave w module name given
  | .all => by rfl
  | .several trees => by
      unfold visit UseTree.bindings UseTree.written
      exact visitAll_eq module w trees

theorem visitAll_eq (module : String) (w : UseWalk) : (trees : List UseTree) →
    w.visitAll module trees = ⟨w.above,
      w.imports.bindAll module (UseTree.bindingsBelow w.above (UseTree.writtenAll trees))⟩
  | [] => by rfl
  | tree :: rest => by
      unfold visitAll UseTree.writtenAll
      rw [visit_eq module w tree, visitAll_eq module _ rest, UseTree.bindingsBelow_append,
        Imports.bindAll_append]
      rfl

end

end UseWalk

/-- What a name stands for, after others were bound, is the path of the
last of them with this name. -/
theorem Imports.findAssoc?_bindAll (imports : Imports) (module : String)
    (leaves : List (String × List String)) (name : String) :
    findAssoc? (imports.bindAll module leaves) name =
      ((findAssoc? leaves.reverse name).map (absolute module)).or (findAssoc? imports name) := by
  have hput := findAssoc?_foldl_put imports (leaves.map (Prod.map id (absolute module))) name
  have hlast := findAssoc?_map (absolute module) leaves.reverse name
  rw [List.foldl_map, ← List.map_reverse] at hput
  exact hput.trans (congrArg (Option.or · (findAssoc? imports name)) hlast)

/-- The names that a tree binds take the place of those that were bound
before. -/
theorem findAssoc?_add (imports : Imports) (module : String) (tree : UseTree) (name : String) :
    findAssoc? (imports.add module tree) name =
      ((findAssoc? (tree.bindings []).reverse name).map (absolute module)).or
        (findAssoc? imports name) := by
  unfold Imports.add
  rw [UseWalk.visit_eq]
  exact imports.findAssoc?_bindAll module _ name

-- ================================================================ items

mutual

/-- The items of an item, each with the module it stands in: those in it
if it is a module, and otherwise itself. -/
def placed (file module : String) : Item → List (Placed Item)
  | .module name items => placedAll file (pathIn module (plainName name)) items
  | .structured item => [⟨file, module, .structured item⟩]
  | .enumeration item => [⟨file, module, .enumeration item⟩]
  | .imports tree => [⟨file, module, .imports tree⟩]
  | .other => [⟨file, module, .other⟩]

/-- The items of several items. -/
def placedAll (file module : String) : List Item → List (Placed Item)
  | [] => []
  | item :: rest => placed file module item ++ placedAll file module rest

end

/-- All items of sources that were read. -/
def placedIn (sources : List (SourceText × List Item)) : List (Placed Item) :=
  sources.flatMap fun (s, items) => placedAll s.path s.module items

namespace Placed

def structure? (p : Placed Item) : Option (Placed StructItem) :=
  match p.item with
  | .structured item => some ⟨p.file, p.module, item⟩
  | _ => none

def enumeration? (p : Placed Item) : Option (Placed EnumItem) :=
  match p.item with
  | .enumeration item => some ⟨p.file, p.module, item⟩
  | _ => none

/-- The names that an item binds that is an import. -/
def bindings (p : Placed Item) : List (String × List String) :=
  match p.item with
  | .imports tree => tree.bindings []
  | _ => []

end Placed

namespace Collected

/-- Adds an item that is no module. -/
def addPlaced (c : Collected) (p : Placed Item) : Collected :=
  match p.item with
  | .module _ _ => c
  | item => c.add p.file p.module item

mutual

/-- Adding an item is adding all items in it. -/
theorem add_eq (file module : String) (c : Collected) : (item : Item) →
    c.add file module item = (placed file module item).foldl addPlaced c
  | .structured item => by rfl
  | .enumeration item => by rfl
  | .imports tree => by rfl
  | .module name items => by
      unfold add placed
      exact addAll_eq file (pathIn module (plainName name)) c items
  | .other => by rfl

theorem addAll_eq (file module : String) (c : Collected) : (items : List Item) →
    c.addAll file module items = (placedAll file module items).foldl addPlaced c
  | [] => by rfl
  | item :: rest => by
      unfold addAll placedAll
      rw [List.foldl_append, addAll_eq file module _ rest, add_eq file module c item]

end

end Collected

/-- What is collected is collected from all items, one after another. -/
theorem collect_eq (sources : List (SourceText × List Item)) :
    collect sources = (placedIn sources).foldl Collected.addPlaced .empty := by
  unfold collect placedIn
  rw [List.foldl_flatMap]
  congr 1
  funext c ⟨s, items⟩
  exact Collected.addAll_eq s.path s.module c items

-- ============================================================ collected

variable {sources : List (SourceText × List Item)}

/-- A list to which every item adds what it holds is read off the items, in
their order. -/
theorem view_collect {β : Type} (view : Collected → List β) (held : Placed Item → Option β)
    (hempty : view .empty = []) (hadd : ∀ c p, view (c.addPlaced p) = view c ++ (held p).toList) :
    view (collect sources) = (placedIn sources).filterMap held := by
  rw [collect_eq]
  induction placedIn sources using List.reverseRecOn with
  | nil => exact hempty
  | append_singleton placed p ih =>
      rw [List.foldl_append, List.foldl_cons, List.foldl_nil, hadd, ih, List.filterMap_append]
      cases hheld : held p with
      | none => rw [List.filterMap_cons_none hheld, List.filterMap_nil, Option.toList_none]
      | some b => rw [List.filterMap_cons_some hheld, List.filterMap_nil, Option.toList_some]

theorem structs_collect : (collect sources).structs =
    (placedIn sources).filterMap Placed.structure? := by
  refine view_collect Collected.structs Placed.structure? rfl ?_
  rintro c ⟨file, module, item⟩
  cases item with
  | structured item => rfl
  | _ => exact (List.append_nil _).symm

theorem enums_collect : (collect sources).enums =
    (placedIn sources).filterMap Placed.enumeration? := by
  refine view_collect Collected.enums Placed.enumeration? rfl ?_
  rintro c ⟨file, module, item⟩
  cases item with
  | enumeration item => rfl
  | _ => exact (List.append_nil _).symm

/-- The names that all imports of a module bind, in order. -/
def bindingsIn (sources : List (SourceText × List Item)) (module : String) :
    List (String × List String) :=
  ((placedIn sources).filter fun p => p.module = module).flatMap Placed.bindings

/-- The path that a name stands for in a module by the last leaf that binds
it. -/
def imported? (sources : List (SourceText × List Item)) (module name : String) :
    Option (List String) :=
  findAssoc? (bindingsIn sources module).reverse name

/-- An item changes what its module imports, and the last leaf counts. -/
theorem Collected.findAssoc?_importsOf_addPlaced (c : Collected) (p : Placed Item)
    (module name : String) :
    findAssoc? ((c.addPlaced p).importsOf module) name =
      if p.module = module then
        ((findAssoc? p.bindings.reverse name).map (absolute module)).or
          (findAssoc? (c.importsOf module) name)
      else findAssoc? (c.importsOf module) name := by
  obtain ⟨file, here, item⟩ := p
  cases item with
  | imports tree =>
      have hadd : (c.addPlaced ⟨file, here, .imports tree⟩).importsOf module =
          if here = module then (c.importsOf here).add here tree else c.importsOf module := by
        unfold importsOf
        show (findAssoc? (putAssoc c.imports here _) module).getD [] = _
        rw [findAssoc?_putAssoc]
        split
        · rfl
        · rfl
      rw [hadd]
      dsimp only
      split
      case isTrue h =>
        subst h
        exact findAssoc?_add _ here tree name
      case isFalse => rfl
  | _ =>
      show findAssoc? (c.importsOf module) name = _
      split
      · rfl
      · rfl

/-- What a name is found to stand for in a module is the path of the last
leaf that binds it there. -/
theorem findAssoc?_importsOf (module name : String) :
    findAssoc? ((collect sources).importsOf module) name =
      (imported? sources module name).map (absolute module) := by
  rw [collect_eq]
  unfold imported? bindingsIn
  induction placedIn sources using List.reverseRecOn with
  | nil => rfl
  | append_singleton placed p ih =>
      rw [List.foldl_append, List.foldl_cons, List.foldl_nil,
        Collected.findAssoc?_importsOf_addPlaced, ih, List.filter_append]
      by_cases h : p.module = module
      · have hone : [p].filter (fun p => p.module = module) = [p] :=
          List.filter_cons_of_pos (by simpa using h)
        rw [if_pos h, hone, List.flatMap_append, List.flatMap_singleton, List.reverse_append,
          findAssoc?_append, Option.map_or]
      · rw [if_neg h, List.filter_cons_of_neg (by simpa using h)]
        simp

end Source

end Rowsmith
