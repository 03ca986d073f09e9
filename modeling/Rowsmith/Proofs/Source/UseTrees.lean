/-
The names that the tree of an import binds. A walk over a tree carries one
list of segments through all its branches. Every branch puts its own
segments on the list and has to take them off again, or whatever stands
behind it is bound to a wrong path.

Against the walk stands the tree as it is written (`UseTree.written`), a
list of leaves that knows nothing of what the tree stands below. The walk is
in step with the leaves since it is back where it was behind each of them
(`UseWalk.visit_eq`). So what it leaves behind is read off the list, the
order of the names with it.

Main result: `tree_binds_leaves`.
-/
import Rowsmith.Proofs.Source.Collecting

namespace Rowsmith

-- ================================================================= keys

/-- A key that is put keeps its place, or comes last if it is new. -/
theorem map_fst_putAssoc {α β : Type} [DecidableEq α] (entries : List (α × β)) (key : α)
    (value : β) : (putAssoc entries key value).map (·.1) =
      if key ∈ entries.map (·.1) then entries.map (·.1) else entries.map (·.1) ++ [key] := by
  induction entries with
  | nil => rfl
  | cons e entries ih =>
      obtain ⟨k, v⟩ := e
      unfold putAssoc
      by_cases hk : k = key
      · rw [if_pos hk, if_pos (by simp [hk]), List.map_cons, List.map_cons, hk]
      · rw [if_neg hk, List.map_cons, List.map_cons, ih]
        by_cases hmem : key ∈ entries.map (·.1)
        · rw [if_pos hmem, if_pos (List.mem_cons_of_mem k hmem)]
        · rw [if_neg hmem, if_neg (by simpa [Ne.symm hk] using hmem), List.cons_append]

/-- Keys that are put one after another come behind those that are there, in
the order in which they are first put. -/
theorem map_fst_foldl_put {α β : Type} [DecidableEq α] (entries l : List (α × β)) :
    (l.foldl (fun found (k, v) => putAssoc found k v) entries).map (·.1) =
      entries.map (·.1) ++ ((l.map (·.1)).filter (· ∉ entries.map (·.1))).eraseDups := by
  induction l using List.reverseRecOn with
  | nil => simp
  | append_singleton l e ih =>
      obtain ⟨k, v⟩ := e
      rw [List.foldl_append, List.foldl_cons, List.foldl_nil, map_fst_putAssoc, ih, List.map_append,
        List.filter_append, List.eraseDups_append, List.map_singleton]
      by_cases hold : k ∈ entries.map (·.1)
      · rw [if_pos (List.mem_append_left _ hold), List.filter_cons_of_neg (by simpa using hold)]
        simp
      · by_cases hput : k ∈ l.map (·.1)
        · have hmem : k ∈ ((l.map (·.1)).filter (· ∉ entries.map (·.1))).eraseDups :=
            List.mem_eraseDups.2 (List.mem_filter.2 ⟨hput, by simpa using hold⟩)
          rw [if_pos (List.mem_append_right _ hmem), List.filter_cons_of_pos (by simpa using hold)]
          simp [List.removeAll, hold, hput]
        · have hnew : k ∉ entries.map (·.1) ++
              ((l.map (·.1)).filter (· ∉ entries.map (·.1))).eraseDups := by
            rw [List.mem_append, List.mem_eraseDups, List.mem_filter]
            exact fun h => h.elim hold fun h => hput h.1
          rw [if_neg hnew, List.filter_cons_of_pos (by simpa using hold), List.append_assoc]
          simp [List.removeAll, List.eraseDups_cons, hold, hput]

namespace Source

-- ================================================================= walks

/-- A walk over a tree is back at its segments when it ends, whatever it
passed. The names it has bound are those of the leaves, each as it is
written below these segments, and they were bound in the order of the
leaves: a name stands for the path of the last leaf that binds it, one
that no leaf binds for what it stood for before, and names that are new
come behind the others in the order of their first leaves. -/
theorem tree_binds_leaves (module : String) (tree : UseTree) (w : UseWalk) :
    let bound := tree.written.filterMap fun (segments, tip) => tip.binding? (w.above ++ segments)
    let walked := w.visit module tree
    walked.above = w.above ∧
      walked.imports = bound.foldl
        (fun imports (name, path) => putAssoc imports name (absolute module path)) w.imports ∧
      (∀ name, findAssoc? walked.imports name =
        ((findAssoc? bound.reverse name).map (absolute module)).or (findAssoc? w.imports name)) ∧
      walked.imports.map (·.1) = w.imports.map (·.1) ++
        ((bound.map (·.1)).filter (· ∉ w.imports.map (·.1))).eraseDups := by
  intro bound walked
  have hwalk : walked = ⟨w.above, w.imports.bindAll module bound⟩ := by
    show w.visit module tree = _
    rw [UseWalk.visit_eq]
    rfl
  rw [hwalk]
  refine ⟨rfl, rfl, w.imports.findAssoc?_bindAll module bound, ?_⟩
  have hkeys := map_fst_foldl_put w.imports
    (bound.map fun (name, path) => (name, absolute module path))
  rw [List.foldl_map, List.map_map] at hkeys
  exact hkeys

/-- A tree with groups below two modules, one of them named itself, a
rename and all names of a module. -/
example : UseWalk.visit "music" ⟨["crate"], [("User", "old::User")]⟩
    (.several [.under "geo" (.several [.leaf "self", .renamed "Point" "Location", .all]),
      .under "model" (.leaf "User")]) =
    ⟨["crate"], [("User", "model::User"), ("geo", "geo"), ("Location", "geo::Point")]⟩ := by
  decide +kernel

end Source

end Rowsmith
