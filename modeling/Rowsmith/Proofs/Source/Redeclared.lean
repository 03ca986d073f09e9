/-
When sources are refused. Each item is refused or accepted on its own, by its
options and its form. Beyond that one thing only is checked of several items:
two structures that can be stored are not declared under one type.

Other declarations of a path are not compared. Of two enumerations without
data, the variants of the later one count (`Collected.findAssoc?_ordinals`);
a declaration that cannot be stored hides a structure of the same path, and
an enumeration without data stands beside it.

The checks are made one after another while the catalog grows. That an item
is accepted by the catalog so far is told by the types that are declared in
it, and these are the types of the storable structures before the item
(`foldlM_addStruct`).

Main result: `redeclared_refused`.
-/
import Rowsmith.Proofs.Source.Recorded

namespace Rowsmith.Source

open Attempt

variable {c : Collected} {catalog : Catalog} {s : Placed StructItem} {e : Placed EnumItem}

-- ============================================================= one item

/-- Every item is accepted where nothing else is declared. -/
structure AcceptedAlone (c : Collected) : Prop where
  structs : ∀ s ∈ c.structs, ∃ catalog, addStruct c .empty s = .ok catalog
  enums : ∀ e ∈ c.enums, ∃ catalog, addEnum .empty e = .ok catalog

/-- Enumerations are not compared with what is declared. -/
theorem addEnum_accepted {catalog₀ catalog₁ : Catalog} (h : addEnum catalog₀ e = .ok catalog₁) :
    ∃ catalog', addEnum catalog e = .ok catalog' := by
  obtain ⟨hunit, -⟩ | ⟨hdata, type, htype, -⟩ := addEnum_eq_ok.1 h
  · exact ⟨catalog, addEnum_eq_ok.2 (Or.inl ⟨hunit, rfl⟩)⟩
  · exact ⟨_, addEnum_eq_ok.2 (Or.inr ⟨hdata, type, htype, rfl⟩)⟩

/-- A structure that some catalog accepts is accepted by one without
declarations. -/
theorem addStruct_empty {catalog₀ catalog₁ : Catalog}
    (h : addStruct c catalog₀ s = .ok catalog₁) :
    ∃ catalog', addStruct c .empty s = .ok catalog' := by
  obtain ⟨type, htype, ⟨d, hdescribed, -, -⟩ | ⟨reason, hdescribed, -⟩⟩ := addStruct_eq_ok.1 h
  · refine ⟨_, addStruct_eq_ok.2 ⟨type, htype, Or.inl ⟨d, hdescribed, ?_, rfl⟩⟩⟩
    exact List.forall_mem_nil _
  · exact ⟨_, addStruct_eq_ok.2 ⟨type, htype, Or.inr ⟨reason, hdescribed, rfl⟩⟩⟩

/-- A structure that is accepted alone is refused by a catalog only if it can
be stored and its type is declared there. -/
theorem addStruct_refused {catalog₁ : Catalog} {stop : Stop}
    (halone : addStruct c .empty s = .ok catalog₁) (h : addStruct c catalog s = .error stop) :
    s.item.isStorable = true ∧ ∃ d ∈ catalog.decls,
      TypeExpr.ofText (Collected.structPath s) = .ok d.type ∧
      stop = .failure (.introspection d.type.print "type is declared more than once") := by
  obtain ⟨type, htype, ⟨d, hdescribed, -, -⟩ | ⟨reason, hdescribed, -⟩⟩ :=
    addStruct_eq_ok.1 halone
  · refine ⟨s.item.isStorable_iff.2 (obstacle?_of_declared hdescribed), ?_⟩
    have hinsert : Stop.ofFailure (catalog.insert d) = .error stop := by
      unfold addStruct at h
      rw [htype] at h
      dsimp only [Stop.ofDefect, Except.mapError, bind, Except.bind] at h
      rwa [hdescribed] at h
    obtain ⟨rfl, -⟩ := describeStruct_eq_declared hdescribed
    unfold Catalog.insert at hinsert
    split at hinsert
    case isTrue hold =>
      obtain ⟨old, hmem, hsame⟩ := List.any_eq_true.1 hold
      have hsame := of_decide_eq_true hsame
      exact ⟨old, hmem, hsame ▸ htype, hsame ▸ (Except.error.inj hinsert).symm⟩
    case isFalse => cases hinsert
  · have haccepted : addStruct c catalog s = .ok (catalog.reject type reason) :=
      addStruct_eq_ok.2 ⟨type, htype, Or.inr ⟨reason, hdescribed, rfl⟩⟩
    cases h.symm.trans haccepted

-- ============================================================ all items

/-- Two structures that can be stored, one after the other, are known under
one type. -/
def Redeclared (structs : List (Placed StructItem)) (type : TypeExpr) : Prop :=
  ∃ s s', [s, s'].Sublist structs ∧ TypeExpr.ofText (Collected.structPath s) = .ok type ∧
    TypeExpr.ofText (Collected.structPath s') = .ok type

/-- What is accepted together is accepted item by item, and no type is
declared twice. -/
theorem accepted_of_catalogOf (h : catalogOf c = .ok catalog) : AcceptedAlone c ∧
    ∀ type, ¬ Redeclared (c.structs.filter (·.item.isStorable)) type := by
  obtain ⟨hdecls, hnodup, -⟩ := catalogOf_recorded h
  obtain ⟨start, hstart, h⟩ := bind_eq_ok.1 h
  refine ⟨⟨fun s hs => ?_, fun e he => ?_⟩, ?_⟩
  · exact foldlM_reaches (fun _ => ∃ catalog', addStruct c .empty s = .ok catalog')
      (fun _ _ _ _ hkept _ => hkept) hs (fun _ _ hadd => addStruct_empty hadd) h
  · exact foldlM_reaches (fun _ => ∃ catalog', addEnum .empty e = .ok catalog')
      (fun _ _ _ _ hkept _ => hkept) he (fun _ _ hadd => addEnum_accepted hadd) hstart
  · intro type ⟨s, s', hpair, hs, hs'⟩
    have hkeys : (c.structs.filter (·.item.isStorable)).map
        (fun s => TypeExpr.ofText (Collected.structPath s)) =
        (catalog.decls.map (·.type)).map Except.ok := by
      rw [List.map_map]
      exact Related.map_eq hdecls fun _ _ hdeclared => hdeclared.key
    have hdistinct : ((catalog.decls.map (·.type)).map (Except.ok : _ → Except Defect _)).Nodup :=
      hnodup.map fun _ _ => Except.ok.inj
    rw [← hkeys, List.Nodup, List.pairwise_map] at hdistinct
    exact List.pairwise_iff_forall_sublist.1 hdistinct hpair (hs.trans hs'.symm)

/-- Items that are accepted each alone are refused together only if a type is
declared twice, and this is the failure. -/
theorem redeclared_of_catalogOf {stop : Stop} (halone : AcceptedAlone c)
    (h : catalogOf c = .error stop) : ∃ type,
      Redeclared (c.structs.filter (·.item.isStorable)) type ∧
      stop = .failure (.introspection type.print "type is declared more than once") := by
  obtain ⟨start, hstart⟩ : ∃ start, c.enums.foldlM addEnum .empty = .ok start := by
    refine foldlM_succeeds (fun e he catalog => ?_) _
    obtain ⟨_, haccepted⟩ := halone.enums e he
    exact addEnum_accepted haccepted
  unfold catalogOf at h
  rw [hstart] at h
  obtain ⟨before, s, after, found, hsplit, hbefore, hrefused⟩ := foldlM_eq_error_iff.1 h
  obtain ⟨_, haccepted⟩ := halone.structs s (hsplit ▸ List.mem_append_right _ List.mem_cons_self)
  obtain ⟨hstorable, d, hd, hkey, rfl⟩ := addStruct_refused haccepted hrefused
  -- the declaration that stands in the way comes from a structure before
  obtain ⟨rejected, rfl, -⟩ := foldlM_addEnum hstart
  obtain ⟨-, decls, rejected', rfl, hdecls, -⟩ := foldlM_addStruct hbefore
  obtain ⟨s₀, hs₀, hdeclared⟩ := Related.exists_mem hdecls.flip hd
  refine ⟨d.type, ⟨s₀, s, ?_, hdeclared.key, hkey⟩, rfl⟩
  rw [hsplit, List.filter_append, List.filter_cons_of_pos (by exact hstorable)]
  exact (List.singleton_sublist.2 hs₀).append ((List.nil_sublist _).cons_cons s)

/-- Sources are accepted if each of their items is and no two structures that
can be stored are declared under one type. Two such structures at one path
are refused, and a type that is declared twice is the failure if there is no
other. -/
theorem redeclared_refused {sources : List SourceText} {read : List (SourceText × List Item)}
    (hread : Reads sources read) :
    ((∃ catalog, parseSources sources = .ok catalog) ↔
      AcceptedAlone (collect read) ∧ ∀ type, ¬ Redeclared (storablesIn read) type) ∧
    (∀ s s', [s, s'].Sublist (storablesIn read) →
      Collected.structPath s = Collected.structPath s' →
      ∃ stop, parseSources sources = .error stop) ∧
    (AcceptedAlone (collect read) → ∀ stop, parseSources sources = .error stop →
      ∃ type, Redeclared (storablesIn read) type ∧
        stop = .failure (.introspection type.print "type is declared more than once")) := by
  obtain ⟨items, hitems, rfl⟩ := hread
  have hparse : parseSources sources = catalogOf (collect (sources.zip items)) := by
    unfold parseSources
    rw [hitems]
    rfl
  rw [hparse, ← filter_structs_collect]
  cases hcatalog : catalogOf (collect (sources.zip items)) with
  | ok catalog =>
      obtain ⟨halone, hdistinct⟩ := accepted_of_catalogOf hcatalog
      refine ⟨iff_of_true ⟨catalog, rfl⟩ ⟨halone, hdistinct⟩, fun s s' hpair hsame => ?_,
        fun _ _ h => nomatch h⟩
      have hs := List.mem_of_mem_filter (hpair.subset List.mem_cons_self)
      obtain ⟨_, haccepted⟩ := halone.structs s hs
      obtain ⟨type, htype, -⟩ := addStruct_eq_ok.1 haccepted
      exact absurd ⟨s, s', hpair, htype, hsame ▸ htype⟩ (hdistinct type)
  | error stop =>
      refine ⟨iff_of_false (fun ⟨_, h⟩ => nomatch h) ?_, fun _ _ _ _ => ⟨stop, rfl⟩, ?_⟩
      · intro ⟨halone, hdistinct⟩
        obtain ⟨type, htwice, -⟩ := redeclared_of_catalogOf halone hcatalog
        exact hdistinct type htwice
      · intro halone _ hstop
        obtain rfl := Except.error.inj hstop
        exact redeclared_of_catalogOf halone hcatalog

/-- Two files for one module with a structure of the same name. -/
def userSources : List SourceText :=
  [⟨"src/a.rs", "model", "pub struct User \x7b pub user_id: i32 \x7d"⟩,
    ⟨"src/b.rs", "model", "pub struct User \x7b pub user_id: i64 \x7d"⟩]

def userRead : List (SourceText × List Item) :=
  userSources.zip ((userSources.mapM itemsOf).toOption.getD [])

theorem redeclared_refused_user : Reads userSources userRead ∧
    (∃ stop, parseSources userSources = .error stop) ∧
    (∃ s s', [s, s'].Sublist (storablesIn userRead) ∧
      Collected.structPath s = Collected.structPath s') := by
  have hread : Reads userSources userRead := reads_zip (by decide +kernel)
  have htwice : (storablesIn userRead).map Collected.structPath = ["model::User", "model::User"] := by
    decide +kernel
  obtain ⟨s, s', hstructs, hs, hs'⟩ : ∃ s s', storablesIn userRead = [s, s'] ∧
      Collected.structPath s = "model::User" ∧ Collected.structPath s' = "model::User" := by
    obtain ⟨s, l, hstructs, hs, hl⟩ := List.map_eq_cons_iff.1 htwice
    obtain ⟨s', l', rfl, hs', hl'⟩ := List.map_eq_cons_iff.1 hl
    obtain rfl := List.map_eq_nil_iff.1 hl'
    exact ⟨s, s', hstructs, hs, hs'⟩
  have hpair : [s, s'].Sublist (storablesIn userRead) := hstructs ▸ .refl _
  have hsame : Collected.structPath s = Collected.structPath s' := hs.trans hs'.symm
  obtain ⟨-, hrefused, -⟩ := redeclared_refused hread
  exact ⟨hread, hrefused s s' hpair hsame, s, s', hpair, hsame⟩

/-- Two enumerations of one name, and a model with a field of their type. -/
def levelSources : List SourceText :=
  [⟨"a.rs", "model", "enum Level \x7b Low, High \x7d"⟩,
    ⟨"b.rs", "model", "enum Level \x7b High, Low \x7d struct Task \x7b id: i32, level: Level \x7d"⟩]

def levelRead : List (SourceText × List Item) :=
  levelSources.zip ((levelSources.mapM itemsOf).toOption.getD [])

/-- An enumeration that is declared twice is accepted, and the field is stored
by the positions of the later declaration. -/
theorem redeclared_enum_accepted : Reads levelSources levelRead ∧
    ((collect levelRead).enums.map fun e => (Collected.enumPath e, e.item.names)) =
      [("model::Level", ["Low", "High"]), ("model::Level", ["High", "Low"])] ∧
    ∃ catalog, parseSources levelSources = .ok catalog ∧
      (catalog.decls.map fun d => d.fields.map (·.inline)) =
        [[none, some (.ordinal ["High", "Low"])]] := by
  have hparsed : (((parseSources levelSources).toOption.map fun catalog =>
      catalog.decls.map fun d => d.fields.map (·.inline)) =
        some [[none, some (.ordinal ["High", "Low"])]]) ∧
      ((collect levelRead).enums.map fun e => (Collected.enumPath e, e.item.names)) =
        [("model::Level", ["Low", "High"]), ("model::Level", ["High", "Low"])] := by
    decide +kernel
  obtain ⟨hcatalog, henums⟩ := hparsed
  obtain ⟨catalog, hcatalog, hinline⟩ := Option.map_eq_some_iff.1 hcatalog
  exact ⟨reads_zip (by decide +kernel), henums, catalog, toOption_eq_some.1 hcatalog, hinline⟩

end Rowsmith.Source
