/-
What becomes of every declaration of the sources. A structure without type
parameters and with named fields is declared in the catalog; one of another
form, and an enumeration whose variants carry data, is recorded there with
the reason why it cannot be stored; an enumeration without data is known by
its variants. Nothing is left out, and nothing is added.

The catalog is built by adding one item after another, first the
enumerations and then the structures. What an item adds depends on this item
alone: a declaration goes to the end of the list, a reason takes the place of
an earlier one for the same type (`Catalog.extended`). So what the whole run
leaves is read off the list of the items, in their order
(`catalogOf_recorded`).

Main result: `declarations_recorded`.
-/
import Mathlib.Data.List.Nodup
import Rowsmith.Proofs.Source.Anchors

namespace Rowsmith

open Attempt

namespace Source

-- ================================================================ items

/-- A structure that can be stored: it has no type parameters, and its fields
are named. -/
def StructItem.isStorable (s : StructItem) : Bool :=
  s.generics.isNone &&
    match s.fields with
    | .named _ => true
    | .positional | .absent => false

/-- Why a structure cannot be stored, if it cannot. -/
def StructItem.obstacle? (s : StructItem) : Option String :=
  if s.generics.isSome then some "generic structs cannot be stored"
  else
    match s.fields with
    | .named _ => none
    | .positional | .absent => some "only structs with named fields can be stored"

/-- Why an enumeration cannot be stored, if it cannot. -/
def EnumItem.obstacle? (e : EnumItem) : Option String :=
  if e.isUnit then none
  else some ("enum `" ++ e.name ++ "` has variants with data, which cannot be stored")

/-- The path of a structure that cannot be stored, with the reason. -/
def structRejection? (s : Placed StructItem) : Option (String × String) :=
  s.item.obstacle?.map fun reason => (Collected.structPath s, reason)

/-- The path of an enumeration that cannot be stored, with the reason. -/
def enumRejection? (e : Placed EnumItem) : Option (String × String) :=
  e.item.obstacle?.map fun reason => (Collected.enumPath e, reason)

/-- The structures of sources that can be stored, in the order of the sources
and of their texts. -/
def storablesIn (read : List (SourceText × List Item)) : List (Placed StructItem) :=
  (placedIn read).filterMap fun p => p.structure?.filter (·.item.isStorable)

/-- The paths of all types of sources that cannot be stored, with the reasons:
those of the enumerations, then those of the structures. -/
def rejectionsIn (read : List (SourceText × List Item)) : List (String × String) :=
  (placedIn read).filterMap (fun p => p.enumeration?.bind enumRejection?) ++
    (placedIn read).filterMap fun p => p.structure?.bind structRejection?

theorem StructItem.isStorable_iff (s : StructItem) : s.isStorable = true ↔ s.obstacle? = none := by
  unfold isStorable obstacle?
  cases s.generics with
  | some pos => simp
  | none => cases s.fields <;> simp

theorem StructItem.obstacle?_eq (s : StructItem) : s.obstacle? = (unstorable? s).map (·.2) := by
  unfold obstacle? unstorable?
  cases s.generics with
  | some pos => rfl
  | none => cases s.fields <;> rfl

/-- A structure that is declared can be stored. -/
theorem obstacle?_of_declared {c : Collected} {s : Placed StructItem} {type : TypeExpr}
    {d : StructDecl} (h : describeStruct c s type = .declared d) : s.item.obstacle? = none := by
  rw [StructItem.obstacle?_eq]
  unfold describeStruct at h
  split at h
  · cases h
  · split at h
    case h_1 => cases h
    case h_2 => cases h
    case h_3 hnone _ => rw [hnone, Option.map_none]

/-- A structure that is found not to be stored has its own reason. -/
theorem obstacle?_of_rejected {c : Collected} {s : Placed StructItem} {type : TypeExpr}
    {reason : String} (h : describeStruct c s type = .rejected reason) :
    s.item.obstacle? = some reason := by
  rw [StructItem.obstacle?_eq]
  unfold describeStruct at h
  split at h
  · cases h
  · split at h
    case h_1 => cases h
    case h_2 hfound _ =>
      obtain rfl := Described.rejected.inj h
      rw [hfound, Option.map_some]
    case h_3 =>
      change (if (partitionResults (s.item.namedFields.map _)).1.isEmpty = true then _ else _) = _
        at h
      split at h
      · cases h
      · cases h

end Source

-- ============================================================= catalogs

/-- A catalog to which declarations are added, and types that cannot be
stored. -/
def Catalog.extended (catalog : Catalog) (decls : List StructDecl)
    (rejected : List (TypeExpr × String)) : Catalog where
  decls := catalog.decls ++ decls
  unsupported := rejected.foldl (fun found (type, reason) => putAssoc found type reason)
    catalog.unsupported

namespace Source

/-- A declaration is what the sources say of a structure. It is known under
the path of the structure, and has its fields, in order: each with its name
and with its type, of which the paths are relative to the crate. -/
structure DeclaredAs (c : Collected) (s : Placed StructItem) (d : StructDecl) : Prop where
  key : TypeExpr.ofText (Collected.structPath s) = .ok d.type
  path : ∀ M n, (∀ n' ∈ M ++ [n], IsName n') → Collected.structPath s = joinPath (M ++ [n]) →
    d.type.path = Collected.structPath s
  names : d.fields.map (·.name) = s.item.namedFields.map fun f => plainName f.name
  types : d.fields.map (·.type) = c.fieldTypes s

/-- A type that cannot be stored is recorded under its path. -/
def RecordedAs (rejection : String × String) (record : TypeExpr × String) : Prop :=
  TypeExpr.ofText rejection.1 = .ok record.1 ∧ record.2 = rejection.2

variable {c : Collected} {catalog catalog' : Catalog} {s : Placed StructItem}

theorem declaredAs_of_describeStruct {type : TypeExpr} {d : StructDecl}
    (htype : TypeExpr.ofText (Collected.structPath s) = .ok type)
    (h : describeStruct c s type = .declared d) : DeclaredAs c s d := by
  obtain ⟨rfl, hfields⟩ := describeStruct_eq_declared h
  refine ⟨htype, fun M n hnames hpath => ?_, ?_, describeStruct_types h⟩
  · obtain ⟨hM, hn⟩ := List.forall_mem_append.1 hnames
    obtain ⟨type, htype', hpath', -⟩ := ofText_joinPath hM (hn n List.mem_cons_self)
    rw [hpath, htype'] at htype
    rw [hpath, ← Except.ok.inj htype, hpath']
  · exact (Related.map_eq hfields fun _ _ hfield => (describeField_eq_ok hfield).1.symm).symm

/-- Structures that are added are declared if they can be stored, each under
a type of its own, and otherwise recorded. -/
theorem foldlM_addStruct {structs : List (Placed StructItem)}
    (h : structs.foldlM (addStruct c) catalog = .ok catalog') :
    ((catalog.decls.map (·.type)).Nodup → (catalog'.decls.map (·.type)).Nodup) ∧
    ∃ decls rejected, catalog' = catalog.extended decls rejected ∧
      List.Forall₂ (DeclaredAs c) (structs.filter (·.item.isStorable)) decls ∧
      List.Forall₂ RecordedAs (structs.filterMap structRejection?) rejected := by
  induction structs generalizing catalog with
  | nil =>
      obtain rfl := Except.ok.inj h
      exact ⟨id, [], [], by simp [Catalog.extended], .nil, .nil⟩
  | cons s structs ih =>
      rw [List.foldlM_cons] at h
      obtain ⟨next, hadd, hrest⟩ := bind_eq_ok.1 h
      obtain ⟨hnodup, decls, rejected, rfl, hdecls, hrejected⟩ := ih hrest
      obtain ⟨type, htype, ⟨d, hdescribed, hnew, rfl⟩ | ⟨reason, hdescribed, rfl⟩⟩ :=
        addStruct_eq_ok.1 hadd
      · have hnone := obstacle?_of_declared hdescribed
        have hdeclared := declaredAs_of_describeStruct htype hdescribed
        refine ⟨fun hstart => hnodup ?_, d :: decls, rejected, ?_, ?_, ?_⟩
        · rw [List.map_append, List.map_singleton, (describeStruct_eq_declared hdescribed).1]
          refine List.concat_eq_append ▸ List.Nodup.concat (fun hold => ?_) hstart
          obtain ⟨e, he, hsame⟩ := List.mem_map.1 hold
          exact hnew e he hsame
        · simp [Catalog.extended]
        · rw [List.filter_cons_of_pos (by simpa using s.item.isStorable_iff.2 hnone)]
          exact .cons hdeclared hdecls
        · rwa [List.filterMap_cons_none (by simp [structRejection?, hnone])]
      · have hsome := obstacle?_of_rejected hdescribed
        refine ⟨hnodup, decls, (type, reason) :: rejected, rfl, ?_, ?_⟩
        · rwa [List.filter_cons_of_neg (by simp [s.item.isStorable_iff, hsome])]
        · rw [List.filterMap_cons_some (by rw [structRejection?, hsome]; rfl)]
          exact .cons ⟨htype, rfl⟩ hrejected

/-- Enumerations that are added are recorded if they carry data. -/
theorem foldlM_addEnum {enums : List (Placed EnumItem)}
    (h : enums.foldlM addEnum catalog = .ok catalog') :
    ∃ rejected, catalog' = catalog.extended [] rejected ∧
      List.Forall₂ RecordedAs (enums.filterMap enumRejection?) rejected := by
  induction enums generalizing catalog with
  | nil =>
      obtain rfl := Except.ok.inj h
      exact ⟨[], by simp [Catalog.extended], .nil⟩
  | cons e enums ih =>
      rw [List.foldlM_cons] at h
      obtain ⟨next, hadd, hrest⟩ := bind_eq_ok.1 h
      obtain ⟨rejected, rfl, hrejected⟩ := ih hrest
      obtain ⟨hunit, rfl⟩ | ⟨hdata, type, htype, rfl⟩ := addEnum_eq_ok.1 hadd
      · refine ⟨rejected, rfl, ?_⟩
        rwa [List.filterMap_cons_none (by simp [enumRejection?, EnumItem.obstacle?, hunit])]
      · refine ⟨(type, _) :: rejected, rfl, ?_⟩
        rw [List.filterMap_cons_some (by simp [enumRejection?, EnumItem.obstacle?, hdata]; rfl)]
        exact .cons ⟨htype, rfl⟩ hrejected

/-- A catalog declares the structures that can be stored, and records what
cannot. -/
theorem catalogOf_recorded (h : catalogOf c = .ok catalog) :
    List.Forall₂ (DeclaredAs c) (c.structs.filter (·.item.isStorable)) catalog.decls ∧
    (catalog.decls.map (·.type)).Nodup ∧
    ∃ rejected, catalog = Catalog.empty.extended catalog.decls rejected ∧
      List.Forall₂ RecordedAs
        (c.enums.filterMap enumRejection? ++ c.structs.filterMap structRejection?) rejected := by
  obtain ⟨start, hstart, h⟩ := bind_eq_ok.1 h
  obtain ⟨rejected, rfl, hrejected⟩ := foldlM_addEnum hstart
  obtain ⟨hnodup, decls, rejected', rfl, hdecls, hrejected'⟩ := foldlM_addStruct h
  refine ⟨hdecls, hnodup List.nodup_nil, rejected ++ rejected', ?_, ?_⟩
  · simp [Catalog.extended, Catalog.empty]
  · exact List.rel_append hrejected hrejected'

-- ============================================================== reasons

/-- The reason that is recorded for a type: of the types that cannot be stored
and are known under its key, the last one has it. -/
def LastReason (rejections : List (String × String)) (type : TypeExpr) (reason : String) : Prop :=
  ∃ before path after, rejections = before ++ (path, reason) :: after ∧
    TypeExpr.ofText path = .ok type ∧ ∀ later ∈ after, TypeExpr.ofText later.1 ≠ .ok type

/-- For a type that is recorded, the last reason is found. -/
theorem exists_lastReason {rejections : List (String × String)}
    {rejected : List (TypeExpr × String)} (h : List.Forall₂ RecordedAs rejections rejected)
    (type : TypeExpr) :
    (∃ reason, LastReason rejections type reason ∧
        findAssoc? rejected.reverse type = some reason) ∨
      (∀ rejection ∈ rejections, TypeExpr.ofText rejection.1 ≠ .ok type) ∧
        findAssoc? rejected.reverse type = none := by
  induction h with
  | nil => exact Or.inr ⟨List.forall_mem_nil _, rfl⟩
  | @cons rejection record rejections rejected hfirst hrest ih =>
      obtain ⟨path, reason⟩ := rejection
      obtain ⟨type', reason'⟩ := record
      obtain ⟨htype, rfl⟩ : TypeExpr.ofText path = .ok type' ∧ reason' = reason := hfirst
      rw [List.reverse_cons, findAssoc?_append]
      rcases ih with ⟨last, ⟨before, path', after, rfl, hpath', hafter⟩, hfound⟩ | ⟨hnever, hnone⟩
      · refine Or.inl ⟨last, ⟨(path, reason') :: before, path', after, rfl, hpath', hafter⟩, ?_⟩
        rw [hfound, Option.some_or]
      · rw [hnone, Option.none_or]
        by_cases hsame : type' = type
        · subst hsame
          refine Or.inl ⟨reason', ⟨[], path, rejections, rfl, htype, hnever⟩, ?_⟩
          simp [findAssoc?]
        · refine Or.inr ⟨List.forall_mem_cons.2 ⟨fun hother => hsame ?_, hnever⟩, ?_⟩
          · exact Except.ok.inj (htype.symm.trans hother)
          · simp [findAssoc?, hsame]

-- ============================================================== sources

section

variable {sources : List SourceText} {read : List (SourceText × List Item)}

theorem reads_zip (h : (sources.mapM itemsOf).toOption.isSome = true) :
    Reads sources (sources.zip ((sources.mapM itemsOf).toOption.getD [])) := by
  obtain ⟨items, hitems⟩ := Attempt.exists_ok h
  exact ⟨items, hitems, by rw [hitems]; rfl⟩

theorem filter_structs_collect :
    (collect read).structs.filter (·.item.isStorable) = storablesIn read := by
  rw [structs_collect, List.filter_filterMap]
  rfl

theorem rejections_collect :
    (collect read).enums.filterMap enumRejection? ++
      (collect read).structs.filterMap structRejection? = rejectionsIn read := by
  rw [structs_collect, enums_collect, List.filterMap_filterMap, List.filterMap_filterMap]
  rfl

/-- A catalog declares the structures of its sources that can be stored, all
of them, in the order of the sources and of their texts and each under a type
of its own. Of the other types that the sources declare, those that cannot be
stored are not described, for the reason that is recorded last for the type,
and enumerations without data are known by their variants. -/
theorem declarations_recorded (hread : Reads sources read)
    (hcatalog : parseSources sources = .ok catalog) :
    List.Forall₂ (DeclaredAs (collect read)) (storablesIn read) catalog.decls ∧
    (catalog.decls.map (·.type)).Nodup ∧
    (∀ path reason, (path, reason) ∈ rejectionsIn read →
      ∃ type last, TypeExpr.ofText path = .ok type ∧ LastReason (rejectionsIn read) type last ∧
        catalog.describe type = .error (.introspection type.print last)) ∧
    ∀ p ∈ placedIn read, ∀ n, p.declares? = some n →
      (∃ s ∈ storablesIn read, p.structure? = some s) ∨
      (∃ reason, (pathIn p.module n, reason) ∈ rejectionsIn read) ∨
      ∃ e, p.enumeration? = some e ∧ e.item.isUnit = true ∧
        (findAssoc? (collect read).ordinals (pathIn p.module n)).isSome = true := by
  obtain ⟨items, hitems, rfl⟩ := hread
  obtain ⟨items', hitems', hcatalog⟩ := parseSources_eq_ok.1 hcatalog
  obtain rfl := Except.ok.inj (hitems.symm.trans hitems')
  obtain ⟨hdecls, hnodup, rejected, hunsupported, hrejected⟩ := catalogOf_recorded hcatalog
  rw [filter_structs_collect] at hdecls
  rw [rejections_collect] at hrejected
  refine ⟨hdecls, hnodup, fun path reason hmem => ?_, fun p hp n hn => ?_⟩
  · obtain ⟨⟨type, reason'⟩, -, htype, -⟩ := Related.exists_mem hrejected hmem
    obtain ⟨last, hlast, hfound⟩ | ⟨hnever, -⟩ := exists_lastReason hrejected type
    · refine ⟨type, last, htype, hlast, ?_⟩
      unfold Catalog.describe
      rw [hunsupported, Catalog.extended, findAssoc?_foldl_put, hfound, Option.some_or]
    · exact absurd htype (hnever _ hmem)
  · obtain ⟨s, hs, hstruct, -, hpath⟩ | ⟨e, he, henum, -, hpath⟩ := mem_collect hp hn
    · rw [← hpath]
      by_cases hstorable : s.item.isStorable = true
      · exact Or.inl ⟨s, filter_structs_collect ▸ List.mem_filter.2 ⟨hs, hstorable⟩, hstruct⟩
      · obtain ⟨reason, hreason⟩ :=
          Option.ne_none_iff_exists'.1 (mt s.item.isStorable_iff.2 hstorable)
        refine Or.inr (Or.inl ⟨reason, rejections_collect ▸ List.mem_append_right _ ?_⟩)
        exact List.mem_filterMap.2 ⟨s, hs, by rw [structRejection?, hreason]; rfl⟩
    · rw [← hpath]
      by_cases hunit : e.item.isUnit = true
      · exact Or.inr (Or.inr ⟨e, henum, hunit, Collected.isSome_ordinals he hunit⟩)
      · obtain ⟨reason, hreason⟩ : ∃ reason, e.item.obstacle? = some reason :=
          ⟨_, if_neg hunit⟩
        refine Or.inr (Or.inl ⟨reason, rejections_collect ▸ List.mem_append_left _ ?_⟩)
        exact List.mem_filterMap.2 ⟨e, he, by rw [enumRejection?, hreason]; rfl⟩

end

/-- Declarations of every form, in two files and in a module below. -/
def deskSources : List SourceText :=
  [⟨"desk.rs", "desk", "struct Loan \x7b id: i32, days: u8 \x7d struct Slot(i32); " ++
      "mod shelf \x7b struct Book \x7b title: String \x7d enum State \x7b Free, Lent \x7d \x7d"⟩,
    ⟨"page.rs", "", "struct Page<T> \x7b text: T \x7d enum Note \x7b Blank, Text(String) \x7d " ++
      "struct Reader \x7b id: i32 \x7d"⟩]

def deskRead : List (SourceText × List Item) :=
  deskSources.zip ((deskSources.mapM itemsOf).toOption.getD [])

theorem declarations_recorded_desk : Reads deskSources deskRead ∧
    ∃ catalog, parseSources deskSources = .ok catalog ∧
      (storablesIn deskRead).map Collected.structPath =
        ["desk::Loan", "desk::shelf::Book", "Reader"] ∧
      List.Forall₂ (DeclaredAs (collect deskRead)) (storablesIn deskRead) catalog.decls ∧
      ∃ type last, LastReason (rejectionsIn deskRead) type last ∧
        catalog.describe type = .error (.introspection type.print last) := by
  have hparsed : (parseSources deskSources).toOption.isSome = true ∧
      (storablesIn deskRead).map Collected.structPath =
        ["desk::Loan", "desk::shelf::Book", "Reader"] ∧
      ("desk::Slot", "only structs with named fields can be stored") ∈ rejectionsIn deskRead := by
    decide +kernel
  obtain ⟨hcatalog, hpaths, hslot⟩ := hparsed
  obtain ⟨catalog, hcatalog⟩ := Attempt.exists_ok hcatalog
  have hread : Reads deskSources deskRead := reads_zip (by decide +kernel)
  obtain ⟨hdecls, -, hrejected, -⟩ := declarations_recorded hread hcatalog
  obtain ⟨type, last, -, hlast, hdescribe⟩ := hrejected _ _ hslot
  exact ⟨hread, catalog, hcatalog, hpaths, hdecls, type, last, hlast, hdescribe⟩

end Source

end Rowsmith
