/-
What a catalog says of the sources it was read from. A catalog is built in
two passes: first the items of all sources are collected, then every
structure is described. Both passes only ever add, so that each declared
field can be led back to the item it was written as, and each conversion
by position to the enumeration it was taken from.

Two enumerations may be declared at one path, where only one of them is
compiled at a time. Then the one that is collected last counts.

Chain: `parseSources_eq_ok` opens the first pass, `catalogOf_decls` the
second; `findAssoc?_ordinals` says which enumeration is found under a
path, and `parseSources_ordinal` puts them together.
-/
import Mathlib.Data.List.Induction
import Rowsmith.Proofs.Attempt
import Rowsmith.Source.Declarations

namespace Rowsmith.Source

open Attempt

-- ========================================================= enumerations

/-- The enumeration carries no data. -/
def EnumItem.isUnit (e : EnumItem) : Bool := e.variants.all (·.isUnit)

def EnumItem.names (e : EnumItem) : List String := e.variants.map (·.name)

/-- The enumeration without data at a path, the last one if there are
several. -/
def Collected.unitEnum? (c : Collected) (path : String) : Option EnumItem :=
  ((c.enums.reverse.find? fun e => e.item.isUnit ∧ Collected.enumPath e = path)).map (·.item)

/-- The enumeration without data that sources declare at a path. -/
def unitEnumOf? (sources : List SourceText) (path : String) : Option EnumItem :=
  (sources.mapM itemsOf).toOption.bind fun items =>
    (collect (sources.zip items)).unitEnum? path

/-- Under a path stand the variants of the enumeration without data that
is declared there. -/
theorem Collected.findAssoc?_ordinals (c : Collected) (path : String) :
    findAssoc? c.ordinals path = (c.unitEnum? path).map EnumItem.names := by
  unfold Collected.ordinals Collected.unitEnum?
  induction c.enums using List.reverseRecOn with
  | nil => rfl
  | append_singleton enums e ih =>
      rw [List.filter_append, List.foldl_append, List.reverse_append, List.reverse_singleton,
        List.singleton_append]
      by_cases hunit : e.item.isUnit = true
      · have hone : [e].filter (fun e => e.item.variants.all (·.isUnit)) = [e] :=
          List.filter_cons_of_pos hunit
        rw [hone, List.foldl_cons, List.foldl_nil, findAssoc?_putAssoc]
        by_cases hpath : Collected.enumPath e = path
        · rw [if_pos hpath, List.find?_cons_of_pos]
          · rfl
          · simp [hunit, hpath]
        · rw [if_neg hpath, ih, List.find?_cons_of_neg]
          simp [hpath]
      · have hnone : [e].filter (fun e => e.item.variants.all (·.isUnit)) = [] :=
          List.filter_cons_of_neg hunit
        rw [hnone, List.foldl_nil, ih, List.find?_cons_of_neg]
        simp [hunit]

/-- Every enumeration without data is known by its variants. -/
theorem Collected.isSome_ordinals {c : Collected} {e : Placed EnumItem} (he : e ∈ c.enums)
    (hunit : e.item.isUnit = true) :
    (findAssoc? c.ordinals (Collected.enumPath e)).isSome = true := by
  rw [Collected.findAssoc?_ordinals, Option.isSome_map]
  unfold Collected.unitEnum?
  rw [Option.isSome_map, List.find?_isSome]
  exact ⟨e, List.mem_reverse.2 he, by simp [hunit]⟩

/-- The enumeration that is found carries no data. -/
theorem Collected.unitEnum?_isUnit {c : Collected} {path : String} {e : EnumItem}
    (h : c.unitEnum? path = some e) : e.isUnit = true := by
  obtain ⟨placed, hfound, rfl⟩ := Option.map_eq_some_iff.1 h
  have hplaced := List.find?_some hfound
  exact (of_decide_eq_true hplaced).1

-- =========================================================== structures

theorem ofFailure_eq_ok {α : Type} {step : Except Failure α} {a : α} :
    Stop.ofFailure step = .ok a ↔ step = .ok a := mapError_eq_ok

theorem ofDefect_eq_ok {α : Type} {step : Except Defect α} {a : α} :
    Stop.ofDefect step = .ok a ↔ step = .ok a := mapError_eq_ok

/-- The successes among several attempts, if none failed. -/
theorem forall₂_partitionResults {ε α : Type} {l : List (Except ε α)}
    (h : (partitionResults l).1.isEmpty = true) :
    List.Forall₂ (fun x a => x = .ok a) l (partitionResults l).2 := by
  induction l with
  | nil => exact .nil
  | cons x l ih =>
      cases x with
      | error e => cases h
      | ok a => exact .cons rfl (ih h)

/-- The fields of a declaration are those of a structure of the sources. -/
def Collected.Describes (c : Collected) (d : StructDecl) : Prop :=
  ∃ s ∈ c.structs, ∃ items : List FieldItem,
    List.Forall₂ (fun item f => describeField (c.scopeOf s.module) c.ordinals item = .ok f)
      items d.fields

/-- The named fields of a structure. -/
def StructItem.namedFields (s : StructItem) : List FieldItem :=
  match s.fields with
  | .named fields => fields
  | _ => []

/-- A structure is declared by its type, and described field by field. -/
theorem describeStruct_eq_declared {c : Collected} {s : Placed StructItem} {type : TypeExpr}
    {d : StructDecl} (h : describeStruct c s type = .declared d) : d.type = type ∧
      List.Forall₂ (fun item f => describeField (c.scopeOf s.module) c.ordinals item = .ok f)
        s.item.namedFields d.fields := by
  unfold describeStruct at h
  split at h
  · cases h
  · split at h
    · cases h
    · cases h
    · change (if (partitionResults (s.item.namedFields.map _)).1.isEmpty = true then _ else _) = _
        at h
      split at h
      case isFalse => cases h
      case isTrue hnone =>
        obtain rfl := Described.declared.inj h
        exact ⟨rfl, List.forall₂_map_left_iff.1 (forall₂_partitionResults hnone)⟩

theorem describeStruct_declared {c : Collected} {s : Placed StructItem} {type : TypeExpr}
    {d : StructDecl} (hs : s ∈ c.structs) (h : describeStruct c s type = .declared d) :
    c.Describes d :=
  ⟨s, hs, s.item.namedFields, (describeStruct_eq_declared h).2⟩

/-- A structure is added if its path can be read as a type: as a declaration
of this type, if it is described and the type is not declared yet, or as one
that cannot be stored. -/
theorem addStruct_eq_ok {c : Collected} {catalog catalog' : Catalog} {s : Placed StructItem} :
    addStruct c catalog s = .ok catalog' ↔
    ∃ type, TypeExpr.ofText (Collected.structPath s) = .ok type ∧
      ((∃ d, describeStruct c s type = .declared d ∧ (∀ e ∈ catalog.decls, e.type ≠ type) ∧
          catalog' = { catalog with decls := catalog.decls ++ [d] }) ∨
        ∃ reason, describeStruct c s type = .rejected reason ∧
          catalog' = catalog.reject type reason) := by
  unfold addStruct
  rw [bind_eq_ok]
  refine exists_congr fun type => and_congr ofDefect_eq_ok ?_
  cases hdescribed : describeStruct c s type with
  | declared d =>
      dsimp only
      rw [ofFailure_eq_ok, Catalog.insert_eq_ok_iff, (describeStruct_eq_declared hdescribed).1]
      constructor
      · exact fun ⟨hnew, hadded⟩ => Or.inl ⟨d, rfl, hnew, hadded⟩
      · rintro (⟨_, hsame, hnew, hadded⟩ | ⟨_, hother, -⟩)
        · obtain rfl := Described.declared.inj hsame
          exact ⟨hnew, hadded⟩
        · cases hother
  | rejected reason =>
      dsimp only
      rw [pure_eq_ok]
      constructor
      · exact fun hadded => Or.inr ⟨reason, rfl, hadded.symm⟩
      · rintro (⟨_, hother, -⟩ | ⟨_, hsame, hadded⟩)
        · cases hother
        · obtain rfl := Described.rejected.inj hsame
          exact hadded.symm
  | refused errors d =>
      constructor
      · intro h
        cases d with
        | none => cases h
        | some d =>
            obtain ⟨_, _, hthrow⟩ := bind_eq_ok.1 h
            cases hthrow
      · rintro (⟨_, hother, -⟩ | ⟨_, hother, -⟩)
        · cases hother
        · cases hother

/-- Adding a structure keeps what is declared, and declares at most this
structure. -/
theorem addStruct_decls {c : Collected} {catalog catalog' : Catalog} {s : Placed StructItem}
    (hs : s ∈ c.structs) (hcatalog : ∀ d ∈ catalog.decls, c.Describes d)
    (h : addStruct c catalog s = .ok catalog') : ∀ d ∈ catalog'.decls, c.Describes d := by
  obtain ⟨type, -, ⟨d, hdescribed, -, rfl⟩ | ⟨reason, -, rfl⟩⟩ := addStruct_eq_ok.1 h
  · refine List.forall_mem_append.2 ⟨hcatalog, List.forall_mem_singleton.2 ?_⟩
    exact describeStruct_declared hs hdescribed
  · exact hcatalog

/-- An enumeration is added as one that cannot be stored if it carries
data. -/
theorem addEnum_eq_ok {catalog catalog' : Catalog} {e : Placed EnumItem} :
    addEnum catalog e = .ok catalog' ↔
      e.item.isUnit = true ∧ catalog' = catalog ∨
        e.item.isUnit = false ∧ ∃ type, TypeExpr.ofText (Collected.enumPath e) = .ok type ∧
          catalog' = catalog.reject type
            ("enum `" ++ e.item.name ++ "` has variants with data, which cannot be stored") := by
  unfold addEnum
  change (if e.item.isUnit = true then Except.ok catalog else _) = _ ↔ _
  by_cases hunit : e.item.isUnit = true
  · rw [if_pos hunit, hunit, Except.ok.injEq]
    simp [eq_comm]
  · rw [if_neg hunit, Bool.eq_false_iff.2 hunit, bind_eq_ok]
    simp only [Bool.false_eq_true, false_and, true_and, false_or, ofDefect_eq_ok, pure_eq_ok,
      @eq_comm Catalog catalog']

/-- Recording the enumerations with data declares nothing. -/
theorem addEnum_decls {catalog catalog' : Catalog} {e : Placed EnumItem}
    (h : addEnum catalog e = .ok catalog') : catalog'.decls = catalog.decls := by
  obtain ⟨-, rfl⟩ | ⟨-, type, -, rfl⟩ := addEnum_eq_ok.1 h
  · rfl
  · rfl

/-- Every declaration of a catalog describes a structure of the sources. -/
theorem catalogOf_decls {c : Collected} {catalog : Catalog} (h : catalogOf c = .ok catalog) :
    ∀ d ∈ catalog.decls, c.Describes d := by
  obtain ⟨start, hstart, h⟩ := bind_eq_ok.1 h
  have hempty : start.decls = [] := by
    refine foldlM_keeps (fun catalog : Catalog => catalog.decls = []) ?_ rfl hstart
    intro e _ catalog catalog' hnone he
    rw [addEnum_decls he, hnone]
  refine foldlM_keeps (fun catalog : Catalog => ∀ d ∈ catalog.decls, c.Describes d) ?_ ?_ h
  · intro s hs catalog catalog' hcatalog hadd
    exact addStruct_decls hs hcatalog hadd
  · rw [hempty]
    intro d hd
    cases hd

-- ============================================================== sources

/-- Sources make a catalog if each of them can be read and the structures
can be described. -/
theorem parseSources_eq_ok {sources : List SourceText} {catalog : Catalog} :
    parseSources sources = .ok catalog ↔ ∃ items, sources.mapM itemsOf = .ok items ∧
      catalogOf (collect (sources.zip items)) = .ok catalog := by
  unfold parseSources
  simp only [bind_eq_ok, ofFailure_eq_ok]

/-- A field is described by its name, its type and its arguments. Only a field
that is not given a conversion may be stored by the position of its
variant. -/
theorem describeField_eq_ok {scope : Scope} {ordinals : List (String × List String)}
    {item : FieldItem} {f : FieldDecl} (h : describeField scope ordinals item = .ok f) :
    f.name = plainName item.name ∧ f.type = scope.canonical item.type ∧
      ∀ names, f.inline = some (.ordinal names) →
        findAssoc? ordinals f.type.valueType.path = some names := by
  unfold describeField at h
  obtain ⟨given, -, h⟩ := bind_eq_ok.1 h
  obtain rfl := Except.ok.inj h
  refine ⟨rfl, rfl, fun names hinline => ?_⟩
  dsimp only at hinline
  cases hconversion : given.conversion with
  | some provided =>
      rw [hconversion] at hinline
      cases hinline
  | none =>
      rw [hconversion] at hinline
      obtain ⟨found, hfound, hnames⟩ := Option.map_eq_some_iff.1 hinline
      obtain rfl := InlineConversion.ordinal.inj hnames
      exact hfound

/-- If a declared field is stored by the position of its variant, the
sources declare an enumeration without data at the path of its type, with
these variants. -/
theorem parseSources_ordinal {sources : List SourceText} {catalog : Catalog} {d : StructDecl}
    {f : FieldDecl} {names : List String} (h : parseSources sources = .ok catalog)
    (hd : d ∈ catalog.decls) (hf : f ∈ d.fields) (hinline : f.inline = some (.ordinal names)) :
    ∃ e, unitEnumOf? sources f.type.valueType.path = some e ∧ e.isUnit = true ∧
      e.names = names := by
  obtain ⟨items, hitems, hcatalog⟩ := parseSources_eq_ok.1 h
  obtain ⟨s, hs, fields, hdescribed⟩ := catalogOf_decls hcatalog d hd
  obtain ⟨item, -, hitem⟩ := Related.exists_mem hdescribed.flip hf
  have hfound := (describeField_eq_ok hitem).2.2 names hinline
  rw [Collected.findAssoc?_ordinals] at hfound
  obtain ⟨e, he, hnames⟩ := Option.map_eq_some_iff.1 hfound
  refine ⟨e, ?_, Collected.unitEnum?_isUnit he, hnames⟩
  unfold unitEnumOf?
  rw [hitems]
  exact he

end Rowsmith.Source
