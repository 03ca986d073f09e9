/-
The types that generated files refer to.

A unit calls the accessors of the tables that it follows references to,
and the adapters of the structures that are nested in its model. It knows
them by location only, as does the unit that declares them. Here the two
are brought together: the path that a name stands for and the file of the
unit are read off one location, a resolved schema holds each table and
each structure that it refers to, and so the file is among those that are
generated.

A table calls its own accessor `Self`. That another type may have this name
nothing rules out: it is given to the first path that ends in it, like any
other name (`selfPath?`). The path of an adapter never does; that of an
accessor does if the accessor is called so, and then the unit of a table that
refers to it reads it by a call of `Self`.

# Main results

Whatever a unit calls is generated, and where `Self` is the table itself
(`self_left_iff`); and a table that is called `Self` though it is another one
(`another_called_self`).
-/
import Rowsmith.Model.Registry
import Rowsmith.Proofs.Files.Collisions
import Rowsmith.Proofs.Resolve.Assembly
import Rowsmith.Proofs.Resolve.Integrity
import Rowsmith.Proofs.Writing.AdapterCode
import Rowsmith.Proofs.Writing.Calls
import Rowsmith.Proofs.Writing.Referred

namespace Rowsmith.Emit

open Text
open Writer (Brings)

-- ================================================================= units

/-- The content of a file is its header, the declarations of the names in
use and a body. -/
def SourceFile.Holds (file : SourceFile) (uses : Uses) (body : List String) : Prop :=
  file.content = String.intercalate "\n" ([header, ""] ++ uses.declarations ++ "" :: body) ++ "\n"

theorem unitFile_holds {location : Location} {uses : Uses} {body : Lines} {file : SourceFile}
    (h : unitFile location uses body = .ok file) : file.Holds uses body.lines := by
  obtain ⟨top, htop, h⟩ := Attempt.bind_eq_ok.1 h
  obtain ⟨declarations, hdeclarations, h⟩ := Attempt.bind_eq_ok.1 h
  obtain ⟨content, hcontent, h⟩ := Attempt.bind_eq_ok.1 h
  obtain rfl := Attempt.pure_eq_ok.1 h
  obtain ⟨-, rfl⟩ := Lines.push_eq_ok.1 hcontent
  show String.intercalate "\n" (top.lines ++ declarations.lines ++ [""] ++ body.lines) ++ "\n" =
    String.intercalate "\n" ([header, ""] ++ uses.declarations ++ "" :: body.lines) ++ "\n"
  rw [Lines.pushAll_lines htop, Lines.pushAll_lines hdeclarations, List.append_assoc]
  rfl

/-- The unit of a table declares its accessor first, and what its functions
mention it mentions. In the end it has all names in scope. -/
theorem tableUnit_holds {s : Schema} {target : Target} {t : Table} {file : SourceFile}
    (h : tableUnit s target t = .ok file) :
    ∃ uses rest model functions u,
      Writer.path (cratePath t.model) (.start target.runtime t.accessor) = .ok (model, u) ∧
      tableFunctions s target t model u = .ok (functions, uses) ∧ uses.Tidy ∧
      (Uses.start target.runtime t.accessor).Brought uses (tableTaken t) (tablePaths s target t) ∧
      file.Holds uses (("pub struct " ++ t.accessor ++ ";") :: rest) ∧
      ∀ function ∈ functions, ∀ text, Mentions function.lines text →
        Mentions (("pub struct " ++ t.accessor ++ ";") :: rest) text := by
  obtain ⟨model, u, constants, functions, uses, hmodel, -, hfunctions, hcontent⟩ := tableUnit_lines h
  have htidy := (Writer.Settled.path _).tidy hmodel (Uses.tidy_start _ _)
  have hbrought : (Uses.start target.runtime t.accessor).Brought uses (tableTaken t)
      (tablePaths s target t) :=
    ((Brings.path _).brought hmodel).trans ((tableFunctions_brings t model).brought hfunctions)
  refine ⟨uses, "" :: blockLines ("impl " ++ t.accessor ++ " \x7b")
      (constants.lines ++ functions.flatMap fun f => "" :: f.lines) "\x7d",
    model, functions, u, hmodel, hfunctions,
    (tableFunctions_settled s target t model).tidy hfunctions htidy, hbrought, ?_, ?_⟩
  · rw [SourceFile.Holds, hcontent, unitLines, List.append_assoc, List.append_assoc]
    rfl
  · intro function hfunction text htext
    have hitem : Mentions (constants.lines ++ functions.flatMap fun f => "" :: f.lines) text := by
      refine htext.mono fun line hline => List.mem_append_right _ ?_
      exact List.mem_flatMap.2 ⟨function, hfunction, List.mem_cons_of_mem _ hline⟩
    have hblock := hitem.blockLines ("impl " ++ t.accessor ++ " \x7b") "\x7d"
    exact hblock.mono fun line hline => List.mem_cons_of_mem _ (List.mem_cons_of_mem _ hline)

/-- After the functions of an adapter were written, each in turn, no name in
the unit stands for two types. -/
theorem adapterFunctions_tidy {target : Target} {x : Structure} {path own type : String}
    {u u₁ u₂ uses : Uses} {create fill fresh : Lines} {count : Nat}
    (htype : Writer.path path (.start target.runtime own) = .ok (type, u))
    (hcreate : createInstanceFunction target x type u = .ok (create, u₁))
    (hfill : fillValuesFunction target x type u₁ = .ok (fill, u₂))
    (hfresh : newValuesFunction type count u₂ = .ok (fresh, uses)) : uses.Tidy := by
  have hnamed := (Writer.Settled.path _).tidy htype (Uses.tidy_start _ _)
  have hcreated := (createInstanceFunction_settled target x type).tidy hcreate hnamed
  have hfilled := (fillValuesFunction_settled target x type).tidy hfill hcreated
  exact (newValuesFunction_settled type count).tidy hfresh hfilled

/-- The unit of a structure declares its adapter, and calls the adapters of
the structures nested in it. -/
theorem adapterUnit_holds {target : Target} {x : Structure} {file : SourceFile}
    (h : adapterUnit target x = .ok file) :
    ∃ uses body, uses.Tidy ∧ file.Holds uses body ∧
      "pub struct " ++ x.adapterName ++ ";" ∈ body ∧
      ∀ head type parts, Part.nested head type parts ∈ x.parts →
        ∃ adapter, adapterName target (.generated type) uses = .ok (adapter, uses) ∧
          Mentions body (createCall adapter) ∧ Mentions body (fillCall adapter) := by
  obtain ⟨type, u, create, u₁, fill, u₂, fresh, uses, body, htype, hcreate, hfill, hfresh, hfile,
    hbody⟩ := adapterUnit_lines h
  have htidy := adapterFunctions_tidy htype hcreate hfill hfresh
  have hfreshGrows := (newValuesFunction_settled type (structureParams x).length).grows hfresh
  have hfillGrows := (fillValuesFunction_settled target x type).grows hfill
  refine ⟨uses, body.lines, htidy, unitFile_holds hfile, ?_, ?_⟩
  · rw [hbody]
    exact List.mem_cons_self
  · intro head nested parts hpart
    obtain ⟨adapter', hadapter', hcreated⟩ :=
      createInstanceFunction_names (hfillGrows.trans hfreshGrows) htidy hpart hcreate
    obtain ⟨filler, hfiller, hfilled⟩ := fillValuesFunction_names hfreshGrows htidy hpart hfill
    rw [hadapter'] at hfiller
    obtain ⟨rfl, -⟩ := Prod.mk.inj (Except.ok.inj hfiller)
    refine ⟨adapter', hadapter', ?_⟩
    have hmention : ∀ text, Mentions create.lines text ∨ Mentions fill.lines text →
        Mentions body.lines text := by
      intro text h
      rw [hbody]
      refine Mentions.mono (Mentions.blockLines ?_ _ _) (List.subset_append_right _ _)
      rcases h with h | h
      · exact h.mono fun line hline => by simp [hline]
      · exact h.mono fun line hline => by simp [hline]
    exact ⟨hmention _ (Or.inl hcreated), hmention _ (Or.inr hfilled)⟩

-- ================================================================= paths

theorem fullPath_toList (l : Location) (target : Target) :
    ∃ before, (l.fullPath target).toList = before ++ ':' :: l.name.toList := by
  unfold Location.fullPath
  generalize l.modules.foldl (fun path m => path ++ "::" ++ m) target.root ++ "::" ++ l.stem = front
  exact ⟨front.toList ++ [':'], by simp⟩

/-- The path of a generated type has several segments. -/
theorem fullPath_ne_self (l : Location) (target : Target) : "Self" ≠ l.fullPath target := by
  intro hpath
  obtain ⟨before, hchars⟩ := fullPath_toList l target
  have hcolon : ':' ∈ "Self".toList := by
    rw [hpath, hchars]
    exact List.mem_append_right _ List.mem_cons_self
  exact absurd hcolon (by decide)

theorem adapterName_suffix (name : String) :
    "Adapter".toList <:+ (Naming.adapterName name).toList := by
  unfold Naming.adapterName
  rw [String.toList_append]
  exact List.suffix_append _ _

/-- The path of an adapter ends as its name does. -/
theorem adapterPath_suffix (type : TypeExpr) (target : Target) :
    "Adapter".toList <:+ ((Location.ofAdapter type).fullPath target).toList := by
  obtain ⟨before, hpath⟩ := fullPath_toList (.ofAdapter type) target
  rw [hpath]
  exact (adapterName_suffix type.name).trans ((List.suffix_cons _ _).trans (List.suffix_append _ _))

/-- No path of an adapter ends in `Self`. -/
theorem adapterPath_ne_self (type : TypeExpr) (target : Target) :
    TypeExpr.lastSegment ((Location.ofAdapter type).fullPath target) ≠ "Self" := by
  intro hself
  have hends := TypeExpr.lastSegment_suffix ((Location.ofAdapter type).fullPath target)
  rw [hself] at hends
  exact absurd (List.suffix_or_suffix_of_suffix hends (adapterPath_suffix type target)) (by decide)

/-- No adapter is called `Self`. -/
theorem Uses.StandsFor.adapter_ne {u : Uses} {type : TypeExpr} {target : Target} {name : String}
    (h : u.StandsFor name ((Location.ofAdapter type).fullPath target)) : name ≠ "Self" := by
  rintro rfl
  rcases h with hpath | ⟨hlast, -⟩
  · exact fullPath_ne_self _ target hpath
  · exact adapterPath_ne_self type target hlast.symm

-- ================================================================= `Self`

/-- The path that `Self` stands for in the unit of a table besides its own
accessor: the first that ends in it, unless the accessor is called so. -/
def selfPath? (s : Schema) (target : Target) (t : Table) : Option String :=
  if t.accessor = "Self" then none else firstEnding (tablePaths s target t) "Self"

/-- In the unit of a table `Self` does not stand for the accessor of another
table that a field refers to. -/
def LeavesSelf (s : Schema) (target : Target) (t : Table) : Prop :=
  ∀ f ∈ t.fields, ∀ r ∈ f.reference?, ∀ path ∈ accessorReferred s target t.id r,
    selfPath? s target t ≠ some path

instance (s : Schema) (target : Target) (t : Table) : Decidable (LeavesSelf s target t) :=
  inferInstanceAs (Decidable (∀ f ∈ t.fields, ∀ r ∈ f.reference?,
    ∀ path ∈ accessorReferred s target t.id r, selfPath? s target t ≠ some path))

/-- The accessor of a table is called `Self`, or no other that its fields
refer to has a path that ends so. -/
theorem LeavesSelf.of_lastSegment {s : Schema} {target : Target} {t : Table}
    (h : t.accessor = "Self" ∨ ∀ f ∈ t.fields, ∀ r ∈ f.reference?,
      ∀ path ∈ accessorReferred s target t.id r, TypeExpr.lastSegment path ≠ "Self") :
    LeavesSelf s target t := by
  intro f hf r hr path hpath htaken
  unfold selfPath? at htaken
  split at htaken
  · cases htaken
  · rename_i hother
    exact h.resolve_left hother f hf r hr path hpath (lastSegment_of_firstEnding htaken)

theorem Uses.Brought.pathOf?_self {s : Schema} {target : Target} {t : Table} {uses : Uses}
    (h : (Uses.start target.runtime t.accessor).Brought uses (tableTaken t) (tablePaths s target t)) :
    uses.pathOf? "Self" = selfPath? s target t := by
  have hnone : (Uses.start target.runtime t.accessor).pathOf? "Self" = none := rfl
  have hreserved : (Uses.start target.runtime t.accessor).isReserved "Self" = true ↔
      t.accessor = "Self" := by
    have hitem : (RuntimeItem.all.map RuntimeItem.name).contains "Self" = false := by decide
    unfold Uses.isReserved
    rw [hitem, Bool.false_or]
    exact beq_iff_eq
  unfold selfPath?
  rw [h.stands, hnone, Option.none_or]
  simp only [hreserved]

-- ============================================================= main result

/-- A file is the one of a generated type: it has its place and declares
it. -/
def SourceFile.Defines (file : SourceFile) (l : Location) : Prop :=
  file.path = l.file ∧
    ∃ uses body, file.Holds uses body ∧ "pub struct " ++ l.name ++ ";" ∈ body

/-- A name in a unit reaches a generated type: it stands for its path, and
there is a file of this type. -/
def Uses.Reaches (u : Uses) (files : List SourceFile) (target : Target) (name : String)
    (l : Location) : Prop :=
  u.StandsFor name (l.fullPath target) ∧ ∃ file ∈ files, file.Defines l

/-- How the unit of a table calls the accessor of a reference, given the
names that the unit has in scope. -/
structure CallsAccessor (s : Schema) (target : Target) (files : List SourceFile) (uses : Uses)
    (body : List String) (t : Table) (r : Reference) (name : String) : Prop where
  called : accessorName s target t.id r uses = .ok (name, uses)
  reads : ∀ policy, (s.effective t.id policy).follows = true →
    Mentions body (fromRowCall name (s.effective t.id policy).next)
  own : r.table = t.id → name = "Self"
  other : r.table ≠ t.id → ∃ t', s.tables[r.table]? = some t' ∧ t'.id = r.table ∧
    uses.Reaches files target name (.ofTable t') ∧
    (name = "Self" ↔ selfPath? s target t = some ((Location.ofTable t').fullPath target))

/-- How a unit calls the adapter of a nested structure. -/
structure CallsAdapter (target : Target) (files : List SourceFile) (uses : Uses)
    (body : List String) (type : TypeExpr) (name : String) : Prop where
  called : adapterName target (.generated type) uses = .ok (name, uses)
  creates : Mentions body (createCall name)
  fills : Mentions body (fillCall name)
  reaches : uses.Reaches files target name (.ofAdapter type)
  other : name ≠ "Self"

section

variable {room : Nat} {answers : List TypeExpr → TypeExpr → Except Failure (List FieldDecl)}
  {locator : Locator} {request : Request} {s : Schema} {target : Target} {files : List SourceFile}

theorem tableUnit_mem (hfiles : generate s target = .ok files) {t : Table} (ht : t ∈ s.tables) :
    ∃ file ∈ files, tableUnit s target t = .ok file := by
  obtain ⟨found, hfound, rfl⟩ := generate_eq_ok.1 hfiles
  obtain ⟨accessors, adapters, haccessors, -, rfl⟩ := units_eq_ok.1 hfound
  obtain ⟨file, hfile, hunit⟩ := Related.exists_mem haccessors ht
  refine ⟨file, List.mem_mergeSort.2 ?_, hunit⟩
  exact List.mem_append_left _ (List.mem_append_left _ hfile)

theorem adapterUnit_mem (hfiles : generate s target = .ok files) {x : Structure}
    (hx : x ∈ s.structures) : ∃ file ∈ files, adapterUnit target x = .ok file := by
  obtain ⟨found, hfound, rfl⟩ := generate_eq_ok.1 hfiles
  obtain ⟨accessors, adapters, -, hadapters, rfl⟩ := units_eq_ok.1 hfound
  obtain ⟨file, hfile, hunit⟩ := Related.exists_mem hadapters hx
  refine ⟨file, List.mem_mergeSort.2 ?_, hunit⟩
  exact List.mem_append_left _ (List.mem_append_right _ hfile)

/-- The path of the accessor of another table. -/
theorem mem_accessorReferred {id : TableId} {r : Reference} {path : String} :
    path ∈ accessorReferred s target id r ↔ r.table ≠ id ∧
      ∃ t, s.tables[r.table]? = some t ∧ path = (Location.ofTable t).fullPath target := by
  unfold accessorReferred
  by_cases hown : r.table = id
  · simp [hown]
  · rw [if_neg hown, and_iff_right hown]
    simp [eq_comm]

/-- The file of a table defines its accessor. -/
theorem exists_defines_table (hfiles : generate s target = .ok files) {t : Table}
    (ht : t ∈ s.tables) : ∃ file ∈ files, file.Defines (.ofTable t) := by
  obtain ⟨file, hfile, hunit⟩ := tableUnit_mem hfiles ht
  obtain ⟨uses, rest, _, _, _, -, -, -, -, hholds, -⟩ := tableUnit_holds hunit
  exact ⟨file, hfile, tableUnit_path hunit, uses, _, hholds, List.mem_cons_self⟩

/-- The file of a structure defines its adapter. -/
theorem exists_defines_adapter (hfiles : generate s target = .ok files) {x : Structure}
    (hx : x ∈ s.structures) : ∃ file ∈ files, file.Defines (.ofAdapter x.type) := by
  obtain ⟨file, hfile, hunit⟩ := adapterUnit_mem hfiles hx
  obtain ⟨uses, body, -, hholds, hdeclares, -⟩ := adapterUnit_holds hunit
  exact ⟨file, hfile, adapterUnit_path hunit, uses, body, hholds, hdeclares⟩

/-- An accessor that is called by some name is the one of the table itself,
or reached by this name. -/
theorem callsAccessor {uses : Uses} {body : List String} {t : Table} {r : Reference}
    {name : String} (hschema : s.WellFormed) (hfiles : generate s target = .ok files)
    (htidy : uses.Tidy) (hbrought : (Uses.start target.runtime t.accessor).Brought uses
      (tableTaken t) (tablePaths s target t))
    (hcalled : accessorName s target t.id r uses = .ok (name, uses))
    (hreads : ∀ policy, (s.effective t.id policy).follows = true →
      Mentions body (fromRowCall name (s.effective t.id policy).next)) :
    CallsAccessor s target files uses body t r name := by
  have hname := hcalled
  unfold accessorName at hname
  refine ⟨hcalled, hreads, ?_, ?_⟩
  · intro hown
    rw [if_pos hown] at hname
    exact (Writer.pure_eq_ok.1 hname).1
  · intro hother
    rw [if_neg hother] at hname
    obtain ⟨t', u, htable, hname⟩ := Writer.bind_eq_ok.1 hname
    obtain ⟨hfound, rfl⟩ := Writer.lift_eq_ok.1 htable
    have ht' := Schema.table_eq_ok.1 hfound
    have hstands := Uses.standsFor_of_usePath htidy (Writer.Settled.path_eq_ok.1 hname)
    refine ⟨t', ht', hschema.ids _ _ ht',
      ⟨hstands, exists_defines_table hfiles (List.mem_of_getElem? ht')⟩, ?_⟩
    rw [← hbrought.pathOf?_self]
    exact htidy.answer_eq_iff hname (fullPath_ne_self _ target)

theorem callsAdapter {uses : Uses} {body : List String} {x : Structure} {name : String}
    (hx : x ∈ s.structures) (hfiles : generate s target = .ok files) (htidy : uses.Tidy)
    (hcalled : adapterName target (.generated x.type) uses = .ok (name, uses))
    (hcreates : Mentions body (createCall name)) (hfills : Mentions body (fillCall name)) :
    CallsAdapter target files uses body x.type name := by
  have hstands := Uses.standsFor_of_usePath htidy (Writer.Settled.path_eq_ok.1 hcalled)
  exact ⟨hcalled, hcreates, hfills, ⟨hstands, exists_defines_adapter hfiles hx⟩,
    hstands.adapter_ne⟩

/-- The unit of a table calls the accessors and adapters that its fields
refer to. -/
theorem tableUnit_calls (hs : resolveWithin room answers locator request = .ok s)
    (hfiles : generate s target = .ok files) {t : Table} {file : SourceFile} (ht : t ∈ s.tables)
    (hunit : tableUnit s target t = .ok file) :
    ∃ uses body, file.Holds uses body ∧ ∀ f ∈ t.fields,
      (∀ r, f.kind = .reference r → ∃ name, CallsAccessor s target files uses body t r name) ∧
      ∀ x, f.kind = .nested x → ∃ name, CallsAdapter target files uses body x.type name := by
  obtain ⟨uses, rest, model, functions, u, -, hfunctions, htidy, hbrought, hholds, hkept⟩ :=
    tableUnit_holds hunit
  obtain ⟨⟨values, u₁, u₂, hvalues, hvaluesGrows, hmemValues⟩, fromRow, u₃, hfromRow,
    hmemFromRow⟩ := tableFunctions_include hfunctions
  refine ⟨uses, _, hholds, fun f hf => ⟨?_, ?_⟩⟩
  · intro r hkind
    obtain ⟨name, hcalled, hreads⟩ := fromRowFunction_names (.refl _) htidy hf hkind hfromRow
    refine ⟨name, callsAccessor (wellFormed_of_resolveWithin hs) hfiles htidy hbrought hcalled
      fun policy hfollows => ?_⟩
    exact hkept fromRow hmemFromRow _ (hreads policy hfollows)
  · intro x hkind
    have hx := nested_mem_structures hs ht hf hkind
    obtain ⟨name, hcalled, hcreates⟩ := fromRowFunction_creates (.refl _) htidy hf hkind hfromRow
    obtain ⟨filler, hfiller, hfills⟩ := valuesFunction_names hvaluesGrows htidy hf hkind hvalues
    rw [hcalled] at hfiller
    obtain ⟨rfl, -⟩ := Prod.mk.inj (Except.ok.inj hfiller)
    exact ⟨name, callsAdapter hx hfiles htidy hcalled (hkept fromRow hmemFromRow _ hcreates)
      (hkept values hmemValues _ hfills)⟩

/-- What a unit calls `Self` is told by the paths that it refers to. -/
theorem called_self_iff {t : Table} {uses : Uses} {body : List String}
    (hcalls : ∀ f ∈ t.fields, ∀ r, f.kind = .reference r →
      ∃ name, CallsAccessor s target files uses body t r name) :
    (∀ f ∈ t.fields, ∀ r name, f.kind = .reference r →
      accessorName s target t.id r uses = .ok (name, uses) → (name = "Self" ↔ r.table = t.id)) ↔
      LeavesSelf s target t := by
  constructor
  · intro hself f hf r hr path hpath
    have hkind := TableField.reference?_eq_some_iff.1 hr
    obtain ⟨hother, t', ht', rfl⟩ := mem_accessorReferred.1 hpath
    obtain ⟨name, hcall⟩ := hcalls f hf r hkind
    obtain ⟨t'', ht'', -, -, hiff⟩ := hcall.other hother
    obtain rfl := Option.some.inj (ht'.symm.trans ht'')
    exact fun htaken => hother ((hself f hf r name hkind hcall.called).1 (hiff.2 htaken))
  · intro hleaves f hf r name hkind hname
    obtain ⟨name', hcall⟩ := hcalls f hf r hkind
    obtain ⟨rfl, -⟩ := Prod.mk.inj (Except.ok.inj (hname.symm.trans hcall.called))
    by_cases hown : r.table = t.id
    · exact iff_of_true (hcall.own hown) hown
    · obtain ⟨t', ht', -, -, hiff⟩ := hcall.other hown
      have hpath : (Location.ofTable t').fullPath target ∈ accessorReferred s target t.id r :=
        mem_accessorReferred.2 ⟨hown, t', ht', rfl⟩
      have hr := TableField.reference?_eq_some_iff.2 hkind
      exact iff_of_false (fun hself => hleaves f hf r hr _ hpath (hiff.1 hself)) hown

/-- No unit refers to a type that is not generated: where it calls an accessor
or an adapter, there is a file for it, and a name that stands for its path.
The accessor of the table itself goes by `Self`, and no adapter does. No other
accessor does either exactly if the first type that the unit refers to by a
path that ends in `Self` is not one of them, or the accessor of the table itself
is called so; in particular if no other accessor has such a path. -/
theorem self_left_iff (hs : resolveWithin room answers locator request = .ok s)
    (hfiles : generate s target = .ok files) :
    (∀ t ∈ s.tables, ∃ file ∈ files, tableUnit s target t = .ok file ∧
      ∃ uses body, file.Holds uses body ∧
        (∀ f ∈ t.fields,
          (∀ r, f.kind = .reference r → ∃ name, CallsAccessor s target files uses body t r name) ∧
          ∀ x, f.kind = .nested x → ∃ name, CallsAdapter target files uses body x.type name) ∧
        ((∀ f ∈ t.fields, ∀ r name, f.kind = .reference r →
          accessorName s target t.id r uses = .ok (name, uses) →
            (name = "Self" ↔ r.table = t.id)) ↔ LeavesSelf s target t) ∧
        ((t.accessor = "Self" ∨ ∀ f ∈ t.fields, ∀ r ∈ f.reference?,
          ∀ path ∈ accessorReferred s target t.id r, TypeExpr.lastSegment path ≠ "Self") →
            LeavesSelf s target t)) ∧
    ∀ x ∈ s.structures, ∃ file ∈ files, adapterUnit target x = .ok file ∧
      ∃ uses body, file.Holds uses body ∧ ∀ head type parts, .nested head type parts ∈ x.parts →
        ∃ name, CallsAdapter target files uses body type name := by
  constructor
  · intro t ht
    obtain ⟨file, hfile, hunit⟩ := tableUnit_mem hfiles ht
    obtain ⟨uses, body, hholds, hcalls⟩ := tableUnit_calls hs hfiles ht hunit
    exact ⟨file, hfile, hunit, uses, body, hholds, hcalls,
      called_self_iff fun f hf => (hcalls f hf).1, LeavesSelf.of_lastSegment⟩
  · intro x hx
    obtain ⟨file, hfile, hunit⟩ := adapterUnit_mem hfiles hx
    obtain ⟨uses, body, htidy, hholds, -, hnested⟩ := adapterUnit_holds hunit
    refine ⟨file, hfile, hunit, uses, body, hholds, ?_⟩
    intro head type parts hpart
    obtain ⟨name, hcalled, hcreates, hfills⟩ := hnested head type parts hpart
    have hlisted : ⟨type, parts⟩ ∈ s.structures :=
      (library_of_resolveWithin hs).closed x hx _ hpart
    exact ⟨name, callsAdapter hlisted hfiles htidy hcalled hcreates hfills⟩

end

/-- Goods that are part of others, with a tag and a value, and the unit that
the value is given in. -/
def goodsCatalog : Catalog where
  decls := [
    ⟨.named "Tag", [.plain "id" (.named "i32")], true, none, none, [], none⟩,
    ⟨.named "Goods", [.plain "id" (.named "i32"),
      .plain "part_of" (.generic "ForeignInt" [.named "Goods"]),
      .plain "tag" (.generic "ForeignInt" [.named "Tag"]),
      .plain "value" (.named "Value")], true, none, none, [], none⟩,
    ⟨.named "Value", [.plain "amount" (.named "i64"), .plain "unit" (.named "Unit")], false, none,
      none, [], none⟩,
    ⟨.named "Unit", [.plain "name" (.named "String")], false, none, none, [], none⟩]
  unsupported := []

def goodsRequest : Request := ⟨goodsCatalog.models.map (·.toRequest), []⟩

/-- The unit of goods reads what goods are part of by calling `Self`, and the
tag by another name. The adapter of a value calls that of the unit. -/
theorem self_left_goods :
    ∃ s files, resolve goodsCatalog.describer Registry.empty.locator goodsRequest = .ok s ∧
      generate s .default = .ok files ∧
      (∃ t ∈ s.tables, LeavesSelf s .default t ∧ ∃ file ∈ files,
        tableUnit s .default t = .ok file ∧ ∃ uses body, file.Holds uses body ∧
          (∃ r, r.table = t.id ∧ CallsAccessor s .default files uses body t r "Self") ∧
          ∃ r name, r.table ≠ t.id ∧ CallsAccessor s .default files uses body t r name ∧
            name ≠ "Self") ∧
      ∃ file ∈ files, ∃ uses body name, file.Holds uses body ∧
        CallsAdapter .default files uses body (.named "Unit") name := by
  have hfound : ((resolve goodsCatalog.describer Registry.empty.locator
      goodsRequest).toOption.filter fun s => s.texts.all isSingleLine && decide (
        (∃ t ∈ s.tables, LeavesSelf s .default t ∧
          (∃ f ∈ t.fields, ∃ r ∈ f.reference?, r.table = t.id) ∧
          ∃ f ∈ t.fields, ∃ r ∈ f.reference?, r.table ≠ t.id) ∧
        ∃ x ∈ s.structures, (x.parts.any fun
          | .nested _ type _ => type == .named "Unit"
          | _ => false) = true)).isSome = true := by
    decide +kernel
  obtain ⟨s, hfound⟩ := Option.isSome_iff_exists.1 hfound
  obtain ⟨hs, hchecks⟩ := Option.filter_eq_some_iff.1 hfound
  have hresolved := Attempt.toOption_eq_some.1 hs
  obtain ⟨htexts, hchecks⟩ := Bool.and_eq_true_iff.1 hchecks
  obtain ⟨⟨t, ht, hleaves, ⟨f, hf, r, hr, hown⟩, g, hg, q, hq, hother⟩, x, hx, hnested⟩ :=
    of_decide_eq_true hchecks
  obtain ⟨files, hfiles⟩ : ∃ files, generate s .default = .ok files :=
    generate_of_texts hresolved (List.all_eq_true.1 htexts) (by decide) (by decide)
  obtain ⟨htables, hstructures⟩ := self_left_iff hresolved hfiles
  refine ⟨s, files, hresolved, hfiles, ⟨t, ht, hleaves, ?_⟩, ?_⟩
  · obtain ⟨file, hfile, hunit, uses, body, hholds, hcalls, hself, -⟩ := htables t ht
    have hfkind := TableField.reference?_eq_some_iff.1 hr
    have hgkind := TableField.reference?_eq_some_iff.1 hq
    obtain ⟨name, hcall⟩ := (hcalls f hf).1 r hfkind
    obtain ⟨name', hcall'⟩ := (hcalls g hg).1 q hgkind
    refine ⟨file, hfile, hunit, uses, body, hholds, ⟨r, hown, ?_⟩, q, name', hother, hcall', ?_⟩
    · exact hcall.own hown ▸ hcall
    · exact fun hname => hother ((hself.2 hleaves g hg q name' hgkind hcall'.called).1 hname)
  · obtain ⟨file, hfile, -, uses, body, hholds, hcalls⟩ := hstructures x hx
    obtain ⟨part, hpart, htype⟩ := List.any_eq_true.1 hnested
    cases part with
    | nested head type parts =>
        obtain rfl : type = .named "Unit" := eq_of_beq htype
        obtain ⟨name, hcall⟩ := hcalls head _ parts hpart
        exact ⟨file, hfile, uses, body, name, hholds, hcall⟩
    | _ => cases htype

-- ===================================================== another table, `Self`

/-- A tag, and a pin with the key of a tag. -/
def pinCatalog : Catalog where
  decls := [
    ⟨.named "Tag", [.plain "id" (.named "i32")], true, none, none, [], none⟩,
    ⟨.named "Pin", [.plain "tag" (.generic "ForeignInt" [.named "Tag"])], true, none, none, [],
      none⟩]
  unsupported := []

/-- The accessor of tags is called `Self`. -/
def pinRequest : Request :=
  ⟨[{ TableRequest.ofModel (.named "Tag") with accessor := "Self" }, .ofModel (.named "Pin")], []⟩

/-- A pin reads its tag by calling `Self`, which is not the accessor of pins
there. -/
theorem another_called_self :
    ∃ s files t f r file uses body,
      resolve pinCatalog.describer Registry.empty.locator pinRequest = .ok s ∧
      generate s .default = .ok files ∧ t ∈ s.tables ∧ t.accessor = "PinTable" ∧
      f ∈ t.fields ∧ f.kind = .reference r ∧ r.table ≠ t.id ∧
      file ∈ files ∧ tableUnit s .default t = .ok file ∧ file.Holds uses body ∧
      accessorName s .default t.id r uses = .ok ("Self", uses) ∧
      "use crate::generated::self::Self;" ∈ uses.declarations ∧
      Mentions body (fromRowCall "Self" .keys) := by
  have hfound : ((resolve pinCatalog.describer Registry.empty.locator
      pinRequest).toOption.filter fun s => s.texts.all isSingleLine && decide (
        ∃ t ∈ s.tables, t.accessor = "PinTable" ∧
          ∃ f ∈ t.fields, ∃ r ∈ f.reference?, r.table ≠ t.id ∧
            accessorReferred s .default t.id r = ["crate::generated::self::Self"] ∧
            selfPath? s .default t = some "crate::generated::self::Self")).isSome = true := by
    decide +kernel
  obtain ⟨s, hfound⟩ := Option.isSome_iff_exists.1 hfound
  obtain ⟨hs, hchecks⟩ := Option.filter_eq_some_iff.1 hfound
  have hresolved := Attempt.toOption_eq_some.1 hs
  obtain ⟨htexts, htables⟩ := Bool.and_eq_true_iff.1 hchecks
  obtain ⟨t, ht, haccessor, f, hf, r, hr, hother, hreferred, hself⟩ := of_decide_eq_true htables
  obtain ⟨files, hfiles⟩ : ∃ files, generate s .default = .ok files :=
    generate_of_texts hresolved (List.all_eq_true.1 htexts) (by decide) (by decide)
  have hkind := TableField.reference?_eq_some_iff.1 hr
  obtain ⟨file, hfile, hunit⟩ := tableUnit_mem hfiles ht
  obtain ⟨uses, body, hholds, hcalls⟩ := tableUnit_calls hresolved hfiles ht hunit
  obtain ⟨name, hcall⟩ := (hcalls f hf).1 r hkind
  obtain ⟨t', ht', -, ⟨hstands, -⟩, hiff⟩ := hcall.other hother
  have hpath : (Location.ofTable t').fullPath .default = "crate::generated::self::Self" :=
    List.mem_singleton.1 (hreferred ▸ mem_accessorReferred.2 ⟨hother, t', ht', rfl⟩)
  obtain rfl : name = "Self" := hiff.2 (hself.trans (congrArg some hpath.symm))
  obtain ⟨-, hdeclared, -⟩ := hstands.resolve_left (fullPath_ne_self _ _)
  rw [hpath] at hdeclared
  exact ⟨s, files, t, f, r, file, uses, body, hresolved, hfiles, ht, haccessor, hf, hkind, hother,
    hfile, hunit, hholds, hcall.called, hdeclared, hcall.reads .oneLevel rfl⟩

end Rowsmith.Emit
