/-
The arguments of a field.

A field has three flags, the name of its column, its defaults, and a mapper
with the storage it converts to. Name, mapper and storage may be given once,
in all attributes of the field together, and mapper and storage need each
other; the defaults add up. The arguments taken tell what is held
(`FieldArguments.Records`), step by step (`records_take`), and so the list of
all arguments decides (`FieldOptions.ofAttributes_decided`).
-/
import Rowsmith.Proofs.Source.Arguments

namespace Rowsmith.Source

open Rowsmith.Source.Parser

-- ============================================================ arguments

/-- An argument of a field. -/
inductive FieldArgument
  | primaryKey
  | nullable
  | unique
  | column (name : String)
  | default (expr : String)
  | mapper (path : String)
  | storage (storage : Storage)
deriving DecidableEq, Repr

namespace FieldArgument

/-- What the tokens say, if they are an argument. -/
def read? : List TokenTree → Option FieldArgument
  | .word _ "primary_key" :: value => bare? value .primaryKey
  | .word _ "nullable" :: value => bare? value .nullable
  | .word _ "unique" :: value => bare? value .unique
  | .word _ "column" :: value => (text? value).map .column
  | .word _ "default" :: value => (text? value).map .default
  | .word _ "mapper" :: value => (text? value).map .mapper
  | .word _ "storage" :: value => ((text? value).bind Storage.ofName?).map .storage
  | _ => none

@[simp]
def column? : FieldArgument → Option String
  | .column name => some name
  | _ => none

@[simp]
def default? : FieldArgument → Option String
  | .default expr => some expr
  | _ => none

@[simp]
def mapper? : FieldArgument → Option String
  | .mapper path => some path
  | _ => none

@[simp]
def storage? : FieldArgument → Option Storage
  | .storage tag => some tag
  | _ => none

/-- What may be given once is. -/
structure Fits (said : List FieldArgument) : Prop where
  column : (said.filterMap column?).length ≤ 1
  mapper : (said.filterMap mapper?).length ≤ 1
  storage : (said.filterMap storage?).length ≤ 1

theorem Fits.of_append {said more : List FieldArgument} (h : Fits (said ++ more)) : Fits said := by
  obtain ⟨hcolumn, hmapper, hstorage⟩ := h
  simp only [List.filterMap_append, List.length_append] at hcolumn hmapper hstorage
  exact ⟨by omega, by omega, by omega⟩

/-- The arguments of a field are accepted if what may be given once is, and
a mapper and its storage are given together. -/
structure Accepted (said : List FieldArgument) : Prop extends Fits said where
  paired : (∃ path, .mapper path ∈ said) ↔ ∃ tag, .storage tag ∈ said

end FieldArgument

-- =============================================================== taking

namespace FieldArguments

/-- The arguments with one more. -/
def take (pos : Position) (f : FieldArguments) : FieldArgument → Option FieldArguments
  | .primaryKey => some { f with primaryKey := true }
  | .nullable => some { f with nullable := true }
  | .unique => some { f with unique := true }
  | .column name => if f.column.isNone then some { f with column := some name } else .none
  | .default expr => some { f with defaults := f.defaults ++ [expr] }
  | .mapper path => if f.mapper.isNone then some { f with mapper := some (path, pos) } else .none
  | .storage storage =>
    if f.storage.isNone then some { f with storage := some (storage, pos) } else .none

theorem read?_unnamed {arg : List TokenTree}
    (h : ∀ pos name value, arg = .word pos name :: value → name ∉ names) :
    FieldArgument.read? arg = Option.none := by
  unfold FieldArgument.read?
  split
  case h_8 => rfl
  all_goals exact absurd (by decide) (h _ _ _ rfl)

/-- What an argument does on its own. -/
theorem alone_argument (f : FieldArguments) (arg : List TokenTree) :
    alone argument f arg =
      (FieldArgument.read? arg).bind (f.take (ParseState.start arg .start).pos) := by
  have hrun : alone argument f arg =
      accepted ((optionName names >>= f.named (ParseState.start arg .start).pos)
        (.start arg .start)) := run_toOption _ _ _
  rw [hrun]
  refine accepted_optionName ?_ fun hunnamed => by rw [read?_unnamed hunnamed]; rfl
  rintro pos name value rfl hname
  simp only [names, List.mem_cons, List.not_mem_nil, or_false] at hname
  obtain rfl | rfl | rfl | rfl | rfl | rfl | rfl := hname
  -- Three flags, and then the options that take a text.
  case inl =>
    simp only [named, FieldArgument.read?, accepted_pure]
    cases value <;> rfl
  case inr.inl =>
    simp only [named, FieldArgument.read?, accepted_pure]
    cases value <;> rfl
  case inr.inr.inl =>
    simp only [named, FieldArgument.read?, accepted_pure]
    cases value <;> rfl
  case inr.inr.inr.inl =>
    simp only [named, FieldArgument.read?]
    rw [accepted_textValue _ fun text => settles_setOnce "column" text]
    cases text? value <;> rfl
  case inr.inr.inr.inr.inl =>
    simp only [named, FieldArgument.read?]
    rw [accepted_textValue _ fun text => settles_pure _]
    cases text? value <;> rfl
  case inr.inr.inr.inr.inr.inl =>
    simp only [named, FieldArgument.read?]
    rw [accepted_textValue _ fun text => settles_setOnce "mapper" _]
    cases text? value <;> rfl
  case inr.inr.inr.inr.inr.inr =>
    refine (accepted_textValue (fun name => (Storage.ofName? name).bind fun tag =>
      f.take pos (.storage tag)) (fun name => ?_) value).trans ?_
    · cases Storage.ofName? name with
      | none => exact fun _ => rfl
      | some tag => exact settles_setOnce "storage" (tag, pos)
    · simp only [FieldArgument.read?]
      cases text? value with
      | none => rfl
      | some name =>
          rw [Option.bind_some, Option.bind_some]
          cases Storage.ofName? name <;> rfl

/-- What is held is told by the arguments taken. -/
structure Records (f : FieldArguments) (said : List FieldArgument) : Prop where
  primaryKey : f.primaryKey = decide (.primaryKey ∈ said)
  nullable : f.nullable = decide (.nullable ∈ said)
  unique : f.unique = decide (.unique ∈ said)
  column : f.column.toList = said.filterMap FieldArgument.column?
  defaults : f.defaults = said.filterMap FieldArgument.default?
  mapper : (f.mapper.map (·.1)).toList = said.filterMap FieldArgument.mapper?
  storage : (f.storage.map (·.1)).toList = said.filterMap FieldArgument.storage?

theorem records_none : none.Records [] := ⟨rfl, rfl, rfl, rfl, rfl, rfl, rfl⟩

/-- An argument is taken unless it gives again what may be given once. -/
theorem records_take {f : FieldArguments} {before : List FieldArgument} (h : f.Records before)
    (pos : Position) (x : FieldArgument) :
    (∃ f', f.take pos x = some f' ∧ f'.Records (before ++ [x])) ∨
    (f.take pos x = .none ∧ ¬ FieldArgument.Fits (before ++ [x])) := by
  obtain ⟨hprimary, hnullable, hunique, hcolumn, hdefaults, hmapper, hstorage⟩ := h
  cases x with
  | primaryKey =>
      refine .inl ⟨_, rfl, ?_⟩
      constructor <;> simp [hnullable, hunique, hcolumn, hdefaults, hmapper, hstorage]
  | nullable =>
      refine .inl ⟨_, rfl, ?_⟩
      constructor <;> simp [hprimary, hunique, hcolumn, hdefaults, hmapper, hstorage]
  | unique =>
      refine .inl ⟨_, rfl, ?_⟩
      constructor <;> simp [hprimary, hnullable, hcolumn, hdefaults, hmapper, hstorage]
  | column name =>
      obtain ⟨hfree, hgiven⟩ | ⟨hheld, htwice⟩ := slot_cases hcolumn (x := .column name) rfl
      · refine .inl ⟨{ f with column := some name }, by simp [take, hfree], ?_⟩
        constructor <;> simp [hprimary, hnullable, hunique, ← hgiven, hdefaults, hmapper, hstorage]
      · exact .inr ⟨by simp [take, hheld], fun hfits => htwice hfits.column⟩
  | default expr =>
      refine .inl ⟨_, rfl, ?_⟩
      constructor <;> simp [hprimary, hnullable, hunique, hcolumn, hdefaults, hmapper, hstorage]
  | mapper path =>
      obtain ⟨hfree, hgiven⟩ | ⟨hheld, htwice⟩ := slot_cases hmapper (x := .mapper path) rfl
      · rw [Option.map_eq_none_iff] at hfree
        refine .inl ⟨{ f with mapper := some (path, pos) }, by simp [take, hfree], ?_⟩
        constructor <;> simp [hprimary, hnullable, hunique, hcolumn, hdefaults, ← hgiven, hstorage]
      · rw [Option.isNone_map] at hheld
        exact .inr ⟨by simp [take, hheld], fun hfits => htwice hfits.mapper⟩
  | storage tag =>
      obtain ⟨hfree, hgiven⟩ | ⟨hheld, htwice⟩ := slot_cases hstorage (x := .storage tag) rfl
      · rw [Option.map_eq_none_iff] at hfree
        refine .inl ⟨{ f with storage := some (tag, pos) }, by simp [take, hfree], ?_⟩
        constructor <;> simp [hprimary, hnullable, hunique, hcolumn, hdefaults, hmapper, ← hgiven]
      · rw [Option.isNone_map] at hheld
        exact .inr ⟨by simp [take, hheld], fun hfits => htwice hfits.storage⟩

instance localIn_argument (f : FieldArguments) : LocalIn (Leaves 0) (argument f) := by
  unfold argument
  refine localIn_here (fun pos => ?_) fun pos pos' s r unclosed hclosing h => ?_
  · refine LocalIn.bind inferInstance fun name => ?_
    unfold named
    split
    case h_7 =>
      refine LocalIn.bind inferInstance fun name => ?_
      split <;> infer_instance
    all_goals infer_instance
  · -- Behind the argument there is no name, so the place is not used.
    obtain ⟨e, he⟩ := optionName_closing names hclosing
    rw [bind_apply, he] at h
    cases h

theorem recording : Recording argument FieldArgument.read? FieldArgument.Fits Records where
  step := by
    intro f before arg unclosed _ hrecords
    rw [alone_argument]
    cases FieldArgument.read? arg with
    | none => exact .inr ⟨rfl, fun x hx => nomatch hx⟩
    | some x =>
        obtain ⟨f', htake, hrecords'⟩ | ⟨htake, hfits⟩ :=
          records_take hrecords (ParseState.start arg .start).pos x
        · exact .inl ⟨x, f', rfl, htake, hrecords'⟩
        · refine .inr ⟨htake, fun y hy => ?_⟩
          obtain rfl := Option.some.inj hy
          exact hfits
  before := FieldArgument.Fits.of_append

end FieldArguments

-- ============================================================== options

/-- What comes out of the arguments of a field. -/
def FieldOptions.saidBy (said : List FieldArgument) : FieldOptions where
  primaryKey := decide (.primaryKey ∈ said)
  nullable := decide (.nullable ∈ said)
  unique := decide (.unique ∈ said)
  column := said.findSome? FieldArgument.column?
  defaults := said.filterMap FieldArgument.default?
  conversion := (said.findSome? FieldArgument.mapper?).bind fun path =>
    (said.findSome? FieldArgument.storage?).map fun tag => (path, tag)

namespace FieldArguments

theorem Records.fits {f : FieldArguments} {said : List FieldArgument} (h : f.Records said) :
    FieldArgument.Fits said :=
  ⟨length_le_one h.column, length_le_one h.mapper, length_le_one h.storage⟩

theorem Records.accepted_iff {f : FieldArguments} {said : List FieldArgument}
    (h : f.Records said) :
    FieldArgument.Accepted said ↔ f.mapper.isSome = f.storage.isSome := by
  have hpaired : ((∃ path, .mapper path ∈ said) ↔ ∃ tag, .storage tag ∈ said) ↔
      f.mapper.isSome = f.storage.isSome := by
    rw [exists_mem_iff FieldArgument.mapper? fun x b => by cases x <;> simp,
      exists_mem_iff FieldArgument.storage? fun x b => by cases x <;> simp,
      findSome?_eq h.mapper, findSome?_eq h.storage, Option.isSome_map, Option.isSome_map]
    exact Bool.eq_iff_iff.symm
  exact ⟨fun haccepted => hpaired.1 haccepted.paired, fun hsome => ⟨h.fits, hpaired.2 hsome⟩⟩

/-- A mapper and its storage need each other; apart from that the options
are what has been said. -/
theorem Records.conversion_cases {f : FieldArguments} {said : List FieldArgument}
    (h : f.Records said) :
    (FieldArgument.Accepted said ∧ f.conversion = .ok (FieldOptions.saidBy said).conversion) ∨
    (¬ FieldArgument.Accepted said ∧ ∃ e, f.conversion = .error e) := by
  rw [h.accepted_iff]
  simp only [FieldOptions.saidBy, findSome?_eq h.mapper, findSome?_eq h.storage, conversion]
  cases f.mapper with
  | none => cases f.storage <;> simp
  | some mapper => cases f.storage <;> simp

end FieldArguments

/-- The attributes of a field give what the arguments say if all can be read
and are accepted, wherever they are written; otherwise they are refused. -/
theorem FieldOptions.ofAttributes_decided {args : List (List TokenTree)}
    {attrs : List Attribute} (hlaid : LaidOut args attrs) :
    Decided (args.map FieldArgument.read?) FieldArgument.Accepted FieldOptions.saidBy
      (FieldOptions.ofAttributes attrs).toOption := by
  have hrun : (FieldOptions.ofAttributes attrs).toOption =
      (FieldArguments.ofAttributes attrs).toOption >>= fun f =>
        f.conversion.toOption.map
          (⟨f.primaryKey, f.nullable, f.unique, f.column, f.defaults, ·⟩) := by
    rw [FieldOptions.ofAttributes, Attempt.toOption_bind]
    refine bind_congr fun f => ?_
    cases f.conversion <;> rfl
  rw [hrun]
  obtain ⟨said, f, hsaid, hrecords, hf⟩ | ⟨hnone, hnot⟩ :=
    FieldArguments.recording.attributes hlaid FieldArguments.records_none
  · rw [FieldArguments.ofAttributes, hf]
    obtain ⟨haccepted, hconversion⟩ | ⟨hrefused, e, he⟩ := hrecords.conversion_cases
    · refine .inl ⟨said, hsaid, haccepted, ?_⟩
      show f.conversion.toOption.map _ = _
      rw [hconversion, hrecords.primaryKey, hrecords.nullable, hrecords.unique, hrecords.defaults,
        ← findSome?_eq hrecords.column]
      rfl
    · refine .inr ⟨?_, fun said' hsaid' haccepted => hrefused ?_⟩
      · show f.conversion.toOption.map _ = _
        rw [he]
        rfl
      · rwa [said_unique hsaid hsaid']
  · exact .inr ⟨by rw [FieldArguments.ofAttributes, hnone]; rfl, fun said hsaid haccepted =>
      hnot said hsaid haccepted.toFits⟩

-- ================================================================ order

theorem FieldArgument.Fits.perm {said said' : List FieldArgument} (hperm : said.Perm said')
    (h : Fits said) : Fits said' := by
  constructor
  · exact (hperm.filterMap column?).length_eq ▸ h.column
  · exact (hperm.filterMap mapper?).length_eq ▸ h.mapper
  · exact (hperm.filterMap storage?).length_eq ▸ h.storage

theorem FieldArgument.Accepted.perm {said said' : List FieldArgument} (hperm : said.Perm said')
    (h : Accepted said) : Accepted said' := by
  refine ⟨h.toFits.perm hperm, ?_⟩
  simp only [← hperm.mem_iff]
  exact h.paired

/-- The order of the arguments of a field does not matter, except for that
of its defaults. -/
theorem FieldOptions.saidBy_eq_of_perm {said said' : List FieldArgument} (hperm : said.Perm said')
    (hdefaults : said.filterMap FieldArgument.default? = said'.filterMap FieldArgument.default?)
    (h : FieldArgument.Fits said) : saidBy said = saidBy said' := by
  simp only [saidBy, hperm.mem_iff, hdefaults, findSome?_eq_of_perm hperm h.column,
    findSome?_eq_of_perm hperm h.mapper, findSome?_eq_of_perm hperm h.storage]

/-- If the tokens that begin with the name keep their order, so do the
defaults. -/
theorem FieldArgument.reordered {args args' : List (List TokenTree)} (hperm : args.Perm args')
    (hdefaults : args.filter (Lookahead.word "default") =
      args'.filter (Lookahead.word "default")) :
    Reordered default? (args.map read?) (args'.map read?) := by
  refine .of_perm (fun arg harg => ?_) hperm hdefaults
  unfold read?
  split
  case h_5 => simp [Lookahead.word] at harg
  case h_4 value => cases text? value <;> rfl
  case h_6 value => cases text? value <;> rfl
  case h_7 value => cases (text? value).bind Storage.ofName? <;> rfl
  case h_8 => rfl
  all_goals simp only [bare?]; split <;> rfl

end Rowsmith.Source
