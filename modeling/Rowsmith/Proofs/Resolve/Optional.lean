/-
Optional types are looked through.

Every test that decides how a field is stored is made on the type of its
values, and the names of its columns do not depend on a type at all. The
declared type itself is asked for only where a field may be refused: by the
check that goes with the mark that the field may be null, and by the check
that an absent structure can be told from one whose columns are all null.
So the verdict on an optional field is the verdict on the field with the
type it is over (`verdict?_optional`), unless that one is refused for its
mark, and the two are resolved by the same steps (`resolveField_optional`).

Only success is compared step by step. A field that is refused is so for
one of these two reasons, or because neither of the two fields can be
resolved.

Main result: `option_transparent`.
-/
import Rowsmith.Proofs.Attempt
import Rowsmith.Proofs.Resolve.Outcome

namespace Rowsmith

variable {env : Setting} {request : TableRequest} {f : FieldDecl} {optional : TypeExpr}
  {p p' : Progress}

-- ================================================================= types

/-- An optional type is over the type of its values. -/
theorem TypeExpr.optionInner?_eq_some {t optional : TypeExpr}
    (h : optional.optionInner? = some t) :
    optional.isOption = true ∧ optional.valueType = t := by
  unfold isOption valueType
  rw [h]
  exact ⟨rfl, rfl⟩

/-- The same field with another type. -/
def FieldDecl.withType (f : FieldDecl) (type : TypeExpr) : FieldDecl := { f with type := type }

-- ================================================================= marks

/-- The mark that a field may be null is refused: its type is not optional,
and it is no reference, of which this is not asked. -/
def FieldDecl.MarkRefused (f : FieldDecl) : Prop :=
  f.nullable = true ∧ f.type.isOption = false ∧ isReferenceType f.type.valueType = false

/-- The failure of a field whose mark is refused. -/
def markRefusal (owner : Owner) (f : FieldDecl) : Failure :=
  .structural ("nullable field `" ++ f.name ++ "` of `" ++ owner.name ++
    "` must be declared as `Option<" ++ f.type.print ++ ">`")

/-- The mark is looked at before all else. -/
theorem resolveField_of_markRefused {nest : TypeExpr → Step Structure} {owner : Owner}
    (h : f.MarkRefused) : resolveField env nest owner f p = .error (markRefusal owner f) := by
  obtain ⟨hmark, htype, hreference⟩ := h
  unfold resolveField
  dsimp only
  rw [hreference, hmark, htype]
  rfl

-- ======================================================== classification

theorem resolveReference_withType (hvalue : optional.valueType = f.type.valueType) :
    resolveReference env request (f.withType optional) = resolveReference env request f := by
  unfold resolveReference FieldDecl.withType
  dsimp only
  rw [hvalue]
  rfl

/-- The verdict on an optional field is that on the field with the type of
its values. -/
theorem verdict?_optional {locator : Locator} {owner : Owner}
    (hoption : optional.isOption = true) (hvalue : optional.valueType = f.type.valueType)
    (hmark : ¬ f.MarkRefused) :
    verdict? locator owner (f.withType optional) = verdict? locator owner f := by
  unfold verdict? FieldDecl.withType
  dsimp only
  rw [hvalue, hoption]
  by_cases hreference : isReferenceType f.type.valueType = true
  · rw [if_pos hreference, if_pos hreference]
  · have hallowed : (!f.nullable || f.type.isOption) = true := by
      cases hnullable : f.nullable with
      | false => rfl
      | true =>
          cases htype : f.type.isOption with
          | true => rfl
          | false => exact absurd ⟨hnullable, htype, Bool.eq_false_iff.2 hreference⟩ hmark
    rw [if_neg hreference, if_neg hreference, hallowed, Bool.or_true]

theorem Verdict.yields_withType {nest : TypeExpr → Step Structure} {x : Resolved} {v : Verdict}
    (hvalue : optional.valueType = f.type.valueType) :
    v.Yields env nest (f.withType optional) p x p' ↔ v.Yields env nest f p x p' := by
  cases v with
  | settled y => exact Iff.rfl
  | nested type => exact Iff.rfl
  | reference request => simp only [Yields, resolveReference_withType hvalue]

/-- An optional field is resolved as the field with the type of its
values. -/
theorem resolveField_optional {nest : TypeExpr → Step Structure} {owner : Owner} {x : Resolved}
    (hoption : optional.isOption = true) (hvalue : optional.valueType = f.type.valueType)
    (hmark : ¬ f.MarkRefused) :
    resolveField env nest owner (f.withType optional) p = .ok (x, p') ↔
      resolveField env nest owner f p = .ok (x, p') := by
  rw [resolveField_eq_ok, resolveField_eq_ok, verdict?_optional hoption hvalue hmark]
  simp only [Verdict.yields_withType hvalue]

-- ================================================================ tables

/-- The field nests a structure in which no column is always set. -/
def TableField.NestsNullable (field : TableField) (structured : Structure) : Prop :=
  field.kind = .nested structured ∧ structured.hasRequiredColumn = false

/-- The failure of an optional field that nests such a structure. -/
def nullableRefusal (request : TableRequest) (f : FieldDecl) (structured : Structure) : Failure :=
  .structural ("optional field `" ++ f.name ++ "` of `" ++ request.modelName ++ "` nests `" ++
    structured.type.print ++ "`, whose columns are all nullable")

theorem tableField_nullable {structured : Structure} (hoption : f.type.isOption = true)
    (hrequired : structured.hasRequiredColumn = false)
    (h : resolveField env (structureOf env) (.model request) f p = .ok (.nested structured, p')) :
    tableField env request f p = .error (nullableRefusal request f structured) := by
  unfold tableField
  show (resolveField env (structureOf env) (.model request) f p >>= fun r => _) = _
  rw [h]
  show (Step.require (!f.type.isOption || structured.hasRequiredColumn) _ p' >>= fun r => _) = _
  rw [hoption, hrequired]
  rfl

/-- Only structures are nested. -/
theorem nested_of_placeField {x : Resolved} {structured : Structure}
    (h : (placeField f x).2 = .nested structured) : x = .nested structured := by
  cases x with
  | nested s => rw [FieldKind.nested.inj h]
  | _ => cases h

/-- Optional types are looked through. Take a field whose type is not
optional, with the same field of an optional type over it. Where the first
is resolved, the second is resolved with the same columns, stored in the
same way, may be null, and leaves the run where the first leaves it; but if
a structure is nested in which no column is always set, it is refused. And
where the first is refused, it is for the mark that it may be null, or the
second is refused as well. -/
theorem option_transparent (env : Setting) (request : TableRequest) (f : FieldDecl)
    (optional : TypeExpr) (hoption : optional.optionInner? = some f.type)
    (hplain : f.type.isOption = false) (p : Progress) :
    (∀ field p', tableField env request f p = .ok (field, p') →
      (∀ structured, field.NestsNullable structured →
        tableField env request (f.withType optional) p =
          .error (nullableRefusal request f structured)) ∧
      ((∀ structured, ¬ field.NestsNullable structured) →
        tableField env request (f.withType optional) p =
          .ok ({ field with type := optional, nullable := true }, p'))) ∧
    ∀ e, tableField env request f p = .error e →
      (f.MarkRefused ∧ e = markRefusal (.model request) f) ∨
        ∃ e', tableField env request (f.withType optional) p = .error e' := by
  obtain ⟨hisOption, hinner⟩ := TypeExpr.optionInner?_eq_some hoption
  have hvalue : optional.valueType = f.type.valueType := by
    rw [hinner, TypeExpr.valueType_of_not_isOption (Bool.eq_false_iff.1 hplain)]
  constructor
  · intro field p' h
    obtain ⟨x, hx, hfield⟩ := tableField_eq_ok.1 h
    have hmark : ¬ f.MarkRefused := by
      intro hrefused
      rw [resolveField_of_markRefused hrefused] at hx
      cases hx
    replace hx := (resolveField_optional hisOption hvalue hmark).2 hx
    have hkind : field.kind = (placeField f x).2 := by rw [hfield.eq]
    constructor
    · intro structured ⟨hnested, hrequired⟩
      obtain rfl := nested_of_placeField (hkind.symm.trans hnested)
      exact tableField_nullable hisOption hrequired hx
    · intro hnone
      refine tableField_eq_ok.2 ⟨x, hx, ?_, ?_, hfield.defaults⟩
      · have hnullable : (f.nullable || optional.isOption) = true := by
          rw [hisOption, Bool.or_true]
        rw [hfield.eq]
        show TableField.mk _ _ _ _ _ true _ _ =
          TableField.mk _ _ _ _ _ (f.nullable || optional.isOption) _ _
        rw [hnullable]
        rfl
      · intro structured hnested
        subst hnested
        have hrequired : structured.hasRequiredColumn = true := by
          by_contra hnot
          exact hnone structured ⟨hkind, Bool.eq_false_iff.2 hnot⟩
        rw [hrequired, Bool.or_true]
  · intro e h
    by_cases hmark : f.MarkRefused
    · refine Or.inl ⟨hmark, ?_⟩
      unfold tableField at h
      replace h : (resolveField env (structureOf env) (.model request) f p >>= fun r => _) =
        .error e := h
      rw [resolveField_of_markRefused hmark] at h
      exact (Except.error.inj h).symm
    · refine Or.inr ?_
      cases hoptional : tableField env request (f.withType optional) p with
      | error e' => exact ⟨e', rfl⟩
      | ok r =>
          obtain ⟨x, hx, hfield⟩ := tableField_eq_ok.1 hoptional
          have hresolved : tableField env request f p = _ := tableField_eq_ok.2
            ⟨x, (resolveField_optional hisOption hvalue hmark).1 hx, rfl,
              fun structured _ => by rw [hplain]; rfl, hfield.defaults⟩
          cases hresolved.symm.trans h

/-- A setting in which a place is described, whose only column is always
set, and a note, whose only column is not. -/
def placesAndNotes : Setting where
  answers := fun _ type =>
    if type = .named "Place" then .ok [.plain "zip" (.named "i32")]
    else if type = .named "Note" then .ok [.plain "text" (.option (.named "String"))]
    else .error (.adhoc "unknown")
  room := 1
  locator := Registry.empty.locator
  models := []
  lookup := []

/-- Whether the structure that a field nests has a required column. -/
def FieldKind.nestsRequired? : FieldKind → Option Bool
  | .nested structured => some structured.hasRequiredColumn
  | _ => none

theorem FieldKind.nestsRequired?_eq_some {kind : FieldKind} {required : Bool} :
    kind.nestsRequired? = some required ↔
      ∃ structured, kind = .nested structured ∧ structured.hasRequiredColumn = required := by
  cases kind <;> simp [nestsRequired?]

/-- A place may be optional. A note may not be, and neither may a reference
to a model that there is not; and a mark on a number is refused. -/
theorem option_transparent_letter :
    let request : TableRequest := .ofModel (.named "Letter")
    let place : FieldDecl := .plain "place" (.named "Place")
    let note : FieldDecl := .plain "note" (.named "Note")
    let sender : FieldDecl := .plain "sender" (.generic "ForeignInt" [.named "User"])
    let weight : FieldDecl := { FieldDecl.plain "weight" (.named "i32") with nullable := true }
    (∃ field p', tableField placesAndNotes request (place.withType (.option place.type)) .start =
        .ok (field, p') ∧ field.columns = [⟨"place_zip", .int⟩] ∧ field.nullable = true) ∧
      (∃ structured, tableField placesAndNotes request (note.withType (.option note.type)) .start =
        .error (nullableRefusal request note structured)) ∧
      (∃ e, tableField placesAndNotes request (sender.withType (.option sender.type)) .start =
        .error e) ∧
      weight.MarkRefused := by
  intro request place note sender weight
  have hplace : (tableField placesAndNotes request place .start).toOption.any (fun r =>
      r.1.columns == [⟨"place_zip", .int⟩] && r.1.kind.nestsRequired? == some true) = true := by
    decide +kernel
  have hnote : (tableField placesAndNotes request note .start).toOption.any (fun r =>
      r.1.kind.nestsRequired? == some false) = true := by decide +kernel
  have hsender : (tableField placesAndNotes request sender .start).toOption.isNone = true := by
    decide +kernel
  refine ⟨?_, ?_, ?_, ?_⟩
  · obtain ⟨⟨field, p'⟩, hfield, hchecked⟩ := (Option.any_eq_true _ _).1 hplace
    obtain ⟨hcolumns, hrequired⟩ := Bool.and_eq_true_iff.1 hchecked
    obtain ⟨-, hoptional⟩ := (option_transparent placesAndNotes request place
      (.option place.type) rfl rfl .start).1 _ _ (Attempt.toOption_eq_some.1 hfield)
    refine ⟨_, p', hoptional fun structured h => ?_, eq_of_beq hcolumns, rfl⟩
    obtain ⟨_, hkind, hrequired⟩ := FieldKind.nestsRequired?_eq_some.1 (eq_of_beq hrequired)
    obtain rfl := FieldKind.nested.inj (h.1.symm.trans hkind)
    exact Bool.eq_false_iff.1 h.2 hrequired
  · obtain ⟨⟨field, p'⟩, hfield, hchecked⟩ := (Option.any_eq_true _ _).1 hnote
    obtain ⟨hnullable, -⟩ := (option_transparent placesAndNotes request note
      (.option note.type) rfl rfl .start).1 _ _ (Attempt.toOption_eq_some.1 hfield)
    obtain ⟨structured, hkind, hrequired⟩ :=
      FieldKind.nestsRequired?_eq_some.1 (eq_of_beq hchecked)
    exact ⟨structured, hnullable _ ⟨hkind, hrequired⟩⟩
  · cases hresolved : tableField placesAndNotes request sender .start with
    | ok r =>
        rw [hresolved] at hsender
        cases hsender
    | error e =>
        obtain h | h := (option_transparent placesAndNotes request sender
          (.option sender.type) rfl rfl .start).2 _ hresolved
        · exact absurd h.1.1 (by decide)
        · exact h
  · exact ⟨rfl, rfl, by decide +kernel⟩

end Rowsmith
