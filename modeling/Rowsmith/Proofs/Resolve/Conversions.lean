/-
Conversions that were resolved. A conversion is taken from the locator or from
the declaration of a field, without change, except that an enumeration must
have variants to be stored by them. So wherever a resolved schema converts
values, there is something to convert to (`Conversion.Filled`).
-/
import Rowsmith.Proofs.Resolve.Nesting

namespace Rowsmith

/-- A conversion of an enumeration knows its variants. -/
def Conversion.Filled : Conversion → Prop
  | .provided _ _ => True
  | .ordinal _ variants => variants ≠ []

section

variable {locator : Locator} {owner : Owner} {decl : FieldDecl} {conversion : Conversion}

/-- A conversion of an enumeration without variants is ruled out. -/
theorem filled_of_verdict?
    (h : verdict? locator owner decl = some (.settled (.mapped conversion))) :
    conversion.Filled := by
  unfold verdict? at h
  by_cases href : isReferenceType decl.type.valueType = true
  · rw [if_pos href] at h
    cases owner with
    | _ => cases h
  rw [if_neg href] at h
  by_cases hguard : (!(!decl.nullable || decl.type.isOption)) = true
  · rw [if_pos hguard] at h
    cases h
  rw [if_neg hguard] at h
  cases hmapper : locator.mapper? decl.type.valueType with
  | some mapper =>
      rw [hmapper] at h
      cases h
      trivial
  | none =>
      rw [hmapper] at h
      cases hnative : Storage.ofNative? decl.type.valueType with
      | some storage =>
          rw [hnative] at h
          cases h
      | none =>
          rw [hnative] at h
          cases hinline : decl.inline with
          | some inline =>
              rw [hinline] at h
              cases inline with
              | provided path storage =>
                  cases h
                  trivial
              | ordinal variants =>
                  dsimp only at h
                  split at h
                  case isTrue => cases h
                  case isFalse hvariants =>
                    cases h
                    exact fun hnone => hvariants (List.isEmpty_iff.2 hnone)
          | none =>
              rw [hinline] at h
              dsimp only at h
              split at h
              · split at h <;> cases h
              · split at h <;> cases h

theorem Verdict.Holds.conversion_filled {g : Grounds} {v : Verdict}
    (h : v.Holds g decl (.mapped conversion)) (hv : verdict? locator owner decl = some v) :
    conversion.Filled := by
  cases v with
  | settled y =>
      obtain rfl : Resolved.mapped conversion = y := h
      exact filled_of_verdict? hv
  | reference request =>
      obtain ⟨r, hx, -⟩ := h
      cases hx
  | nested type =>
      obtain ⟨s, hx, -⟩ := h
      cases hx

theorem TableField.ResolvedFrom.conversion_filled {g : Grounds} {request : TableRequest}
    {f : TableField} (h : f.ResolvedFrom locator g request decl) (hf : f.kind = .mapped conversion) :
    conversion.Filled := by
  obtain ⟨v, x, hv, hx, hresolves⟩ := h
  have hkind : (placeField decl x).2 = .mapped conversion := by
    rw [← hf, hresolves.eq]
  have hmapped : x = .mapped conversion := by
    cases x with
    | mapped c => exact congrArg Resolved.mapped (FieldKind.mapped.inj hkind)
    | _ => cases hkind
  exact Verdict.Holds.conversion_filled (hmapped ▸ hx) hv

theorem Part.ResolvedFrom.conversion_filled {nests : TypeExpr → Structure → Prop} {type : TypeExpr}
    {head : PartHead}
    (h : Part.ResolvedFrom locator nests type decl (.mapped head conversion)) :
    conversion.Filled := by
  obtain ⟨v, x, hv, hx, hfor⟩ := h
  cases x with
  | mapped c =>
      cases hfor
      exact hx.conversion_filled hv
  | adapted adapter => cases (Option.ite_none_left_eq_some.1 hfor).2
  | nested s => cases (Option.ite_none_left_eq_some.1 hfor).2
  | _ => cases hfor

end

end Rowsmith
