/-
The keys under which declarations are known. The path of a declaration is
a text, and a catalog knows types by expressions: the text is read as one.
Path characters are letters, digits and underscores, while a name may also
hold marks that combine with letters. A path with such a mark is not read
as a path type but kept as it is, so that its expression has the same text
and another shape (`ofText_joinPath`).

Every structure and every enumeration that is collected is then found
under its key: a structure is declared or known as one that cannot be
stored (`catalogOf_struct`), an enumeration is known by its variants or as
one that cannot be stored (`catalogOf_enum`). What is found early stays,
since a catalog is only ever added to (`Catalog.Extends`).
-/
import Rowsmith.Proofs.Source.Catalogs
import Rowsmith.Proofs.Source.Names
import Rowsmith.Proofs.TypeExpr.Printing

namespace Rowsmith

open Text Attempt

-- ================================================================= texts

/-- No blank stands in a name. -/
theorem Text.isBlank_of_isIdentContinue {c : Char} (h : isIdentContinue c = true) :
    isBlank c = false :=
  isBlank_eq_false (by decide +kernel) h

namespace TypeExpr

/-- A text of names and colons that begins and ends with a name is a path
type if it holds no mark, and otherwise it is kept as it is. -/
theorem ofText_of_names {text : String} {c : Char} {rest : List Char}
    (htext : text.toList = c :: rest) (hc : isIdentContinue c = true)
    (hlast : text.toList.getLast? ≠ some ':')
    (hall : ∀ d ∈ text.toList, d = ':' ∨ isIdentContinue d = true) :
    ofText text =
      .ok (if text.toList.all isPathChar then named text else verbatim .other text) := by
  have hstart : skipBlanks text.toList = .ok text.toList := by
    rw [htext, skipBlanks_cons (isBlank_of_isIdentContinue hc)]
  unfold ofText read
  dsimp only
  rw [readType, hstart]
  dsimp only [bind, Except.bind]
  by_cases hpath : text.toList.all isPathChar = true
  · have htake : text.toList.takeWhile isPathChar = text.toList :=
      List.takeWhile_eq_self_iff.2 (List.all_eq_true.1 hpath)
    have hdrop : text.toList.dropWhile isPathChar = [] :=
      List.dropWhile_eq_nil_iff.2 (List.all_eq_true.1 hpath)
    have htext' : isPathText text.toList = true := by
      have hfirst : c ≠ ':' := by
        rintro rfl
        cases hc
      unfold isPathText
      simp only [Bool.and_eq_true, bne_iff_ne]
      refine ⟨⟨?_, ?_⟩, hlast⟩
      · rw [htext]
        rfl
      · rw [htext, List.head?_cons]
        exact fun h => hfirst (Option.some.inj h)
    rw [htake, hdrop, htext', if_pos rfl, if_pos hpath, String.ofList_toList]
    rfl
  · obtain ⟨d, rest', hdrop⟩ := List.exists_cons_of_ne_nil
      (mt List.dropWhile_eq_nil_iff.1 (mt List.all_eq_true.2 hpath))
    have hd : isPathChar d = false := by
      have hhead := List.head?_dropWhile_not isPathChar text.toList
      rwa [hdrop] at hhead
    have hmem : d ∈ text.toList := (List.dropWhile_sublist _).mem (hdrop ▸ List.mem_cons_self)
    have hcontinue : isIdentContinue d = true := by
      refine (hall d hmem).resolve_left ?_
      rintro rfl
      cases hd
    have hbracket : d ≠ '<' := by
      rintro rfl
      cases hcontinue
    have hstop := skipBlanks_cons (isBlank_of_isIdentContinue hcontinue) rest'
    rw [hdrop, if_neg hpath, hstop]
    -- the reader stops at the mark, with a path or without
    by_cases hrun : isPathText (text.toList.takeWhile isPathChar) = true
    · rw [if_pos hrun]
      simp only [List.cons.injEq, hbracket, false_and, imp_self, implies_true, pure, Except.pure,
        hstop, List.isEmpty_cons, Bool.false_eq_true, ↓reduceIte]
      rfl
    · rw [if_neg hrun]
      rfl

end TypeExpr

-- ================================================================= paths

namespace Source

variable {M l : List String} {n : String}

/-- A path holds colons and the characters of its names. -/
theorem mem_joinPath {d : Char} (h : d ∈ (joinPath l).toList) :
    d = ':' ∨ ∃ n ∈ l, d ∈ n.toList := by
  induction l with
  | nil => cases h
  | cons n l ih =>
      cases l with
      | nil =>
          have hone : joinPath [n] = n := String.intercalate_singleton
          rw [hone] at h
          exact Or.inr ⟨n, List.mem_cons_self, h⟩
      | cons n' l =>
          rw [joinPath_cons_cons, String.toList_append, String.toList_append, List.mem_append,
            List.mem_append] at h
          rcases h with (hn | hcolons) | hrest
          · exact Or.inr ⟨n, List.mem_cons_self, hn⟩
          · have hcolon : "::".toList = List.replicate 2 ':' := rfl
            rw [hcolon] at hcolons
            exact Or.inl (List.eq_of_mem_replicate hcolons)
          · refine (ih hrest).imp_right ?_
            rintro ⟨n'', hn'', hd⟩
            exact ⟨n'', List.mem_cons_of_mem n hn'', hd⟩

/-- A path begins with its first name. -/
theorem joinPath_cons (n : String) (l : List String) : ∃ rest, joinPath (n :: l) = n ++ rest := by
  cases l with
  | nil => exact ⟨"", by rw [String.append_empty]; exact String.intercalate_singleton⟩
  | cons n' l => exact ⟨"::" ++ joinPath (n' :: l), by rw [joinPath_cons_cons, String.append_assoc]⟩

/-- A path ends with its last name. -/
theorem joinPath_concat (hM : ∀ n ∈ M, IsSegment n) (n : String) :
    ∃ before, joinPath (M ++ [n]) = before ++ n := by
  rw [← pathIn_joinPath hM]
  unfold pathIn
  split
  · exact ⟨"", String.empty_append.symm⟩
  · exact ⟨joinPath M ++ "::", rfl⟩

/-- A path of names is read as a path type if it holds no mark, and otherwise
kept as it is. -/
theorem ofText_joinPath_eq (hM : ∀ n ∈ M, IsName n) (hn : IsName n) :
    TypeExpr.ofText (joinPath (M ++ [n])) =
      .ok (if (joinPath (M ++ [n])).toList.all TypeExpr.isPathChar then
        .named (joinPath (M ++ [n])) else .verbatim .other (joinPath (M ++ [n]))) := by
  have hall : ∀ n' ∈ M ++ [n], IsName n' :=
    List.forall_mem_append.2 ⟨hM, List.forall_mem_singleton.2 hn⟩
  have hchars : ∀ d ∈ (joinPath (M ++ [n])).toList, d = ':' ∨ isIdentContinue d = true := by
    intro d hd
    refine (mem_joinPath hd).imp_right ?_
    rintro ⟨n', hn', hmem⟩
    obtain ⟨-, -, -, -, hname⟩ := (hall n' hn').chars
    exact hname d hmem
  obtain ⟨n₀, l, hl⟩ := List.exists_cons_of_ne_nil (List.append_ne_nil_of_right_ne_nil M
    (List.cons_ne_nil n []))
  obtain ⟨c, rest, hn₀, hc, -⟩ := (hall n₀ (hl ▸ List.mem_cons_self)).chars
  obtain ⟨more, hmore⟩ := joinPath_cons n₀ l
  have hstart : (joinPath (M ++ [n])).toList = c :: (rest ++ more.toList) := by
    rw [hl, hmore, String.toList_append, hn₀, List.cons_append]
  refine TypeExpr.ofText_of_names hstart (isIdentContinue_of_isIdentStart hc) ?_ hchars
  obtain ⟨before, hbefore⟩ := joinPath_concat (fun n' hn' => (hM n' hn').isSegment) n
  have hne : n.toList ≠ [] := fun h => hn.ne_empty (String.toList_inj.1 h)
  rw [hbefore, String.toList_append, List.getLast?_append_of_ne_nil _ hne]
  intro hcolon
  exact hn.isSegment.noColon (List.mem_of_getLast? hcolon)

/-- The key of a declaration has the text of its path. It is a path type if
no name in it holds a mark. -/
theorem ofText_joinPath (hM : ∀ n ∈ M, IsName n) (hn : IsName n) :
    ∃ type, TypeExpr.ofText (joinPath (M ++ [n])) = .ok type ∧ type.path = joinPath (M ++ [n]) ∧
      (type = .named (joinPath (M ++ [n])) ↔
        ∀ d ∈ (joinPath (M ++ [n])).toList, TypeExpr.isPathChar d = true) := by
  refine ⟨_, ofText_joinPath_eq hM hn, ?_⟩
  rw [← List.all_eq_true]
  split
  case isTrue h => exact ⟨rfl, fun _ => h, fun _ => rfl⟩
  case isFalse h => exact ⟨rfl, (fun hnamed => nomatch hnamed), fun hpath => absurd hpath h⟩

end Source

-- ============================================================== catalogs

namespace Catalog

variable {catalog catalog' : Catalog}

/-- What is known of a type is still known: a declaration stands, and a type
that cannot be stored is known as one. -/
structure Extends (catalog catalog' : Catalog) : Prop where
  declared : ∀ d ∈ catalog.decls, d ∈ catalog'.decls
  rejected : ∀ type, (findAssoc? catalog.unsupported type).isSome = true →
    (findAssoc? catalog'.unsupported type).isSome = true

theorem Extends.refl (catalog : Catalog) : catalog.Extends catalog :=
  ⟨fun _ hd => hd, fun _ h => h⟩

theorem isSome_reject (catalog : Catalog) (type : TypeExpr) (reason : String) :
    (findAssoc? (catalog.reject type reason).unsupported type).isSome = true := by
  unfold reject
  rw [findAssoc?_putAssoc, if_pos rfl]
  rfl

theorem extends_reject (catalog : Catalog) (type : TypeExpr) (reason : String) :
    catalog.Extends (catalog.reject type reason) where
  declared _ hd := hd
  rejected type' h := by
    unfold reject
    rw [findAssoc?_putAssoc]
    split
    · rfl
    · exact h

/-- A structure is known: it is declared with the types of its fields, or as
one that cannot be stored. -/
def Knows (catalog : Catalog) (type : TypeExpr) (fields : List TypeExpr) : Prop :=
  (∃ d ∈ catalog.decls, d.type = type ∧ d.fields.map (·.type) = fields) ∨
    (findAssoc? catalog.unsupported type).isSome = true

theorem Extends.knows {type : TypeExpr} {fields : List TypeExpr} (h : catalog.Extends catalog')
    (hknown : catalog.Knows type fields) : catalog'.Knows type fields := by
  refine hknown.imp ?_ (h.rejected type)
  rintro ⟨d, hd, htype⟩
  exact ⟨d, h.declared d hd, htype⟩

end Catalog

namespace Source

variable {c : Collected} {catalog catalog' : Catalog} {s : Placed StructItem} {e : Placed EnumItem}

/-- The types of the fields of a structure, with their paths made relative to
the crate. -/
def Collected.fieldTypes (c : Collected) (s : Placed StructItem) : List TypeExpr :=
  s.item.namedFields.map fun f => (c.scopeOf s.module).canonical f.type

/-- The fields of a structure that is declared have the types that are
written for them. -/
theorem describeStruct_types {type : TypeExpr} {d : StructDecl}
    (h : describeStruct c s type = .declared d) : d.fields.map (·.type) = c.fieldTypes s := by
  obtain ⟨-, hfields⟩ := describeStruct_eq_declared h
  exact (Related.map_eq hfields fun _ _ hfield => (describeField_eq_ok hfield).2.1.symm).symm

theorem addStruct_extends (h : addStruct c catalog s = .ok catalog') :
    catalog.Extends catalog' := by
  obtain ⟨type, -, ⟨d, -, -, rfl⟩ | ⟨reason, -, rfl⟩⟩ := addStruct_eq_ok.1 h
  · exact ⟨fun _ hd => List.mem_append_left _ hd, fun _ h => h⟩
  · exact Catalog.extends_reject catalog type reason

theorem addEnum_extends (h : addEnum catalog e = .ok catalog') : catalog.Extends catalog' := by
  obtain ⟨-, rfl⟩ | ⟨-, type, -, rfl⟩ := addEnum_eq_ok.1 h
  · exact .refl catalog'
  · exact Catalog.extends_reject catalog type _

/-- Every structure that is collected is known under the key of its path. -/
theorem catalogOf_struct (h : catalogOf c = .ok catalog) (hs : s ∈ c.structs) :
    ∃ type, TypeExpr.ofText (Collected.structPath s) = .ok type ∧
      catalog.Knows type (c.fieldTypes s) := by
  obtain ⟨start, -, h⟩ := bind_eq_ok.1 h
  refine foldlM_reaches (fun catalog : Catalog => ∃ type,
    TypeExpr.ofText (Collected.structPath s) = .ok type ∧ catalog.Knows type (c.fieldTypes s))
    ?_ hs ?_ h
  · rintro s' - catalog catalog' ⟨type, htype, hknown⟩ hadd
    exact ⟨type, htype, (addStruct_extends hadd).knows hknown⟩
  · intro catalog catalog' hadd
    obtain ⟨type, htype, hadded⟩ := addStruct_eq_ok.1 hadd
    refine ⟨type, htype, ?_⟩
    obtain ⟨d, hdescribed, -, rfl⟩ | ⟨reason, -, rfl⟩ := hadded
    · have hd : d ∈ catalog.decls ++ [d] := List.mem_append_right _ List.mem_cons_self
      exact Or.inl ⟨d, hd, (describeStruct_eq_declared hdescribed).1,
        describeStruct_types hdescribed⟩
    · exact Or.inr (Catalog.isSome_reject catalog type reason)

/-- Every enumeration that is collected is known under the path it is declared
at: its variants by the path, or the type as one that cannot be stored. -/
theorem catalogOf_enum (h : catalogOf c = .ok catalog) (he : e ∈ c.enums) :
    (findAssoc? c.ordinals (Collected.enumPath e)).isSome = true ∨
      ∃ type, TypeExpr.ofText (Collected.enumPath e) = .ok type ∧
        (findAssoc? catalog.unsupported type).isSome = true := by
  by_cases hunit : e.item.isUnit = true
  · exact Or.inl (Collected.isSome_ordinals he hunit)
  · right
    obtain ⟨start, hstart, h⟩ := bind_eq_ok.1 h
    have hstarted : ∃ type, TypeExpr.ofText (Collected.enumPath e) = .ok type ∧
        (findAssoc? start.unsupported type).isSome = true := by
      refine foldlM_reaches (fun catalog : Catalog => ∃ type,
        TypeExpr.ofText (Collected.enumPath e) = .ok type ∧
          (findAssoc? catalog.unsupported type).isSome = true) ?_ he ?_ hstart
      · rintro e' - catalog catalog' ⟨type, htype, hknown⟩ hadd
        exact ⟨type, htype, (addEnum_extends hadd).rejected type hknown⟩
      · intro catalog catalog' hadd
        obtain ⟨hdata, -⟩ | ⟨-, type, htype, rfl⟩ := addEnum_eq_ok.1 hadd
        · exact absurd hdata hunit
        · exact ⟨type, htype, Catalog.isSome_reject catalog type _⟩
    obtain ⟨type, htype, hknown⟩ := hstarted
    refine ⟨type, htype, ?_⟩
    refine foldlM_keeps (fun catalog : Catalog =>
      (findAssoc? catalog.unsupported type).isSome = true) ?_ hknown h
    intro s _ catalog catalog' hrejected hadd
    exact (addStruct_extends hadd).rejected type hrejected

end Source

end Rowsmith
