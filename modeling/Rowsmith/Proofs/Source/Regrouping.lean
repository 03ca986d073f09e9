/-
Arguments may be regrouped.

The lists of arguments decide, for fields (`FieldOptions.ofAttributes_decided`)
as for structures (`StructOptions.ofAttributes_decided`): two layouts of the
same arguments differ in nothing but their order, and of the order only that
of defaults and keys is kept in the options.
-/
import Rowsmith.Proofs.Source.FieldArguments
import Rowsmith.Proofs.Source.StructArguments

namespace Rowsmith.Source

/-- Arguments may be written in any grouping and order. Those of a field are
read if each can be read, what may be given once is, and a mapper and its
storage are given together; those of a structure if each can be read and
what may be given once is. Whatever the attributes are over which they are
distributed, and in whatever order as long as the defaults of a field and
the keys of a structure keep theirs, they give the same options or are
refused. -/
theorem arguments_regroup :
    (∀ {args : List (List TokenTree)} {attrs : List Attribute}, LaidOut args attrs →
      ((∃ o, FieldOptions.ofAttributes attrs = .ok o) ↔
        ∃ said, args.map FieldArgument.read? = said.map some ∧ FieldArgument.Accepted said) ∧
      ∀ {args' : List (List TokenTree)} {attrs' : List Attribute}, LaidOut args' attrs' →
        Reordered FieldArgument.default? (args.map FieldArgument.read?)
          (args'.map FieldArgument.read?) →
        (FieldOptions.ofAttributes attrs).toOption = (FieldOptions.ofAttributes attrs').toOption) ∧
    ∀ {args : List (List TokenTree)} {attrs : List Attribute}, LaidOut args attrs →
      ownAttributes attrs ≠ [] →
      ((∃ o, StructOptions.ofAttributes attrs = .ok o) ↔
        ∃ said, StructArgument.readAll args = said.map some ∧ StructArgument.Accepted said) ∧
      ∀ {args' : List (List TokenTree)} {attrs' : List Attribute}, LaidOut args' attrs' →
        ownAttributes attrs' ≠ [] →
        Reordered StructArgument.key? (StructArgument.readAll args)
          (StructArgument.readAll args') →
        (StructOptions.ofAttributes attrs).toOption =
          (StructOptions.ofAttributes attrs').toOption := by
  refine ⟨fun {args attrs} hlaid => ?_, fun {args attrs} hlaid hown => ?_⟩
  · have hdecided := FieldOptions.ofAttributes_decided hlaid
    refine ⟨Attempt.exists_ok_iff.trans hdecided.isSome_iff, fun hlaid' horder => ?_⟩
    refine hdecided.eq_of_reordered (FieldOptions.ofAttributes_decided hlaid') horder ?_
    exact fun hperm hdefaults haccepted => ⟨haccepted.perm hperm,
      FieldOptions.saidBy_eq_of_perm hperm hdefaults haccepted.toFits⟩
  · have hdecided := StructOptions.ofAttributes_decided hlaid hown
    refine ⟨Attempt.exists_ok_iff.trans hdecided.isSome_iff, fun hlaid' hown' horder => ?_⟩
    refine hdecided.eq_of_reordered (StructOptions.ofAttributes_decided hlaid' hown') horder ?_
    exact fun hperm hkeys haccepted => ⟨haccepted.perm hperm,
      congrArg some (StructOptions.saidBy_eq_of_perm hperm hkeys haccepted)⟩

/-- An option with a text, as tokens. -/
def textOption (name text : String) : List TokenTree :=
  [.word .start name, .punct .start '=' false, .literal .start text]

/-- The key `Pair<A, B>`, with a comma inside the argument. -/
def pairKey : List TokenTree :=
  [.word .start "key", .punct .start '=' false, .word .start "Pair", .punct .start '<' false,
    .word .start "A", .punct .start ',' false, .word .start "B", .punct .start '>' false]

def commaToken : TokenTree := .punct .start ',' false

def ownAttribute (tokens : List TokenTree) : Attribute :=
  ⟨.start, [attributeName], .listed tokens .start⟩

/-- A field with a unique column and two defaults, in one attribute. -/
def fieldTogether : List Attribute :=
  [ownAttribute ([.word .start "unique"] ++ commaToken ::
    (textOption "default" "\"0\"" ++ commaToken :: textOption "default" "\"1\""))]

/-- The same field with its arguments in two, and another attribute between
them. -/
def fieldApart : List Attribute :=
  [ownAttribute (textOption "default" "\"0\"" ++ commaToken :: []), ⟨.start, ["serde"], .bare⟩,
    ownAttribute (textOption "default" "\"1\"" ++ commaToken :: [.word .start "unique"])]

/-- A model with a table and a key, in one attribute. -/
def modelTogether : List Attribute :=
  [ownAttribute ([.word .start "model"] ++ commaToken ::
    (textOption "table" "\"songs\"" ++ commaToken :: pairKey))]

def modelApart : List Attribute :=
  [ownAttribute (pairKey ++ commaToken :: [.word .start "model"]),
    ownAttribute (textOption "table" "\"songs\"" ++ commaToken :: [])]

theorem arguments_regroup_song :
    (FieldOptions.ofAttributes fieldTogether).toOption =
      (FieldOptions.ofAttributes fieldApart).toOption ∧
    (∃ o, FieldOptions.ofAttributes fieldTogether = .ok o) ∧
    (StructOptions.ofAttributes modelTogether).toOption =
      (StructOptions.ofAttributes modelApart).toOption ∧
    (∃ o, StructOptions.ofAttributes modelTogether = .ok o) := by
  have hfield : LaidOut ([[.word .start "unique"], textOption "default" "\"0\"",
      textOption "default" "\"1\""] ++ []) fieldTogether :=
    .own (.more (by decide) (by decide) (.more (by decide) (by decide)
      (.last (by decide) rfl))) .none
  have hfieldApart : LaidOut ([textOption "default" "\"0\""] ++ ([textOption "default" "\"1\"",
      [.word .start "unique"]] ++ [])) fieldApart :=
    .own (.more (by decide) (by decide) .none) (.other (by decide)
      (.own (.more (by decide) (by decide) (.last (by decide) rfl)) .none))
  have hmodel : LaidOut ([[.word .start "model"], textOption "table" "\"songs\"", pairKey] ++ [])
      modelTogether :=
    .own (.more (by decide) (by decide) (.more (by decide) (by decide)
      (.last (by decide) rfl))) .none
  have hmodelApart : LaidOut ([pairKey, [.word .start "model"]] ++
      ([textOption "table" "\"songs\""] ++ [])) modelApart :=
    .own (.more (by decide) (by decide) (.last (by decide) rfl))
      (.own (.more (by decide) (by decide) .none) .none)
  have hfieldSame := (arguments_regroup.1 hfield).2 hfieldApart
  have hmodelSame := (arguments_regroup.2 hmodel (List.cons_ne_nil _ _)).2 hmodelApart
    (List.cons_ne_nil _ _)
  refine ⟨hfieldSame ?_, ?_, hmodelSame ?_, ?_⟩
  · exact FieldArgument.reordered (@List.perm_append_comm _ [_] [_, _]) rfl
  · exact Attempt.exists_ok (by decide +kernel)
  · exact StructArgument.reordered (@List.perm_append_comm _ [_, _] [_]) rfl
  · exact Attempt.exists_ok (by decide +kernel)

end Rowsmith.Source
