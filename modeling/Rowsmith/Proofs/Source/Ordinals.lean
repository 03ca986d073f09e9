/-
Enumerations that are stored by position. A field whose type is an
enumeration without data is stored as a whole number. The two expressions
generated for it do not agree on which number that is. The one that is
stored is the number the language gives to the variant: the one written
for it, or else one more than that of the variant before. The one that is
read is taken as a position in the list of the variants.

# What is modelled

`Expr` is the little of the language that the two expressions are written
in, with its text and its value. `EnumItem.numbers` numbers the variants
as the language does; what a written constant is worth is given, since a
constant may be any expression.

A number is stored in 32 bits, and a position has 64: a negative number
becomes a position that no list has.

Main result: a variant is read back exactly if its number is its position
(`ordinal_restores_iff`). This is so for every variant if no number is
written, and it need not be so otherwise (`ordinal_out_of_order`).
-/
import Rowsmith.Proofs.Resolve.Outcome
import Rowsmith.Proofs.Source.Catalogs

namespace Rowsmith.Source

-- ============================================================== numbers

/-- The numbers of variants, the first of which is given unless one is
written; `constant` tells what is written. -/
def numbersFrom (constant : String → Int) : Int → List Variant → List Int
  | _, [] => []
  | next, v :: rest =>
    let number := (v.discriminant.map constant).getD next
    number :: numbersFrom constant (number + 1) rest

namespace EnumItem

/-- The numbers of the variants, in order. -/
def numbers (constant : String → Int) (e : EnumItem) : List Int := numbersFrom constant 0 e.variants

/-- The number of the variant with a name. -/
def number? (constant : String → Int) (e : EnumItem) (name : String) : Option Int :=
  findAssoc? (e.names.zip (e.numbers constant)) name

end EnumItem

theorem length_numbersFrom (constant : String → Int) (variants : List Variant) (next : Int) :
    (numbersFrom constant next variants).length = variants.length := by
  induction variants generalizing next with
  | nil => rfl
  | cons v rest ih =>
      unfold numbersFrom
      rw [List.length_cons, ih, List.length_cons]

/-- Variants for which no number is written are numbered on from the
first. -/
theorem numbersFrom_unwritten {constant : String → Int} {variants : List Variant} {next : Int}
    (h : ∀ v ∈ variants, v.discriminant = none) {position : Nat} {number : Int}
    (hnumber : (numbersFrom constant next variants)[position]? = some number) :
    number = next + position := by
  induction variants generalizing next position with
  | nil => cases hnumber
  | cons v rest ih =>
      obtain ⟨hv, hrest⟩ := List.forall_mem_cons.1 h
      unfold numbersFrom at hnumber
      rw [hv] at hnumber
      cases position with
      | zero =>
          obtain rfl := Option.some.inj hnumber
          show next = next + 0
          omega
      | succ position =>
          have hlater := ih hrest hnumber
          rw [hlater]
          show next + 1 + (position : Int) = next + ((position : Int) + 1)
          omega

/-- Under a key that stands in one place only is found the value in the
same place. -/
theorem findAssoc?_zip {keys : List String} {values : List Int} (hkeys : keys.Nodup)
    (hlength : keys.length = values.length) {position : Nat} {key : String}
    (hkey : keys[position]? = some key) : findAssoc? (keys.zip values) key = values[position]? := by
  induction keys generalizing position values with
  | nil => cases hkey
  | cons first keys ih =>
      obtain ⟨hfirst, hrest⟩ := List.nodup_cons.1 hkeys
      cases values with
      | nil => cases hlength
      | cons value values =>
          unfold findAssoc? at ih ⊢
          rw [List.zip_cons_cons]
          cases position with
          | zero =>
              obtain rfl := Option.some.inj hkey
              simp
          | succ position =>
              have hmem : key ∈ keys := List.mem_of_getElem? hkey
              have hne : first ≠ key := fun h => hfirst (h ▸ hmem)
              rw [List.find?_cons_of_neg (by simp [hne])]
              exact ih hrest (Nat.succ.inj hlength) hkey

/-- If no name is given twice, the number of a variant stands in its
place. -/
theorem EnumItem.number?_eq {constant : String → Int} {e : EnumItem} (hnames : e.names.Nodup)
    {position : Nat} {name : String} (hname : e.names[position]? = some name) :
    e.number? constant name = (e.numbers constant)[position]? := by
  refine findAssoc?_zip hnames ?_ hname
  rw [EnumItem.numbers, length_numbersFrom, EnumItem.names, List.length_map]

-- ========================================================== expressions

/-- What an expression is worth. -/
inductive Value
  -- A variant, by its name.
  | variant (name : String)
  -- A reference to a value.
  | reference (target : Value)
  -- A number of 32 bits.
  | int (number : Int32)
deriving DecidableEq

/-- The expressions by which enumerations are converted. -/
inductive Expr
  -- The expression that is converted.
  | given (text : String)
  -- The value behind a reference.
  | deref (e : Expr)
  -- A variant as a number.
  | asInt (e : Expr)
  -- The variant at a position among those of an enumeration.
  | select (type : String) (names : List String) (position : Expr)

namespace Expr

def text : Expr → String
  | .given text => text
  | .deref e => "*" ++ e.text
  | .asInt e => "(" ++ e.text ++ " as i32)"
  | .select type names position =>
    "[" ++ String.intercalate ", " (names.map fun name => type ++ "::" ++ name) ++ "][" ++
      position.text ++ " as usize]"

/-- A number as a position. -/
def toPosition (number : Int32) : Nat := number.toInt64.toUInt64.toNat

/-- The value of an expression, if it has one: `number?` tells the numbers
of the variants, and `value` is what is converted. -/
def eval (number? : String → Option Int) (value : Value) : Expr → Option Value
  | .given _ => some value
  | .deref e => do
    let .reference target ← e.eval number? value | none
    return target
  | .asInt e => do
    let .variant name ← e.eval number? value | none
    return .int (Int32.ofInt (← number? name))
  | .select _ names position => do
    let .int number ← position.eval number? value | none
    return .variant (← names[toPosition number]?)

/-- The number to store for the variant at a place. -/
def stored (place : String) : Expr := .asInt (.given place)

/-- The number to store for the variant behind a reference. -/
def storedBehind (reference : String) : Expr := .asInt (.deref (.given reference))

/-- The variant for a number that was stored. -/
def restored (type : String) (names : List String) (stored : String) : Expr :=
  .select type names (.given stored)

section

variable {number? : String → Option Int} {name : String} {number : Int}

theorem eval_stored (h : number? name = some number) (place : String) :
    (stored place).eval number? (.variant name) = some (.int (Int32.ofInt number)) := by
  simp [stored, eval, h]

theorem eval_storedBehind (h : number? name = some number) (reference : String) :
    (storedBehind reference).eval number? (.reference (.variant name)) =
      some (.int (Int32.ofInt number)) := by
  simp [storedBehind, eval, h]

theorem eval_restored (type : String) (names : List String) (text : String) (number : Int32) :
    (restored type names text).eval number? (.int number) =
      (names[toPosition number]?).map .variant := by
  show (names[toPosition number]?).bind (fun name => some (Value.variant name)) = _
  rw [Option.map_eq_bind]
  rfl

end

/-- A number that fits is the position it looks like. -/
theorem toPosition_ofInt {position : Nat} (h : position < 2147483648) :
    toPosition (Int32.ofInt position) = position := by
  have hint : (Int32.ofInt position).toInt64.toInt = position := by
    rw [Int32.toInt_toInt64, Int32.toInt_ofInt_of_le (by omega) (by omega)]
  have hpositive : 0 ≤ (Int32.ofInt position).toInt64 := by
    rw [Int64.le_iff_toInt_le, hint]
    exact Int.natCast_nonneg position
  unfold toPosition
  rw [Int64.toNat_toUInt64_of_le hpositive, ← Int64.toNat_toInt, hint]
  rfl

end Expr

-- =========================================================== conversion

/-- A variant comes back from its number: the number of the variant has a
value, at its place and behind a reference, and is turned into the
variant again. -/
def Restores (number? : String → Option Int) (names : List String) (name : String) : Prop :=
  ∀ place reference type text, ∃ number,
    (Expr.stored place).eval number? (.variant name) = some (.int number) ∧
    (Expr.storedBehind reference).eval number? (.reference (.variant name)) =
      some (.int number) ∧
    (Expr.restored type names text).eval number? (.int number) = some (.variant name)

/-- A conversion is written as an enumeration with certain variants is
converted. -/
structure ConvertsVariants (m : Conversion) (names : List String) : Prop where
  restored : ∀ text type, m.toFieldAs text type = (Expr.restored type names text).text
  stored : ∀ place, m.toStored ("&" ++ place) = (Expr.stored place).text
  storedBehind : ∀ reference : String, reference.toList.head? ≠ some '&' →
    m.toStored reference = (Expr.storedBehind reference).text

theorem convertsVariants_ordinal (type : TypeExpr) (names : List String) :
    ConvertsVariants (.ordinal type names) names where
  restored _ _ := rfl
  stored place := by
    have hlist : ("&" ++ place).toList = '&' :: place.toList := by simp
    unfold Conversion.toStored
    rw [hlist]
    simp [Expr.stored, Expr.text]
  storedBehind reference h := by
    unfold Conversion.toStored
    dsimp only
    split
    · rename_i place hplace
      rw [hplace] at h
      exact absurd rfl h
    · show "(*" ++ reference ++ " as i32)" = "(" ++ ("*" ++ reference) ++ " as i32)"
      rw [← String.append_assoc]
      rfl

/-- A variant with a number is restored if the number leads to it as a
position. -/
theorem restores_iff_found {number? : String → Option Int} {names : List String} {name : String}
    {number : Int} (h : number? name = some number) :
    Restores number? names name ↔ names[Expr.toPosition (Int32.ofInt number)]? = some name := by
  constructor
  · intro hrestores
    obtain ⟨stored, hstored, -, hrestored⟩ := hrestores "" "" "" ""
    rw [Expr.eval_stored h, Option.some.injEq, Value.int.injEq] at hstored
    rw [Expr.eval_restored, ← hstored] at hrestored
    obtain ⟨found, hfound, hname⟩ := Option.map_eq_some_iff.1 hrestored
    obtain rfl := Value.variant.inj hname
    exact hfound
  · intro hfound place reference type text
    refine ⟨_, Expr.eval_stored h place, Expr.eval_storedBehind h reference, ?_⟩
    rw [Expr.eval_restored, hfound]
    rfl

/-- If no name is given twice, the variant at a position is restored
exactly if its number leads to this position. -/
theorem EnumItem.restores_iff {e : EnumItem} {constant : String → Int} (hnames : e.names.Nodup)
    {position : Nat} {name : String} (hname : e.names[position]? = some name) {number : Int}
    (hnumber : (e.numbers constant)[position]? = some number) :
    Restores (e.number? constant) e.names name ↔
      Expr.toPosition (Int32.ofInt number) = position := by
  have hfound : e.number? constant name = some number :=
    (EnumItem.number?_eq hnames hname).trans hnumber
  rw [restores_iff_found hfound]
  constructor
  · intro h
    obtain ⟨hlt, -⟩ := List.getElem?_eq_some_iff.1 h
    exact (List.getElem?_inj hlt hnames).1 (h.trans hname.symm)
  · intro h
    rw [h, hname]

-- ============================================================== sources

/-- A field whose type is an enumeration without data is converted by the
position of the variant among those that the sources declare. A variant
is read back exactly if its number leads to its position, which it does
for every variant if no number is written. -/
theorem ordinal_restores_iff {sources : List SourceText} {catalog : Catalog} {d : StructDecl}
    {f : FieldDecl} {names : List String} {owner : Owner} {p p' : Progress} {m : Conversion}
    (h : parseSources sources = .ok catalog) (hd : d ∈ catalog.decls) (hf : f ∈ d.fields)
    (hinline : f.inline = some (.ordinal names))
    (hm : inlineConversion owner f (.ordinal names) p = .ok (m, p')) :
    ∃ e, unitEnumOf? sources f.type.valueType.path = some e ∧ e.isUnit = true ∧
      e.names = names ∧ m.namedType? = some f.type.valueType ∧ ConvertsVariants m names ∧
      (names.Nodup → ∀ constant,
        (∀ position name number, names[position]? = some name →
          (e.numbers constant)[position]? = some number →
          (Restores (e.number? constant) names name ↔
            Expr.toPosition (Int32.ofInt number) = position)) ∧
        ((∀ v ∈ e.variants, v.discriminant = none) → names.length ≤ 2147483648 →
          ∀ name ∈ names, Restores (e.number? constant) names name)) := by
  obtain ⟨e, he, hunit, rfl⟩ := parseSources_ordinal h hd hf hinline
  obtain ⟨-, -, rfl⟩ := inlineConversion_eq_ok.1 hm
  refine ⟨e, he, hunit, rfl, rfl, convertsVariants_ordinal _ _, ?_⟩
  intro hnames constant
  refine ⟨fun position name number hname hnumber => EnumItem.restores_iff hnames hname hnumber, ?_⟩
  intro hunwritten hbound name hname
  obtain ⟨position, hlt, hposition⟩ := List.mem_iff_getElem.1 hname
  have hat : e.names[position]? = some name := List.getElem?_eq_some_iff.2 ⟨hlt, hposition⟩
  have hlength : (e.numbers constant).length = e.names.length := by
    rw [EnumItem.numbers, length_numbersFrom, EnumItem.names, List.length_map]
  have hnumber := List.getElem?_eq_getElem (hlength ▸ hlt)
  rw [EnumItem.restores_iff hnames hat hnumber]
  rw [numbersFrom_unwritten hunwritten hnumber, Int.zero_add]
  exact Expr.toPosition_ofInt (by omega)

/-- A model with an enumeration. -/
def taskSource (variants : String) : SourceText :=
  ⟨"task.rs", "model", "#[archgen(model)] struct Task \x7b id: i32, level: Level \x7d " ++
    "enum Level \x7b " ++ variants ++ " \x7d"⟩

/-- The field for the enumeration. -/
def levelField : FieldDecl :=
  { FieldDecl.plain "level" (.generic "model::Level" []) with
    inline := some (.ordinal ["Low", "High"]) }

/-- What is known of the model, whichever numbers are written. -/
def taskCatalog : Catalog :=
  ⟨[⟨.generic "model::Task" [], [.plain "id" (.generic "i32" []), levelField], true, none, none,
    [], none⟩], []⟩

theorem ordinal_restores_levels :
    ∃ d ∈ taskCatalog.decls, levelField ∈ d.fields ∧
      parseSources [taskSource "Low, High"] = .ok taskCatalog ∧
      ∃ e, unitEnumOf? [taskSource "Low, High"] "model::Level" = some e ∧
        ∀ constant, Restores (e.number? constant) ["Low", "High"] "Low" ∧
          Restores (e.number? constant) ["Low", "High"] "High" := by
  have hparsed : parseSources [taskSource "Low, High"] = .ok taskCatalog :=
    Attempt.toOption_eq_some.1 (by decide +kernel)
  have henum : unitEnumOf? [taskSource "Low, High"] "model::Level" =
      some ⟨"Level", [⟨"Low", true, none⟩, ⟨"High", true, none⟩]⟩ := by decide +kernel
  refine ⟨_, List.mem_singleton.2 rfl, by decide, hparsed, _, henum, ?_⟩
  intro constant
  have hconversion : inlineConversion (.structured levelField.type) levelField
      (.ordinal ["Low", "High"]) .start =
        .ok (.ordinal levelField.type ["Low", "High"], .start) := rfl
  have hlisted : levelField ∈ (taskCatalog.decls.head (by decide)).fields := by decide
  obtain ⟨e, he, -, -, -, -, hrestores⟩ :=
    ordinal_restores_iff hparsed List.mem_cons_self hlisted rfl hconversion
  obtain rfl := Option.some.inj (henum.symm.trans he)
  have hall := (hrestores (by decide) constant).2 (by decide) (by decide)
  exact ⟨hall "Low" (by decide), hall "High" (by decide)⟩

/-- Two variants whose numbers are written in the other order are mistaken
for each other. -/
theorem ordinal_out_of_order :
    ∃ d ∈ taskCatalog.decls, levelField ∈ d.fields ∧
      parseSources [taskSource "Low = 1, High = 0"] = .ok taskCatalog ∧
      ∃ e, unitEnumOf? [taskSource "Low = 1, High = 0"] "model::Level" = some e ∧
        e.names = ["Low", "High"] ∧ ∀ constant : String → Int, constant "1" = 1 →
          constant "0" = 0 → ¬ Restores (e.number? constant) ["Low", "High"] "Low" ∧
            ¬ Restores (e.number? constant) ["Low", "High"] "High" := by
  have hparsed : parseSources [taskSource "Low = 1, High = 0"] = .ok taskCatalog :=
    Attempt.toOption_eq_some.1 (by decide +kernel)
  have henum : unitEnumOf? [taskSource "Low = 1, High = 0"] "model::Level" =
      some ⟨"Level", [⟨"Low", true, some "1"⟩, ⟨"High", true, some "0"⟩]⟩ := by decide +kernel
  refine ⟨_, List.mem_singleton.2 rfl, by decide, hparsed, _, henum, rfl, ?_⟩
  intro constant hone hzero
  have hnumbers : EnumItem.numbers constant
      ⟨"Level", [⟨"Low", true, some "1"⟩, ⟨"High", true, some "0"⟩]⟩ = [1, 0] := by
    simp [EnumItem.numbers, numbersFrom, hone, hzero]
  have hlow : EnumItem.number? constant
      ⟨"Level", [⟨"Low", true, some "1"⟩, ⟨"High", true, some "0"⟩]⟩ "Low" = some 1 := by
    rw [EnumItem.number?, hnumbers]
    decide
  have hhigh : EnumItem.number? constant
      ⟨"Level", [⟨"Low", true, some "1"⟩, ⟨"High", true, some "0"⟩]⟩ "High" = some 0 := by
    rw [EnumItem.number?, hnumbers]
    decide
  rw [restores_iff_found hlow, restores_iff_found hhigh]
  decide

end Rowsmith.Source
