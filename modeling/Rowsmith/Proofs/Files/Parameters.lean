/-
Which parameters of adapters are identifiers.

The function of an adapter that builds a value takes a parameter for each
column, and calls it like the column. The name of a column is any text: it is
derived from the identifier of a field, or written out in the options of the
field, and the names of nested parts are put together with underscores. Before
a name is used as a parameter a keyword gets the marker of a raw identifier
(`Emit.ident`), and nothing else is seen to.

# Words that cannot be marked

The escape is right as far as it goes: what it gives is an identifier exactly
if the name is a word of the source language that may be marked
(`isIdentifier_ident`). But `crate`, `self`, `super`, `Self` and the underscore
are left as they are, and marking them would not help.

# Names put together

A column goes by a path of declared names (`Structure.namePaths`). As soon as
there are two of them the name is no keyword, and only the first one matters
for how it begins: the others may begin with a digit, or be empty
(`isWord_joined`).

Main result: `parameters_identifiers_iff`, and a structure whose adapter takes
a parameter `crate` (`parameter_called_crate`).
-/
import Mathlib.Data.List.Infix
import Rowsmith.Proofs.Files.ColumnNames
import Rowsmith.Proofs.Source.Names

namespace Rowsmith

open Emit Source Text

variable {w : String}

-- ========================================================== identifiers

namespace Source

/-- An identifier: the lexer reads all of the text as one word, and the word is
no keyword. The latest edition of the language has one keyword more. -/
structure IsIdentifier (w : String) : Prop where
  word : scanIdent w.toList = some (w, [])
  free : w ∉ "gen" :: Lookahead.reserved

/-- Without a marker a word is its name. -/
theorem plainName_eq_self : plainName w = w ↔ ∀ rest, w.toList ≠ 'r' :: '#' :: rest := by
  unfold plainName
  split
  case h_1 rest hw =>
    refine iff_of_false (fun hsame => ?_) fun hno => hno rest hw
    have hlength := congrArg String.length hsame
    rw [String.length_ofList, ← String.length_toList, hw, List.length_cons,
      List.length_cons] at hlength
    omega
  case h_2 hno => exact iff_of_true rfl hno

theorem plainName_marked (n : String) : plainName ("r#" ++ n) = n := by
  unfold plainName
  rw [String.toList_append]
  exact String.ofList_toList

/-- A marked word is read in one go exactly if what is marked is a name. -/
theorem scanAnyWord_marked (n : String) :
    scanAnyWord ("r#" ++ n).toList = some ("r#" ++ n, []) ↔ IsName n := by
  have hchars : ("r#" ++ n).toList = 'r' :: '#' :: n.toList := String.toList_append
  rw [hchars, scanAnyWord]
  refine Option.bind_eq_some_iff.trans ⟨?_, ?_⟩
  · rintro ⟨rest, hrest, hname⟩
    obtain ⟨hfree, hread⟩ := Option.ite_none_left_eq_some.1 hname
    obtain ⟨-, rfl⟩ := Prod.mk.inj (Option.some.inj hread)
    refine ⟨hrest, fun hnever => hfree ?_⟩
    simpa using hnever
  · intro h
    refine ⟨[], h.word, ?_⟩
    simpa using h.markable

/-- A word without a marker is read in one go. -/
theorem scanAnyWord_plain (hw : plainName w = w) :
    scanAnyWord w.toList = some (w, []) ↔ scanWord w.toList = some [] := by
  unfold scanAnyWord
  split
  case h_1 more hmore => exact absurd hmore (plainName_eq_self.1 hw more)
  case h_2 =>
    refine Option.bind_eq_some_iff.trans ⟨?_, ?_⟩
    · rintro ⟨rest, hrest, hread⟩
      obtain ⟨-, rfl⟩ := Prod.mk.inj (Option.some.inj hread)
      exact hrest
    · intro h
      refine ⟨[], h, ?_⟩
      simp

/-- No literal begins like a word does. -/
theorem IsWord.not_literal (h : IsWord w) :
    (literalOpenings.any fun opening => opening.isPrefixOf w.toList) = false := by
  rw [List.any_eq_false]
  intro opening hopening hbegins
  have hbegins := List.isPrefixOf_iff_prefix.1 hbegins
  rcases eq_or_marked w with hw | hw
  · have hquoted : ∀ opening ∈ literalOpenings, opening.all isIdentContinue = false := by decide
    rw [hw] at hbegins
    obtain ⟨c, hc, hno⟩ := List.all_eq_false.1 (hquoted opening hopening)
    exact IsName.not_mem h (Bool.eq_false_iff.2 hno) (hbegins.mem hc)
  · have hquoted : ∀ opening ∈ literalOpenings,
        opening.take 2 <+: "r#".toList → (opening.drop 2).all isIdentContinue = false := by decide
    rw [hw, String.toList_append] at hbegins
    obtain ⟨c, hc, hno⟩ := List.all_eq_false.1 (hquoted opening hopening (hbegins.take 2))
    exact IsName.not_mem h (Bool.eq_false_iff.2 hno) ((hbegins.drop 2).mem hc)

/-- The identifiers are the words that are no keywords. -/
theorem isIdentifier_iff (w : String) :
    IsIdentifier w ↔ IsWord w ∧ w ∉ "gen" :: Lookahead.reserved := by
  have hscan : IsWord w → scanIdent w.toList = scanAnyWord w.toList := fun h => by
    rw [scanIdent, if_neg (by simp [h.not_literal])]
  constructor
  · rintro ⟨hword, hfree⟩
    refine ⟨?_, hfree⟩
    have hany := (Option.ite_none_left_eq_some.1 hword).2
    rcases eq_or_marked w with hw | hw
    · unfold IsWord
      rw [← hw]
      refine ⟨(scanAnyWord_plain hw.symm).1 hany, fun hnever => hfree ?_⟩
      have hreserved : ∀ w ∈ neverRaw, w ∈ "gen" :: Lookahead.reserved := by decide
      exact hreserved w hnever
    · rw [hw] at hany
      exact (scanAnyWord_marked _).1 hany
  · rintro ⟨h, hfree⟩
    refine ⟨(hscan h).trans ?_, hfree⟩
    rcases eq_or_marked w with hw | hw
    · exact (scanAnyWord_plain hw.symm).2 (hw ▸ IsName.word h)
    · rw [hw]
      exact (scanAnyWord_marked _).2 h

end Source

namespace Emit

/-- A name becomes an identifier exactly if it is a word that may be marked:
the escape marks the keywords, and leaves a name alone that has the marker. -/
theorem isIdentifier_ident (name : String) : IsIdentifier (ident name) ↔ IsWord name := by
  rw [isIdentifier_iff, ident]
  have hplain : ∀ word ∈ "gen" :: Lookahead.reserved, plainName word = word := by decide
  have hkeywords : ∀ word ∈ keywords, word ∈ "gen" :: Lookahead.reserved := by decide
  have hescaped : ∀ word ∈ "gen" :: Lookahead.reserved, word ∈ keywords ∨ word ∈ neverRaw := by
    decide
  split
  case isTrue hkeyword =>
    have hkeyword := hplain name (hkeywords name (by simpa using hkeyword))
    have hmarked : "r#" ++ name ∉ "gen" :: Lookahead.reserved := by
      intro hreserved
      have hlength := congrArg String.length (hplain _ hreserved)
      rw [plainName_marked, String.length_append] at hlength
      have htwo : "r#".length = 2 := rfl
      omega
    rw [and_iff_left hmarked]
    unfold IsWord
    rw [plainName_marked, hkeyword]
  case isFalse hkeyword =>
    refine and_iff_left_of_imp fun h hreserved => ?_
    rcases hescaped name hreserved with hkey | hnever
    · exact hkeyword (by simpa using hkey)
    · unfold IsWord at h
      rw [hplain name hreserved] at h
      exact h.markable hnever

end Emit

-- ================================================================ names

/-- The name that a path of names makes. -/
def Naming.joined (path : List String) : String := String.intercalate "_" path

theorem Naming.joined_singleton (n : String) : joined [n] = n := String.intercalate_singleton

namespace Source

/-- A name that may stand behind others. -/
def Follows (n : String) : Prop := ∀ c ∈ n.toList, isIdentContinue c = true

/-- A name that others may stand behind: it is empty or begins like an
identifier, and goes on like one. -/
def Begins (n : String) : Prop := plainName n = "" ∨ scanWord (plainName n).toList = some []

/-- A path of names that make a word. With several names it is no keyword, but
it may be a bare underscore. -/
def MakesWord : List String → Prop
  | [] => False
  | [n] => IsWord n
  | n :: more => Begins n ∧ (∀ m ∈ more, Follows m) ∧ ¬(plainName n = "" ∧ more = [""])

instance (n : String) : Decidable (Follows n) :=
  decidable_of_iff (n.toList.all isIdentContinue = true) List.all_eq_true

instance (n : String) : Decidable (Begins n) :=
  inferInstanceAs (Decidable (_ ∨ _))

instance : (path : List String) → Decidable (MakesWord path)
  | [] => inferInstanceAs (Decidable False)
  | [n] => inferInstanceAs (Decidable (IsWord n))
  | _ :: _ :: _ => inferInstanceAs (Decidable (_ ∧ _))

theorem joined_cons (n : String) {path : List String} (hpath : path ≠ []) :
    Naming.joined (n :: path) = Naming.compound n (Naming.joined path) := by
  obtain ⟨m, more, rfl⟩ := List.exists_cons_of_ne_nil hpath
  exact String.intercalate_cons_cons

theorem toList_compound (n rest : String) :
    (Naming.compound n rest).toList = n.toList ++ '_' :: rest.toList := by
  unfold Naming.compound
  rw [String.toList_append, String.toList_append, List.append_assoc]
  rfl

/-- What is put behind a name does not change its marker. -/
theorem plainName_compound (n rest : String) :
    plainName (Naming.compound n rest) = Naming.compound (plainName n) rest := by
  rcases eq_or_marked n with hn | hn
  · rw [← hn, plainName_eq_self, toList_compound]
    have hplain := plainName_eq_self.1 hn.symm
    -- the marker would have to be in the first name
    match hchars : n.toList with
    | [] => simp
    | [c] => simp
    | c :: d :: more =>
        intro rest' hmark
        obtain ⟨hc, hrest⟩ := List.cons.inj hmark
        obtain ⟨hd, -⟩ := List.cons.inj hrest
        exact hplain more (by rw [hchars, hc, hd])
  · rw [hn, plainName_marked]
    have hmarked : Naming.compound ("r#" ++ plainName n) rest =
        "r#" ++ Naming.compound (plainName n) rest := by
      simp only [Naming.compound, String.append_assoc]
    rw [hmarked, plainName_marked]

theorem follows_compound (n rest : String) :
    Follows (Naming.compound n rest) ↔ Follows n ∧ Follows rest := by
  have hunderscore : isIdentContinue '_' = true := by decide
  unfold Follows
  rw [toList_compound]
  simp only [List.forall_mem_append, List.forall_mem_cons, hunderscore, true_and]

/-- Two names make a word without a marker. -/
theorem isName_compound (n rest : String) : IsName (Naming.compound n rest) ↔
    (n = "" ∨ scanWord n.toList = some []) ∧ Follows rest ∧ ¬(n = "" ∧ rest = "") := by
  have hword : scanWord (Naming.compound n rest).toList = some [] ↔
      (n = "" ∨ scanWord n.toList = some []) ∧ Follows rest := by
    have hunderscore : isIdentStart '_' = true ∧ isIdentContinue '_' = true := by decide
    rw [toList_compound, ← String.toList_eq_nil_iff]
    cases n.toList with
    | nil => simp [scanWord, Follows, List.dropWhile_eq_nil_iff, hunderscore]
    | cons c chars =>
        simp [scanWord, Follows, List.dropWhile_eq_nil_iff, -List.mem_append,
          List.forall_mem_append, hunderscore, and_assoc]
  have hmarkable : Naming.compound n rest ∈ neverRaw ↔ n = "" ∧ rest = "" := by
    constructor
    · intro hnever
      have hone : ∀ w ∈ neverRaw, '_' ∈ w.toList → w.toList.length = 1 := by decide
      have hlength := hone _ hnever (by rw [toList_compound]; simp)
      rw [toList_compound, List.length_append, List.length_cons] at hlength
      rw [← String.toList_eq_nil_iff, ← String.toList_eq_nil_iff, ← List.length_eq_zero_iff,
        ← List.length_eq_zero_iff]
      omega
    · rintro ⟨rfl, rfl⟩
      decide
  rw [← and_assoc, ← hword, ← hmarkable]
  exact ⟨fun h => ⟨h.word, h.markable⟩, fun h => ⟨h.1, h.2⟩⟩

theorem follows_joined (path : List String) :
    Follows (Naming.joined path) ↔ ∀ n ∈ path, Follows n := by
  induction path with
  | nil => exact iff_of_true (by decide) (List.forall_mem_nil _)
  | cons n path ih =>
      by_cases hpath : path = []
      · subst hpath
        rw [List.forall_mem_singleton, Naming.joined_singleton]
      · rw [joined_cons n hpath, follows_compound, ih, List.forall_mem_cons]

theorem joined_eq_empty {n : String} {more : List String} :
    Naming.joined (n :: more) = "" ↔ n = "" ∧ more = [] := by
  by_cases hmore : more = []
  · subst hmore
    rw [Naming.joined_singleton, and_iff_left rfl]
  · rw [joined_cons n hmore, ← String.toList_eq_nil_iff, toList_compound]
    simp [hmore]

/-- When a path of names makes a word. -/
theorem isWord_joined (path : List String) : IsWord (Naming.joined path) ↔ MakesWord path := by
  match path with
  | [] => exact iff_of_false (by decide) id
  | [n] =>
      rw [Naming.joined_singleton]
      rfl
  | n :: m :: more =>
      rw [joined_cons n (List.cons_ne_nil _ _)]
      unfold IsWord
      rw [plainName_compound, isName_compound, follows_joined, joined_eq_empty]
      unfold MakesWord Begins
      simp only [List.cons.injEq]

end Source

-- ================================================================ paths

/-- The paths of the names of the columns of an existing adapter below a field.
A single column goes by the name of the field alone. -/
def ProvidedAdapter.columnPaths (a : ProvidedAdapter) : List (List String) :=
  match a.columns with
  | [_] => [[]]
  | columns => columns.map fun c => [c.name]

mutual

/-- The paths of declared names by which the columns of a part go. -/
def Part.namePaths : Part → List (List String)
  | .native head _ => [[head.storageName]]
  | .mapped head _ => [[head.storageName]]
  | .adapted head adapter => adapter.columnPaths.map (head.storageName :: ·)
  | .nested head _ parts => (namePathsAll parts).map (head.storageName :: ·)

/-- The paths of several parts, in order. -/
def Part.namePathsAll : List Part → List (List String)
  | [] => []
  | part :: rest => namePaths part ++ namePathsAll rest

end

/-- The paths of declared names by which the columns of a structure go. -/
def Structure.namePaths (n : Structure) : List (List String) := Part.namePathsAll n.parts

/-- The columns of an existing adapter below a field go by the name of the
field and their paths. -/
theorem ProvidedAdapter.map_name_columnsUnder (a : ProvidedAdapter) (name : String) :
    (a.columnsUnder name).map (·.name) =
      a.columnPaths.map fun path => Naming.joined (name :: path) := by
  have hjoined : ∀ c : AdapterColumn, Naming.compound name c.name = Naming.joined [name, c.name] :=
    fun c => by rw [joined_cons name (List.cons_ne_nil _ _), Naming.joined_singleton]
  unfold columnsUnder columnPaths
  match a.columns with
  | [] => rfl
  | [_] => exact congrArg (fun n => [n]) (Naming.joined_singleton name).symm
  | c :: d :: rest =>
      rw [List.map_map, List.map_map]
      exact List.map_congr_left fun c _ => hjoined c

/-- Every path of a part begins with the name of the part. -/
theorem Part.exists_cons_of_mem_namePaths {path : List String} (part : Part)
    (h : path ∈ part.namePaths) : ∃ more, path = part.head.storageName :: more := by
  unfold namePaths at h
  cases part with
  | native head storage => exact ⟨[], List.mem_singleton.1 h⟩
  | mapped head conversion => exact ⟨[], List.mem_singleton.1 h⟩
  | adapted head adapter =>
      obtain ⟨more, -, rfl⟩ := List.mem_map.1 h
      exact ⟨more, rfl⟩
  | nested head type parts =>
      obtain ⟨more, -, rfl⟩ := List.mem_map.1 h
      exact ⟨more, rfl⟩

theorem Part.ne_nil_of_mem_namePathsAll {path : List String} {parts : List Part}
    (h : path ∈ namePathsAll parts) : path ≠ [] := by
  induction parts with
  | nil => exact nomatch h
  | cons part rest ih =>
      unfold namePathsAll at h
      rcases List.mem_append.1 h with h | h
      · obtain ⟨more, rfl⟩ := part.exists_cons_of_mem_namePaths h
        exact List.cons_ne_nil _ _
      · exact ih h

mutual

/-- The parameters of a part are called by the paths of its columns. -/
theorem Part.map_name_paramsOf : (part : Part) →
    (paramsOf none part).map (·.name) = part.namePaths.map Naming.joined
  | .native head _ => congrArg (fun n => [n]) (Naming.joined_singleton head.storageName).symm
  | .mapped head _ => congrArg (fun n => [n]) (Naming.joined_singleton head.storageName).symm
  | .adapted head adapter => by
      unfold paramsOf namePaths
      rw [List.map_map, List.map_map]
      exact adapter.map_name_columnsUnder head.storageName
  | .nested head _ parts => by
      unfold paramsOf namePaths
      show (paramsOfAll (some head.storageName) parts).map _ = _
      have hinner := map_name_paramsOfAll parts
      calc (paramsOfAll (some head.storageName) parts).map (·.name)
          = ((paramsOfAll none parts).map (·.name)).map (Naming.compound head.storageName) := by
            rw [paramsOfAll_some, List.map_map, List.map_map]
            rfl
        _ = (namePathsAll parts).map fun path =>
              Naming.compound head.storageName (Naming.joined path) := by
            rw [hinner, List.map_map]
            rfl
        _ = ((namePathsAll parts).map (head.storageName :: ·)).map Naming.joined := by
            rw [List.map_map]
            refine List.map_congr_left fun path hpath => ?_
            exact (joined_cons _ (ne_nil_of_mem_namePathsAll hpath)).symm

theorem Part.map_name_paramsOfAll : (parts : List Part) →
    (paramsOfAll none parts).map (·.name) = (namePathsAll parts).map Naming.joined
  | [] => by rfl
  | part :: rest => by
      unfold paramsOfAll namePathsAll
      rw [List.map_append, List.map_append, map_name_paramsOf part, map_name_paramsOfAll rest]

end

/-- The columns of a structure go by its paths. -/
theorem Structure.columnNames_eq (n : Structure) :
    n.columnNames = n.namePaths.map Naming.joined :=
  Part.map_name_paramsOfAll n.parts

-- ========================================================= declarations

/-- A part goes by the storage name of the field it is for. -/
theorem Part.ResolvedFrom.storageName_eq {locator : Locator}
    {nests : TypeExpr → Structure → Prop} {type : TypeExpr} {f : FieldDecl} {part : Part}
    (h : part.ResolvedFrom locator nests type f) : part.head.storageName = f.storageName := by
  obtain ⟨-, x, -, -, hfor⟩ := h
  cases x with
  | reference r => cases hfor
  | native storage =>
      cases hfor
      rfl
  | mapped conversion =>
      cases hfor
      rfl
  | adapted adapter =>
      obtain ⟨-, hfor⟩ := Option.ite_none_left_eq_some.1 hfor
      cases hfor
      rfl
  | nested s =>
      obtain ⟨-, hfor⟩ := Option.ite_none_left_eq_some.1 hfor
      cases hfor
      rfl

/-- The parts of a structure go by the storage names of the fields that were
declared for its type. -/
theorem Assembled.storageNames {env : Setting} {structures : List Structure} {n : Structure}
    (h : Assembled env structures) (hn : n ∈ structures) :
    ∃ asked decls, env.answers asked n.type = .ok decls ∧
      n.parts.map (·.head.storageName) = decls.map (·.storageName) := by
  obtain ⟨before, after, hsplit⟩ := List.append_of_mem hn
  obtain ⟨asked, decls, hanswer, -, hparts⟩ := (h.madeOver hsplit).resolved
  exact ⟨asked, decls, hanswer, (Related.map_eq hparts fun f part hpart =>
    (Part.ResolvedFrom.storageName_eq hpart).symm).symm⟩

-- ================================================================= main

/-- A structure is found among those that a run resolved. -/
theorem exists_structure {attempt : Except Failure Schema} {p : Schema → Structure → Bool}
    (h : (attempt.toOption.bind fun s => s.structures.find? (p s)).isSome = true) :
    ∃ s n, attempt = .ok s ∧ n ∈ s.structures ∧ p s n = true := by
  obtain ⟨n, hfound⟩ := Option.isSome_iff_exists.1 h
  obtain ⟨s, hs, hfind⟩ := Option.bind_eq_some_iff.1 hfound
  exact ⟨s, n, Attempt.toOption_eq_some.1 hs, List.mem_of_find?_eq_some hfind,
    List.find?_some hfind⟩

/-- Which adapters of a resolved schema take identifiers as parameters. The
parts of a structure go by the storage names of its declared fields; its
columns go by paths of such names, or of one and the name of a column of an
existing adapter. The unit of the structure takes a parameter for each of them,
and all of these are identifiers exactly if every path makes a word. -/
theorem parameters_identifiers_iff {room : Nat}
    {answers : List TypeExpr → TypeExpr → Except Failure (List FieldDecl)} {locator : Locator}
    {request : Request} {s : Schema} (h : resolveWithin room answers locator request = .ok s)
    {n : Structure} (hn : n ∈ s.structures) :
    (∃ asked decls, answers asked n.type = .ok decls ∧
      n.parts.map (·.head.storageName) = decls.map (·.storageName)) ∧
    n.columnNames = n.namePaths.map Naming.joined ∧
    (∀ target file, adapterUnit target n = .ok file → file.ListsColumns n) ∧
    ((∀ name ∈ n.columnNames, IsIdentifier (ident name)) ↔
      ∀ path ∈ n.namePaths, MakesWord path) := by
  refine ⟨(assembled_of_resolveWithin h).storageNames hn, n.columnNames_eq,
    fun target file hfile => listsColumns_of_adapterUnit hfile, ?_⟩
  rw [n.columnNames_eq, List.forall_mem_map]
  refine forall₂_congr fun path _ => ?_
  rw [isIdentifier_ident, isWord_joined]

/-- A keyword is marked, and a name that begins with a digit may stand behind
another. -/
theorem parameters_identifiers_chest :
    ∃ s n, resolveChest "type" "lid" "_1st" = .ok s ∧ n ∈ s.structures ∧
      n.columnNames = ["type", "lid_1st"] ∧ ∀ name ∈ n.columnNames, IsIdentifier (ident name) := by
  obtain ⟨s, n, hs, hn, hchecks⟩ : ∃ s n, resolveChest "type" "lid" "_1st" = .ok s ∧
      n ∈ s.structures ∧ (n.columnNames == ["type", "lid_1st"] &&
        n.namePaths.all fun path => decide (MakesWord path)) = true :=
    exists_structure (by decide +kernel)
  obtain ⟨hnames, hpaths⟩ := Bool.and_eq_true_iff.1 hchecks
  refine ⟨s, n, hs, hn, eq_of_beq hnames, ?_⟩
  refine (parameters_identifiers_iff hs hn).2.2.2.2 fun path hpath => ?_
  exact of_decide_eq_true (List.all_eq_true.1 hpaths path hpath)

/-- A chest is accepted whose adapter is written with a parameter that is
called like a keyword. -/
theorem parameter_called_crate :
    ∃ s n, resolveChest "crate_" "lid" "size" = .ok s ∧ n ∈ s.structures ∧
      n.columnNames = ["crate", "lid_size"] ∧ ¬ IsIdentifier (ident "crate") ∧
      ∃ file, adapterUnit .default n = .ok file ∧ file.ListsColumns n := by
  obtain ⟨s, n, hs, hn, hchecks⟩ : ∃ s n, resolveChest "crate_" "lid" "size" = .ok s ∧
      n ∈ s.structures ∧ (n.columnNames == ["crate", "lid_size"] &&
        s.texts.all Text.isSingleLine) = true :=
    exists_structure (by decide +kernel)
  obtain ⟨hnames, htexts⟩ := Bool.and_eq_true_iff.1 hchecks
  have hnever : ¬ IsIdentifier (ident "crate") := by
    rw [isIdentifier_ident]
    decide
  obtain ⟨file, hfile⟩ : ∃ file, adapterUnit .default n = .ok file :=
    adapterUnit_of_texts hs (by decide) (List.all_eq_true.1 htexts) (by decide) hn
  exact ⟨s, n, hs, hn, eq_of_beq hnames, hnever, file, hfile, listsColumns_of_adapterUnit hfile⟩

end Rowsmith
