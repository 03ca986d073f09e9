/-
Declared types and the paths that lead to them. In the tree of modules a
path begins at an anchor: at the crate, at the module in which it is
written, or so many modules above it. From there it goes down by name
(`Leads`). A name may also be imported, and then stands for the path of
its import.

# What is modelled

A path leads to a declaration as the language has it, where the marker of
a raw identifier does not count and a module may be left upwards from the
module itself. Names that are brought in from elsewhere under the path of
another module, and all names of a module at once, are not followed.

Main result: a path is read as that of the declaration it leads to, which
is the key the declaration is known by, exactly if it is written plainly:
without a marker, and not upwards from `self` (`declared_types_found`). A
path upwards from `self` is read as one into a module that is called
`super`, and one with a marker as one to a name with it
(`unplain_not_found`).
-/
import Rowsmith.Proofs.Source.Collecting
import Rowsmith.Proofs.Source.Keys

namespace Rowsmith.Source

variable {m E names base left written : List String} {n w : String}

-- =============================================================== anchors

/-- Where a path that is written in a module leads to, from the crate. -/
inductive Leads : List String → List String → List String → Prop
  -- From the crate.
  | crate (m : List String) {names : List String} (hnames : ∀ n ∈ names, IsWord n) :
    Leads m ("crate" :: names) (names.map plainName)
  -- From the module.
  | here (m : List String) {names : List String} (hnames : ∀ n ∈ names, IsWord n) :
    Leads m ("self" :: names) (m ++ names.map plainName)
  -- From a module above, with a mark for each module that is left.
  | above {base left names : List String} (hleft : left ≠ []) (hnames : ∀ n ∈ names, IsWord n) :
    Leads (base ++ left) (List.replicate left.length "super" ++ names)
      (base ++ names.map plainName)
  -- From a module above, beginning at the module.
  | aboveHere {base left names : List String} (hleft : left ≠ [])
    (hnames : ∀ n ∈ names, IsWord n) :
    Leads (base ++ left) ("self" :: (List.replicate left.length "super" ++ names))
      (base ++ names.map plainName)

/-- A path that is written plainly: without markers, and not upwards from the
module itself. -/
structure IsPlain (written : List String) : Prop where
  unmarked : ∀ w ∈ written, plainName w = w
  direct : ¬ ["self", "super"] <+: written

/-- A mark for the enclosing module is no name. -/
theorem not_isWord_super : ¬ IsWord "super" := fun h => h.markable (by decide)

/-- Leaving modules takes a mark or more. -/
theorem exists_marks (hleft : left ≠ []) :
    ∃ marks, List.replicate left.length "super" = "super" :: marks := by
  obtain ⟨n, left, rfl⟩ := List.exists_cons_of_ne_nil hleft
  exact ⟨_, List.replicate_succ⟩

theorem climb_names (base : List String) (h : ∀ n ∈ names, IsWord n) :
    climb base names = base ++ names := by
  rw [climb]
  rintro rest rfl
  exact not_isWord_super (h "super" List.mem_cons_self)

/-- Every mark goes up by one module. -/
theorem climb_above (base left : List String) (h : ∀ n ∈ names, IsWord n) :
    climb (base ++ left) (List.replicate left.length "super" ++ names) = base ++ names := by
  induction left using List.reverseRecOn with
  | nil =>
      rw [List.append_nil]
      exact climb_names base h
  | append_singleton left n ih =>
      rw [List.length_append, List.length_singleton, List.replicate_succ, List.cons_append, climb,
        ← List.append_assoc, List.dropLast_concat]
      exact ih

/-- Below an anchor the names of a declaration have to be written for
themselves. -/
theorem joinPath_eq_iff_isPlain (anchor base : List String) (hbase : ∀ n ∈ base, IsName n)
    (hnames : ∀ n ∈ names, IsWord n) (hE : ∀ n ∈ E, IsName n)
    (hanchor : ∀ w ∈ anchor, plainName w = w) (hdirect : ¬ ["self", "super"] <+: anchor ++ names) :
    joinPath (base ++ names) = joinPath E ↔
      base ++ names.map plainName = E ∧ IsPlain (anchor ++ names) := by
  have hsegments : ∀ n ∈ base ++ names, IsSegment n :=
    List.forall_mem_append.2
      ⟨fun n hn => (hbase n hn).isSegment, fun n hn => (hnames n hn).isSegment⟩
  rw [joinPath_inj hsegments fun n hn => (hE n hn).isSegment]
  constructor
  · rintro rfl
    have hplain : ∀ n ∈ names, plainName n = n := fun n hn =>
      (hE n (List.mem_append_right base hn)).plainName
    refine ⟨?_, List.forall_mem_append.2 ⟨hanchor, hplain⟩, hdirect⟩
    rw [List.map_congr_left hplain, List.map_id']
  · rintro ⟨rfl, hplain⟩
    have hunmarked : ∀ n ∈ names, plainName n = n := fun n hn =>
      hplain.unmarked n (List.mem_append_right anchor hn)
    rw [List.map_congr_left hunmarked, List.map_id']

/-- A path that leads to a declaration is made relative to the crate as the
path of this declaration if it is written plainly. A path that is not
written plainly or leads elsewhere is not. -/
theorem Leads.absolute_eq_iff (h : Leads m written base) (hm : ∀ n ∈ m, IsName n)
    (hE : ∀ n ∈ E, IsName n) :
    absolute (joinPath m) written = joinPath E ↔ base = E ∧ IsPlain written := by
  have hsegments : moduleSegments (joinPath m) = m :=
    moduleSegments_joinPath fun n hn => (hm n hn).isSegment
  cases h with
  | crate m hnames =>
      rw [absolute]
      refine joinPath_eq_iff_isPlain ["crate"] [] ?_ hnames hE ?_ ?_
      · exact List.forall_mem_nil _
      · decide
      · rintro ⟨rest, hrest⟩
        exact absurd (List.cons.inj hrest).1 (by decide)
  | here m hnames =>
      rw [absolute, hsegments]
      refine joinPath_eq_iff_isPlain ["self"] m hm hnames hE ?_ ?_
      · decide
      · rintro ⟨rest, hrest⟩
        obtain rfl := (List.cons.inj hrest).2
        exact not_isWord_super (hnames "super" List.mem_cons_self)
  | @above base left names hleft hnames =>
      obtain ⟨marks, hmarks⟩ := exists_marks hleft
      have hclimb := climb_above base left hnames
      have habsolute : absolute (joinPath (base ++ left))
          (List.replicate left.length "super" ++ names) = joinPath (base ++ names) := by
        rw [hmarks, List.cons_append] at hclimb ⊢
        rw [absolute, hsegments, hclimb]
      rw [habsolute]
      refine joinPath_eq_iff_isPlain (List.replicate left.length "super") base ?_ hnames hE ?_ ?_
      · exact fun n hn => hm n (List.mem_append_left left hn)
      · intro w hw
        rw [List.eq_of_mem_replicate hw]
        decide
      · rw [hmarks]
        rintro ⟨rest, hrest⟩
        exact absurd (List.cons.inj hrest).1 (by decide)
  | @aboveHere base left names hleft hnames =>
      obtain ⟨marks, hmarks⟩ := exists_marks hleft
      have hbelow : ∀ n ∈ base ++ left ++ (List.replicate left.length "super" ++ names),
          IsSegment n := by
        refine List.forall_mem_append.2 ⟨fun n hn => (hm n hn).isSegment, ?_⟩
        refine List.forall_mem_append.2 ⟨?_, fun n hn => (hnames n hn).isSegment⟩
        intro n hn
        rw [List.eq_of_mem_replicate hn]
        exact ⟨by decide, by decide⟩
      rw [absolute, hsegments, joinPath_inj hbelow fun n hn => (hE n hn).isSegment, hmarks]
      constructor
      · -- the first mark is kept as if it were a name, which no declaration has
        rintro rfl
        have hmark : IsName "super" := hE "super" (List.mem_append_right _ List.mem_cons_self)
        exact absurd hmark.isWord not_isWord_super
      · rintro ⟨-, hplain⟩
        exact absurd ⟨_, rfl⟩ hplain.direct

-- ============================================================= resolving

theorem Leads.isAnchored (h : Leads m written base) : isAnchored written = true := by
  cases h with
  | crate => rfl
  | here => rfl
  | @above base left names hleft =>
      obtain ⟨marks, hmarks⟩ := exists_marks hleft
      rw [hmarks]
      rfl
  | aboveHere => rfl

/-- A name is not an anchor. -/
theorem IsWord.not_isAnchored (h : IsWord w) : Source.isAnchored [w] = false := by
  rw [Bool.eq_false_iff]
  intro hanchored
  simp only [Source.isAnchored, Bool.or_eq_true, beq_iff_eq] at hanchored
  obtain (rfl | rfl) | rfl := hanchored
  all_goals exact absurd h.markable (by decide)

section

variable {s : Scope}

theorem Scope.resolve_of_leads (h : Leads m written base) :
    s.resolve written = absolute s.module written := by
  unfold Scope.resolve
  rw [if_pos h.isAnchored]

/-- A name that the module does not declare stands for its import, and
without one for the only declaration with this name. -/
theorem Scope.resolve_of_isWord (hw : IsWord w) (hdeclared : pathIn s.module w ∉ s.declared) :
    s.resolve [w] = (findAssoc? s.imports w).getD ((s.uniqueByName? w).getD w) := by
  unfold Scope.resolve
  rw [hw.not_isAnchored, if_neg Bool.false_ne_true]
  dsimp only
  unfold Scope.resolveName
  rw [if_neg (mt List.contains_iff_mem.1 hdeclared)]
  cases findAssoc? s.imports w with
  | none => rfl
  | some path => rfl

/-- The only declaration with a name is found, and one at the root of the
crate is found even if it is not the only one. -/
theorem Scope.getD_uniqueByName?_eq_iff {key : String} (hkey : key ∈ s.declared)
    (hname : w = key → TypeExpr.lastSegment key = w) :
    (s.uniqueByName? w).getD w = key ↔ s.uniqueByName? w = some key ∨ w = key := by
  cases hunique : s.uniqueByName? w with
  | none => simp
  | some path =>
      rw [Option.getD_some, Option.some.injEq]
      refine ⟨Or.inl, ?_⟩
      rintro (hpath | hroot)
      · exact hpath
      · have hlisted : key ∈ s.declared.filter fun path => TypeExpr.lastSegment path = w :=
          List.mem_filter.2 ⟨hkey, decide_eq_true (hname hroot)⟩
        unfold Scope.uniqueByName? at hunique
        split at hunique
        case h_1 only honly =>
          rw [honly] at hlisted
          obtain rfl := Option.some.inj hunique
          exact (List.mem_singleton.1 hlisted).symm
        case h_2 => cases hunique

end

-- =============================================================== sources

/-- The items of sources, each with the source they were read from. -/
def Reads (sources : List SourceText) (read : List (SourceText × List Item)) : Prop :=
  ∃ items, sources.mapM itemsOf = .ok items ∧ sources.zip items = read

/-- The name of the type that an item declares. -/
def Placed.declares? (p : Placed Item) : Option String :=
  match p.item with
  | .structured item => some (plainName item.name)
  | .enumeration item => some (plainName item.name)
  | _ => none

/-- An item declares a type in a module, with names all the way. -/
inductive DeclaredAt (p : Placed Item) : List String → Prop
  | intro {M : List String} {n : String} (hmodule : p.module = joinPath M)
    (hname : p.declares? = some n) (hnames : ∀ n' ∈ M ++ [n], IsName n') : DeclaredAt p (M ++ [n])

/-- The path of a type that is written in a module, as it is read. -/
def Collected.readIn (c : Collected) (m written : List String) (args : List SourceType) : String :=
  ((c.scopeOf (joinPath m)).canonical (.path written args)).path

/-- A declared type is known by its path. The key it is known under has the
text of the path, and is a path type if no name in it holds a mark. To the
catalog a structure is known under the key, with the types of its fields.
An enumeration is known by the path with its variants, or under the key as
a type that cannot be stored. -/
structure IsKnown (c : Collected) (catalog : Catalog) (p : Placed Item) (path : String)
    (key : TypeExpr) : Prop where
  ofText : TypeExpr.ofText path = .ok key
  path_eq : key.path = path
  named_iff : key = .named path ↔ ∀ d ∈ path.toList, TypeExpr.isPathChar d = true
  structs : ∀ s, p.structure? = some s → catalog.Knows key (c.fieldTypes s)
  enums : ∀ e, p.enumeration? = some e → (findAssoc? c.ordinals path).isSome = true ∨
    (findAssoc? catalog.unsupported key).isSome = true

variable {sources : List SourceText} {read : List (SourceText × List Item)} {catalog : Catalog}
  {p : Placed Item}

/-- A declaration is a structure or an enumeration that is collected. -/
theorem mem_collect (hp : p ∈ placedIn read) (hn : p.declares? = some n) :
    (∃ s ∈ (collect read).structs, p.structure? = some s ∧ p.enumeration? = none ∧
        Collected.structPath s = pathIn p.module n) ∨
      ∃ e ∈ (collect read).enums, p.enumeration? = some e ∧ p.structure? = none ∧
        Collected.enumPath e = pathIn p.module n := by
  rw [structs_collect, enums_collect]
  obtain ⟨file, module, item⟩ := p
  cases item with
  | structured item =>
      obtain rfl := Option.some.inj hn
      exact Or.inl ⟨_, List.mem_filterMap.2 ⟨_, hp, rfl⟩, rfl, rfl, rfl⟩
  | enumeration item =>
      obtain rfl := Option.some.inj hn
      exact Or.inr ⟨_, List.mem_filterMap.2 ⟨_, hp, rfl⟩, rfl, rfl, rfl⟩
  | imports tree => cases hn
  | module name items => cases hn
  | other => cases hn

namespace DeclaredAt

theorem isName (h : DeclaredAt p E) : ∀ n ∈ E, IsName n := by
  obtain ⟨-, -, hnames⟩ := h
  exact hnames

/-- The path of a declaration is that of its module and its name. -/
theorem pathIn_eq (h : DeclaredAt p E) : ∃ n, p.declares? = some n ∧
    pathIn p.module n = joinPath E := by
  obtain ⟨hmodule, hname, hnames⟩ := h
  refine ⟨_, hname, ?_⟩
  rw [hmodule, pathIn_joinPath]
  exact fun n hn => (hnames n (List.mem_append_left _ hn)).isSegment

/-- The path of a declaration is among the paths of all declarations. -/
theorem mem_declared (h : DeclaredAt p E) (hp : p ∈ placedIn read) :
    joinPath E ∈ (collect read).declared := by
  obtain ⟨n, hn, hpath⟩ := h.pathIn_eq
  unfold Collected.declared
  rw [List.mem_eraseDups, List.mem_append, List.mem_map, List.mem_map, ← hpath]
  obtain ⟨s, hs, -, -, hplace⟩ | ⟨e, he, -, -, hplace⟩ := mem_collect hp hn
  · exact Or.inl ⟨s, hs, hplace⟩
  · exact Or.inr ⟨e, he, hplace⟩

/-- A declaration that was read is known by its path. -/
theorem exists_isKnown (h : DeclaredAt p E) (hread : Reads sources read)
    (hcatalog : parseSources sources = .ok catalog) (hp : p ∈ placedIn read) :
    ∃ key, IsKnown (collect read) catalog p (joinPath E) key := by
  obtain ⟨items, hitems, rfl⟩ := hread
  obtain ⟨items', hitems', hcatalog⟩ := parseSources_eq_ok.1 hcatalog
  obtain rfl := Except.ok.inj (hitems.symm.trans hitems')
  obtain ⟨n, hn, hpath⟩ := h.pathIn_eq
  have hkey : ∃ key, TypeExpr.ofText (joinPath E) = .ok key ∧ key.path = joinPath E ∧
      (key = .named (joinPath E) ↔
        ∀ d ∈ (joinPath E).toList, TypeExpr.isPathChar d = true) := by
    obtain ⟨-, -, hnames⟩ := h
    obtain ⟨hM, hname⟩ := List.forall_mem_append.1 hnames
    exact ofText_joinPath hM (hname _ List.mem_cons_self)
  obtain ⟨key, hkey, hkeyPath, hnamed⟩ := hkey
  refine ⟨key, hkey, hkeyPath, hnamed, ?_, ?_⟩
  · intro s hs
    obtain ⟨s', hs', hstruct, -, hplace⟩ | ⟨-, -, -, hnone, -⟩ := mem_collect hp hn
    · obtain rfl := Option.some.inj (hstruct.symm.trans hs)
      obtain ⟨type, htype, hknown⟩ := catalogOf_struct hcatalog hs'
      rw [hplace, hpath, hkey] at htype
      obtain rfl := Except.ok.inj htype
      exact hknown
    · cases hnone.symm.trans hs
  · intro e he
    obtain ⟨-, -, -, hnone, -⟩ | ⟨e', he', henum, -, hplace⟩ := mem_collect hp hn
    · cases hnone.symm.trans he
    · obtain rfl := Option.some.inj (henum.symm.trans he)
      have hknown := catalogOf_enum hcatalog he'
      rw [hplace, hpath] at hknown
      refine hknown.imp_right ?_
      rintro ⟨type, htype, hrejected⟩
      obtain rfl := Except.ok.inj (hkey.symm.trans htype)
      exact hrejected

end DeclaredAt

/-- A declaration is known by its path, and a path that leads to it is read as
this path exactly if it is written plainly.

A name that a module imports, and does not declare, is read as this path
exactly if the path of its import leads to the declaration and is written
plainly. A name that is not imported either is read so if it is the only
one of its kind, or that of a declaration at the root of the crate. -/
theorem declared_types_found (hread : Reads sources read)
    (hcatalog : parseSources sources = .ok catalog) (hp : p ∈ placedIn read)
    (hE : DeclaredAt p E) (hm : ∀ n ∈ m, IsName n) :
    (∃ key, IsKnown (collect read) catalog p (joinPath E) key) ∧
    (∀ written declared args, Leads m written declared →
      ((collect read).readIn m written args = joinPath E ↔ declared = E ∧ IsPlain written)) ∧
    ∀ w args, IsWord w → pathIn (joinPath m) w ∉ (collect read).declared →
      (∀ written declared, imported? read (joinPath m) w = some written →
        Leads m written declared →
        ((collect read).readIn m [w] args = joinPath E ↔ declared = E ∧ IsPlain written)) ∧
      (imported? read (joinPath m) w = none →
        ((collect read).readIn m [w] args = joinPath E ↔
          ((collect read).scopeOf (joinPath m)).uniqueByName? w = some (joinPath E) ∨
            w = joinPath E)) := by
  refine ⟨hE.exists_isKnown hread hcatalog hp, ?_, ?_⟩
  · intro written declared args hleads
    show Scope.resolve _ written = _ ↔ _
    rw [Scope.resolve_of_leads hleads]
    exact hleads.absolute_eq_iff hm hE.isName
  · intro w args hw hdeclared
    have hresolved : (collect read).readIn m [w] args =
        ((imported? read (joinPath m) w).map (absolute (joinPath m))).getD
          ((((collect read).scopeOf (joinPath m)).uniqueByName? w).getD w) := by
      rw [← findAssoc?_importsOf]
      exact Scope.resolve_of_isWord hw hdeclared
    rw [hresolved]
    constructor
    · intro written declared himported hleads
      rw [himported]
      exact hleads.absolute_eq_iff hm hE.isName
    · intro himported
      rw [himported]
      refine Scope.getD_uniqueByName?_eq_iff (hE.mem_declared hp) ?_
      -- a path that is one name is its own last name
      intro hroot
      have hone : joinPath [w] = w := String.intercalate_singleton
      have hlast := lastSegment_joinPath (List.forall_mem_nil IsSegment) hw.isSegment
      rw [← hroot]
      rwa [List.nil_append, hone] at hlast

/-- A module for books, and one for loans that imports a book under another
name. -/
def loanSources : List SourceText :=
  [⟨"shelf.rs", "shelf", "struct Book \x7b id: i32 \x7d"⟩,
    ⟨"desk.rs", "desk", "use super::shelf::\x7bBook as Novel\x7d; " ++
      "struct Loan \x7b book: crate::shelf::Book, novel: Novel \x7d"⟩]

/-- The sources with their items. -/
def loanRead : List (SourceText × List Item) :=
  loanSources.zip ((loanSources.mapM itemsOf).toOption.getD [])

theorem declared_types_found_loan :
    ∃ catalog, parseSources loanSources = .ok catalog ∧
      (∃ p ∈ placedIn loanRead, DeclaredAt p ["shelf", "Book"] ∧
        ∃ key, IsKnown (collect loanRead) catalog p "shelf::Book" key) ∧
      (collect loanRead).readIn ["desk"] ["crate", "shelf", "Book"] [] = "shelf::Book" ∧
      (collect loanRead).readIn ["desk"] ["Novel"] [] = "shelf::Book" := by
  have hparsed : (parseSources loanSources).toOption.isSome = true ∧
      (∃ p ∈ placedIn loanRead, p.module = "shelf" ∧ p.declares? = some "Book") ∧
      "desk::Novel" ∉ (collect loanRead).declared ∧
      imported? loanRead "desk" "Novel" = some ["super", "shelf", "Book"] := by
    decide +kernel
  obtain ⟨hcatalog, ⟨p, hp, hmodule, hname⟩, hdeclared, himported⟩ := hparsed
  obtain ⟨catalog, hcatalog⟩ := Attempt.exists_ok hcatalog
  have hread : Reads loanSources loanRead := by
    obtain ⟨items, hitems, -⟩ := parseSources_eq_ok.1 hcatalog
    refine ⟨items, hitems, ?_⟩
    unfold loanRead
    rw [hitems]
    rfl
  have hE : DeclaredAt p (["shelf"] ++ ["Book"]) := .intro hmodule hname (by decide)
  have hcrate : Leads ["desk"] ["crate", "shelf", "Book"] ["shelf", "Book"] := .crate _ (by decide)
  have hsuper : Leads ([] ++ ["desk"]) ["super", "shelf", "Book"] ["shelf", "Book"] :=
    .above (by decide) (by decide)
  obtain ⟨hknown, hanchored, hsingle⟩ :=
    declared_types_found (m := ["desk"]) hread hcatalog hp hE (by decide)
  refine ⟨catalog, hcatalog, ⟨p, hp, hE, hknown⟩, ?_, ?_⟩
  · exact (hanchored _ _ [] hcrate).2 ⟨rfl, by decide, by decide⟩
  · obtain ⟨hfound, -⟩ := hsingle "Novel" [] (by decide) hdeclared
    exact (hfound _ _ himported hsuper).2 ⟨rfl, by decide, by decide⟩

/-- A tag, and a post in a module below that refers to it by a type. -/
def postSources (type : String) : List SourceText :=
  [⟨"tag.rs", "a", "struct Tag \x7b name: String \x7d"⟩,
    ⟨"post.rs", "a::b", "struct Post \x7b id: i32, tag: " ++ type ++ " \x7d"⟩]

/-- What is known of the tag and the post, for a path the type is read as. -/
def postCatalog (path : String) : Catalog :=
  ⟨[⟨.named "a::Tag", [.plain "name" (.named "String")], false, none, none, [], none⟩,
    ⟨.named "a::b::Post", [.plain "id" (.named "i32"), .plain "tag" (.named path)], false, none,
      none, [], none⟩], []⟩

/-- Two paths lead to the tag and are not read as its path: one upwards from
`self`, and one with a marker. -/
theorem unplain_not_found :
    (Leads ["a", "b"] ["self", "super", "Tag"] ["a", "Tag"] ∧
      parseSources (postSources "self::super::Tag") = .ok (postCatalog "a::b::super::Tag")) ∧
    Leads ["a", "b"] ["crate", "a", "r#Tag"] ["a", "Tag"] ∧
      parseSources (postSources "crate::a::r#Tag") = .ok (postCatalog "a::r#Tag") ∧
      "a::b::super::Tag" ≠ joinPath ["a", "Tag"] ∧ "a::r#Tag" ≠ joinPath ["a", "Tag"] := by
  have hupwards : Leads (["a"] ++ ["b"]) ["self", "super", "Tag"] ["a", "Tag"] :=
    .aboveHere (by decide) (by decide)
  have hmarked : Leads ["a", "b"] ["crate", "a", "r#Tag"] ["a", "Tag"] := .crate _ (by decide)
  refine ⟨⟨hupwards, ?_⟩, hmarked, ?_, by decide, by decide⟩
  · exact Attempt.toOption_eq_some.1 (by decide +kernel)
  · exact Attempt.toOption_eq_some.1 (by decide +kernel)

end Rowsmith.Source
