/-
The nested structures of a schema, whatever answers were given.

A run resolves the structure of a type once and then remembers it. So
there is one structure for each type, although the describer may describe
the type differently each time it is asked; and whatever a structure is
made of is remembered too (`Library`). This is what makes a type stand for
its structure: the adapter that is generated for the type of a part
handles exactly the parts that are stored there.

While a structure is under construction its type is not remembered, and
could be added by what it is made of. That would take a structure that
contains itself, which is refused. So the invariant of a run is that
nothing is added for a type under construction
(`Progress.AddsOutside`).
-/
import Rowsmith.Proofs.Resolve.Run
import Mathlib.Data.List.Nodup

namespace Rowsmith

-- ============================================================== library

/-- If a part is a structure, it is one of those listed. -/
def Part.ListedIn (structures : List Structure) : Part → Prop
  | .native _ _ => True
  | .mapped _ _ => True
  | .adapted _ _ => True
  | .nested _ type parts => ⟨type, parts⟩ ∈ structures

theorem Part.ListedIn.mono {structures structures' : List Structure} {part : Part}
    (h : part.ListedIn structures) (hsub : structures ⊆ structures') :
    part.ListedIn structures' := by
  cases part with
  | nested head type parts => exact hsub h
  | _ => trivial

/-- Structures of which no two have the same type, with all that they are
made of among them. -/
structure Library (structures : List Structure) : Prop where
  distinct : (structures.map Structure.type).Nodup
  closed : ∀ s ∈ structures, ∀ part ∈ s.parts, part.ListedIn structures

namespace Library

variable {structures : List Structure} {s s' : Structure}

theorem nil : Library [] where
  distinct := .nil
  closed _ h := nomatch h

/-- A type stands for one structure. -/
theorem eq_of_type (h : Library structures) (hs : s ∈ structures) (hs' : s' ∈ structures)
    (htype : s.type = s'.type) : s = s' :=
  List.inj_on_of_nodup_map h.distinct hs hs' htype

/-- A structure is added whose type is new and whose parts are listed. -/
theorem append (h : Library structures) (hnew : ∀ s' ∈ structures, s'.type ≠ s.type)
    (hparts : ∀ part ∈ s.parts, part.ListedIn structures) : Library (structures ++ [s]) := by
  constructor
  · rw [List.map_append, List.map_singleton]
    refine List.Nodup.append h.distinct (List.nodup_singleton _) ?_
    intro type htype hsame
    obtain ⟨s', hs', rfl⟩ := List.mem_map.1 htype
    exact hnew s' hs' (List.mem_singleton.1 hsame)
  · intro s' hs' part hpart
    have hlisted : part.ListedIn structures := by
      rcases List.mem_append.1 hs' with hs' | hs'
      · exact h.closed s' hs' part hpart
      · obtain rfl := List.mem_singleton.1 hs'
        exact hparts part hpart
    exact hlisted.mono (List.subset_append_left ..)

end Library

-- =========================================================== structures

variable {env : Setting} {p p' p'' : Progress} {enclosing : List TypeExpr} {type : TypeExpr}

/-- How a run went on while types were under construction: it remembers a
library, and what it added is not of one of those types. -/
structure Progress.AddsOutside (enclosing : List TypeExpr) (p p' : Progress) : Prop where
  library : Library p'.structures
  kept : p.structures ⊆ p'.structures
  added : ∀ s ∈ p'.structures, s ∈ p.structures ∨ s.type ∉ enclosing

theorem Progress.AddsOutside.same (h : Library p.structures)
    (hsame : p'.structures = p.structures) : p.AddsOutside enclosing p' := by
  refine ⟨hsame ▸ h, fun s hs => hsame ▸ hs, fun s hs => Or.inl (hsame ▸ hs)⟩

theorem Progress.AddsOutside.trans (h : p.AddsOutside enclosing p')
    (h' : p'.AddsOutside enclosing p'') : p.AddsOutside enclosing p'' := by
  refine ⟨h'.library, List.Subset.trans h.kept h'.kept, fun s hs => ?_⟩
  rcases h'.added s hs with hs | hs
  · exact h.added s hs
  · exact Or.inr hs

/-- A step that resolves the structures of types adds outside of the types
under construction. -/
def NestsOutside (enclosing : List TypeExpr) (nest : TypeExpr → Step Structure) : Prop :=
  ∀ type s p p', Library p.structures → nest type p = .ok (s, p') →
    s ∈ p'.structures ∧ p.AddsOutside enclosing p'

theorem resolveReference_structures {request : TableRequest} {f : FieldDecl} {r : Reference}
    (h : resolveReference env request f p = .ok (r, p')) : p'.structures = p.structures := by
  obtain ⟨-, key, hkey⟩ := resolveReference_eq_ok.1 h
  rcases referencedKey_eq_ok.1 hkey with ⟨_, _, -, -, -, -, rfl⟩ | ⟨-, _, _, _, -, -, -, -, -, rfl⟩
  · rfl
  · rfl

/-- What a verdict on a field yields is resolved outside of the types under
construction; if it is a structure, it is remembered. -/
theorem Verdict.Yields.addsOutside {nest : TypeExpr → Step Structure} {f : FieldDecl}
    {v : Verdict} {x : Resolved} {owner : Owner} (hv : verdict? env.locator owner f = some v)
    (hnest : NestsOutside enclosing nest) (h : v.Yields env nest f p x p')
    (hp : Library p.structures) :
    p.AddsOutside enclosing p' ∧ ∀ s, x = .nested s → s ∈ p'.structures := by
  cases v with
  | settled y =>
      obtain ⟨rfl, rfl⟩ := h
      refine ⟨.same hp rfl, fun s hs => ?_⟩
      subst hs
      cases foundBy_of_verdict? hv
  | reference request =>
      obtain ⟨r, hr, rfl⟩ := h
      exact ⟨.same hp (resolveReference_structures hr), fun s hs => nomatch hs⟩
  | nested type =>
      obtain ⟨s, hs, rfl⟩ := h
      obtain ⟨hmem, hadds⟩ := hnest type s p p' hp hs
      exact ⟨hadds, fun s' hs' => Resolved.nested.inj hs' ▸ hmem⟩

/-- The part for what a field was resolved to is listed, if the structure
it may be is. -/
theorem listedIn_of_partFor? {f : FieldDecl} {x : Resolved} {part : Part}
    {structures : List Structure} (h : partFor? f x = some part)
    (hx : ∀ s, x = .nested s → s ∈ structures) : part.ListedIn structures := by
  cases x with
  | reference r => cases h
  | mapped conversion =>
      cases h
      trivial
  | native storage =>
      cases h
      trivial
  | adapted adapter =>
      obtain ⟨-, h⟩ := Option.ite_none_left_eq_some.1 h
      cases h
      trivial
  | nested s =>
      obtain ⟨-, h⟩ := Option.ite_none_left_eq_some.1 h
      cases h
      exact hx s rfl

/-- A type that was not known is not known either once its parts are
resolved: nothing is added for a type under construction. -/
theorem Progress.AddsOutside.fresh (h : p.AddsOutside (type :: enclosing) p')
    (hunknown : p.known? type = none) : ∀ s ∈ p'.structures, s.type ≠ type := by
  intro s hs htype
  rcases h.added s hs with hs | hs
  · exact List.find?_eq_none.1 hunknown s hs (decide_eq_true htype)
  · exact hs (htype ▸ List.mem_cons_self)

/-- A structure is remembered once its parts are resolved, which was done
while its type was under construction too. -/
theorem Progress.AddsOutside.remember {s : Structure}
    (h : p.AddsOutside (s.type :: enclosing) p') (hunknown : p.known? s.type = none)
    (hfresh : s.type ∉ enclosing) (hparts : ∀ part ∈ s.parts, part.ListedIn p'.structures) :
    p.AddsOutside enclosing { p' with structures := p'.structures ++ [s] } := by
  refine ⟨h.library.append (h.fresh hunknown) hparts, List.subset_append_of_subset_left _ h.kept,
    fun s' hs' => ?_⟩
  rcases List.mem_append.1 hs' with hs' | hs'
  · exact (h.added s' hs').imp_right fun hout hmem => hout (List.mem_cons_of_mem _ hmem)
  · obtain rfl := List.mem_singleton.1 hs'
    exact Or.inr hfresh

/-- Parts are resolved outside of the types under construction, and those
that are structures are remembered. -/
theorem resolveParts_addsOutside {nest : TypeExpr → Step Structure} {fields : List FieldDecl}
    {parts : List Part} (hnest : NestsOutside enclosing nest) (hp : Library p.structures)
    (h : fields.mapM (resolvePart env nest type) p = .ok (parts, p')) :
    p.AddsOutside enclosing p' ∧ ∀ part ∈ parts, part.ListedIn p'.structures := by
  obtain ⟨hp', hlisted, -⟩ := Step.mapM_ok (p.AddsOutside enclosing)
    (fun _ part q => Part.ListedIn q.structures part)
    (fun f _ part q q' hq hpart => by
      obtain ⟨v, x, hv, hx, hfor⟩ := resolvePart_eq_ok.1 hpart
      obtain ⟨hadds, hnested⟩ := hx.addsOutside hv hnest hq.library
      exact ⟨hq.trans hadds, listedIn_of_partFor? hfor hnested,
        fun _ _ h => h.mono hadds.kept⟩)
    (.same hp rfl) h
  refine ⟨hp', fun part hpart => ?_⟩
  obtain ⟨f, -, hpart⟩ := Related.exists_mem hlisted.flip hpart
  exact hpart

/-- A structure is resolved outside of the types under construction. -/
theorem structureWithin_nestsOutside {room : Nat} :
    NestsOutside enclosing (structureWithin env room enclosing) := by
  -- on the room; the type of a structure is under construction while its
  -- parts are resolved, so none of them can be of this type
  induction room generalizing enclosing with
  | zero =>
      intro type s p p' hp h
      refine ⟨(structureWithin_known h).2, ?_⟩
      rcases structureWithin_eq_ok.1 h with ⟨-, rfl⟩ | ⟨-, -, _, _, _, _, hroom, -⟩
      · exact .same hp rfl
      · cases hroom
  | succ room ih =>
      intro type s p p' hp h
      refine ⟨(structureWithin_known h).2, ?_⟩
      rcases structureWithin_eq_ok.1 h with
        ⟨-, rfl⟩ | ⟨hunknown, hfresh, room', fields, parts, q, hroom, -, -, hparts, rfl, rfl⟩
      · exact .same hp rfl
      obtain rfl := Nat.succ.inj hroom
      have hstart : Library { p with asked := p.asked ++ [type] }.structures := hp
      obtain ⟨hq, hlisted⟩ := resolveParts_addsOutside ih hstart hparts
      have hstep : p.AddsOutside (type :: enclosing) q := ⟨hq.library, hq.kept, hq.added⟩
      exact hstep.remember hunknown hfresh hlisted

-- ============================================================== schemas

/-- The structure that a field of a table nests is among those of the
schema. -/
theorem nested_mem_structures {room : Nat}
    {answers : List TypeExpr → TypeExpr → Except Failure (List FieldDecl)} {locator : Locator}
    {request : Request} {s : Schema} (h : resolveWithin room answers locator request = .ok s)
    {t : Table} (ht : t ∈ s.tables) {f : TableField} (hf : f ∈ t.fields) {structured : Structure}
    (hkind : f.kind = .nested structured) : structured ∈ s.structures := by
  obtain ⟨id, hid⟩ := List.mem_iff_getElem?.1 ht
  obtain ⟨request, -, hresolved⟩ := (resolveWithin_ok h).tables id t hid
  obtain ⟨decl, hfield⟩ := hresolved.field hf
  exact (hfield.nested hkind).2

end Rowsmith
