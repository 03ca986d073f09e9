/-
How the models of the settings are merged with the declared ones.

The requests of a run are a list that grows while it is searched: an entry
of the settings finds the request for its type, or else puts a new one at
the end. What the list is after any number of entries can be said without
it (`mergeAll_eq`): it has one request for each type, declared models first
and then the other types as they are first named (`mergedTypes`), and the
request for a type is the first one for it, with the entries for that type
applied in their order and no others (`configured`). Of an option the last
entry counts that gives it, since each one applied replaces what it gives
and nothing else (`foldl_apply_table` and its likes).

The types and the keys of entries are read from texts. A text with a blank
of several bytes where blanks are skipped cannot be read, and nothing is
merged then.

Main result: `models_merge_iff`.
-/
import Mathlib.Data.List.Forall2
import Mathlib.Data.List.Induction
import Mathlib.Data.List.Nodup
import Rowsmith.Proofs.Attempt
import Rowsmith.Settings.Override

namespace Rowsmith

open Attempt

variable {c : Catalog} {o : Override} {overrides : List Override} {type : TypeExpr}

-- =============================================================== options

/-- The last value that entries give, and otherwise a fallback. -/
def lastGiven {ε α : Type} (given : ε → Option α) (entries : List ε) (fallback : α) : α :=
  (entries.filterMap given).getLast?.getD fallback

theorem lastGiven_cons {ε α : Type} (given : ε → Option α) (e : ε) (entries : List ε)
    (fallback : α) : lastGiven given (e :: entries) fallback =
      lastGiven given entries ((given e).getD fallback) := by
  unfold lastGiven
  cases hgiven : given e with
  | none => rw [List.filterMap_cons_none hgiven, Option.getD_none]
  | some value =>
      rw [List.filterMap_cons_some hgiven, List.getLast?_cons, Option.getD_some, Option.getD_some]

/-- Entries that give the same values have the same last one. -/
theorem lastGiven_congr {ε ε' α : Type} {given : ε → Option α} {given' : ε' → Option α}
    {entries : List ε} {entries' : List ε'}
    (h : List.Forall₂ (fun e e' => given e = given' e') entries entries') (fallback : α) :
    lastGiven given entries fallback = lastGiven given' entries' fallback := by
  induction h generalizing fallback with
  | nil => rfl
  | cons hsame _ ih => rw [lastGiven_cons, lastGiven_cons, hsame, ih]

namespace Override

/-- The keys that an override gives: some, or none at all. -/
def givenKeys (o : Override) : Option (List TypeExpr) :=
  if o.keys.isEmpty then none else some o.keys

theorem foldl_apply_table (overrides : List Override) (r : TableRequest) :
    (overrides.foldl (fun r o => o.apply r) r).table = lastGiven (·.table) overrides r.table := by
  induction overrides generalizing r with
  | nil => rfl
  | cons o overrides ih =>
      rw [List.foldl_cons, ih, lastGiven_cons]
      rfl

theorem foldl_apply_accessor (overrides : List Override) (r : TableRequest) :
    (overrides.foldl (fun r o => o.apply r) r).accessor =
      lastGiven (·.accessor) overrides r.accessor := by
  induction overrides generalizing r with
  | nil => rfl
  | cons o overrides ih =>
      rw [List.foldl_cons, ih, lastGiven_cons]
      rfl

theorem foldl_apply_keys (overrides : List Override) (r : TableRequest) :
    (overrides.foldl (fun r o => o.apply r) r).keys = lastGiven givenKeys overrides r.keys := by
  induction overrides generalizing r with
  | nil => rfl
  | cons o overrides ih =>
      have hkeys : (o.apply r).keys = o.givenKeys.getD r.keys := by
        unfold apply givenKeys
        dsimp only
        split <;> rfl
      rw [List.foldl_cons, ih, lastGiven_cons, hkeys]

/-- No override bears on the type of a model or on what it links. -/
theorem foldl_apply_fixed (overrides : List Override) (r : TableRequest) :
    (overrides.foldl (fun r o => o.apply r) r).model = r.model ∧
      (overrides.foldl (fun r o => o.apply r) r).bridge = r.bridge := by
  induction overrides generalizing r with
  | nil => exact ⟨rfl, rfl⟩
  | cons o overrides ih =>
      rw [List.foldl_cons]
      exact ih (o.apply r)

-- ======================================================== first requests

/-- The first request for a type has the options of its declaration, and
otherwise the default ones. -/
theorem firstRequest_spec (c : Catalog) (type : TypeExpr) :
    firstRequest c type = {
      table := ((c.find? type).bind (·.table)).getD (Naming.tableName type.name)
      accessor := ((c.find? type).bind (·.accessor)).getD (Naming.accessorName type.name)
      model := type
      keys := ((c.find? type).map (·.keys)).getD []
      bridge := (c.find? type).bind (·.bridge) } := by
  unfold firstRequest
  cases hfind : c.find? type with
  | none =>
      simp only [TableRequest.ofModel, Option.bind_none, Option.map_none, Option.getD_none]
  | some d =>
      unfold Catalog.find? at hfind
      obtain rfl : d.type = type := by simpa using List.find?_some hfind
      simp only [StructDecl.toRequest, TableRequest.ofModel, Option.bind_some, Option.map_some,
        Option.getD_some]

/-- A declared type is found by itself. -/
theorem find?_type (hdistinct : (c.decls.map (·.type)).Nodup) {d : StructDecl}
    (hd : d ∈ c.decls) : c.find? d.type = some d := by
  unfold Catalog.find?
  obtain ⟨before, after, hsplit⟩ := List.append_of_mem hd
  rw [hsplit, List.map_append, List.map_cons, List.nodup_middle, List.nodup_cons] at hdistinct
  rw [hsplit]
  refine List.find?_eq_some_iff_append.2 ⟨decide_eq_true rfl, before, after, rfl, ?_⟩
  intro d' hd'
  rw [Bool.not_eq_true', decide_eq_false_iff_not]
  intro hsame
  exact hdistinct.1 (List.mem_append_left _ (List.mem_map.2 ⟨d', hd', hsame⟩))

-- ============================================================ whole runs

/-- The types of the declared models. -/
def declaredTypes (c : Catalog) : List TypeExpr := c.models.map (·.type)

/-- The types of the declared models, and then the other types that are
named, in the order in which they are first named. -/
def mergedTypes (c : Catalog) (named : List TypeExpr) : List TypeExpr :=
  declaredTypes c ++ (named.filter fun type => type ∉ declaredTypes c).eraseDups

/-- The request for a type: the first one for it, with all overrides for
that type applied. -/
def configured (c : Catalog) (overrides : List Override) (type : TypeExpr) : TableRequest :=
  (overrides.filter (·.model = type)).foldl (fun r o => o.apply r) (firstRequest c type)

theorem configured_model : (configured c overrides type).model = type := by
  unfold configured
  rw [(foldl_apply_fixed _ _).1, firstRequest_spec]

theorem configured_concat (c : Catalog) (overrides : List Override) (o : Override)
    (type : TypeExpr) : configured c (overrides ++ [o]) type =
      if o.model = type then o.apply (configured c overrides type)
      else configured c overrides type := by
  unfold configured
  rw [List.filter_append]
  split
  case isTrue h =>
    rw [List.filter_cons_of_pos (by simpa using h), List.foldl_append]
    rfl
  case isFalse h =>
    rw [List.filter_cons_of_neg (by simpa using h), List.filter_nil, List.append_nil]

/-- An override of a type that there is a request for changes that request
alone. -/
theorem merge_map_of_mem {types : List TypeExpr} {requestFor : TypeExpr → TableRequest}
    (hmodel : ∀ type, (requestFor type).model = type) (hnodup : types.Nodup)
    (h : o.model ∈ types) : merge c (types.map requestFor) o =
      types.map fun type => if o.model = type then o.apply (requestFor type)
        else requestFor type := by
  induction types with
  | nil => cases h
  | cons type types ih =>
      obtain ⟨hfresh, hnodup⟩ := List.nodup_cons.1 hnodup
      rw [List.map_cons, List.map_cons, merge, hmodel]
      by_cases hsame : type = o.model
      · subst hsame
        rw [if_pos rfl, if_pos rfl]
        refine congrArg _ (List.map_congr_left fun other hother => ?_)
        rw [if_neg (ne_of_mem_of_not_mem hother hfresh).symm]
      · rw [if_neg hsame, if_neg (Ne.symm hsame)]
        exact congrArg _ (ih hnodup ((List.mem_cons.1 h).resolve_left (Ne.symm hsame)))

/-- An override of any other type adds a request. -/
theorem merge_map_of_notMem {types : List TypeExpr} {requestFor : TypeExpr → TableRequest}
    (hmodel : ∀ type, (requestFor type).model = type) (h : o.model ∉ types) :
    merge c (types.map requestFor) o =
      types.map requestFor ++ [o.apply (firstRequest c o.model)] := by
  induction types with
  | nil => rfl
  | cons type types ih =>
      obtain ⟨hother, hrest⟩ := not_or.1 (mt List.mem_cons.2 h)
      rw [List.map_cons, merge, hmodel, if_neg (Ne.symm hother), ih hrest]
      rfl

theorem mem_mergedTypes {named : List TypeExpr} :
    type ∈ mergedTypes c named ↔ type ∈ declaredTypes c ∨ type ∈ named := by
  unfold mergedTypes
  rw [List.mem_append, List.mem_eraseDups, List.mem_filter, decide_eq_true_iff]
  constructor
  · exact Or.imp_right And.left
  · intro h
    by_cases hdeclared : type ∈ declaredTypes c
    · exact Or.inl hdeclared
    · exact Or.inr ⟨h.resolve_left hdeclared, hdeclared⟩

/-- Naming a type once more changes nothing. -/
theorem mergedTypes_concat_of_mem {named : List TypeExpr} (h : type ∈ mergedTypes c named) :
    mergedTypes c (named ++ [type]) = mergedTypes c named := by
  unfold mergedTypes
  rw [List.filter_append, List.eraseDups_append]
  rcases mem_mergedTypes.1 h with hdeclared | hnamed
  · rw [List.filter_cons_of_neg (by simpa using hdeclared)]
    simp
  · by_cases hdeclared : type ∈ declaredTypes c
    · simp [List.removeAll, hdeclared]
    · simp [List.removeAll, hdeclared, hnamed]

/-- A type that is named for the first time comes last. -/
theorem mergedTypes_concat_of_notMem {named : List TypeExpr} (h : type ∉ mergedTypes c named) :
    mergedTypes c (named ++ [type]) = mergedTypes c named ++ [type] := by
  obtain ⟨hdeclared, hnamed⟩ := not_or.1 (mt mem_mergedTypes.2 h)
  unfold mergedTypes
  rw [List.filter_append, List.eraseDups_append]
  simp [List.removeAll, List.eraseDups_cons, hdeclared, hnamed]

theorem nodup_mergedTypes (hdistinct : (c.decls.map (·.type)).Nodup) (named : List TypeExpr) :
    (mergedTypes c named).Nodup := by
  refine List.nodup_append'.2 ⟨?_, Related.nodup_eraseDups _, ?_⟩
  · exact hdistinct.sublist (List.filter_sublist.map _)
  · intro type hdeclared hnamed
    have hother := (List.mem_filter.1 (List.mem_eraseDups.1 hnamed)).2
    exact absurd hdeclared (by simpa using hother)

/-- All overrides together leave one request for each type, with what the
overrides for that type make of it. -/
theorem mergeAll_eq (hdistinct : (c.decls.map (·.type)).Nodup) (overrides : List Override) :
    mergeAll c overrides =
      (mergedTypes c (overrides.map (·.model))).map (configured c overrides) := by
  -- on the overrides from the last one, which was applied to the requests before
  induction overrides using List.reverseRecOn with
  | nil =>
      unfold mergeAll mergedTypes declaredTypes
      rw [List.foldl_nil, List.map_nil, List.filter_nil, List.eraseDups_nil, List.append_nil,
        List.map_map]
      refine List.map_congr_left fun d hd => ?_
      have hfind := find?_type hdistinct (List.mem_of_mem_filter hd)
      show d.toRequest = firstRequest c d.type
      unfold firstRequest
      rw [hfind]
  | append_singleton overrides o ih =>
      have hstep : mergeAll c (overrides ++ [o]) = merge c (mergeAll c overrides) o :=
        List.foldl_concat ..
      rw [hstep, ih, List.map_append, List.map_singleton]
      by_cases hmem : o.model ∈ mergedTypes c (overrides.map (·.model))
      · rw [mergedTypes_concat_of_mem hmem, merge_map_of_mem (fun _ => configured_model)
          (nodup_mergedTypes hdistinct _) hmem]
        exact List.map_congr_left fun type _ => (configured_concat c overrides o type).symm
      · have hother : ∀ type ∈ mergedTypes c (overrides.map (·.model)), o.model ≠ type :=
          fun type htype heq => hmem (heq ▸ htype)
        have hfirst : configured c overrides o.model = firstRequest c o.model := by
          unfold configured
          have hnone : overrides.filter (·.model = o.model) = [] := by
            refine List.filter_eq_nil_iff.2 fun o' ho' hsame => hmem (mem_mergedTypes.2 (Or.inr ?_))
            exact List.mem_map.2 ⟨o', ho', by simpa using hsame⟩
          rw [hnone, List.foldl_nil]
        rw [mergedTypes_concat_of_notMem hmem, merge_map_of_notMem (fun _ => configured_model) hmem,
          List.map_append, List.map_singleton, configured_concat, if_pos rfl, hfirst]
        refine congrArg (· ++ _) (List.map_congr_left fun type htype => ?_)
        rw [configured_concat, if_neg (hother type htype)]

end Override

-- =============================================================== entries

namespace TypeExpr

/-- A text is taken for a type unless a blank would be cut. -/
theorem ofText_succeeds_iff {text : String} :
    (∃ t, ofText text = .ok t) ↔ read text ≠ .error .splitBlank := by
  unfold ofText
  cases hread : read text with
  | ok t => simp
  | error e => cases e <;> simp

end TypeExpr

theorem Catalog.typeNamed_succeeds_iff {name : String} :
    (∃ t, c.typeNamed name = .ok t) ↔ TypeExpr.read name ≠ .error .splitBlank := by
  rw [← TypeExpr.ofText_succeeds_iff]
  unfold Catalog.typeNamed
  constructor
  · intro ⟨t, h⟩
    obtain ⟨read, hread, -⟩ := bind_eq_ok.1 h
    exact ⟨read, hread⟩
  · intro ⟨t, h⟩
    rw [h]
    dsimp only [bind, Except.bind]
    split
    · exact ⟨_, rfl⟩
    · exact ⟨_, rfl⟩

namespace Settings

/-- The keys that an entry gives: some, or none at all. -/
def ModelEntry.givenKeys (e : ModelEntry) : Option (List TypeExpr) :=
  if e.keys.isEmpty then none else (e.keys.mapM TypeExpr.ofText).toOption

/-- The entries for models of a type, in whatever way they name it. -/
def entriesFor (c : Catalog) (entries : List ModelEntry) (type : TypeExpr) : List ModelEntry :=
  entries.filter fun e => c.typeNamed e.name = .ok type

/-- Requests are the declared models merged with entries: one for each
type, the declared models first and then the other types as the entries
first name them. Of each option the last entry for the type counts that
gives it, then the declaration, and then the default; what a model links
is left to its declaration. -/
structure Merged (c : Catalog) (entries : List ModelEntry) (requests : List TableRequest) :
    Prop where
  types : ∃ named,
    List.Forall₂ (fun (e : ModelEntry) type => c.typeNamed e.name = .ok type) entries named ∧
      requests.map (·.model) = Override.mergedTypes c named
  distinct : (requests.map (·.model)).Nodup
  table : ∀ r ∈ requests, r.table = lastGiven (·.table) (entriesFor c entries r.model)
    (((c.find? r.model).bind (·.table)).getD (Naming.tableName r.model.name))
  accessor : ∀ r ∈ requests, r.accessor = lastGiven (·.accessor) (entriesFor c entries r.model)
    (((c.find? r.model).bind (·.accessor)).getD (Naming.accessorName r.model.name))
  keys : ∀ r ∈ requests, r.keys = lastGiven (·.givenKeys) (entriesFor c entries r.model)
    (((c.find? r.model).map (·.keys)).getD [])
  bridge : ∀ r ∈ requests, r.bridge = (c.find? r.model).bind (·.bridge)

theorem ModelEntry.override_eq_ok {e : ModelEntry} :
    e.override c = .ok o ↔ c.typeNamed e.name = .ok o.model ∧ o.table = e.table ∧
      o.accessor = e.accessor ∧ e.keys.mapM TypeExpr.ofText = .ok o.keys := by
  unfold ModelEntry.override
  constructor
  · intro h
    obtain ⟨model, hmodel, h⟩ := bind_eq_ok.1 h
    obtain ⟨keys, hkeys, h⟩ := bind_eq_ok.1 h
    obtain rfl := pure_eq_ok.1 h
    exact ⟨hmodel, rfl, rfl, hkeys⟩
  · intro ⟨hmodel, htable, haccessor, hkeys⟩
    refine bind_eq_ok.2 ⟨_, hmodel, bind_eq_ok.2 ⟨_, hkeys, ?_⟩⟩
    rw [← htable, ← haccessor]
    rfl

/-- An override gives the keys that its entry gives. -/
theorem ModelEntry.givenKeys_eq {e : ModelEntry} (h : e.override c = .ok o) :
    e.givenKeys = o.givenKeys := by
  obtain ⟨-, -, -, hkeys⟩ := ModelEntry.override_eq_ok.1 h
  unfold givenKeys Override.givenKeys
  rw [hkeys]
  have hlength := (mapM_eq_ok_iff.1 hkeys).length_eq
  cases hgiven : o.keys with
  | nil =>
      rw [hgiven, List.length_nil, List.length_eq_zero_iff] at hlength
      rw [hlength]
      rfl
  | cons key keys =>
      rw [hgiven, List.length_cons] at hlength
      rw [if_neg (by rw [List.isEmpty_iff_length_eq_zero, hlength]; exact Nat.succ_ne_zero _)]
      rfl

section

variable {entries : List ModelEntry}

/-- The overrides for a type are those that the entries for it mean. -/
theorem overridesFor (h : List.Forall₂ (fun e o => e.override c = .ok o) entries overrides)
    (type : TypeExpr) : List.Forall₂ (fun e o => ModelEntry.override c e = .ok o)
      (entriesFor c entries type) (overrides.filter (·.model = type)) := by
  unfold entriesFor
  induction h with
  | nil => exact .nil
  | @cons e o entries overrides hfirst _ ih =>
      have hsame := (ModelEntry.override_eq_ok.1 hfirst).1
      by_cases htype : o.model = type
      · rw [List.filter_cons_of_pos (by simpa [hsame] using htype),
          List.filter_cons_of_pos (by simpa using htype)]
        exact .cons hfirst ih
      · rw [List.filter_cons_of_neg (by simpa [hsame] using htype),
          List.filter_cons_of_neg (by simpa using htype)]
        exact ih

theorem merged_of_overrides (hdistinct : (c.decls.map (·.type)).Nodup)
    (h : List.Forall₂ (fun e o => e.override c = .ok o) entries overrides) :
    Merged c entries (Override.mergeAll c overrides) := by
  have hgiven : ∀ {α : Type} {given : ModelEntry → Option α} {given' : Override → Option α},
      (∀ e o, ModelEntry.override c e = .ok o → given e = given' o) → ∀ type fallback,
      lastGiven given' (overrides.filter (·.model = type)) fallback =
        lastGiven given (entriesFor c entries type) fallback := by
    intro α given given' hsame type fallback
    exact (lastGiven_congr ((overridesFor h type).imp hsame) fallback).symm
  have hrequest : ∀ r ∈ Override.mergeAll c overrides,
      r = Override.configured c overrides r.model := by
    intro r hr
    rw [Override.mergeAll_eq hdistinct] at hr
    obtain ⟨type, -, rfl⟩ := List.mem_map.1 hr
    rw [Override.configured_model]
  have hmodels : (Override.mergeAll c overrides).map (·.model) =
      Override.mergedTypes c (overrides.map (·.model)) := by
    rw [Override.mergeAll_eq hdistinct, List.map_map]
    exact (List.map_congr_left fun type _ => Override.configured_model).trans (List.map_id _)
  constructor
  case types =>
    refine ⟨overrides.map (·.model), List.forall₂_map_right_iff.2 (h.imp fun e o ho => ?_), hmodels⟩
    exact (ModelEntry.override_eq_ok.1 ho).1
  case distinct =>
    rw [hmodels]
    exact Override.nodup_mergedTypes hdistinct _
  case table =>
    intro r hr
    rw [congrArg TableRequest.table (hrequest r hr), Override.configured,
      Override.foldl_apply_table, Override.firstRequest_spec]
    exact hgiven (fun e o ho => (ModelEntry.override_eq_ok.1 ho).2.1.symm) _ _
  case accessor =>
    intro r hr
    rw [congrArg TableRequest.accessor (hrequest r hr), Override.configured,
      Override.foldl_apply_accessor, Override.firstRequest_spec]
    exact hgiven (fun e o ho => (ModelEntry.override_eq_ok.1 ho).2.2.1.symm) _ _
  case keys =>
    intro r hr
    rw [congrArg TableRequest.keys (hrequest r hr), Override.configured,
      Override.foldl_apply_keys, Override.firstRequest_spec]
    exact hgiven (fun e o ho => ModelEntry.givenKeys_eq ho) _ _
  case bridge =>
    intro r hr
    rw [congrArg TableRequest.bridge (hrequest r hr), Override.configured,
      (Override.foldl_apply_fixed _ _).2, Override.firstRequest_spec]

end

-- ================================================================= runs

/-- The texts of settings that are read as the types of models, of their
keys, and of structures. -/
def typeTexts (s : Settings) : List String :=
  s.models.flatMap (fun e => e.name :: e.keys) ++ s.structures

theorem request_eq_ok {s : Settings} {q : Request} :
    s.request c = .ok q ↔ ∃ overrides,
      List.Forall₂ (fun e o => ModelEntry.override c e = .ok o) s.models overrides ∧
        List.Forall₂ (fun name type => c.typeNamed name = .ok type) s.structures q.structures ∧
        q.models = Override.mergeAll c overrides := by
  unfold request
  constructor
  · intro h
    obtain ⟨overrides, hoverrides, h⟩ := bind_eq_ok.1 h
    obtain ⟨structures, hstructures, h⟩ := bind_eq_ok.1 h
    obtain rfl := pure_eq_ok.1 h
    exact ⟨overrides, mapM_eq_ok_iff.1 hoverrides, mapM_eq_ok_iff.1 hstructures, rfl⟩
  · intro ⟨overrides, hoverrides, hstructures, hmodels⟩
    refine bind_eq_ok.2 ⟨overrides, mapM_eq_ok_iff.2 hoverrides, ?_⟩
    refine bind_eq_ok.2 ⟨q.structures, mapM_eq_ok_iff.2 hstructures, ?_⟩
    rw [← hmodels]
    rfl

/-- An entry can be used if its name and its keys are read. -/
theorem ModelEntry.override_succeeds_iff {e : ModelEntry} :
    (∃ o, e.override c = .ok o) ↔
      ∀ text ∈ e.name :: e.keys, TypeExpr.read text ≠ .error .splitBlank := by
  rw [List.forall_mem_cons, ← Catalog.typeNamed_succeeds_iff]
  constructor
  · intro ⟨o, h⟩
    obtain ⟨hname, -, -, hkeys⟩ := ModelEntry.override_eq_ok.1 h
    refine ⟨⟨_, hname⟩, fun key hkey => TypeExpr.ofText_succeeds_iff.1 ?_⟩
    obtain ⟨type, -, htype⟩ := Related.exists_mem (mapM_eq_ok_iff.1 hkeys) hkey
    exact ⟨type, htype⟩
  · intro ⟨⟨type, hname⟩, hkeys⟩
    obtain ⟨keys, hread⟩ := mapM_succeeds fun key hkey =>
      TypeExpr.ofText_succeeds_iff.2 (hkeys key hkey)
    exact ⟨⟨type, e.table, e.accessor, keys⟩,
      ModelEntry.override_eq_ok.2 ⟨hname, rfl, rfl, hread⟩⟩

theorem request_succeeds_iff {s : Settings} :
    (∃ q, s.request c = .ok q) ↔
      ∀ text ∈ s.typeTexts, TypeExpr.read text ≠ .error .splitBlank := by
  unfold typeTexts
  constructor
  · intro ⟨q, h⟩ text htext
    obtain ⟨overrides, hoverrides, hstructures, -⟩ := request_eq_ok.1 h
    rcases List.mem_append.1 htext with hmodel | hstructure
    · obtain ⟨e, he, htext⟩ := List.mem_flatMap.1 hmodel
      obtain ⟨o, -, ho⟩ := Related.exists_mem hoverrides he
      exact ModelEntry.override_succeeds_iff.1 ⟨o, ho⟩ text htext
    · obtain ⟨type, -, htype⟩ := Related.exists_mem hstructures hstructure
      exact Catalog.typeNamed_succeeds_iff.1 ⟨type, htype⟩
  · intro h
    obtain ⟨hmodels, hstructures⟩ := List.forall_mem_append.1 h
    obtain ⟨overrides, hoverrides⟩ := Related.exists_forall₂ fun e he =>
      ModelEntry.override_succeeds_iff.2 fun text htext =>
        hmodels text (List.mem_flatMap.2 ⟨e, he, htext⟩)
    obtain ⟨types, htypes⟩ := Related.exists_forall₂ fun name hname =>
      Catalog.typeNamed_succeeds_iff.2 (hstructures name hname)
    exact ⟨⟨_, types⟩, request_eq_ok.2 ⟨overrides, hoverrides, htypes, rfl⟩⟩

/-- The models of the settings are merged with the declared ones exactly if
every text that stands for a type can be read, which a blank of several
bytes in a place where blanks are skipped prevents. -/
theorem models_merge_iff (s : Settings) (c : Catalog)
    (hdistinct : (c.decls.map (·.type)).Nodup) :
    (∃ q, s.request c = .ok q ∧ Merged c s.models q.models) ↔
      ∀ text ∈ s.typeTexts, TypeExpr.read text ≠ .error .splitBlank := by
  rw [← request_succeeds_iff (c := c)]
  constructor
  · intro ⟨q, h, _⟩
    exact ⟨q, h⟩
  · intro ⟨q, h⟩
    obtain ⟨overrides, hoverrides, -, hmodels⟩ := request_eq_ok.1 h
    exact ⟨q, h, hmodels ▸ merged_of_overrides hdistinct hoverrides⟩

/-- A declared model, and two structures that are not marked as models. -/
def shopCatalog : Catalog where
  decls := [
    ⟨.named "model::User", [.plain "id" (.named "i32")], true, some "users", none, [], none⟩,
    ⟨.named "model::Tag", [.plain "id" (.named "i64")], false, none, some "Tags", [], none⟩,
    ⟨.named "geo::Point", [.plain "x" (.named "f64")], false, none, none, [], none⟩]
  unsupported := []

/-- Settings that name one structure in two ways. -/
def shopSettings : Settings :=
  { Settings.default with
    models := [
      ⟨"Tag", some "labels", none, ["legacy::Tag"]⟩,
      ⟨"model::User", none, some "Users", []⟩,
      ⟨"model::Tag", some "tags", none, []⟩]
    structures := ["Point"] }

theorem models_merge_shop :
    (shopCatalog.decls.map (·.type)).Nodup ∧
      (∀ text ∈ shopSettings.typeTexts, TypeExpr.read text ≠ .error .splitBlank) ∧
      ∃ q, shopSettings.request shopCatalog = .ok q ∧ Merged shopCatalog shopSettings.models q.models ∧
        q.models.map (fun r => (r.model.print, r.table, r.accessor, r.keys)) =
          [("model::User", "users", "Users", []),
            ("model::Tag", "tags", "Tags", [.named "legacy::Tag"])] := by
  have hdistinct : (shopCatalog.decls.map (·.type)).Nodup := by decide
  have hread : ∀ text ∈ shopSettings.typeTexts, TypeExpr.read text ≠ .error .splitBlank := by
    decide +kernel
  obtain ⟨q, hq, hmerged⟩ := (models_merge_iff shopSettings shopCatalog hdistinct).2 hread
  have hmodels : ((shopSettings.request shopCatalog).toOption.map fun q =>
      q.models.map fun r => (r.model.print, r.table, r.accessor, r.keys)) =
        some [("model::User", "users", "Users", []),
          ("model::Tag", "tags", "Tags", [.named "legacy::Tag"])] := by decide +kernel
  rw [hq] at hmodels
  exact ⟨hdistinct, hread, q, hq, hmerged, Option.some.inj hmodels⟩

/-- A name that begins with a blank of two bytes cannot be read. -/
def wideSettings : Settings :=
  { Settings.default with models := [⟨"\u00a0model::User", none, none, []⟩] }

theorem wide_name_not_merged : ¬ ∃ q, wideSettings.request shopCatalog = .ok q := by
  intro ⟨q, h⟩
  have hnone : (wideSettings.request shopCatalog).toOption.isNone = true := by decide +kernel
  rw [h] at hnone
  cases hnone

end Settings

end Rowsmith
