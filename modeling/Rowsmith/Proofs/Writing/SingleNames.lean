/-
Names on lines. Names that are derived from others, by the naming rules or
as the places of generated types, hold no line break where the names they
are derived from hold none.

The naming rules cut a name into words and change the case of letters. No
letter has a line break in its other case (`isLineBreak_of_mem_mapCase`), and
nothing else is added but underscores. The place of a generated type is put
together from the module of the declared type and the derived names.
-/
import Rowsmith.Emit.Location
import Rowsmith.Proofs.TypeExpr.Segments
import Rowsmith.Proofs.Writing.SingleLines

namespace Rowsmith

open Text

-- ================================================================= case

namespace Text

/-- What is spelled with characters of a single line is one. -/
theorem isSingleLine_of_subset {s : String} {l : List Char} (h : isSingleLine s = true)
    (hl : l ⊆ s.toList) : isSingleLine (String.ofList l) = true := by
  rw [isSingleLine_iff, String.toList_ofList]
  exact fun c hc => isSingleLine_iff.1 h c (hl hc)

theorem isLineBreak_ofNat {n : Nat} (h : 13 < n) : isLineBreak (Char.ofNat n) = false := by
  refine Bool.eq_false_iff.2 fun hbreak => ?_
  have hcode : (Char.ofNat n).toNat = 10 ∨ (Char.ofNat n).toNat = 13 := by
    rcases Bool.or_eq_true_iff.1 hbreak with hc | hc
    · exact .inl (by rw [beq_iff_eq.1 hc]; rfl)
    · exact .inr (by rw [beq_iff_eq.1 hc]; rfl)
  have hvalue : (Char.ofNat n).toNat = n ∨ (Char.ofNat n).toNat = 0 := by
    by_cases hvalid : n.isValidChar
    · exact .inl (congrArg Char.toNat (dif_pos hvalid))
    · exact .inr (congrArg Char.toNat (dif_neg hvalid))
  omega

/-- The other case of a letter holds no line break. -/
theorem isLineBreak_of_mem_mapCase {rows : List (Nat × Nat × Nat × Nat)}
    {long : List (Nat × List Nat)} (hrows : (rows.all fun r => 13 < r.2.2.2) = true)
    (hlong : (long.all fun entry => entry.2.all (13 < ·)) = true) {c d : Char}
    (hc : isLineBreak c = false) (hd : d ∈ mapCase rows long c) : isLineBreak d = false := by
  unfold mapCase at hd
  split at hd
  case h_1 entry hentry =>
    obtain ⟨n, hn, rfl⟩ := List.mem_map.1 hd
    have hall := List.all_eq_true.1 hlong entry (List.mem_of_find?_eq_some hentry)
    exact isLineBreak_ofNat (by simpa using List.all_eq_true.1 hall n hn)
  case h_2 =>
    split at hd
    case h_1 r hr =>
      obtain rfl := List.mem_singleton.1 hd
      have hfirst : 13 < r.2.2.2 := by
        simpa using List.all_eq_true.1 hrows r (List.mem_of_find?_eq_some hr)
      exact isLineBreak_ofNat (by omega)
    case h_2 =>
      obtain rfl := List.mem_singleton.1 hd
      exact hc

/-- Below 128 the case is changed by core. -/
theorem isLineBreak_ascii {f : Char → Char}
    (hf : ((List.range 128).all fun n => isLineBreak (Char.ofNat n) ||
      !isLineBreak (f (Char.ofNat n))) = true) {c : Char} (hascii : c.toNat < 0x80)
    (hc : isLineBreak c = false) : isLineBreak (f c) = false := by
  have h := List.all_eq_true.1 hf c.toNat (List.mem_range.2 hascii)
  rw [Char.ofNat_toNat, hc] at h
  simpa using h

theorem isLineBreak_of_mem_lowerCase {c d : Char} (hc : isLineBreak c = false)
    (hd : d ∈ lowerCase c) : isLineBreak d = false := by
  unfold lowerCase at hd
  split at hd
  case isTrue hascii =>
    obtain rfl := List.mem_singleton.1 hd
    exact isLineBreak_ascii (by decide +kernel) hascii hc
  case isFalse =>
    exact isLineBreak_of_mem_mapCase (by decide +kernel) (by decide +kernel) hc hd

theorem isLineBreak_of_mem_upperCase {c d : Char} (hc : isLineBreak c = false)
    (hd : d ∈ upperCase c) : isLineBreak d = false := by
  unfold upperCase at hd
  split at hd
  case isTrue hascii =>
    obtain rfl := List.mem_singleton.1 hd
    exact isLineBreak_ascii (by decide +kernel) hascii hc
  case isFalse =>
    exact isLineBreak_of_mem_mapCase (by decide +kernel) (by decide +kernel) hc hd

end Text

-- ================================================================ names

namespace Naming

variable {c : Char} {l w : List Char} {name : String}

theorem mem_of_mem_runs {run : List Char} (hrun : run ∈ runs l) (hc : c ∈ run) : c ∈ l := by
  induction l generalizing run with
  | nil =>
      obtain rfl := List.mem_singleton.1 hrun
      exact hc
  | cons a l ih =>
      unfold runs at hrun
      cases hrest : runs l with
      | nil =>
          rw [hrest] at hrun
          obtain rfl := List.mem_singleton.1 hrun
          exact List.mem_cons.2 (Or.inl (List.mem_singleton.1 hc))
      | cons first more =>
          rw [hrest] at hrun ih
          dsimp only at hrun
          split at hrun
          · rcases List.mem_cons.1 hrun with rfl | hrun
            · rcases List.mem_cons.1 hc with rfl | hc
              · exact List.mem_cons_self
              · exact List.mem_cons_of_mem _ (ih List.mem_cons_self hc)
            · exact List.mem_cons_of_mem _ (ih (List.mem_cons_of_mem _ hrun) hc)
          · rcases List.mem_cons.1 hrun with rfl | hrun
            · cases hc
            · exact List.mem_cons_of_mem _ (ih hrun hc)

theorem mem_of_mem_cutCase {mode : WordMode} {current : List Char}
    (hw : w ∈ cutCase mode current l) (hc : c ∈ w) : c ∈ current ∨ c ∈ l := by
  fun_induction cutCase mode current l generalizing w with
  | case1 => cases hw
  | case2 mode current _ =>
      obtain rfl := List.mem_singleton.1 hw
      exact Or.inl (List.mem_reverse.1 hc)
  | case3 mode current a =>
      obtain rfl := List.mem_singleton.1 hw
      rcases List.mem_cons.1 (List.mem_reverse.1 hc) with rfl | hc
      · exact Or.inr (List.mem_singleton_self _)
      · exact Or.inl hc
  | case4 mode current a following rest _ ih =>
      rcases List.mem_cons.1 hw with rfl | hw
      · rcases List.mem_cons.1 (List.mem_reverse.1 hc) with rfl | hc
        · exact Or.inr List.mem_cons_self
        · exact Or.inl hc
      · rcases ih hw hc with hc | hc
        · cases hc
        · exact Or.inr (List.mem_cons_of_mem _ hc)
  | case5 mode current a following rest _ _ ih =>
      rcases List.mem_cons.1 hw with rfl | hw
      · exact Or.inl (List.mem_reverse.1 hc)
      · rcases ih hw hc with hc | hc
        · obtain rfl := List.mem_singleton.1 hc
          exact Or.inr List.mem_cons_self
        · exact Or.inr (List.mem_cons_of_mem _ hc)
  | case6 mode current a following rest _ _ ih =>
      rcases ih hw hc with hc | hc
      · rcases List.mem_cons.1 hc with rfl | hc
        · exact Or.inr List.mem_cons_self
        · exact Or.inl hc
      · exact Or.inr (List.mem_cons_of_mem _ hc)

/-- The characters of the words of a name are characters of the name. -/
theorem mem_of_mem_words (hw : w ∈ words name) (hc : c ∈ w) : c ∈ name.toList := by
  obtain ⟨run, hrun, hw⟩ := List.mem_flatMap.1 hw
  rcases mem_of_mem_cutCase hw hc with hc | hc
  · cases hc
  · exact mem_of_mem_runs hrun hc

theorem isLineBreak_of_mem_lowerWord (h : ∀ c ∈ w, isLineBreak c = false) {d : Char}
    (hd : d ∈ lowerWord w) : isLineBreak d = false := by
  fun_induction lowerWord w with
  | case1 => cases hd
  | case2 c _ =>
      obtain rfl := List.mem_singleton.1 hd
      rfl
  | case3 c _ => exact isLineBreak_of_mem_lowerCase (h c (List.mem_singleton_self c)) hd
  | case4 c rest _ ih =>
      obtain ⟨hc, hrest⟩ := List.forall_mem_cons.1 h
      rcases List.mem_append.1 hd with hd | hd
      · exact isLineBreak_of_mem_lowerCase hc hd
      · exact ih hrest hd

theorem isLineBreak_of_mem_capitalized (h : ∀ c ∈ w, isLineBreak c = false) {d : Char}
    (hd : d ∈ capitalized w) : isLineBreak d = false := by
  cases w with
  | nil => cases hd
  | cons c rest =>
      obtain ⟨hc, hrest⟩ := List.forall_mem_cons.1 h
      rcases List.mem_append.1 hd with hd | hd
      · exact isLineBreak_of_mem_upperCase hc hd
      · exact isLineBreak_of_mem_lowerWord hrest hd

theorem isSingleLine_snakeCase (h : isSingleLine name = true) :
    isSingleLine (snakeCase name) = true := by
  unfold snakeCase
  refine isSingleLine_intercalate (by decide) fun item hitem => ?_
  obtain ⟨w, hw, rfl⟩ := List.mem_map.1 hitem
  rw [isSingleLine_iff, String.toList_ofList]
  exact fun d hd => isLineBreak_of_mem_lowerWord
    (fun c hc => isSingleLine_iff.1 h c (mem_of_mem_words hw hc)) hd

theorem isSingleLine_camelCase (h : isSingleLine name = true) :
    isSingleLine (camelCase name) = true := by
  unfold camelCase
  rw [isSingleLine_iff, String.toList_ofList]
  intro d hd
  obtain ⟨w, hw, hd⟩ := List.mem_flatMap.1 hd
  exact isLineBreak_of_mem_capitalized
    (fun c hc => isSingleLine_iff.1 h c (mem_of_mem_words hw hc)) hd

theorem mem_of_mem_dropRawMarks (h : c ∈ dropRawMarks l) : c ∈ l := by
  fun_induction dropRawMarks l with
  | case1 rest ih => exact List.mem_cons_of_mem _ (List.mem_cons_of_mem _ (ih h))
  | case2 => exact h

theorem isSingleLine_fileStem (h : isSingleLine name = true) :
    isSingleLine (fileStem name) = true := by
  unfold fileStem storageName
  exact isSingleLine_snakeCase (isSingleLine_of_subset h fun _ => mem_of_mem_dropRawMarks)

theorem isSingleLine_adapterName (h : isSingleLine name = true) :
    isSingleLine (adapterName name) = true := by
  unfold adapterName
  rw [isSingleLine_append, isSingleLine_camelCase h]
  decide

end Naming

-- ================================================================ types

namespace TypeExpr

variable {path : String} {type : TypeExpr}

theorem isSingleLine_lastSegment (h : isSingleLine path = true) :
    isSingleLine (lastSegment path) = true := by
  unfold lastSegment
  split
  case h_1 before after hcut => exact isSingleLine_of_subset h (mem_of_cutLast hcut).2
  case h_2 => exact h

theorem isSingleLine_name (h : isSingleLine type.path = true) :
    isSingleLine type.name = true := by
  unfold name
  split
  · exact isSingleLine_lastSegment h
  · exact h

theorem isSingleLine_module {module : String} (h : isSingleLine type.path = true)
    (hmodule : type.module? = some module) : isSingleLine module = true := by
  unfold module? at hmodule
  split at hmodule
  · obtain ⟨cut, hcut, rfl⟩ := Option.map_eq_some_iff.1 hmodule
    exact isSingleLine_of_subset h (mem_of_cutLast hcut).1
  · cases hmodule

end TypeExpr

-- =============================================================== places

namespace Emit

variable {target : Target} {type : TypeExpr} {t : Table}

/-- The path of a declared type is written on a line if its own path is. -/
theorem isSingleLine_cratePath (type : TypeExpr) :
    isSingleLine (cratePath type) = isSingleLine type.path := by
  have hcrate : isSingleLine "crate::" = true := by decide
  unfold cratePath
  split
  · rfl
  · rw [isSingleLine_append, hcrate, Bool.true_and]

theorem mem_of_mem_dropCrateMarks {l : List Char} {c : Char} (h : c ∈ dropCrateMarks l) :
    c ∈ l := by
  fun_induction dropCrateMarks l with
  | case1 rest ih => simp [ih h]
  | case2 => exact h

theorem isSingleLine_root (h : isSingleLine target.generatedModule = true) :
    isSingleLine target.root = true := by
  unfold Target.root
  split
  case h_1 => decide
  case h_2 =>
    have hbelow := isSingleLine_of_subset h fun _ => mem_of_mem_dropCrateMarks
    rw [isSingleLine_append, hbelow]
    decide

theorem isSingleLine_of_mem_modulesOf {path module : String} (h : isSingleLine path = true)
    (hmodule : module ∈ Location.modulesOf path) : isSingleLine module = true := by
  obtain ⟨hmodule, -⟩ := List.mem_filter.1 hmodule
  obtain ⟨segment, hsegment, rfl⟩ := List.mem_map.1 hmodule
  exact isSingleLine_of_subset h fun _ hc =>
    mem_of_mem_dropCrateMarks (TypeExpr.mem_of_mem_segments hsegment hc)

theorem isSingleLine_modules {name : String} (h : isSingleLine type.path = true) :
    ∀ module ∈ (Location.beside type name).modules, isSingleLine module = true := by
  intro module hmodule
  unfold Location.beside at hmodule
  cases hfound : type.module? with
  | none =>
      rw [hfound] at hmodule
      cases hmodule
  | some path =>
      rw [hfound] at hmodule
      exact isSingleLine_of_mem_modulesOf (TypeExpr.isSingleLine_module h hfound) hmodule

theorem isSingleLine_foldl_modules {modules : List String} {path : String}
    (h : ∀ module ∈ modules, isSingleLine module = true) (hpath : isSingleLine path = true) :
    isSingleLine (modules.foldl (fun path m => path ++ "::" ++ m) path) = true := by
  have hcolons : isSingleLine "::" = true := by decide
  induction modules generalizing path with
  | nil => exact hpath
  | cons module modules ih =>
      obtain ⟨hmodule, hmodules⟩ := List.forall_mem_cons.1 h
      refine ih hmodules ?_
      simp only [isSingleLine_append, hpath, hcolons, hmodule, Bool.and_self]

/-- A generated type beside a declared one is written in full on a line, if
both their names are. -/
theorem isSingleLine_fullPath {name : String}
    (htarget : isSingleLine target.generatedModule = true) (htype : isSingleLine type.path = true)
    (hname : isSingleLine name = true) :
    isSingleLine ((Location.beside type name).fullPath target) = true := by
  have hmodules := @isSingleLine_modules type name htype
  have hbefore := isSingleLine_foldl_modules hmodules (isSingleLine_root htarget)
  have hcolons : isSingleLine "::" = true := by decide
  unfold Location.fullPath
  rw [isSingleLine_append, isSingleLine_append, isSingleLine_append, isSingleLine_append, hbefore,
    hcolons]
  unfold Location.beside
  dsimp only
  rw [Naming.isSingleLine_fileStem hname, hname]
  rfl

end Emit

end Rowsmith
