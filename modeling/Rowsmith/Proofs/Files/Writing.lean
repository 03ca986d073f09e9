/-
What writing files does to the files that are there. The files are kept in
a map in which every access is granted (`FileMap`). Which paths lead to the
same place is left open: paths may be told apart by their texts, by their
components or by where links lead. What counts is that no two files of a
list lead to one place.

Each file is compared with the map as it is when its turn comes. Since the
files before it went to other places, this is how the map was in the
beginning (`writeFiles_run`); so which files are written is decided by the
first map alone, and a second run, which begins where every file holds its
text, writes none. The map also records what is written to it, so that
writing nothing is told apart from writing the same once more.

Main result: `writing_exact`.
-/
import Mathlib.Data.List.Nodup
import Rowsmith.Files.Writing

namespace Rowsmith

namespace Path

/-- Relative paths below a directory are told apart by what is joined. -/
theorem join_injective {base a b : Path} (ha : a.isAbsolute = false) (hb : b.isAbsolute = false)
    (h : base.join a = base.join b) : a = b := by
  obtain ⟨a⟩ := a
  obtain ⟨b⟩ := b
  unfold join at h
  rw [ha, hb, if_neg Bool.false_ne_true, if_neg Bool.false_ne_true] at h
  split at h
  · rw [Path.mk.injEq, String.append_right_inj] at h
    exact congrArg Path.mk h
  · rw [Path.mk.injEq, String.append_right_inj] at h
    exact congrArg Path.mk h

end Path

namespace Files

variable {κ : Type} [DecidableEq κ]

-- ================================================================== maps

/-- Files in a map from places to texts, and the places that were written,
in order. -/
structure FileMap (κ : Type) where
  files : κ → Option String
  writes : List κ

namespace FileMap

/-- A place holds a text. -/
def Holds (s : FileMap κ) (p : κ) (text : String) : Prop := s.files p = some text

instance (s : FileMap κ) (p : κ) (text : String) : Decidable (s.Holds p text) :=
  inferInstanceAs (Decidable (s.files p = some text))

def read (s : FileMap κ) (p : κ) : Except FileError String :=
  match s.files p with
  | some text => .ok text
  | none => .error .missing

def write (s : FileMap κ) (p : κ) (text : String) : FileMap κ where
  files q := if q = p then some text else s.files q
  writes := s.writes ++ [p]

/-- Access to the files of a map, by the places that paths lead to. All that
can be refused is to read a file that is not there. -/
def access (place : Path → κ) : FileAccess (StateM (FileMap κ)) where
  read p := fun s => (s.read (place p), s)
  makeDirectories _ := fun s => (.ok (), s)
  write p text := fun s => (.ok (), s.write (place p) text)

@[simp] theorem files_write (s : FileMap κ) (p q : κ) (text : String) :
    (s.write p text).files q = if q = p then some text else s.files q := rfl

@[simp] theorem writes_write (s : FileMap κ) (p : κ) (text : String) :
    (s.write p text).writes = s.writes ++ [p] := rfl

/-- Writes texts at places, one after another. -/
def writeAll (s : FileMap κ) (texts : List (κ × String)) : FileMap κ :=
  texts.foldl (fun s (p, text) => s.write p text) s

theorem writes_writeAll (s : FileMap κ) (texts : List (κ × String)) :
    (s.writeAll texts).writes = s.writes ++ texts.map (·.1) := by
  induction texts generalizing s with
  | nil => exact (List.append_nil _).symm
  | cons t texts ih =>
      show ((s.write t.1 t.2).writeAll texts).writes = _
      rw [ih, writes_write, List.append_assoc]
      rfl

/-- A place that nothing is written at holds what it held. -/
theorem files_writeAll_of_notMem (s : FileMap κ) {texts : List (κ × String)} {p : κ}
    (h : p ∉ texts.map (·.1)) : (s.writeAll texts).files p = s.files p := by
  induction texts generalizing s with
  | nil => rfl
  | cons t texts ih =>
      obtain ⟨hp, hrest⟩ := not_or.1 (mt List.mem_cons.2 h)
      show ((s.write t.1 t.2).writeAll texts).files p = _
      rw [ih _ hrest, files_write, if_neg hp]

/-- Places that are written once hold what is written at them. -/
theorem holds_writeAll (s : FileMap κ) {texts : List (κ × String)} (h : (texts.map (·.1)).Nodup)
    {p : κ} {text : String} (hmem : (p, text) ∈ texts) : (s.writeAll texts).Holds p text := by
  induction texts generalizing s with
  | nil => cases hmem
  | cons t texts ih =>
      obtain ⟨hfresh, hrest⟩ := List.nodup_cons.1 h
      rcases List.mem_cons.1 hmem with rfl | hmem
      · show ((s.write p text).writeAll texts).files p = _
        rw [files_writeAll_of_notMem _ hfresh, files_write, if_pos rfl]
      · exact ih _ hrest hmem

end FileMap

-- =============================================================== writing

variable {place : Path → κ} {outDir path : Path} {content : String} {s : FileMap κ}
  {files : List Emit.SourceFile}

/-- The place that a file below a directory is written at. -/
def placeOf (place : Path → κ) (outDir : Path) (file : Emit.SourceFile) : κ :=
  place (outDir.join file.path)

/-- A file is there and holds its text. -/
def IsCurrent (s : FileMap κ) (place : Path → κ) (outDir : Path) (file : Emit.SourceFile) : Prop :=
  s.Holds (placeOf place outDir file) file.content

instance (file : Emit.SourceFile) : Decidable (IsCurrent s place outDir file) :=
  inferInstanceAs (Decidable (s.Holds _ _))

/-- Whether a file holds a text is read off the map. -/
theorem holds_run : (holds (FileMap.access place) path content).run s =
    (decide (s.Holds (place path) content), s) := by
  have hread : ((FileMap.access place).read path).run s = (s.read (place path), s) := rfl
  have hheld : s.Holds (place path) content ↔ s.files (place path) = some content := Iff.rfl
  rw [holds, StateT.run_bind, hread]
  unfold FileMap.read
  cases hfile : s.files (place path) with
  | none =>
      rw [decide_eq_false (by rw [hheld, hfile]; exact nofun)]
      rfl
  | some text =>
      rw [decide_eq_decide.2 (hheld.trans (by rw [hfile, Option.some.injEq]))]
      rfl

/-- A file is written unless it holds its text. -/
theorem writeFile_run : (writeFile (FileMap.access place) path content).run.run s =
    if s.Holds (place path) content then (.ok false, s)
    else (.ok true, s.write (place path) content) := by
  unfold writeFile
  rw [ExceptT.run_bind, StateT.run_bind, ExceptT.run_liftM, StateT.run_map, holds_run]
  by_cases hheld : s.Holds (place path) content
  · rw [if_pos hheld, decide_eq_true hheld]
    rfl
  · rw [if_neg hheld, decide_eq_false hheld]
    cases path.parent? with
    | none => rfl
    | some parent => rfl

/-- Writes files and adds what becomes of them to what became of others. -/
def writeMore (place : Path → κ) (outDir : Path) (summary : WriteSummary)
    (files : List Emit.SourceFile) : ExceptT WriteError (StateM (FileMap κ)) WriteSummary :=
  files.foldlM (fun summary file => do
    let path := outDir.join file.path
    return summary.add path (← writeFile (FileMap.access place) path file.content)) summary

/-- The first file is written unless it holds its text, and the others then
find the map like that. -/
theorem writeMore_cons (file : Emit.SourceFile) (summary : WriteSummary) :
    (writeMore place outDir summary (file :: files)).run.run s =
      if IsCurrent s place outDir file then
        (writeMore place outDir (summary.add (outDir.join file.path) false) files).run.run s
      else
        (writeMore place outDir (summary.add (outDir.join file.path) true) files).run.run
          (s.write (placeOf place outDir file) file.content) := by
  unfold writeMore
  rw [List.foldlM_cons]
  dsimp only
  rw [bind_assoc, ExceptT.run_bind, StateT.run_bind, writeFile_run]
  by_cases hcurrent : s.Holds (place (outDir.join file.path)) file.content
  · rw [if_pos hcurrent]
    exact (if_pos hcurrent).symm
  · rw [if_neg hcurrent]
    exact (if_neg hcurrent).symm

/-- Files at other places are not affected by what is written. -/
theorem isCurrent_write {p : κ} {text : String} {file : Emit.SourceFile}
    (h : p ≠ placeOf place outDir file) :
    IsCurrent (s.write p text) place outDir file ↔ IsCurrent s place outDir file := by
  unfold IsCurrent FileMap.Holds
  rw [FileMap.files_write, if_neg (Ne.symm h)]

/-- The files of a list that do not hold their texts, and those that do. -/
def staleFiles (s : FileMap κ) (place : Path → κ) (outDir : Path) (files : List Emit.SourceFile) :
    List Emit.SourceFile :=
  files.filter fun file => ¬ IsCurrent s place outDir file

def currentFiles (s : FileMap κ) (place : Path → κ) (outDir : Path)
    (files : List Emit.SourceFile) : List Emit.SourceFile :=
  files.filter fun file => IsCurrent s place outDir file

/-- At places of their own, the files are written that did not hold their
texts when the first was looked at. -/
theorem writeMore_run (h : (files.map (placeOf place outDir)).Nodup) (summary : WriteSummary) :
    (writeMore place outDir summary files).run.run s =
      (.ok ⟨summary.written ++ (staleFiles s place outDir files).map (outDir.join ·.path),
          summary.unchanged ++ (currentFiles s place outDir files).map (outDir.join ·.path)⟩,
        s.writeAll ((staleFiles s place outDir files).map fun file =>
          (placeOf place outDir file, file.content))) := by
  induction files generalizing s summary with
  | nil =>
      unfold staleFiles currentFiles
      rw [List.filter_nil, List.filter_nil, List.map_nil, List.append_nil, List.append_nil]
      rfl
  | cons file files ih =>
      obtain ⟨hfresh, hrest⟩ := List.nodup_cons.1 h
      rw [writeMore_cons]
      unfold staleFiles currentFiles at ih ⊢
      by_cases hcurrent : IsCurrent s place outDir file
      · rw [if_pos hcurrent, ih hrest, List.filter_cons_of_neg (by simpa using hcurrent),
          List.filter_cons_of_pos (by simpa using hcurrent), List.map_cons, ← List.singleton_append,
          ← List.append_assoc]
        rfl
      · -- what is written now is not at the place of a later file
        have hlater : ∀ other ∈ files,
            (IsCurrent (s.write (placeOf place outDir file) file.content) place outDir other ↔
              IsCurrent s place outDir other) := fun other hother =>
          isCurrent_write fun hsame => hfresh (hsame ▸ List.mem_map_of_mem hother)
        rw [if_neg hcurrent, ih hrest, List.filter_cons_of_pos (by simpa using hcurrent),
          List.filter_cons_of_neg (by simpa using hcurrent),
          List.filter_congr fun other hother => decide_eq_decide.2 (not_congr (hlater other hother)),
          List.filter_congr fun other hother => decide_eq_decide.2 (hlater other hother),
          List.map_cons, List.map_cons, ← List.singleton_append, ← List.append_assoc]
        rfl

/-- The map after files were written that did not hold their texts. -/
def written (s : FileMap κ) (place : Path → κ) (outDir : Path) (files : List Emit.SourceFile) :
    FileMap κ :=
  s.writeAll ((staleFiles s place outDir files).map fun file =>
    (placeOf place outDir file, file.content))

theorem writeFiles_run (h : (files.map (placeOf place outDir)).Nodup) :
    (writeFiles (FileMap.access place) outDir files).run.run s =
      (.ok ⟨(staleFiles s place outDir files).map (outDir.join ·.path),
          (currentFiles s place outDir files).map (outDir.join ·.path)⟩,
        written s place outDir files) :=
  writeMore_run h .empty

/-- What is written are files of the list. -/
theorem written_of_notMem {p : κ} (h : ∀ file ∈ files, placeOf place outDir file ≠ p) :
    (written s place outDir files).files p = s.files p := by
  refine FileMap.files_writeAll_of_notMem s ?_
  rw [List.map_map]
  intro hmem
  obtain ⟨file, hfile, hplace⟩ := List.mem_map.1 hmem
  exact h file (List.mem_of_mem_filter hfile) hplace

/-- At places of their own, all files hold their texts when they have been
written. -/
theorem isCurrent_written (h : (files.map (placeOf place outDir)).Nodup) :
    ∀ file ∈ files, IsCurrent (written s place outDir files) place outDir file := by
  intro file hfile
  by_cases hcurrent : IsCurrent s place outDir file
  · -- a file that was written has another place, since it is another file
    have hnot : placeOf place outDir file ∉ ((staleFiles s place outDir files).map fun file =>
        (placeOf place outDir file, file.content)).map (·.1) := by
      rw [List.map_map]
      intro hmem
      obtain ⟨other, hother, hplace⟩ := List.mem_map.1 hmem
      obtain ⟨hlisted, hstale⟩ := List.mem_filter.1 hother
      obtain rfl := List.inj_on_of_nodup_map h hlisted hfile hplace
      exact of_decide_eq_true hstale hcurrent
    exact (FileMap.files_writeAll_of_notMem s hnot).trans hcurrent
  · have hstale : file ∈ staleFiles s place outDir files :=
      List.mem_filter.2 ⟨hfile, decide_eq_true hcurrent⟩
    refine FileMap.holds_writeAll s ?_ (List.mem_map.2 ⟨file, hstale, rfl⟩)
    rw [List.map_map]
    exact h.sublist (List.filter_sublist.map _)

/-- Files written at places of their own all hold their texts then, and the
map holds what it held everywhere else. Written and unchanged are told in
the order of the list: written are those that were missing or held another
text, unchanged the others. What was written are just these files, each
once. Writing the same files again writes nothing, and tells that all are
unchanged. -/
theorem writing_exact (place : Path → κ) (outDir : Path) (files : List Emit.SourceFile)
    (s : FileMap κ) (h : (files.map fun file => place (outDir.join file.path)).Nodup) :
    ∃ (summary : WriteSummary) (s' : FileMap κ),
      (writeFiles (FileMap.access place) outDir files).run.run s = (.ok summary, s') ∧
      (∀ file ∈ files, s'.files (place (outDir.join file.path)) = some file.content) ∧
      (∀ p, (∀ file ∈ files, place (outDir.join file.path) ≠ p) → s'.files p = s.files p) ∧
      summary.written = (files.filter fun file =>
        s.files (place (outDir.join file.path)) ≠ some file.content).map (outDir.join ·.path) ∧
      summary.unchanged = (files.filter fun file =>
        s.files (place (outDir.join file.path)) = some file.content).map (outDir.join ·.path) ∧
      s'.writes = s.writes ++ summary.written.map place ∧
      (writeFiles (FileMap.access place) outDir files).run.run s' =
        (.ok ⟨[], files.map (outDir.join ·.path)⟩, s') := by
  have hheld := isCurrent_written (s := s) h
  have hnone : staleFiles (written s place outDir files) place outDir files = [] :=
    List.filter_eq_nil_iff.2 fun file hfile => by simpa using hheld file hfile
  have hall : currentFiles (written s place outDir files) place outDir files = files :=
    List.filter_eq_self.2 fun file hfile => decide_eq_true (hheld file hfile)
  have hsame : written (written s place outDir files) place outDir files =
      written s place outDir files := by
    rw [written, hnone]
    rfl
  have hagain := writeFiles_run (s := written s place outDir files) h
  rw [hnone, hall, hsame] at hagain
  refine ⟨_, written s place outDir files, writeFiles_run h, hheld,
    fun p hp => written_of_notMem hp, rfl, rfl, ?_, hagain⟩
  unfold written
  rw [FileMap.writes_writeAll, List.map_map, List.map_map]
  rfl

/-- Different relative paths lead to different ones below a directory. -/
theorem nodup_joined (outDir : Path) (hrelative : ∀ file ∈ files, file.path.isAbsolute = false)
    (h : (files.map (·.path)).Nodup) : (files.map fun file => outDir.join file.path).Nodup := by
  refine List.Nodup.map_on ?_ (List.Nodup.of_map _ h)
  intro a ha b hb hsame
  have hpath := Path.join_injective (hrelative a ha) (hrelative b hb) hsame
  exact List.inj_on_of_nodup_map h ha hb hpath

/-- Files below a directory, one of which is there with its text, and one
with another. -/
theorem writing_exact_stale :
    let files : List Emit.SourceFile :=
      [⟨⟨"mod.rs"⟩, "pub mod tag;"⟩, ⟨⟨"tag.rs"⟩, "new"⟩, ⟨⟨"user.rs"⟩, "kept"⟩]
    let s : FileMap Path :=
      ⟨fun p => if p.text = "out/tag.rs" then some "old"
        else if p.text = "out/user.rs" then some "kept" else none, []⟩
    (files.map fun file => (⟨"out"⟩ : Path).join file.path).Nodup ∧
      ∃ summary s', (writeFiles (FileMap.access id) ⟨"out"⟩ files).run.run s = (.ok summary, s') ∧
        s'.files ⟨"out/tag.rs"⟩ = some "new" ∧
        summary = ⟨[⟨"out/mod.rs"⟩, ⟨"out/tag.rs"⟩], [⟨"out/user.rs"⟩]⟩ ∧
        s'.writes = [⟨"out/mod.rs"⟩, ⟨"out/tag.rs"⟩] := by
  intro files s
  have hdistinct : (files.map fun file => (⟨"out"⟩ : Path).join file.path).Nodup :=
    nodup_joined _ (by decide +kernel) (by decide +kernel)
  obtain ⟨summary, s', hrun, hheld, -, hwritten, hunchanged, hwrites, -⟩ :=
    writing_exact id ⟨"out"⟩ files s hdistinct
  have htag := hheld ⟨⟨"tag.rs"⟩, "new"⟩ (by decide +kernel)
  have hwritten : summary.written = [⟨"out/mod.rs"⟩, ⟨"out/tag.rs"⟩] :=
    hwritten.trans (by decide +kernel)
  have hunchanged : summary.unchanged = [⟨"out/user.rs"⟩] := hunchanged.trans (by decide +kernel)
  refine ⟨hdistinct, summary, s', hrun, htag, ?_, ?_⟩
  · obtain ⟨written, unchanged⟩ := summary
    exact WriteSummary.mk.injEq .. ▸ ⟨hwritten, hunchanged⟩
  · rw [hwrites, hwritten]
    rfl

end Files

end Rowsmith
