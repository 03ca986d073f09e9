/-
What was done to make a line buffer, and what the buffer shows of it.

A buffer is made from the empty one: lines and texts are added, the lines of
other buffers are taken over, which were made in the same way, a block is
forced, and the lines that are there are converted (`History`). Whether the
lines are single lines, and whether a block was forced, is read off the
history by one rule for each operation. Adding and taking over never break a
line, and what they force stays forced; a conversion starts afresh, since it
tests no line and forgets that a block was forced.

# Single lines

A line that is added is tested, and a line that is taken over was. So a
buffer has single lines only, exactly if each conversion that was not
followed by another gave single lines (`lines_single_iff`). The text of a
buffer shows what its lines show one after another (`shownLines_text`), and
so it shows more lines than the buffer has if there is a line feed in one of
them.

# Blocks

Lines can be taken over as they are or at a level of indentation. At level
zero this makes no difference to the lines, and at no level to their number.
But a forced block is passed on only with lines that are taken over as they
are. Both ways come to the same if nothing in the history of the other
buffer forces a block, or something in that of the first does
(`indented_agrees_iff`).
-/
import Rowsmith.Proofs.Writing.Fitting

namespace Rowsmith.Text

-- =============================================================== display

/-- The lines of a text as it is displayed. Each line feed starts another
line, also at the end of the text. -/
def shownLines (text : String) : List String :=
  (text.toList.splitOn '\n').map String.ofList

variable {line text : String} {lines : List String}

theorem shownLines_of_not_mem (h : '\n' ∉ line.toList) : shownLines line = [line] := by
  unfold shownLines
  rw [List.splitOn_eq_singleton h, List.map_singleton, String.ofList_toList]

theorem shownLines_ne_nil (text : String) : shownLines text ≠ [] :=
  fun h => List.splitOn_ne_nil '\n' text.toList (List.map_eq_nil_iff.1 h)

theorem toList_feed (first rest : String) :
    (first ++ "\n" ++ rest).toList = first.toList ++ '\n' :: rest.toList := by
  rw [String.toList_append, String.toList_append, List.append_assoc]
  rfl

theorem shownLines_feed (first rest : String) :
    shownLines (first ++ "\n" ++ rest) = shownLines first ++ shownLines rest := by
  unfold shownLines
  rw [toList_feed, List.splitOn_append_cons_self, List.map_append]

theorem length_shownLines_eq_one_iff : (shownLines line).length = 1 ↔ '\n' ∉ line.toList := by
  constructor
  · intro hone hfeed
    obtain ⟨before, after, hline⟩ := List.append_of_mem hfeed
    have hsplit : line = String.ofList before ++ "\n" ++ String.ofList after := by
      rw [← String.toList_inj, toList_feed, String.toList_ofList, String.toList_ofList, hline]
    have hbefore := List.length_pos_iff.2 (shownLines_ne_nil (String.ofList before))
    have hafter := List.length_pos_iff.2 (shownLines_ne_nil (String.ofList after))
    rw [hsplit, shownLines_feed, List.length_append] at hone
    omega
  · intro h
    rw [shownLines_of_not_mem h]
    rfl

/-- Lines with a line feed between them are shown one after another. -/
theorem shownLines_intercalate (hne : lines ≠ []) :
    shownLines (String.intercalate "\n" lines) = lines.flatMap shownLines := by
  induction lines with
  | nil => exact absurd rfl hne
  | cons first rest ih =>
      cases rest with
      | nil => rw [String.intercalate_singleton, List.flatMap_singleton]
      | cons second rest =>
          rw [String.intercalate_cons_cons, shownLines_feed, ih (List.cons_ne_nil second rest)]
          rfl

/-- No fewer lines are shown than there are, and no more exactly if there is
no line feed in any of them. -/
theorem length_flatMap_shownLines (lines : List String) :
    lines.length ≤ (lines.flatMap shownLines).length ∧
      ((lines.flatMap shownLines).length = lines.length ↔ ∀ line ∈ lines, '\n' ∉ line.toList) := by
  induction lines with
  | nil => exact ⟨Nat.le_refl 0, ⟨fun _ => List.forall_mem_nil _, fun _ => rfl⟩⟩
  | cons line lines ih =>
      obtain ⟨hle, hiff⟩ := ih
      have hpos := List.length_pos_iff.2 (shownLines_ne_nil line)
      rw [List.forall_mem_cons, ← length_shownLines_eq_one_iff, ← hiff, List.flatMap_cons,
        List.length_append, List.length_cons]
      omega

theorem flatMap_shownLines (h : ∀ line ∈ lines, '\n' ∉ line.toList) :
    lines.flatMap shownLines = lines := by
  induction lines with
  | nil => rfl
  | cons line lines ih =>
      obtain ⟨hline, hlines⟩ := List.forall_mem_cons.1 h
      rw [List.flatMap_cons, shownLines_of_not_mem hline, ih hlines, List.singleton_append]

theorem not_mem_of_isSingleLine (h : isSingleLine line = true) : '\n' ∉ line.toList :=
  fun hfeed => Bool.noConfusion (isSingleLine_iff.1 h '\n' hfeed)

namespace Lines

variable {a b b' : Lines} {texts : List String}

/-- The text of a buffer shows what its lines show. -/
theorem shownLines_text (h : b.isEmpty = false) :
    shownLines b.text = b.lines.flatMap shownLines :=
  shownLines_intercalate (List.isEmpty_eq_false_iff.1 h)

-- ============================================================= histories

/-- Changes every line by a conversion that may keep a state. What it makes of
a line may then depend on the lines before it; in a buffer these are known by
where the line stands. -/
def mapPlaced (b : Lines) (convert : Nat → String → String) : Lines :=
  ⟨b.lines.mapIdx convert, false⟩

/-- A conversion without a state. -/
theorem mapPlaced_const (b : Lines) (convert : String → String) :
    b.mapPlaced (fun _ => convert) = b.map convert := by
  unfold mapPlaced map
  congr 1
  rw [List.mapIdx_eq_iff]
  exact fun i => List.getElem?_map

/-- What was done to make a buffer. -/
inductive History
  | empty
  | line (h : History) (line : String)
  | lines (h : History) (lines : List String)
  | text (h : History) (text : String)
  | texts (h : History) (texts : List String)
  -- The lines of another buffer are taken over as they are, or at a level.
  | append (h other : History)
  | appendIndented (h other : History) (level : Nat)
  | forceBlock (h : History) (block : Bool)
  | map (h : History) (convert : Nat → String → String)

namespace History

/-- The buffer that is made, unless a line is refused. -/
def run : History → Except Defect Lines
  | .empty => .ok Lines.empty
  | .line h line => do (← h.run).push line
  | .lines h lines => do (← h.run).pushAll lines
  | .text h text => do (← h.run).pushText text
  | .texts h texts => do (← h.run).pushTexts texts
  | .append h other => do return (← h.run) ++ (← other.run)
  | .appendIndented h other level => do return (← h.run).appendIndented (← other.run) level
  | .forceBlock h block => do return (← h.run).forceBlock block
  | .map h convert => do return (← h.run).mapPlaced convert

/-- What is so of the empty buffer, and so after each operation that is not
refused, is so of every buffer that is made. -/
theorem run_induction {motive : History → Lines → Prop} (empty : motive .empty Lines.empty)
    (line : ∀ {h b b'} line, motive h b → b.push line = .ok b' → motive (.line h line) b')
    (lines : ∀ {h b b'} lines, motive h b → b.pushAll lines = .ok b' → motive (.lines h lines) b')
    (text : ∀ {h b b'} text, motive h b → b.pushText text = .ok b' → motive (.text h text) b')
    (texts : ∀ {h b b'} texts, motive h b → b.pushTexts texts = .ok b' →
      motive (.texts h texts) b')
    (append : ∀ {h other a b}, motive h a → motive other b → motive (.append h other) (a ++ b))
    (appendIndented : ∀ {h other a b} level, motive h a → motive other b →
      motive (.appendIndented h other level) (a.appendIndented b level))
    (forceBlock : ∀ {h b} block, motive h b → motive (.forceBlock h block) (b.forceBlock block))
    (map : ∀ {h b} convert, h.run = .ok b → motive h b →
      motive (.map h convert) (b.mapPlaced convert))
    {h : History} {b : Lines} (hrun : h.run = .ok b) : motive h b := by
  induction h generalizing b with
  | empty =>
      obtain rfl := Except.ok.inj hrun
      exact empty
  | line h _ ih =>
      obtain ⟨_, hb, hpush⟩ := Attempt.bind_eq_ok.1 hrun
      exact line _ (ih hb) hpush
  | lines h _ ih =>
      obtain ⟨_, hb, hpush⟩ := Attempt.bind_eq_ok.1 hrun
      exact lines _ (ih hb) hpush
  | text h _ ih =>
      obtain ⟨_, hb, hpush⟩ := Attempt.bind_eq_ok.1 hrun
      exact text _ (ih hb) hpush
  | texts h _ ih =>
      obtain ⟨_, hb, hpush⟩ := Attempt.bind_eq_ok.1 hrun
      exact texts _ (ih hb) hpush
  | append h other ih ihOther =>
      obtain ⟨_, ha, hrun⟩ := Attempt.bind_eq_ok.1 hrun
      obtain ⟨_, hb, hrun⟩ := Attempt.bind_eq_ok.1 hrun
      obtain rfl := Attempt.pure_eq_ok.1 hrun
      exact append (ih ha) (ihOther hb)
  | appendIndented h other level ih ihOther =>
      obtain ⟨_, ha, hrun⟩ := Attempt.bind_eq_ok.1 hrun
      obtain ⟨_, hb, hrun⟩ := Attempt.bind_eq_ok.1 hrun
      obtain rfl := Attempt.pure_eq_ok.1 hrun
      exact appendIndented level (ih ha) (ihOther hb)
  | forceBlock h block ih =>
      obtain ⟨_, hb, hrun⟩ := Attempt.bind_eq_ok.1 hrun
      obtain rfl := Attempt.pure_eq_ok.1 hrun
      exact forceBlock block (ih hb)
  | map h convert ih =>
      obtain ⟨_, hb, hrun⟩ := Attempt.bind_eq_ok.1 hrun
      obtain rfl := Attempt.pure_eq_ok.1 hrun
      exact map convert hb (ih hb)

/-- All conversions give single lines, but for those whose lines are converted
again. -/
def ConvertsToSingle : History → Prop
  | .empty => True
  | .line h _ => h.ConvertsToSingle
  | .lines h _ => h.ConvertsToSingle
  | .text h _ => h.ConvertsToSingle
  | .texts h _ => h.ConvertsToSingle
  | .append h other => h.ConvertsToSingle ∧ other.ConvertsToSingle
  | .appendIndented h other _ => h.ConvertsToSingle ∧ other.ConvertsToSingle
  | .forceBlock h _ => h.ConvertsToSingle
  | .map h convert => ∀ b, h.run = .ok b →
      ∀ i line, b.lines[i]? = some line → isSingleLine (convert i line) = true

/-- A block is forced, by a text with a line feed in it or by itself, and no
conversion comes after that. A block that was forced in another buffer counts
only if its lines are taken over as they are. -/
def Forces : History → Prop
  | .empty => False
  | .line h _ => h.Forces
  | .lines h _ => h.Forces
  | .text h text => h.Forces ∨ '\n' ∈ text.toList
  | .texts h texts => h.Forces ∨ ∃ text ∈ texts, '\n' ∈ text.toList
  | .append h other => h.Forces ∨ other.Forces
  | .appendIndented h _ _ => h.Forces
  | .forceBlock h block => h.Forces ∨ block = true
  | .map _ _ => False

end History

-- ========================================================== single lines

theorem pushAll_single_iff (h : b.pushAll lines = .ok b') : b'.Single ↔ b.Single :=
  Attempt.foldlM_keeps (fun b' => b'.Single ↔ b.Single)
    (fun _ _ _ _ hb hpush => (push_single_iff hpush).trans hb) Iff.rfl h

/-- A text adds its lines, and forces a block if there is a line feed in
it. -/
theorem pushText_eq_ok : b.pushText text = .ok b' ↔
    ∃ b₁, b.pushAll ((textLines text.toList).map String.ofList) = .ok b₁ ∧
      b' = { b₁ with forced := b₁.forced || text.toList.contains '\n' } := by
  unfold pushText
  rw [Attempt.bind_eq_ok]
  exact exists_congr fun b₁ => and_congr_right fun _ => Attempt.pure_eq_ok.trans eq_comm

theorem pushText_single_iff (h : b.pushText text = .ok b') : b'.Single ↔ b.Single := by
  obtain ⟨b₁, hlines, rfl⟩ := pushText_eq_ok.1 h
  show b₁.Single ↔ b.Single
  exact pushAll_single_iff hlines

theorem pushTexts_single_iff (h : b.pushTexts texts = .ok b') : b'.Single ↔ b.Single :=
  Attempt.foldlM_keeps (fun b' => b'.Single ↔ b.Single)
    (fun _ _ _ _ hb hpush => (pushText_single_iff hpush).trans hb) Iff.rfl h

theorem mapPlaced_single_iff {convert : Nat → String → String} : (b.mapPlaced convert).Single ↔
    ∀ i line, b.lines[i]? = some line → isSingleLine (convert i line) = true := by
  constructor
  · intro h i line hline
    obtain ⟨hi, rfl⟩ := List.getElem?_eq_some_iff.1 hline
    exact h _ (List.mem_mapIdx.2 ⟨i, hi, rfl⟩)
  · intro h line hline
    obtain ⟨i, hi, rfl⟩ := List.mem_mapIdx.1 hline
    exact h i _ (List.getElem?_eq_getElem hi)

variable {h : History}

/-- Only conversions can break the lines of a buffer. -/
theorem History.single_iff (hrun : h.run = .ok b) : b.Single ↔ h.ConvertsToSingle := by
  refine run_induction (motive := fun h b => b.Single ↔ h.ConvertsToSingle)
    ?empty ?line ?lines ?text ?texts ?append ?appendIndented ?forceBlock ?map hrun
  case empty => exact iff_of_true Single.empty trivial
  case line => exact fun _ ih hpush => (push_single_iff hpush).trans ih
  case lines => exact fun _ ih hpush => (pushAll_single_iff hpush).trans ih
  case text => exact fun _ ih hpush => (pushText_single_iff hpush).trans ih
  case texts => exact fun _ ih hpush => (pushTexts_single_iff hpush).trans ih
  case append => exact fun ih ihOther => allSingle_append.trans (and_congr ih ihOther)
  case appendIndented =>
    exact fun level ih ihOther => (appendIndented_single_iff level).trans (and_congr ih ihOther)
  case forceBlock => exact fun _ ih => ih
  case map =>
    -- What was converted does not matter, only what came of it.
    intro h b convert hb _
    refine mapPlaced_single_iff.trans ⟨fun hsingle b' hb' => ?_, fun hall => hall b hb⟩
    obtain rfl := Except.ok.inj (hb.symm.trans hb')
    exact hsingle

/-- However a buffer was made, it has single lines only exactly if the last
conversions of its lines gave single lines. Its text then shows these lines,
if there are any. It shows as many lines as there are exactly if there is no
line feed in any of them. -/
theorem lines_single_iff (hrun : h.run = .ok b) :
    ((∀ line ∈ b.lines, isSingleLine line = true) ↔ h.ConvertsToSingle) ∧
    (b.isEmpty = false → (h.ConvertsToSingle → shownLines b.text = b.lines) ∧
      ((shownLines b.text).length = b.length ↔ ∀ line ∈ b.lines, '\n' ∉ line.toList)) := by
  have hsingle := History.single_iff hrun
  refine ⟨hsingle, fun hne => ?_⟩
  rw [shownLines_text hne]
  refine ⟨fun hconverts => flatMap_shownLines fun line hline => ?_,
    (length_flatMap_shownLines b.lines).2⟩
  exact not_mem_of_isSingleLine (hsingle.2 hconverts line hline)

/-- A heading, and below it a text of two lines as the entry of a list: a dash
stands before the first line, and the second is placed under it. -/
def entryHistory : History :=
  (History.empty.line "tracks:").appendIndented
    ((History.empty.text "Intro\nOutro\n").map fun i line => (if i = 0 then "- " else "  ") ++ line) 1

theorem lines_single_entry :
    let b : Lines := ⟨["tracks:", "    - Intro", "      Outro"], false⟩
    entryHistory.run = .ok b ∧ b.isEmpty = false ∧
      ((∀ line ∈ b.lines, isSingleLine line = true) ↔ entryHistory.ConvertsToSingle) ∧
      (b.isEmpty = false → (entryHistory.ConvertsToSingle → shownLines b.text = b.lines) ∧
        ((shownLines b.text).length = b.length ↔ ∀ line ∈ b.lines, '\n' ∉ line.toList)) := by
  intro b
  have hrun : entryHistory.run = .ok b := by decide +kernel
  exact ⟨hrun, rfl, lines_single_iff hrun⟩

/-- A conversion can put a line feed into a line. The text then shows two
lines where the buffer has one. -/
theorem line_broken_by_conversion :
    let h := (History.empty.line "x").map fun _ line => "a\n" ++ line
    let b : Lines := (⟨["x"], false⟩ : Lines).map ("a\n" ++ ·)
    h.run = .ok b ∧ b.lines = ["a\nx"] ∧ isSingleLine "a\nx" = false ∧
      b.length = 1 ∧ shownLines b.text = ["a", "x"] := by
  intro h b
  exact ⟨congrArg Except.ok (mapPlaced_const ..), by decide +kernel, by decide +kernel,
    by decide +kernel, by decide +kernel⟩

-- ================================================================ blocks

theorem push_forced (h : b.push line = .ok b') : b'.forced = b.forced := by
  obtain ⟨-, rfl⟩ := push_eq_ok.1 h
  rfl

theorem pushAll_forced (h : b.pushAll lines = .ok b') : b'.forced = b.forced :=
  Attempt.foldlM_keeps (fun b' => b'.forced = b.forced)
    (fun _ _ _ _ hb hpush => (push_forced hpush).trans hb) rfl h

theorem pushText_forced_iff (h : b.pushText text = .ok b') :
    b'.forced = true ↔ b.forced = true ∨ '\n' ∈ text.toList := by
  obtain ⟨b₁, hlines, rfl⟩ := pushText_eq_ok.1 h
  rw [Bool.or_eq_true, pushAll_forced hlines, List.contains_iff_mem]

theorem pushTexts_forced_iff (h : b.pushTexts texts = .ok b') :
    b'.forced = true ↔ b.forced = true ∨ ∃ text ∈ texts, '\n' ∈ text.toList := by
  unfold pushTexts at h
  induction texts generalizing b with
  | nil =>
      obtain rfl := Attempt.pure_eq_ok.1 h
      simp
  | cons text texts ih =>
      obtain ⟨b₁, htext, hrest⟩ := Attempt.bind_eq_ok.1 h
      rw [ih hrest, pushText_forced_iff htext, List.exists_mem_cons_iff, or_assoc]

/-- Whether a block was forced is seen from what was done. -/
theorem History.forced_iff (hrun : h.run = .ok b) : b.forced = true ↔ h.Forces := by
  refine run_induction (motive := fun h b => b.forced = true ↔ h.Forces)
    ?empty ?line ?lines ?text ?texts ?append ?appendIndented ?forceBlock ?map hrun
  case empty => exact iff_of_false Bool.false_ne_true id
  case line => exact fun _ ih hpush => push_forced hpush ▸ ih
  case lines => exact fun _ ih hpush => pushAll_forced hpush ▸ ih
  case text => exact fun _ ih hpush => (pushText_forced_iff hpush).trans (or_congr_left ih)
  case texts => exact fun _ ih hpush => (pushTexts_forced_iff hpush).trans (or_congr_left ih)
  case append => exact fun ih ihOther => Bool.or_eq_true_iff.trans (or_congr ih ihOther)
  case appendIndented => exact fun _ ih _ => ih
  case forceBlock => exact fun _ ih => Bool.or_eq_true_iff.trans (or_congr_left ih)
  case map => exact fun _ _ _ => iff_of_false Bool.false_ne_true id

-- =========================================================== indentation

theorem indentLine_zero (line : String) : indentLine 0 line = line := by
  unfold indentLine
  split
  · rfl
  · exact String.empty_append

/-- At level zero only the memory of a block can differ. -/
theorem appendIndented_zero (a b : Lines) :
    a.appendIndented b 0 = ⟨(a ++ b).lines, a.forced⟩ := by
  unfold appendIndented
  rw [funext indentLine_zero, List.map_id']
  rfl

theorem appendIndented_zero_eq_iff :
    a.appendIndented b 0 = a ++ b ↔ (b.forced = true → a.forced = true) := by
  have happend : a ++ b = ⟨(a ++ b).lines, a.forced || b.forced⟩ := rfl
  rw [appendIndented_zero, happend, Lines.mk.injEq, and_iff_right rfl]
  cases a.forced <;> cases b.forced <;> decide

theorem isBlock_append_iff : (a ++ b).isBlock = true ↔
    a.forced = true ∨ b.forced = true ∨ 1 < a.length + b.length := by
  show ((a.forced || b.forced) || decide (1 < (a.lines ++ b.lines).length)) = true ↔ _
  rw [Bool.or_eq_true, Bool.or_eq_true, decide_eq_true_iff, List.length_append, or_assoc]
  rfl

theorem isBlock_appendIndented_iff (n : Nat) : (a.appendIndented b n).isBlock = true ↔
    a.forced = true ∨ 1 < a.length + b.length := by
  show (a.forced || decide (1 < (a.lines ++ b.lines.map (indentLine n)).length)) = true ↔ _
  rw [Bool.or_eq_true, decide_eq_true_iff, List.length_append, List.length_map]
  rfl

variable {other : History}

/-- Lines that are taken over at level zero are the lines as they are, and the
two buffers are equal exactly if there is no block that is not passed on. At
whatever level, one is a block if the other is exactly if this is so or there
are several lines; where they differ, the indented one is no block. -/
theorem indented_agrees_iff (ha : h.run = .ok a) (hb : other.run = .ok b) :
    (a.appendIndented b 0).lines = (a ++ b).lines ∧
    (a.appendIndented b 0 = a ++ b ↔ (other.Forces → h.Forces)) ∧
    ∀ n, ((a.appendIndented b n).isBlock = true → (a ++ b).isBlock = true) ∧
      ((a.appendIndented b n).isBlock = (a ++ b).isBlock ↔
        (other.Forces → h.Forces ∨ 1 < a.length + b.length)) := by
  rw [← History.forced_iff ha, ← History.forced_iff hb]
  refine ⟨by rw [appendIndented_zero], appendIndented_zero_eq_iff, fun n => ⟨fun hblock => ?_, ?_⟩⟩
  · exact isBlock_append_iff.2 ((isBlock_appendIndented_iff n).1 hblock |>.imp_right .inr)
  · rw [Bool.eq_iff_iff, isBlock_append_iff, isBlock_appendIndented_iff]
    tauto

/-- A line, and another that was a text with a line feed at its end. As
blocks they agree, since together they are two lines. -/
theorem indented_agrees_note :
    let a : Lines := ⟨["note:"], false⟩
    let b : Lines := ⟨["one"], true⟩
    let h := History.empty.line "note:"
    let other := History.empty.text "one\n"
    h.run = .ok a ∧ other.run = .ok b ∧
      (a.appendIndented b 0).lines = (a ++ b).lines ∧
      (a.appendIndented b 0 = a ++ b ↔ (other.Forces → h.Forces)) ∧
      ∀ n, ((a.appendIndented b n).isBlock = true → (a ++ b).isBlock = true) ∧
        ((a.appendIndented b n).isBlock = (a ++ b).isBlock ↔
          (other.Forces → h.Forces ∨ 1 < a.length + b.length)) := by
  intro a b h other
  have ha : h.run = .ok a := by decide +kernel
  have hb : other.run = .ok b := by decide +kernel
  exact ⟨ha, hb, indented_agrees_iff ha hb⟩

/-- A text with a line feed at its end is a block of one line. It is one no
longer when it is taken over at level zero. -/
theorem block_left_behind :
    let b : Lines := ⟨["a"], true⟩
    History.empty.run = .ok Lines.empty ∧ (History.empty.text "a\n").run = .ok b ∧
      (Lines.empty ++ b).isBlock = true ∧ (Lines.empty.appendIndented b 0).isBlock = false := by
  exact ⟨rfl, by decide +kernel, rfl, rfl⟩

end Lines

end Rowsmith.Text
