/-
When code can be written. Code is written line by line, and a line buffer
refuses a text that is more than one line. So an attempt to write code comes
with a condition on the texts that go into it, and succeeds exactly under it
(`Fits`, for lines that need no names).

# Names

A step of a unit may bring a type into scope, and then writes only its short
name. Whether the path of the type fits on a line shows in the end, when the
names in scope are declared. So a step is not judged by itself but by what it
leaves to be declared: it succeeds, and all paths in scope are single lines,
exactly under its condition (`Emits`). Nothing is taken out of scope, which
is why the steps of a sequence can be judged one after the other
(`Emits.bind`).

What a step gives is of two kinds. Lines were tested when they were made. A
name was not; it is tested where it is written, and so the condition of what
follows says that it is a single line. The rules below cover both, by what is
always true of what a step gives and what is asked of it.
-/
import Rowsmith.Proofs.Writing.SingleNames

namespace Rowsmith

open Text

-- ================================================================ texts

namespace Text

variable {texts texts' : List String} {text delimiter : String}

/-- All of several texts are single lines. -/
def AllSingle (texts : List String) : Prop := ∀ text ∈ texts, isSingleLine text = true

@[simp] theorem allSingle_nil : AllSingle [] := fun _ htext => nomatch htext

@[simp] theorem allSingle_cons :
    AllSingle (text :: texts) ↔ isSingleLine text = true ∧ AllSingle texts :=
  List.forall_mem_cons

@[simp] theorem allSingle_append :
    AllSingle (texts ++ texts') ↔ AllSingle texts ∧ AllSingle texts' :=
  List.forall_mem_append

theorem allSingle_map {α : Type} {l : List α} {f : α → String} :
    AllSingle (l.map f) ↔ ∀ a ∈ l, isSingleLine (f a) = true :=
  List.forall_mem_map

theorem allSingle_flatMap {α : Type} {l : List α} {f : α → List String} :
    AllSingle (l.flatMap f) ↔ ∀ a ∈ l, AllSingle (f a) := by
  constructor
  · intro h a ha text htext
    exact h text (List.mem_flatMap.2 ⟨a, ha, htext⟩)
  · intro h text htext
    obtain ⟨a, ha, htext⟩ := List.mem_flatMap.1 htext
    exact h a ha text htext

/-- Texts with a delimiter between them are on one line if each is. -/
theorem isSingleLine_intercalate_iff (hdelimiter : isSingleLine delimiter = true) :
    isSingleLine (String.intercalate delimiter texts) = true ↔ AllSingle texts := by
  refine ⟨fun h => ?_, isSingleLine_intercalate hdelimiter⟩
  induction texts with
  | nil => exact allSingle_nil
  | cons first rest ih =>
      cases rest with
      | nil =>
          rw [String.intercalate_singleton] at h
          exact allSingle_cons.2 ⟨h, allSingle_nil⟩
      | cons second rest =>
          rw [String.intercalate_cons_cons, isSingleLine_append, isSingleLine_append,
            Bool.and_eq_true, Bool.and_eq_true] at h
          exact allSingle_cons.2 ⟨h.1.1, ih h.2⟩

@[simp] theorem isSingleLine_commaJoin :
    isSingleLine (commaJoin texts) = true ↔ AllSingle texts :=
  isSingleLine_intercalate_iff (by decide)

end Text

-- =============================================================== buffers

namespace Text.Lines

/-- All lines of a buffer are single lines. -/
def Single (b : Lines) : Prop := AllSingle b.lines

theorem Single.empty : Single empty := allSingle_nil

theorem Single.append {a b : Lines} (ha : a.Single) (hb : b.Single) : (a ++ b).Single :=
  allSingle_append.2 ⟨ha, hb⟩

theorem isSingleLine_indentation (n : Nat) : isSingleLine (indentation n) = true := by
  unfold indentation
  rw [isSingleLine_iff, String.toList_ofList]
  intro c hc
  rw [List.eq_of_mem_replicate hc]
  rfl

/-- Spaces in front of a line do not break it. -/
theorem isSingleLine_indentLine (n : Nat) (line : String) :
    isSingleLine (indentLine n line) = isSingleLine line := by
  unfold indentLine
  split
  · rfl
  · rw [isSingleLine_append, isSingleLine_indentation, Bool.true_and]

theorem appendIndented_single_iff {a b : Lines} (n : Nat) :
    (a.appendIndented b n).Single ↔ a.Single ∧ b.Single := by
  refine allSingle_append.trans (and_congr_right fun _ => allSingle_map.trans ?_)
  exact forall₂_congr fun line _ => by rw [isSingleLine_indentLine]

theorem Single.appendIndented {a b : Lines} (ha : a.Single) (hb : b.Single) (n : Nat) :
    (a.appendIndented b n).Single :=
  (appendIndented_single_iff n).2 ⟨ha, hb⟩

/-- A line that is taken is a single one, and so breaks nothing. -/
theorem push_single_iff {b b' : Lines} {line : String} (h : b.push line = .ok b') :
    b'.Single ↔ b.Single := by
  obtain ⟨hline, rfl⟩ := push_eq_ok.1 h
  exact allSingle_append.trans (and_iff_left (allSingle_cons.2 ⟨hline, allSingle_nil⟩))

end Text.Lines

namespace Emit

-- ================================================================= lines

/-- An attempt gives lines exactly under a condition, and all of them are
single lines. -/
structure Fits (x : Except Defect Lines) (P : Prop) : Prop where
  single : ∀ {b : Lines}, x = .ok b → b.Single
  iff : (∃ b, x = .ok b) ↔ P

namespace Fits

variable {α : Type} {x : Except Defect Lines} {f : Lines → Except Defect Lines} {P Q : Prop}
  {b : Lines} {line : String} {lines : List String}

theorem congr (h : Fits x P) (hP : P ↔ Q) : Fits x Q := ⟨h.single, h.iff.trans hP⟩

theorem pure (hb : b.Single) : Fits (Pure.pure b) True :=
  ⟨fun h => Attempt.pure_eq_ok.1 h ▸ hb, ⟨fun _ => trivial, fun _ => ⟨b, rfl⟩⟩⟩

theorem bind (hx : Fits x P) (hf : ∀ b : Lines, b.Single → Fits (f b) Q) :
    Fits (x >>= f) (P ∧ Q) := by
  constructor
  case single =>
    intro b h
    obtain ⟨a, ha, hfa⟩ := Attempt.bind_eq_ok.1 h
    exact (hf a (hx.single ha)).single hfa
  case iff =>
    constructor
    · intro ⟨b, h⟩
      obtain ⟨a, ha, hfa⟩ := Attempt.bind_eq_ok.1 h
      exact ⟨hx.iff.1 ⟨a, ha⟩, (hf a (hx.single ha)).iff.1 ⟨b, hfa⟩⟩
    · intro ⟨hP, hQ⟩
      obtain ⟨a, ha⟩ := hx.iff.2 hP
      obtain ⟨b, hfa⟩ := (hf a (hx.single ha)).iff.2 hQ
      exact ⟨b, Attempt.bind_eq_ok.2 ⟨a, ha, hfa⟩⟩

/-- What is known to succeed adds no condition. -/
theorem bind_ok {x : Except Defect α} {a : α} {f : α → Except Defect Lines} (hx : x = .ok a)
    (hf : Fits (f a) P) : Fits (x >>= f) P := by
  rw [hx]
  exact hf

/-- A line is taken if it is a single one. -/
theorem push (hb : b.Single) (line : String) : Fits (b.push line) (isSingleLine line = true) := by
  constructor
  case single =>
    intro b' h
    exact (Lines.push_single_iff h).2 hb
  case iff =>
    constructor
    · intro ⟨b', h⟩
      exact (Lines.push_eq_ok.1 h).1
    · intro hline
      exact ⟨_, Lines.push_eq_ok.2 ⟨hline, rfl⟩⟩

theorem foldlM {γ : Type} {step : Lines → γ → Except Defect Lines} {P : γ → Prop} {l : List γ}
    (hstep : ∀ c ∈ l, ∀ b : Lines, b.Single → Fits (step b c) (P c)) (hb : b.Single) :
    Fits (l.foldlM step b) (∀ c ∈ l, P c) := by
  induction l generalizing b with
  | nil => exact (pure hb).congr (by simp)
  | cons c l ih =>
      obtain ⟨hc, hl⟩ := List.forall_mem_cons.1 hstep
      rw [List.foldlM_cons]
      exact ((hc b hb).bind fun b' hb' => ih hl hb').congr List.forall_mem_cons.symm

theorem pushAll (hb : b.Single) (lines : List String) :
    Fits (b.pushAll lines) (AllSingle lines) :=
  foldlM (fun line _ _ hb => push hb line) hb

theorem oneLine (line : String) : Fits (Emit.oneLine line) (isSingleLine line = true) :=
  push .empty line

theorem linesOf (lines : List String) :
    Fits (Emit.linesOf lines) (AllSingle lines) :=
  pushAll .empty lines

theorem block {body : Lines} (hbody : body.Single) (opening closing : String) :
    Fits (Emit.block opening body closing)
      (isSingleLine opening = true ∧ isSingleLine closing = true) :=
  (push .empty opening).bind fun _ hb => push (hb.appendIndented hbody 1) closing

theorem wrapped {expr : Lines} (hexpr : expr.Single) (before after : String) :
    Fits (Emit.wrapped before expr after)
      (isSingleLine before = true ∧ isSingleLine after = true) := by
  unfold Emit.wrapped
  split
  case h_1 =>
    exact (push .empty _).congr (by rw [isSingleLine_append, Bool.and_eq_true])
  case h_2 line hlines =>
    have hline : isSingleLine line = true := hexpr line (hlines ▸ List.mem_singleton_self line)
    exact (push .empty _).congr (by
      rw [isSingleLine_append, isSingleLine_append, hline, Bool.and_true, Bool.and_eq_true])
  case h_3 first rest hrest hlines =>
    have hfirst : isSingleLine first = true := hexpr first (hlines ▸ List.mem_cons_self)
    have hlast : isSingleLine (rest.getLastD "") = true := by
      cases hfound : rest.getLast? with
      | none =>
          rw [List.getLastD_eq_getLast?, hfound]
          decide
      | some last =>
          rw [List.getLastD_eq_getLast?, hfound]
          exact hexpr last (hlines ▸ List.mem_cons_of_mem _ (List.mem_of_getLast? hfound))
    have hmiddle : AllSingle rest.dropLast := fun line hline =>
      hexpr line (hlines ▸ List.mem_cons_of_mem _ (List.dropLast_subset _ hline))
    refine ((push .empty _).bind fun b hb => (pushAll hb _).bind fun b' hb' => push hb' _).congr ?_
    simp only [isSingleLine_append, hfirst, hlast, Bool.and_true, Bool.true_and]
    exact and_congr_right fun _ => ⟨And.right, fun h => ⟨hmiddle, h⟩⟩

end Fits

-- ================================================================= names

/-- The path of the runtime and all paths in scope are single lines, and so
can be declared. -/
structure Uses.Single (u : Uses) : Prop where
  runtime : isSingleLine u.runtime = true
  names : ∀ entry ∈ u.names, isSingleLine entry.2 = true

/-- Names are brought into scope and none is taken back. -/
structure Uses.Within (u v : Uses) : Prop where
  runtime : v.runtime = u.runtime
  names : u.names <+: v.names

namespace Uses

variable {u v w : Uses}

theorem Within.refl (u : Uses) : u.Within u := ⟨rfl, List.prefix_rfl⟩

theorem Within.trans (h : u.Within v) (h' : v.Within w) : u.Within w :=
  ⟨h'.runtime.trans h.runtime, h.names.trans h'.names⟩

theorem Single.of_within (h : v.Single) (hwithin : u.Within v) : u.Single where
  runtime := hwithin.runtime ▸ h.runtime
  names entry hentry := h.names entry (hwithin.names.subset hentry)

theorem Single.start {runtime : String} (h : isSingleLine runtime = true) (own : String) :
    (start runtime own).Single :=
  ⟨h, fun _ hentry => nomatch hentry⟩

theorem within_useItem (u : Uses) (item : RuntimeItem) : u.Within (u.useItem item) := by
  unfold useItem
  split
  · exact .refl u
  · exact ⟨rfl, List.prefix_rfl⟩

theorem Single.useItem (h : u.Single) (item : RuntimeItem) : (u.useItem item).Single := by
  unfold Uses.useItem
  split
  · exact h
  · exact ⟨h.runtime, h.names⟩

/-- The names in use can be declared if the paths that they stand for are
single lines. -/
theorem allSingle_declarations (hruntime : isSingleLine u.runtime = true) :
    AllSingle u.declarations ↔ u.Single := by
  have hitems : AllSingle u.itemNames := allSingle_map.2 fun item _ => by cases item <;> decide
  have hruntimeLine : AllSingle u.runtimeLine := by
    unfold runtimeLine
    split
    case h_1 => exact allSingle_nil
    case h_2 item hone =>
      rw [hone] at hitems
      have hitem := (allSingle_cons.1 hitems).1
      simp +decide [isSingleLine_append, hruntime, hitem]
    case h_3 => simp +decide [isSingleLine_append, hruntime, hitems]
  unfold declarations
  rw [allSingle_append, allSingle_map, and_iff_right hruntimeLine]
  have hline : ∀ path, isSingleLine ("use " ++ path ++ ";") = true ↔ isSingleLine path = true := by
    intro path
    simp +decide [isSingleLine_append]
  constructor
  · intro h
    refine ⟨hruntime, fun entry hentry => ?_⟩
    exact (hline entry.2).1 (h entry.2 (mem_paths.2 ⟨entry.1, hentry⟩))
  · intro h path hpath
    obtain ⟨name, hentry⟩ := mem_paths.1 hpath
    exact (hline path).2 (h.names _ hentry)

end Uses

-- ================================================================= steps

section

variable {α β : Type}

/-- A step keeps the names in scope. Something always holds of what it gives.
And it succeeds, with what is asked of what it gives and of all paths in
scope, exactly under a condition. -/
structure Emits (x : Writer α) (always asked : α → Prop) (P : Prop) : Prop where
  grows : ∀ {u v : Uses} {a : α}, x u = .ok (a, v) → u.Within v
  gives : ∀ {u v : Uses} {a : α}, x u = .ok (a, v) → always a
  iff : ∀ {u : Uses}, u.Single → ((∃ a v, x u = .ok (a, v) ∧ v.Single ∧ asked a) ↔ P)

/-- A step that gives a name, which is asked to be a single line. -/
abbrev Names (x : Writer String) (P : Prop) : Prop :=
  Emits x (fun _ => True) (fun name => isSingleLine name = true) P

/-- A step that gives things of which something always holds, such as lines
that are single lines. -/
abbrev Gives (x : Writer α) (always : α → Prop) (P : Prop) : Prop :=
  Emits x always (fun _ => True) P

namespace Emits

variable {x : Writer α} {f : α → Writer β} {always asked : α → Prop} {always' asked' : β → Prop}
  {P Q : Prop}

theorem congr (h : Emits x always asked P) (hP : P ↔ Q) : Emits x always asked Q :=
  ⟨h.grows, h.gives, fun hu => (h.iff hu).trans hP⟩

theorem pure {a : α} (ha : always a) : Emits (Pure.pure a) always asked (asked a) := by
  constructor
  case grows =>
    intro u v b h
    rw [(Writer.pure_eq_ok.1 h).2]
    exact .refl u
  case gives =>
    intro u v b h
    rw [(Writer.pure_eq_ok.1 h).1]
    exact ha
  case iff =>
    intro u hu
    constructor
    · intro ⟨b, v, h, _, hb⟩
      rw [(Writer.pure_eq_ok.1 h).1] at hb
      exact hb
    · intro ha
      exact ⟨a, u, rfl, hu, ha⟩

/-- Steps succeed one after the other if each does; what is asked of what the
first gives is part of the condition of the second. -/
theorem bind (hx : Emits x always asked P)
    (hf : ∀ a, always a → Emits (f a) always' asked' (asked a ∧ Q)) :
    Emits (x >>= f) always' asked' (P ∧ Q) := by
  constructor
  case grows =>
    intro u v b h
    obtain ⟨a, m, ha, hb⟩ := Writer.bind_eq_ok.1 h
    exact (hx.grows ha).trans ((hf a (hx.gives ha)).grows hb)
  case gives =>
    intro u v b h
    obtain ⟨a, m, ha, hb⟩ := Writer.bind_eq_ok.1 h
    exact (hf a (hx.gives ha)).gives hb
  case iff =>
    intro u hu
    constructor
    · intro ⟨b, v, h, hv, hasked⟩
      obtain ⟨a, m, ha, hb⟩ := Writer.bind_eq_ok.1 h
      have hrest := hf a (hx.gives ha)
      have hm : m.Single := hv.of_within (hrest.grows hb)
      obtain ⟨haskedFirst, hQ⟩ := (hrest.iff hm).1 ⟨b, v, hb, hv, hasked⟩
      exact ⟨(hx.iff hu).1 ⟨a, m, ha, hm, haskedFirst⟩, hQ⟩
    · intro ⟨hP, hQ⟩
      obtain ⟨a, m, ha, hm, haskedFirst⟩ := (hx.iff hu).2 hP
      obtain ⟨b, v, hb, hv, hasked⟩ := ((hf a (hx.gives ha)).iff hm).2 ⟨haskedFirst, hQ⟩
      exact ⟨b, v, Writer.bind_eq_ok.2 ⟨a, m, ha, hb⟩, hv, hasked⟩

/-- The same where nothing is asked of what the first step gives. -/
theorem andThen (hx : Gives x always P) (hf : ∀ a, always a → Emits (f a) always' asked' Q) :
    Emits (x >>= f) always' asked' (P ∧ Q) :=
  hx.bind fun a ha => (hf a ha).congr (by rw [true_and])

/-- The same where the first step has no condition. -/
theorem after (hx : Gives x always True) (hf : ∀ a, always a → Emits (f a) always' asked' Q) :
    Emits (x >>= f) always' asked' Q :=
  (hx.andThen hf).congr (iff_of_eq (true_and Q))

/-- The same where what follows has no condition. -/
theorem before (hx : Gives x always P) (hf : ∀ a, always a → Emits (f a) always' asked' True) :
    Emits (x >>= f) always' asked' P :=
  (hx.andThen hf).congr (iff_of_eq (and_true P))

/-- The same where only what is asked of what the first step gives is the
condition of the second. -/
theorem calling (hx : Emits x always asked P)
    (hf : ∀ a, always a → Emits (f a) always' asked' (asked a)) :
    Emits (x >>= f) always' asked' P := by
  have hrest : ∀ a, always a → Emits (f a) always' asked' (asked a ∧ True) :=
    fun a ha => (hf a ha).congr (iff_of_eq (and_true (asked a)).symm)
  exact (hx.bind hrest).congr (iff_of_eq (and_true P))

theorem map {g : α → β} (hx : Gives x always P) (hg : ∀ a, always a → always' (g a)) :
    Gives (g <$> x) always' P := by
  rw [map_eq_pure_bind]
  exact hx.before fun a ha => pure (hg a ha)

/-- An item of the runtime is named without a condition. -/
theorem item {i : RuntimeItem} {f : String → Writer β} (hf : Emits (f i.name) always' asked' P) :
    Emits (Writer.item i >>= f) always' asked' P := by
  have hstep : ∀ {u v : Uses} {b : β},
      (Writer.item i >>= f) u = .ok (b, v) ↔ f i.name (u.useItem i) = .ok (b, v) := by
    intro u v b
    rw [Writer.bind_eq_ok]
    constructor
    · intro ⟨name, m, hname, hb⟩
      obtain ⟨rfl, rfl⟩ := Writer.item_eq_ok.1 hname
      exact hb
    · intro hb
      exact ⟨_, _, rfl, hb⟩
  constructor
  case grows =>
    intro u v b h
    exact (u.within_useItem i).trans (hf.grows (hstep.1 h))
  case gives => exact fun h => hf.gives (hstep.1 h)
  case iff =>
    intro u hu
    simp only [hstep]
    exact hf.iff (hu.useItem i)

/-- Lines that need no names are given as they are alone. -/
theorem lift {x : Except Defect Lines} (hx : Fits x P) :
    Gives (liftM x : Writer Lines) Lines.Single P := by
  constructor
  case grows =>
    intro u v b h
    rw [(Writer.lift_eq_ok.1 h).2]
    exact .refl u
  case gives => exact fun h => hx.single (Writer.lift_eq_ok.1 h).1
  case iff =>
    intro u hu
    rw [← hx.iff]
    constructor
    · intro ⟨b, v, h, _, _⟩
      exact ⟨b, (Writer.lift_eq_ok.1 h).1⟩
    · intro ⟨b, h⟩
      exact ⟨b, u, Writer.lift_eq_ok.2 ⟨h, rfl⟩, hu, trivial⟩

/-- What is known to succeed, and needs no names, adds no condition. -/
theorem lift_ok {x : Except Defect α} {a : α} (hx : x = .ok a)
    (hf : Emits (f a) always' asked' P) :
    Emits ((liftM x : Writer α) >>= f) always' asked' P := by
  rw [hx]
  exact hf

theorem foldlM {γ : Type} {step : β → γ → Writer β} {P : γ → Prop} {l : List γ} {b : β}
    (hstep : ∀ c ∈ l, ∀ b, always' b → Gives (step b c) always' (P c)) (hb : always' b) :
    Gives (l.foldlM step b) always' (∀ c ∈ l, P c) := by
  induction l generalizing b with
  | nil => exact (pure hb).congr (by simp)
  | cons c l ih =>
      obtain ⟨hc, hl⟩ := List.forall_mem_cons.1 hstep
      rw [List.foldlM_cons]
      exact ((hc b hb).andThen fun b' hb' => ih hl hb').congr List.forall_mem_cons.symm

/-- The type at a path is called by a name that fits on a line, and can be
declared if it has to be, exactly if the path fits on a line. -/
theorem path (p : String) : Names (Writer.path p) (isSingleLine p = true) := by
  constructor
  case grows =>
    intro u v name h
    rcases Uses.usePath_cases (Writer.Settled.path_eq_ok.1 h) with
      ⟨-, -, rfl, -⟩ | ⟨-, -, rfl, -⟩ | ⟨-, -, -, rfl⟩
    · exact .refl v
    · exact .refl v
    · exact ⟨rfl, List.prefix_append _ _⟩
  case gives => exact fun _ => trivial
  case iff =>
    intro u hu
    constructor
    · intro ⟨name, v, h, hv, hname⟩
      rcases Uses.usePath_cases (Writer.Settled.path_eq_ok.1 h) with
        ⟨known, hknown, -, rfl⟩ | ⟨-, -, -, rfl⟩ | ⟨-, -, -, rfl⟩
      · by_cases hsame : known = p
        · exact hsame ▸ hu.names _ (Uses.mem_names_of_pathOf? hknown)
        · rwa [if_neg hsame] at hname
      · exact hname
      · exact hv.names (_, p) (List.mem_append_right _ (List.mem_singleton_self _))
    · intro hp
      have hlast := TypeExpr.isSingleLine_lastSegment hp
      obtain ⟨name, v, hstep⟩ : ∃ name v, u.usePath p = (name, v) := ⟨_, _, rfl⟩
      refine ⟨name, v, Writer.Settled.path_eq_ok.2 hstep, ?_⟩
      rcases Uses.usePath_cases hstep with
        ⟨known, -, rfl, rfl⟩ | ⟨-, -, rfl, rfl⟩ | ⟨-, -, rfl, rfl⟩
      · refine ⟨hu, ?_⟩
        split
        · exact hlast
        · exact hp
      · exact ⟨hu, hp⟩
      · refine ⟨⟨hu.runtime, fun entry hentry => ?_⟩, hlast⟩
        rcases List.mem_append.1 hentry with hentry | hentry
        · exact hu.names entry hentry
        · obtain rfl := List.mem_singleton.1 hentry
          exact hp

end Emits

end

end Emit

end Rowsmith
