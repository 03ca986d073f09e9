/-
The arguments of a structure.

A structure is a model or not, has the names of its table and its accessor,
its keys, and the two fields of a bridge. Names and bridge may be given
once, in all attributes of the structure together; the keys add up. A key
is a path, and its parser stays within the argument (`localIn_keyPath`), so
here too the list of all arguments decides
(`StructOptions.ofAttributes_decided`).
-/
import Rowsmith.Proofs.Source.Arguments

namespace Rowsmith.Source

open Rowsmith.Source.Parser

-- ============================================================ arguments

/-- An argument of a structure. -/
inductive StructArgument
  | model
  | table (name : String)
  | accessor (name : String)
  | key (type : SourceType)
  | bridge (leftField rightField : String)
deriving Repr

namespace StructArgument

/-- A path that is given as a value. -/
def path? (r : Rules) (value : List TokenTree) : Option SourceType :=
  (behind? '=' value).bind fun path => ((keyPath r).run path .start).toOption

/-- An identifier. -/
def ident? : List TokenTree → Option String
  | [.word _ name] => if name ∈ Lookahead.reserved then none else some name
  | _ => none

/-- Two identifiers with a comma between them. -/
def pair? : List TokenTree → Option (String × String)
  | leftField :: rest =>
    (ident? [leftField]).bind fun l => (behind? ',' rest).bind fun rightField =>
      (ident? rightField).map fun r => (l, r)
  | [] => none

/-- Two fields that are given in brackets. -/
def fields? : List TokenTree → Option (String × String)
  | [.group _ _ .parenthesis content] => pair? content
  | _ => none

/-- What the tokens say, if they are an argument. -/
def read? (r : Rules) : List TokenTree → Option StructArgument
  | .word _ "model" :: value => bare? value .model
  | .word _ "table" :: value => (text? value).map .table
  | .word _ "accessor" :: value => (text? value).map .accessor
  | .word _ "key" :: value => (path? r value).map .key
  | .word _ "bridge" :: value => (fields? value).map fun fields => .bridge fields.1 fields.2
  | _ => none

@[simp]
def isModel : StructArgument → Bool
  | .model => true
  | _ => false

@[simp]
def table? : StructArgument → Option String
  | .table name => some name
  | _ => none

@[simp]
def accessor? : StructArgument → Option String
  | .accessor name => some name
  | _ => none

@[simp]
def key? : StructArgument → Option SourceType
  | .key type => some type
  | _ => none

@[simp]
def bridge? : StructArgument → Option (String × String)
  | .bridge leftField rightField => some (leftField, rightField)
  | _ => none

/-- The arguments of a structure are accepted if what may be given once
is. -/
structure Accepted (said : List StructArgument) : Prop where
  table : (said.filterMap table?).length ≤ 1
  accessor : (said.filterMap accessor?).length ≤ 1
  bridge : (said.filterMap bridge?).length ≤ 1

theorem Accepted.of_append {said more : List StructArgument} (h : Accepted (said ++ more)) :
    Accepted said := by
  obtain ⟨htable, haccessor, hbridge⟩ := h
  simp only [List.filterMap_append, List.length_append] at htable haccessor hbridge
  exact ⟨by omega, by omega, by omega⟩

end StructArgument

-- =============================================================== taking

namespace StructOptions

/-- The options with one more argument. -/
def take (o : StructOptions) : StructArgument → Option StructOptions
  | .model => some { o with isModel := true }
  | .table name => if o.table.isNone then some { o with table := some name } else .none
  | .accessor name => if o.accessor.isNone then some { o with accessor := some name } else .none
  | .key type => some { o with keys := o.keys ++ [type] }
  | .bridge leftField rightField =>
    if o.bridge.isNone then some { o with bridge := some (leftField, rightField) } else .none

theorem read?_unnamed {r : Rules} {arg : List TokenTree}
    (h : ∀ pos name value, arg = .word pos name :: value → name ∉ names) :
    StructArgument.read? r arg = Option.none := by
  unfold StructArgument.read?
  split
  case h_6 => rfl
  all_goals exact absurd (by decide) (h _ _ _ rfl)

variable {scope : Position} {written : List TokenTree}

theorem accepted_path (n : Nat) {value : List TokenTree} {unclosed : Nat}
    (h : Leaves 0 unclosed value) :
    accepted ((takePunct "=" >>= fun _ => keyPath (rules n)) ⟨value, scope, written, .none⟩) =
      StructArgument.path? (rules n) value := by
  have hlocal : LocalIn (Leaves 0) (keyPath (rules n)) := localIn_keyPath n
  rw [accepted_mark '=' rfl, StructArgument.path?]
  exact Option.bind_congr fun path hpath =>
    accepted_local (leaves_behind (by decide) hpath h) scope _

theorem ident_cons (token : TokenTree) (rest : List TokenTree) (scope : Position)
    (written : List TokenTree) (leftover : Option SyntaxError) :
    (ident ⟨token :: rest, scope, written, leftover⟩).toOption =
      (StructArgument.ident? [token]).map fun name =>
        (name, ⟨rest, scope, token :: written, leftover⟩) := by
  cases token with
  | word pos name =>
      by_cases hname : name ∈ Lookahead.reserved
      · simp [ident, Lookahead.ident, StructArgument.ident?, hname]
        rfl
      · simp [ident, anyWord, Lookahead.ident, StructArgument.ident?, hname]
        rfl
  | _ => rfl

theorem accepted_ident (value : List TokenTree) :
    accepted (ident ⟨value, scope, written, .none⟩) = StructArgument.ident? value := by
  cases value with
  | nil => rfl
  | cons token rest =>
      rw [accepted_eq_bind, ident_cons]
      cases rest with
      | nil => cases StructArgument.ident? [token] <;> rfl
      | cons next rest =>
          cases token with
          | word pos name => cases StructArgument.ident? [.word pos name] <;> rfl
          | _ => rfl

theorem accepted_pair (content : List TokenTree) (closed : Position) :
    accepted (pair (.start content closed)) = StructArgument.pair? content := by
  cases content with
  | nil => rfl
  | cons token rest =>
      rw [pair, accepted_bind_eq, ParseState.start, ident_cons, StructArgument.pair?]
      cases StructArgument.ident? [token] with
      | none => rfl
      | some leftField =>
          refine (accepted_mark ',' rfl _ rest).trans (Option.bind_congr fun rightField _ => ?_)
          rw [accepted_bind fun r => settles_pure _, accepted_ident]
          exact Option.map_eq_bind.symm

theorem accepted_fields (value : List TokenTree) :
    accepted (inGroup .parenthesis pair ⟨value, scope, written, .none⟩) =
      StructArgument.fields? value := by
  cases value with
  | nil => rfl
  | cons token rest =>
      cases token with
      | group pos closed delimiter content =>
          cases delimiter with
          | parenthesis =>
              have hfields :
                  StructArgument.fields? (.group pos closed .parenthesis content :: rest) =
                    if rest.isEmpty then accepted (pair (.start content closed)) else .none := by
                rw [accepted_pair]
                cases rest <;> rfl
              rw [hfields]
              cases hrun : pair (.start content closed) with
              | error e => simp [inGroup, hrun, bind, Except.bind, accepted]
              | ok result =>
                  obtain ⟨fields, left, _, _, leftover⟩ := result
                  cases leftover <;> cases left <;> cases rest <;>
                    simp [inGroup, hrun, bind, Except.bind, pure, Except.pure, accepted,
                      ParseState.surplus]
          | _ => rfl
      | _ => rfl

/-- What an argument does on its own. -/
theorem alone_argument (n : Nat) (o : StructOptions) {arg : List TokenTree} {unclosed : Nat}
    (harg : Leaves 0 unclosed arg) :
    alone (argument (rules n)) o arg = (StructArgument.read? (rules n) arg).bind o.take := by
  have hrun : alone (argument (rules n)) o arg =
      accepted ((optionName names >>= o.named (rules n)) (.start arg .start)) := run_toOption _ _ _
  rw [hrun]
  refine accepted_optionName ?_ fun hunnamed => by rw [read?_unnamed hunnamed]; rfl
  rintro pos name value rfl hname
  have hvalue : Leaves 0 unclosed value := PlainStable.tail rfl harg
  simp only [names, List.mem_cons, List.not_mem_nil, or_false] at hname
  obtain rfl | rfl | rfl | rfl | rfl := hname
  case inl =>
    simp only [named, StructArgument.read?, accepted_pure]
    cases value <;> rfl
  case inr.inl =>
    simp only [named, StructArgument.read?]
    rw [accepted_textValue _ fun text => settles_setOnce "table" text]
    cases text? value <;> rfl
  case inr.inr.inl =>
    simp only [named, StructArgument.read?]
    rw [accepted_textValue _ fun text => settles_setOnce "accessor" text]
    cases text? value <;> rfl
  case inr.inr.inr.inl =>
    have hkey : o.named (rules n) "key" = (takePunct "=" >>= fun _ => keyPath (rules n)) >>=
        fun type => pure { o with keys := o.keys ++ [type] } := by
      simp [named]
    simp only [StructArgument.read?]
    rw [hkey, accepted_bind fun type => settles_pure _, accepted_path n hvalue]
    cases StructArgument.path? (rules n) value <;> rfl
  case inr.inr.inr.inr =>
    refine (accepted_bind (fun fields => settles_setOnce "bridge" fields) _).trans ?_
    rw [accepted_fields]
    simp only [StructArgument.read?]
    cases StructArgument.fields? value <;> rfl

/-- What is held is told by the arguments taken. -/
structure Records (o : StructOptions) (said : List StructArgument) : Prop where
  isModel : o.isModel = said.any (·.isModel)
  table : o.table.toList = said.filterMap StructArgument.table?
  accessor : o.accessor.toList = said.filterMap StructArgument.accessor?
  keys : o.keys = said.filterMap StructArgument.key?
  bridge : o.bridge.toList = said.filterMap StructArgument.bridge?

theorem records_none : none.Records [] := ⟨rfl, rfl, rfl, rfl, rfl⟩

/-- An argument is taken unless it gives again what may be given once. -/
theorem records_take {o : StructOptions} {before : List StructArgument} (h : o.Records before)
    (x : StructArgument) :
    (∃ o', o.take x = some o' ∧ o'.Records (before ++ [x])) ∨
    (o.take x = .none ∧ ¬ StructArgument.Accepted (before ++ [x])) := by
  obtain ⟨hmodel, htable, haccessor, hkeys, hbridge⟩ := h
  cases x with
  | model =>
      refine .inl ⟨_, rfl, ?_⟩
      constructor <;> simp [htable, haccessor, hkeys, hbridge]
  | table name =>
      obtain ⟨hfree, hgiven⟩ | ⟨hheld, htwice⟩ := slot_cases htable (x := .table name) rfl
      · refine .inl ⟨{ o with table := some name }, by simp [take, hfree], ?_⟩
        constructor <;> simp [hmodel, ← hgiven, haccessor, hkeys, hbridge]
      · exact .inr ⟨by simp [take, hheld], fun haccepted => htwice haccepted.table⟩
  | accessor name =>
      obtain ⟨hfree, hgiven⟩ | ⟨hheld, htwice⟩ := slot_cases haccessor (x := .accessor name) rfl
      · refine .inl ⟨{ o with accessor := some name }, by simp [take, hfree], ?_⟩
        constructor <;> simp [hmodel, htable, ← hgiven, hkeys, hbridge]
      · exact .inr ⟨by simp [take, hheld], fun haccepted => htwice haccepted.accessor⟩
  | key type =>
      refine .inl ⟨_, rfl, ?_⟩
      constructor <;> simp [hmodel, htable, haccessor, hkeys, hbridge]
  | bridge leftField rightField =>
      obtain ⟨hfree, hgiven⟩ | ⟨hheld, htwice⟩ :=
        slot_cases hbridge (x := .bridge leftField rightField) rfl
      · refine .inl ⟨{ o with bridge := some (leftField, rightField) }, by simp [take, hfree], ?_⟩
        constructor <;> simp [hmodel, htable, haccessor, hkeys, ← hgiven]
      · exact .inr ⟨by simp [take, hheld], fun haccepted => htwice haccepted.bridge⟩

theorem Records.accepted {o : StructOptions} {said : List StructArgument} (h : o.Records said) :
    StructArgument.Accepted said :=
  ⟨length_le_one h.table, length_le_one h.accessor, length_le_one h.bridge⟩

instance localIn_argument (n : Nat) (o : StructOptions) :
    LocalIn (Leaves 0) (argument (rules n) o) := by
  unfold argument
  refine LocalIn.bind inferInstance fun name => ?_
  unfold named
  have hkey : LocalIn (Leaves 0) (keyPath (rules n)) := localIn_keyPath n
  split <;> infer_instance

theorem recording (n : Nat) : Recording (argument (rules n)) (StructArgument.read? (rules n))
    StructArgument.Accepted Records where
  step := by
    intro o before arg unclosed harg hrecords
    rw [alone_argument n o harg]
    cases StructArgument.read? (rules n) arg with
    | none => exact .inr ⟨rfl, fun x hx => nomatch hx⟩
    | some x =>
        obtain ⟨o', htake, hrecords'⟩ | ⟨htake, haccepted⟩ := records_take hrecords x
        · exact .inl ⟨x, o', rfl, htake, hrecords'⟩
        · refine .inr ⟨htake, fun y hy => ?_⟩
          obtain rfl := Option.some.inj hy
          exact haccepted
  before := StructArgument.Accepted.of_append

/-- What comes out of the arguments of a structure. -/
def saidBy (said : List StructArgument) : StructOptions where
  isModel := said.any (·.isModel)
  table := said.findSome? StructArgument.table?
  accessor := said.findSome? StructArgument.accessor?
  keys := said.filterMap StructArgument.key?
  bridge := said.findSome? StructArgument.bridge?

theorem Records.eq_saidBy {o : StructOptions} {said : List StructArgument} (h : o.Records said) :
    o = saidBy said := by
  rw [saidBy, findSome?_eq h.table, findSome?_eq h.accessor, findSome?_eq h.bridge, ← h.isModel,
    ← h.keys]

end StructOptions

-- ============================================================== options

/-- What the arguments of a structure say, each read by rules that are deep
enough for all of them. -/
def StructArgument.readAll (args : List (List TokenTree)) : List (Option StructArgument) :=
  args.map (read? (rulesFor (withoutCommas args)))

/-- The attributes of a structure give what the arguments say if all can be
read and are accepted, wherever they are written; otherwise they are
refused. -/
theorem StructOptions.ofAttributes_decided {args : List (List TokenTree)}
    {attrs : List Attribute} (hlaid : LaidOut args attrs) (hown : ownAttributes attrs ≠ []) :
    Decided (StructArgument.readAll args) StructArgument.Accepted
      (fun said => some (StructOptions.saidBy said))
      (StructOptions.ofAttributes attrs).toOption := by
  have hrun : (StructOptions.ofAttributes attrs).toOption =
      ((ownAttributes attrs).foldlM (attributeArguments (argument (argumentRules attrs)))
        none).toOption.map some := by
    rw [StructOptions.ofAttributes, Attempt.toOption_bind, List.isEmpty_eq_false_iff.2 hown]
    exact Option.map_eq_bind.symm
  rw [hrun, hlaid.argumentRules_eq]
  obtain ⟨said, o, hsaid, hrecords, ho⟩ | ⟨hnone, hnot⟩ :=
    (recording _).attributes hlaid records_none
  · refine .inl ⟨said, hsaid, hrecords.accepted, ?_⟩
    dsimp only
    rw [← hrecords.eq_saidBy]
    exact congrArg (Option.map some) (Attempt.toOption_eq_some.2 ho)
  · exact .inr ⟨congrArg (Option.map some) hnone, hnot⟩

-- ================================================================ order

theorem StructArgument.Accepted.perm {said said' : List StructArgument}
    (hperm : said.Perm said') (h : Accepted said) : Accepted said' := by
  constructor
  · exact (hperm.filterMap table?).length_eq ▸ h.table
  · exact (hperm.filterMap accessor?).length_eq ▸ h.accessor
  · exact (hperm.filterMap bridge?).length_eq ▸ h.bridge

/-- The order of the arguments of a structure does not matter, except for
that of its keys. -/
theorem StructOptions.saidBy_eq_of_perm {said said' : List StructArgument}
    (hperm : said.Perm said')
    (hkeys : said.filterMap StructArgument.key? = said'.filterMap StructArgument.key?)
    (h : StructArgument.Accepted said) : saidBy said = saidBy said' := by
  have hmodel : said.any (·.isModel) = said'.any (·.isModel) := by
    rw [Bool.eq_iff_iff, List.any_eq_true, List.any_eq_true]
    simp only [hperm.mem_iff]
  simp only [saidBy, hmodel, hkeys, findSome?_eq_of_perm hperm h.table,
    findSome?_eq_of_perm hperm h.accessor, findSome?_eq_of_perm hperm h.bridge]

/-- If the tokens that begin with the name keep their order, so do the keys. -/
theorem StructArgument.reordered {args args' : List (List TokenTree)} (hperm : args.Perm args')
    (hkeys : args.filter (Lookahead.word "key") = args'.filter (Lookahead.word "key")) :
    Reordered key? (readAll args) (readAll args') := by
  have hrules : rulesFor (withoutCommas args') = rulesFor (withoutCommas args) :=
    rulesFor_perm ((hperm.symm.flatten).filter _)
  rw [readAll, readAll, hrules]
  refine .of_perm (fun arg harg => ?_) hperm hkeys
  unfold read?
  split
  case h_1 value => simp only [bare?]; split <;> rfl
  case h_2 value => cases text? value <;> rfl
  case h_3 value => cases text? value <;> rfl
  case h_4 => simp [Lookahead.word] at harg
  case h_5 value => cases fields? value <;> rfl
  case h_6 => rfl

end Rowsmith.Source
