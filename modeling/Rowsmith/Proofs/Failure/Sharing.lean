/-
What is seen of a shelf while links on it are altered.

A failure is read off the links that can be found from its position, and
off no others: two lists of links that agree on these give the same failure
and the same root (`readAt_of_agree`, `rootAt_of_agree`). The operations
never alter a link that a value of the pile still leads to, except the
outermost link of the value that is made a context, and this value is taken
off the pile. So everything else reads as before (`context_ok`).

# Why reading ends

An altered link may refer to one that was entered after it, and positions
say nothing about the length of chains. What bounds it is how often a chain
can have become longer: by one for each link that was entered and by one for
each cause that was given (`depth`). A failure that can be read within the
bound can still be read when the bound has grown, and the operations
lengthen no chain by more than they let the bound grow. So every value of
the pile can be read (`Built.readable`), and only of these this holds: the
links that nobody holds any more may come to refer to altered ones.
-/
import Mathlib.Logic.Relation
import Rowsmith.Failure.Shelf

namespace Rowsmith.Failure

open Relation

-- =============================================================== reading

namespace Entry

variable {entry : Entry} {read read' : Nat → Option Failure} {e : Failure}

/-- Only the failures that a link refers to are asked for. -/
theorem readWith_congr (h : entry.readWith read = some e)
    (hread : ∀ p ∈ entry.references, ∀ f, read p = some f → read' p = some f) :
    entry.readWith read' = some e := by
  match entry, h with
  | .link report none, h => exact h
  | .link report (some cause), h =>
      obtain ⟨f, hf, he⟩ := Option.bind_eq_some_iff.1 h
      refine Option.bind_eq_some_iff.2 ⟨f, hread cause ?_ f hf, he⟩
      exact List.mem_singleton_self cause
  | .taken outer cause, h =>
      obtain ⟨f, hf, h⟩ := Option.bind_eq_some_iff.1 h
      obtain ⟨g, hg, he⟩ := Option.bind_eq_some_iff.1 h
      refine Option.bind_eq_some_iff.2 ⟨f, hread outer List.mem_cons_self f hf, ?_⟩
      refine Option.bind_eq_some_iff.2 ⟨g, hread cause ?_ g hg, he⟩
      exact List.mem_cons_of_mem _ (List.mem_singleton_self cause)

theorem exists_read_of_readWith (h : entry.readWith read = some e) :
    ∀ p ∈ entry.references, ∃ f, read p = some f := by
  match entry, h with
  | .link report none, h => exact fun p hp => absurd hp List.not_mem_nil
  | .link report (some cause), h =>
      obtain ⟨f, hf, -⟩ := Option.bind_eq_some_iff.1 h
      intro p hp
      obtain rfl := List.mem_singleton.1 hp
      exact ⟨f, hf⟩
  | .taken outer cause, h =>
      obtain ⟨f, hf, h⟩ := Option.bind_eq_some_iff.1 h
      obtain ⟨g, hg, -⟩ := Option.bind_eq_some_iff.1 h
      intro p hp
      rcases List.mem_cons.1 hp with rfl | hp
      · exact ⟨f, hf⟩
      · obtain rfl := List.mem_singleton.1 hp
        exact ⟨g, hg⟩

theorem cause_mem_references {cause : Nat} (h : entry.cause? = some cause) :
    cause ∈ entry.references := by
  cases entry with
  | link report found =>
      obtain rfl : found = some cause := h
      exact List.mem_singleton_self cause
  | taken outer found =>
      obtain rfl := Option.some.inj h
      exact List.mem_cons_of_mem _ (List.mem_singleton_self _)

end Entry

namespace Shelf

variable {entries entries' : List Entry} {s : Shelf} {n m p q : Nat} {e : Failure} {entry : Entry}

/-- The link at a position refers to another one. -/
def RefersTo (entries : List Entry) (p q : Nat) : Prop := q ∈ referencesAt entries p

/-- Following references from a position one comes to another one. -/
def Leads (entries : List Entry) : Nat → Nat → Prop := ReflTransGen (RefersTo entries)

theorem refersTo_iff (h : entries[p]? = some entry) :
    RefersTo entries p q ↔ q ∈ entry.references := by
  rw [RefersTo, referencesAt, h]
  rfl

theorem readAt_succ_eq_some : readAt entries (n + 1) p = some e ↔
    ∃ entry, entries[p]? = some entry ∧ entry.readWith (readAt entries n) = some e :=
  Option.bind_eq_some_iff

/-- Reading depends on nothing but the links that are found from the
position, and a larger bound does no harm. -/
theorem readAt_of_agree (h : readAt entries n p = some e)
    (hagree : ∀ q, Leads entries p q → entries'[q]? = entries[q]?) (hnm : n ≤ m) :
    readAt entries' m p = some e := by
  induction n generalizing m p e with
  | zero => cases h
  | succ n ih =>
      obtain ⟨m, rfl⟩ := Nat.exists_eq_add_of_lt hnm
      obtain ⟨entry, hentry, hread⟩ := readAt_succ_eq_some.1 h
      refine readAt_succ_eq_some.2 ⟨entry, (hagree p .refl).trans hentry, ?_⟩
      refine Entry.readWith_congr hread fun q hq f hf => ih hf (fun t ht => ?_) (by omega)
      exact hagree t (.head ((refersTo_iff hentry).2 hq) ht)

theorem readAt_mono (h : readAt entries n p = some e) (hnm : n ≤ m) :
    readAt entries m p = some e :=
  readAt_of_agree h (fun _ _ => rfl) hnm

theorem exists_entry_of_readAt (h : readAt entries n p = some e) :
    ∃ entry m, entries[p]? = some entry ∧ entry.readWith (readAt entries m) = some e := by
  cases n with
  | zero => cases h
  | succ n =>
      obtain ⟨entry, hentry, hread⟩ := readAt_succ_eq_some.1 h
      exact ⟨entry, n, hentry, hread⟩

theorem lt_length_of_readAt (h : readAt entries n p = some e) : p < entries.length := by
  obtain ⟨entry, -, hentry, -⟩ := exists_entry_of_readAt h
  exact (List.getElem?_eq_some_iff.1 hentry).1

/-- What a readable link refers to can be read with a smaller bound. -/
theorem exists_readAt_of_refersTo (h : readAt entries (n + 1) p = some e)
    (hq : RefersTo entries p q) : ∃ f, readAt entries n q = some f := by
  obtain ⟨entry, hentry, hread⟩ := readAt_succ_eq_some.1 h
  exact Entry.exists_read_of_readWith hread q ((refersTo_iff hentry).1 hq)

theorem exists_readAt_of_leads (h : readAt entries n p = some e) (hq : Leads entries p q) :
    ∃ f, readAt entries n q = some f := by
  induction hq with
  | refl => exact ⟨e, h⟩
  | tail _ hrefers ih =>
      obtain ⟨f, hf⟩ := ih
      cases n with
      | zero => cases hf
      | succ n =>
          obtain ⟨g, hg⟩ := exists_readAt_of_refersTo hf hrefers
          exact ⟨g, readAt_mono hg (Nat.le_succ n)⟩

-- =============================================================== holding

theorem leads_of_reaches (h : reaches entries q n p = true) : Leads entries p q := by
  induction n generalizing p with
  | zero => cases h
  | succ n ih =>
      rcases Bool.or_eq_true_iff.1 h with heq | hany
      · rw [beq_iff_eq.1 heq]
        exact .refl
      · obtain ⟨r, hr, hreaches⟩ := List.any_eq_true.1 hany
        exact .head hr (ih hreaches)

/-- From a failure that can be read, the search for a link misses none. -/
theorem reaches_of_leads (h : readAt entries n p = some e) (hq : Leads entries p q) :
    reaches entries q n p = true := by
  induction n generalizing p e with
  | zero => cases h
  | succ n ih =>
      rcases ReflTransGen.cases_head hq with rfl | ⟨r, hr, hrq⟩
      · exact Bool.or_eq_true_iff.2 (.inl (beq_self_eq_true p))
      · obtain ⟨f, hf⟩ := exists_readAt_of_refersTo h hr
        exact Bool.or_eq_true_iff.2 (.inr (List.any_eq_true.2 ⟨r, hr, ih hf hrq⟩))

/-- Some values hold the link at a position: one of them leads to it. -/
def HeldBy (s : Shelf) (values : List Nat) (q : Nat) : Prop :=
  ∃ p ∈ values, Leads s.entries p q

theorem isHeld_iff {values : List Nat} (h : ∀ p ∈ values, ∃ e, s.read p = some e) :
    s.isHeld values q = true ↔ s.HeldBy values q := by
  constructor
  · intro hheld
    obtain ⟨p, hp, hreaches⟩ := List.any_eq_true.1 hheld
    exact ⟨p, hp, leads_of_reaches hreaches⟩
  · rintro ⟨p, hp, hleads⟩
    obtain ⟨e, he⟩ := h p hp
    exact List.any_eq_true.2 ⟨p, hp, reaches_of_leads he hleads⟩

-- ================================================================= roots

theorem rootAt_of_cause {cause : Nat} (h : entries[p]? = some entry)
    (hcause : entry.cause? = some cause) :
    rootAt entries (n + 1) p = rootAt entries n cause := by
  simp only [rootAt, h, Option.bind_some, hcause]

theorem rootAt_of_agree (h : readAt entries n p = some e)
    (hagree : ∀ q, Leads entries p q → entries'[q]? = entries[q]?) (hnm : n ≤ m) :
    rootAt entries' m p = rootAt entries n p := by
  induction n generalizing m p e with
  | zero => cases h
  | succ n ih =>
      obtain ⟨m, rfl⟩ := Nat.exists_eq_add_of_lt hnm
      obtain ⟨entry, hentry, -⟩ := readAt_succ_eq_some.1 h
      have hentry' : entries'[p]? = some entry := (hagree p .refl).trans hentry
      cases hcause : entry.cause? with
      | none =>
          unfold rootAt
          rw [hentry, hentry', Option.bind_some, hcause]
      | some cause =>
          rw [rootAt_of_cause hentry hcause, rootAt_of_cause hentry' hcause]
          have hrefers : RefersTo entries p cause :=
            (refersTo_iff hentry).2 (Entry.cause_mem_references hcause)
          obtain ⟨f, hf⟩ := exists_readAt_of_refersTo h hrefers
          exact ih hf (fun t ht => hagree t (.head hrefers ht)) (by omega)

/-- At the position of the root stands the root. -/
theorem readAt_rootAt (h : readAt entries n p = some e) :
    readAt entries n (rootAt entries n p) = some e.root := by
  induction n generalizing p e with
  | zero => cases h
  | succ n ih =>
      obtain ⟨entry, hentry, hread⟩ := readAt_succ_eq_some.1 h
      unfold rootAt
      rw [hentry, Option.bind_some]
      match entry, hread with
      | .link report none, hread =>
          obtain rfl := Option.some.inj hread
          exact h
      | .link report (some cause), hread =>
          obtain ⟨f, hf, he⟩ := Option.bind_eq_some_iff.1 hread
          have hroot := readAt_mono (ih hf) (Nat.le_succ n)
          rw [← Option.some.inj he]
          exact hroot
      | .taken outer cause, hread =>
          obtain ⟨o, -, hread⟩ := Option.bind_eq_some_iff.1 hread
          obtain ⟨f, hf, he⟩ := Option.bind_eq_some_iff.1 hread
          have hroot := readAt_mono (ih hf) (Nat.le_succ n)
          rw [← Option.some.inj he]
          exact hroot

-- =============================================================== keeping

variable {s' : Shelf} {o i new : Nat} {rest : List Nat}

/-- Links have been entered or altered, but none that a position leads
to. -/
structure Keeps (s s' : Shelf) (p : Nat) : Prop where
  same : ∀ q, Leads s.entries p q → s'.entries[q]? = s.entries[q]?
  -- Whatever was done has lengthened chains by one at least.
  depth_lt : depth s.entries < depth s'.entries

theorem Keeps.read (h : s.Keeps s' p) (he : s.read p = some e) : s'.read p = some e :=
  readAt_of_agree he h.same (Nat.le_of_lt h.depth_lt)

theorem Keeps.rootOf (h : s.Keeps s' p) (he : s.read p = some e) : s'.rootOf p = s.rootOf p :=
  rootAt_of_agree he h.same (Nat.le_of_lt h.depth_lt)

theorem Keeps.of_leads (h : s.Keeps s' p) (hq : Leads s.entries p q) : s.Keeps s' q where
  same := fun t ht => h.same t (hq.trans ht)
  depth_lt := h.depth_lt

/-- A link that refers to what has been kept stands for what is read
there. -/
theorem read_of_keeps (hentry : s'.entries[new]? = some entry)
    (hread : entry.readWith s.read = some e) (hdepth : depth s.entries < depth s'.entries)
    (hkeeps : ∀ p ∈ entry.references, s.Keeps s' p) : s'.read new = some e := by
  obtain ⟨bound, hbound⟩ := Nat.exists_eq_add_of_lt hdepth
  unfold Shelf.read
  rw [hbound]
  refine readAt_succ_eq_some.2 ⟨entry, hentry, ?_⟩
  refine Entry.readWith_congr hread fun p hp f hf => ?_
  exact readAt_of_agree hf (hkeeps p hp).same (Nat.le_add_right _ _)

/-- A link with a cause has the root of its cause. -/
theorem rootOf_of_keeps (hentry : s'.entries[new]? = some entry) (hcause : entry.cause? = some i)
    (hread : s.read i = some e) (hkeeps : s.Keeps s' i) : s'.rootOf new = s.rootOf i := by
  obtain ⟨bound, hbound⟩ := Nat.exists_eq_add_of_lt hkeeps.depth_lt
  unfold Shelf.rootOf
  rw [hbound, rootAt_of_cause hentry hcause]
  exact rootAt_of_agree hread hkeeps.same (Nat.le_add_right _ _)

theorem depth_push (s : Shelf) (entry : Entry) :
    depth s.entries < depth (s.push entry).entries := by
  unfold depth push
  rw [List.length_append, List.countP_append, List.length_singleton]
  omega

/-- A new link leaves all others as they are. -/
theorem push_keeps (he : s.read p = some e) (entry : Entry) : s.Keeps (s.push entry) p where
  same := by
    intro q hq
    obtain ⟨f, hf⟩ := exists_readAt_of_leads he hq
    exact List.getElem?_append_left (lt_length_of_readAt hf)
  depth_lt := depth_push s entry

theorem getElem?_push (s : Shelf) (entry : Entry) :
    (s.push entry).entries[s.entries.length]? = some entry :=
  List.getElem?_concat_length

theorem read_push (hentry : entry.readWith s.read = some e) :
    (s.push entry).read s.entries.length = some e := by
  refine read_of_keeps (getElem?_push s entry) hentry (depth_push s entry) fun p hp => ?_
  obtain ⟨f, hf⟩ := Entry.exists_read_of_readWith hentry p hp
  exact push_keeps hf entry

theorem depth_set {report : Report} {cause : Nat} (h : entries[o]? = some (.link report none)) :
    depth (entries.set o (.link report (some cause))) = depth entries + 1 := by
  obtain ⟨hlt, hentry⟩ := List.getElem?_eq_some_iff.1 h
  have hcount := List.countP_set hlt (p := fun entry => entry.cause?.isSome)
    (a := .link report (some cause))
  rw [hentry] at hcount
  unfold depth
  rw [List.length_set, hcount]
  rfl

/-- An altered link leaves alone whatever does not lead to it. -/
theorem set_keeps {report : Report} {cause : Nat}
    (hentry : s.entries[o]? = some (.link report none))
    (hleads : ¬ Leads s.entries p o) (pile : List Nat) :
    s.Keeps ⟨s.entries.set o (.link report (some cause)), pile⟩ p where
  same := by
    intro q hq
    have hne : o ≠ q := by
      rintro rfl
      exact hleads hq
    exact List.getElem?_set_ne hne
  depth_lt := by
    rw [depth_set hentry]
    exact Nat.lt_succ_self _

-- =============================================================== context

/-- Making a value a context either gives its link a cause, which then
nobody else holds, or enters a new link. -/
theorem context_cases (hpile : s.pile = o :: i :: rest) :
    (∃ report, s.entries[o]? = some (.link report none) ∧ s.isHeld (i :: rest) o = false ∧
      s.context = ⟨s.entries.set o (.link report (some i)), o :: rest⟩) ∨
    ((∀ report, s.entries[o]? = some (.link report none) → s.isHeld (i :: rest) o = true) ∧
      s.context = push ⟨s.entries, rest⟩ (.taken o i)) := by
  unfold context
  rw [hpile]
  dsimp only
  split
  case h_1 report hentry hheld => exact .inl ⟨report, hentry, hheld, rfl⟩
  case h_2 hnot =>
    refine .inr ⟨fun report hentry => ?_, rfl⟩
    exact eq_true_of_ne_false (hnot report hentry)

/-- What is read of a link without a cause is just its report. -/
theorem read_eq_link {report : Report} (h : s.read p = some e)
    (hentry : s.entries[p]? = some (.link report none)) : e = .link report none := by
  obtain ⟨entry, m, hfound, hread⟩ := exists_entry_of_readAt h
  obtain rfl := Option.some.inj (hentry.symm.trans hfound)
  exact (Option.some.inj hread).symm

/-- A failure that has a cause, or is held by another value too, is taken
over whole. -/
theorem context_eq_taken {exclusive : Bool} {inner : Failure} (h : s.read p = some e)
    (hexclusive : ∀ report, s.entries[p]? = some (.link report none) → exclusive = false) :
    inner.context e exclusive = .taken e (some inner) := by
  obtain ⟨entry, m, hentry, hread⟩ := exists_entry_of_readAt h
  match entry, hread with
  | .link report none, hread =>
      obtain rfl := Option.some.inj hread
      rw [hexclusive report hentry]
      rfl
  | .link report (some cause), hread =>
      obtain ⟨f, -, he⟩ := Option.bind_eq_some_iff.1 hread
      rw [← Option.some.inj he]
      rfl
  | .taken outer cause, hread =>
      obtain ⟨o, -, hread⟩ := Option.bind_eq_some_iff.1 hread
      obtain ⟨f, -, he⟩ := Option.bind_eq_some_iff.1 hread
      rw [← Option.some.inj he]
      rfl

/-- A link that nobody else holds is given a cause where it stands. -/
theorem given_ok {report : Report} {inner : Failure} {values : List Nat}
    (hentry : s.entries[o]? = some (.link report none)) (hinner : s.read i = some inner)
    (hi : i ∈ values) (hheld : ¬ s.HeldBy values o)
    (hs' : s' = ⟨s.entries.set o (.link report (some i)), o :: rest⟩) :
    s'.read o = some (.link report (some inner)) ∧ s'.rootOf o = s.rootOf i ∧
      ∀ p ∈ values, s.Keeps s' p := by
  have hkeeps : ∀ p ∈ values, s.Keeps s' p := by
    intro p hp
    rw [hs']
    exact set_keeps hentry (fun hleads => hheld ⟨p, hp, hleads⟩) _
  have hnew : s'.entries[o]? = some (.link report (some i)) := by
    rw [hs']
    exact List.getElem?_set_self (List.getElem?_eq_some_iff.1 hentry).1
  have hread : (Entry.link report (some i)).readWith s.read = some (.link report (some inner)) :=
    Option.bind_eq_some_iff.2 ⟨inner, hinner, rfl⟩
  refine ⟨read_of_keeps hnew hread (hkeeps i hi).depth_lt fun p hp => ?_,
    rootOf_of_keeps hnew rfl hinner (hkeeps i hi), hkeeps⟩
  obtain rfl := List.mem_singleton.1 hp
  exact hkeeps p hi

/-- A failure is taken over whole by a new link. -/
theorem taken_ok {outer inner : Failure} {values : List Nat} (houter : s.read o = some outer)
    (hinner : s.read i = some inner) (hvalues : ∀ p ∈ values, ∃ e, s.read p = some e)
    (hs' : s' = push ⟨s.entries, rest⟩ (.taken o i)) :
    s'.read s.entries.length = some (.taken outer (some inner)) ∧
      s'.rootOf s.entries.length = s.rootOf i ∧ ∀ p ∈ values, s.Keeps s' p := by
  have hkeeps : ∀ p e, s.read p = some e → s.Keeps s' p := by
    intro p e he
    rw [hs']
    exact ⟨(push_keeps he (.taken o i)).same, depth_push s (.taken o i)⟩
  have hnew : s'.entries[s.entries.length]? = some (.taken o i) := by
    rw [hs']
    exact getElem?_push s (.taken o i)
  have hread : (Entry.taken o i).readWith s.read = some (.taken outer (some inner)) :=
    Option.bind_eq_some_iff.2 ⟨outer, houter, Option.bind_eq_some_iff.2 ⟨inner, hinner, rfl⟩⟩
  refine ⟨?_, rootOf_of_keeps hnew rfl hinner (hkeeps i inner hinner), fun p hp => ?_⟩
  · rw [hs']
    exact read_push (s := ⟨s.entries, rest⟩) hread
  · obtain ⟨e, he⟩ := hvalues p hp
    exact hkeeps p e he

/-- The value on top becomes the context of the one below it, exclusively if
no other value leads to its link, and all other values are kept. -/
theorem context_ok (hs : ∀ p ∈ s.pile, ∃ e, s.read p = some e) (hpile : s.pile = o :: i :: rest) :
    ∃ outer inner new, s.read o = some outer ∧ s.read i = some inner ∧
      s.context.pile = new :: rest ∧
      s.context.read new = some (inner.context outer (!s.isHeld (i :: rest) o)) ∧
      s.context.rootOf new = s.rootOf i ∧ ∀ p ∈ i :: rest, s.Keeps s.context p := by
  rw [hpile] at hs
  obtain ⟨⟨outer, houter⟩, hrest⟩ := List.forall_mem_cons.1 hs
  obtain ⟨inner, hinner⟩ := hrest i List.mem_cons_self
  rcases context_cases hpile with ⟨report, hentry, hheld, hcontext⟩ | ⟨hheld, hcontext⟩
  · have hfree : ¬ s.HeldBy (i :: rest) o := by
      rw [← isHeld_iff hrest, hheld]
      exact Bool.false_ne_true
    obtain ⟨hread, hroot, hkeeps⟩ := given_ok hentry hinner List.mem_cons_self hfree hcontext
    refine ⟨outer, inner, o, houter, hinner, by rw [hcontext], ?_, hroot, hkeeps⟩
    rw [read_eq_link houter hentry, hheld]
    exact hread
  · obtain ⟨hread, hroot, hkeeps⟩ := taken_ok houter hinner hrest hcontext
    refine ⟨outer, inner, s.entries.length, houter, hinner, by rw [hcontext]; rfl, ?_, hroot,
      hkeeps⟩
    have hshared : ∀ report, s.entries[o]? = some (.link report none) →
        (!s.isHeld (i :: rest) o) = false := fun report hentry => by rw [hheld report hentry]; rfl
    rw [context_eq_taken houter hshared]
    exact hread

-- ================================================================== runs

/-- A shelf that comes about by making, copying and dropping values and
putting them before each other. They may be taken in any order. -/
inductive Built : Shelf → Prop
  | empty : Built .empty
  | pushReport {s : Shelf} (hs : Built s) (report : Report) : Built (s.pushReport report)
  | copy {s : Shelf} (hs : Built s) (depth : Nat) : Built (s.copy depth)
  | context {s : Shelf} (hs : Built s) : Built s.context
  | root {s : Shelf} (hs : Built s) : Built s.root
  | pop {s : Shelf} (hs : Built s) : Built s.pop
  | reorder {s : Shelf} (hs : Built s) {pile : List Nat} (hpile : pile.Perm s.pile) :
    Built { s with pile := pile }

/-- Every value of the pile can be read. -/
theorem Built.readable (h : s.Built) : ∀ p ∈ s.pile, ∃ e, s.read p = some e := by
  induction h with
  | empty => exact fun p hp => absurd hp List.not_mem_nil
  | @pushReport s _ report ih =>
      refine List.forall_mem_cons.2 ⟨⟨.link report none, read_push rfl⟩, fun p hp => ?_⟩
      obtain ⟨e, he⟩ := ih p hp
      exact ⟨e, (push_keeps he (.link report none)).read he⟩
  | @copy s _ depth ih =>
      unfold Shelf.copy
      split
      case h_1 position hposition =>
        exact List.forall_mem_cons.2 ⟨ih position (List.mem_of_getElem? hposition), ih⟩
      case h_2 => exact ih
  | @context s _ ih =>
      match hpile : s.pile with
      | [] | [_] =>
          unfold Shelf.context
          rw [hpile]
          exact ih
      | o :: i :: rest =>
          obtain ⟨_, _, new, -, -, hnew, hread, -, hkeeps⟩ := context_ok ih hpile
          rw [hpile] at ih
          rw [hnew]
          refine List.forall_mem_cons.2 ⟨⟨_, hread⟩, fun p hp => ?_⟩
          have hp : p ∈ i :: rest := List.mem_cons_of_mem i hp
          obtain ⟨e, he⟩ := ih p (List.mem_cons_of_mem o hp)
          exact ⟨e, (hkeeps p hp).read he⟩
  | @root s _ ih =>
      unfold Shelf.root
      split
      case h_1 top rest hpile =>
        rw [hpile] at ih
        obtain ⟨e, he⟩ := ih top List.mem_cons_self
        exact List.forall_mem_cons.2 ⟨⟨e.root, readAt_rootAt he⟩, ih⟩
      case h_2 => exact ih
  | pop _ ih => exact fun p hp => ih p (List.mem_of_mem_drop hp)
  | reorder _ hpile ih => exact fun p hp => ih p (hpile.subset hp)

end Shelf

end Rowsmith.Failure
