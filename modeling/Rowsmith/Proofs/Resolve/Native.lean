/-
Types that are stored as they are. They are recognised by their paths, so
that none of them is mistaken for a reference, and a field of such a type
always has a resolution: whether a mapper is located for it or not, it has
one column.
-/
import Rowsmith.Proofs.Resolve.Outcome

namespace Rowsmith

/-- The paths of the types that are stored as they are. -/
def nativePaths : List String :=
  ["bool", "i8", "i16", "i32", "i64", "f32", "f64", "String", "std::string::String", "NaiveDate",
    "chrono::NaiveDate", "NaiveTime", "chrono::NaiveTime", "NaiveDateTime",
    "chrono::NaiveDateTime", "Vec", "std::vec::Vec"]

theorem path_mem_of_ofNative? {type : TypeExpr} {storage : Storage}
    (h : Storage.ofNative? type = some storage) : type.shape = .path ∧ type.path ∈ nativePaths := by
  unfold Storage.ofNative? at h
  split at h
  case h_1 path =>
    refine ⟨rfl, ?_⟩
    by_contra hpath
    change path ∉ nativePaths at hpath
    simp only [nativePaths, List.mem_cons, not_or] at hpath
    simp [Storage.ofPlainPath?, hpath] at h
  case h_2 path arg =>
    refine ⟨rfl, ?_⟩
    by_contra hpath
    change path ∉ nativePaths at hpath
    simp only [nativePaths, List.mem_cons, not_or] at hpath
    simp [hpath] at h
  case h_3 => cases h

theorem isReferenceType_of_ofNative? {type : TypeExpr} {storage : Storage}
    (h : Storage.ofNative? type = some storage) : isReferenceType type = false := by
  have hnames : ∀ path ∈ nativePaths,
      "Foreign".toList.isPrefixOf (TypeExpr.lastSegment path).toList = false := by decide
  obtain ⟨hshape, hpath⟩ := path_mem_of_ofNative? h
  unfold isReferenceType TypeExpr.name
  rw [if_pos hshape, hnames _ hpath, Bool.and_false]

/-- A field whose type is stored as it is is stored in one column, as it
is or through a mapper, wherever it is declared. -/
theorem exists_verdict?_of_ofNative? (locator : Locator) (owner : Owner) {f : FieldDecl}
    {storage : Storage} (h : Storage.ofNative? f.type.valueType = some storage)
    (hnullable : f.nullable = true → f.type.isOption = true) :
    ∃ x c, verdict? locator owner f = some (.settled x) ∧ (∀ s, x ≠ .nested s) ∧
      (placeField f x).1 = [c] ∧ c.name = f.storageName := by
  have hallowed : ¬ (!(!f.nullable || f.type.isOption)) = true := by
    cases hnull : f.nullable with
    | false => simp
    | true => simp [hnullable hnull]
  unfold verdict?
  rw [isReferenceType_of_ofNative? h, if_neg Bool.false_ne_true, if_neg hallowed, h]
  cases locator.mapper? f.type.valueType with
  | some mapper => exact ⟨_, _, rfl, fun _ h => (nomatch h), rfl, rfl⟩
  | none => exact ⟨_, _, rfl, fun _ h => (nomatch h), rfl, rfl⟩

end Rowsmith
