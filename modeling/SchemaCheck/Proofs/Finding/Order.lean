import SchemaCheck.Finding

/-!
# The order of findings

Entries are totally ordered (`FindingEntry.compare` is a `Std.TransCmp`) and two of them are equal
in the order only when they are the same (`FindingEntry.compare_eq_iff`). So the entries of a list
have one sorted form, whatever the order of the list (`FindingEntry.sort_eq_of_perm`), and the
entries of sorted findings are that form of their entries (`Finding.map_entry_sort`).
-/

namespace SchemaCheck

open Std

/-- Paths are compared as lists of numbers are. -/
theorem SourcePath.compare_eq_compareLex (p q : SourcePath) :
    SourcePath.compare p q = List.compareLex Ord.compare p q := by
  induction p generalizing q with
  | nil => cases q <;> rfl
  | cons a p ih =>
    cases q with
    | nil => rfl
    | cons b q => rw [SourcePath.compare, List.compareLex_cons_cons, ih]

instance : TransCmp SourcePath.compare := by
  have h : SourcePath.compare = List.compareLex Ord.compare :=
    funext fun p => funext fun q => SourcePath.compare_eq_compareLex p q
  rw [h]
  infer_instance

instance : LawfulEqCmp SourcePath.compare := by
  have h : SourcePath.compare = List.compareLex Ord.compare :=
    funext fun p => funext fun q => SourcePath.compare_eq_compareLex p q
  rw [h]
  infer_instance

namespace Place

instance : TransCmp (fun p q : Place => SourcePath.compare p.path q.path) where
  eq_swap {p q} := @OrientedCmp.eq_swap _ SourcePath.compare _ p.path q.path
  isLE_trans {p q r} := @TransCmp.isLE_trans _ SourcePath.compare _ p.path q.path r.path

instance : TransCmp Place.compare :=
  inferInstanceAs (TransCmp (compareLex (compareOn Place.fileName)
    fun p q => SourcePath.compare p.path q.path))

instance : LawfulEqCmp Place.compare where
  eq_of_compare {p q} h := by
    have h' : p.fileName = q.fileName ∧ p.path = q.path := by
      simpa only [Place.compare, Ordering.then_eq_eq, LawfulEqOrd.compare_eq_iff_eq,
        LawfulEqCmp.compare_eq_iff_eq] using h
    cases p
    cases q
    cases h'.1
    cases h'.2
    rfl

/-- An absent place comes before all others, and is equal to itself alone. -/
theorem compareOptional_eq_iff {p q : Option Place} : compareOptional p q = .eq ↔ p = q := by
  cases p with
  | none => cases q <;> simp [compareOptional, comparePresence]
  | some p =>
    cases q with
    | none => simp [compareOptional, comparePresence]
    | some q => simp [compareOptional, LawfulEqCmp.compare_eq_iff_eq]

instance : LawfulEqCmp compareOptional where
  compare_self := compareOptional_eq_iff.2 rfl
  eq_of_compare := compareOptional_eq_iff.1

instance : TransCmp compareOptional where
  eq_swap {p q} := by
    cases p with
    | none => cases q <;> rfl
    | some p =>
      cases q with
      | none => rfl
      | some q => exact @OrientedCmp.eq_swap _ Place.compare _ _ _
  isLE_trans {p q r} hpq hqr := by
    cases p with
    | none => cases r <;> rfl
    | some p =>
      cases q with
      | none => simp [compareOptional, comparePresence] at hpq
      | some q =>
        cases r with
        | none => simp [compareOptional, comparePresence] at hqr
        | some r => exact @TransCmp.isLE_trans _ Place.compare _ _ _ _ hpq hqr

end Place

namespace FindingEntry

/-- Entries by one of their places. -/
instance (side : FindingEntry → Option Place) :
    TransCmp (fun a b : FindingEntry => Place.compareOptional (side a) (side b)) where
  eq_swap {a b} := @OrientedCmp.eq_swap _ Place.compareOptional _ (side a) (side b)
  isLE_trans {a b c} :=
    @TransCmp.isLE_trans _ Place.compareOptional _ (side a) (side b) (side c)

instance : TransCmp FindingEntry.compare :=
  inferInstanceAs (TransCmp (compareLex (compareOn FindingEntry.ruleId) <|
    compareLex (fun a b => Place.compareOptional a.location b.location) <|
    compareLex (fun a b => Place.compareOptional a.against b.against) <|
    compareOn FindingEntry.message))

/-- Entries that the order does not tell apart are the same. -/
theorem compare_eq_iff {a b : FindingEntry} : a.compare b = .eq ↔ a = b := by
  simp only [compare, Ordering.then_eq_eq, LawfulEqOrd.compare_eq_iff_eq,
    Place.compareOptional_eq_iff]
  constructor
  · rintro ⟨hr, hl, ha, hm⟩
    cases a
    cases b
    simp_all
  · rintro rfl
    exact ⟨rfl, rfl, rfl, rfl⟩

/-- Whether an entry may stand before another. -/
def le (a b : FindingEntry) : Bool := a.compare b != .gt

/-- The order of entries is transitive. -/
theorem le_trans {a b c : FindingEntry} (hab : a.le b) (hbc : b.le c) : a.le c := by
  have h : ∀ x y : FindingEntry, x.le y = (x.compare y).isLE := fun x y => by
    unfold le
    cases x.compare y <;> rfl
  rw [h] at *
  exact TransCmp.isLE_trans hab hbc

/-- Of two entries one comes first. -/
theorem le_total (a b : FindingEntry) : (a.le b || b.le a) = true := by
  have hswap : b.compare a = (a.compare b).swap := OrientedCmp.eq_swap
  unfold le
  rw [hswap]
  cases a.compare b <;> rfl

/-- Entries neither of which comes after the other are the same. -/
theorem le_antisymm {a b : FindingEntry} (hab : a.le b) (hba : b.le a) : a = b := by
  have hswap : b.compare a = (a.compare b).swap := OrientedCmp.eq_swap
  unfold le at hab hba
  rw [hswap] at hba
  refine compare_eq_iff.1 ?_
  cases h : a.compare b <;> simp [h] at hab hba ⊢

/-- Entries in their order. -/
def sort (es : List FindingEntry) : List FindingEntry := es.mergeSort le

/-- Sorting entries neither adds nor takes away. -/
theorem sort_perm (es : List FindingEntry) : (sort es).Perm es := List.mergeSort_perm es le

/-- Sorted entries are in order. -/
theorem pairwise_sort (es : List FindingEntry) : (sort es).Pairwise fun a b => a.le b :=
  @List.pairwise_mergeSort FindingEntry le (fun _ _ _ hab hbc => le_trans hab hbc) le_total es

/-- A list has one sorted form. -/
theorem eq_of_perm_of_pairwise {es fs : List FindingEntry} (h : es.Perm fs)
    (hes : es.Pairwise fun a b => a.le b) (hfs : fs.Pairwise fun a b => a.le b) : es = fs :=
  List.Perm.eq_of_pairwise (fun _ _ _ _ => le_antisymm) hes hfs h

/-- Sorting forgets the order of a list. -/
theorem sort_eq_of_perm {es fs : List FindingEntry} (h : es.Perm fs) : sort es = sort fs :=
  eq_of_perm_of_pairwise ((sort_perm es).trans (h.trans (sort_perm fs).symm)) (pairwise_sort es)
    (pairwise_sort fs)

end FindingEntry

namespace Finding

/-- The entries of sorted findings are sorted as entries. -/
theorem map_entry_sort (fs : List Finding) :
    (sort fs).map entry = FindingEntry.sort (fs.map entry) :=
  List.map_mergeSort fun _ _ _ _ => rfl

/-- Sorting findings neither adds nor takes away. -/
theorem sort_perm (fs : List Finding) : (sort fs).Perm fs := List.mergeSort_perm fs _

/-- Sorted findings are in order. -/
theorem pairwise_sort (fs : List Finding) : (sort fs).Pairwise fun f g => f.compare g ≠ .gt := by
  have h : ((sort fs).map entry).Pairwise fun a b => a.le b := by
    rw [map_entry_sort]
    exact FindingEntry.pairwise_sort _
  exact (List.pairwise_map.1 h).imp fun hle => bne_iff_ne.1 hle

end Finding

end SchemaCheck
