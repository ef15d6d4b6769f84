/-!
# Sorted lists of texts

Texts are ordered by code point, which is the order of their UTF-8 bytes. This module sorts a list,
drops what is repeated in it, and finds what is repeated. The sorted form has each text of the list
exactly once (`mem_sortedUnique`, `pairwise_sortedUnique`).
-/

namespace SchemaCheck.Text

/-- Texts in ascending order, with their repetitions. -/
def sorted (ts : List String) : List String := ts.mergeSort (· ≤ ·)

/-- A list without the entries that equal the one after them. -/
def dropRepeats : List String → List String
  | [] => []
  | [a] => [a]
  | a :: b :: rest => if a = b then dropRepeats (b :: rest) else a :: dropRepeats (b :: rest)

/-- The entries of a list that equal the one after them. -/
def repeats : List String → List String
  | [] => []
  | [_] => []
  | a :: b :: rest => if a = b then b :: repeats (b :: rest) else repeats (b :: rest)

/-- Texts in ascending order, each once. -/
def sortedUnique (ts : List String) : List String := dropRepeats (sorted ts)

/-- The texts that occur more than once, in ascending order and each once. -/
def duplicates (ts : List String) : List String := dropRepeats (repeats (sorted ts))

/-- Sorted texts are in order. -/
theorem pairwise_sorted (ts : List String) : (sorted ts).Pairwise (· ≤ ·) := by
  have h := @List.pairwise_mergeSort String (fun a b => decide (a ≤ b))
    (fun a b c hab hbc => by simpa using String.le_trans (by simpa using hab) (by simpa using hbc))
    (fun a b => by simpa using String.le_total a b) ts
  exact h.imp (by simp)

/-- Sorting neither adds nor takes away. -/
@[simp] theorem mem_sorted {x : String} {ts : List String} : x ∈ sorted ts ↔ x ∈ ts :=
  List.mem_mergeSort

/-- A text of which repetitions are dropped is still there once. -/
@[simp] theorem mem_dropRepeats {x : String} {ts : List String} : x ∈ dropRepeats ts ↔ x ∈ ts := by
  fun_induction dropRepeats ts with
  | case1 => rfl
  | case2 => rfl
  | case3 a rest ih => simp [ih]
  | case4 a b rest hab ih => simp [ih]

/-- Without repetitions a list in ascending order is in strictly ascending order. -/
theorem pairwise_dropRepeats {ts : List String} (h : ts.Pairwise (· ≤ ·)) :
    (dropRepeats ts).Pairwise (· < ·) := by
  fun_induction dropRepeats ts with
  | case1 => exact .nil
  | case2 => exact List.pairwise_singleton _ _
  | case3 a rest ih => exact ih (List.pairwise_cons.1 h).2
  | case4 a b rest hab ih =>
    obtain ⟨ha, hrest⟩ := List.pairwise_cons.1 h
    refine List.pairwise_cons.2 ⟨fun x hx => ?_, ih hrest⟩
    have hx' : x ∈ b :: rest := mem_dropRepeats.1 hx
    have hlt : a < b := Std.lt_of_le_of_ne (ha b List.mem_cons_self) hab
    rcases List.mem_cons.1 hx' with rfl | hxr
    · exact hlt
    · exact Std.lt_of_lt_of_le hlt ((List.pairwise_cons.1 hrest).1 x hxr)

/-- The same texts are there after sorting and dropping repetitions. -/
@[simp] theorem mem_sortedUnique {x : String} {ts : List String} :
    x ∈ sortedUnique ts ↔ x ∈ ts := by
  simp [sortedUnique]

/-- Sorted texts without repetitions ascend. -/
theorem pairwise_sortedUnique (ts : List String) : (sortedUnique ts).Pairwise (· < ·) :=
  pairwise_dropRepeats (pairwise_sorted ts)

/-! ## Lists in ascending order of keys -/

variable {β : Type}

/-- Puts an entry before the first one with a greater key. -/
def insertKey (k : String) (v : β) : List (String × β) → List (String × β)
  | [] => [(k, v)]
  | e :: es => if k < e.1 then (k, v) :: e :: es else e :: insertKey k v es

/-- An entry that is put in its place joins those that are there. -/
theorem mem_insertKey {k : String} {v : β} {es : List (String × β)} {e : String × β} :
    e ∈ insertKey k v es ↔ e = (k, v) ∨ e ∈ es := by
  induction es with
  | nil => simp [insertKey]
  | cons d es ih =>
    unfold insertKey
    split
    · simp
    · simp only [List.mem_cons, ih]
      exact ⟨fun h => by rcases h with h | h | h <;> simp [h],
        fun h => by rcases h with h | h | h <;> simp [h]⟩

/-- A new key keeps the order. -/
theorem pairwise_insertKey {k : String} {v : β} {es : List (String × β)}
    (h : es.Pairwise fun a b => a.1 < b.1) (hk : ∀ e ∈ es, e.1 ≠ k) :
    (insertKey k v es).Pairwise fun a b => a.1 < b.1 := by
  induction es with
  | nil => simp [insertKey]
  | cons d es ih =>
    obtain ⟨hd, hes⟩ := List.pairwise_cons.1 h
    unfold insertKey
    split
    · next hlt =>
      refine List.pairwise_cons.2 ⟨fun e he => ?_, h⟩
      rcases List.mem_cons.1 he with rfl | he
      · exact hlt
      · exact String.lt_trans hlt (hd e he)
    · next hlt =>
      refine List.pairwise_cons.2 ⟨fun e he => ?_, ih hes fun e he => hk e (by simp [he])⟩
      rcases mem_insertKey.1 he with rfl | he
      · exact Std.lt_of_le_of_ne (String.not_lt.1 hlt) (hk d (by simp))
      · exact hd e he

end SchemaCheck.Text
