import SchemaCheck.Proofs.Provider.Verdict
import SchemaCheck.Walk

/-!
# Rules that look at one thing at a time

An activity is determined when it hands out the same items and ends in the same way in all live
contexts. A rule that walks over the files looks at files and options only, and leaves the context
alone, as soon as its visits do (`Handler.forEachFile_inputOnly`, `Handler.forEachField_calm`).
-/

namespace SchemaCheck

variable {ω α β : Type}

namespace Activity

/-- Whatever live contexts the activity sees, it does the same. -/
def Determined (a : Activity ω α) : Prop :=
  ∀ (items items' : List ω) (r r' : Result α), a.Yields items r → a.Yields items' r' →
    items = items' ∧ r = r'

/-- An activity that is done always ends in the same way. -/
theorem determined_ofResult (r : Result α) : (ofResult r : Activity ω α).Determined := by
  rintro _ _ _ _ ⟨⟩ ⟨⟩
  exact ⟨rfl, rfl⟩

/-- A value is always the same. -/
theorem determined_pure (x : α) : (pure x : Activity ω α).Determined := determined_ofResult (.ok x)

/-- An item is always handed out. -/
theorem determined_give (item : ω) : (give item).Determined := by
  rintro _ _ _ _ (_ | ⟨⟨⟩⟩) (_ | ⟨⟨⟩⟩)
  exact ⟨rfl, rfl⟩

/-- In a live context a check passes. -/
theorem determined_check_bind {next : Activity ω α} (h : next.Determined) :
    (do check; next).Determined := by
  intro items items' r r' hy hy'
  exact h _ _ _ _ (yields_check_bind.1 hy) (yields_check_bind.1 hy')

/-- Determined activities one after another are determined. -/
theorem Determined.bind {a : Activity ω α} {f : α → Activity ω β} (h : a.Determined)
    (hf : ∀ x, (f x).Determined) : (a >>= f).Determined := by
  intro items items' r r' hy hy'
  rcases yields_bind_iff.1 hy with ⟨e, ha, rfl⟩ | ⟨x, first, rest, ha, hrest, rfl⟩
  · rcases yields_bind_iff.1 hy' with ⟨e', ha', rfl⟩ | ⟨x', first', rest', ha', hrest', rfl⟩
    · obtain ⟨rfl, heq⟩ := h _ _ _ _ ha ha'
      cases heq
      exact ⟨rfl, rfl⟩
    · cases (h _ _ _ _ ha ha').2
  · rcases yields_bind_iff.1 hy' with ⟨e', ha', rfl⟩ | ⟨x', first', rest', ha', hrest', rfl⟩
    · cases (h _ _ _ _ ha ha').2
    · obtain ⟨rfl, heq⟩ := h _ _ _ _ ha ha'
      cases heq
      obtain ⟨rfl, rfl⟩ := hf x _ _ _ _ hrest hrest'
      exact ⟨rfl, rfl⟩

/-- A loop is determined when each of its turns is. -/
theorem determined_forEach {f : β → Activity ω Unit} (h : ∀ b, (f b).Determined) (bs : List β) :
    (forEach f bs).Determined := by
  induction bs with
  | nil => exact determined_pure ()
  | cons b bs ih => exact (h b).bind fun _ => ih

end Activity

open Activity

section Walks

variable {visit : SchemaFile → Activity ω Unit}

/-- A walk is determined when each of its visits is, though it looks at the context before each
file: in live contexts nothing comes of it. -/
theorem walkFiles_determined (h : ∀ f, (visit f).Determined) (fs : List SchemaFile) :
    (walkFiles visit fs).Determined := by
  induction fs with
  | nil => exact determined_pure ()
  | cons f fs ih =>
    rw [walkFiles]
    split
    · exact ih
    · exact determined_check_bind ((h f).bind fun _ => ih)

/-- A walk is calm when each of its visits is. -/
theorem walkFiles_calm (h : ∀ f, (visit f).Calm) (fs : List SchemaFile) :
    (walkFiles visit fs).Calm := by
  induction fs with
  | nil => trivial
  | cons f fs ih =>
    rw [walkFiles]
    split
    · exact ih
    · exact calm_check.bind fun _ => (h f).bind fun _ => ih

end Walks

namespace Handler

/-- Code that does the same for requests with the same files and options, and in all live contexts,
looks at nothing else. -/
theorem inputOnly_of {h : Handler} (hr : ∀ id r s, r.SameInputs s → h id r = h id s)
    (hd : ∀ id r, (h id r).Determined) : h.InputOnly := by
  intro id r s drafts drafts' result result' hrs hy hy'
  rw [← hr id r s hrs] at hy'
  exact hd id r _ _ _ _ hy hy'

/-- Code that looks at files and options only is determined on each request. -/
theorem InputOnly.determined {h : Handler} (hinput : h.InputOnly) (id : String) (r : Request) :
    (h id r).Determined :=
  fun _ _ _ _ hy hy' => hinput id r r _ _ _ _ (.refl r) hy hy'

section

variable {α : Type} {visit : String → Request → α → Activity Draft Unit}

/-- Visits do the same for requests with the same files and options, and in all live contexts. -/
structure VisitsInputOnly (visit : String → Request → α → Activity Draft Unit) : Prop where
  request : ∀ id r s, r.SameInputs s → visit id r = visit id s
  determined : ∀ id r a, (visit id r a).Determined

/-- A rule that visits files looks at files and options only when its visits do. -/
theorem forEachFile_inputOnly {visit : String → Request → SchemaFile → Activity Draft Unit}
    (h : VisitsInputOnly visit) : (forEachFile visit).InputOnly := by
  refine inputOnly_of (fun id r s hrs => ?_) fun id r => walkFiles_determined (h.determined id r) _
  unfold forEachFile
  rw [h.request id r s hrs, hrs.files]

/-- A rule that visits fields looks at files and options only when its visits do. -/
theorem forEachField_inputOnly {visit : String → Request → FieldItem → Activity Draft Unit}
    (h : VisitsInputOnly visit) : (forEachField visit).InputOnly := by
  refine inputOnly_of (fun id r s hrs => ?_) fun id r =>
    walkFiles_determined (fun f => determined_forEach (h.determined id r) _) _
  unfold forEachField
  rw [h.request id r s hrs, hrs.files]

/-- A rule that visits files leaves the context alone when its visits do. -/
theorem forEachFile_calm {visit : String → Request → SchemaFile → Activity Draft Unit}
    (h : ∀ id r f, (visit id r f).Calm) : (forEachFile visit).Calm :=
  fun id r => walkFiles_calm (h id r) _

/-- A rule that visits fields leaves the context alone when its visits do. -/
theorem forEachField_calm {visit : String → Request → FieldItem → Activity Draft Unit}
    (h : ∀ id r f, (visit id r f).Calm) : (forEachField visit).Calm :=
  fun id r => walkFiles_calm (fun _ => calm_forEach (h id r) _) _

end

end Handler

end SchemaCheck
