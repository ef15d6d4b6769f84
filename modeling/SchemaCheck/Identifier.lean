import SchemaCheck.Fault
import SchemaCheck.Text.Sorted

/-!
# Identifiers

Rules and categories are named in capitals (`FIELD_LOWER_SNAKE_CASE`), options in small letters
(`timestamp_suffix`). An identifier has at least four bytes, begins and ends with a letter of its
family, and has only such letters and underscores between.
-/

namespace SchemaCheck

/-- The letters of the family that a namespace uses. -/
def IdKind.isLetter : IdKind → Char → Bool
  | optionKey, c => 'a' ≤ c && c ≤ 'z'
  | _, c => 'A' ≤ c && c ≤ 'Z'

/-- The rule that an identifier of the namespace breaks when its characters are wrong. -/
def IdKind.familyRule : IdKind → String
  | optionKey => "must start and end with a-z and contain only a-z and '_'"
  | _ => "must start and end with A-Z and contain only A-Z and '_'"

namespace Identifier

/-- The least number of bytes in an identifier. -/
def minLength : Nat := 4

/-- Whether the characters are letters of the family and underscores, with a letter at either
end and at least two letters in all. -/
def inFamily (kind : IdKind) (cs : List Char) : Bool :=
  2 ≤ cs.length && cs.all (fun c => kind.isLetter c || c == '_') &&
    cs.head?.any kind.isLetter && cs.getLast?.any kind.isLetter

/-- The rule that an identifier breaks, if it breaks one. -/
def violation? (kind : IdKind) (id : String) : Option String :=
  if id.isEmpty then some "must not be empty"
  else if id.utf8ByteSize < minLength then some "must have at least four characters"
  else if inFamily kind id.toList then none
  else some kind.familyRule

/-- Whether an identifier is well-formed. -/
def isWellFormed (kind : IdKind) (id : String) : Bool := (violation? kind id).isNone

/-- Accepts the well-formed identifiers. -/
def check (kind : IdKind) (id : String) : Result Unit :=
  match violation? kind id with
  | none => .ok ()
  | some reason => .error (.invalidId kind id reason)

/-- Accepts the lists of well-formed identifiers, and otherwise reports the first that is not. -/
def checkAll (kind : IdKind) : List String → Result Unit
  | [] => .ok ()
  | id :: ids => do check kind id; checkAll kind ids

/-- The check of an identifier passes those that are well-formed. -/
theorem check_eq_ok_iff {kind : IdKind} {id : String} :
    check kind id = .ok () ↔ isWellFormed kind id := by
  unfold check isWellFormed
  cases violation? kind id <;> simp

/-- The check of several identifiers passes when each is well-formed. -/
theorem checkAll_eq_ok_iff {kind : IdKind} {ids : List String} :
    checkAll kind ids = .ok () ↔ ∀ id ∈ ids, isWellFormed kind id := by
  induction ids with
  | nil => simp [checkAll]
  | cons id ids ih =>
    cases h : check kind id with
    | ok u =>
      have hid := check_eq_ok_iff.1 h
      show (check kind id >>= fun _ => checkAll kind ids) = _ ↔ _
      rw [h]
      simpa [hid, bind, Except.bind] using ih
    | error e =>
      have hid : ¬ isWellFormed kind id := fun hw => by
        rw [check_eq_ok_iff.2 hw] at h
        cases h
      show (check kind id >>= fun _ => checkAll kind ids) = _ ↔ _
      rw [h]
      simp [hid, bind, Except.bind]

/-- Accepts the lists in which nothing occurs twice. -/
def requireUnique (kind : IdKind) (ids : List String) : Result Unit :=
  match Text.duplicates ids with
  | [] => .ok ()
  | repeated => .error (.duplicateId kind repeated)

end Identifier

end SchemaCheck
