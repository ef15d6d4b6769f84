import Mathlib.Algebra.Order.Group.Int
import Mathlib.Data.List.Lex
import Mathlib.Data.Prod.Lex
import Mathlib.Order.Nat
import Mathlib.Order.WithBot
import SchemaCheck.Collector
import SchemaCheck.Message.Check
import SchemaCheck.Proofs.Finding.Order
import SchemaCheck.Proofs.Text.ByteOrder

/-!
# Responses in canonical form

The order of findings is that of their keys (`FindingEntry.compare_eq_lt_iff`): the bytes of the
rule, then the place, then the former place, then the bytes of the message, where no place comes
before all places and places go by the bytes of the file name and then by the path. The order tells
apart what differs in a message and nothing else, so a response is the same for all orders in which
its findings are found (`responses_canonical`).
-/

namespace SchemaCheck

open Std (OrientedCmp)

/-! ## Keys -/

/-- The keys of places: the bytes of the file name, then the path. -/
abbrev PlaceKey := Lex (List Nat × List Int)

/-- The keys of findings: the bytes of the rule, two places that may be absent, and the bytes of the
message. -/
abbrev FindingKey := Lex (List Nat × Lex (WithBot PlaceKey × Lex (WithBot PlaceKey × List Nat)))

namespace Place

/-- The key of a place. -/
def key (p : Place) : PlaceKey := toLex (Text.octets p.fileName, p.path.map Int32.toInt)

/-- The key of a place that may be absent. -/
def keyOptional : Option Place → WithBot PlaceKey
  | none => ⊥
  | some p => p.key

/-- Places are told apart by their keys. -/
theorem key_inj {p q : Place} : p.key = q.key ↔ p = q := by
  refine ⟨fun h => ?_, congrArg key⟩
  obtain ⟨hname, hpath⟩ := Prod.mk.inj (toLex_inj.1 h)
  cases p
  cases q
  cases Text.octets_inj.1 hname
  cases (List.map_inj_right fun _ _ => Int32.toInt_inj.1).1 hpath
  rfl

/-- Places that may be absent are told apart by their keys. -/
theorem keyOptional_inj {p q : Option Place} : keyOptional p = keyOptional q ↔ p = q := by
  cases p <;> cases q <;> simp [keyOptional, key_inj]

end Place

/-- The key of what is sent of a finding. -/
def FindingEntry.key (e : FindingEntry) : FindingKey :=
  toLex (Text.octets e.ruleId, toLex (Place.keyOptional e.location,
    toLex (Place.keyOptional e.against, Text.octets e.message)))

/-! ## The order of keys -/

/-- Texts are compared by their octets. -/
theorem Text.compare_eq_lt_iff {s t : String} : Ord.compare s t = .lt ↔ octets s < octets t :=
  compareOfLessAndEq_eq_lt.trans octets_lt_octets.symm

/-- Paths are compared number by number. -/
theorem SourcePath.compare_eq_lt_iff {p q : SourcePath} :
    SourcePath.compare p q = .lt ↔ p.map Int32.toInt < q.map Int32.toInt := by
  induction p generalizing q with
  | nil => cases q <;> simp [SourcePath.compare]
  | cons a p ih =>
    cases q with
    | nil => simp [SourcePath.compare]
    | cons b q =>
      rw [SourcePath.compare, Ordering.then_eq_lt, ih, Std.compare_eq_lt, Std.compare_eq_iff_eq,
        Int32.lt_iff_toInt_lt, ← Int32.toInt_inj, List.map_cons, List.map_cons,
        List.cons_lt_cons_iff]

/-- Places are compared by their keys: first the file, then the path. -/
theorem Place.compare_eq_lt_iff {p q : Place} : p.compare q = .lt ↔ p.key < q.key := by
  rw [Place.compare, Ordering.then_eq_lt, Text.compare_eq_lt_iff, SourcePath.compare_eq_lt_iff,
    Std.compare_eq_iff_eq, ← Text.octets_inj, key, key, Prod.Lex.toLex_lt_toLex]

/-- An absent place is the least. -/
theorem Place.compareOptional_eq_lt_iff {p q : Option Place} :
    Place.compareOptional p q = .lt ↔ keyOptional p < keyOptional q := by
  cases p <;> cases q <;>
    simp [compareOptional, comparePresence, keyOptional, Place.compare_eq_lt_iff]

/-- Entries are compared by their keys, member after member. -/
theorem FindingEntry.compare_eq_lt_iff {a b : FindingEntry} :
    a.compare b = .lt ↔ a.key < b.key := by
  rw [FindingEntry.compare, Ordering.then_eq_lt, Ordering.then_eq_lt, Ordering.then_eq_lt,
    Text.compare_eq_lt_iff, Text.compare_eq_lt_iff, Place.compareOptional_eq_lt_iff,
    Place.compareOptional_eq_lt_iff, Std.compare_eq_iff_eq, Place.compareOptional_eq_iff,
    Place.compareOptional_eq_iff, ← Text.octets_inj, ← Place.keyOptional_inj,
    ← Place.keyOptional_inj, key, key, Prod.Lex.toLex_lt_toLex, Prod.Lex.toLex_lt_toLex,
    Prod.Lex.toLex_lt_toLex]

/-- An entry stands before another when its key is not greater. -/
theorem FindingEntry.le_iff {a b : FindingEntry} : a.le b ↔ a.key ≤ b.key := by
  have hswap : a.compare b = (b.compare a).swap := OrientedCmp.eq_swap
  rw [← not_lt, ← compare_eq_lt_iff, le, hswap]
  cases b.compare a <;> simp

/-! ## Responses -/

namespace Finding

/-- What is sent of a finding is its rule, its message, and the names and paths of its places. -/
theorem entry_eq_iff {f g : Finding} : f.entry = g.entry ↔
    f.ruleId = g.ruleId ∧ f.message = g.message ∧
      f.location.map (fun l => (l.file.name, l.path)) =
        g.location.map (fun l => (l.file.name, l.path)) ∧
      f.against.map (fun l => (l.file.name, l.path)) =
        g.against.map (fun l => (l.file.name, l.path)) := by
  have hplace : ∀ l m : Option Location, l.map Location.place = m.map Location.place ↔
      l.map (fun l => (l.file.name, l.path)) = m.map (fun l => (l.file.name, l.path)) := by
    intro l m
    cases l <;> cases m <;> simp [Location.place]
  rw [entry, entry, FindingEntry.mk.injEq, hplace, hplace]

/-- The laws of the order of findings: it is total, `==` is its equality, and it is the order of the
keys of what is sent. -/
structure OrderLaws (cmp : Finding → Finding → Ordering) : Prop where
  refl : ∀ f, cmp f f = .eq
  swap : ∀ f g, cmp g f = (cmp f g).swap
  antisymm : ∀ f g, cmp f g ≠ .gt → cmp g f ≠ .gt → cmp f g = .eq
  trans : ∀ f g h, cmp f g ≠ .gt → cmp g h ≠ .gt → cmp f h ≠ .gt
  total : ∀ f g, cmp f g ≠ .gt ∨ cmp g f ≠ .gt
  beq_iff : ∀ f g, f == g ↔ cmp f g = .eq
  eq_iff_entry : ∀ f g, cmp f g = .eq ↔ f.entry = g.entry
  eq_iff : ∀ f g, cmp f g = .eq ↔
    f.ruleId = g.ruleId ∧ f.message = g.message ∧
      f.location.map (fun l => (l.file.name, l.path)) =
        g.location.map (fun l => (l.file.name, l.path)) ∧
      f.against.map (fun l => (l.file.name, l.path)) =
        g.against.map (fun l => (l.file.name, l.path))
  lt_iff : ∀ f g, cmp f g = .lt ↔ f.entry.key < g.entry.key

/-- A finding does not come after another when its key is no greater. -/
theorem compare_ne_gt_iff {f g : Finding} : f.compare g ≠ .gt ↔ f.entry.key ≤ g.entry.key :=
  bne_iff_ne.symm.trans FindingEntry.le_iff

/-- Findings compare as equal just when they are written alike. -/
theorem compare_eq_iff {f g : Finding} : f.compare g = .eq ↔ f.entry = g.entry :=
  FindingEntry.compare_eq_iff

/-- The comparison of findings has the laws of an order, since it is that of their keys. -/
theorem orderLaws : OrderLaws compare where
  refl _ := compare_eq_iff.2 rfl
  swap _ _ := @OrientedCmp.eq_swap _ FindingEntry.compare _ _ _
  antisymm _ _ hfg hgf :=
    compare_eq_iff.2 (FindingEntry.le_antisymm (bne_iff_ne.2 hfg) (bne_iff_ne.2 hgf))
  trans _ _ _ hfg hgh :=
    compare_ne_gt_iff.2 ((compare_ne_gt_iff.1 hfg).trans (compare_ne_gt_iff.1 hgh))
  total f g := (le_total f.entry.key g.entry.key).imp compare_ne_gt_iff.2 compare_ne_gt_iff.2
  beq_iff _ _ := @beq_iff_eq Ordering _ _ _ _
  eq_iff_entry _ _ := compare_eq_iff
  eq_iff _ _ := compare_eq_iff.trans entry_eq_iff
  lt_iff _ _ := FindingEntry.compare_eq_lt_iff

end Finding

namespace Response

/-- What is sent of a response is the sorted form of what is sent of its findings. -/
theorem reply_ofFindings (fs : List Finding) :
    (ofFindings fs).reply = ⟨FindingEntry.sort (fs.map Finding.entry)⟩ :=
  congrArg CheckReply.mk (Finding.map_entry_sort fs)

/-- The findings of a response are sent in the order of their keys. -/
theorem pairwise_key_reply (fs : List Finding) :
    (ofFindings fs).reply.findings.Pairwise fun a b => a.key ≤ b.key := by
  rw [reply_ofFindings]
  exact (FindingEntry.pairwise_sort _).imp FindingEntry.le_iff.1

/-- A response does not depend on the order in which its findings are found. -/
theorem reply_eq_of_perm {fs gs : List Finding} (h : gs.Perm fs) :
    (ofFindings gs).reply = (ofFindings fs).reply := by
  rw [reply_ofFindings, reply_ofFindings, FindingEntry.sort_eq_of_perm (h.map Finding.entry)]

end Response

/-- The order of findings is a total order of what is sent of them, so a response sends the same
findings in the same order for all orders in which they are found. -/
theorem responses_canonical : Finding.OrderLaws Finding.compare ∧ ∀ fs : List Finding,
    (Response.ofFindings fs).reply.findings.Perm (fs.map Finding.entry) ∧
    ((Response.ofFindings fs).reply.findings.Pairwise fun a b => a.key ≤ b.key) ∧
    ∀ gs : List Finding, gs.Perm fs →
      (Response.ofFindings gs).reply = (Response.ofFindings fs).reply := by
  refine ⟨Finding.orderLaws, fun fs => ⟨?_, Response.pairwise_key_reply fs, fun gs h =>
    Response.reply_eq_of_perm h⟩⟩
  rw [Response.reply_ofFindings]
  exact FindingEntry.sort_perm _

end SchemaCheck
