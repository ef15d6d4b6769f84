import Mathlib.Algebra.Group.Nat.Defs
import Mathlib.Data.List.Forall2
import SchemaCheck.Schema.Item

/-!
# Addresses of messages and fields

Where the messages and fields of a file are (`Address`), in what order, and how a path says so
(`SourcePath.address?`). The messages of a file are listed each once, in order and with true paths
and names (`FileDescriptor.allMessages_enumerated`), and so are its fields
(`FileDescriptor.allFields_enumerated`).
-/

namespace SchemaCheck

variable {α : Type}

/-- Where a message or a field is in its file: the indexes that lead to the message, from the
outermost one inwards, and the index of the field in that message. -/
structure Address where
  message : List Nat
  field : Option Nat := none
  deriving DecidableEq, Repr

namespace Address

/-- The order in a file: a message comes before its fields and before the messages inside it, and
what comes earlier in a list before what comes later. -/
def Precedes (a b : Address) : Prop :=
  a.message < b.message ∨ a.message = b.message ∧ a.field < b.field

/-- What is at an address inside the message with index `i`, seen from outside. -/
def within (i : Nat) (a : Address) : Address := { a with message := i :: a.message }

end Address

/-! ## Paths -/

namespace SourcePath

/-- The address that a path leads to from a message: by tag 3 into a message inside it, by tag 2 to
a field. -/
def addressWithin? : SourcePath → Option Address
  | [] => some ⟨[], none⟩
  | [_] => none
  | tag :: i :: path =>
    if i < 0 then none
    else if tag = 3 then (addressWithin? path).map (Address.within i.toNatClampNeg)
    else if tag = 2 ∧ path = [] then some ⟨[], some i.toNatClampNeg⟩
    else none

/-- The address that a path leads to in a file: by tag 4 into a message. -/
def address? : SourcePath → Option Address
  | tag :: i :: path =>
    if tag = 4 ∧ 0 ≤ i then (addressWithin? path).map (Address.within i.toNatClampNeg) else none
  | _ => none

/-- The path that leads to a message; the outermost one is in a list with the given tag. -/
def toMessage (tag : Int32) : List Nat → SourcePath
  | [] => []
  | i :: p => tag :: pathIndex i :: toMessage 3 p

/-- The path that leads from a message to a field. -/
def toField : Option Nat → SourcePath
  | none => []
  | some k => [2, pathIndex k]

end SourcePath

/-- The path that leads to an address. -/
def Address.path (a : Address) : SourcePath :=
  SourcePath.toMessage 4 a.message ++ SourcePath.toField a.field

/-- An address whose indexes can stand in a path. -/
def Address.Indexable (a : Address) : Prop :=
  (∀ i ∈ a.message, i < 2 ^ 31) ∧ ∀ k ∈ a.field, k < 2 ^ 31

section

variable {i : Nat}

/-- An index below 2³¹ stands in a path as it is. -/
theorem toInt_pathIndex (h : i < 2 ^ 31) : (pathIndex i).toInt = i := by
  rw [pathIndex, Nat.min_eq_left (by omega), Int32.toInt_ofNat_of_lt h]

/-- An index in a path is not negative. -/
theorem zero_le_pathIndex (h : i < 2 ^ 31) : (0 : Int32) ≤ pathIndex i := by
  rw [Int32.le_iff_toInt_le, toInt_pathIndex h]
  exact Int.natCast_nonneg i

/-- An index is read back from a path. -/
theorem toNatClampNeg_pathIndex (h : i < 2 ^ 31) : (pathIndex i).toNatClampNeg = i := by
  rw [Int32.toNatClampNeg, toInt_pathIndex h, Int.toNat_natCast]

end

namespace SourcePath

/-- The path from a message to one of its fields, or to itself, leads there. -/
theorem addressWithin?_toField {field : Option Nat} (hk : ∀ k ∈ field, k < 2 ^ 31) :
    addressWithin? (toField field) = some ⟨[], field⟩ := by
  cases field with
  | none => rfl
  | some k =>
    have hk := hk k rfl
    have hsign : ¬ pathIndex k < 0 := Int32.not_lt.2 (zero_le_pathIndex hk)
    rw [toField, addressWithin?, if_neg hsign, if_neg (by decide), if_pos ⟨rfl, rfl⟩,
      toNatClampNeg_pathIndex hk]

/-- The path from a message to one inside it, and to a field of that, leads there. -/
theorem addressWithin?_toMessage {p : List Nat} {field : Option Nat} (hp : ∀ i ∈ p, i < 2 ^ 31)
    (hk : ∀ k ∈ field, k < 2 ^ 31) :
    addressWithin? (toMessage 3 p ++ toField field) = some ⟨p, field⟩ := by
  induction p with
  | nil => exact addressWithin?_toField hk
  | cons i p ih =>
    obtain ⟨hi, hp⟩ := List.forall_mem_cons.1 hp
    have hsign : ¬ pathIndex i < 0 := Int32.not_lt.2 (zero_le_pathIndex hi)
    rw [toMessage, List.cons_append, List.cons_append, addressWithin?, if_neg hsign, if_pos rfl,
      ih hp, toNatClampNeg_pathIndex hi]
    rfl

/-- The path that leads to an address is read as that address. -/
theorem address?_path {a : Address} (ha : a.Indexable) (hne : a.message ≠ []) :
    address? a.path = some a := by
  obtain ⟨p, field⟩ := a
  obtain ⟨hp, hk⟩ := ha
  cases p with
  | nil => exact absurd rfl hne
  | cons i p =>
    obtain ⟨hi, hp⟩ := List.forall_mem_cons.1 hp
    rw [Address.path, toMessage, List.cons_append, List.cons_append, address?,
      if_pos ⟨rfl, zero_le_pathIndex hi⟩, addressWithin?_toMessage hp hk,
      toNatClampNeg_pathIndex hi]
    rfl

end SourcePath

/-! ## Declarations -/

namespace MessageDescriptor

/-- In a list of messages indexes lead to a message, which has messages with some names around
it. -/
inductive DeclaredAt :
    List MessageDescriptor → List Nat → List String → MessageDescriptor → Prop where
  | here {ms : List MessageDescriptor} {i : Nat} {m : MessageDescriptor} :
      ms[i]? = some m → DeclaredAt ms [i] [] m
  | inside {ms : List MessageDescriptor} {i : Nat} {m n : MessageDescriptor} {p : List Nat}
      {scopes : List String} : ms[i]? = some m → DeclaredAt m.nested p scopes n →
        DeclaredAt ms (i :: p) (m.name :: scopes) n

namespace DeclaredAt

variable {ms : List MessageDescriptor} {p : List Nat} {scopes scopes' : List String}
  {m n : MessageDescriptor}

/-- A message has one index at least. -/
theorem ne_nil (h : DeclaredAt ms p scopes m) : p ≠ [] := by
  cases h <;> exact List.cons_ne_nil _ _

/-- Indexes lead to one message. -/
theorem unique (h : DeclaredAt ms p scopes m) (h' : DeclaredAt ms p scopes' n) :
    scopes = scopes' ∧ m = n := by
  induction h generalizing scopes' with
  | here hm =>
    cases h' with
    | here hm' =>
      cases hm.symm.trans hm'
      exact ⟨rfl, rfl⟩
    | inside _ h' => exact absurd rfl h'.ne_nil
  | inside hm h ih =>
    cases h' with
    | here => exact absurd rfl h.ne_nil
    | inside hm' h' =>
      cases hm.symm.trans hm'
      obtain ⟨rfl, rfl⟩ := ih h'
      exact ⟨rfl, rfl⟩

end DeclaredAt

/-- The lists in a message are short enough for their indexes to stand in paths. -/
inductive Indexable : MessageDescriptor → Prop where
  | mk {name : String} {fields : List FieldDescriptor} {nested : List MessageDescriptor} :
      fields.length ≤ 2 ^ 31 → nested.length ≤ 2 ^ 31 → (∀ m ∈ nested, m.Indexable) →
        Indexable (.mk name fields nested)

/-- The indexes of fields can stand in paths. -/
theorem Indexable.fields_length {m : MessageDescriptor} (h : m.Indexable) :
    m.fields.length ≤ 2 ^ 31 := by
  cases h
  assumption

/-- Where the lists are short enough, all indexes that lead to a message can stand in a path, and so
can those that lead on from it. -/
theorem DeclaredAt.indexable {ms : List MessageDescriptor} {p : List Nat} {scopes : List String}
    {m : MessageDescriptor} (h : DeclaredAt ms p scopes m) (hlength : ms.length ≤ 2 ^ 31)
    (hms : ∀ m ∈ ms, m.Indexable) : (∀ i ∈ p, i < 2 ^ 31) ∧ m.Indexable := by
  induction h with
  | here hm =>
    obtain ⟨hi, -⟩ := List.getElem?_eq_some_iff.1 hm
    exact ⟨by simpa using Nat.lt_of_lt_of_le hi hlength, hms _ (List.mem_of_getElem? hm)⟩
  | inside hm _ ih =>
    obtain ⟨hi, -⟩ := List.getElem?_eq_some_iff.1 hm
    cases hms _ (List.mem_of_getElem? hm) with
    | mk _ hnested hinside =>
      obtain ⟨hp, hn⟩ := ih hnested hinside
      exact ⟨List.forall_mem_cons.2 ⟨Nat.lt_of_lt_of_le hi hlength, hp⟩, hn⟩

mutual

/-- The indexes that lead from a message to itself and to the messages inside it, in order. -/
def routes : MessageDescriptor → List (List Nat)
  | .mk _ _ nested => [] :: routesFrom 0 nested

/-- The indexes that lead to the messages of a list, counted from `i` on, and to those inside
them. -/
def routesFrom (i : Nat) : List MessageDescriptor → List (List Nat)
  | [] => []
  | m :: ms => m.routes.map (i :: ·) ++ routesFrom (i + 1) ms

end

/-- A route from a message stays there or leads into the messages inside it. -/
theorem mem_routes {m : MessageDescriptor} {p : List Nat} :
    p ∈ m.routes ↔ p = [] ∨ p ∈ routesFrom 0 m.nested := by
  cases m
  exact List.mem_cons

/-- A route from a list of messages leads to one of them and from there on. -/
theorem mem_routesFrom {i : Nat} {ms : List MessageDescriptor} {p : List Nat} :
    p ∈ routesFrom i ms ↔ ∃ j q m, p = (i + j) :: q ∧ ms[j]? = some m ∧ q ∈ m.routes := by
  induction ms generalizing i with
  | nil => simp [routesFrom]
  | cons m ms ih =>
    rw [routesFrom, List.mem_append, List.mem_map, ih]
    constructor
    · rintro (⟨q, hq, rfl⟩ | ⟨j, q, n, rfl, hn, hq⟩)
      · exact ⟨0, q, m, rfl, rfl, hq⟩
      · exact ⟨j + 1, q, n, by rw [Nat.add_right_comm, Nat.add_assoc], hn, hq⟩
    · rintro ⟨j, q, n, rfl, hn, hq⟩
      cases j with
      | zero =>
        cases hn
        exact .inl ⟨q, hq, rfl⟩
      | succ j => exact .inr ⟨j, q, n, by rw [Nat.add_right_comm, Nat.add_assoc], hn, hq⟩

mutual

/-- A message comes before those inside it, and those come in order. -/
theorem pairwise_routes : ∀ m : MessageDescriptor, m.routes.Pairwise (· < ·)
  | .mk _ _ nested => by
    refine List.pairwise_cons.2 ⟨fun p hp => ?_, pairwise_routesFrom 0 nested⟩
    obtain ⟨j, q, -, rfl, -⟩ := mem_routesFrom.1 hp
    exact List.nil_lt_cons _ _

/-- Routes from a list of messages are in order: those to a message and inside it before those to
the next. -/
theorem pairwise_routesFrom (i : Nat) :
    ∀ ms : List MessageDescriptor, (routesFrom i ms).Pairwise (· < ·)
  | [] => .nil
  | m :: ms => by
    refine List.pairwise_append.2 ⟨?_, pairwise_routesFrom (i + 1) ms, fun p hp p' hp' => ?_⟩
    · refine List.pairwise_map.2 ((pairwise_routes m).imp fun hlt => ?_)
      exact List.cons_lt_cons_iff.2 (.inr ⟨rfl, hlt⟩)
    · obtain ⟨q, -, rfl⟩ := List.mem_map.1 hp
      obtain ⟨j, q', -, rfl, -⟩ := mem_routesFrom.1 hp'
      exact List.cons_lt_cons_iff.2 (.inl (by omega))

end

/-- The indexes are those that lead to a message. -/
theorem mem_routesFrom_iff {ms : List MessageDescriptor} {p : List Nat} :
    p ∈ routesFrom 0 ms ↔ ∃ scopes m, DeclaredAt ms p scopes m := by
  induction p generalizing ms with
  | nil =>
    rw [mem_routesFrom]
    constructor
    · rintro ⟨_, _, _, h, -⟩
      cases h
    · rintro ⟨_, _, h⟩
      exact absurd rfl h.ne_nil
  | cons i p ih =>
    rw [mem_routesFrom]
    constructor
    · rintro ⟨j, q, m, h, hm, hq⟩
      rw [Nat.zero_add] at h
      obtain ⟨rfl, rfl⟩ := List.cons.inj h
      rcases mem_routes.1 hq with rfl | hq
      · exact ⟨[], m, .here hm⟩
      · obtain ⟨scopes, n, hn⟩ := ih.1 hq
        exact ⟨m.name :: scopes, n, .inside hm hn⟩
    · rintro ⟨scopes, n, h⟩
      cases h with
      | here hm => exact ⟨i, [], n, by rw [Nat.zero_add], hm, mem_routes.2 (.inl rfl)⟩
      | @inside _ _ m _ _ scopes hm h =>
        exact ⟨i, p, m, by rw [Nat.zero_add], hm, mem_routes.2 (.inr (ih.2 ⟨scopes, n, h⟩))⟩

end MessageDescriptor

/-! ## Full names -/

/-- Names joined with dots, after the name of the package if there is one. -/
def dottedName (package : String) (names : List String) : String :=
  ".".intercalate (if package.isEmpty then names else package :: names)

/-- Names that are added one by one are joined with dots. -/
theorem foldl_qualify {scope : String} (h : scope ≠ "") (names : List String) :
    names.foldl qualify scope = ".".intercalate (scope :: names) := by
  induction names generalizing scope with
  | nil => rfl
  | cons name names ih =>
    have hqualify : qualify scope name = scope ++ "." ++ name := by
      rw [qualify, if_neg (by rwa [String.isEmpty_iff])]
    have hne : scope ++ "." ++ name ≠ "" := by
      intro hempty
      have := congrArg String.length hempty
      simp at this
    rw [List.foldl_cons, hqualify, ih hne]
    rfl

/-- To qualify a name scope by scope is to join all names. -/
theorem foldl_qualify_eq_dottedName (package : String) {scopes : List String} (name : String)
    (h : ∀ s ∈ scopes, s ≠ "") :
    (scopes ++ [name]).foldl qualify package = dottedName package (scopes ++ [name]) := by
  unfold dottedName
  by_cases hpackage : package = ""
  · subst hpackage
    cases scopes with
    | nil => rfl
    | cons s scopes => exact foldl_qualify (h s List.mem_cons_self) (scopes ++ [name])
  · rw [if_neg (by rwa [String.isEmpty_iff])]
    exact foldl_qualify hpackage _

/-! ## Enumerations -/

/-- The items are all that there are at any address, each once and in the order of the file. -/
def Enumerates (StandsAt : Address → α → Prop) (items : List α) : Prop :=
  ∃ addresses : List Address, addresses.Pairwise Address.Precedes ∧
    (∀ a x, StandsAt a x → a ∈ addresses) ∧ List.Forall₂ StandsAt addresses items

/-- The item is the message of the file at the address, with the path that leads there. Its full
name joins the package, the names of the messages around it and its own, unless one around it has no
name. -/
structure MessageItem.StandsAt (f : FileDescriptor) (a : Address) (m : MessageItem) : Prop where
  file : m.file = f
  path : m.path = a.path
  field : a.field = none
  declared : ∃ scopes, MessageDescriptor.DeclaredAt f.messages a.message scopes m.message ∧
    ((∀ s ∈ scopes, s ≠ "") → m.fullName = dottedName f.package (scopes ++ [m.name]))

/-- The item is the field of the file at the address, with the path that leads there. Its full name
joins the package, the names of the messages around it and its own, unless one of these messages has
no name. -/
structure FieldItem.StandsAt (f : FileDescriptor) (a : Address) (x : FieldItem) : Prop where
  file : x.file = f
  path : x.path = a.path
  declared : ∃ scopes m k, MessageDescriptor.DeclaredAt f.messages a.message scopes m ∧
    a.field = some k ∧ m.fields[k]? = some x.field ∧
    ((∀ s ∈ scopes ++ [m.name], s ≠ "") →
      x.fullName = dottedName f.package (scopes ++ [m.name] ++ [x.name]))

namespace MessageItem

open MessageDescriptor

/-- What a walk from inside says of an item: it is in the file and has the path from `parent` on
that indexes say, which lead to its message; names are added to `scope` one after another. -/
structure LiesAt (file : FileDescriptor) (ms : List MessageDescriptor) (parent : SourcePath)
    (tag : Int32) (scope : String) (p : List Nat) (m : MessageItem) : Prop where
  file : m.file = file
  path : m.path = parent ++ SourcePath.toMessage tag p
  declared : ∃ scopes, DeclaredAt ms p scopes m.message ∧
    m.fullName = (scopes ++ [m.name]).foldl qualify scope

variable {file : FileDescriptor}

/-- What lies inside a message lies in the list that the message is in. -/
theorem LiesAt.inside {whole : List MessageDescriptor} {i : Nat} {n : MessageDescriptor}
    {parent : SourcePath} {tag : Int32} {scope : String} {p : List Nat} {m : MessageItem}
    (hn : whole[i]? = some n)
    (h : LiesAt file n.nested (parent.child tag i) 3 (qualify scope n.name) p m) :
    LiesAt file whole parent tag scope (i :: p) m := by
  obtain ⟨hfile, hpath, scopes, hdeclared, hname⟩ := h
  refine ⟨hfile, ?_, n.name :: scopes, .inside hn hdeclared, hname⟩
  rw [hpath, SourcePath.child, List.append_assoc]
  rfl

/-- To walk over messages inside one is to walk over each, with its index. -/
theorem walkNested_eq (parent : SourcePath) (scope : String) (i : Nat)
    (ms : List MessageDescriptor) :
    walkNested file parent scope i ms =
      (ms.mapIdx fun j m => walk file (parent.child 3 (i + j)) scope m).flatten := by
  induction ms generalizing i with
  | nil => rfl
  | cons m ms ih =>
    rw [walkNested, ih, List.mapIdx_cons, List.flatten_cons]
    simp only [Nat.add_zero, Nat.add_assoc, Nat.add_comm 1]

mutual

/-- A walk lists a message and the messages inside it in the order of their addresses. -/
theorem walk_liesAt : ∀ (n : MessageDescriptor) {whole : List MessageDescriptor} {i : Nat},
    whole[i]? = some n → ∀ (parent : SourcePath) (tag : Int32) (scope : String),
      List.Forall₂ (fun p => LiesAt file whole parent tag scope (i :: p)) n.routes
        (walk file (parent.child tag i) scope n)
  | .mk name fields nested, whole, i, hn, parent, tag, scope => by
    rw [routes, walk, walkNested_eq]
    refine .cons ⟨rfl, rfl, [], .here hn, rfl⟩ ?_
    refine (walkEach_liesAt nested (fun j => by rw [Nat.zero_add]) _ 3 _).imp ?_
    exact fun p m h => LiesAt.inside hn h

/-- A walk over some of the messages of a list reaches what their routes lead to, in order. The
number of the first tells where in the list they are. -/
theorem walkEach_liesAt : ∀ (ms : List MessageDescriptor) {whole : List MessageDescriptor}
    {i : Nat}, (∀ j, whole[i + j]? = ms[j]?) →
      ∀ (parent : SourcePath) (tag : Int32) (scope : String),
        List.Forall₂ (LiesAt file whole parent tag scope) (routesFrom i ms)
          (ms.mapIdx fun j m => walk file (parent.child tag (i + j)) scope m).flatten
  | [], _, _, _, _, _, _ => .nil
  | m :: ms, whole, i, hwhole, parent, tag, scope => by
    rw [routesFrom, List.mapIdx_cons, List.flatten_cons]
    refine List.rel_append (List.forall₂_map_left_iff.2 ?_) ?_
    · exact walk_liesAt m (hwhole 0) parent tag scope
    · have hrest : ∀ j, whole[i + 1 + j]? = ms[j]? := fun j => by
        rw [Nat.add_assoc, Nat.add_comm 1, hwhole, List.getElem?_cons_succ]
      have h := walkEach_liesAt ms hrest parent tag scope
      simpa only [Nat.add_assoc, Nat.add_comm 1] using h

end

end MessageItem

namespace FileDescriptor

open MessageDescriptor

/-- The lists in a file are short enough for their indexes to stand in paths. -/
structure Indexable (f : FileDescriptor) : Prop where
  messages : f.messages.length ≤ 2 ^ 31
  inside : ∀ m ∈ f.messages, m.Indexable

variable (f : FileDescriptor)

/-- The messages of a file lie where the routes from it lead, in order. -/
theorem allMessages_liesAt :
    List.Forall₂ (MessageItem.LiesAt f f.messages [] 4 f.package) (routesFrom 0 f.messages)
      f.allMessages := by
  have hwhole : ∀ j, f.messages[0 + j]? = f.messages[j]? := fun j => by rw [Nat.zero_add]
  have h : List.Forall₂ (MessageItem.LiesAt f f.messages [] 4 f.package) _ _ :=
    MessageItem.walkEach_liesAt f.messages hwhole [] 4 f.package
  simp only [Nat.zero_add] at h
  exact h

end FileDescriptor

variable {f : FileDescriptor}

/-- A message that lies in a file stands at its address, under its full name. -/
theorem MessageItem.LiesAt.standsAt {p : List Nat} {m : MessageItem}
    (h : LiesAt f f.messages [] 4 f.package p m) : StandsAt f ⟨p, none⟩ m := by
  obtain ⟨hfile, hpath, scopes, hdeclared, hname⟩ := h
  refine ⟨hfile, ?_, rfl, scopes, hdeclared, fun hscopes => ?_⟩
  · rw [hpath, Address.path, SourcePath.toField, List.append_nil, List.nil_append]
  · rw [hname, foldl_qualify_eq_dottedName _ _ hscopes]

/-- All messages of a file are listed, each once and in order. -/
theorem FileDescriptor.allMessages_enumerated (f : FileDescriptor) :
    Enumerates (MessageItem.StandsAt f) f.allMessages := by
  refine ⟨(MessageDescriptor.routesFrom 0 f.messages).map fun p => ⟨p, none⟩, ?_, ?_, ?_⟩
  · exact List.pairwise_map.2 ((MessageDescriptor.pairwise_routesFrom 0 _).imp .inl)
  · rintro ⟨p, field⟩ m ⟨-, -, hfield, scopes, hm, -⟩
    cases hfield
    exact List.mem_map_of_mem (MessageDescriptor.mem_routesFrom_iff.2 ⟨scopes, _, hm⟩)
  · exact List.forall₂_map_left_iff.2 (f.allMessages_liesAt.imp fun _ _ h => h.standsAt)

/-- Members of a list are related one by one with what stands for their indexes. -/
theorem forall₂_map_range_mapIdx {β γ : Type} {R : β → γ → Prop} {as : List α} {g : Nat → β}
    {h : Nat → α → γ} (hR : ∀ k a, as[k]? = some a → R (g k) (h k a)) :
    List.Forall₂ R ((List.range as.length).map g) (as.mapIdx h) := by
  refine List.forall₂_iff_get.2 ⟨by simp, fun k hk hk' => ?_⟩
  simp only [List.get_eq_getElem, List.getElem_map, List.getElem_range, List.getElem_mapIdx]
  exact hR k _ (List.getElem?_eq_getElem _)

/-- The fields of one message stand one after another. -/
theorem MessageItem.LiesAt.fields {p : List Nat} {m : MessageItem}
    (h : LiesAt f f.messages [] 4 f.package p m) :
    List.Forall₂ (FieldItem.StandsAt f)
      ((List.range m.message.fields.length).map fun k => ⟨p, some k⟩) m.fields := by
  obtain ⟨hfile, hpath, scopes, hdeclared, hname⟩ := h
  refine forall₂_map_range_mapIdx fun k field hfield =>
    ⟨hfile, ?_, scopes, m.message, k, hdeclared, rfl, hfield, fun hscopes => ?_⟩
  · show SourcePath.child m.path 2 k = _
    rw [hpath]
    rfl
  · show qualify m.fullName field.name = _
    rw [hname]
    exact (List.foldl_concat ..).symm.trans (foldl_qualify_eq_dottedName _ field.name hscopes)

/-- The fields of messages are listed message by message. -/
theorem exists_field_addresses {ps : List (List Nat)} {ms : List MessageItem}
    (h : List.Forall₂ (MessageItem.LiesAt f f.messages [] 4 f.package) ps ms)
    (hps : ps.Pairwise (· < ·)) :
    ∃ addresses : List Address, addresses.Pairwise Address.Precedes ∧
      (∀ a ∈ addresses, a.message ∈ ps) ∧
      (∀ a x, FieldItem.StandsAt f a x → a.message ∈ ps → a ∈ addresses) ∧
      List.Forall₂ (FieldItem.StandsAt f) addresses (ms.flatMap MessageItem.fields) := by
  induction h with
  | nil =>
    have hnone : ∀ p : List Nat, p ∉ [] := fun _ => List.not_mem_nil
    exact ⟨[], .nil, fun _ h => absurd h List.not_mem_nil, fun _ _ _ h => absurd h (hnone _), .nil⟩
  | @cons p m ps ms hm hms ih =>
    obtain ⟨hfirst, hps⟩ := List.pairwise_cons.1 hps
    obtain ⟨addresses, hpairwise, hamong, hall, hfields⟩ := ih hps
    refine ⟨(List.range m.message.fields.length).map (fun k => ⟨p, some k⟩) ++ addresses, ?_, ?_,
      fun a x hx ha => ?_, List.rel_append hm.fields hfields⟩
    · refine List.pairwise_append.2 ⟨?_, hpairwise, fun a ha b hb => ?_⟩
      · exact List.pairwise_map.2 (List.pairwise_lt_range.imp fun hlt => .inr ⟨rfl, hlt⟩)
      · obtain ⟨k, -, rfl⟩ := List.mem_map.1 ha
        exact .inl (hfirst _ (hamong b hb))
    · refine List.forall_mem_append.2 ⟨fun a ha => ?_, fun a ha => .tail _ (hamong a ha)⟩
      obtain ⟨k, -, rfl⟩ := List.mem_map.1 ha
      exact List.mem_cons_self
    · rcases List.mem_cons.1 ha with rfl | ha
      · -- the message at these indexes is that of the item
        obtain ⟨-, -, scopes, n, k, hn, hfield, hk, -⟩ := hx
        obtain ⟨scopes', hdeclared, -⟩ := hm.declared
        obtain ⟨-, rfl⟩ := hn.unique hdeclared
        obtain ⟨hk, -⟩ := List.getElem?_eq_some_iff.1 hk
        refine List.mem_append_left _ (List.mem_map.2 ⟨k, List.mem_range.2 hk, ?_⟩)
        rw [← hfield]
      · exact List.mem_append_right _ (hall a x hx ha)

/-- All fields of a file are listed, each once and in order. -/
theorem FileDescriptor.allFields_enumerated (f : FileDescriptor) :
    Enumerates (FieldItem.StandsAt f) f.allFields := by
  obtain ⟨addresses, hpairwise, -, hall, hfields⟩ :=
    exists_field_addresses f.allMessages_liesAt (MessageDescriptor.pairwise_routesFrom 0 _)
  refine ⟨addresses, hpairwise, fun a x hx => hall a x hx ?_, hfields⟩
  obtain ⟨scopes, m, k, hm, -⟩ := hx.declared
  exact MessageDescriptor.mem_routesFrom_iff.2 ⟨scopes, m, hm⟩

/-! ## Reading the paths of items -/

/-- The path of a message leads back to its address. -/
theorem MessageItem.StandsAt.address?_path {a : Address} {m : MessageItem} (h : StandsAt f a m)
    (hf : f.Indexable) : m.path.address? = some a := by
  obtain ⟨-, hpath, hfield, scopes, hm, -⟩ := h
  obtain ⟨hp, -⟩ := hm.indexable hf.messages hf.inside
  rw [hpath]
  exact SourcePath.address?_path ⟨hp, by simp [hfield]⟩ hm.ne_nil

/-- The path of a field leads back to its address. -/
theorem FieldItem.StandsAt.address?_path {a : Address} {x : FieldItem} (h : StandsAt f a x)
    (hf : f.Indexable) : x.path.address? = some a := by
  obtain ⟨-, hpath, scopes, m, k, hm, hfield, hk, -⟩ := h
  obtain ⟨hp, hindexable⟩ := hm.indexable hf.messages hf.inside
  obtain ⟨hk, -⟩ := List.getElem?_eq_some_iff.1 hk
  rw [hpath]
  refine SourcePath.address?_path ⟨hp, ?_⟩ hm.ne_nil
  rw [hfield]
  rintro _ ⟨⟩
  exact Nat.lt_of_lt_of_le hk hindexable.fields_length

end SchemaCheck
