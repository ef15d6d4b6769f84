import SchemaCheck.Message.Codec
import SchemaCheck.Proofs.Json.RoundTrip

/-!
# Lawful codecs

A codec is lawful (`Codec.Lawful`) when it reads what it writes as soon as the budget covers the
nesting of what is written, and refuses it otherwise. The law holds of the codecs of text, truth
values and numbers, and passes on to options, lists, enumerations and records; a record asks of its
members that their names differ and that a value which is not written is the default
(`Members.Lawful`). `Codec.Lawful.ofBytes_toBytes` says what the law means for bytes.
-/

namespace SchemaCheck

/-- Different texts have different UTF-8 forms. -/
theorem Bytes.ofString_inj {s t : String} : Bytes.ofString s = Bytes.ofString t ↔ s = t := by
  constructor
  · intro h
    have := congrArg Bytes.toString? h
    simpa using this
  · rintro rfl
    rfl

/-- Texts are told apart by their bytes. -/
@[simp] theorem Bytes.ofString_beq (s t : String) :
    (Bytes.ofString s == Bytes.ofString t) = (s == t) := by
  rw [Bool.eq_iff_iff]
  simp [Bytes.ofString_inj]

/-- What a codec writes it reads back, given a budget for its nesting, and no smaller budget is
enough. -/
structure Codec.Lawful {α : Type} (c : Codec α) : Prop where
  plain : ∀ a, (c.encode a).IsPlain
  decode_encode : ∀ a budget,
    c.decode budget (c.encode a) = if (c.encode a).depth ≤ budget then some a else none

namespace Codec

variable {α β : Type}

/-- A lawful codec reads a message back from its bytes if it is nested no deeper than messages may
be, and refuses it if it is. -/
theorem Lawful.ofBytes_toBytes {c : Codec α} (h : c.Lawful) (a : α) :
    ∃ detail, c.ofBytes (c.toBytes a)
      = if (c.encode a).depth ≤ 127 then .ok a else .error (.json detail) := by
  refine ⟨"not a message of the expected form", ?_⟩
  unfold ofBytes toBytes
  rw [Json.parse?_print (h.plain a), Option.bind_some, h.decode_encode]
  by_cases hd : (c.encode a).depth ≤ maxDepth
  · rw [if_pos hd]
    exact (if_pos hd).symm
  · rw [if_neg hd]
    exact (if_neg hd).symm

/-! ## Scalars -/

/-- Text is read back from its bytes. -/
theorem string_lawful : string.Lawful where
  plain _ := trivial
  decode_encode s budget := by
    show Bytes.toString? (Bytes.ofString s) = if 0 ≤ budget then some s else none
    simp

/-- A truth value is read back. -/
theorem bool_lawful : bool.Lawful where
  plain _ := trivial
  decode_encode b budget := by
    show some b = if 0 ≤ budget then some b else none
    simp

/-- Numbers are read back when those of the type are in range. -/
theorem number_lawful {toInt : α → Int} {ofInt? : Int → Option α}
    (h : ∀ a, ofInt? (toInt a) = some a) : (number toInt ofInt?).Lawful where
  plain _ := trivial
  decode_encode a budget := by
    show ofInt? (toInt a) = if 0 ≤ budget then some a else none
    simp [h]

/-- Signed numbers of 32 bits are read back. -/
theorem int32_lawful : int32.Lawful :=
  number_lawful fun n => by
    rw [if_pos ⟨n.minValue_le_toInt, n.toInt_le⟩, Int32.ofInt_toInt]

/-- Unsigned numbers of 32 bits are read back. -/
theorem uint32_lawful : uint32.Lawful :=
  number_lawful fun n => by
    have := n.toNat_lt
    rw [if_pos ⟨by omega, by simp [UInt32.size]; omega⟩]
    simp

/-- Bytes are read back from their numbers. -/
theorem byte_lawful : byte.Lawful :=
  number_lawful fun n => by
    have := n.toNat_lt
    rw [if_pos ⟨by omega, by simp [UInt8.size]; omega⟩]
    simp

/-- An enumeration is read back when all its values are listed, under different names. -/
theorem enumeration_lawful {all : List α} {name : α → String} (hall : ∀ a, a ∈ all)
    (hname : ∀ a b, name a = name b → a = b) : (enumeration all name).Lawful where
  plain _ := trivial
  decode_encode a budget := by
    show (all.find? fun b => Bytes.ofString (name b) == Bytes.ofString (name a))
      = if 0 ≤ budget then some a else none
    rw [if_pos (Nat.zero_le _)]
    cases hf : all.find? fun b => Bytes.ofString (name b) == Bytes.ofString (name a) with
    | none =>
      have := List.find?_eq_none.1 hf a (hall a)
      simp at this
    | some b =>
      have hb := List.find?_some hf
      rw [Bytes.ofString_beq, beq_iff_eq] at hb
      rw [hname b a hb]

/-! ## Options and lists -/

/-- A value other than null is read as a value that is present. -/
theorem optional_decode (c : Codec α) (budget : Nat) {j : Json} (h : j ≠ .null) :
    (optional c).decode budget j = (c.decode budget j).map some := by
  cases j with
  | null => exact absurd rfl h
  | _ => rfl

/-- A value that may be absent is read back when no value is written as null. -/
theorem optional_lawful {c : Codec α} (h : c.Lawful) (hn : ∀ a, c.encode a ≠ .null) :
    (optional c).Lawful where
  plain
    | none => trivial
    | some a => h.plain a
  decode_encode
    | none, budget => by
      show some none = if 0 ≤ budget then some none else none
      simp
    | some a, budget => by
      show (optional c).decode budget (c.encode a) = if (c.encode a).depth ≤ budget then _ else _
      rw [optional_decode c budget (hn a), h.decode_encode]
      split <;> rfl

/-- Two values that are read one after the other are read when the budget covers the deeper one. -/
theorem bind_if_le {m n budget : Nat} (a : α) (b : β) {γ : Type} (f : α → β → γ) :
    ((if m ≤ budget then some a else none) >>= fun a =>
      (if n ≤ budget then some b else none) >>= fun b => some (f a b))
      = if max m n ≤ budget then some (f a b) else none := by
  by_cases hm : m ≤ budget
  · by_cases hn : n ≤ budget
    · simp only [if_pos hm, if_pos hn, if_pos (Nat.max_le.2 ⟨hm, hn⟩)]
      rfl
    · simp only [if_pos hm, if_neg hn]
      rw [if_neg fun h => hn (Nat.max_le.1 h).2]
      rfl
  · rw [if_neg hm, if_neg fun h => hm (Nat.max_le.1 h).1]
    rfl

/-- The items of a list are read back one by one. -/
theorem mapM_decode_encode {c : Codec α} (h : c.Lawful) (budget : Nat) (as : List α) :
    (as.map c.encode).mapM (c.decode budget)
      = if Json.depthItems (as.map c.encode) ≤ budget then some as else none := by
  induction as with
  | nil => simp [Json.depthItems]
  | cons a as ih =>
    rw [List.map_cons, List.mapM_cons, ih, h.decode_encode, Json.depthItems]
    exact bind_if_le a as List.cons

/-- A list is read back item by item, each within a budget that is smaller by the level of the list.
-/
theorem list_lawful {c : Codec α} (h : c.Lawful) : (list c).Lawful where
  plain as := (Json.arePlain_iff _).2 fun j hj => by
    obtain ⟨a, -, rfl⟩ := List.mem_map.1 hj
    exact h.plain a
  decode_encode as
    | 0 => by
      show none = if Json.depthItems (as.map c.encode) + 1 ≤ 0 then some as else none
      simp
    | budget + 1 => by
      show (as.map c.encode).mapM (c.decode budget)
        = if Json.depthItems (as.map c.encode) + 1 ≤ budget + 1 then some as else none
      rw [mapM_decode_encode h]
      simp

end Codec

/-! ## Records -/

namespace Members

variable {α : Type}

/-- The names of members. -/
def names : {α : Type} → Members α → List String
  | _, .nil => []
  | _, .cons m rest => m.name :: rest.names

/-- Each member has a lawful codec and a name of its own, and a value that is not written is the
default. -/
def Lawful : {α : Type} → Members α → Prop
  | _, .nil => True
  | _, .cons m rest =>
    m.codec.Lawful ∧ (∀ a, m.isOmitted a = true → m.default? = some a) ∧ m.name ∉ rest.names ∧
      rest.Lawful

/-- Only members are written. -/
theorem name_mem_of_mem_encode : ∀ {α : Type} (ms : Members α) (a : α) {e : String × Json},
    e ∈ ms.encode a → e.1 ∈ ms.names
  | _, .nil, (), _, h => by simp [encode] at h
  | _, .cons m rest, (a, b), e, h => by
    rw [encode] at h
    split at h
    · exact List.mem_cons_of_mem _ (name_mem_of_mem_encode rest b h)
    · rcases List.mem_cons.1 h with rfl | h
      · exact List.mem_cons_self
      · exact List.mem_cons_of_mem _ (name_mem_of_mem_encode rest b h)

/-- The object that members are written in. -/
def given (ms : List (String × Json)) : List (Bytes × Json) :=
  ms.map fun m => (Bytes.ofString m.1, m.2)

/-- Members are as deep as the deepest of them. -/
theorem depthMembers_given_cons (m : String × Json) (ms : List (String × Json)) :
    Json.depthMembers (given (m :: ms)) = max m.2.depth (Json.depthMembers (given ms)) := rfl

/-- No member has a name that is not written. -/
theorem filter_given {ms : List (String × Json)} {name : String} (h : ∀ m ∈ ms, m.1 ≠ name) :
    (given ms).filter (fun g => g.1 == Bytes.ofString name) = [] := by
  rw [List.filter_eq_nil_iff]
  intro g hg
  obtain ⟨m, hm, rfl⟩ := List.mem_map.1 hg
  simpa using h m hm

section

variable {β : Type} {m : Member α} {rest : Members β} {a : α} {others : List (String × Json)}
  (hn : m.name ∉ rest.names) (hothers : ∀ o ∈ others, o.1 ≠ m.name)

include hn hothers

/-- A member that is written is read first, wherever other members stand. -/
theorem ofObject_of_written (budget : Nat) (b : β) (ha : m.isOmitted a = false) :
    (Members.cons m rest).ofObject budget (given (others ++ (Members.cons m rest).encode (a, b)))
      = (do
      let value ← m.codec.decode budget (m.codec.encode a)
      let values ← rest.ofObject budget
        (given ((others ++ [(m.name, m.codec.encode a)]) ++ rest.encode b))
      some (value, values)) := by
  have hbefore : (given others).filter (fun g => g.1 == Bytes.ofString m.name) = [] :=
    filter_given hothers
  have hafter : (given (rest.encode b)).filter (fun g => g.1 == Bytes.ofString m.name) = [] :=
    filter_given fun e he heq => hn (heq ▸ name_mem_of_mem_encode rest b he)
  have hfilter : (given (others ++ (m.name, m.codec.encode a) :: rest.encode b)).filter
      (fun g => g.1 == Bytes.ofString m.name) = [(Bytes.ofString m.name, m.codec.encode a)] := by
    rw [given, List.map_append, List.filter_append, List.map_cons,
      List.filter_cons_of_pos (by simp)]
    exact congrArg₂ _ hbefore (congrArg _ hafter)
  rw [ofObject, encode, ha]
  simp only [Bool.false_eq_true, if_false, hfilter]
  rw [List.append_assoc, List.singleton_append]

/-- A member that is left out is given its default. -/
theorem ofObject_of_omitted (budget : Nat) (b : β) (ha : m.isOmitted a = true) :
    (Members.cons m rest).ofObject budget (given (others ++ (Members.cons m rest).encode (a, b)))
      = (do
      let value ← m.default?
      let values ← rest.ofObject budget (given (others ++ rest.encode b))
      some (value, values)) := by
  have hfilter : (given (others ++ rest.encode b)).filter (fun g => g.1 == Bytes.ofString m.name)
      = [] := by
    rw [given, List.map_append, List.filter_append]
    exact List.append_eq_nil_iff.2 ⟨filter_given hothers,
      filter_given fun e he heq => hn (heq ▸ name_mem_of_mem_encode rest b he)⟩
  rw [ofObject, encode, ha]
  simp only [if_true, hfilter]

end

/-- Members are read back from the object they are written in, wherever other members stand before
them. The induction moves the members that were read over to those others. -/
theorem ofObject_encode (budget : Nat) : ∀ {α : Type} (ms : Members α) (a : α)
    (others : List (String × Json)), ms.Lawful → (∀ o ∈ others, o.1 ∉ ms.names) →
    ms.ofObject budget (given (others ++ ms.encode a))
      = if Json.depthMembers (given (ms.encode a)) ≤ budget then some a else none
  | _, .nil, (), others, _, _ => by simp [ofObject, encode, given, Json.depthMembers]
  | _, .cons m rest, (a, b), others, hms, hothers => by
    obtain ⟨hc, ho, hn, hr⟩ := hms
    have hnames : ∀ o ∈ others, o.1 ≠ m.name := fun o hmem heq =>
      hothers o hmem (heq ▸ List.mem_cons_self)
    have hrest : ∀ o ∈ others, o.1 ∉ rest.names := fun o hmem h =>
      hothers o hmem (List.mem_cons_of_mem _ h)
    cases hom : m.isOmitted a with
    | true =>
      have hencode : (Members.cons m rest).encode (a, b) = rest.encode b := by
        rw [encode, if_pos hom]
      rw [ofObject_of_omitted hn hnames budget b hom, ofObject_encode budget rest b others hr hrest,
        ho a hom, hencode]
      simp only [Option.bind_eq_bind, Option.bind_some]
      split <;> rfl
    | false =>
      have hencode : (Members.cons m rest).encode (a, b)
          = (m.name, m.codec.encode a) :: rest.encode b := by
        rw [encode, if_neg (Bool.eq_false_iff.1 hom)]
      have hmoved : ∀ o ∈ others ++ [(m.name, m.codec.encode a)], o.1 ∉ rest.names := by
        intro o hmem
        rcases List.mem_append.1 hmem with hmem | hmem
        · exact hrest o hmem
        · obtain rfl := List.mem_singleton.1 hmem
          exact hn
      rw [ofObject_of_written hn hnames budget b hom, hc.decode_encode,
        ofObject_encode budget rest b _ hr hmoved, hencode, depthMembers_given_cons]
      exact Codec.bind_if_le a b Prod.mk

/-- What is written of members is plain. -/
theorem plain_encode : ∀ {α : Type} (ms : Members α) (a : α), ms.Lawful →
    Json.MembersPlain (given (ms.encode a))
  | _, .nil, (), _ => trivial
  | _, .cons m rest, (a, b), h => by
    obtain ⟨hc, -, -, hr⟩ := h
    rw [encode]
    split
    · exact plain_encode rest b hr
    · exact ⟨hc.plain a, plain_encode rest b hr⟩

end Members

/-- A record is read from the object that its members are written in. -/
theorem Codec.record_decode_encode {α β : Type} (members : Members β) (build : β → α)
    (parts : α → β) (budget : Nat) (a : α) :
    (record members build parts).decode (budget + 1) ((record members build parts).encode a)
      = (members.ofObject budget (Members.given (members.encode (parts a)))).map build := by
  have hnames : (Members.given (members.encode (parts a))).all
      (fun g => g.1.toString?.isSome) = true := by
    simp [Members.given]
  show (if (Members.given (members.encode (parts a))).all (fun g => g.1.toString?.isSome)
      then (members.ofObject budget (Members.given (members.encode (parts a)))).map build
      else none) = _
  rw [if_pos hnames]

/-- A record is read back when its members are and its parts make it up again. -/
theorem Codec.record_lawful {α β : Type} {members : Members β} {build : β → α} {parts : α → β}
    (hm : members.Lawful) (hb : ∀ a, build (parts a) = a) :
    (Codec.record members build parts).Lawful where
  plain a := members.plain_encode (parts a) hm
  decode_encode a
    | 0 => by
      show none = if Json.depthMembers (Members.given (members.encode (parts a))) + 1 ≤ 0
        then some a else none
      simp
    | budget + 1 => by
      have hread := members.ofObject_encode budget (parts a) [] hm (by simp)
      rw [List.nil_append] at hread
      rw [record_decode_encode, hread]
      show _ = if Json.depthMembers (Members.given (members.encode (parts a))) + 1 ≤ budget + 1
        then some a else none
      simp only [Nat.add_le_add_iff_right]
      split
      · simp [hb]
      · rfl

/-- No record is written as null. -/
theorem Codec.record_encode_ne_null {α β : Type} {members : Members β} {build : β → α}
    {parts : α → β} (a : α) : (Codec.record members build parts).encode a ≠ .null :=
  Json.noConfusion

end SchemaCheck
