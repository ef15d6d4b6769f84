import SchemaCheck.Proofs.Message.Lawful

/-!
# Spellings of a value

A codec writes one JSON value for each value, and reads many (`Codec.Spells`). The members of a
record may stand in an object in any order, among members that the record does not know, and may be
left out where they hold their default; or they may all stand in an array, in the order of the
record. Every spelling is read as the value, given a budget for what the codec itself writes
(`Codec.Spells.decode_eq`): a record takes part only if what it does not write is nested no deeper
than what it writes (`Members.Orderly`).
-/

namespace SchemaCheck

namespace Members

/-- What is written for all members in order, also for those that are left out of an object. -/
def row : {α : Type} → Members α → α → List Json
  | _, .nil, () => []
  | _, .cons m rest, (a, b) => m.codec.encode a :: rest.row b

/-- What a record is asked for: its members have different names, its parts make it up again, and
all its members are nested no deeper than those that it writes. -/
structure Orderly {α β : Type} (members : Members β) (build : β → α) (parts : α → β) : Prop where
  names_nodup : members.names.Nodup
  build_parts : ∀ a, build (parts a) = a
  level : ∀ b, Json.depthItems (members.row b) ≤ Json.depthMembers (given (members.encode b))

end Members

/-! ## Spellings -/

/-- The codecs that write no value as null, by their form. -/
inductive Codec.Required : {α : Type} → Codec α → Prop where
  | string : Required .string
  | bool : Required .bool
  | number {α : Type} {toInt : α → Int} {ofInt? : Int → Option α} : Required (.number toInt ofInt?)
  | enumeration {α : Type} {all : List α} {name : α → String} : Required (.enumeration all name)
  | list {α : Type} {c : Codec α} : Required (.list c)
  | record {α β : Type} {members : Members β} {build : β → α} {parts : α → β} :
      Required (.record members build parts)

mutual

/-- The spellings of a value: what is written for it, and what differs from it in records. -/
inductive Codec.Spells : {α : Type} → Codec α → α → Json → Prop where
  | itself {α : Type} {c : Codec α} {a : α} : c.Lawful → Codec.Spells c a (c.encode a)
  | present {α : Type} {c : Codec α} {a : α} {j : Json} : c.Required → Codec.Spells c a j →
      Codec.Spells (.optional c) (some a) j
  | list {α : Type} {c : Codec α} {as : List α} {js : List Json} : Codec.SpellsAll c as js →
      Codec.Spells (.list c) as (.array js)
  | object {α β : Type} {members : Members β} {build : β → α} {parts : α → β} {a : α}
      {known unknown spelled : List (Bytes × Json)} : members.Orderly build parts →
      Members.SpellsObject members (parts a) known →
      (∀ u ∈ unknown, ∃ name, u.1 = Bytes.ofString name ∧ name ∉ members.names) →
      spelled.Perm (known ++ unknown) →
      Codec.Spells (.record members build parts) a (.object spelled)
  | array {α β : Type} {members : Members β} {build : β → α} {parts : α → β} {a : α}
      {js : List Json} : members.Orderly build parts → Members.SpellsArray members (parts a) js →
      Codec.Spells (.record members build parts) a (.array js)

/-- The spellings of the values of a list, one by one. -/
inductive Codec.SpellsAll : {α : Type} → Codec α → List α → List Json → Prop where
  | nil {α : Type} {c : Codec α} : Codec.SpellsAll c [] []
  | cons {α : Type} {c : Codec α} {a : α} {as : List α} {j : Json} {js : List Json} :
      Codec.Spells c a j → Codec.SpellsAll c as js → Codec.SpellsAll c (a :: as) (j :: js)

/-- The spellings of members in an object, in order: a member may be left out if it holds its
default. -/
inductive Members.SpellsObject : {α : Type} → Members α → α → List (Bytes × Json) → Prop where
  | nil : Members.SpellsObject .nil () []
  | given {α β : Type} {m : Member α} {rest : Members β} {a : α} {b : β} {j : Json}
      {known : List (Bytes × Json)} : Codec.Spells m.codec a j →
      Members.SpellsObject rest b known →
      Members.SpellsObject (.cons m rest) (a, b) ((Bytes.ofString m.name, j) :: known)
  | omitted {α β : Type} {m : Member α} {rest : Members β} {a : α} {b : β}
      {known : List (Bytes × Json)} : m.default? = some a → Members.SpellsObject rest b known →
      Members.SpellsObject (.cons m rest) (a, b) known

/-- The spellings of members in an array. -/
inductive Members.SpellsArray : {α : Type} → Members α → α → List Json → Prop where
  | nil : Members.SpellsArray .nil () []
  | cons {α β : Type} {m : Member α} {rest : Members β} {a : α} {b : β} {j : Json}
      {js : List Json} : Codec.Spells m.codec a j → Members.SpellsArray rest b js →
      Members.SpellsArray (.cons m rest) (a, b) (j :: js)

end

/-! ## Reading a spelling -/

/-- The members of an object that have a name. -/
def membersNamed (name : String) (ms : List (Bytes × Json)) : List (Bytes × Json) :=
  ms.filter fun g => g.1 == Bytes.ofString name

/-- A member with the name comes first among those with it. -/
theorem membersNamed_cons_self (name : String) (j : Json) (ms : List (Bytes × Json)) :
    membersNamed name ((Bytes.ofString name, j) :: ms) =
      (Bytes.ofString name, j) :: membersNamed name ms := by
  simp [membersNamed]

/-- A member with another name is not among those with the name. -/
theorem membersNamed_cons_of_ne {name other : String} (h : other ≠ name) (j : Json)
    (ms : List (Bytes × Json)) :
    membersNamed name ((Bytes.ofString other, j) :: ms) = membersNamed name ms := by
  simp [membersNamed, h]

/-- The members with a name are those of the first part and those of the second. -/
theorem membersNamed_append (name : String) (ms ns : List (Bytes × Json)) :
    membersNamed name (ms ++ ns) = membersNamed name ms ++ membersNamed name ns :=
  List.filter_append ms ns

/-- No member has a name when all have other ones. -/
theorem membersNamed_eq_nil_iff {name : String} {ms : List (Bytes × Json)} :
    membersNamed name ms = [] ↔ ∀ g ∈ ms, g.1 ≠ Bytes.ofString name := by
  simp [membersNamed, List.filter_eq_nil_iff]

/-- The value of a member, from the members of an object that have its name. -/
def Member.ofNamed {α : Type} (m : Member α) (budget : Nat) : List (Bytes × Json) → Option α
  | [] => m.default?
  | [(_, j)] => m.codec.decode budget j
  | _ => none

/-- The value of a member, from the item of an array that stands in its place. -/
def Member.ofItem {α : Type} (m : Member α) (budget : Nat) : Option Json → Option α
  | none => m.default?
  | some j => m.codec.decode budget j

namespace Members

/-- Members are read one by one, each from those that have its name. -/
theorem ofObject_cons {α β : Type} (m : Member α) (rest : Members β) (budget : Nat)
    (spelled : List (Bytes × Json)) : (Members.cons m rest).ofObject budget spelled =
      (m.ofNamed budget (membersNamed m.name spelled)).bind fun a =>
        (rest.ofObject budget spelled).bind fun b => some (a, b) := by
  rw [ofObject]
  unfold membersNamed
  generalize spelled.filter (fun g => g.1 == Bytes.ofString m.name) = named
  obtain _ | ⟨_, _ | ⟨_, _⟩⟩ := named <;> rfl

/-- Members are read one by one, each from the item in its place. -/
theorem ofArray_cons {α β : Type} (m : Member α) (rest : Members β) (budget : Nat)
    (js : List Json) : (Members.cons m rest).ofArray budget js =
      (m.ofItem budget js.head?).bind fun a =>
        (rest.ofArray budget js.tail).bind fun b => some (a, b) := by
  cases js <;> rfl

/-- Only members are spelled as such. -/
theorem SpellsObject.mem_names : ∀ {α : Type} {ms : Members α} {a : α}
    {known : List (Bytes × Json)}, ms.SpellsObject a known →
    ∀ g ∈ known, ∃ name ∈ ms.names, g.1 = Bytes.ofString name
  | _, _, _, _, .nil, _, hg => nomatch hg
  | _, _, _, _, .given (m := m) _ hrest, g, hg => by
    rcases List.mem_cons.1 hg with rfl | hg
    · exact ⟨m.name, List.mem_cons_self, rfl⟩
    · obtain ⟨name, hname, heq⟩ := hrest.mem_names g hg
      exact ⟨name, List.mem_cons_of_mem _ hname, heq⟩
  | _, _, _, _, .omitted _ hrest, g, hg => by
    obtain ⟨name, hname, heq⟩ := hrest.mem_names g hg
    exact ⟨name, List.mem_cons_of_mem _ hname, heq⟩

/-- No member of an object has a name that is not among those that are spelled. -/
theorem SpellsObject.membersNamed_eq_nil {α : Type} {ms : Members α} {a : α}
    {known : List (Bytes × Json)} (h : ms.SpellsObject a known) {name : String}
    (hname : name ∉ ms.names) : membersNamed name known = [] := by
  refine membersNamed_eq_nil_iff.2 fun g hg heq => hname ?_
  obtain ⟨other, hother, hg⟩ := h.mem_names g hg
  rwa [Bytes.ofString_inj.1 (heq.symm.trans hg)]

section

variable {α : Type} {ms : Members α} {a : α} {known unknown spelled : List (Bytes × Json)}
  (hunknown : ∀ u ∈ unknown, ∃ name, u.1 = Bytes.ofString name ∧ name ∉ ms.names)
  (hperm : spelled.Perm (known ++ unknown))

include hunknown hperm

/-- All names in a spelled object are texts. -/
theorem SpellsObject.all_isText (h : ms.SpellsObject a known) :
    spelled.all (fun g => g.1.toString?.isSome) = true := by
  refine List.all_eq_true.2 fun g hg => ?_
  obtain ⟨name, hname⟩ : ∃ name, g.1 = Bytes.ofString name := by
    rcases List.mem_append.1 (hperm.mem_iff.1 hg) with hg | hg
    · obtain ⟨name, -, hname⟩ := h.mem_names g hg
      exact ⟨name, hname⟩
    · obtain ⟨name, hname, -⟩ := hunknown g hg
      exact ⟨name, hname⟩
  rw [hname, Bytes.toString?_ofString]
  rfl

/-- What has the name of a member in a spelled object is what spells the member. -/
theorem perm_membersNamed {name : String} (hname : name ∈ ms.names) :
    (membersNamed name spelled).Perm (membersNamed name known) := by
  have hnone : membersNamed name unknown = [] := membersNamed_eq_nil_iff.2 fun u hu heq => by
    obtain ⟨other, hother, hnot⟩ := hunknown u hu
    exact hnot (Bytes.ofString_inj.1 (heq.symm.trans hother) ▸ hname)
  have hfilter : (membersNamed name spelled).Perm (membersNamed name (known ++ unknown)) :=
    hperm.filter _
  rwa [membersNamed_append, hnone, List.append_nil] at hfilter

end

end Members

/-- No codec that writes no value as null reads null. -/
theorem Codec.Required.decode_null {α : Type} {c : Codec α} (h : c.Required) (budget : Nat) :
    c.decode budget .null = none := by
  cases h <;> cases budget <;> rfl

mutual

/-- A spelling of a value is read as the value, with a budget for what is written for the value. -/
theorem Codec.Spells.decode_eq : ∀ {α : Type} {c : Codec α} {a : α} {j : Json}, c.Spells a j →
    ∀ budget, (c.encode a).depth ≤ budget → c.decode budget j = some a
  | _, _, a, _, .itself h, budget, hd => by rw [h.decode_encode, if_pos hd]
  | _, _, _, j, .present (c := c) (a := a) hc h, budget, hd => by
    have hread := h.decode_eq budget hd
    have hnull : j ≠ .null := by
      rintro rfl
      rw [hc.decode_null] at hread
      cases hread
    rw [Codec.optional_decode c budget hnull, hread]
    rfl
  | _, _, _, _, .list h, 0, hd => absurd hd (Nat.not_succ_le_zero _)
  | _, _, _, _, .list h, budget + 1, hd => h.mapM_decode budget (Nat.le_of_succ_le_succ hd)
  | _, _, _, _, .object _ _ _ _, 0, hd => absurd hd (Nat.not_succ_le_zero _)
  | _, _, _, _, @Codec.Spells.object _ _ members build _ _ _ _ spelled hm h hunknown hperm,
      budget + 1, hd => by
    have hlevel := Nat.le_trans (hm.level _) (Nat.le_of_succ_le_succ hd)
    show (if spelled.all (fun g => g.1.toString?.isSome) then
      (members.ofObject budget spelled).map build else none) = _
    rw [if_pos (h.all_isText hunknown hperm), h.ofObject_eq hm.names_nodup budget spelled hlevel
      fun _ => Members.perm_membersNamed hunknown hperm, Option.map_some, hm.build_parts]
  | _, _, _, _, .array _ _, 0, hd => absurd hd (Nat.not_succ_le_zero _)
  | _, _, _, _, @Codec.Spells.array _ _ members build _ _ js hm h, budget + 1, hd => by
    have hlevel := Nat.le_trans (hm.level _) (Nat.le_of_succ_le_succ hd)
    show (members.ofArray budget js).map build = _
    rw [h.ofArray_eq budget hlevel, Option.map_some, hm.build_parts]

/-- Items in any spelling are read as the values that they spell. -/
theorem Codec.SpellsAll.mapM_decode : ∀ {α : Type} {c : Codec α} {as : List α} {js : List Json},
    c.SpellsAll as js → ∀ budget, Json.depthItems (as.map c.encode) ≤ budget →
    js.mapM (c.decode budget) = some as
  | _, _, _, _, .nil, _, _ => rfl
  | _, _, _, _, .cons h hrest, budget, hd => by
    obtain ⟨hfirst, hothers⟩ := Nat.max_le.1 hd
    rw [List.mapM_cons, h.decode_eq budget hfirst, hrest.mapM_decode budget hothers]
    rfl

/-- Members in any spelling and order are read as the values that they spell: a member is found by
its name, of which there is one at most. -/
theorem Members.SpellsObject.ofObject_eq : ∀ {α : Type} {ms : Members α} {a : α}
    {known : List (Bytes × Json)}, ms.SpellsObject a known → ms.names.Nodup →
    ∀ budget spelled, Json.depthItems (ms.row a) ≤ budget →
    (∀ name ∈ ms.names, (membersNamed name spelled).Perm (membersNamed name known)) →
    ms.ofObject budget spelled = some a
  | _, _, _, _, .nil, _, _, _, _, _ => rfl
  | _, _, _, _, @Members.SpellsObject.given _ _ m rest a _ j known h hrest, hnames, budget,
      spelled, hd, hspelled => by
    obtain ⟨hname, hnodup⟩ := List.nodup_cons.1 hnames
    obtain ⟨hfirst, hothers⟩ := Nat.max_le.1 hd
    have hnamed := hspelled m.name List.mem_cons_self
    rw [membersNamed_cons_self, hrest.membersNamed_eq_nil hname] at hnamed
    have hread : m.ofNamed budget (membersNamed m.name spelled) = some a := by
      rw [List.perm_singleton.1 hnamed]
      exact h.decode_eq budget hfirst
    have hspelled' : ∀ name ∈ rest.names,
        (membersNamed name spelled).Perm (membersNamed name known) := by
      intro name hmem
      have hne : m.name ≠ name := fun heq => hname (heq ▸ hmem)
      rw [← membersNamed_cons_of_ne hne j known]
      exact hspelled name (List.mem_cons_of_mem _ hmem)
    rw [Members.ofObject_cons, hread, hrest.ofObject_eq hnodup budget spelled hothers hspelled']
    rfl
  | _, _, _, _, .omitted (m := m) (a := a) hdefault hrest, hnames, budget, spelled, hd,
      hspelled => by
    obtain ⟨hname, hnodup⟩ := List.nodup_cons.1 hnames
    have hnamed := hspelled m.name List.mem_cons_self
    rw [hrest.membersNamed_eq_nil hname] at hnamed
    have hread : m.ofNamed budget (membersNamed m.name spelled) = some a := by
      rw [List.perm_nil.1 hnamed]
      exact hdefault
    rw [Members.ofObject_cons, hread, hrest.ofObject_eq hnodup budget spelled (Nat.max_le.1 hd).2
      fun name hmem => hspelled name (List.mem_cons_of_mem _ hmem)]
    rfl

/-- Members that stand in an array in any spelling are read as the values that they spell. -/
theorem Members.SpellsArray.ofArray_eq : ∀ {α : Type} {ms : Members α} {a : α} {js : List Json},
    ms.SpellsArray a js → ∀ budget, Json.depthItems (ms.row a) ≤ budget →
    ms.ofArray budget js = some a
  | _, _, _, _, .nil, _, _ => rfl
  | _, _, _, _, .cons h hrest, budget, hd => by
    obtain ⟨hfirst, hothers⟩ := Nat.max_le.1 hd
    rw [Members.ofArray, h.decode_eq budget hfirst, hrest.ofArray_eq budget hothers]
    rfl

end

/-! ## Misspellings -/

/-- Where a member stands in a record. -/
inductive Members.At : {α β : Type} → Members β → Nat → Member α → Prop where
  | head {α β : Type} {m : Member α} {rest : Members β} : Members.At (.cons m rest) 0 m
  | tail {α β γ : Type} {n : Nat} {m : Member α} {other : Member β} {rest : Members γ} :
      Members.At rest n m → Members.At (.cons other rest) (n + 1) m

/-- What no value is spelled as: null in place of a value that is not optional, and a record with a
member given twice or with a member left out that has no default, wherever it stands. -/
inductive Codec.Misspelled : {α : Type} → Codec α → Json → Prop where
  | null {α : Type} {c : Codec α} : c.Required → Codec.Misspelled c .null
  | present {α : Type} {c : Codec α} {j : Json} : j ≠ .null → Codec.Misspelled c j →
      Codec.Misspelled (.optional c) j
  | item {α : Type} {c : Codec α} {j : Json} {js : List Json} : j ∈ js → Codec.Misspelled c j →
      Codec.Misspelled (.list c) (.array js)
  | repeated {α β γ : Type} {members : Members β} {build : β → α} {parts : α → β} {n : Nat}
      {m : Member γ} {spelled : List (Bytes × Json)} : members.At n m →
      2 ≤ (membersNamed m.name spelled).length →
      Codec.Misspelled (.record members build parts) (.object spelled)
  | missing {α β γ : Type} {members : Members β} {build : β → α} {parts : α → β} {n : Nat}
      {m : Member γ} {spelled : List (Bytes × Json)} : members.At n m → m.default? = none →
      membersNamed m.name spelled = [] →
      Codec.Misspelled (.record members build parts) (.object spelled)
  | member {α β γ : Type} {members : Members β} {build : β → α} {parts : α → β} {n : Nat}
      {m : Member γ} {spelled : List (Bytes × Json)} {j : Json} : members.At n m →
      (Bytes.ofString m.name, j) ∈ spelled → Codec.Misspelled m.codec j →
      Codec.Misspelled (.record members build parts) (.object spelled)
  | short {α β γ : Type} {members : Members β} {build : β → α} {parts : α → β} {n : Nat}
      {m : Member γ} {js : List Json} : members.At n m → m.default? = none → js.length ≤ n →
      Codec.Misspelled (.record members build parts) (.array js)
  | position {α β γ : Type} {members : Members β} {build : β → α} {parts : α → β} {n : Nat}
      {m : Member γ} {js : List Json} {j : Json} : members.At n m → js[n]? = some j →
      Codec.Misspelled m.codec j → Codec.Misspelled (.record members build parts) (.array js)

namespace Members

/-- A record is not read from an object when one of its members is not. -/
theorem At.ofObject_eq_none {α β : Type} {ms : Members β} {n : Nat} {m : Member α} (h : ms.At n m)
    {budget : Nat} {spelled : List (Bytes × Json)}
    (hm : m.ofNamed budget (membersNamed m.name spelled) = none) :
    ms.ofObject budget spelled = none := by
  induction h with
  | head =>
    rw [ofObject_cons, hm]
    rfl
  | @tail _ _ _ _ other rest _ ih =>
    rw [ofObject_cons, ih hm]
    cases other.ofNamed budget (membersNamed other.name spelled) <;> rfl

/-- A record is not read from an array when one of its members is not. -/
theorem At.ofArray_eq_none {α β : Type} {ms : Members β} {n : Nat} {m : Member α} (h : ms.At n m)
    {budget : Nat} {js : List Json} (hm : m.ofItem budget js[n]? = none) :
    ms.ofArray budget js = none := by
  induction h generalizing js with
  | head =>
    rw [ofArray_cons, List.head?_eq_getElem?, hm]
    rfl
  | @tail _ _ _ _ other rest _ ih =>
    rw [ofArray_cons, ih (by rwa [List.getElem?_tail])]
    cases other.ofItem budget js.head? <;> rfl

end Members

namespace Codec

/-- A list is not read when one of its items is not. -/
theorem mapM_eq_none {α β : Type} {f : α → Option β} {as : List α} {a : α} (ha : a ∈ as)
    (h : f a = none) : as.mapM f = none := by
  induction as with
  | nil => cases ha
  | cons first as ih =>
    rw [List.mapM_cons]
    rcases List.mem_cons.1 ha with rfl | ha
    · rw [h]
      rfl
    · rw [ih ha]
      cases f first <;> rfl

section

variable {α β : Type} {members : Members β} {build : β → α} {parts : α → β}

/-- A record is not read from an object when its members are not. -/
theorem record_decode_object {spelled : List (Bytes × Json)}
    (h : ∀ budget, members.ofObject budget spelled = none) :
    ∀ budget, (record members build parts).decode budget (.object spelled) = none
  | 0 => rfl
  | budget + 1 => by
    show (if spelled.all (fun g => g.1.toString?.isSome) then
      (members.ofObject budget spelled).map build else none) = none
    rw [h budget]
    split <;> rfl

/-- A record is not read from an array when its members are not. -/
theorem record_decode_array {js : List Json} (h : ∀ budget, members.ofArray budget js = none) :
    ∀ budget, (record members build parts).decode budget (.array js) = none
  | 0 => rfl
  | budget + 1 => by
    show (members.ofArray budget js).map build = none
    rw [h budget]
    rfl

end

/-- What is misspelled is not read, whatever the budget. -/
theorem Misspelled.decode_eq_none {α : Type} {c : Codec α} {j : Json} (h : c.Misspelled j) :
    ∀ budget, c.decode budget j = none := by
  induction h with
  | null hc => exact hc.decode_null
  | @present _ c j hj _ ih =>
    intro budget
    rw [optional_decode c budget hj, ih]
    rfl
  | item hj _ ih =>
    intro budget
    cases budget with
    | zero => rfl
    | succ budget => exact mapM_eq_none hj (ih budget)
  | @repeated _ _ _ _ _ _ _ m spelled hat htwice =>
    refine record_decode_object fun budget => hat.ofObject_eq_none ?_
    match membersNamed m.name spelled, htwice with
    | _ :: _ :: _, _ => rfl
  | missing hat hdefault hnone =>
    refine record_decode_object fun budget => hat.ofObject_eq_none ?_
    rw [hnone]
    exact hdefault
  | @member _ _ _ _ _ _ _ m spelled j hat hj _ ih =>
    refine record_decode_object fun budget => hat.ofObject_eq_none ?_
    -- either it is the one member with its name, or the name is there twice
    have hnamed : (Bytes.ofString m.name, j) ∈ membersNamed m.name spelled :=
      List.mem_filter.2 ⟨hj, beq_self_eq_true _⟩
    match membersNamed m.name spelled, hnamed with
    | [_], hnamed =>
      rw [← List.mem_singleton.1 hnamed]
      exact ih budget
    | _ :: _ :: _, _ => rfl
  | short hat hdefault hlength =>
    refine record_decode_array fun budget => hat.ofArray_eq_none ?_
    rwa [List.getElem?_eq_none hlength]
  | position hat hj _ ih =>
    refine record_decode_array fun budget => hat.ofArray_eq_none ?_
    rw [hj]
    exact ih budget

end Codec

end SchemaCheck
