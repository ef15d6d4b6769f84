import SchemaCheck.Proofs.Request.Building
import SchemaCheck.Proofs.Text.ByteOrder

/-!
# Options are finite maps in canonical form

Options are made of pairs when all keys are formed, all values have bytes and no key occurs twice
(`Options.exists_ofPairs_iff`). Otherwise the first pair that cannot be added to those before it is
reported (`Options.ofPairs_eq_error_iff`): the loop that adds them stops there
(`Options.insertAll_eq_error_iff`). Options that hold the same pairs are equal, since the entries
are in the order of their keys (`Options.eq_of_perm`). A value reads as a text just when its bytes
are those of the text, character by character (`Bytes.encodes_iff`).
-/

namespace SchemaCheck

/-! ## Bytes of a text -/

namespace Bytes

/-- The bytes of a character by its number, six bits to each byte but the first. -/
def ofCodePoint (n : Nat) : List Nat :=
  if n ≤ 0x7F then [n]
  else if n ≤ 0x7FF then [n / 0x40 + 0xC0, n % 0x40 + 0x80]
  else if n ≤ 0xFFFF then [n / 0x1000 + 0xE0, n / 0x40 % 0x40 + 0x80, n % 0x40 + 0x80]
  else [n / 0x40000 + 0xF0, n / 0x1000 % 0x40 + 0x80, n / 0x40 % 0x40 + 0x80, n % 0x40 + 0x80]

/-- Whether bytes are those of the characters of a text, one after the other. -/
def Encodes (b : Bytes) (s : String) : Prop :=
  b.map UInt8.toNat = s.toList.flatMap fun c => ofCodePoint c.toNat

/-- Bytes encode a text just when they are its bytes. -/
theorem encodes_iff {b : Bytes} {s : String} : b.Encodes s ↔ ofString s = b := by
  have hcode : (fun c : Char => ofCodePoint c.toNat) = Text.charOctets :=
    funext fun c => (Text.charOctets_eq c).symm
  have hinj : Function.Injective (List.map UInt8.toNat) :=
    List.map_injective_iff.2 fun _ _ => UInt8.toNat_inj.1
  rw [Encodes, hcode, ← Text.octets_eq, Text.octets, hinj.eq_iff, eq_comm]

end Bytes

/-! ## What is wrong with an identifier -/

namespace Identifier

variable {kind : IdKind} {id reason reason' : String}

/-- One thing is wrong with an identifier at most: an empty one is not called short, nor a short one
by the rule of its family. -/
theorem Flaw.unique (h : Flaw kind id reason) (h' : Flaw kind id reason') : reason = reason' := by
  have hempty : ("" : String).utf8ByteSize < 4 := by decide
  cases h with
  | empty hid =>
    subst hid
    cases h' with
    | empty _ => rfl
    | short hne _ => exact absurd rfl hne
    | family hlength _ => exact absurd hempty (Nat.not_lt.2 hlength)
  | short hne hshort =>
    cases h' with
    | empty hid => exact absurd hid hne
    | short _ _ => rfl
    | family hlength _ => exact absurd hshort (Nat.not_lt.2 hlength)
  | family hlength _ =>
    cases h' with
    | empty hid =>
      subst hid
      exact absurd hempty (Nat.not_lt.2 hlength)
    | short _ hshort => exact absurd hshort (Nat.not_lt.2 hlength)
    | family _ _ => rfl

end Identifier

/-! ## Options of pairs -/

namespace Options

/-- Pairs of which options are made. -/
structure InOrder (pairs : List (String × Bytes)) : Prop where
  keys : ∀ pair ∈ pairs, Identifier.Formed .optionKey pair.1
  values : ∀ pair ∈ pairs, pair.2 ≠ []
  once : (pairs.map (·.1)).Nodup

/-- Why a pair cannot be added to the pairs before it. The form of the key comes first, then the
value, and then the keys before. -/
inductive Offends (before : List (String × Bytes)) : String × Bytes → Fault → Prop where
  | key {k : String} {v : Bytes} {reason : String} : Identifier.Flaw .optionKey k reason →
      Offends before (k, v) (.invalidId .optionKey k reason)
  | value {k : String} : Identifier.Formed .optionKey k → Offends before (k, []) (emptyValue k)
  | repeated {k : String} {v : Bytes} : Identifier.Formed .optionKey k → v ≠ [] →
      k ∈ before.map (·.1) → Offends before (k, v) (duplicateKey k)

/-- The fault of the first pair that cannot be added to those before it. -/
def FirstOffence (pairs : List (String × Bytes)) (e : Fault) : Prop :=
  ∃ before pair later, pairs = before ++ pair :: later ∧ InOrder before ∧ Offends before pair e

/-- The fault of a value that is no text. -/
def notText (key : String) : Fault :=
  .invalidOption ("value for key " ++ Text.quoted key ++ " is not valid UTF-8")

/-- What the options made of pairs hold. -/
structure MadeOf (o : Options) (pairs : List (String × Bytes)) : Prop where
  found : ∀ k v, o.get? k = some v ↔ (k, v) ∈ pairs
  anyOrder : ∀ pairs', pairs'.Perm pairs → ofPairs pairs' = .ok o
  entries : o.entries.Perm pairs
  ascending : o.entries.Pairwise fun a b => a.1 < b.1
  /-- The entries are what a message says of the options. -/
  sent : ∀ r : Request, r.options = o → ∀ ids, (r.message ids).options = o.entries
  reread : ofPairs o.entries = .ok o

/-- What reading the value of a key as text gives. -/
structure ReadsText (o : Options) (k : String) : Prop where
  text : ∀ s, o.getText? k = .ok (some s) ↔ ∃ v, o.get? k = some v ∧ v.Encodes s
  missing : o.getText? k = .ok none ↔ o.get? k = none
  fault : ∀ e, o.getText? k = .error e ↔
    ∃ v, o.get? k = some v ∧ (∀ s, ¬ v.Encodes s) ∧ e = notText k

/-- Pairs make options or are refused, and the options are a map. -/
structure Canonical (pairs : List (String × Bytes)) : Prop where
  accepted : (∃ o, ofPairs pairs = .ok o) ↔ InOrder pairs
  refused : ∀ e, ofPairs pairs = .error e ↔ FirstOffence pairs e
  made : ∀ o, ofPairs pairs = .ok o → o.MadeOf pairs ∧ ∀ k, o.ReadsText k

variable {o o' : Options} {pairs before : List (String × Bytes)} {k : String} {v : Bytes}
  {e : Fault}

/-- Pairs make options just when all are in order. -/
theorem exists_ofPairs_iff : (∃ o, ofPairs pairs = .ok o) ↔ InOrder pairs := by
  rw [ofPairs, exists_insertAll_iff, List.nil_append]
  constructor
  · rintro ⟨hvalid, honce⟩
    exact ⟨fun pair hpair => Identifier.isWellFormed_iff.1 (hvalid pair hpair).1,
      fun pair hpair => (hvalid pair hpair).2, honce⟩
  · rintro ⟨hkeys, hvalues, honce⟩
    exact ⟨fun pair hpair => ⟨Identifier.isWellFormed_iff.2 (hkeys pair hpair),
      hvalues pair hpair⟩, honce⟩

/-- There is one reason at most why a pair cannot be added. -/
theorem Offends.unique {pair : String × Bytes} {e' : Fault} (h : Offends before pair e)
    (h' : Offends before pair e') : e = e' := by
  cases h with
  | key hflaw =>
    cases h' with
    | key hflaw' => rw [hflaw.unique hflaw']
    | value hk | repeated hk _ _ => exact absurd hk hflaw.not_formed
  | value hk =>
    cases h' with
    | key hflaw => exact absurd hk hflaw.not_formed
    | value _ => rfl
    | repeated _ hv _ => exact absurd rfl hv
  | repeated hk hv _ =>
    cases h' with
    | key hflaw => exact absurd hk hflaw.not_formed
    | value _ => exact absurd rfl hv
    | repeated _ _ _ => rfl

/-- A key was added before just when some entry of the options has it. -/
theorem mem_keys_iff (h : o.entries.Perm before) :
    k ∈ before.map (·.1) ↔ ¬ ∀ entry ∈ o.entries, entry.1 ≠ k := by
  rw [← (h.map (·.1)).mem_iff, List.mem_map]
  simp only [ne_eq, not_forall, not_not, exists_prop]

/-- A pair that is refused cannot be added to the pairs that the options hold. -/
theorem offends_of_insert? (h : o.entries.Perm before) (hrefused : o.insert? k v = .error e) :
    Offends before (k, v) e := by
  unfold insert? at hrefused
  split at hrefused
  · next reason hviolation =>
    cases hrefused
    exact .key (Identifier.flaw_of_violation? hviolation)
  · next hviolation =>
    have hk : Identifier.Formed .optionKey k :=
      Identifier.isWellFormed_iff.1 (by rw [Identifier.isWellFormed, hviolation]; rfl)
    split at hrefused
    · next hempty =>
      cases hrefused
      subst hempty
      exact .value hk
    · next hv =>
      split at hrefused
      · cases hrefused
      · next hknown =>
        cases hrefused
        exact .repeated hk hv ((mem_keys_iff h).2 hknown)

/-- A pair is refused for the reason why it cannot be added to the pairs that the options hold. -/
theorem insert?_eq_error_iff (h : o.entries.Perm before) :
    o.insert? k v = .error e ↔ Offends before (k, v) e := by
  refine ⟨offends_of_insert? h, fun hoffends => ?_⟩
  cases hinsert : o.insert? k v with
  | error e' => rw [(offends_of_insert? h hinsert).unique hoffends]
  | ok o' =>
    obtain ⟨⟨hwellFormed, hv⟩, hnew⟩ := exists_insert?_iff.1 ⟨o', hinsert⟩
    cases hoffends with
    | key hflaw => exact absurd (Identifier.isWellFormed_iff.1 hwellFormed) hflaw.not_formed
    | value _ => exact absurd rfl hv
    | repeated _ _ hmem => exact absurd hnew ((mem_keys_iff h).1 hmem)

/-- A pair that is refused ends the loop. -/
theorem insertAll_of_error {pair : String × Bytes} {rest : List (String × Bytes)}
    (h : o.insert? pair.1 pair.2 = .error e) : o.insertAll (pair :: rest) = .error e := by
  rw [insertAll, h]
  rfl

/-- A pair that is added leaves the rest to the options that it makes. -/
theorem insertAll_of_ok {pair : String × Bytes} {rest : List (String × Bytes)}
    (h : o.insert? pair.1 pair.2 = .ok o') : o.insertAll (pair :: rest) = o'.insertAll rest := by
  rw [insertAll, h]
  rfl

/-- Pairs are refused at the first that is not added. -/
theorem insertAll_eq_error_iff : o.insertAll pairs = .error e ↔
    ∃ before pair later o', pairs = before ++ pair :: later ∧ o.insertAll before = .ok o' ∧
      o'.insert? pair.1 pair.2 = .error e := by
  induction pairs generalizing o with
  | nil =>
    refine iff_of_false nofun ?_
    rintro ⟨before, pair, later, -, heq, -⟩
    simp at heq
  | cons first rest ih =>
    cases hfirst : o.insert? first.1 first.2 with
    | error e' =>
      rw [insertAll_of_error hfirst]
      constructor
      · rintro ⟨⟩
        exact ⟨[], first, rest, o, rfl, rfl, hfirst⟩
      · rintro ⟨before, pair, later, o', heq, hbefore, hpair⟩
        rcases List.cons_eq_append_iff.1 heq with ⟨rfl, hpairs⟩ | ⟨before, rfl, -⟩
        · cases hpairs
          cases hbefore
          exact hfirst.symm.trans hpair
        · rw [insertAll_of_error hfirst] at hbefore
          cases hbefore
    | ok next =>
      rw [insertAll_of_ok hfirst, ih]
      constructor
      · rintro ⟨before, pair, later, o', rfl, hbefore, hpair⟩
        exact ⟨first :: before, pair, later, o', rfl, (insertAll_of_ok hfirst).trans hbefore, hpair⟩
      · rintro ⟨before, pair, later, o', heq, hbefore, hpair⟩
        rcases List.cons_eq_append_iff.1 heq with ⟨rfl, hpairs⟩ | ⟨before, rfl, hrest⟩
        · cases hpairs
          cases hbefore
          cases hfirst.symm.trans hpair
        · exact ⟨before, pair, later, o', hrest, (insertAll_of_ok hfirst).symm.trans hbefore, hpair⟩

/-- The entries of options are the pairs that they are made of. -/
theorem perm_of_ofPairs (h : ofPairs pairs = .ok o) : o.entries.Perm pairs :=
  perm_of_insertAll h

/-- Pairs are refused with the first offence among them. -/
theorem ofPairs_eq_error_iff : ofPairs pairs = .error e ↔ FirstOffence pairs e := by
  rw [ofPairs, insertAll_eq_error_iff]
  constructor
  · rintro ⟨before, pair, later, o, rfl, hbefore, hpair⟩
    exact ⟨before, pair, later, rfl, exists_ofPairs_iff.1 ⟨o, hbefore⟩,
      (insert?_eq_error_iff (perm_of_ofPairs hbefore)).1 hpair⟩
  · rintro ⟨before, pair, later, rfl, hbefore, hpair⟩
    obtain ⟨o, ho⟩ := exists_ofPairs_iff.2 hbefore
    exact ⟨before, pair, later, o, rfl, ho, (insert?_eq_error_iff (perm_of_ofPairs ho)).2 hpair⟩

/-! ## Options as a map -/

/-- Options with the same entries are equal, for there is one order of the entries. -/
theorem eq_of_perm (h : o.entries.Perm o'.entries) : o = o' := by
  have hentries : o.entries = o'.entries :=
    h.eq_of_pairwise (fun _ _ _ _ hab hba => absurd hab (String.lt_asymm hba)) o.sorted o'.sorted
  cases o
  cases o'
  congr

/-- A value is found under a key just when the two are an entry. -/
theorem get?_eq_some_iff : o.get? k = some v ↔ (k, v) ∈ o.entries := by
  have honce : (o.entries.map (·.1)).Nodup :=
    List.pairwise_map.2 (o.sorted.imp fun hlt => Std.ne_of_lt hlt)
  rw [get?, Option.map_eq_some_iff]
  constructor
  · rintro ⟨entry, hfind, rfl⟩
    obtain ⟨hmem, rfl⟩ := (find?_key_eq_some_iff honce).1 hfind
    exact hmem
  · intro hmem
    exact ⟨(k, v), (find?_key_eq_some_iff honce).2 ⟨hmem, rfl⟩, rfl⟩

/-- Options that are made of pairs hold these, whatever the order in which they came. -/
theorem madeOf_of_ofPairs (h : ofPairs pairs = .ok o) : o.MadeOf pairs where
  found k v := get?_eq_some_iff.trans (perm_of_ofPairs h).mem_iff
  anyOrder pairs' hperm := by
    obtain ⟨hkeys, hvalues, honce⟩ := exists_ofPairs_iff.1 ⟨o, h⟩
    have hinOrder : InOrder pairs' :=
      ⟨fun pair hpair => hkeys pair (hperm.subset hpair),
        fun pair hpair => hvalues pair (hperm.subset hpair), (hperm.map _).nodup_iff.2 honce⟩
    obtain ⟨o', ho'⟩ := exists_ofPairs_iff.2 hinOrder
    have hsame : o'.entries.Perm o.entries :=
      (perm_of_ofPairs ho').trans (hperm.trans (perm_of_ofPairs h).symm)
    rw [ho', eq_of_perm hsame]
  entries := perm_of_ofPairs h
  ascending := o.sorted
  sent r hr ids := by
    rw [← hr]
    rfl
  reread := ofPairs_entries o

/-- Reading a value as text gives the text whose bytes it has, or fails when there is none. -/
theorem readsText (o : Options) (k : String) : o.ReadsText k := by
  cases hget : o.get? k with
  | none =>
    have htext : o.getText? k = .ok none := by simp [getText?, hget]
    constructor <;> simp [htext, hget]
  | some v =>
    cases hread : v.toString? with
    | none =>
      have htext : o.getText? k = .error (notText k) := by simp [getText?, hget, hread, notText]
      have hnot : ∀ s, ¬ v.Encodes s := fun s hs => by
        rw [Bytes.toString?_eq_some_iff.2 (Bytes.encodes_iff.1 hs)] at hread
        cases hread
      constructor <;> simp [htext, hget, hnot, eq_comm]
    | some s =>
      have htext : o.getText? k = .ok (some s) := by simp [getText?, hget, hread]
      have hencodes : ∀ s', v.Encodes s' ↔ s = s' := fun s' => by
        rw [Bytes.encodes_iff, ← Bytes.toString?_eq_some_iff, hread, Option.some_inj]
      constructor <;> simp [htext, hget, hencodes]

/-- Options are made of pairs just when the keys are formed and different and the values have bytes,
and otherwise the first pair that is wrong is reported. They find each value under its key whatever
the order of the pairs, have one form in which they are sent and read back, and read a value as text
just when its bytes are those of the text. -/
theorem options_canonical (pairs : List (String × Bytes)) : Canonical pairs where
  accepted := exists_ofPairs_iff
  refused _ := ofPairs_eq_error_iff
  made o ho := ⟨madeOf_of_ofPairs ho, o.readsText⟩

end Options

end SchemaCheck
