import SchemaCheck.Proofs.Demo
import SchemaCheck.Proofs.Schema.Addresses
import SchemaCheck.Proofs.Spec.Registry
import SchemaCheck.Proofs.Walk.Visits

/-!
# What a walk covers

A walk over the messages or the fields of a request visits each of them once, in order, and the
place of each, the name of its file and its path, leads back to it (`Handler.walks_visit_all`).
-/

namespace SchemaCheck

variable {ω α : Type}

/-- The place of a message. -/
def MessageItem.place (m : MessageItem) : Place := ⟨m.file.name, m.path⟩

/-- The place of a field. -/
def FieldItem.place (x : FieldItem) : Place := ⟨x.file.name, x.path⟩

/-- The things of some kind in the files that are no imports: they are listed in order, each leads
back to where it stands, and no two are at one place. -/
structure Located (items : SchemaFile → List α) (place : α → Place)
    (StandsAt : FileDescriptor → Address → α → Prop) (files : List SchemaFile) : Prop where
  enumerated : ∀ f ∈ files, Enumerates (StandsAt f.descriptor) (items f)
  leadsBack : ∀ x ∈ toVisit items files, ∃ f a, findFile files (place x).fileName = some f ∧
    f.isImport = false ∧ (place x).path.address? = some a ∧ StandsAt f.descriptor a x
  distinct : ((toVisit items files).map place).Nodup

/-- In a live call visits that neither fail nor cancel the call are those of all that there is to
visit, and the walk succeeds, unless the deadline comes on the way. -/
def VisitsAll (walk : Activity ω Unit) (visit : α → Activity ω Unit)
    (items : SchemaFile → List α) (files : List SchemaFile) : Prop :=
  ∀ c : CallContext, c.isLive → ∃ vs result d, walk.Runs c (vs.flatMap Visit.given) result d ∧
    Walks visit items files c vs result d ∧
    ((∀ v ∈ vs, v.result = .ok () ∧ v.after.cancelled = false) →
      (result = .ok () ∧ vs.map Visit.item = toVisit items files) ∨
        (result = .error .deadlineExceeded ∧ d.isExpired = true))

/-- The lists in the files to check are short enough for their indexes to stand in paths. -/
def Request.Indexable (r : Request) : Prop :=
  ∀ f ∈ r.files, f.isImport = false → f.descriptor.Indexable

/-- A walk over files visits all items of those that are no imports, one after another. -/
theorem walkFiles_visitsAll (visit : α → Activity ω Unit) (items : SchemaFile → List α)
    (files : List SchemaFile) :
    VisitsAll (walkFiles (fun f => Activity.forEach visit (items f)) files) visit items files := by
  intro c hc
  obtain ⟨vs, result, d, hwalks, hruns⟩ := exists_walks visit items files c
  have hc : c.cancelled = false := by
    rw [CallContext.isLive, Bool.and_eq_true, Bool.not_eq_true'] at hc
    exact hc.1
  exact ⟨vs, result, d, hruns, hwalks, fun hsteady =>
    hwalks.of_steady hc (fun v hv => (hsteady v hv).1) fun v hv => (hsteady v hv).2⟩

/-- To be visited are the items of the files that are no imports. -/
theorem mem_toVisit {items : SchemaFile → List α} {files : List SchemaFile} {x : α} :
    x ∈ toVisit items files ↔ ∃ f ∈ files, f.isImport = false ∧ x ∈ items f := by
  simp [toVisit, and_assoc]

/-- A file of a request is found by its name. -/
theorem findFile_eq_some_iff {files : List SchemaFile} (hnames : NamesDistinct files)
    {f : SchemaFile} {name : String} :
    findFile files name = some f ↔ f ∈ files ∧ f.name = name :=
  find?_key_eq_some_iff hnames.2

/-- What comes before something else is not the same. -/
theorem Address.Precedes.ne {a b : Address} (h : a.Precedes b) : a ≠ b := by
  rintro rfl
  rcases h with h | ⟨-, h⟩
  · exact absurd h (List.lt_irrefl _)
  · cases hfield : a.field with
    | none =>
      rw [hfield] at h
      exact h
    | some k =>
      rw [hfield] at h
      exact absurd h (Nat.lt_irrefl k)

namespace Enumerates

variable {StandsAt : Address → α → Prop} {items : List α}

/-- Each item of an enumeration has an address. -/
theorem exists_address (h : Enumerates StandsAt items) {x : α} (hx : x ∈ items) :
    ∃ a, StandsAt a x := by
  obtain ⟨addresses, -, -, hstands⟩ := h
  induction hstands with
  | nil => exact absurd hx List.not_mem_nil
  | cons ha _ ih =>
    rcases List.mem_cons.1 hx with rfl | hx
    · exact ⟨_, ha⟩
    · exact ih hx

/-- What an address can be read from is different for different entries. -/
theorem nodup_map {β : Type} {g : α → β} (h : Enumerates StandsAt items)
    (read : β → Option Address) (hread : ∀ a x, StandsAt a x → read (g x) = some a) :
    (items.map g).Nodup := by
  obtain ⟨addresses, hpairwise, -, hstands⟩ := h
  have hmap : (items.map g).map read = addresses.map some := by
    clear hpairwise
    induction hstands with
    | nil => rfl
    | cons ha _ ih =>
      rw [List.map_cons, List.map_cons, List.map_cons, hread _ _ ha]
      exact congrArg _ ih
  have hnodup : (addresses.map some).Nodup :=
    List.pairwise_map.2 (hpairwise.imp fun h heq => h.ne (Option.some.inj heq))
  rw [← hmap] at hnodup
  exact hnodup.of_map

end Enumerates

section

variable {items : SchemaFile → List α} {place : α → Place}
  {StandsAt : FileDescriptor → Address → α → Prop} {files : List SchemaFile}

/-- Listed things with true paths are found where they are. -/
theorem located_of_enumerates (hnames : NamesDistinct files)
    (henumerates : ∀ f ∈ files, Enumerates (StandsAt f.descriptor) (items f))
    (hname : ∀ f a x, StandsAt f a x → (place x).fileName = f.name)
    (hpath : ∀ f ∈ files, f.isImport = false → ∀ a x, StandsAt f.descriptor a x →
      (place x).path.address? = some a) : Located items place StandsAt files := by
  have hfile : ∀ f ∈ files, ∀ x ∈ items f, (place x).fileName = f.name := fun f hf x hx => by
    obtain ⟨a, ha⟩ := (henumerates f hf).exists_address hx
    exact hname _ a x ha
  refine ⟨henumerates, fun x hx => ?_, ?_⟩
  · obtain ⟨f, hf, himport, hx⟩ := mem_toVisit.1 hx
    obtain ⟨a, ha⟩ := (henumerates f hf).exists_address hx
    exact ⟨f, a, (findFile_eq_some_iff hnames).2 ⟨hf, (hfile f hf x hx).symm⟩, himport,
      hpath f hf himport a x ha, ha⟩
  · refine List.pairwise_map.2 (List.pairwise_flatMap.2 ⟨fun f hf => ?_, ?_⟩)
    · obtain ⟨hf, himport⟩ := List.mem_filter.1 hf
      have himport : f.isImport = false := by simpa using himport
      exact List.pairwise_map.1 ((henumerates f hf).nodup_map (fun p => p.path.address?)
        (hpath f hf himport))
    · refine (List.pairwise_map.1 hnames.2).filter _ |>.imp_of_mem fun hf hg hne x hx y hy heq => ?_
      refine hne ?_
      rw [← hfile _ (List.mem_of_mem_filter hf) x hx, heq,
        hfile _ (List.mem_of_mem_filter hg) y hy]

end

/-- Walks over the messages and over the fields of a request visit each of them once and in order,
and the place of each leads back to it. -/
theorem Handler.walks_visit_all (id : String) (r : Request) (hr : r.Indexable) :
    (Located (fun f => f.descriptor.allMessages) MessageItem.place MessageItem.StandsAt r.files ∧
      ∀ visit : String → Request → MessageItem → Activity Draft Unit,
        VisitsAll (forEachMessage visit id r) (visit id r) (fun f => f.descriptor.allMessages)
          r.files) ∧
    Located (fun f => f.descriptor.allFields) FieldItem.place FieldItem.StandsAt r.files ∧
      ∀ visit : String → Request → FieldItem → Activity Draft Unit,
        VisitsAll (forEachField visit id r) (visit id r) (fun f => f.descriptor.allFields)
          r.files := by
  refine ⟨⟨?_, fun visit => walkFiles_visitsAll _ _ _⟩, ?_, fun visit => walkFiles_visitsAll _ _ _⟩
  · exact located_of_enumerates r.names_distinct (fun f _ => f.descriptor.allMessages_enumerated)
      (fun f a m hm => congrArg FileDescriptor.name hm.file)
      fun f hf himport a m hm => hm.address?_path (hr f hf himport)
  · exact located_of_enumerates r.names_distinct (fun f _ => f.descriptor.allFields_enumerated)
      (fun f a x hx => congrArg FileDescriptor.name hx.file)
      fun f hf himport a x hx => hx.address?_path (hr f hf himport)

/-- A file with a message inside a message. -/
def nestedFile : SchemaFile where
  descriptor := {
    name := "order.proto"
    package := "shop"
    dialect := some "proto3"
    messages := [.mk "Order" [⟨"createdAt", 1, some "google.protobuf.Timestamp"⟩]
      [.mk "Line" [⟨"id", 1, none⟩] []]] }

/-- An empty list of identifiers is in order. -/
theorem noIds_sorted : ([] : List String).Pairwise (· < ·) := .nil

/-- An empty list of identifiers is well-formed. -/
theorem noIds_valid : ∀ id ∈ ([] : List String), Identifier.isWellFormed .rule id :=
  fun _ h => absurd h List.not_mem_nil

/-- A request about a file with a message inside a message, after an import. -/
def nestedRequest : Request where
  files := [{ nestedFile with descriptor.name := "import.proto", isImport := true }, nestedFile]
  againstFiles := []
  options := Demo.request.options
  ruleIds := []
  files_ne_nil := List.cons_ne_nil _ _
  names_distinct := ⟨by decide, by decide⟩
  against_distinct := Demo.request.against_distinct
  ids_sorted := noIds_sorted
  ids_valid := noIds_valid

/-- The lists of the nested file are short enough. -/
theorem nestedRequest_indexable : nestedRequest.Indexable := by
  intro f hf himport
  have hf : f = nestedFile := by
    rcases List.mem_cons.1 hf with rfl | hf
    · cases himport
    · exact List.mem_singleton.1 hf
  subst hf
  refine ⟨by decide, List.forall_mem_singleton.2 (.mk (by decide) (by decide) ?_)⟩
  exact List.forall_mem_singleton.2 (.mk (by decide) (by decide) fun _ h => nomatch h)

/-- `walks_visit_all` for fields: both are visited, the one of the outer message and the one inside.
-/
theorem Handler.nested_walks_visit_all : nestedRequest.Indexable ∧
    Located (fun f => f.descriptor.allFields) FieldItem.place FieldItem.StandsAt
      nestedRequest.files ∧
    (toVisit (fun f => f.descriptor.allFields) nestedRequest.files).map
      (fun x => (x.fullName, x.place)) =
        [("shop.Order.createdAt", ⟨"order.proto", [4, 0, 2, 0]⟩),
          ("shop.Order.Line.id", ⟨"order.proto", [4, 0, 3, 0, 2, 0]⟩)] :=
  ⟨nestedRequest_indexable,
    (walks_visit_all "RULE" nestedRequest nestedRequest_indexable).2.1, by decide +kernel⟩

end SchemaCheck
