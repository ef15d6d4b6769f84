import SchemaCheck.Options
import SchemaCheck.Schema.Descriptor

/-!
# Requests

What a check is asked to do: the files, the former version of the files, the options, and the rules
to run. An empty list of rules asks for the default rules. A `Request` is well-formed by
construction; `RequestBuilder.build` makes one or says what is wrong, and `Request.messages` splits
one into messages that name a limited number of rules each.
-/

namespace SchemaCheck

open Text (quoted)

/-- Looks for an empty or repeated name in the files after those named in `seen`. -/
def checkNamesAfter (seen : List String) : List SchemaFile → Result Unit
  | [] => .ok ()
  | f :: fs =>
    if f.name = "" then .error (.invalidRequest "file name must not be empty")
    else if f.name ∈ seen then
      .error (.invalidRequest ("duplicate file name: " ++ quoted f.name))
    else checkNamesAfter (f.name :: seen) fs

/-- Accepts the files with names that are not empty and all different. -/
def checkNames (fs : List SchemaFile) : Result Unit := checkNamesAfter [] fs

/-- Whether files have names that are not empty and all different. -/
def NamesDistinct (fs : List SchemaFile) : Prop :=
  (∀ f ∈ fs, f.name ≠ "") ∧ (fs.map SchemaFile.name).Nodup

/-- The loop over names succeeds when no name occurs twice or was seen before. -/
theorem checkNamesAfter_eq_ok_iff {seen : List String} {fs : List SchemaFile} :
    checkNamesAfter seen fs = .ok () ↔ NamesDistinct fs ∧ ∀ f ∈ fs, f.name ∉ seen := by
  induction fs generalizing seen with
  | nil => simp [checkNamesAfter, NamesDistinct]
  | cons f fs ih =>
    unfold checkNamesAfter
    split
    · next h => simp [NamesDistinct, h]
    · next h =>
      split
      · next hs => simp [NamesDistinct, hs]
      · next hs =>
        rw [ih]
        simp only [NamesDistinct, List.mem_cons, List.map_cons, List.nodup_cons, List.mem_map,
          not_or]
        constructor
        · rintro ⟨⟨hne, hnd⟩, hall⟩
          refine ⟨⟨?_, ?_, hnd⟩, ?_⟩
          · rintro g (rfl | hg)
            · exact h
            · exact hne g hg
          · rintro ⟨g, hg, hfg⟩
            exact (hall g hg).1 hfg
          · rintro g (rfl | hg)
            · exact hs
            · exact (hall g hg).2
        · rintro ⟨⟨hne, hf, hnd⟩, hall⟩
          exact ⟨⟨fun g hg => hne g (.inr hg), hnd⟩,
            fun g hg => ⟨fun he => hf ⟨g, hg, he⟩, hall g (.inr hg)⟩⟩

/-- The check of names succeeds when no name occurs twice. -/
theorem checkNames_eq_ok_iff {fs : List SchemaFile} :
    checkNames fs = .ok () ↔ NamesDistinct fs := by
  simp [checkNames, checkNamesAfter_eq_ok_iff]

/-- The file with the given name. -/
def findFile (fs : List SchemaFile) (name : String) : Option SchemaFile :=
  fs.find? fun f => f.name == name

/-- What a check is asked to do. -/
structure Request where
  files : List SchemaFile
  againstFiles : List SchemaFile
  options : Options
  /-- The rules to run, in ascending order and each once. -/
  ruleIds : List String
  files_ne_nil : files ≠ []
  names_distinct : NamesDistinct files
  against_distinct : NamesDistinct againstFiles
  ids_sorted : ruleIds.Pairwise (· < ·)
  ids_valid : ∀ id ∈ ruleIds, Identifier.isWellFormed .rule id

/-- What was said so far about a request that is to be made. -/
structure RequestBuilder where
  files : List SchemaFile
  againstFiles : List SchemaFile := []
  /-- The options that `pairs` add to. -/
  options : Options := {}
  pairs : List (String × Bytes) := []
  ruleIds : List String := []

namespace RequestBuilder

/-- Replaces the former version of the files. -/
def withAgainst (b : RequestBuilder) (fs : List SchemaFile) : RequestBuilder :=
  { b with againstFiles := fs }

/-- Replaces the options that single options add to. -/
def withOptions (b : RequestBuilder) (o : Options) : RequestBuilder := { b with options := o }

/-- Adds a single option. -/
def withOption (b : RequestBuilder) (key : String) (value : Bytes) : RequestBuilder :=
  { b with pairs := b.pairs ++ [(key, value)] }

/-- Adds rules to those that are asked for. -/
def withRules (b : RequestBuilder) (ids : List String) : RequestBuilder :=
  { b with ruleIds := b.ruleIds ++ ids }

/-- The request, or the first thing that is wrong: with the files, the former files, a rule, or an
option. -/
def build (b : RequestBuilder) : Result Request :=
  let ids := Text.sortedUnique b.ruleIds
  if hne : b.files = [] then .error (.invalidRequest "request must contain at least one file")
  else match hf : checkNames b.files with
  | .error e => .error e
  | .ok () => match ha : checkNames b.againstFiles with
    | .error e => .error e
    | .ok () => match hi : Identifier.checkAll .rule ids with
      | .error e => .error e
      | .ok () => do
        let options ← b.options.insertAll b.pairs
        return {
          files := b.files
          againstFiles := b.againstFiles
          options
          ruleIds := ids
          files_ne_nil := hne
          names_distinct := checkNames_eq_ok_iff.1 hf
          against_distinct := checkNames_eq_ok_iff.1 ha
          ids_sorted := Text.pairwise_sortedUnique _
          ids_valid := Identifier.checkAll_eq_ok_iff.1 hi }

end RequestBuilder

/-- A request as it is sent: nothing about it is certain but its form. -/
structure CheckMessage where
  files : List SchemaFile
  againstFiles : List SchemaFile := []
  options : List (String × Bytes) := []
  ruleIds : List String := []

/-- A list cut into pieces of `n + 1`, of which the last may be shorter. -/
def chunks {α : Type} (n : Nat) : List α → List (List α)
  | [] => []
  | a :: as => (a :: as.take n) :: chunks n (as.drop n)
termination_by as => as.length
decreasing_by simp only [List.length_drop, List.length_cons]; omega

namespace Request

/-- The greatest number of rules that one message names. -/
def rulesPerMessage : Nat := 250

/-- The request with other rules. -/
def withRuleIds (r : Request) (ids : List String) : Result Request :=
  RequestBuilder.build {
    files := r.files, againstFiles := r.againstFiles, options := r.options, ruleIds := ids }

/-- The message with the files and options of a request and the given rules. -/
def message (r : Request) (ids : List String) : CheckMessage :=
  ⟨r.files, r.againstFiles, r.options.entries, ids⟩

/-- The messages that together ask for what the request asks for. A request without rules is one
message. -/
def messages (r : Request) : List CheckMessage :=
  if r.ruleIds.isEmpty then [r.message []]
  else (chunks (rulesPerMessage - 1) r.ruleIds).map r.message

/-- The request that a message makes; what is wrong with its options is found first. -/
def ofMessage (m : CheckMessage) : Result Request := do
  let options ← Options.ofPairs m.options
  RequestBuilder.build {
    files := m.files, againstFiles := m.againstFiles, options, ruleIds := m.ruleIds }

end Request

end SchemaCheck
