import SchemaCheck.Schema.Location

/-!
# What locations remember cannot be told

What is done with locations is a list of uses, the latest first: they are created, copied and asked.
A location is created or stems from one that was by copying (`Locations.Made`), and shares a memo
with all that stem from the same creation. The invariant is that the memo has the recorded span once
one of them was asked for it, and nothing before (`Locations.Keeps`). So all answers are those of
the file, but for the one whether the location was looked up, which tells whether one of them was
asked (`Locations.memo_transparent`).
-/

namespace SchemaCheck.Locations

open Location (Query Answer)

/-! ## Uses of locations -/

/-- What is done with locations. -/
inductive Use where
  | create (l : Location)
  | copy (i : Nat)
  | ask (i : Nat) (q : Query)

/-- The locations after one more use. -/
def next (ls : Locations) : Use → Locations
  | .create l => ls.create l
  | .copy i => ls.copy i
  | .ask i q => ((Locations.ask i q).run ls).2

/-- The locations after uses. -/
def after : List Use → Locations
  | [] => {}
  | u :: us => (after us).next u

/-- The locations that were created, the first one first. -/
def created : List Use → List Location
  | [] => []
  | .create l :: us => created us ++ [l]
  | _ :: us => created us

/-- The number of locations. What is not there cannot be copied. -/
def count : List Use → Nat
  | [] => 0
  | .create _ :: us => count us + 1
  | .copy i :: us => if i < count us then count us + 1 else count us
  | .ask _ _ :: us => count us

/-- Location `i` is `l`, and stems from creation `c`. -/
inductive Made : List Use → Nat → Location → Nat → Prop where
  | create {l : Location} {us : List Use} :
      Made (.create l :: us) (count us) l (created us).length
  | copy {i c : Nat} {l : Location} {us : List Use} : Made us i l c →
      Made (.copy i :: us) (count us) l c
  | before {u : Use} {i c : Nat} {l : Location} {us : List Use} : Made us i l c →
      Made (u :: us) i l c

/-- Some location that stems from a creation was asked for what is recorded. -/
inductive Asked : List Use → Nat → Prop where
  | now {i c : Nat} {q : Query} {l : Location} {us : List Use} : Made us i l c →
      q.needsSpan = true → Asked (.ask i q :: us) c
  | before {u : Use} {c : Nat} {us : List Use} : Asked us c → Asked (u :: us) c

/-! ## Answers -/

/-- What is recorded for a path: the first span with that path, or an empty one when there is none.
-/
inductive Recorded (f : FileDescriptor) (path : SourcePath) : SourceSpan → Prop where
  | first {before later : List SourceSpan} {s : SourceSpan} : f.spans = before ++ s :: later →
      (∀ t ∈ before, t.path ≠ path) → s.path = path → Recorded f path s
  | none : (∀ t ∈ f.spans, t.path ≠ path) → Recorded f path {}

/-- The line and the column where a span ends. Three numbers are a line with two columns in it, and
four are two lines, each with a column. -/
inductive Ends : List Int32 → Int32 → Int32 → Prop where
  | three {line start stop : Int32} : Ends [line, start, stop] line stop
  | four {line start last stop : Int32} : Ends [line, start, last, stop] last stop
  | other {ns : List Int32} : ns.length ≠ 3 → ns.length ≠ 4 → Ends ns 0 0

/-- What a span says. -/
inductive Says (s : SourceSpan) : Query → Answer → Prop where
  | startLine : Says s .startLine (.number (s.span.head?.getD 0))
  | startColumn : Says s .startColumn (.number (s.span[1]?.getD 0))
  | endLine {line column : Int32} : Ends s.span line column → Says s .endLine (.number line)
  | endColumn {line column : Int32} : Ends s.span line column → Says s .endColumn (.number column)
  | leading : Says s .leading (.text s.leading)
  | trailing : Says s .trailing (.text s.trailing)
  | detached : Says s .detached (.texts s.detached)

/-- The answers of a location, given whether it or one that shares its memo was asked for what is
recorded. -/
inductive Answers (l : Location) (asked : Prop) : Query → Answer → Prop where
  | resolved : asked → Answers l asked .isResolved (.flag true)
  | unresolved : ¬ asked → Answers l asked .isResolved (.flag false)
  | fileName : Answers l asked .fileName (.text l.file.name)
  | isImport : Answers l asked .isImport (.flag l.file.isImport)
  | path : Answers l asked .path (.path l.path)
  | ofSpan {s : SourceSpan} {q : Query} {a : Answer} : Recorded l.file.descriptor l.path s →
      Says s q a → Answers l asked q a

/-- The answer to a question about what is recorded, when nothing is. -/
def blank : Query → Answer
  | .leading | .trailing => .text ""
  | .detached => .texts []
  | _ => .number 0

/-- What is kept of locations after uses. The memo of a creation has the recorded span once one of
its locations was asked for it, and nothing before. -/
structure Keeps (us : List Use) (ls : Locations) : Prop where
  uses : ls.uses.length = count us
  memos : ls.memos.length = (created us).length
  made : ∀ i l c, ls.uses[i]? = some (l, c) ↔ Made us i l c
  memo : ∀ c l, (created us)[c]? = some l →
    ¬ Asked us c ∧ ls.memos[c]? = some none ∨ Asked us c ∧ ls.memos[c]? = some (some l.span)

/-- What holds of locations after uses. -/
structure Transparent (us : List Use) : Prop where
  /-- Locations answer as their files and paths say, whatever was asked before. -/
  answers : ∀ i l c, Made us i l c → ∀ q a,
    ((ask i q).run (after us)).1 = some a ↔ Answers l (Asked us c) q a
  unrecorded : ∀ i l c, Made us i l c → (∀ s ∈ l.file.descriptor.spans, s.path ≠ l.path) →
    ∀ q, q.needsSpan = true → ((ask i q).run (after us)).1 = some (blank q)
  /-- Questions about other things than what is recorded change nothing. -/
  quiet : ∀ i q, q.needsSpan = false → ((ask i q).run (after us)).2 = after us
  /-- Locations are the same when the names of their files and their paths are. -/
  same : ∀ i j l m c d, Made us i l c → Made us j m d →
    ∃ b, (after us).isSame i j = some b ∧ (b = true ↔ l.file.name = m.file.name ∧ l.path = m.path)

variable {us : List Use} {u : Use} {ls : Locations} {i j c d : Nat} {l m : Location} {q : Query}
  {a a' : Answer} {s s' : SourceSpan} {memo : Location.Memo}

/-! ## Spans -/

/-- The span that is looked up is the one that is recorded. -/
theorem recorded_iff {f : FileDescriptor} {path : SourcePath} :
    Recorded f path s ↔ s = f.spanAt path := by
  rw [FileDescriptor.spanAt]
  constructor
  · intro h
    cases h with
    | @first before later s heq hbefore hpath =>
      have hfind : f.spans.find? (fun t => t.path == path) = some s :=
        List.find?_eq_some_iff_append.2 ⟨by simpa using hpath, before, later, heq,
          fun t ht => by simpa using hbefore t ht⟩
      rw [hfind]
      rfl
    | none hnone =>
      have hfind : f.spans.find? (fun t => t.path == path) = none :=
        List.find?_eq_none.2 fun t ht => by simpa using hnone t ht
      rw [hfind]
      rfl
  · rintro rfl
    cases hfind : f.spans.find? fun t => t.path == path with
    | none => exact .none fun t ht => by simpa using List.find?_eq_none.1 hfind t ht
    | some s =>
      obtain ⟨hpath, before, later, heq, hbefore⟩ := List.find?_eq_some_iff_append.1 hfind
      exact .first heq (fun t ht => by simpa using hbefore t ht) (by simpa using hpath)

/-- A span ends in one place. -/
theorem Ends.unique {ns : List Int32} {line column line' column' : Int32}
    (h : Ends ns line column) (h' : Ends ns line' column') : line = line' ∧ column = column' := by
  cases h with
  | three =>
    cases h' with
    | three => exact ⟨rfl, rfl⟩
    | other hthree _ => exact absurd rfl hthree
  | four =>
    cases h' with
    | four => exact ⟨rfl, rfl⟩
    | other _ hfour => exact absurd rfl hfour
  | other hthree hfour =>
    cases h' with
    | three => exact absurd rfl hthree
    | four => exact absurd rfl hfour
    | other _ _ => exact ⟨rfl, rfl⟩

/-- A span ends where it is read to end. -/
theorem ends_span (s : SourceSpan) : Ends s.span s.endLine s.endColumn := by
  unfold SourceSpan.endLine SourceSpan.endColumn
  generalize s.span = ns
  match ns with
  | [_, _, _] => exact .three
  | [_, _, _, _] => exact .four
  | [] | [_] | [_, _] | _ :: _ :: _ :: _ :: _ :: _ => exact .other (by simp) (by simp)

/-- A span says one thing to each question. -/
theorem Says.unique (h : Says s q a) (h' : Says s q a') : a = a' := by
  cases h with
  | endLine hends =>
    cases h' with
    | endLine hends' => rw [(hends.unique hends').1]
  | endColumn hends =>
    cases h' with
    | endColumn hends' => rw [(hends.unique hends').2]
  | startLine | startColumn | leading | trailing | detached =>
    cases h'
    rfl

/-- A span answers what it says. -/
theorem says_ofSpan (s : SourceSpan) (hq : q.needsSpan = true) : Says s q (q.ofSpan s) := by
  cases q with
  | isResolved | fileName | isImport | path => cases hq
  | startLine => exact .startLine
  | startColumn => exact .startColumn
  | endLine => exact .endLine (ends_span s)
  | endColumn => exact .endColumn (ends_span s)
  | leading => exact .leading
  | trailing => exact .trailing
  | detached => exact .detached

/-! ## Asking one location -/

/-- There is one answer to each question. -/
theorem Answers.unique {asked : Prop} (h : Answers l asked q a) (h' : Answers l asked q a') :
    a = a' := by
  cases h with
  | resolved hasked =>
    cases h' with
    | resolved _ => rfl
    | unresolved hnot => exact absurd hasked hnot
    | ofSpan _ hsays => cases hsays
  | unresolved hnot =>
    cases h' with
    | resolved hasked => exact absurd hasked hnot
    | unresolved _ => rfl
    | ofSpan _ hsays => cases hsays
  | fileName | isImport | path =>
    cases h' with
    | ofSpan _ hsays => cases hsays
    | _ => rfl
  | ofSpan hs hsays =>
    cases h' with
    | ofSpan hs' hsays' =>
      rw [recorded_iff.1 hs] at hsays
      rw [recorded_iff.1 hs'] at hsays'
      exact hsays.unique hsays'
    | resolved _ | unresolved _ | fileName | isImport | path => cases hsays

/-- A location that remembers nothing or its span answers from its span, and remembers it. -/
theorem run_ask_of_needsSpan (h : memo = none ∨ memo = some l.span) (hq : q.needsSpan = true) :
    (l.ask q).run memo = (q.ofSpan l.span, some l.span) := by
  cases q with
  | isResolved | fileName | isImport | path => cases hq
  | _ => rcases h with rfl | rfl <;> rfl

/-- Other questions leave what is remembered alone. -/
theorem memo_ask_of_not (hq : q.needsSpan = false) (memo : Location.Memo) :
    ((l.ask q).run memo).2 = memo := by
  cases q with
  | isResolved | fileName | isImport | path => rfl
  | _ => cases hq

/-- A location answers as its file and its path say. -/
theorem answers_ask (h : memo = none ∨ memo = some l.span) (q : Query) :
    Answers l (memo.isSome = true) q ((l.ask q).run memo).1 := by
  cases hq : q.needsSpan with
  | true =>
    rw [run_ask_of_needsSpan h hq]
    exact .ofSpan (recorded_iff.2 rfl) (says_ofSpan l.span hq)
  | false =>
    cases q with
    | isResolved =>
      cases memo with
      | none => exact .unresolved nofun
      | some s => exact .resolved rfl
    | fileName => exact .fileName
    | isImport => exact .isImport
    | path => exact .path
    | _ => cases hq

/-! ## Uses, one at a time -/

/-- A member of a longer list is the last one or was there before. -/
theorem getElem?_concat_eq_some_iff {α : Type} {as : List α} {x y : α} :
    (as ++ [x])[i]? = some y ↔ i = as.length ∧ y = x ∨ as[i]? = some y := by
  rcases Nat.lt_trichotomy i as.length with hi | rfl | hi
  · rw [List.getElem?_append_left hi]
    simp [Nat.ne_of_lt hi]
  · simp [eq_comm]
  · have hlast : (as ++ [x]).length ≤ i := by
      rw [List.length_append]
      exact hi
    rw [List.getElem?_eq_none hlast, List.getElem?_eq_none (Nat.le_of_lt hi)]
    simp [Nat.ne_of_gt hi]

/-- To create a location makes the next one, which stems from the newest creation. -/
theorem made_create : Made (.create m :: us) i l c ↔
    (i = count us ∧ l = m ∧ c = (created us).length) ∨ Made us i l c := by
  constructor
  · intro h
    cases h with
    | create => exact .inl ⟨rfl, rfl, rfl⟩
    | before h => exact .inr h
  · rintro (⟨rfl, rfl, rfl⟩ | h)
    · exact .create
    · exact .before h

/-- To copy a location makes the next one, which stems from the creation of the first. -/
theorem made_copy :
    Made (.copy j :: us) i l c ↔ (i = count us ∧ Made us j l c) ∨ Made us i l c := by
  constructor
  · intro h
    cases h with
    | copy h => exact .inl ⟨rfl, h⟩
    | before h => exact .inr h
  · rintro (⟨rfl, h⟩ | h)
    · exact .copy h
    · exact .before h

/-- To ask a location makes none. -/
theorem made_ask : Made (.ask j q :: us) i l c ↔ Made us i l c := by
  refine ⟨fun h => ?_, .before⟩
  cases h with
  | before h => exact h

/-- What asks nothing leaves it as it was, whether anything was asked. -/
theorem asked_cons (hu : ∀ i q, u ≠ .ask i q) : Asked (u :: us) c ↔ Asked us c := by
  refine ⟨fun h => ?_, .before⟩
  cases h with
  | now _ _ => exact absurd rfl (hu _ _)
  | before h => exact h

/-- To ask a location for what is recorded asks all that stem from its creation. -/
theorem asked_ask : Asked (.ask i q :: us) c ↔
    (q.needsSpan = true ∧ ∃ l, Made us i l c) ∨ Asked us c := by
  constructor
  · intro h
    cases h with
    | now hmade hq => exact .inl ⟨hq, _, hmade⟩
    | before h => exact .inr h
  · rintro (⟨hq, l, hmade⟩ | h)
    · exact .now hmade hq
    · exact .before h

/-- A location is the one that was created. -/
theorem Made.created (h : Made us i l c) : (created us)[c]? = some l := by
  induction h with
  | @create l us => exact getElem?_concat_eq_some_iff.2 (.inl ⟨rfl, rfl⟩)
  | copy _ ih => exact ih
  | @before u i c l us _ ih =>
    cases u with
    | create m => exact getElem?_concat_eq_some_iff.2 (.inr ih)
    | copy | ask => exact ih

/-- Only what was created is asked. -/
theorem Asked.lt (h : Asked us c) : c < (Locations.created us).length := by
  induction h with
  | now hmade _ => exact (List.getElem?_eq_some_iff.1 hmade.created).1
  | @before u c us _ ih =>
    cases u with
    | create m =>
      rw [Locations.created, List.length_append]
      exact Nat.lt_add_right _ ih
    | copy | ask => exact ih

/-- To ask a location that is not there gives nothing and changes nothing. -/
theorem run_ask_of_none (h : ls.uses[i]? = none) (q : Query) :
    (Locations.ask i q).run ls = (none, ls) := by
  simp only [Locations.ask, StateT.run_bind, StateT.run_get, pure_bind, h]
  rfl

/-- To ask a location gives its answer, and changes the memo of its creation. -/
theorem run_ask_of_some (h : ls.uses[i]? = some (l, c)) (q : Query) :
    (Locations.ask i q).run ls = (some ((l.ask q).run ls.memos[c]?.join).1,
      { ls with memos := ls.memos.set c ((l.ask q).run ls.memos[c]?.join).2 }) := by
  simp only [Locations.ask, StateT.run_bind, StateT.run_get, pure_bind, h]
  rfl

/-- What is remembered may be put back, also where there is no memo. -/
theorem set_join_getElem? (memos : List Location.Memo) (c : Nat) :
    memos.set c memos[c]?.join = memos := by
  cases hc : memos[c]? with
  | none => exact List.set_eq_of_length_le (List.getElem?_eq_none_iff.1 hc)
  | some memo =>
    obtain ⟨hlt, rfl⟩ := List.getElem?_eq_some_iff.1 hc
    exact List.set_getElem_self hlt

/-- Questions about other things than what is recorded change nothing. -/
theorem state_ask_of_not (hq : q.needsSpan = false) (ls : Locations) (i : Nat) :
    ((Locations.ask i q).run ls).2 = ls := by
  cases hi : ls.uses[i]? with
  | none => rw [run_ask_of_none hi]
  | some use =>
    obtain ⟨l, c⟩ := use
    rw [run_ask_of_some hi, memo_ask_of_not hq, set_join_getElem?]

namespace Keeps

/-- Before all uses there are no locations and no memos. -/
theorem empty : Keeps [] {} where
  uses := rfl
  memos := rfl
  made _ _ _ := iff_of_false nofun nofun
  memo _ _ hl := nomatch hl

/-- To create a location adds one with a new memo, in which there is nothing yet. -/
theorem create (h : Keeps us ls) (m : Location) : Keeps (.create m :: us) (ls.create m) where
  uses := by rw [Locations.create, List.length_append, h.uses]; rfl
  memos := by rw [Locations.create, List.length_append, h.memos, created, List.length_append]; rfl
  made i l c := by
    rw [made_create, ← h.made, Locations.create, getElem?_concat_eq_some_iff, h.uses, h.memos,
      Prod.mk.injEq]
  memo c l hl := by
    rw [asked_cons (u := .create m) nofun, Locations.create, getElem?_concat_eq_some_iff,
      getElem?_concat_eq_some_iff]
    rcases getElem?_concat_eq_some_iff.1 hl with ⟨rfl, rfl⟩ | hl
    · exact .inl ⟨fun hasked => Nat.lt_irrefl _ hasked.lt, .inl ⟨h.memos.symm, rfl⟩⟩
    · rcases h.memo c l hl with ⟨hnot, hmemo⟩ | ⟨hasked, hmemo⟩
      · exact .inl ⟨hnot, .inr hmemo⟩
      · exact .inr ⟨hasked, .inr hmemo⟩

/-- A use that makes nothing and asks nothing of what is there keeps what is kept. -/
theorem idle (h : Keeps us ls) (hcount : count (u :: us) = count us)
    (hcreated : created (u :: us) = created us)
    (hmade : ∀ i l c, Made (u :: us) i l c ↔ Made us i l c)
    (hasked : ∀ c, Asked (u :: us) c ↔ Asked us c) : Keeps (u :: us) ls where
  uses := h.uses.trans hcount.symm
  memos := by rw [hcreated, h.memos]
  made i l c := (h.made i l c).trans (hmade i l c).symm
  memo c l hl := by
    rw [hcreated] at hl
    rw [hasked]
    exact h.memo c l hl

/-- A location that is not there was not made. -/
theorem not_made (h : Keeps us ls) (hi : ls.uses[i]? = none) (l : Location) (c : Nat) :
    ¬ Made us i l c := by
  rw [← h.made, hi]
  exact nofun

/-- To copy a location adds one with the same memo. -/
theorem copy (h : Keeps us ls) (j : Nat) : Keeps (.copy j :: us) (ls.copy j) := by
  cases hj : ls.uses[j]? with
  | none =>
    have hcopy : ls.copy j = ls := by rw [Locations.copy, hj]
    have hout : ¬ j < count us := by
      rw [← h.uses]
      exact Nat.not_lt.2 (List.getElem?_eq_none_iff.1 hj)
    rw [hcopy]
    exact h.idle (if_neg hout) rfl (fun i l c => by simp [made_copy, h.not_made hj])
      fun c => asked_cons nofun
  | some use =>
    obtain ⟨m, d⟩ := use
    have hcopy : ls.copy j = { ls with uses := ls.uses ++ [(m, d)] } := by rw [Locations.copy, hj]
    have hin : j < count us := by
      rw [← h.uses]
      exact (List.getElem?_eq_some_iff.1 hj).1
    rw [hcopy]
    exact
      { uses := by
          rw [List.length_append, h.uses]
          exact (if_pos hin).symm
        memos := h.memos
        made := fun i l c => by
          rw [made_copy, ← h.made, ← h.made, getElem?_concat_eq_some_iff, h.uses, hj,
            Option.some_inj, eq_comm (a := (l, c))]
        memo := fun c l hl => by
          rw [asked_cons (u := .copy j) nofun]
          exact h.memo c l hl }

/-- What the memo of a location has. -/
theorem recalls (h : Keeps us ls) (hmade : Made us i l c) : ∃ memo, ls.memos[c]? = some memo ∧
    (memo = none ∨ memo = some l.span) ∧ (memo.isSome = true ↔ Asked us c) := by
  rcases h.memo c l hmade.created with ⟨hnot, hmemo⟩ | ⟨hasked, hmemo⟩
  · exact ⟨none, hmemo, .inl rfl, iff_of_false nofun hnot⟩
  · exact ⟨some l.span, hmemo, .inr rfl, iff_of_true rfl hasked⟩

/-- To ask a location fills its memo when it is asked for what is recorded, and changes nothing
else. -/
theorem ask (h : Keeps us ls) (i : Nat) (q : Query) :
    Keeps (.ask i q :: us) ((Locations.ask i q).run ls).2 := by
  cases hq : q.needsSpan with
  | false =>
    rw [state_ask_of_not hq]
    exact h.idle rfl rfl (fun j l c => made_ask) fun c => by simp [asked_ask, hq]
  | true =>
    cases hi : ls.uses[i]? with
    | none =>
      rw [run_ask_of_none hi]
      exact h.idle rfl rfl (fun j l c => made_ask) fun c => by simp [asked_ask, h.not_made hi]
    | some use =>
      obtain ⟨m, d⟩ := use
      have hmade : Made us i m d := (h.made i m d).1 hi
      obtain ⟨memo, hmemo, hknown, -⟩ := h.recalls hmade
      have hstate : ((Locations.ask i q).run ls).2 =
          { ls with memos := ls.memos.set d (some m.span) } := by
        rw [run_ask_of_some hi, hmemo, Option.join_some, run_ask_of_needsSpan hknown hq]
      rw [hstate]
      refine
        { uses := h.uses
          memos := List.length_set.trans h.memos
          made := fun j l c => (h.made j l c).trans made_ask.symm
          memo := fun c l hl => ?_ }
      by_cases hc : c = d
      · subst hc
        obtain rfl : m = l := Option.some.inj (hmade.created.symm.trans hl)
        refine .inr ⟨.now hmade hq, ?_⟩
        exact List.getElem?_set_self (List.getElem?_eq_some_iff.1 hmemo).1
      · -- The other memos are not touched, and none of their locations was asked.
        have hother : ∀ l, ¬ Made us i l c := fun l hl => by
          rw [← h.made, hi] at hl
          exact hc (congrArg Prod.snd (Option.some.inj hl)).symm
        have hasked : Asked (.ask i q :: us) c ↔ Asked us c := by simp [asked_ask, hother]
        rw [hasked, List.getElem?_set_ne (Ne.symm hc)]
        exact h.memo c l hl

end Keeps

/-- What is kept after uses. -/
theorem keeps_after (us : List Use) : Keeps us (after us) := by
  induction us with
  | nil => exact .empty
  | cons u us ih =>
    cases u with
    | create l => exact ih.create l
    | copy i => exact ih.copy i
    | ask i q => exact ih.ask i q

/-- What is recorded for a path without spans answers with nothing. -/
theorem says_blank (hq : q.needsSpan = true) : Says {} q (blank q) := by
  have hends : Ends ({} : SourceSpan).span 0 0 := .other nofun nofun
  cases q with
  | isResolved | fileName | isImport | path => cases hq
  | startLine => exact .startLine
  | startColumn => exact .startColumn
  | endLine => exact .endLine hends
  | endColumn => exact .endColumn hends
  | leading => exact .leading
  | trailing => exact .trailing
  | detached => exact .detached

/-- Whatever is done with locations, and with copies of them made before or after: a location
answers from the first span that is recorded for its path, as if nothing were remembered; it says
that it was looked up just when it, or one that it shares a memo with, was asked for what is
recorded; and other questions and comparisons, which go by file name and path alone, change nothing.
-/
theorem memo_transparent (us : List Use) : Transparent us := by
  have hkeeps := keeps_after us
  have hanswers : ∀ {i l c}, Made us i l c → ∀ q a,
      ((ask i q).run (after us)).1 = some a ↔ Answers l (Asked us c) q a := by
    intro i l c hmade q a
    obtain ⟨memo, hmemo, hknown, hasked⟩ := hkeeps.recalls hmade
    have hanswer := answers_ask hknown q
    rw [hasked] at hanswer
    rw [run_ask_of_some ((hkeeps.made i l c).2 hmade), hmemo, Option.join_some, Option.some_inj]
    exact ⟨fun heq => heq ▸ hanswer, hanswer.unique⟩
  refine
    { answers := fun i l c => hanswers
      unrecorded := fun i l c hmade hnone q hq =>
        (hanswers hmade q _).2 (.ofSpan (.none hnone) (says_blank hq))
      quiet := fun i q hq => state_ask_of_not hq (after us) i
      same := fun i j l m c d hi hj => ⟨l.isSame m, ?_, ?_⟩ }
  · simp [isSame, (hkeeps.made i l c).2 hi, (hkeeps.made j m d).2 hj]
  · simp [Location.isSame, Location.place]

/-- A copy that was made before the location was asked shows that it was looked up. -/
example (l : Location) : ((ask 1 .isResolved).run
    (after [.ask 0 .startLine, .copy 0, .create l])).1 = some (.flag true) := rfl

end SchemaCheck.Locations
