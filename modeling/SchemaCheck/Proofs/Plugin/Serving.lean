import SchemaCheck.Plugin
import SchemaCheck.Proofs.Message.Framing
import SchemaCheck.Proofs.Provider.Agreement
import SchemaCheck.Proofs.Spec.Validity

/-!
# What a program serves

A program of a valid spec writes one message on one line: what a provider of the spec answers, or
the fault, with the exit code that says which of the two it is (`Plugin.run_reports`). A program of
an invalid spec writes nothing (`Plugin.serve_of_invalid`). Whatever flags stand beside the name of
the method, it is this method that is served (`CommandLine.method_of_parse`).
-/

namespace SchemaCheck

/-! ## Answers -/

/-- What a provider answers is one message. -/
theorem Provider.isMessage_of_handle {p : Provider} {m : Method} {request answer : Bytes}
    {c : CallContext} (h : ((p.handle m request).run c).1 = .ok answer) : answer.IsMessage := by
  have hwrites : ∀ {α β : Type} {codec : Codec α}, codec.Lawful →
      ∀ (r : Result β) (serve : β → Served α),
        ((do let m ← Served.ofResult r; return codec.toBytes (← serve m)).run c).1 = .ok answer →
          answer.IsMessage := by
    intro α β codec hcodec r serve h
    rw [Served.run_bind, Served.run_ofResult] at h
    cases r with
    | error e => cases h
    | ok m =>
      simp only at h
      rw [Served.run_bind] at h
      cases hrun : (serve m).run c with
      | mk result d =>
        rw [hrun] at h
        cases result with
        | error e => cases h
        | ok a =>
          cases h
          exact hcodec.isMessage a
  cases m with
  | check => exact hwrites CheckReply.codec_lawful _ _ h
  | listRules => exact hwrites rulesReplyCodec_lawful _ _ h
  | listCategories => exact hwrites categoriesReplyCodec_lawful _ _ h

/-- A provider is made of every valid spec. -/
theorem Provider.ofSpec_eq {s : Spec} (h : s.IsValid) (execution : Execution) :
    ofSpec s execution = .ok ⟨s, h, execution⟩ := by
  unfold ofSpec
  split
  · rfl
  · next e he => cases he.symm.trans h

/-- No provider is made of an invalid spec. -/
theorem Provider.ofSpec_of_invalid {s : Spec} (h : ¬ s.IsValid) (execution : Execution) :
    ∃ e, ofSpec s execution = .error e := by
  unfold ofSpec
  split
  · next he => exact absurd he h
  · next e _ => exact ⟨e, rfl⟩

namespace Plugin

/-- How a program reports what came of a call, by its exit code and the message that it writes: the
answer itself, or a message with the code and the text of the fault. -/
inductive Reports : Result Bytes → Nat → Bytes → Prop where
  | answer (answer : Bytes) : Reports (.ok answer) 0 answer
  | fault (e : Fault) : Reports (.error e) 1 (FaultMessage.codec.toBytes ⟨e.code, e.message⟩)

variable {spec : Spec}

/-- A program that can write all that it wants writes one message and ends the line. -/
theorem run_reports {p : Provider} {i : Invocation} {schedule : List Nat}
    (hp : Provider.ofSpec spec (execution i schedule) = .ok p) (input : Bytes) {sink : Sink}
    (hsink : sink.capacity = none) :
    ∃ code message, run spec i (.ok input) sink schedule
        = (.ok code, { sink with written := sink.written ++ message ++ [0x0A] }) ∧
      message.IsMessage ∧ Reports ((p.handle i.method (request input)).run {}).1 code message := by
  have hmessage : ∀ answer, ((p.handle i.method (request input)).run {}).1 = .ok answer →
      answer.IsMessage := fun _ => Provider.isMessage_of_handle
  obtain ⟨capacity, written⟩ := sink
  obtain rfl : capacity = none := hsink
  unfold run
  rw [hp]
  dsimp only
  generalize (p.handle i.method (request input)).run {} = served at hmessage ⊢
  obtain ⟨result, d⟩ := served
  cases result with
  | ok answer => exact ⟨0, answer, rfl, hmessage answer rfl, .answer answer⟩
  | error e => exact ⟨1, _, rfl, FaultMessage.codec_lawful.isMessage _, .fault e⟩

/-- White space alone is served as an empty request. -/
theorem run_of_isBlank {input : Bytes} (h : input.isBlank = true) (i : Invocation) (sink : Sink)
    (schedule : List Nat) :
    run spec i (.ok input) sink schedule = run spec i (.ok [0x7B, 0x7D]) sink schedule := by
  have hrequest : request input = request [0x7B, 0x7D] := by
    rw [request, if_pos h]
    rfl
  unfold run
  dsimp only
  rw [hrequest]

/-- Whatever the program of an invalid spec is asked, it fails and writes nothing. -/
theorem run_of_invalid (h : ¬ spec.IsValid) (i : Invocation) (input : Except String Bytes)
    (sink : Sink) (schedule : List Nat) :
    ∃ e, run spec i input sink schedule = (.error e, sink) := by
  obtain ⟨e, he⟩ := Provider.ofSpec_of_invalid h (execution i schedule)
  refine ⟨e, ?_⟩
  unfold run
  rw [he]

/-- The exit code of the program is that of the run. -/
theorem serve_of_run {args : List String} {i : Invocation} {input : Except String Bytes}
    {sink out : Sink} {schedule : List Nat} {code : Nat} (hargs : CommandLine.parse args = .ok i)
    (hrun : run spec i input sink schedule = (.ok code, out)) :
    serve spec args input sink schedule = (code, out) := by
  unfold serve
  rw [hargs]
  dsimp only
  rw [hrun]

/-- A program of an invalid spec writes nothing and says that it could not serve. -/
theorem serve_of_invalid (h : ¬ spec.IsValid) {args : List String} {i : Invocation}
    (hargs : CommandLine.parse args = .ok i) (input : Except String Bytes) (sink : Sink)
    (schedule : List Nat) : serve spec args input sink schedule = (2, sink) := by
  obtain ⟨e, he⟩ := run_of_invalid h i input sink schedule
  unfold serve
  rw [hargs]
  dsimp only
  rw [he]
  rfl

end Plugin

/-! ## Arguments -/

namespace CommandLine

/-- The name of a method is a plain argument, and no flag may follow from it. -/
theorem classify_procedure (m : Method) : classify m.procedure = .plain m.procedure := by
  cases m <;> rfl

/-- A second command is refused. -/
theorem afterCommand_ne_ok {args : List String} (m : Method) (f g : Flags) :
    afterCommand f (args ++ [m.procedure]) ≠ .ok g := by
  intro h
  induction args generalizing f with
  | nil =>
    rw [List.nil_append, afterCommand, classify_procedure] at h
    cases h
  | cons arg args ih =>
    rw [List.cons_append, afterCommand] at h
    cases hclass : classify arg with
    | endOfFlags => simp [hclass] at h
    | plain text => simp [hclass] at h
    | word name =>
      simp only [hclass] at h
      obtain ⟨f, -, h⟩ := exists_of_bind_eq_ok h
      exact ih f h
    | letters names =>
      simp only [hclass] at h
      obtain ⟨f, -, h⟩ := exists_of_bind_eq_ok h
      exact ih f h

/-- The name of a procedure tells the method. -/
theorem ofProcedure?_procedure (m : Method) : Method.ofProcedure? m.procedure = .ok m := by
  cases m <;> rfl

/-- Arguments that end with the name of a method ask for this method, if they ask for a call at all.
-/
theorem method_of_parse {args : List String} {m : Method} {i : Invocation}
    (h : parse (args ++ [m.procedure]) = .ok i) : i.method = m := by
  unfold parse at h
  generalize ({} : Flags) = f at h
  induction args generalizing f with
  | nil =>
    rw [List.nil_append, beforeCommand, classify_procedure] at h
    have hhelp : m.procedure ≠ helpCommand := by cases m <;> decide
    simp only [if_neg hhelp, ofProcedure?_procedure] at h
    cases h
    rfl
  | cons arg args ih =>
    rw [List.cons_append, beforeCommand] at h
    cases hclass : classify arg with
    | endOfFlags => rw [hclass] at h; cases h
    | word name =>
      simp only [hclass] at h
      obtain ⟨g, -, h⟩ := exists_of_bind_eq_ok h
      exact ih g h
    | letters names =>
      simp only [hclass] at h
      obtain ⟨g, -, h⟩ := exists_of_bind_eq_ok h
      exact ih g h
    | plain text =>
      simp only [hclass] at h
      split at h
      · split at h <;> cases h
      · cases hmethod : Method.ofProcedure? text with
        | error e => rw [hmethod] at h; cases h
        | ok m' =>
          rw [hmethod] at h
          obtain ⟨g, hafter, -⟩ := exists_of_bind_eq_ok h
          exact absurd hafter (afterCommand_ne_ok m {} g)

end CommandLine

end SchemaCheck
