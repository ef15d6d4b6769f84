import Mathlib.Data.List.Forall2
import SchemaCheck.Proofs.Collector.Judging

/-!
# The answers of a collector

Rules hand in drafts and others ask for the response, in whatever order. Once the response was given
it is refused (`Collector.run_of_written`); until then drafts only add up (`Collector.run_eq`). So
all answers follow from the drafts that were handed in before the response was first asked for, and
from how often it was asked for (`Collector.run_answers`): the first is the response with all that
these drafts say, or what is wrong with them (`Collector.FirstAnswer`), and the others are refusals.
-/

namespace SchemaCheck.Collector

/-- The drafts that are handed in before the response is first asked for. -/
def early : List Step → List (String × Draft)
  | .add ruleId d :: steps => (ruleId, d) :: early steps
  | _ => []

/-- How often the response is asked for. -/
def wishes : List Step → Nat
  | [] => 0
  | .add _ _ :: steps => wishes steps
  | .finish :: steps => wishes steps + 1

/-- The answers to a number of wishes, of which only the first counts. -/
def answers (first : Result Response) : Nat → List (Result Response)
  | 0 => []
  | n + 1 => first :: List.replicate n (.error .alreadyWritten)

variable {c : Collector}

/-- To add a draft does not give the response. -/
@[simp] theorem written_add (c : Collector) (ruleId : String) (d : Draft) :
    (c.add ruleId d).written = c.written := by
  unfold add
  cases hw : c.written with
  | true => rfl
  | false =>
    simp only [Bool.false_eq_true, if_false]
    split <;> rfl

/-- To finish gives the response, be it a fault. -/
@[simp] theorem written_finish (c : Collector) : c.finish.2.written = true := by
  unfold finish
  cases hw : c.written with
  | true => exact hw
  | false =>
    simp only [Bool.false_eq_true, if_false]
    split <;> rfl

/-- A response that was given is refused. -/
theorem finish_of_written (h : c.written = true) : c.finish = (.error .alreadyWritten, c) := by
  rw [finish, if_pos h]

/-- Once the response was given, every wish for it is refused, whatever else is handed in. -/
theorem run_of_written (h : c.written = true) (steps : List Step) :
    (c.run steps).1 = List.replicate (wishes steps) (.error .alreadyWritten) := by
  induction steps generalizing c with
  | nil => rfl
  | cons step steps ih =>
    cases step with
    | add ruleId d => exact ih ((written_add c ruleId d).trans h)
    | finish =>
      have hrest := ih h
      rw [run, finish_of_written h]
      show Except.error Fault.alreadyWritten :: (c.run steps).1 = _
      rw [hrest]
      rfl

/-- Until the response is given, drafts add up; the first wish is answered from all of them. -/
theorem run_eq (h : c.written = false) (steps : List Step) :
    (c.run steps).1 = answers (c.addAll (early steps)).finish.1 (wishes steps) := by
  induction steps generalizing c with
  | nil => rfl
  | cons step steps ih =>
    cases step with
    | add ruleId d => exact ih ((written_add c ruleId d).trans h)
    | finish =>
      show c.finish.1 :: (c.finish.2.run steps).1 = _
      rw [run_of_written (written_finish c)]
      rfl

/-! ## The first answer -/

/-- What is remembered of drafts that are not sound, in the order in which they are handed in. -/
def remembered (r : Request) (log : List (String × Draft)) : List Fault :=
  log.filterMap fun e => (e.2.objections r e.1).head?

/-- What the first wish is answered when drafts were handed in: a response just when all are sound,
which has the findings that they tell, in order; and else what is wrong, one fault as itself and
several as joined. -/
structure FirstAnswer (r : Request) (log : List (String × Draft)) (answer : Result Response) :
    Prop where
  ok_iff : (∃ response, answer = .ok response) ↔ ∀ e ∈ log, e.2.Sound r e.1
  findings : ∀ response, answer = .ok response →
    (∃ fs, List.Forall₂ (fun e f => Finding.Tells r e f) log fs ∧ response.findings.Perm fs) ∧
      response.findings.Pairwise fun f g => f.compare g ≠ .gt
  fault : ∀ e, answer = .error e →
    remembered r log = [e] ∨ 2 ≤ (remembered r log).length ∧ e = .joined (remembered r log)

/-- What is remembered is what is wrong with the drafts that are refused. -/
theorem refused_eq_remembered (r : Request) (log : List (String × Draft)) :
    (ofRequest r).refused log = remembered r log := by
  refine List.filterMap_congr fun e _ => ?_
  cases hres : resolve (ofRequest r).files (ofRequest r).againstFiles e.1 e.2 with
  | ok f =>
    have hnil := (raises_resolve r e.1 e.2).eq_nil_iff.2 ⟨f, hres⟩
    rw [hnil]
    rfl
  | error fault => exact (resolve_eq_error_iff.1 hres).symm

/-- The findings of admitted drafts tell what these say, one by one. -/
theorem forall₂_accepted {r : Request} {log : List (String × Draft)}
    (h : ∀ e ∈ log, r.Admits e) :
    List.Forall₂ (fun e f => Finding.Tells r e f) log ((ofRequest r).accepted log) := by
  induction log with
  | nil => exact .nil
  | cons e log ih =>
    obtain ⟨f, hf⟩ := h e List.mem_cons_self
    have hcons : (ofRequest r).accepted (e :: log) = f :: (ofRequest r).accepted log := by
      simp [accepted, ofRequest, hf, Except.toOption]
    rw [hcons]
    exact .cons (tells_of_resolve hf) (ih fun e he => h e (List.mem_cons_of_mem _ he))

/-- Faults found together: one as itself, several joined. -/
theorem join_eq_some {es : List Fault} {e : Fault} (h : Fault.join es = some e) :
    es = [e] ∨ 2 ≤ es.length ∧ e = .joined es := by
  match es, h with
  | [_], h => exact .inl (congrArg (fun f => [f]) (Option.some.inj h))
  | _ :: _ :: es, h => exact .inr ⟨by simp, (Option.some.inj h).symm⟩

/-- When there is no response, what is remembered is the reason. -/
theorem join_of_finish {r : Request} {log : List (String × Draft)} {e : Fault}
    (h : ((ofRequest r).addAll log).finish.1 = .error e) :
    Fault.join (remembered r log) = some e := by
  rw [addAll_eq _ _ rfl, refused_eq_remembered] at h
  simp only [ofRequest, finish, Bool.false_eq_true, if_false, List.nil_append] at h
  cases hjoin : Fault.join (remembered r log) with
  | none =>
    rw [hjoin] at h
    cases h
  | some fault =>
    rw [hjoin] at h
    exact congrArg some (Except.error.inj h)

/-- A collector that was handed drafts, and is then asked for the response, gives all that they say
or what is wrong with them. -/
theorem firstAnswer (r : Request) (log : List (String × Draft)) :
    FirstAnswer r log ((ofRequest r).addAll log).finish.1 := by
  refine ⟨?_, fun response h => ?_, fun e h => join_eq_some (join_of_finish h)⟩
  · simp only [finish_addAll_eq_ok_iff, exists_and_left, exists_eq, and_true,
      Request.admits_iff_sound]
  · obtain ⟨hall, rfl⟩ := finish_addAll_eq_ok_iff.1 h
    exact ⟨⟨_, forall₂_accepted hall, Finding.sort_perm _⟩, Finding.pairwise_sort _⟩

/-- Whatever the steps that rules and others take on one collector, and in whatever order: the first
wish for the response is answered by all that was handed in before it, or by what is wrong with
that, and every later wish is refused. What is handed in afterwards changes no answer. -/
theorem run_answers (r : Request) :
    ∃ first : List (String × Draft) → Result Response, (∀ log, FirstAnswer r log (first log)) ∧
      ∀ steps, ((ofRequest r).run steps).1 = answers (first (early steps)) (wishes steps) :=
  ⟨fun log => ((ofRequest r).addAll log).finish.1, firstAnswer r, run_eq rfl⟩

end SchemaCheck.Collector
