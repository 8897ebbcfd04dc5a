import Recurrence.Proofs.CaseFile.Objects
import Recurrence.Proofs.Rule.Overlong
import Recurrence.Proofs.Scheduler.DateTexts

namespace Recurrence

/-!
# Which cases have an outcome

Failures that belong to a case are part of its outcome.  A case has no outcome only
if both its dates can be read, and then its rule text is overlong.
-/

namespace RequestError

variable {number : Text.Oversized}

theorem ofParseFailure_eq_oversized_iff
    {failure : ParseFailure} :
    ofParseFailure failure = .oversized number ↔ failure = .oversized number := by
  cases failure with
  | rule error => simp [ofParseFailure]
  | oversized found => simp [ofParseFailure]

theorem ofNoMatch_ne_oversized
    {cause : NoMatch} :
    ofNoMatch cause ≠ .oversized number :=
  nofun

end RequestError

namespace Scheduler

/-- The dates of a case can be read, and its rule text is overlong. -/
structure GivesUpOn
    (scheduler : Scheduler)
    (today : Date)
    (request : Case)
    (number : Text.Oversized) : Prop where
  dateRead : ∃ start, scheduler.readDate request.date.string? = .ok start
  referenceRead :
    ∃ reference, scheduler.readReference (caseReference today request) = .ok reference
  overlong :
    Rule.Overlong scheduler.strict number (Text.splitOn ' ' request.rule.legible.toList)

section Requests

variable {scheduler : Scheduler} {number : Text.Oversized}
variable {now : Reference} {date rule : Option String}

theorem readDate_ne_oversized :
    scheduler.readDate date ≠ .error (.oversized number) :=
  fun refused => nomatch readDate_eq_error refused

theorem readReference_ne_oversized :
    scheduler.readReference now ≠ .error (.oversized number) := by
  cases now with
  | moment moment => exact nofun
  | text content => exact readDate_ne_oversized
  | unreadable => exact nofun

/-- The rule is read last, so the dates are good where its reading gives up. -/
theorem readRequest_eq_oversized_iff :
    scheduler.readRequest now date rule = .error (.oversized number) ↔
      (∃ start, scheduler.readDate date = .ok start) ∧
        (∃ reference, scheduler.readReference now = .ok reference) ∧
          Rule.parse scheduler.strict (rule.getD "").toList = .error (.oversized number) := by
  rw [readRequest]
  split
  · rename_i missing
    rw [missing]
    constructor
    · intro read
      cases read
    · rintro ⟨_, _, parsed⟩
      cases parsed
  · simp only [bind_eq_error_iff, mapError_eq_error_iff, readDate_ne_oversized,
      readReference_ne_oversized, RequestError.ofParseFailure_eq_oversized_iff, pure,
      Except.pure, reduceCtorEq, and_false, exists_false, or_false, false_or,
      exists_eq_right, exists_and_right]

theorem nextDate_eq_oversized_iff :
    scheduler.nextDate now date rule = .error (.oversized number) ↔
      scheduler.readRequest now date rule = .error (.oversized number) := by
  simp only [nextDate, nextOccurrence, bind_eq_error_iff, mapError_eq_error_iff,
    RequestError.ofNoMatch_ne_oversized, pure, Except.pure, reduceCtorEq, and_false,
    exists_false, or_false]

end Requests

section Cases

variable {scheduler : Scheduler} {today : Date} {request : Case} {number : Text.Oversized}

theorem evaluate_eq_error_iff :
    scheduler.evaluate today request = .error number ↔
      scheduler.GivesUpOn today request number := by
  have unanswered :
      scheduler.evaluate today request = .error number ↔
        scheduler.nextDate (caseReference today request) request.date.string?
            request.rule.legible =
          .error (.oversized number) := by
    rw [evaluate]
    cases scheduler.nextDate (caseReference today request) request.date.string?
      request.rule.legible with
    | ok next => simp
    | error failure =>
        cases failure with
        | recurrence error => simp
        | oversized found => simp
  rw [unanswered, nextDate_eq_oversized_iff, readRequest_eq_oversized_iff, Option.getD_some,
    Rule.parse_eq_oversized_iff]
  exact ⟨fun ⟨date, reference, overlong⟩ => ⟨date, reference, overlong⟩,
    fun givesUp => ⟨givesUp.dateRead, givesUp.referenceRead, givesUp.overlong⟩⟩

/-- An outcome is that of its case, and an error has a kind. -/
theorem evaluate_eq_ok
    {outcome : Outcome}
    (evaluated : scheduler.evaluate today request = .ok outcome) :
    outcome.input = request ∧ outcome.errorKind.isSome = outcome.error.isSome := by
  rw [evaluate] at evaluated
  split at evaluated
  · cases evaluated
    exact ⟨rfl, rfl⟩
  · cases evaluated
    exact ⟨rfl, rfl⟩
  · cases evaluated

/-- What an evaluation adds to a case are whole texts. -/
theorem isWhole_iff_of_evaluate
    {outcome : Outcome}
    (evaluated : scheduler.evaluate today request = .ok outcome) :
    outcome.IsWhole ↔ request.IsWhole := by
  have same := (evaluate_eq_ok evaluated).1
  constructor
  · intro whole
    rw [← same]
    exact whole.input
  · intro whole
    rw [← same] at whole
    rw [evaluate] at evaluated
    split at evaluated
    · cases evaluated
      exact ⟨whole, by simp [Wording.isWhole], by simp, by simp⟩
    · cases evaluated
      exact ⟨whole, by simp, by simp [Wording.isWhole], by simp [Wording.isWhole]⟩
    · cases evaluated

/-- A case has an outcome exactly if its evaluation does not give up on its rule text. -/
theorem exists_evaluate_iff :
    (∃ outcome, scheduler.evaluate today request = .ok outcome) ↔
      ∀ number, ¬ scheduler.GivesUpOn today request number := by
  simp only [← evaluate_eq_error_iff]
  cases scheduler.evaluate today request with
  | error found => simp
  | ok outcome => simp

/-- Only a rule text of more than 4300 characters leaves a case without an outcome. -/
theorem exists_evaluate_of_length_le
    (short : request.rule.legible.toList.length ≤ Text.maxDigits) :
    ∃ outcome, scheduler.evaluate today request = .ok outcome := by
  rw [exists_evaluate_iff]
  intro number givesUp
  exact not_hasOversizedItem_of_length_le short givesUp.overlong.hasOversizedItem

end Cases

end Scheduler

end Recurrence
