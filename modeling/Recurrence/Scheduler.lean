import Recurrence.Calendar.Moment
import Recurrence.Calendar.Pattern
import Recurrence.Case
import Recurrence.Error.Request

namespace Recurrence

/-!
# The scheduler

A scheduler answers requests that come as text: what is the next date of a rule
begun on some date, after some reference?  The rule must not be empty, then the
date is read, then the reference, then the rule; the first of these that fails
is the answer.  A list of dates is what asking again and again for the next date
gives, up to `maxUpcoming` times.
-/

/-- How texts are read: with or without surplus tokens in rules, and in which date format. -/
structure Scheduler where
  strict : Bool
  format : DateFormat
  deriving Repr, DecidableEq

/-- The day after which a date is wanted: a moment, a text, or something that is neither. -/
inductive Reference where
  | moment (moment : Moment)
  | text (content : String)
  | unreadable
  deriving Repr, DecidableEq

/-- The most dates that a list of coming dates has. -/
def maxUpcoming : Nat := 23

/-- The first occurrence after `now` of a rule, which must be there. -/
def advanceRule (rule : Option Rule) (start now : Moment) : Except AdvanceError Date :=
  match rule with
  | some rule => (rule.advance start.date now.date).mapError AdvanceError.noMatch
  | none => .error .ruleMissing

namespace Scheduler

/-- The scheduler that ignores surplus tokens and uses the compact date format. -/
def default : Scheduler :=
  ⟨false, .compact⟩

/-- Reads a date.  What is no text is no date. -/
def readDate (scheduler : Scheduler) (text : Option String) : Except RequestError Date :=
  match text.bind fun content => scheduler.format.read? content.toList with
  | some date => .ok date
  | none => .error (.recurrence .invalidDate)

/-- The day of a reference. -/
def readReference (scheduler : Scheduler) (reference : Reference) : Except RequestError Date :=
  match reference with
  | .moment moment => .ok moment.date
  | .text content => scheduler.readDate (some content)
  | .unreadable => .error (.recurrence .invalidDate)

/-- A date in the format of the scheduler. -/
def writeDate (scheduler : Scheduler) (date : Date) : String :=
  String.ofList (scheduler.format.write date)

/-- A request after all its texts have been read. -/
structure Request where
  rule : Rule
  start : Date
  now : Date

/-- Reads the texts of a request.  No rule is the same as an empty one. -/
def readRequest
    (scheduler : Scheduler)
    (now : Reference)
    (date rule : Option String) :
    Except RequestError Request :=
  match rule.getD "" with
  | "" => .error (.recurrence (.rule .empty))
  | ruleText => do
      let start ← scheduler.readDate date
      let reference ← scheduler.readReference now
      let parsed ← (Rule.parse scheduler.strict ruleText.toList).mapError
        RequestError.ofParseFailure
      return ⟨parsed, start, reference⟩

/-- The first occurrence after `now` of a rule begun on `date`. -/
def nextOccurrence
    (scheduler : Scheduler)
    (now : Reference)
    (date rule : Option String) :
    Except RequestError Date := do
  let request ← scheduler.readRequest now date rule
  (request.rule.advance request.start request.now).mapError RequestError.ofNoMatch

/-- The text of the first occurrence after `now` of a rule begun on `date`. -/
def nextDate
    (scheduler : Scheduler)
    (now : Reference)
    (date rule : Option String) :
    Except RequestError String := do
  let next ← scheduler.nextOccurrence now date rule
  return scheduler.writeDate next

/-- Up to `count` occurrences, each the first one after the occurrence before it. -/
def occurrencesAfter (rule : Rule) (start : Date) : Nat → Date → List Date
  | 0, _ => []
  | count + 1, now =>
      match rule.advance start now with
      | .ok next => next :: occurrencesAfter rule start count next
      | .error _ => []

/-- The texts of the first occurrence and up to `count - 1` more, `maxUpcoming` at most. -/
def listing
    (scheduler : Scheduler)
    (now : Reference)
    (date rule : Option String)
    (count : Int) :
    Except RequestError (List String) := do
  let request ← scheduler.readRequest now date rule
  let first ← (request.rule.advance request.start request.now).mapError
    RequestError.ofNoMatch
  let more := (min count maxUpcoming).toNat - 1
  let others := occurrencesAfter request.rule request.start more first
  return (first :: others).map scheduler.writeDate

/-- The texts of up to `count` occurrences after `now` of a rule begun on `date`. -/
def upcoming
    (scheduler : Scheduler)
    (now : Reference)
    (date rule : Option String)
    (count : Int) :
    Except ListingError (List String) :=
  if count < 1 then
    .error (.countNotPositive count)
  else
    (scheduler.listing now date rule count).mapError ListingError.request

/-- One move of a task to its next date: after which day, and by which rule. -/
structure Move where
  now : Option Reference
  rule : Option String
  deriving Repr, DecidableEq

/--
The answers to a row of moves of one task.  Each move starts from the date that
the last successful one led to, which is also its reference if it names none.
-/
def moveAlong
    (scheduler : Scheduler)
    (date : Option String) :
    List Move → List (Except RequestError String)
  | [] => []
  | move :: moves =>
      let here := (date.map Reference.text).getD .unreadable
      let answer := scheduler.nextDate (move.now.getD here) date move.rule
      match answer with
      | .ok next => answer :: moveAlong scheduler (some next) moves
      | .error _ => answer :: moveAlong scheduler date moves

/-- The reference of a case: its own, or today if it has none or an empty one. -/
def caseReference (today : Date) (request : Case) : Reference :=
  match request.now with
  | some (.whole "") => .moment (.day today)
  | some (.whole content) => .text content
  | some (.broken _ _) => .unreadable
  | none => .moment (.day today)

/--
The outcome of a case.  Failures that belong to the case are part of the
outcome; a number too long to be read is not.  A broken text is no date in any
format, and no rule says anything by half of a surrogate pair.
-/
def evaluate
    (scheduler : Scheduler)
    (today : Date)
    (request : Case) :
    Except Text.Oversized Outcome :=
  match
    scheduler.nextDate (caseReference today request) request.date.string? request.rule.legible
  with
  | .ok next => .ok ⟨request, some next, none, none⟩
  | .error (.recurrence error) =>
      .ok ⟨request, none, some error.message, some error.kind.name⟩
  | .error (.oversized number) => .error number

end Scheduler

end Recurrence
