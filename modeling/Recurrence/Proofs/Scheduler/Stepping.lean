import Recurrence.Proofs.Scheduler.DateTexts
import Recurrence.Proofs.Scheduler.Upcoming

namespace Recurrence

/-!
# Listing dates and asking for them one by one

A listing reads its request once and goes on from date to date.  Who asks for the next date
again and again goes on from text to text, and every time the whole request is read anew.  In
the default format a date is read back from its text, so both come to the same dates, and
after the first of them nothing can go wrong but that there is no further one.
-/

namespace Scheduler

/--
Answers that a scheduler gives one after the other.  The first one is asked for after the
reference, every other one after the text of the answer before it.  They are `most` answers,
unless there is no date after the last of them.
-/
structure AnswersInTurn
    (scheduler : Scheduler)
    (now : Reference)
    (date rule : Option String)
    (most : Nat)
    (answers : List String) : Prop where
  first :
    ∃ answer, answers.head? = some answer ∧ scheduler.nextDate now date rule = .ok answer
  inTurn :
    ∀ place earlier later, answers[place]? = some earlier → answers[place + 1]? = some later →
      scheduler.nextDate (.text earlier) date rule = .ok later
  atMost : answers.length ≤ most
  exhausted :
    answers.length < most → ∃ last cause, answers.getLast? = some last ∧
      scheduler.nextDate (.text last) date rule = .error (RequestError.ofNoMatch cause)

namespace AnswersInTurn

variable {scheduler : Scheduler} {now : Reference} {date rule : Option String}
variable {most : Nat} {answer : String} {others : List String}

/-- One answer is all if no more are wanted. -/
theorem one
    (answered : scheduler.nextDate now date rule = .ok answer) :
    AnswersInTurn scheduler now date rule 1 [answer] where
  first := ⟨answer, rfl, answered⟩
  inTurn := by
    intro place earlier later _ impossible
    cases impossible
  atMost := Nat.le_refl 1
  exhausted := fun short => absurd short (Nat.lt_irrefl 1)

/-- One answer is all if there is no date after it. -/
theorem last
    {cause : NoMatch}
    (answered : scheduler.nextDate now date rule = .ok answer)
    (failed :
      scheduler.nextDate (.text answer) date rule = .error (RequestError.ofNoMatch cause)) :
    AnswersInTurn scheduler now date rule (most + 1) [answer] where
  first := ⟨answer, rfl, answered⟩
  inTurn := by
    intro place earlier later _ impossible
    cases impossible
  atMost := Nat.le_add_left 1 most
  exhausted := fun _ => ⟨answer, cause, rfl, failed⟩

/-- An answer goes in front of those that are asked for after its text. -/
theorem cons
    (answered : scheduler.nextDate now date rule = .ok answer)
    (rest : AnswersInTurn scheduler (.text answer) date rule most others) :
    AnswersInTurn scheduler now date rule (most + 1) (answer :: others) where
  first := ⟨answer, rfl, answered⟩
  inTurn := by
    intro place earlier later isEarlier isLater
    rw [List.getElem?_cons_succ] at isLater
    cases place with
    | zero =>
        obtain ⟨second, isSecond, secondAnswered⟩ := rest.first
        rw [List.head?_eq_getElem?, isLater] at isSecond
        cases isEarlier
        cases isSecond
        exact secondAnswered
    | succ place => exact rest.inTurn place earlier later isEarlier isLater
  atMost := Nat.succ_le_succ rest.atMost
  exhausted := by
    intro short
    obtain ⟨last, cause, isLast, failed⟩ := rest.exhausted (Nat.lt_of_succ_lt_succ short)
    refine ⟨last, cause, ?_, failed⟩
    rw [List.getLast?_cons, isLast, Option.getD_some]

end AnswersInTurn

section Requests

variable {scheduler : Scheduler} {now : Reference} {date rule : Option String}
variable {request : Request} {failure : RequestError} {cause : NoMatch} {next : Date}

theorem nextDate_of_refused
    (refused : scheduler.readRequest now date rule = .error failure) :
    scheduler.nextDate now date rule = .error failure := by
  rw [nextDate, nextOccurrence, refused]
  rfl

theorem nextDate_of_failed
    (requested : scheduler.readRequest now date rule = .ok request)
    (failed : request.rule.advance request.start request.now = .error cause) :
    scheduler.nextDate now date rule = .error (RequestError.ofNoMatch cause) := by
  simp only [nextDate, nextOccurrence, requested, failed, mapError_error, bind, Except.bind]

theorem nextDate_of_found
    (requested : scheduler.readRequest now date rule = .ok request)
    (found : request.rule.advance request.start request.now = .ok next) :
    scheduler.nextDate now date rule = .ok (scheduler.writeDate next) := by
  simp only [nextDate, nextOccurrence, requested, found, mapError_ok, bind, Except.bind, pure,
    Except.pure]

theorem listing_of_refused
    {count : Int}
    (refused : scheduler.readRequest now date rule = .error failure) :
    scheduler.listing now date rule count = .error failure := by
  rw [listing, refused]
  rfl

end Requests

section DefaultFormat

variable {strict : Bool} {now : Reference} {date rule : Option String} {request : Request}

/-- The text of a date is read as a reference to that date. -/
theorem readReference_writeDate
    (day : Date) :
    (withDefaultFormat strict).readReference
      (.text ((withDefaultFormat strict).writeDate day)) = .ok day := by
  rw [readReference, readDate_text_eq_ok_iff, toList_writeDate]
  exact day.compactlyNames_compact

/-- A request that is read is also read with the text of any date as its reference. -/
theorem readRequest_writeDate
    (requested : (withDefaultFormat strict).readRequest now date rule = .ok request)
    (day : Date) :
    (withDefaultFormat strict).readRequest
        (.text ((withDefaultFormat strict).writeDate day)) date rule =
      .ok { request with now := day } := by
  obtain ⟨startRead, _, ruleRead⟩ := readRequest_eq_ok_iff.mp requested
  exact readRequest_eq_ok_iff.mpr ⟨startRead, readReference_writeDate day, ruleRead⟩

/-- The dates that a listing goes through are the answers that are given in turn. -/
theorem answersInTurn_occurrencesAfter
    {first : Date}
    (requested : (withDefaultFormat strict).readRequest now date rule = .ok request)
    (found : request.rule.advance request.start request.now = .ok first)
    (more : Nat) :
    AnswersInTurn (withDefaultFormat strict) now date rule (more + 1)
      ((first :: occurrencesAfter request.rule request.start more first).map
        (withDefaultFormat strict).writeDate) := by
  -- The listing goes on from `first`, the next question is asked with the text of `first`.
  induction more generalizing now request first with
  | zero => exact .one (nextDate_of_found requested found)
  | succ more inductionHypothesis =>
      have answered := nextDate_of_found requested found
      have requestedAgain := readRequest_writeDate requested first
      rw [occurrencesAfter]
      cases outcome : request.rule.advance request.start first with
      | error cause =>
          exact .last answered (nextDate_of_failed requestedAgain outcome)
      | ok next =>
          have rest := inductionHypothesis requestedAgain outcome
          exact .cons answered rest

end DefaultFormat

/--
In the default format, a listing is what asking for the next date in turn gives.  If the first
question has no answer, the listing fails in the same way.  Otherwise the listing has the
answers in their order: as many as are wanted, but at most 23, or up to the first one after
which there is no date.
-/
theorem upcoming_answersInTurn
    (strict : Bool)
    (now : Reference)
    (date rule : Option String)
    (count : Int)
    (positive : 1 ≤ count) :
    (∀ failure, (withDefaultFormat strict).nextDate now date rule = .error failure →
        (withDefaultFormat strict).upcoming now date rule count = .error (.request failure) ∧
          (ListingError.request failure).message = failure.message) ∧
      (∀ first, (withDefaultFormat strict).nextDate now date rule = .ok first →
        ∃ answers,
          (withDefaultFormat strict).upcoming now date rule count = .ok answers ∧
            AnswersInTurn (withDefaultFormat strict) now date rule (min count.toNat 23)
              answers) := by
  rw [upcoming, if_neg (Int.not_lt.mpr positive)]
  cases requested : (withDefaultFormat strict).readRequest now date rule with
  | error refusal =>
      rw [nextDate_of_refused requested, listing_of_refused requested]
      constructor
      · intro failure failed
        cases failed
        exact ⟨rfl, rfl⟩
      · intro first impossible
        cases impossible
  | ok request =>
      cases outcome : request.rule.advance request.start request.now with
      | error cause =>
          rw [nextDate_of_failed requested outcome, listing_of_failed requested outcome]
          constructor
          · intro failure failed
            cases failed
            exact ⟨rfl, rfl⟩
          · intro first impossible
            cases impossible
      | ok first =>
          rw [nextDate_of_found requested outcome, listing_of_found requested outcome,
            ← capped_succ positive]
          constructor
          · intro failure impossible
            cases impossible
          · intro answer _
            exact ⟨_, rfl, answersInTurn_occurrencesAfter requested outcome _⟩

/--
Of five yearly dates wanted near the end of the calendar two are left, whether they are listed
or asked for in turn.  A rule of no days fails in both ways alike.
-/
theorem upcoming_answersInTurn_nearTheEnd :
    (1 ≤ (5 : Int) ∧
        (withDefaultFormat true).upcoming (.moment (.time nearTheEnd 3600)) (some "99971231")
            (some "y") 5 =
          .ok ["99981231", "99991231"] ∧
        AnswersInTurn (withDefaultFormat true) (.moment (.time nearTheEnd 3600))
          (some "99971231") (some "y") 5 ["99981231", "99991231"]) ∧
      (1 ≤ (30 : Int) ∧
        (withDefaultFormat false).nextDate (.text "20240101") (some "20240101") (some "d 0") =
          .error (.recurrence (.rule .dayInterval)) ∧
        (withDefaultFormat false).upcoming (.text "20240101") (some "20240101") (some "d 0") 30 =
          .error (.request (.recurrence (.rule .dayInterval)))) := by
  have wantsFive : 1 ≤ (5 : Int) := by decide
  have wantsThirty : 1 ≤ (30 : Int) := by decide
  constructor
  · have answered :
        (withDefaultFormat true).nextDate (.moment (.time nearTheEnd 3600)) (some "99971231")
            (some "y") =
          .ok "99981231" :=
      rfl
    have listed :
        (withDefaultFormat true).upcoming (.moment (.time nearTheEnd 3600)) (some "99971231")
            (some "y") 5 =
          .ok ["99981231", "99991231"] :=
      rfl
    obtain ⟨_, succeeds⟩ :=
      upcoming_answersInTurn true (.moment (.time nearTheEnd 3600)) (some "99971231")
        (some "y") 5 wantsFive
    obtain ⟨answers, sameListed, inTurn⟩ := succeeds "99981231" answered
    rw [listed] at sameListed
    cases sameListed
    exact ⟨wantsFive, listed, inTurn⟩
  · have refused :
        (withDefaultFormat false).nextDate (.text "20240101") (some "20240101") (some "d 0") =
          .error (.recurrence (.rule .dayInterval)) :=
      rfl
    obtain ⟨fails, _⟩ :=
      upcoming_answersInTurn false (.text "20240101") (some "20240101") (some "d 0") 30
        wantsThirty
    exact ⟨wantsThirty, refused, (fails _ refused).1⟩

end Scheduler

end Recurrence
