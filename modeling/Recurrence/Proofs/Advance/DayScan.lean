import Recurrence.Proofs.Advance.Moments
import Recurrence.Proofs.Calendar.DaySteps

namespace Recurrence

/-!
# Scanning days one by one

A scan moves through the calendar day by day and tests so many days at most.  One kind
of scan tests a day before it steps on, the other one steps on before it tests.  Both
end at the first day that passes.  A scan that finds none has come to the end of its
window, unless its last step leaves the calendar: for the scan that tests first, that is
the step after the last test.
-/

/-- Why a scan ends without a date. -/
inductive ScanFault where
  | windowExhausted
  | step (error : StepError)
  deriving Repr, DecidableEq

/-- Why a rule whose scan ends without a date has no next one. -/
def ScanFault.cause (exhausted : NoMatch) : ScanFault → NoMatch
  | .windowExhausted => exhausted
  | .step _ => .offCalendar

/-- Tests up to so many days from `current` on, and steps on after each that fails. -/
def testThenStep (test : Date → Except StepError Bool) : Nat → Date → Except ScanFault Date
  | 0, _ => .error .windowExhausted
  | count + 1, current => do
      let passed ← (test current).mapError ScanFault.step
      if passed then
        return current
      let following ← (current.shiftDays 1).mapError ScanFault.step
      testThenStep test count following

/-- Steps on from `current` up to so many times, and tests the day after each step. -/
def stepThenTest (test : Date → Except StepError Bool) : Nat → Date → Except ScanFault Date
  | 0, _ => .error .windowExhausted
  | count + 1, current => do
      let following ← (current.shiftDays 1).mapError ScanFault.step
      let passed ← (test following).mapError ScanFault.step
      if passed then
        return following
      stepThenTest test count following

/-- What a scan comes to: the day found, or else a fault, by the last day it would step to. -/
def scanOutcome (found : Option Date) (reach : Int) : Except ScanFault Date :=
  match found with
  | some date => .ok date
  | none => .error (if Date.lastNumber < reach then .step .dateRange else .windowExhausted)

section Steps

variable {test : Date → Except StepError Bool} {count : Nat} {current following : Date}

theorem testThenStep_of_passed
    (passed : test current = .ok true) :
    testThenStep test (count + 1) current = .ok current := by
  rw [testThenStep, passed]
  rfl

theorem testThenStep_of_failed
    (failed : test current = .ok false)
    (next : current.next? = some following) :
    testThenStep test (count + 1) current = testThenStep test count following := by
  rw [testThenStep, failed, Date.shiftDays_one_of_next? next]
  rfl

theorem testThenStep_of_last
    (failed : test current = .ok false)
    (last : current.next? = none) :
    testThenStep test (count + 1) current = .error (.step .dateRange) := by
  rw [testThenStep, failed, Date.shiftDays_one_of_last last]
  rfl

theorem stepThenTest_of_passed
    (next : current.next? = some following)
    (passed : test following = .ok true) :
    stepThenTest test (count + 1) current = .ok following := by
  rw [stepThenTest, Date.shiftDays_one_of_next? next, mapError_ok]
  simp only [bind, Except.bind, passed]
  rfl

theorem stepThenTest_of_failed
    (next : current.next? = some following)
    (failed : test following = .ok false) :
    stepThenTest test (count + 1) current = stepThenTest test count following := by
  rw [stepThenTest, Date.shiftDays_one_of_next? next, mapError_ok]
  simp only [bind, Except.bind, failed]
  rfl

theorem stepThenTest_of_last
    (last : current.next? = none) :
    stepThenTest test (count + 1) current = .error (.step .dateRange) := by
  rw [stepThenTest, Date.shiftDays_one_of_last last]
  rfl

end Steps

section Windows

variable {current following : Date} {count : Nat}

theorem daysFrom_succ
    (next : current.next? = some following) :
    current.daysFrom (count + 1) = current :: following.daysFrom count := by
  simp only [Date.daysFrom, next]

theorem daysFrom_of_last
    (last : current.next? = none) :
    current.daysFrom (count + 1) = [current] := by
  simp only [Date.daysFrom, last]

theorem daysAfter_zero
    (current : Date) :
    current.daysAfter 0 = [] := by
  rw [Date.daysAfter]
  cases current.next? with
  | none => rfl
  | some following => rfl

theorem daysAfter_succ
    (next : current.next? = some following) :
    current.daysAfter (count + 1) = following :: following.daysAfter count := by
  simp only [Date.daysAfter, next]
  rfl

theorem daysAfter_of_last
    (last : current.next? = none) :
    current.daysAfter count = [] := by
  simp only [Date.daysAfter, last]

end Windows

section Outcomes

variable {found : Option Date} {reach : Int}

theorem scanOutcome_of_past
    (past : Date.lastNumber < reach) :
    scanOutcome none reach = .error (.step .dateRange) := by
  rw [scanOutcome, if_pos past]

theorem scanOutcome_of_within
    (within : reach ≤ Date.lastNumber) :
    scanOutcome none reach = .error .windowExhausted := by
  rw [scanOutcome, if_neg (Int.not_lt.mpr within)]

/-- The only step of a scan that fails is one that leaves the calendar. -/
theorem eq_dateRange_of_scanOutcome
    {error : StepError}
    (failed : scanOutcome found reach = .error (.step error)) :
    error = .dateRange := by
  cases found with
  | some date => cases failed
  | none =>
      by_cases past : Date.lastNumber < reach
      · rw [scanOutcome_of_past past] at failed
        cases failed
        rfl
      · rw [scanOutcome_of_within (Int.not_lt.mp past)] at failed
        cases failed

end Outcomes

section Runs

variable {test : Date → Except StepError Bool} {wanted : Date → Bool}

/--
A scan that tests before it steps finds the first wanted day of its window.  Without
one it leaves the calendar exactly if the day after its window is past the last day.
-/
theorem testThenStep_eq
    (total : ∀ date, test date = .ok (wanted date))
    (count : Nat)
    (current : Date) :
    testThenStep test count current =
      scanOutcome ((current.daysFrom count).find? wanted) (current.number + count) := by
  induction count generalizing current with
  | zero =>
      have within := current.number_range.2
      rw [Date.daysFrom, List.find?_nil, scanOutcome_of_within (by simpa using within)]
      rfl
  | succ count inductionHypothesis =>
      cases outcome : wanted current with
      | true =>
          have passed : test current = .ok true := outcome ▸ total current
          rw [testThenStep_of_passed passed, Date.daysFrom, List.find?_cons_of_pos outcome]
          rfl
      | false =>
          have failed : test current = .ok false := outcome ▸ total current
          have refused : ¬ wanted current = true := by simp [outcome]
          cases next : current.next? with
          | none =>
              have last := Date.number_of_next?_eq_none next
              rw [testThenStep_of_last failed next, daysFrom_of_last next,
                List.find?_cons_of_neg refused, List.find?_nil, scanOutcome_of_past (by omega)]
          | some following =>
              have numbered := Date.number_of_next? next
              have sameReach :
                  following.number + count = current.number + (count + 1 : Nat) := by
                omega
              rw [testThenStep_of_failed failed next, inductionHypothesis, sameReach,
                daysFrom_succ next, List.find?_cons_of_neg refused]

/--
A scan that steps before it tests finds the first wanted day of its window.  Without
one it leaves the calendar exactly if the last day of its window is past the last day.
-/
theorem stepThenTest_eq
    (total : ∀ date, test date = .ok (wanted date))
    (count : Nat)
    (current : Date) :
    stepThenTest test count current =
      scanOutcome ((current.daysAfter count).find? wanted) (current.number + count) := by
  induction count generalizing current with
  | zero =>
      have within := current.number_range.2
      rw [daysAfter_zero, List.find?_nil, scanOutcome_of_within (by simpa using within)]
      rfl
  | succ count inductionHypothesis =>
      cases next : current.next? with
      | none =>
          have last := Date.number_of_next?_eq_none next
          rw [stepThenTest_of_last next, daysAfter_of_last next, List.find?_nil,
            scanOutcome_of_past (by omega)]
      | some following =>
          have numbered := Date.number_of_next? next
          cases outcome : wanted following with
          | true =>
              have passed : test following = .ok true := outcome ▸ total following
              rw [stepThenTest_of_passed next passed, daysAfter_succ next,
                List.find?_cons_of_pos outcome]
              rfl
          | false =>
              have failed : test following = .ok false := outcome ▸ total following
              have refused : ¬ wanted following = true := by simp [outcome]
              have sameReach :
                  following.number + count = current.number + (count + 1 : Nat) := by
                omega
              rw [stepThenTest_of_failed next failed, inductionHypothesis, sameReach,
                daysAfter_succ next, List.find?_cons_of_neg refused]

end Runs

/-- A search through a window that looks for its end only if it finds nothing is a scan. -/
theorem search_eq_scanOutcome
    {start : Date}
    {window : Nat}
    {exhausted : NoMatch}
    (found : Option Date) :
    (match found with
      | some date => .ok date
      | none =>
          match start.addDays? window with
          | some _ => .error exhausted
          | none => .error .offCalendar : Except NoMatch Date) =
      (scanOutcome found (start.number + window)).mapError (ScanFault.cause exhausted) := by
  cases found with
  | some date => rfl
  | none =>
      have startRange := start.number_range
      cases following : start.addDays? window with
      | some date =>
          have numbered := Date.ofNumber?_eq_some_iff.mp following
          rw [scanOutcome_of_within (numbered ▸ date.number_range.2)]
          rfl
      | none =>
          have past := Date.ofNumber?_eq_none_iff.mp following
          rw [scanOutcome_of_past (by omega)]
          rfl

/-- A rule whose search is a scan advances as the scan ends. -/
theorem advanceRule_eq_of_scan
    {rule : Rule}
    {start now : Moment}
    {scan : Except ScanFault Date}
    {exhausted : NoMatch}
    (scanned : rule.advance start.date now.date = scan.mapError (ScanFault.cause exhausted)) :
    advanceRule (some rule) start now =
      scan.mapError fun fault => .noMatch (fault.cause exhausted) := by
  rw [advanceRule_some, scanned]
  cases scan with
  | ok date => rfl
  | error fault => rfl

end Recurrence
