import Recurrence.Proofs.Report.Records
import Recurrence.Proofs.Scheduler.Evaluation
import Recurrence.Report

namespace Recurrence

/-!
# Which batches come to an end

A batch reports on all its cases, or on none.  It stops at the first case whose
evaluation gives up on its rule text, or else before it writes a broken text.  Nothing
else about a case stops it.
-/

namespace Summary

variable {outcomes : List Outcome}

/-- The kinds of the outcomes that have one, in order. -/
def kindsOf (outcomes : List Outcome) : List Wording :=
  outcomes.filterMap Outcome.errorKind

/-- The kinds of the failures are the kinds that outcomes have. -/
theorem failureKinds_eq
    (haveKinds : ∀ outcome ∈ outcomes, outcome.errorKind.isSome = outcome.error.isSome) :
    failureKinds outcomes = (kindsOf outcomes).map some := by
  induction outcomes with
  | nil => rfl
  | cons outcome others inductionHypothesis =>
      obtain ⟨hasKind, othersHave⟩ := List.forall_mem_cons.mp haveKinds
      have othersSame := inductionHypothesis othersHave
      rw [failureKinds] at othersSame ⊢
      rw [kindsOf] at othersSame ⊢
      cases errorOf : outcome.error with
      | none =>
          rw [errorOf, Option.isSome_none, Option.isSome_eq_false_iff,
            Option.isNone_iff_eq_none] at hasKind
          have computed : outcome.isOk = true := by rw [Outcome.isOk, errorOf]; rfl
          rw [List.filter_cons_of_neg (by simp [computed]), List.filterMap_cons_none hasKind]
          exact othersSame
      | some error =>
          rw [errorOf, Option.isSome_some, Option.isSome_iff_exists] at hasKind
          obtain ⟨kind, kindOf⟩ := hasKind
          have failed : outcome.isOk = false := by rw [Outcome.isOk, errorOf]; rfl
          rw [List.filter_cons_of_pos (by simp [failed]), List.filterMap_cons_some kindOf,
            List.map_cons, List.map_cons, kindOf, othersSame]

/-- Outcomes with a kind for every error can be counted. -/
theorem ofOutcomes_eq
    (haveKinds : ∀ outcome ∈ outcomes, outcome.errorKind.isSome = outcome.error.isSome) :
    ofOutcomes outcomes =
      .ok ⟨outcomes.length, outcomes.countP Outcome.isOk, (kindsOf outcomes).length,
        tally (kindsOf outcomes)⟩ := by
  have noneUnnamed : ((kindsOf outcomes).map some).countP Option.isNone = 0 := by
    simp [List.countP_eq_zero]
  have allNamed : ((kindsOf outcomes).map some).filterMap id = kindsOf outcomes := by
    simp [List.filterMap_map]
  have counted : countKinds ((kindsOf outcomes).map some) = .ok (tally (kindsOf outcomes)) := by
    simp only [countKinds, noneUnnamed, allNamed, ↓reduceIte]
  rw [ofOutcomes, failureKinds_eq haveKinds, counted, List.length_map]
  rfl

/-- Failures that have kinds can be counted. -/
theorem exists_ofOutcomes
    (kinds : ∀ outcome ∈ outcomes, outcome.errorKind.isSome = outcome.error.isSome) :
    ∃ summary, ofOutcomes outcomes = .ok summary :=
  ⟨_, ofOutcomes_eq kinds⟩

end Summary

namespace Report

section Cases

variable {scheduler : Scheduler} {today : Date} {cases : List Case} {outcomes : List Outcome}

/-- Cases are evaluated one by one. -/
theorem evaluateAll_eq_ok_iff :
    evaluateAll scheduler today cases = .ok outcomes ↔
      List.Forall₂ (fun request outcome => scheduler.evaluate today request = .ok outcome)
        cases outcomes := by
  induction cases generalizing outcomes with
  | nil => simp [evaluateAll, List.forall₂_nil_left_iff, eq_comm]
  | cons request others inductionHypothesis =>
      rw [List.forall₂_cons_left_iff]
      simp only [evaluateAll, bind_eq_ok_iff, mapError_eq_ok_iff, inductionHypothesis, pure,
        Except.pure, Except.ok.injEq]
      constructor
      · rintro ⟨outcome, evaluated, rest, othersEvaluated, rfl⟩
        exact ⟨outcome, rest, evaluated, othersEvaluated, rfl⟩
      · rintro ⟨outcome, rest, evaluated, othersEvaluated, rfl⟩
        exact ⟨outcome, evaluated, rest, othersEvaluated, rfl⟩

/-- The outcomes of evaluated cases are those of the cases, each with a kind for its error. -/
theorem outcomes_of_evaluateAll
    (evaluated : evaluateAll scheduler today cases = .ok outcomes) :
    outcomes.map Outcome.input = cases ∧
      ∀ outcome ∈ outcomes, outcome.errorKind.isSome = outcome.error.isSome := by
  rw [evaluateAll_eq_ok_iff] at evaluated
  induction evaluated with
  | nil => exact ⟨rfl, List.forall_mem_nil _⟩
  | cons first _ inductionHypothesis =>
      obtain ⟨sameInput, hasKind⟩ := Scheduler.evaluate_eq_ok first
      obtain ⟨sameInputs, haveKinds⟩ := inductionHypothesis
      exact ⟨by rw [List.map_cons, sameInput, sameInputs],
        List.forall_mem_cons.mpr ⟨hasKind, haveKinds⟩⟩

/-- Outcomes have whole texts exactly if their cases have. -/
theorem isWhole_outcomes_iff
    (evaluated : evaluateAll scheduler today cases = .ok outcomes) :
    (∀ outcome ∈ outcomes, outcome.IsWhole) ↔ ∀ request ∈ cases, request.IsWhole := by
  rw [evaluateAll_eq_ok_iff] at evaluated
  induction evaluated with
  | nil => exact iff_of_true (List.forall_mem_nil _) (List.forall_mem_nil _)
  | cons first _ inductionHypothesis =>
      rw [List.forall_mem_cons, List.forall_mem_cons, inductionHypothesis,
        Scheduler.isWhole_iff_of_evaluate first]

/-- A report is made of the outcomes of all cases, their records and their summary. -/
theorem ofCases_eq_ok_iff
    {report : Report} :
    ofCases scheduler today cases = .ok report ↔
      evaluateAll scheduler today cases = .ok report.outcomes ∧
        Outcome.records report.outcomes = .ok report.recordsText ∧
          Summary.ofOutcomes report.outcomes = .ok report.summary := by
  simp only [ofCases, bind_eq_ok_iff, mapError_eq_ok_iff, pure, Except.pure, Except.ok.injEq]
  constructor
  · rintro ⟨outcomes, evaluated, recordsText, recorded, summary, summarized, rfl⟩
    exact ⟨evaluated, recorded, summarized⟩
  · rintro ⟨evaluated, recorded, summarized⟩
    exact ⟨_, evaluated, _, recorded, _, summarized, rfl⟩

/-- A report is made exactly of the outcomes of all cases, if these have whole texts. -/
theorem ofCases_outcomes_iff :
    (∃ report, ofCases scheduler today cases = .ok report ∧ report.outcomes = outcomes) ↔
      evaluateAll scheduler today cases = .ok outcomes ∧
        ∀ outcome ∈ outcomes, outcome.IsWhole := by
  simp only [ofCases_eq_ok_iff]
  constructor
  · rintro ⟨report, ⟨evaluated, recorded, _⟩, rfl⟩
    exact ⟨evaluated, (Outcome.records_eq_ok_iff.mp recorded).1⟩
  · rintro ⟨evaluated, whole⟩
    obtain ⟨summary, summarized⟩ :=
      Summary.exists_ofOutcomes (outcomes_of_evaluateAll evaluated).2
    exact ⟨⟨outcomes, _, summary⟩, ⟨evaluated, Outcome.records_of_isWhole whole, summarized⟩, rfl⟩

/-- All cases have outcomes exactly if no evaluation gives up. -/
theorem exists_evaluateAll_iff :
    (∃ outcomes, evaluateAll scheduler today cases = .ok outcomes) ↔
      ∀ request ∈ cases, ∀ number, ¬ scheduler.GivesUpOn today request number := by
  simp only [← Scheduler.exists_evaluate_iff, evaluateAll_eq_ok_iff]
  constructor
  · rintro ⟨outcomes, evaluated⟩
    exact fun request member => exists_of_forall₂ evaluated member
  · exact exists_forall₂

/-- Cases have a report exactly if no evaluation gives up and all texts are whole. -/
theorem exists_ofCases_iff :
    (∃ report, ofCases scheduler today cases = .ok report ∧
        report.outcomes.map Outcome.input = cases) ↔
      (∀ request ∈ cases, ∀ number, ¬ scheduler.GivesUpOn today request number) ∧
        ∀ request ∈ cases, request.IsWhole := by
  rw [← exists_evaluateAll_iff]
  constructor
  · rintro ⟨report, made, _⟩
    obtain ⟨evaluated, whole⟩ := ofCases_outcomes_iff.mp ⟨report, made, rfl⟩
    exact ⟨⟨_, evaluated⟩, (isWhole_outcomes_iff evaluated).mp whole⟩
  · rintro ⟨⟨outcomes, evaluated⟩, whole⟩
    obtain ⟨report, made, rfl⟩ :=
      ofCases_outcomes_iff.mpr ⟨evaluated, (isWhole_outcomes_iff evaluated).mpr whole⟩
    exact ⟨report, made, (outcomes_of_evaluateAll evaluated).1⟩

theorem ofText_of_loaded
    {path : String}
    {text : List Char}
    (loaded : CaseFile.loadText path text = .ok cases) :
    ofText scheduler today path text = ofCases scheduler today cases := by
  rw [ofText, loaded]
  rfl

end Cases

end Report

/-- What is refused as a rule is refused with an error on rules. -/
theorem RuleError.ruleParse_mem_families
    (error : RuleError) :
    ErrorKind.ruleParse ∈ error.kind.families := by
  cases error <;> decide

theorem Rule.parse_ok_or_refused_iff
    {strict : Bool}
    {text : List Char} :
    ((∃ rule, Rule.parse strict text = .ok rule) ∨
        ∃ error, Rule.parse strict text = .error (.rule error) ∧
          ErrorKind.ruleParse ∈ error.kind.families) ↔
      ∀ number, ¬ Rule.Overlong strict number (Text.splitOn ' ' text) := by
  simp only [← parse_eq_oversized_iff]
  cases Rule.parse strict text with
  | ok rule => simp
  | error failure =>
      cases failure with
      | rule error => simp [error.ruleParse_mem_families]
      | oversized number => simp

/--
A case has an outcome unless its evaluation gives up on its rule text, which must then
have more than 4300 characters.  A case file that can be loaded has a report with one
outcome for every case unless this happens to some case, or a text of some case is broken.
A rule text on which reading does not give up is either read, or refused with an error
on rules.
-/
theorem Report.batch_completes_iff
    (scheduler : Scheduler)
    (today : Date) :
    (∀ request,
        (∃ outcome, scheduler.evaluate today request = .ok outcome ∧ outcome.input = request) ↔
          ∀ number, ¬ scheduler.GivesUpOn today request number) ∧
      (∀ request : Case, request.rule.legible.toList.length ≤ 4300 →
        ∃ outcome, scheduler.evaluate today request = .ok outcome) ∧
      (∀ path text cases, CaseFile.loadText path text = .ok cases →
        ((∃ report, Report.ofText scheduler today path text = .ok report ∧
            report.outcomes.map Outcome.input = cases) ↔
          (∀ request ∈ cases, ∀ number, ¬ scheduler.GivesUpOn today request number) ∧
            ∀ request ∈ cases, request.IsWhole)) ∧
      (∀ text,
        ((∃ rule, Rule.parse scheduler.strict text = .ok rule) ∨
            ∃ error, Rule.parse scheduler.strict text = .error (.rule error) ∧
              ErrorKind.ruleParse ∈ error.kind.families) ↔
          ∀ number, ¬ Rule.Overlong scheduler.strict number (Text.splitOn ' ' text)) := by
  refine ⟨?_, fun request => Scheduler.exists_evaluate_of_length_le, ?_,
    fun text => Rule.parse_ok_or_refused_iff⟩
  · intro request
    rw [← Scheduler.exists_evaluate_iff]
    constructor
    · rintro ⟨outcome, evaluated, _⟩
      exact ⟨outcome, evaluated⟩
    · rintro ⟨outcome, evaluated⟩
      exact ⟨outcome, evaluated, (Scheduler.evaluate_eq_ok evaluated).1⟩
  · intro path text cases loaded
    rw [Report.ofText_of_loaded loaded]
    exact Report.exists_ofCases_iff

/-- A case that fails, and a case that does not. -/
def mixedFile : String :=
  "[\x7b\"date\":\"20240101\",\"repeat\":\"w 8\"\x7d," ++
    "\x7b\"date\":\"20240101\",\"repeat\":\"w 1\",\"now\":\"20240101\"\x7d]"

/-- The cases of the file. -/
def mixedCases : List Case :=
  [⟨"0", "20240101", "w 8", none⟩, ⟨"1", "20240101", "w 1", some "20240101"⟩]

theorem loadText_mixedFile :
    CaseFile.loadText "c.json" mixedFile.toList = .ok mixedCases := by
  apply eq_ok_of_toOption
  decide +kernel

/-- A case whose rule text is half of a surrogate pair. -/
def brokenFile : String :=
  "[\x7b\"date\":\"20240101\",\"repeat\":\"\\ud800\"\x7d]"

/-- The case of the file. -/
def brokenCase : Case :=
  ⟨"0", "20240101", .broken [0xD800] rfl, none⟩

theorem loadText_brokenFile :
    CaseFile.loadText "c.json" brokenFile.toList = .ok [brokenCase] := by
  apply eq_ok_of_toOption
  decide +kernel

/-- A batch goes on after a case that fails, and stops at a text that cannot be written. -/
theorem Report.batch_completes_mixed :
    (∃ cases, CaseFile.loadText "c.json" mixedFile.toList = .ok cases ∧
      ∃ report, Report.ofText .default leapDay "c.json" mixedFile.toList = .ok report ∧
        report.outcomes.map Outcome.input = cases) ∧
      ∃ request, CaseFile.loadText "c.json" brokenFile.toList = .ok [request] ∧
        (∃ outcome, Scheduler.default.evaluate leapDay request = .ok outcome) ∧
        ¬ ∃ report, Report.ofText .default leapDay "c.json" brokenFile.toList = .ok report ∧
          report.outcomes.map Outcome.input = [request] := by
  obtain ⟨ofCase, short, ofFile, _⟩ := batch_completes_iff .default leapDay
  constructor
  · refine ⟨_, loadText_mixedFile, (ofFile _ _ _ loadText_mixedFile).mpr ⟨?_, by decide⟩⟩
    intro request member
    have brief : request.rule.legible.toList.length ≤ 4300 := by
      rcases List.mem_pair.mp member with rfl | rfl
      · decide
      · decide
    obtain ⟨outcome, evaluated⟩ := short request brief
    exact (ofCase request).mp ⟨outcome, evaluated, (Scheduler.evaluate_eq_ok evaluated).1⟩
  · refine ⟨_, loadText_brokenFile, short _ (by decide), ?_⟩
    rw [ofFile _ _ _ loadText_brokenFile]
    rintro ⟨_, whole⟩
    exact absurd (whole _ List.mem_cons_self).rule Bool.false_ne_true

/-- A daily rule text is overlong if its interval has too many digits. -/
theorem Rule.overlong_replicate
    (strict : Bool)
    {count : Nat}
    (long : Text.maxDigits < count) :
    Rule.Overlong strict ⟨count⟩
      (Text.splitOn ' ' ('d' :: ' ' :: List.replicate count '1')) := by
  have ones : ∀ c ∈ List.replicate count '1', c = '1' := fun c => List.eq_of_mem_replicate
  have noSpace : ' ' ∉ List.replicate count '1' := fun member =>
    absurd (ones ' ' member) (by decide)
  have number : Text.IsNumber (List.replicate count '1') := by
    refine ⟨List.ne_nil_of_length_pos ?_, fun c member => ?_⟩
    · rw [List.length_replicate]
      omega
    · rw [ones c member]
      decide
  have tokens :
      Text.splitOn ' ' ('d' :: ' ' :: List.replicate count '1') =
        [['d'], List.replicate count '1'] := by
    have dayLetter : ' ' ∉ ['d'] := by decide
    have cut := Text.splitOn_append_cons dayLetter (List.replicate count '1')
    rwa [Text.splitOn_eq_singleton noSpace] at cut
  have width : (List.replicate count '1').length = count := List.length_replicate
  rw [tokens]
  exact .interval ⟨_, _, .unsigned number, by rwa [width], by rw [width]⟩

/-- A case with good dates, and a daily rule with an interval of 4301 ones. -/
def overlongCase : Case :=
  ⟨"a", "20240101", String.ofList ('d' :: ' ' :: List.replicate 4301 '1'), some "20240101"⟩

/-- The case has no outcome: its rule text is neither read nor refused as a rule. -/
theorem Report.overlongCase_stops :
    Scheduler.default.evaluate leapDay overlongCase = .error ⟨4301⟩ ∧
      Rule.parse false overlongCase.rule.legible.toList = .error (.oversized ⟨4301⟩) ∧
      Report.ofCases .default leapDay [overlongCase] = .error (.oversized ⟨4301⟩) := by
  have overlong :
      Rule.Overlong false ⟨4301⟩ (Text.splitOn ' ' overlongCase.rule.legible.toList) := by
    rw [overlongCase, Wording.legible, String.toList_ofList]
    exact Rule.overlong_replicate false (by decide)
  have stopped : Scheduler.default.evaluate leapDay overlongCase = .error ⟨4301⟩ :=
    Scheduler.evaluate_eq_error_iff.mpr ⟨⟨_, rfl⟩, ⟨_, rfl⟩, overlong⟩
  refine ⟨stopped, Rule.parse_eq_oversized_iff.mpr overlong, ?_⟩
  rw [Report.ofCases, Report.evaluateAll, stopped]
  rfl

end Recurrence
