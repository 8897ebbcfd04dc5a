import Recurrence.Calendar.Arithmetic
import Recurrence.Main
import Recurrence.Report
import Recurrence.Proofs.Advance.Moments
import Recurrence.Proofs.Advance.Rebasing
import Recurrence.Proofs.Rule.CanonicalText
import Recurrence.Proofs.Scheduler.Upcoming
import Recurrence.Proofs.Text.Numeral
import Recurrence.Proofs.Rule.Acceptance
import Recurrence.Proofs.Calendar.CompactText
import Recurrence.Proofs.Calendar.CompactPattern
import Recurrence.Proofs.Scheduler.DateTexts
import Recurrence.Proofs.Rule.Overlong
import Recurrence.Proofs.Scheduler.Evaluation
import Recurrence.Proofs.Report.Completion
import Recurrence.Proofs.Report.Failures
import Recurrence.Proofs.CaseFile.DefaultIds
import Recurrence.Proofs.Calendar.CivilDay
import Recurrence.Proofs.Advance.YearWalk
import Recurrence.Proofs.Json.RoundTrip
import Recurrence.Proofs.Report.Records
import Recurrence.Proofs.Report.Accounting
import Recurrence.Proofs.Report.Rerun
import Recurrence.Proofs.Advance.DayScan
import Recurrence.Proofs.Advance.Failure
import Recurrence.Proofs.Advance.WeekdayWindow
import Recurrence.Proofs.Advance.MonthDayWindow
import Recurrence.Proofs.Advance.IntervalWalk
import Recurrence.Proofs.Advance.MonthlyReach
import Recurrence.Proofs.Scheduler.Stepping
import Recurrence.Proofs.Advance.WeeklyReach
import Recurrence.Proofs.Advance.DayUnion
import Recurrence.Proofs.Rule.Strictness
import Recurrence.Proofs.Rule.Rejection
import Recurrence.Proofs.Scheduler.CaseOutcome
import Recurrence.Proofs.Calendar.DateLayout
import Recurrence.Proofs.Scheduler.LayoutDates
import Recurrence.Proofs.CaseFile.Documents
import Recurrence.Proofs.CaseFile.Loading
import Recurrence.Proofs.Calendar.MonthEnd
import Recurrence.Proofs.Calendar.YearSteps
import Recurrence.Proofs.Json.DocumentList
import Recurrence.Proofs.CaseFile.LinesAndLists
import Recurrence.Proofs.CommandLine.TableColumn
import Recurrence.Proofs.CommandLine.PlainHeading
import Recurrence.Proofs.Rule.Characters
import Recurrence.Proofs.CommandLine.Agreement
