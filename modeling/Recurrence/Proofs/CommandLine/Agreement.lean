import Recurrence.Proofs.Calendar.DaySteps
import Recurrence.Proofs.CommandLine.PlainHeading
import Recurrence.Proofs.CommandLine.TableColumn
import Recurrence.Proofs.Rule.Characters
import Recurrence.Proofs.Scheduler.Stepping

namespace Recurrence.CommandLine

/-!
# One date and many dates

The command answers an order for several dates with a table and an order for a single date with
a line.  Both search for the first date in the same way, so that both have an answer or neither
has.  But the table has a heading, and the heading holds the rule as if it were markup.  The table
is printed exactly if the heading can be, and that only a bracket in a rule can prevent, which
is where surplus tokens are ignored.  All this holds whichever texts are literals in markup.
-/

/-- The scheduler that answers an order. -/
def Order.scheduler (order : Order) : Scheduler :=
  ⟨order.strict, .compact⟩

/-- The dates that an order asks for. -/
def Order.upcoming (order : Order) (now : Date) : Except ListingError (List String) :=
  order.scheduler.upcoming (.moment (.day now)) order.date order.rule order.count

/-- The order for a single date. -/
def Order.single (order : Order) : Order :=
  { order with count := 1 }

/--
An order and the order for a single date come to the same: both succeed, the one with the table
of all dates and the other with the line of the first of them, or both leave the same behind.
-/
structure Agrees
    (isLiteral : List Char → Bool)
    (order : Order)
    (today now : Date) :
    Prop where
  status :
    (run isLiteral today order.words).status = 0 ↔
      (run isLiteral today order.single.words).status = 0
  dates :
    (run isLiteral today order.single.words).status = 0 → ∃ first others,
      order.upcoming now = .ok (first :: others) ∧
        dateColumn (run isLiteral today order.words).output = first :: others ∧
          (run isLiteral today order.single.words).output = first ++ "\n"
  failures :
    (run isLiteral today order.single.words).status ≠ 0 →
      run isLiteral today order.words = run isLiteral today order.single.words

/-- A page can be printed if and only if its heading can. -/
theorem tablePage_of_isShown
    {isLiteral : List Char → Bool}
    {heading : String}
    (shown : IsShown isLiteral heading)
    (dates : List String) :
    ∃ heads, tablePage isLiteral heading dates = .ok (unlines (heads ++ tableLines dates)) := by
  obtain ⟨rendering, rendered, noFault⟩ := shown
  refine ⟨(wrap terminalWidth rendering.text).map String.ofList, ?_⟩
  simp only [tablePage, rendered, noFault, bind, Except.bind]
  rfl

theorem tablePage_of_render_error
    {isLiteral : List Char → Bool}
    {heading : String}
    {error : MarkupError}
    (fails : Markup.render isLiteral heading.toList = .error error)
    (dates : List String) :
    tablePage isLiteral heading dates = .error error := by
  rw [tablePage, fails]
  rfl

theorem tablePage_of_not_isShown
    {isLiteral : List Char → Bool}
    {heading : String}
    (hidden : ¬ IsShown isLiteral heading)
    (dates : List String) :
    ∃ error, tablePage isLiteral heading dates = .error error := by
  cases rendered : Markup.render isLiteral heading.toList with
  | error error => exact ⟨error, tablePage_of_render_error rendered dates⟩
  | ok rendering =>
      cases found : rendering.fault?
          (1 < (wrap terminalWidth rendering.text).length || rendering.text.contains '\t') with
      | none => exact absurd ⟨rendering, rendered, found⟩ hidden
      | some fault =>
          refine ⟨.color fault, ?_⟩
          simp only [tablePage, rendered, found, bind, Except.bind]
          rfl

/-- What is known of an order that has an answer, which begins with a first date. -/
structure Answered (order : Order) (now : Date) (first : String) : Prop where
  next :
    order.scheduler.nextDate (.moment (.day now)) order.date order.rule = .ok first
  listing : ∀ count : Int, ∃ others,
    order.scheduler.listing (.moment (.day now)) order.date order.rule count =
        .ok (first :: others) ∧
      ∀ date ∈ first :: others, IsCell date.toList
  dateDigits : Text.AllDigits order.date.toList
  ruleRead : ∃ rule, Rule.parse order.strict order.rule.toList = .ok rule

/-- What is known of an order that has none. -/
structure Failed (order : Order) (now : Date) (failure : RequestError) : Prop where
  next :
    order.scheduler.nextDate (.moment (.day now)) order.date order.rule = .error failure
  listing : ∀ count : Int,
    order.scheduler.listing (.moment (.day now)) order.date order.rule count = .error failure

section Answers

variable {isLiteral : List Char → Bool} {order : Order} {today now : Date} {first : String}
variable {failure : RequestError}

theorem isCell_writeDate
    (order : Order)
    (date : Date) :
    IsCell (order.scheduler.writeDate date).toList := by
  have text : (order.scheduler.writeDate date).toList = date.compact := String.toList_ofList
  have width := date.length_compact
  rw [text]
  apply isCell_of_allDigits date.allDigits_compact
  intro empty
  rw [empty] at width
  cases width

/-- One date and many are searched for with the same outcome. -/
theorem Order.answered_or_failed
    (order : Order)
    (now : Date) :
    (∃ first, Answered order now first) ∨ ∃ failure, Failed order now failure := by
  cases requested : order.scheduler.readRequest (.moment (.day now)) order.date order.rule with
  | error failure =>
      exact Or.inr ⟨failure, Scheduler.nextDate_of_refused requested,
        fun _ => Scheduler.listing_of_refused requested⟩
  | ok request =>
      cases advanced : request.rule.advance request.start request.now with
      | error cause =>
          exact Or.inr ⟨_, Scheduler.nextDate_of_failed requested advanced,
            fun _ => Scheduler.listing_of_failed requested advanced⟩
      | ok next =>
          obtain ⟨dateRead, _, ruleRead⟩ := Scheduler.readRequest_eq_ok_iff.mp requested
          have named : CompactlyNames order.date.toList request.start :=
            Scheduler.readDate_text_eq_ok_iff.mp dateRead
          refine Or.inl ⟨_, Scheduler.nextDate_of_found requested advanced, ?_, named.allDigits,
            request.rule, ruleRead⟩
          intro count
          refine ⟨_, Scheduler.listing_of_found requested advanced, ?_⟩
          intro date member
          rw [← List.map_cons] at member
          obtain ⟨day, _, rfl⟩ := List.mem_map.mp member
          exact isCell_writeDate order day

theorem run_single
    (known : order.reference today = .ok now) :
    run isLiteral today order.single.words = order.single.answer isLiteral now := by
  have positive : 0 < order.single.count := Int.one_pos
  have short : order.single.HasShortCount :=
    Text.length_naturalText_le_maxDigits (by decide : (1 : Int).natAbs < 1000)
  have reference : order.single.reference today = .ok now := known
  rw [run_words_of_short isLiteral positive short, Order.run, reference]

theorem run_short
    (known : order.reference today = .ok now)
    (several : 2 ≤ order.count)
    (short : order.HasShortCount) :
    run isLiteral today order.words = order.answer isLiteral now := by
  rw [run_words_of_short isLiteral (by omega) short, Order.run, known]

theorem Answered.single_eq
    (answered : Answered order now first) :
    order.single.answer isLiteral now = .printed (first ++ "\n") := by
  have next := answered.next
  rw [Order.scheduler] at next
  rw [Order.answer]
  simp only [Order.single, ↓reduceIte, next]

theorem Failed.single_eq
    (failed : Failed order now failure) :
    order.single.answer isLiteral now = .failed failure := by
  have next := failed.next
  rw [Order.scheduler] at next
  rw [Order.answer]
  simp only [Order.single, ↓reduceIte, next]

theorem Failed.answer_eq
    (failed : Failed order now failure)
    (several : 2 ≤ order.count) :
    order.answer isLiteral now = .failed failure := by
  have listing := failed.listing order.count
  have notOne : order.count ≠ 1 := by omega
  rw [Order.scheduler] at listing
  rw [Order.answer]
  simp only [if_neg notOne, listing]

/-- A request without an answer ends with status 1. -/
theorem status_failed
    (failure : RequestError) :
    (Result.failed failure).status = 1 := by
  cases failure with
  | recurrence error => rfl
  | oversized number => rfl

theorem Answered.status_single
    (isLiteral : List Char → Bool)
    (answered : Answered order now first)
    (known : order.reference today = .ok now) :
    (run isLiteral today order.single.words).status = 0 := by
  rw [run_single known, answered.single_eq]
  rfl

theorem Failed.status_single
    (isLiteral : List Char → Bool)
    (failed : Failed order now failure)
    (known : order.reference today = .ok now) :
    (run isLiteral today order.single.words).status = 1 := by
  rw [run_single known, failed.single_eq, status_failed]

theorem Answered.upcoming_eq
    (isLiteral : List Char → Bool)
    (answered : Answered order now first)
    (several : 2 ≤ order.count) :
    ∃ others, order.upcoming now = .ok (first :: others) ∧
      (∀ date ∈ first :: others, IsCell date.toList) ∧
        order.answer isLiteral now =
          match tablePage isLiteral (heading order now) (first :: others) with
          | .ok page => .printed page
          | .error error => .crashed (.markup error) := by
  obtain ⟨others, listing, areCells⟩ := answered.listing order.count
  have notOne : order.count ≠ 1 := by omega
  have notSmall : ¬ order.count < 1 := by omega
  refine ⟨others, ?_, areCells, ?_⟩
  · rw [Order.upcoming, Scheduler.upcoming, if_neg notSmall, listing]
    rfl
  · rw [Order.scheduler] at listing
    rw [Order.answer]
    cases page : tablePage isLiteral (heading order now) (first :: others) with
    | error error => simp only [if_neg notOne, listing, page]
    | ok text => simp only [if_neg notOne, listing, page]

theorem Failed.upcoming_eq
    (failed : Failed order now failure)
    (several : 2 ≤ order.count) :
    order.upcoming now = .error (.request failure) := by
  have notSmall : ¬ order.count < 1 := by omega
  rw [Order.upcoming, Scheduler.upcoming, if_neg notSmall, failed.listing order.count]
  rfl

/-- An order without an answer leaves the same behind, whatever its count is. -/
theorem Failed.agrees
    (failed : Failed order now failure)
    (known : order.reference today = .ok now)
    (several : 2 ≤ order.count)
    (short : order.HasShortCount) :
    Agrees isLiteral order today now := by
  have same : run isLiteral today order.words = run isLiteral today order.single.words := by
    rw [run_short known several short, run_single known, failed.answer_eq several,
      failed.single_eq]
  have fails : (run isLiteral today order.single.words).status ≠ 0 := by
    rw [failed.status_single isLiteral known]
    decide
  exact ⟨by rw [same], fun succeeds => absurd succeeds fails, fun _ => same⟩

/-- An order with an answer is printed with all its dates if its heading can be printed. -/
theorem Answered.agrees
    (answered : Answered order now first)
    (known : order.reference today = .ok now)
    (several : 2 ≤ order.count)
    (short : order.HasShortCount)
    (shown : IsShown isLiteral (heading order now)) :
    Agrees isLiteral order today now := by
  obtain ⟨others, listed, areCells, answer⟩ := answered.upcoming_eq isLiteral several
  obtain ⟨heads, page⟩ := tablePage_of_isShown shown (first :: others)
  rw [page] at answer
  have many :
      run isLiteral today order.words =
        .printed (unlines (heads ++ tableLines (first :: others))) :=
    (run_short known several short).trans answer
  have one : run isLiteral today order.single.words = .printed (first ++ "\n") :=
    (run_single known).trans answered.single_eq
  constructor
  case status =>
    rw [many, one]
    exact Iff.rfl
  case dates =>
    intro _
    refine ⟨first, others, listed, ?_, ?_⟩
    · rw [many]
      exact dateColumn_unlines heads areCells
    · rw [one]
      rfl
  case failures => exact fun fails => absurd (answered.status_single isLiteral known) fails

/-- A count that cannot be read is refused, whether there is an answer or not. -/
theorem Agrees.hasShortCount
    (agrees : Agrees isLiteral order today now)
    (known : order.reference today = .ok now)
    (several : 2 ≤ order.count) :
    order.HasShortCount := by
  apply Classical.byContradiction
  intro long
  have refused := run_words_of_long isLiteral (by omega) long today
  rcases order.answered_or_failed now with ⟨first, answered⟩ | ⟨failure, failed⟩
  · have alsoSucceeds := agrees.status.mpr (answered.status_single isLiteral known)
    rw [refused] at alsoSucceeds
    cases alsoSucceeds
  · have one := failed.status_single isLiteral known
    have same := agrees.failures (by rw [one]; decide)
    rw [← same, refused] at one
    cases one

/-- Where the heading cannot be printed, the command breaks off although there is an answer. -/
theorem Agrees.isShown
    (agrees : Agrees isLiteral order today now)
    (known : order.reference today = .ok now)
    (several : 2 ≤ order.count)
    (answered : Answered order now first) :
    IsShown isLiteral (heading order now) := by
  apply Classical.byContradiction
  intro hidden
  have short := agrees.hasShortCount known several
  obtain ⟨others, _, _, answer⟩ := answered.upcoming_eq isLiteral several
  obtain ⟨error, noPage⟩ := tablePage_of_not_isShown hidden (first :: others)
  rw [noPage] at answer
  have alsoSucceeds := agrees.status.mpr (answered.status_single isLiteral known)
  rw [run_short known several short, answer] at alsoSucceeds
  cases alsoSucceeds

/-- In an order that has an answer only surplus tokens can have a bracket. -/
theorem Answered.isShown
    (answered : Answered order now first)
    (plain : order.strict = true ∨ ¬ HasSurplus (Text.splitOn ' ' order.rule.toList) ∨
      '[' ∉ order.rule.toList) :
    IsShown isLiteral (heading order now) := by
  have ruleFree : '[' ∉ order.rule.toList := by
    intro member
    obtain ⟨rule, read⟩ := answered.ruleRead
    have noSurplus : order.strict = true ∨ ¬ HasSurplus (Text.splitOn ' ' order.rule.toList) := by
      rcases plain with isStrict | noSurplus | free
      · exact Or.inl isStrict
      · exact Or.inr noSurplus
      · exact absurd member free
    exact absurd (Rule.isRuleText_of_parse read noSurplus '[' member) (by decide)
  exact isShown_heading ruleFree (fun member => absurd (answered.dateDigits '[' member) (by decide))
    (fun member => absurd (now.allDigits_compact '[' member) (by decide))

end Answers

/--
The command with a count and the command for a single date agree exactly if the count is not too
long to be read and, where there are dates to be printed, their heading can be printed.  That it
can be is certain where no surplus token of the rule has an opening bracket.
-/
theorem agrees_iff
    (isLiteral : List Char → Bool)
    {order : Order}
    {today now : Date}
    (known : order.reference today = .ok now)
    (several : 2 ≤ order.count) :
    (Agrees isLiteral order today now ↔
        order.HasShortCount ∧
          ((∃ dates, order.upcoming now = .ok dates) → IsShown isLiteral (heading order now))) ∧
      (order.strict = true ∨ ¬ HasSurplus (Text.splitOn ' ' order.rule.toList) ∨
          '[' ∉ order.rule.toList →
        (∃ dates, order.upcoming now = .ok dates) → IsShown isLiteral (heading order now)) := by
  rcases order.answered_or_failed now with ⟨first, answered⟩ | ⟨failure, failed⟩
  · obtain ⟨others, listed, _⟩ := answered.upcoming_eq isLiteral several
    refine ⟨⟨?_, ?_⟩, fun plain _ => answered.isShown plain⟩
    · intro agrees
      exact ⟨agrees.hasShortCount known several, fun _ => agrees.isShown known several answered⟩
    · rintro ⟨short, shown⟩
      exact answered.agrees known several short (shown ⟨_, listed⟩)
  · have noDates : ¬ ∃ dates, order.upcoming now = .ok dates := by
      rw [failed.upcoming_eq several]
      exact nofun
    refine ⟨⟨?_, ?_⟩, fun _ answered => absurd answered noDates⟩
    · intro agrees
      exact ⟨agrees.hasShortCount known several, fun answered => absurd answered noDates⟩
    · rintro ⟨short, _⟩
      exact failed.agrees known several short

/-- The first day of 2024. -/
def newYear : Date :=
  .ofParts 2024 1 1 (by decide)

/-- Mondays and Wednesdays, three of them. -/
def weekdays : Order :=
  ⟨some "20240101", "20240101", "w 1,3", false, 3⟩

/-- A yearly rule with a surplus token that is a closing tag. -/
def strayTag : Order :=
  ⟨some "20240101", "20240101", "y [/i]", false, 2⟩

/-- The dates of a rule without surplus tokens are printed. -/
theorem agrees_iff_weekdays :
    weekdays.reference newYear = .ok newYear ∧ 2 ≤ weekdays.count ∧
      ∀ isLiteral : List Char → Bool,
        Agrees isLiteral weekdays newYear newYear ∧
          (run isLiteral newYear weekdays.single.words).output = "20240103\n" ∧
            dateColumn (run isLiteral newYear weekdays.words).output =
              ["20240103", "20240108", "20240110"] := by
  have known : weekdays.reference newYear = .ok newYear := by decide +kernel
  have several : 2 ≤ weekdays.count := by decide
  have short : weekdays.HasShortCount :=
    Text.length_naturalText_le_maxDigits (by decide : (3 : Int).natAbs < 1000)
  have plain : '[' ∉ weekdays.rule.toList := by decide
  have upcoming : weekdays.upcoming newYear = .ok ["20240103", "20240108", "20240110"] := by
    decide +kernel
  refine ⟨known, several, fun isLiteral => ?_⟩
  obtain ⟨agrees, shown⟩ := agrees_iff isLiteral known several
  have together := agrees.mpr ⟨short, shown (Or.inr (Or.inr plain))⟩
  rcases weekdays.answered_or_failed newYear with ⟨first, answered⟩ | ⟨failure, failed⟩
  · have succeeds := answered.status_single isLiteral known
    obtain ⟨first, others, dates, column, line⟩ := together.dates succeeds
    cases upcoming.symm.trans dates
    exact ⟨together, line, column⟩
  · cases upcoming.symm.trans (failed.upcoming_eq several)

/-- A surplus token that is a closing tag breaks off the command that prints a table. -/
theorem strayTag_not_agrees :
    strayTag.reference newYear = .ok newYear ∧ 2 ≤ strayTag.count ∧
      ∀ isLiteral : List Char → Bool,
        run isLiteral newYear strayTag.single.words = .printed "20250101\n" ∧
          run isLiteral newYear strayTag.words = .crashed (.markup .notOpen) ∧
            ¬ Agrees isLiteral strayTag newYear newYear := by
  have known : strayTag.reference newYear = .ok newYear := by decide +kernel
  have several : 2 ≤ strayTag.count := by decide
  have short : strayTag.HasShortCount :=
    Text.length_naturalText_le_maxDigits (by decide : (2 : Int).natAbs < 1000)
  have next :
      strayTag.scheduler.nextDate (.moment (.day newYear)) strayTag.date strayTag.rule =
        .ok "20250101" := by
    decide +kernel
  have rule : strayTag.rule.toList = ['y', ' '] ++ '[' :: '/' :: (['i'] ++ ']' :: []) := by
    decide
  have key : TextStyle.key (Text.trim ['i']) = .ok "italic".toList := by decide +kernel
  refine ⟨known, several, fun isLiteral => ?_⟩
  have render : Markup.render isLiteral (heading strayTag newYear).toList = .error .notOpen :=
    render_heading_of_closing rule (by decide) (by simp) (by simp) (by decide) (by decide) key
      (by decide)
  rcases strayTag.answered_or_failed newYear with ⟨first, answered⟩ | ⟨failure, failed⟩
  · have isFirst : first = "20250101" := by
      have same := answered.next.symm.trans next
      cases same
      rfl
    subst isFirst
    have one : run isLiteral newYear strayTag.single.words = .printed ("20250101" ++ "\n") :=
      (run_single known).trans answered.single_eq
    obtain ⟨others, _, _, answer⟩ := answered.upcoming_eq isLiteral several
    rw [tablePage_of_render_error render] at answer
    have many : run isLiteral newYear strayTag.words = .crashed (.markup .notOpen) :=
      (run_short known several short).trans answer
    refine ⟨one, many, ?_⟩
    intro agrees
    have succeeds := agrees.status.mpr (answered.status_single isLiteral known)
    rw [many] at succeeds
    cases succeeds
  · have impossible := failed.next.symm.trans next
    cases impossible

end Recurrence.CommandLine
