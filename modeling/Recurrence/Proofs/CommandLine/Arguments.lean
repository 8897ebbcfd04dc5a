import Mathlib.Data.List.TakeWhile
import Recurrence.CommandLine.Command
import Recurrence.Proofs.Calendar.CompactPattern
import Recurrence.Proofs.Text.IntegerText

namespace Recurrence.CommandLine

/-!
# Orders written as arguments

An order can be written as arguments, each option with its value as an argument of its own.
Whatever the values are, hyphens and equals signs in them included, the arguments are read as
the order again.  Only a count of too many digits is refused.
-/

namespace Order

/-- The options of an order with their values. -/
def given (order : Order) : List (Flag × String) :=
  (order.now.toList.map fun text => (.now, text)) ++
    (.date, order.date) :: (.rule, order.rule) ::
      ((if order.strict then [(.strict, "")] else []) ++
        [(.count, String.ofList (Text.integerText order.count))])

/-- The arguments that ask for an order. -/
def words (order : Order) : List String :=
  order.given.flatMap fun (option, value) =>
    if option.takesValue then [option.name, value] else [option.name]

end Order

section Reading

variable {value : String} {rest : List String}

theorem read_value
    {option : Flag}
    (takesValue : option.takesValue = true) :
    Arguments.read (option.name :: value :: rest) =
      (Arguments.read rest).map (Arguments.withOption option value) := by
  cases option with
  | now => rfl
  | date => rfl
  | rule => rfl
  | strict => cases takesValue
  | count => rfl
  | verbose => cases takesValue
  | help => cases takesValue

theorem read_switch
    {option : Flag}
    (isSwitch : option.takesValue = false) :
    Arguments.read (option.name :: rest) =
      (Arguments.read rest).map (Arguments.withOption option "") := by
  cases option with
  | strict => rfl
  | verbose => rfl
  | help => rfl
  | now => cases isSwitch
  | date => cases isSwitch
  | rule => cases isSwitch
  | count => cases isSwitch

end Reading

/-- Options are read from the arguments that give them, whatever their values look like. -/
theorem read_given
    {given : List (Flag × String)}
    (plainSwitches : ∀ option ∈ given, option.1.takesValue = false → option.2 = "") :
    Arguments.read (given.flatMap fun (option, value) =>
        if option.takesValue then [option.name, value] else [option.name]) =
      .ok ⟨given, []⟩ := by
  induction given with
  | nil => rfl
  | cons entry others inductionHypothesis =>
      obtain ⟨plain, othersPlain⟩ := List.forall_mem_cons.mp plainSwitches
      obtain ⟨option, value⟩ := entry
      rw [List.flatMap_cons]
      dsimp only
      cases takesValue : option.takesValue with
      | true =>
          rw [if_pos rfl, List.cons_append, List.cons_append, List.nil_append,
            read_value takesValue, inductionHypothesis othersPlain]
          rfl
      | false =>
          have noValue : value = "" := plain takesValue
          rw [if_neg Bool.false_ne_true, List.cons_append, List.nil_append,
            read_switch takesValue, inductionHypothesis othersPlain, noValue]
          rfl

section Counts

variable {digits : List Char} {count : Int}

theorem decimalDigit?_of_isDigit
    {c : Char}
    (isDigit : c.isDigit = true) :
    Text.decimalDigit? c = some (c.toNat - '0'.toNat) :=
  DigitClass.value?_decimal isDigit

/-- Digits without underscores are read one by one. -/
theorem looseDigits?_of_allDigits
    (allDigits : ∀ c ∈ digits, c.isDigit = true)
    (nonempty : digits ≠ []) :
    looseDigits? digits = some (digits.map fun c => c.toNat - '0'.toNat) := by
  induction digits with
  | nil => exact absurd rfl nonempty
  | cons c others inductionHypothesis =>
      obtain ⟨isDigit, othersDigits⟩ := List.forall_mem_cons.mp allDigits
      cases others with
      | nil =>
          rw [looseDigits?, decimalDigit?_of_isDigit isDigit]
          rfl
      | cons next more =>
          have notUnderscore : next ≠ '_' := by
            rintro rfl
            exact absurd (othersDigits '_' List.mem_cons_self) (by decide)
          rw [looseDigits?.eq_4 c next more notUnderscore, decimalDigit?_of_isDigit isDigit,
            inductionHypothesis othersDigits (List.cons_ne_nil next more)]
          rfl

theorem dropWhile_of_forall_eq_false
    {text : List Char}
    {test : Char → Bool}
    (fails : ∀ c ∈ text, test c = false) :
    text.dropWhile test = text :=
  List.dropWhile_eq_self_iff.mpr fun nonempty =>
    Bool.eq_false_iff.mp (fails _ (List.getElem_mem nonempty))

theorem unpadded_integerText
    (count : Int) :
    unpadded (Text.integerText count) = Text.integerText count := by
  have dark : ∀ c ∈ Text.integerText count, isPadding c = false := by
    intro c member
    rw [isPadding, Text.isBlank_eq_false_of_isIntegerChar
      (Text.isIntegerChar_of_mem_integerText member), Bool.false_and]
  have darkReversed : ∀ c ∈ (Text.integerText count).reverse, isPadding c = false :=
    fun c member => dark c (List.mem_reverse.mp member)
  rw [unpadded, dropWhile_of_forall_eq_false dark,
    dropWhile_of_forall_eq_false darkReversed, List.reverse_reverse]

/-- A count is read from its text, unless it has too many digits. -/
theorem readCount?_integerText
    (positive : 0 < count) :
    readCount? (Text.integerText count) =
      if (Text.naturalText count.natAbs).length ≤ Text.maxDigits then some count else none := by
  have natural : Text.integerText count = Text.naturalText count.natAbs :=
    if_neg (Int.not_lt.mpr (Int.le_of_lt positive))
  have allDigits : ∀ c ∈ Text.naturalText count.natAbs, c.isDigit = true :=
    fun _ => Text.isDigit_of_mem_naturalText
  rw [readCount?, unpadded_integerText, natural, Text.splitSign_of_digits allDigits]
  dsimp only
  rw [looseDigits?_of_allDigits allDigits (Text.naturalText_ne_nil _)]
  dsimp only
  have value :
      ((Text.naturalText count.natAbs).map fun c => c.toNat - '0'.toNat).foldl
          (fun number digit => 10 * number + digit) 0 =
        count.natAbs := by
    rw [List.foldl_map]
    exact Text.naturalOfDigits_naturalText count.natAbs
  have sameSign : Text.signed false count.natAbs = count :=
    Int.natAbs_of_nonneg (Int.le_of_lt positive)
  rw [List.length_map, value, sameSign]
  by_cases short : (Text.naturalText count.natAbs).length ≤ Text.maxDigits
  · rw [if_neg (Nat.not_lt.mpr short), if_pos short]
  · rw [if_pos (Nat.lt_of_not_le short), if_neg short]

end Counts

section Orders

/-- The text that an order has for an option. -/
def Order.value? (order : Order) : Flag → Option String
  | .now => order.now
  | .date => some order.date
  | .rule => some order.rule
  | .strict => if order.strict then some "" else none
  | .count => some (String.ofList (Text.integerText order.count))
  | .verbose => none
  | .help => none

theorem value?_given
    (order : Order)
    (option : Flag) :
    Arguments.value? ⟨order.given, []⟩ option = order.value? option := by
  obtain ⟨now, date, rule, strict, count⟩ := order
  cases now <;> cases strict <;> cases option <;> rfl

/-- The arguments of an order are read as its options. -/
theorem read_words
    (order : Order) :
    Arguments.read order.words = .ok ⟨order.given, []⟩ := by
  apply read_given
  obtain ⟨now, date, rule, strict, count⟩ := order
  cases now <;> cases strict <;> simp [Order.given, Flag.takesValue]

/-- An order whose count is not too long to be read. -/
def Order.HasShortCount (order : Order) : Prop :=
  (Text.naturalText order.count.natAbs).length ≤ Text.maxDigits

variable (isLiteral : List Char → Bool) {order : Order}

theorem count?_given_of_short
    (positive : 0 < order.count)
    (short : order.HasShortCount) :
    Order.count? ⟨order.given, []⟩ = .ok order.count := by
  have notSmall : ¬ order.count < 1 := Int.not_lt.mpr positive
  have read := readCount?_integerText positive
  rw [Order.HasShortCount] at short
  rw [if_pos short] at read
  rw [Order.count?, value?_given]
  simp only [Order.value?, String.toList_ofList, read, if_neg notSmall]

theorem count?_given_of_long
    (positive : 0 < order.count)
    (long : ¬ order.HasShortCount) :
    Order.count? ⟨order.given, []⟩ =
      .error (.countMalformed (String.ofList (Text.integerText order.count))) := by
  have read := readCount?_integerText positive
  rw [Order.HasShortCount] at long
  rw [if_neg long] at read
  rw [Order.count?, value?_given]
  simp only [Order.value?, String.toList_ofList, read]

/-- Nothing but the count of an order can be wrong. -/
theorem check_given
    {option : Flag}
    (notCount : option ≠ .count) :
    Order.check ⟨order.given, []⟩ option = none := by
  cases option with
  | date =>
      rw [Order.check, Arguments.has, value?_given]
      rfl
  | rule =>
      rw [Order.check, Arguments.has, value?_given]
      rfl
  | count => exact absurd rfl notCount
  | now => rfl
  | strict => rfl
  | verbose => rfl
  | help => rfl

theorem ofArguments_given_of_short
    (positive : 0 < order.count)
    (short : order.HasShortCount) :
    Order.ofArguments ⟨order.given, []⟩ = .ok order := by
  have count := count?_given_of_short positive short
  have nothingWrong :
      (Arguments.checkOrder ⟨order.given, []⟩).findSome? (Order.check ⟨order.given, []⟩) =
        none := by
    rw [List.findSome?_eq_none_iff]
    intro option _
    by_cases isCount : option = .count
    · rw [isCount, Order.check, count]
    · exact check_given isCount
  have strict : Arguments.has ⟨order.given, []⟩ .strict = order.strict := by
    rw [Arguments.has, value?_given, Order.value?]
    cases order.strict with
    | false => rfl
    | true => rfl
  rw [Order.ofArguments, nothingWrong]
  simp only [count, strict, value?_given, Order.value?]
  rfl

theorem ofArguments_given_of_long
    (positive : 0 < order.count)
    (long : ¬ order.HasShortCount) :
    Order.ofArguments ⟨order.given, []⟩ =
      .error (.countMalformed (String.ofList (Text.integerText order.count))) := by
  have count := count?_given_of_long positive long
  have found :
      (Arguments.checkOrder ⟨order.given, []⟩).findSome? (Order.check ⟨order.given, []⟩) =
        some (.countMalformed (String.ofList (Text.integerText order.count))) := by
    cases found : (Arguments.checkOrder ⟨order.given, []⟩).findSome?
        (Order.check ⟨order.given, []⟩) with
    | none =>
        have isChecked : Flag.count ∈ Arguments.checkOrder ⟨order.given, []⟩ :=
          List.mem_append_right _ (by decide)
        have noFault := List.findSome?_eq_none_iff.mp found .count isChecked
        rw [Order.check, count] at noFault
        cases noFault
    | some error =>
        obtain ⟨option, _, isFault⟩ := List.exists_of_findSome?_eq_some found
        by_cases isCount : option = .count
        · rw [isCount, Order.check, count] at isFault
          exact isFault.symm
        · rw [check_given isCount] at isFault
          cases isFault
  rw [Order.ofArguments, found]

theorem run_words
    (order : Order)
    (today : Date) :
    run isLiteral today order.words =
      match Order.ofArguments ⟨order.given, []⟩ with
      | .ok order => order.run isLiteral today
      | .error error => .refused error := by
  have noHelp : Arguments.has ⟨order.given, []⟩ .help = false := by
    rw [Arguments.has, value?_given]
    rfl
  rw [run, read_words]
  exact if_neg (ne_true_of_eq_false noHelp)

/-- The command carries out the order that its arguments give. -/
theorem run_words_of_short
    (positive : 0 < order.count)
    (short : order.HasShortCount)
    (today : Date) :
    run isLiteral today order.words = order.run isLiteral today := by
  rw [run_words isLiteral, ofArguments_given_of_short positive short]

/-- A count of too many digits is refused before any date is looked at. -/
theorem run_words_of_long
    (positive : 0 < order.count)
    (long : ¬ order.HasShortCount)
    (today : Date) :
    run isLiteral today order.words =
      .refused (.countMalformed (String.ofList (Text.integerText order.count))) := by
  rw [run_words isLiteral, ofArguments_given_of_long positive long]

end Orders

end Recurrence.CommandLine
