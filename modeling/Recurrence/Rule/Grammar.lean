import Mathlib.Data.List.Forall2
import Recurrence.Rule.Basic

namespace Recurrence

/-!
# The grammar of rule texts

Which texts are rule texts, and which rule each of them describes, without a word
about how they are read.  The grammar is one of tokens: the pieces of a text
between single spaces.  It leaves open what counts as an integer, because a reader
may refuse integers that are too long.
-/

namespace Text

/-- ASCII digits, at least one. -/
structure IsNumber (digits : List Char) : Prop where
  nonempty : digits ≠ []
  allDigits : ∀ c ∈ digits, c.isDigit = true

/-- A text is wholly some digits after an optional sign, and has a value. -/
inductive SignedDigits : List Char → List Char → Int → Prop where
  | unsigned {digits : List Char} (number : IsNumber digits) :
      SignedDigits digits digits (naturalOfDigits digits)
  | plus {digits : List Char} (number : IsNumber digits) :
      SignedDigits ('+' :: digits) digits (naturalOfDigits digits)
  | minus {digits : List Char} (number : IsNumber digits) :
      SignedDigits ('-' :: digits) digits (-(naturalOfDigits digits : Int))

/-- A text is an integer, of any length. -/
def IsInteger (text : List Char) (value : Int) : Prop :=
  ∃ digits, SignedDigits text digits value

/-- A text is an integer that is not too long to be read. -/
def IsShortInteger (text : List Char) (value : Int) : Prop :=
  ∃ digits, SignedDigits text digits value ∧ digits.length ≤ maxDigits

/-- A text is an integer with the given number of digits, too many to be read. -/
def IsOversized (text : List Char) (number : Oversized) : Prop :=
  ∃ digits value, SignedDigits text digits value ∧ maxDigits < digits.length ∧
    number = ⟨digits.length⟩

end Text

/-- The items of a list token between its commas are integers with allowed values. -/
structure Lists
    (reads : List Char → Int → Prop)
    (IsAllowed : Int → Prop)
    (token : List Char)
    (values : List Int) : Prop where
  items : List.Forall₂ reads (Text.splitOn ',' token) values
  allowed : ∀ value ∈ values, IsAllowed value

/-- A list token lists something. -/
theorem Lists.ne_nil
    {reads : List Char → Int → Prop}
    {IsAllowed : Int → Prop}
    {token : List Char}
    {values : List Int}
    (listed : Lists reads IsAllowed token values) :
    values ≠ [] := by
  rintro rfl
  exact Text.splitOn_ne_nil ',' token (List.forall₂_nil_right_iff.mp listed.items)

theorem IntegerSet.toList_ofList_ne_nil
    {values : List Int}
    (nonempty : values ≠ []) :
    (ofList values).toList ≠ [] := by
  obtain ⟨value, others, rfl⟩ := List.exists_cons_of_ne_nil nonempty
  exact List.ne_nil_of_mem (IntegerSet.mem_ofList.mpr List.mem_cons_self)

/-- The weekly rule of the set of some days of the week. -/
def Weekly.ofValues
    (values : List Int)
    (nonempty : values ≠ [])
    (range : ∀ day ∈ values, IsWeekday day) :
    Weekly where
  weekdays := .ofList values
  weekdays_ne_nil := IntegerSet.toList_ofList_ne_nil nonempty
  weekdays_range day member := range day (IntegerSet.mem_ofList.mp member)

/-- The monthly rule of the set of some month days and the set of some months. -/
def Monthly.ofValues
    (days months : List Int)
    (nonempty : days ≠ [])
    (daysRange : ∀ day ∈ days, IsMonthDay day)
    (monthsRange : ∀ month ∈ months, IsMonth month) :
    Monthly where
  days := .ofList days
  months := .ofList months
  days_ne_nil := IntegerSet.toList_ofList_ne_nil nonempty
  days_range day member := daysRange day (IntegerSet.mem_ofList.mp member)
  months_range month member := monthsRange month (IntegerSet.mem_ofList.mp member)

/-- Reading an item without the white space around it. -/
def trimmed (reads : List Char → Int → Prop) (item : List Char) (value : Int) : Prop :=
  reads (Text.trim item) value

/-- Tokens that describe a rule.  Only a lenient reading ignores surplus tokens. -/
inductive Rule.Grammar
    (reads : List Char → Int → Prop)
    (strict : Bool) :
    List (List Char) → Rule → Prop where
  | daily {interval : List Char} {days : Int}
      (reading : reads interval days)
      (range : IsDayInterval days) :
      Grammar reads strict [['d'], interval] (.daily ⟨days, range⟩)
  | yearly {surplus : List (List Char)}
      (ignored : strict = true → surplus = []) :
      Grammar reads strict (['y'] :: surplus) .yearly
  | weekly {token : List Char} {days : List Int}
      (listed : Lists reads IsWeekday token days) :
      Grammar reads strict [['w'], token]
        (.weekly (.ofValues days listed.ne_nil listed.allowed))
  | everyMonth {token : List Char} {days : List Int}
      (listed : Lists (trimmed reads) IsMonthDay token days) :
      Grammar reads strict [['m'], token]
        (.monthly (.ofValues days [] listed.ne_nil listed.allowed (by simp)))
  | someMonths {dayToken monthToken : List Char} {days months : List Int}
      {surplus : List (List Char)}
      (listedDays : Lists (trimmed reads) IsMonthDay dayToken days)
      (listedMonths : Lists (trimmed reads) IsMonth monthToken months)
      (ignored : strict = true → surplus = []) :
      Grammar reads strict (['m'] :: dayToken :: monthToken :: surplus)
        (.monthly (.ofValues days months listedDays.ne_nil listedDays.allowed
          listedMonths.allowed))

/--
Some item of a text is an integer that is too long to be read.  Items are what
stands between the commas of a token, without the white space around it.
-/
def HasOversizedItem (text : List Char) : Prop :=
  ∃ token ∈ Text.splitOn ' ' text, ∃ item ∈ Text.splitOn ',' token,
    ∃ number, Text.IsOversized (Text.trim item) number

/-- A text begins or ends with a space, or has two spaces side by side. -/
def HasStraySpace (text : List Char) : Prop :=
  (∃ rest, text = ' ' :: rest) ∨ (∃ start, text = start ++ [' ']) ∨
    ∃ start rest, text = start ++ ' ' :: ' ' :: rest

/-- Two tokens have the same items, in whatever order and however often. -/
def SameItems (token other : List Char) : Prop :=
  ∀ item, item ∈ Text.splitOn ',' token ↔ item ∈ Text.splitOn ',' other

/-- Two texts of a kind of rules that has lists differ in no more than the order of list items. -/
def SameLists (text other : List Char) : Prop :=
  ∃ letter lists otherLists, letter ≠ ['d'] ∧
    Text.splitOn ' ' text = letter :: lists ∧ Text.splitOn ' ' other = letter :: otherLists ∧
    List.Forall₂ SameItems lists otherLists

end Recurrence
