import Recurrence.Calendar.Date
import Recurrence.Text.Integer

namespace Recurrence

/-!
# Dates as text

The compact form is eight digits, year, month and day, such as `20240229`.  The
ISO form has hyphens between the three parts.
-/

namespace Date

/-- The date that a year of four digits, a month of two and a day of two name. -/
def ofDigits? (year month day : List Char) : Option Date :=
  if (year ++ month ++ day).all Char.isDigit then
    ofYearMonthDay? (Text.naturalOfDigits year) (Text.naturalOfDigits month)
      (Text.naturalOfDigits day)
  else
    none

/-- The date that eight ASCII digits name. -/
def ofCompact? : List Char → Option Date
  | [y1, y2, y3, y4, m1, m2, d1, d2] => ofDigits? [y1, y2, y3, y4] [m1, m2] [d1, d2]
  | _ => none

/-- The compact form of a date: eight digits. -/
def compact (date : Date) : List Char :=
  Text.paddedText 4 date.year.toNat ++ Text.paddedText 2 date.month ++
    Text.paddedText 2 date.day

/-- The date that an ISO text such as `2024-02-29` names. -/
def ofIso? : List Char → Option Date
  | [y1, y2, y3, y4, '-', m1, m2, '-', d1, d2] =>
      ofDigits? [y1, y2, y3, y4] [m1, m2] [d1, d2]
  | _ => none

/-- The ISO form of a date. -/
def iso (date : Date) : List Char :=
  Text.paddedText 4 date.year.toNat ++ '-' :: Text.paddedText 2 date.month ++
    '-' :: Text.paddedText 2 date.day

end Date

end Recurrence
