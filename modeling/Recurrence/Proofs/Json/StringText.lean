import Recurrence.Json.Reader
import Recurrence.Json.Writer

namespace Recurrence.Json

/-!
# Strings written and read again

Inside a string a character is written as itself, as a letter after a backslash, or as
the one or two units that it has in UTF-16.  Reading gives back the units of each
character in turn, and the units of a character are told apart from what follows them.
So a string is read as the text that was written.
-/

/-- The units that a character inside a string is read as. -/
def unitsOfChar (asciiOnly : Bool) (c : Char) : List Nat :=
  if asciiOnly = true ∧ 0x10000 ≤ c.toNat then
    [0xD800 + (c.toNat - 0x10000) / 0x400, 0xDC00 + (c.toNat - 0x10000) % 0x400]
  else
    [c.toNat]

/-- What was read, after some units that come before it. -/
def afterUnits
    (units : List Nat)
    (reading : Except ReadError (List Nat × List Char)) :
    Except ReadError (List Nat × List Char) :=
  reading.map fun (others, rest) => (units ++ others, rest)

section Characters

variable {c letter meant : Char} {unit : Nat} {text : List Char}

/-- A character is no half of a surrogate pair, and there are no more than 17 planes. -/
theorem toNat_bounds
    (c : Char) :
    (c.toNat < 0xD800 ∨ 0xDFFF < c.toNat) ∧ c.toNat < 0x110000 := by
  have valid := c.valid
  simp only [UInt32.isValidChar, Nat.isValidChar, UInt32.toNat] at valid
  simp only [Char.toNat, UInt32.toNat]
  omega

theorem hexDigit?_digitChar :
    ∀ digit < 16, hexDigit? (Nat.digitChar digit) = some digit := by
  decide

/-- The last hexadecimal digit of a number follows those of its sixteenth. -/
theorem hexText_succ
    {width : Nat}
    (positive : 1 ≤ width)
    (number : Nat) :
    Text.hexText (width + 1) number =
      Text.hexText width (number / 16) ++ [Nat.digitChar (number % 16)] := by
  have digits (number : Nat) :
      Nat.toDigits 16 number =
        if number < 16 then [Nat.digitChar number]
        else Nat.toDigits 16 (number / 16) ++ [Nat.digitChar (number % 16)] :=
    Nat.toDigits_eq_if (by decide)
  unfold Text.hexText
  rw [digits]
  by_cases single : number < 16
  · obtain ⟨zeros, rfl⟩ := Nat.exists_eq_add_of_le' positive
    have nothingBefore : number / 16 = 0 := Nat.div_eq_of_lt single
    rw [if_pos single, nothingBefore, Nat.mod_eq_of_lt single, digits, if_pos (by decide)]
    simp [List.leftpad, List.replicate_succ']
  · rw [if_neg single]
    simp [List.leftpad]

/-- A unit is written with four hexadecimal digits. -/
theorem hexText_four
    (small : unit < 0x10000) :
    Text.hexText 4 unit =
      [Nat.digitChar (unit / 4096), Nat.digitChar (unit / 256 % 16),
        Nat.digitChar (unit / 16 % 16), Nat.digitChar (unit % 16)] := by
  have leading : unit / 16 / 16 / 16 < 16 := by omega
  have one : Text.hexText 1 (unit / 16 / 16 / 16) = [Nat.digitChar (unit / 4096)] := by
    rw [Text.hexText, Nat.toDigits_of_lt_base leading, Nat.div_div_eq_div_mul,
      Nat.div_div_eq_div_mul]
    rfl
  rw [hexText_succ (by decide), hexText_succ (by decide), hexText_succ (by decide), one,
    Nat.div_div_eq_div_mul]
  rfl

theorem hexUnit?_digitChars
    (small : unit < 0x10000) :
    hexUnit? (Nat.digitChar (unit / 4096)) (Nat.digitChar (unit / 256 % 16))
        (Nat.digitChar (unit / 16 % 16)) (Nat.digitChar (unit % 16)) =
      some unit := by
  rw [hexUnit?, hexDigit?_digitChar _ (by omega), hexDigit?_digitChar _ (by omega),
    hexDigit?_digitChar _ (by omega), hexDigit?_digitChar _ (by omega)]
  have value :
      ((unit / 4096 * 16 + unit / 256 % 16) * 16 + unit / 16 % 16) * 16 + unit % 16 = unit := by
    omega
  exact congrArg some value

theorem readUnits_escapedUnit
    (small : unit < 0x10000)
    (text : List Char) :
    readUnits (escapedUnit unit ++ text) = afterUnits [unit] (readUnits text) := by
  rw [escapedUnit, hexText_four small]
  simp only [List.cons_append, List.nil_append, readUnits, hexUnit?_digitChars small]
  cases readUnits text with
  | error cause => rfl
  | ok reading => rfl

theorem readUnits_letter
    (notUnit : letter ≠ 'u')
    (known : escaped? letter = some meant)
    (text : List Char) :
    readUnits ('\\' :: letter :: text) = afterUnits [meant.toNat] (readUnits text) := by
  rw [readUnits.eq_4 letter text fun _ _ _ _ _ isUnit _ => notUnit isUnit, known]
  cases readUnits text with
  | error cause => rfl
  | ok reading => rfl

theorem readUnits_plain
    (notQuote : c ≠ '"')
    (notBackslash : c ≠ '\\')
    (printed : 0x20 ≤ c.toNat)
    (text : List Char) :
    readUnits (c :: text) = afterUnits [c.toNat] (readUnits text) := by
  have accepted : (decide (c = '\\') || decide (c.toNat < 0x20)) = false := by
    simp [notBackslash, printed]
  rw [readUnits.eq_5 c text notQuote (fun _ _ _ _ _ same _ => notBackslash same)
    (fun _ _ same _ => notBackslash same), accepted]
  cases readUnits text with
  | error cause => rfl
  | ok reading => rfl

theorem afterUnits_afterUnits
    (units others : List Nat)
    (reading : Except ReadError (List Nat × List Char)) :
    afterUnits units (afterUnits others reading) = afterUnits (units ++ others) reading := by
  cases reading with
  | error cause => rfl
  | ok read => simp [afterUnits, Except.map]

theorem unitsOfChar_of_small
    (asciiOnly : Bool)
    (small : c.toNat < 0x10000) :
    unitsOfChar asciiOnly c = [c.toNat] :=
  if_neg fun ⟨_, beyond⟩ => Nat.not_lt.mpr beyond small

theorem readUnits_escapedChar
    (c : Char)
    (text : List Char) :
    readUnits (escapedChar c ++ text) = afterUnits (unitsOfChar true c) (readUnits text) := by
  obtain ⟨_, last⟩ := toNat_bounds c
  unfold escapedChar
  by_cases small : c.toNat < 0x10000
  · rw [unitsOfChar_of_small true small]
    simp only [small, ↓reduceIte]
    exact readUnits_escapedUnit small text
  · have beyond : 0x10000 ≤ c.toNat := Nat.le_of_not_lt small
    simp only [small, ↓reduceIte, List.append_assoc]
    rw [readUnits_escapedUnit (by omega), readUnits_escapedUnit (by omega), afterUnits_afterUnits,
      unitsOfChar, if_pos ⟨rfl, beyond⟩]
    rfl

/-- The three ways of writing a character inside a string. -/
inductive StringForm (asciiOnly : Bool) (c : Char) : List Char → Prop where
  | letter (letter : Char)
      (known : escaped? letter = some c)
      (printed : 0x20 ≤ letter.toNat)
      (small : c.toNat < 0x10000) :
      StringForm asciiOnly c ['\\', letter]
  | escape (needed : c.toNat < 0x10000 ∨ asciiOnly = true) :
      StringForm asciiOnly c (escapedChar c)
  | plain
      (notQuote : c ≠ '"')
      (notBackslash : c ≠ '\\')
      (printed : 0x20 ≤ c.toNat)
      (small : asciiOnly = true → c.toNat < 0x10000) :
      StringForm asciiOnly c [c]

theorem stringForm_stringChar
    (asciiOnly : Bool)
    (c : Char) :
    StringForm asciiOnly c (stringChar asciiOnly c) := by
  unfold stringChar
  split
  · exact .letter '"' (by simp [*, escaped?]) (by decide) (by simp [*])
  split
  · exact .letter '\\' (by simp [*, escaped?]) (by decide) (by simp [*])
  split
  · exact .letter 'n' (by simp [*, escaped?]) (by decide) (by simp [*])
  split
  · exact .letter 'r' (by simp [*, escaped?]) (by decide) (by simp [*])
  split
  · exact .letter 't' (by simp [*, escaped?]) (by decide) (by simp [*])
  split
  · exact .letter 'f' (by simp [*, escaped?]) (by decide) (by simp [*])
  split
  · exact .letter 'b' (by simp [*, escaped?]) (by decide) (by simp [*])
  split
  · rename_i escaped
    simp only [Bool.or_eq_true, Bool.and_eq_true, decide_eq_true_eq] at escaped
    apply StringForm.escape
    rcases escaped with control | ⟨ascii, _⟩
    · exact Or.inl (by omega)
    · exact Or.inr ascii
  · rename_i notQuote notBackslash _ _ _ _ _ itself
    simp only [Bool.or_eq_true, Bool.and_eq_true, decide_eq_true_eq, not_or, not_and,
      Nat.not_lt] at itself
    refine .plain notQuote notBackslash itself.1 fun ascii => ?_
    have last := itself.2 ascii
    omega

/-- A character inside a string is read as its units. -/
theorem readUnits_stringChar
    (asciiOnly : Bool)
    (c : Char)
    (text : List Char) :
    readUnits (stringChar asciiOnly c ++ text) =
      afterUnits (unitsOfChar asciiOnly c) (readUnits text) := by
  have form := stringForm_stringChar asciiOnly c
  generalize stringChar asciiOnly c = written at form ⊢
  cases form with
  | letter letter known _ small =>
      have notUnit : letter ≠ 'u' := by
        rintro rfl
        cases known
      rw [unitsOfChar_of_small asciiOnly small]
      exact readUnits_letter notUnit known text
  | escape needed =>
      rw [readUnits_escapedChar]
      rcases needed with small | ascii
      · rw [unitsOfChar_of_small true small, unitsOfChar_of_small asciiOnly small]
      · rw [ascii]
  | plain notQuote notBackslash printed small =>
      have single : unitsOfChar asciiOnly c = [c.toNat] :=
        if_neg fun ⟨ascii, beyond⟩ => Nat.not_lt.mpr beyond (small ascii)
      rw [single]
      exact readUnits_plain notQuote notBackslash printed text

/-- The units of a character are told apart from the units that follow. -/
theorem codesOfUnits_unitsOfChar
    (asciiOnly : Bool)
    (c : Char)
    (units : List Nat) :
    codesOfUnits (unitsOfChar asciiOnly c ++ units) = c.toNat :: codesOfUnits units := by
  obtain ⟨noHalf, last⟩ := toNat_bounds c
  unfold unitsOfChar
  split
  · rename_i pair
    have halves :
        (isHighSurrogate (0xD800 + (c.toNat - 0x10000) / 0x400) &&
          isLowSurrogate (0xDC00 + (c.toNat - 0x10000) % 0x400)) = true := by
      simp only [isHighSurrogate, isLowSurrogate, Bool.and_eq_true, decide_eq_true_eq]
      omega
    have code :
        pairedCode (0xD800 + (c.toNat - 0x10000) / 0x400)
            (0xDC00 + (c.toNat - 0x10000) % 0x400) = c.toNat := by
      unfold pairedCode
      omega
    simp only [List.cons_append, List.nil_append, codesOfUnits, halves, code, ↓reduceIte]
  · have notHigh : isHighSurrogate c.toNat = false := by
      simp only [isHighSurrogate, Bool.and_eq_false_iff, decide_eq_false_iff_not]
      omega
    cases units with
    | nil => rfl
    | cons next others =>
        simp only [List.cons_append, List.nil_append, codesOfUnits, notHigh, Bool.false_and,
          Bool.false_eq_true, ↓reduceIte]

end Characters

section Strings

variable {asciiOnly : Bool}

theorem readUnits_chars
    (asciiOnly : Bool)
    (chars rest : List Char) :
    readUnits (chars.flatMap (stringChar asciiOnly) ++ '"' :: rest) =
      .ok (chars.flatMap (unitsOfChar asciiOnly), rest) := by
  induction chars with
  | nil => rfl
  | cons c others inductionHypothesis =>
      rw [List.flatMap_cons, List.append_assoc, readUnits_stringChar, inductionHypothesis]
      rfl

theorem codesOfUnits_chars
    (asciiOnly : Bool)
    (chars : List Char) :
    codesOfUnits (chars.flatMap (unitsOfChar asciiOnly)) = chars.map Char.toNat := by
  induction chars with
  | nil => rfl
  | cons c others inductionHypothesis =>
      rw [List.flatMap_cons, codesOfUnits_unitsOfChar, inductionHypothesis, List.map_cons]

/-- A string is read as the text that was written. -/
theorem readString_stringBody
    (asciiOnly : Bool)
    (content : String)
    (rest : List Char) :
    readString (stringBody asciiOnly (.whole content) ++ '"' :: rest) =
      .ok (.whole content, rest) := by
  have units := readUnits_chars asciiOnly content.toList rest
  simp only [readString, stringBody, units, bind, Except.bind, pure, Except.pure,
    codesOfUnits_chars, Wording.ofCodes_toNat, String.ofList_toList]

end Strings

section Printed

variable {asciiOnly : Bool} {c written : Char} {unit : Nat}

theorem printed_digitChar :
    ∀ digit < 16, 0x20 ≤ (Nat.digitChar digit).toNat := by
  decide

theorem printed_of_mem_escapedUnit
    (small : unit < 0x10000)
    (member : written ∈ escapedUnit unit) :
    0x20 ≤ written.toNat := by
  rw [escapedUnit, hexText_four small] at member
  simp only [List.mem_cons, List.not_mem_nil, or_false] at member
  rcases member with rfl | rfl | rfl | rfl | rfl | rfl
  · decide
  · decide
  · exact printed_digitChar _ (by omega)
  · exact printed_digitChar _ (by omega)
  · exact printed_digitChar _ (by omega)
  · exact printed_digitChar _ (by omega)

theorem printed_of_mem_escapedChar
    (member : written ∈ escapedChar c) :
    0x20 ≤ written.toNat := by
  obtain ⟨_, last⟩ := toNat_bounds c
  unfold escapedChar at member
  by_cases small : c.toNat < 0x10000
  · simp only [small, ↓reduceIte] at member
    exact printed_of_mem_escapedUnit small member
  · simp only [small, ↓reduceIte] at member
    rcases List.mem_append.mp member with inFirst | inSecond
    · exact printed_of_mem_escapedUnit (by omega) inFirst
    · exact printed_of_mem_escapedUnit (by omega) inSecond

/-- A character inside a string is written without control characters. -/
theorem printed_of_mem_stringChar
    (member : written ∈ stringChar asciiOnly c) :
    0x20 ≤ written.toNat := by
  have form := stringForm_stringChar asciiOnly c
  generalize stringChar asciiOnly c = text at form member
  cases form with
  | letter letter known printed small =>
      simp only [List.mem_cons, List.not_mem_nil, or_false] at member
      rcases member with rfl | rfl
      · decide
      · exact printed
  | escape needed =>
      exact printed_of_mem_escapedChar member
  | plain notQuote notBackslash printed small =>
      rw [List.mem_singleton.mp member]
      exact printed

/-- The text of a string has no control characters. -/
theorem printed_of_mem_stringText
    {content : String}
    (member : written ∈ stringText asciiOnly (.whole content)) :
    0x20 ≤ written.toNat := by
  simp only [stringText, stringBody, List.mem_cons, List.mem_append, List.mem_flatMap,
    List.not_mem_nil, or_false] at member
  rcases member with rfl | ⟨c, _, inChar⟩ | rfl
  · decide
  · exact printed_of_mem_stringChar inChar
  · decide

end Printed

end Recurrence.Json
