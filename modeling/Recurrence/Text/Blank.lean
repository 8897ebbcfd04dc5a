namespace Recurrence.Text

/-!
# White space

`isBlank` is the white space of Unicode together with the four information
separators U+001C to U+001F.  The zero width space U+200B, the vowel separator
U+180E and the byte order mark U+FEFF are not white space.
-/

/-- The code points that are white space, as inclusive ranges. -/
def blankRanges : List (Nat × Nat) :=
  [(0x9, 0xD), (0x1C, 0x20), (0x85, 0x85), (0xA0, 0xA0), (0x1680, 0x1680),
    (0x2000, 0x200A), (0x2028, 0x2029), (0x202F, 0x202F), (0x205F, 0x205F),
    (0x3000, 0x3000)]

/-- Whether a character is white space. -/
def isBlank (c : Char) : Bool :=
  blankRanges.any fun (first, last) => first ≤ c.toNat && c.toNat ≤ last

/-- A text without the white space it begins with. -/
def trimStart (text : List Char) : List Char :=
  text.dropWhile isBlank

/-- A text without the white space it ends with. -/
def trimEnd (text : List Char) : List Char :=
  (text.reverse.dropWhile isBlank).reverse

/-- A text without the white space around it. -/
def trim (text : List Char) : List Char :=
  trimEnd (trimStart text)

/-- A text that neither begins nor ends with white space is its own trimmed form. -/
theorem trim_eq_self
    {text : List Char}
    (startsDark : ∀ c ∈ text.head?, isBlank c = false)
    (endsDark : ∀ c ∈ text.getLast?, isBlank c = false) :
    trim text = text := by
  have start : trimStart text = text := by
    cases text with
    | nil => rfl
    | cons c rest =>
        have dark := startsDark c (by simp)
        simp [trimStart, dark]
  rw [trim, start, trimEnd]
  cases reversed : text.reverse with
  | nil =>
      have empty : text = [] := by simpa using reversed
      simp [empty]
  | cons c rest =>
      have last : text.getLast? = some c := by
        rw [List.getLast?_eq_head?_reverse, reversed]
        rfl
      have dark := endsDark c (by simp [last])
      rw [List.dropWhile_cons_of_neg (by simp [dark]), ← reversed]
      simp

/-- A trimmed text is no longer than the text. -/
theorem length_trim_le
    (text : List Char) :
    (trim text).length ≤ text.length := by
  have start : (trimStart text).length ≤ text.length :=
    (List.dropWhile_sublist isBlank).length_le
  have reversed :
      ((trimStart text).reverse.dropWhile isBlank).length ≤ (trimStart text).reverse.length :=
    (List.dropWhile_sublist isBlank).length_le
  rw [trim, trimEnd, List.length_reverse]
  rw [List.length_reverse] at reversed
  exact Nat.le_trans reversed start

end Recurrence.Text
