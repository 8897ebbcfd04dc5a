namespace Recurrence.CommandLine

/-!
# Escape sequences

An escape sequence tells a terminal to change colors or to move its cursor: the
escape character, an opening bracket, numbers with semicolons and question marks,
and a letter.  Messages about errors are printed without them.
-/

/-- The parameters of an escape sequence: digits, semicolons and question marks. -/
def isParameter (c : Char) : Bool :=
  c.isDigit || c == ';' || c == '?'

/-- What follows an escape sequence whose escape character is already passed. -/
def afterEscape? : List Char → Option (List Char)
  | '[' :: rest =>
      match rest.dropWhile isParameter with
      | last :: after => if last.isAlpha then some after else none
      | [] => none
  | _ => none

/-- What follows an escape sequence is shorter than the text it was read from. -/
theorem length_afterEscape?_lt
    {text after : List Char}
    (found : afterEscape? text = some after) :
    after.length < text.length := by
  unfold afterEscape? at found
  split at found
  · rename_i rest
    have shorter : (rest.dropWhile isParameter).length ≤ rest.length :=
      (List.dropWhile_sublist isParameter).length_le
    split at found
    · rename_i last others shape
      split at found
      · rw [shape] at shorter
        cases found
        simp only [List.length_cons] at shorter ⊢
        omega
      · contradiction
    · contradiction
  · contradiction

/-- A text without the escape sequences in it. -/
def withoutEscapes : List Char → List Char
  | [] => []
  | c :: rest =>
      if c = '\x1b' then
        match found : afterEscape? rest with
        | some after =>
            have := length_afterEscape?_lt found
            withoutEscapes after
        | none => c :: withoutEscapes rest
      else
        c :: withoutEscapes rest
  termination_by text => text.length

/-- A text with a line feed for every carriage return and line feed. -/
def plainLineEnds : List Char → List Char
  | '\r' :: '\n' :: rest => '\n' :: plainLineEnds rest
  | c :: rest => c :: plainLineEnds rest
  | [] => []

/-- A message as it is printed where no terminal listens. -/
def plainMessage (message : String) : String :=
  String.ofList (plainLineEnds (withoutEscapes message.toList))

end Recurrence.CommandLine
