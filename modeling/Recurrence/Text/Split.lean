namespace Recurrence.Text

/-!
# Cutting a text into pieces

`splitOn` cuts a text at every occurrence of one separator, so a text always has
one piece more than separators; `join` puts the pieces together again.
`normalizeNewlines` writes every line break as one line feed.
-/

/-- The pieces between the occurrences of `separator`, empty pieces included. -/
def splitOn
    (separator : Char) :
    List Char → List (List Char)
  | [] => [[]]
  | c :: rest =>
      if c = separator then
        [] :: splitOn separator rest
      else
        match splitOn separator rest with
        | [] => [[c]]
        | piece :: pieces => (c :: piece) :: pieces

/-- The pieces with `separator` between each two of them. -/
def join
    (separator : Char) :
    List (List Char) → List Char
  | [] => []
  | [piece] => piece
  | piece :: next :: pieces => piece ++ separator :: join separator (next :: pieces)

/-- A text has at least one piece. -/
theorem splitOn_ne_nil
    (separator : Char)
    (text : List Char) :
    splitOn separator text ≠ [] := by
  cases text with
  | nil => simp [splitOn]
  | cons c rest =>
      rw [splitOn]
      split
      · simp
      · split <;> simp

/-- Joining the pieces of a text gives the text again. -/
theorem join_splitOn
    (separator : Char)
    (text : List Char) :
    join separator (splitOn separator text) = text := by
  induction text with
  | nil => rfl
  | cons c rest inductionHypothesis =>
      have pieces := splitOn_ne_nil separator rest
      rw [splitOn]
      cases shape : splitOn separator rest with
      | nil => exact absurd shape pieces
      | cons piece others =>
          rw [shape] at inductionHypothesis
          split
          · rename_i isSeparator
            simp [join, inductionHypothesis, isSeparator]
          · cases others with
            | nil =>
                simp only [join] at inductionHypothesis ⊢
                rw [inductionHypothesis]
            | cons next more =>
                simp only [join, List.cons_append] at inductionHypothesis ⊢
                rw [inductionHypothesis]

/-- A piece without the separator is cut off by the separator that follows it. -/
theorem splitOn_append_cons
    {separator : Char}
    {piece : List Char}
    (free : separator ∉ piece)
    (rest : List Char) :
    splitOn separator (piece ++ separator :: rest) =
      piece :: splitOn separator rest := by
  induction piece with
  | nil => simp [splitOn]
  | cons c others inductionHypothesis =>
      simp only [List.mem_cons, not_or] at free
      rw [List.cons_append, splitOn, if_neg (Ne.symm free.1),
        inductionHypothesis free.2]

/-- A separator anywhere in a text cuts the text there. -/
theorem splitOn_append_separator
    (separator : Char)
    (start rest : List Char) :
    splitOn separator (start ++ separator :: rest) =
      splitOn separator start ++ splitOn separator rest := by
  induction start with
  | nil => simp [splitOn]
  | cons c others inductionHypothesis =>
      rw [List.cons_append, splitOn, splitOn, inductionHypothesis]
      split
      · rfl
      · cases shape : splitOn separator others with
        | nil => exact absurd shape (splitOn_ne_nil separator others)
        | cons piece pieces => rfl

/-- No piece is longer than the text. -/
theorem length_le_of_mem_splitOn
    {separator : Char}
    {text piece : List Char}
    (member : piece ∈ splitOn separator text) :
    piece.length ≤ text.length := by
  induction text generalizing piece with
  | nil => simp [List.mem_singleton.mp member]
  | cons c rest inductionHypothesis =>
      rw [splitOn] at member
      split at member
      · rcases List.mem_cons.mp member with rfl | inRest
        · exact Nat.zero_le _
        · exact Nat.le_succ_of_le (inductionHypothesis inRest)
      · split at member
        · simp [List.mem_singleton.mp member]
        · rename_i shape
          rcases List.mem_cons.mp member with rfl | inRest
          · exact Nat.succ_le_succ (inductionHypothesis (shape ▸ List.mem_cons_self))
          · exact Nat.le_succ_of_le
              (inductionHypothesis (shape ▸ List.mem_cons_of_mem _ inRest))

/-- No piece holds the separator. -/
theorem separator_not_mem_of_mem_splitOn
    {separator : Char}
    {text piece : List Char}
    (member : piece ∈ splitOn separator text) :
    separator ∉ piece := by
  induction text generalizing piece with
  | nil => simp [List.mem_singleton.mp member]
  | cons c rest inductionHypothesis =>
      rw [splitOn] at member
      split at member
      · rcases List.mem_cons.mp member with rfl | inRest
        · exact List.not_mem_nil
        · exact inductionHypothesis inRest
      · rename_i notSeparator
        split at member
        · rw [List.mem_singleton.mp member, List.mem_singleton]
          exact Ne.symm notSeparator
        · rename_i shape
          rcases List.mem_cons.mp member with rfl | inRest
          · rw [List.mem_cons, not_or]
            exact ⟨Ne.symm notSeparator, inductionHypothesis (shape ▸ List.mem_cons_self)⟩
          · exact inductionHypothesis (shape ▸ List.mem_cons_of_mem _ inRest)

/-- A text without the separator is one piece. -/
theorem splitOn_eq_singleton
    {separator : Char}
    {text : List Char}
    (free : separator ∉ text) :
    splitOn separator text = [text] := by
  induction text with
  | nil => rfl
  | cons c others inductionHypothesis =>
      simp only [List.mem_cons, not_or] at free
      rw [splitOn, if_neg (Ne.symm free.1), inductionHypothesis free.2]

/-- Pieces without the separator come back from the text they are joined to. -/
theorem splitOn_join
    {separator : Char}
    {pieces : List (List Char)}
    (nonempty : pieces ≠ [])
    (free : ∀ piece ∈ pieces, separator ∉ piece) :
    splitOn separator (join separator pieces) = pieces := by
  induction pieces with
  | nil => exact absurd rfl nonempty
  | cons piece others inductionHypothesis =>
      cases others with
      | nil => exact splitOn_eq_singleton (free piece (by simp))
      | cons next more =>
          rw [join, splitOn_append_cons (free piece (by simp)),
            inductionHypothesis (by simp) fun member inside =>
              free member (List.mem_cons_of_mem piece inside)]

/-- Every line break (LF, CR LF or CR) as one line feed. -/
def normalizeNewlines : List Char → List Char
  | [] => []
  | '\r' :: '\n' :: rest => '\n' :: normalizeNewlines rest
  | '\r' :: rest => '\n' :: normalizeNewlines rest
  | c :: rest => c :: normalizeNewlines rest

/-- The lines of a text, whatever their line breaks. -/
def lines (text : List Char) : List (List Char) :=
  splitOn '\n' (normalizeNewlines text)

/-- Lines that each end in a line feed are cut after each of them. -/
theorem splitOn_terminated
    {pieces : List (List Char)}
    (free : ∀ piece ∈ pieces, '\n' ∉ piece) :
    splitOn '\n' (pieces.flatMap fun piece => piece ++ ['\n']) = pieces ++ [[]] := by
  induction pieces with
  | nil => rfl
  | cons piece others inductionHypothesis =>
      obtain ⟨pieceFree, othersFree⟩ := List.forall_mem_cons.mp free
      rw [List.flatMap_cons, List.append_assoc, List.singleton_append,
        splitOn_append_cons pieceFree, inductionHypothesis othersFree, List.cons_append]

/-- A text without carriage returns keeps its line breaks. -/
theorem normalizeNewlines_of_free
    {text : List Char}
    (free : '\r' ∉ text) :
    normalizeNewlines text = text := by
  induction text with
  | nil => rfl
  | cons c rest inductionHypothesis =>
      simp only [List.mem_cons, not_or] at free
      rw [normalizeNewlines, inductionHypothesis free.2]
      · rintro after rfl
        exact absurd rfl free.1
      · rintro rfl
        exact absurd rfl free.1

end Recurrence.Text
