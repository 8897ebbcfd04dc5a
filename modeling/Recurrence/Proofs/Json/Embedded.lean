import Recurrence.Proofs.Json.RoundTrip

namespace Recurrence.Json

/-!
# A value inside a document

A value is read in the same way whatever stands after it, if that can follow a value: no reader
looks beyond a separator, a closing mark or white space.  A number that is too long to be read is
found in the same place.  Only a text that is malformed alone may be read with more after it, as
where a list is not closed yet.
-/

/-- A reading with more text left after it. -/
def followedBy {α : Type} (after : List Char) (reading : α × List Char) : α × List Char :=
  (reading.1, reading.2 ++ after)

section Pieces

variable {text after : List Char}

/-- White space is skipped up to the same place if it does not end the text. -/
theorem skipBlank_append_of_ne_nil
    (dark : skipBlank text ≠ [])
    (after : List Char) :
    skipBlank (text ++ after) = skipBlank text ++ after := by
  induction text with
  | nil => exact absurd rfl dark
  | cons c rest inductionHypothesis =>
      by_cases blank : isBlank c = true
      · have skipped (others : List Char) : skipBlank (c :: others) = skipBlank others :=
          List.dropWhile_cons_of_pos blank
        rw [List.cons_append, skipped, skipped]
        rw [skipped] at dark
        exact inductionHypothesis dark
      · rw [List.cons_append, skipBlank_cons (Bool.eq_false_iff.mpr blank),
          skipBlank_cons (Bool.eq_false_iff.mpr blank), List.cons_append]

theorem skipBlank_append_of_cons
    {c : Char}
    {others : List Char}
    (shape : skipBlank text = c :: others)
    (after : List Char) :
    skipBlank (text ++ after) = c :: (others ++ after) := by
  have dark : skipBlank text ≠ [] := by
    rw [shape]
    exact List.cons_ne_nil c others
  rw [skipBlank_append_of_ne_nil dark, shape, List.cons_append]

theorem spanDigits_append
    (ends : EndsValue after)
    (text : List Char) :
    spanDigits (text ++ after) = followedBy after (spanDigits text) := by
  induction text with
  | nil => exact spanDigits_of_endsValue nofun ends
  | cons c rest inductionHypothesis =>
      simp only [spanDigits, followedBy, Prod.mk.injEq, List.cons_append] at inductionHypothesis ⊢
      by_cases digit : c.isDigit = true
      · rw [List.takeWhile_cons_of_pos digit, List.takeWhile_cons_of_pos digit,
          List.dropWhile_cons_of_pos digit, List.dropWhile_cons_of_pos digit]
        exact ⟨congrArg (c :: ·) inductionHypothesis.1, inductionHypothesis.2⟩
      · rw [List.takeWhile_cons_of_neg digit, List.takeWhile_cons_of_neg digit,
          List.dropWhile_cons_of_neg digit, List.dropWhile_cons_of_neg digit]
        exact ⟨rfl, List.cons_append.symm⟩

theorem readWhole?_append
    {whole : List Char × List Char}
    (ends : EndsValue after)
    (read : readWhole? text = some whole) :
    readWhole? (text ++ after) = some (followedBy after whole) := by
  unfold readWhole? at read
  split at read
  · cases read
    rfl
  · rename_i notZero
    dsimp only at read
    split at read
    · cases read
    · rename_i digits
      cases read
      have stillNotZero : ∀ rest, text ++ after = '0' :: rest → False := by
        intro rest same
        cases text with
        | nil => exact digits rfl
        | cons c others => exact notZero others (by rw [(List.cons.inj same).1])
      rw [readWhole?.eq_2 _ stillNotZero, spanDigits_append ends]
      exact if_neg digits

theorem readFraction_append
    (ends : EndsValue after)
    (text : List Char) :
    readFraction (text ++ after) = followedBy after (readFraction text) := by
  cases text with
  | nil => exact readFraction_of_endsValue ends
  | cons c rest =>
      by_cases point : c = '.'
      · subst point
        rw [List.cons_append, readFraction, readFraction, spanDigits_append ends]
        dsimp only [followedBy]
        split
        · rfl
        · rfl
      · have noPoint (others : List Char) : ∀ more, c :: others = '.' :: more → False :=
          fun more same => point (List.cons.inj same).1
        rw [List.cons_append, readFraction.eq_2 _ (noPoint _), readFraction.eq_2 _ (noPoint _)]
        rfl

theorem splitSign_append
    (ends : EndsValue after)
    (text : List Char) :
    Text.splitSign (text ++ after) = followedBy after (Text.splitSign text) := by
  have noSign {c : Char} (others : List Char) (notMinus : c ≠ '-') (notPlus : c ≠ '+') :
      Text.splitSign (c :: others) = (false, c :: others) := by
    rw [Text.splitSign]
    · exact fun more same => notMinus (List.cons.inj same).1
    · exact fun more same => notPlus (List.cons.inj same).1
  cases text with
  | nil =>
      cases after with
      | nil => rfl
      | cons c others =>
          have closes := ends c rfl
          apply noSign
          · rintro rfl
            cases closes
          · rintro rfl
            cases closes
  | cons c rest =>
      by_cases minus : c = '-'
      · subst minus
        rfl
      · by_cases plus : c = '+'
        · subst plus
          rfl
        · rw [List.cons_append, noSign _ minus plus, noSign _ minus plus]
          rfl

theorem readExponent_append
    (ends : EndsValue after)
    (text : List Char) :
    readExponent (text ++ after) = followedBy after (readExponent text) := by
  cases text with
  | nil => exact readExponent_of_endsValue ends
  | cons c rest =>
      simp only [List.cons_append, readExponent, splitSign_append ends, spanDigits_append ends,
        followedBy]
      by_cases mark : (decide (c = 'e') || decide (c = 'E')) = true
      · rw [if_pos mark, if_pos mark]
        split
        · rfl
        · rfl
      · rw [if_neg mark, if_neg mark, List.cons_append]

end Pieces

section Scalars

variable {text after : List Char}

theorem readUnsigned_append
    (negative : Bool)
    (ends : EndsValue after)
    (known : readUnsigned negative text ≠ .error .malformed) :
    readUnsigned negative (text ++ after) =
      (readUnsigned negative text).map (followedBy after) := by
  unfold readUnsigned at known ⊢
  cases wholeRead : readWhole? text with
  | none =>
      rw [wholeRead] at known
      exact absurd rfl known
  | some whole =>
      simp only [readWhole?_append ends wholeRead, followedBy, readFraction_append ends,
        readExponent_append ends]
      split
      · split
        · rfl
        · rfl
      · rfl

/-- No word holds a character that closes a value. -/
theorem not_closesValue_of_mem_words :
    ∀ entry ∈ words, ∀ c ∈ entry.1.toList, closesValue c = false := by
  have none : (words.all fun entry => entry.1.toList.all fun c => !closesValue c) = true := by
    decide +kernel
  simpa only [List.all_eq_true, Bool.not_eq_true'] using none

theorem isPrefixOf_append
    {word : List Char}
    (inside : ∀ c ∈ word, closesValue c = false)
    (ends : EndsValue after)
    (text : List Char) :
    word.isPrefixOf (text ++ after) = word.isPrefixOf text := by
  induction word generalizing text with
  | nil => simp
  | cons first others inductionHypothesis =>
      obtain ⟨firstInside, othersInside⟩ := List.forall_mem_cons.mp inside
      cases text with
      | cons c rest =>
          rw [List.cons_append, List.isPrefixOf_cons_cons, List.isPrefixOf_cons_cons,
            inductionHypothesis othersInside]
      | nil =>
          cases after with
          | nil => rfl
          | cons c rest =>
              have differs : first ≠ c := by
                rintro rfl
                exact Bool.false_ne_true (firstInside.symm.trans (ends first rfl))
              simp [List.isPrefixOf, differs]

theorem dropWord?_append
    {word : String}
    (inside : ∀ c ∈ word.toList, closesValue c = false)
    (ends : EndsValue after)
    (text : List Char) :
    dropWord? word (text ++ after) = (dropWord? word text).map (· ++ after) := by
  rw [dropWord?, dropWord?, isPrefixOf_append inside ends]
  split
  · rename_i begins
    have fits : word.length ≤ text.length := by
      rw [← String.length_toList]
      exact (List.isPrefixOf_iff_prefix.mp begins).length_le
    rw [List.drop_append_of_le_length fits, Option.map_some]
  · rfl

theorem findWord?_append
    {entries : List (String × Value)}
    (inside : ∀ entry ∈ entries, ∀ c ∈ entry.1.toList, closesValue c = false)
    (ends : EndsValue after)
    (text : List Char) :
    (entries.findSome? fun (word, value) =>
        (dropWord? word (text ++ after)).map fun rest => (value, rest)) =
      (entries.findSome? fun (word, value) =>
        (dropWord? word text).map fun rest => (value, rest)).map (followedBy after) := by
  induction entries with
  | nil => rfl
  | cons entry others inductionHypothesis =>
      obtain ⟨wordInside, othersInside⟩ := List.forall_mem_cons.mp inside
      obtain ⟨word, value⟩ := entry
      rw [List.findSome?_cons, List.findSome?_cons, inductionHypothesis othersInside]
      dsimp only
      rw [dropWord?_append wordInside ends]
      cases dropWord? word text with
      | none => rfl
      | some rest => rfl

end Scalars

/--
A reading of a text alone beside one of the text with more after it.  They are of one piece
unless the text alone is malformed.
-/
def Embeds
    {α : Type}
    (after : List Char)
    (alone joined : Except ReadError (α × List Char)) : Prop :=
  alone ≠ .error .malformed → joined = alone.map (followedBy after)

section Readers

variable {α β : Type} {text after : List Char}

namespace Embeds

theorem malformed
    (joined : Except ReadError (α × List Char)) :
    Embeds after (.error .malformed) joined :=
  fun known => absurd rfl known

theorem done
    (value : α)
    (rest : List Char) :
    Embeds after (.ok (value, rest)) (.ok (value, rest ++ after)) :=
  fun _ => rfl

/-- Two readings in turn are of one piece if each of them is. -/
theorem bind
    {alone joined : Except ReadError (α × List Char)}
    {next nextJoined : α × List Char → Except ReadError (β × List Char)}
    (first : Embeds after alone joined)
    (second : ∀ value rest, Embeds after (next (value, rest)) (nextJoined (value, rest ++ after))) :
    Embeds after (alone >>= next) (joined >>= nextJoined) := by
  intro known
  cases alone with
  | error cause =>
      have stays : cause ≠ .malformed := by
        rintro rfl
        exact known rfl
      rw [first fun same => stays (Except.error.inj same)]
      rfl
  | ok reading =>
      obtain ⟨value, rest⟩ := reading
      rw [first nofun]
      exact second value rest known

end Embeds

theorem embeds_readScalar
    (ends : EndsValue after)
    (text : List Char) :
    Embeds after (readScalar text) (readScalar (text ++ after)) := by
  intro known
  unfold readScalar at known ⊢
  rw [findWord?_append not_closesValue_of_mem_words ends]
  split at known
  · rename_i reading found
    rw [found]
    rfl
  · rename_i noWord
    rw [noWord]
    split at known
    · exact readUnsigned_append true ends known
    · rename_i notMinus
      have stillNotMinus : ∀ rest, text ++ after = '-' :: rest → False := by
        intro rest same
        cases text with
        | nil => exact known rfl
        | cons c others => exact notMinus others (by rw [(List.cons.inj same).1])
      simp only [Option.map_none]
      exact readUnsigned_append false ends known

theorem embeds_readUnits
    (after text : List Char) :
    Embeds after (readUnits text) (readUnits (text ++ after)) := by
  induction text using readUnits.induct with
  | case1 => exact .malformed _
  | case2 rest => exact .done [] rest
  | case3 a b c d rest unit isUnit inductionHypothesis =>
      simp only [List.cons_append, readUnits.eq_3, isUnit]
      exact inductionHypothesis.bind fun units rest => .done (unit :: units) rest
  | case4 a b c d rest noUnit =>
      simp only [readUnits.eq_3, noUnit]
      exact .malformed _
  | case5 c rest notUnit meant escaped inductionHypothesis =>
      have notLetter : c ≠ 'u' := by
        rintro rfl
        cases escaped
      simp only [List.cons_append, readUnits.eq_4 c _ fun _ _ _ _ _ isLetter _ => notLetter isLetter,
        escaped]
      exact inductionHypothesis.bind fun units rest => .done (meant.toNat :: units) rest
  | case6 c rest notUnit unknown =>
      rw [readUnits.eq_4 c rest notUnit, unknown]
      exact .malformed _
  | case7 c rest notQuote notUnit notEscape unprinted =>
      rw [readUnits.eq_5 c rest notQuote notUnit notEscape, if_pos unprinted]
      exact .malformed _
  | case8 c rest notQuote notUnit notEscape printed inductionHypothesis =>
      have notBackslash : c ≠ '\\' := by
        rintro rfl
        exact printed rfl
      rw [List.cons_append, readUnits.eq_5 c rest notQuote notUnit notEscape, if_neg printed,
        readUnits.eq_5 c (rest ++ after) notQuote
          (fun _ _ _ _ _ isBackslash _ => notBackslash isBackslash)
          (fun _ _ isBackslash _ => notBackslash isBackslash), if_neg printed]
      exact inductionHypothesis.bind fun units rest => .done (c.toNat :: units) rest

theorem embeds_readString
    (after text : List Char) :
    Embeds after (readString text) (readString (text ++ after)) :=
  (embeds_readUnits after text).bind fun units rest =>
    .done (Wording.ofCodes (codesOfUnits units)) rest

/-- Reading after white space is of one piece if there is nothing to read at the end. -/
theorem Embeds.skipBlank
    {reader readerJoined : List Char → Except ReadError (α × List Char)}
    (nothing : reader [] = .error .malformed)
    (each : ∀ text, Embeds after (reader text) (readerJoined (text ++ after)))
    (text : List Char) :
    Embeds after (reader (Json.skipBlank text)) (readerJoined (Json.skipBlank (text ++ after))) := by
  by_cases empty : Json.skipBlank text = []
  · rw [empty, nothing]
    exact .malformed _
  · rw [skipBlank_append_of_ne_nil empty]
    exact each _

end Readers

section Nothing

theorem readScalar_nil :
    readScalar [] = .error .malformed :=
  rfl

variable (fuel : Nat)

theorem readValue_nil :
    readValue fuel [] = .error .malformed := by
  cases fuel with
  | zero => rfl
  | succ fuel => exact readScalar_nil

theorem readItems_nil :
    readItems fuel [] = .error .malformed := by
  cases fuel with
  | zero => rfl
  | succ fuel =>
      rw [readItems, readValue_nil]
      rfl

theorem readPairs_nil :
    readPairs fuel [] = .error .malformed := by
  cases fuel with
  | zero => rfl
  | succ fuel => rfl

end Nothing

section Opened

variable {text others : List Char} {c : Char}

/-- A list that is not closed at once is read as items. -/
theorem readValue_opened_list
    (fuel : Nat)
    (shape : skipBlank text = c :: others)
    (notClosed : c ≠ ']') :
    readValue (fuel + 1) ('[' :: text) =
      readItems fuel (skipBlank text) >>= fun (items, rest) => .ok (.list items, rest) := by
  rw [readValue, shape]
  split
  · rename_i same
    exact absurd (List.cons.inj same).1 notClosed
  · rfl

/-- An object that is not closed at once is read as pairs. -/
theorem readValue_opened_object
    (fuel : Nat)
    (shape : skipBlank text = c :: others)
    (notClosed : c ≠ '\x7d') :
    readValue (fuel + 1) ('\x7b' :: text) =
      readPairs fuel (skipBlank text) >>= fun (pairs, rest) =>
        .ok (.object (Fields.ofPairs pairs), rest) := by
  rw [readValue, shape]
  split
  · rename_i same
    exact absurd (List.cons.inj same).1 notClosed
  · rfl

end Opened

/-- So many steps or more read a text in the same way alone and with more after it. -/
structure ReadsEmbedded (fuel : Nat) : Prop where
  value : ∀ {more after}, fuel ≤ more → EndsValue after → ∀ text,
    Embeds after (readValue fuel text) (readValue more (text ++ after))
  items : ∀ {more after}, fuel ≤ more → EndsValue after → ∀ text,
    Embeds after (readItems fuel text) (readItems more (text ++ after))
  pairs : ∀ {more after}, fuel ≤ more → EndsValue after → ∀ text,
    Embeds after (readPairs fuel text) (readPairs more (text ++ after))

namespace ReadsEmbedded

variable {fuel more : Nat} {after : List Char}

/-- A list after its opening bracket. -/
theorem list_succ
    (before : ReadsEmbedded fuel)
    (enough : fuel ≤ more)
    (ends : EndsValue after)
    (text : List Char) :
    Embeds after (readValue (fuel + 1) ('[' :: text))
      (readValue (more + 1) ('[' :: (text ++ after))) := by
  cases shape : skipBlank text with
  | nil =>
      rw [readValue, shape]
      dsimp only
      rw [readItems_nil]
      exact .malformed _
  | cons c others =>
      have joinedShape := skipBlank_append_of_cons shape after
      by_cases closed : c = ']'
      · subst closed
        rw [readValue, readValue, shape, joinedShape]
        exact .done (Value.list []) others
      · rw [readValue_opened_list fuel shape closed, readValue_opened_list more joinedShape closed]
        exact (Embeds.skipBlank (readItems_nil fuel) (before.items enough ends) text).bind
          fun items rest => .done (Value.list items) rest

/-- An object after its opening brace. -/
theorem object_succ
    (before : ReadsEmbedded fuel)
    (enough : fuel ≤ more)
    (ends : EndsValue after)
    (text : List Char) :
    Embeds after (readValue (fuel + 1) ('\x7b' :: text))
      (readValue (more + 1) ('\x7b' :: (text ++ after))) := by
  cases shape : skipBlank text with
  | nil =>
      rw [readValue, shape]
      dsimp only
      rw [readPairs_nil]
      exact .malformed _
  | cons c others =>
      have joinedShape := skipBlank_append_of_cons shape after
      by_cases closed : c = '\x7d'
      · subst closed
        rw [readValue, readValue, shape, joinedShape]
        exact .done (Value.object []) others
      · rw [readValue_opened_object fuel shape closed,
          readValue_opened_object more joinedShape closed]
        exact (Embeds.skipBlank (readPairs_nil fuel) (before.pairs enough ends) text).bind
          fun pairs rest => .done (Value.object (Fields.ofPairs pairs)) rest

theorem value_succ
    (before : ReadsEmbedded fuel)
    (enough : fuel ≤ more)
    (ends : EndsValue after)
    (text : List Char) :
    Embeds after (readValue (fuel + 1) text) (readValue (more + 1) (text ++ after)) := by
  cases text with
  | nil =>
      rw [readValue_nil]
      exact .malformed _
  | cons c rest =>
      by_cases quote : c = '"'
      · subst quote
        rw [List.cons_append, readValue, readValue]
        exact (embeds_readString after rest).bind fun content rest =>
          .done (Value.text content) rest
      · by_cases bracket : c = '['
        · subst bracket
          exact before.list_succ enough ends rest
        · by_cases brace : c = '\x7b'
          · subst brace
            exact before.object_succ enough ends rest
          · have scalar (fuel : Nat) (others : List Char) :
                readValue (fuel + 1) (c :: others) = readScalar (c :: others) := by
              apply readValue.eq_5
              · exact fun _ same => quote (List.cons.inj same).1
              · exact fun _ same => bracket (List.cons.inj same).1
              · exact fun _ same => brace (List.cons.inj same).1
            rw [List.cons_append, scalar, scalar]
            exact embeds_readScalar ends (c :: rest)

theorem items_succ
    (before : ReadsEmbedded fuel)
    (enough : fuel ≤ more)
    (ends : EndsValue after)
    (text : List Char) :
    Embeds after (readItems (fuel + 1) text) (readItems (more + 1) (text ++ after)) := by
  rw [readItems, readItems]
  apply (before.value enough ends text).bind
  intro item rest
  dsimp only
  cases shape : skipBlank rest with
  | nil => exact .malformed _
  | cons c others =>
      rw [skipBlank_append_of_cons shape]
      split
      · rename_i more same
        cases same
        exact (Embeds.skipBlank (readItems_nil fuel) (before.items enough ends) others).bind
          fun items rest => .done (item :: items) rest
      · rename_i more same
        cases same
        exact .done [item] others
      · exact .malformed _

/-- What may follow the value of a pair: the next pair or the closing brace. -/
theorem pair_end
    (before : ReadsEmbedded fuel)
    (enough : fuel ≤ more)
    (ends : EndsValue after)
    (key : Wording)
    (value : Value)
    (rest : List Char) :
    Embeds after
      (match skipBlank rest with
        | ',' :: rest => do
            let (pairs, rest) ← readPairs fuel (skipBlank rest)
            return ((key, value) :: pairs, rest)
        | '\x7d' :: rest => return ([(key, value)], rest)
        | _ => .error .malformed)
      (match skipBlank (rest ++ after) with
        | ',' :: rest => do
            let (pairs, rest) ← readPairs more (skipBlank rest)
            return ((key, value) :: pairs, rest)
        | '\x7d' :: rest => return ([(key, value)], rest)
        | _ => .error .malformed) := by
  cases shape : skipBlank rest with
  | nil => exact .malformed _
  | cons c others =>
      rw [skipBlank_append_of_cons shape]
      split
      · rename_i more same
        cases same
        exact (Embeds.skipBlank (readPairs_nil fuel) (before.pairs enough ends) others).bind
          fun pairs rest => .done ((key, value) :: pairs) rest
      · rename_i more same
        cases same
        exact .done [(key, value)] others
      · exact .malformed _

theorem pairs_succ
    (before : ReadsEmbedded fuel)
    (enough : fuel ≤ more)
    (ends : EndsValue after)
    (text : List Char) :
    Embeds after (readPairs (fuel + 1) text) (readPairs (more + 1) (text ++ after)) := by
  cases text with
  | nil =>
      rw [readPairs_nil]
      exact .malformed _
  | cons c rest =>
      by_cases quote : c = '"'
      · subst quote
        rw [List.cons_append, readPairs, readPairs]
        apply (embeds_readString after rest).bind
        intro key rest
        dsimp only
        cases shape : skipBlank rest with
        | nil => exact .malformed _
        | cons c others =>
            rw [skipBlank_append_of_cons shape]
            split
            · rename_i more same
              cases same
              apply (Embeds.skipBlank (readValue_nil fuel) (before.value enough ends) others).bind
              intro value rest
              exact before.pair_end enough ends key value rest
            · exact .malformed _
      · rw [readPairs.eq_3 _ _ fun _ same => quote (List.cons.inj same).1]
        exact .malformed _

end ReadsEmbedded

theorem readsEmbedded
    (fuel : Nat) :
    ReadsEmbedded fuel := by
  induction fuel with
  | zero =>
      exact ⟨fun _ _ _ => .malformed _, fun _ _ _ => .malformed _, fun _ _ _ => .malformed _⟩
  | succ fuel inductionHypothesis =>
      have steps {more : Nat} (enough : fuel + 1 ≤ more) :
          ∃ fewer, more = fewer + 1 ∧ fuel ≤ fewer :=
        ⟨more - 1, by omega, by omega⟩
      constructor
      case value =>
        intro more after enough ends text
        obtain ⟨fewer, rfl, few⟩ := steps enough
        exact inductionHypothesis.value_succ few ends text
      case items =>
        intro more after enough ends text
        obtain ⟨fewer, rfl, few⟩ := steps enough
        exact inductionHypothesis.items_succ few ends text
      case pairs =>
        intro more after enough ends text
        obtain ⟨fewer, rfl, few⟩ := steps enough
        exact inductionHypothesis.pairs_succ few ends text

end Recurrence.Json
