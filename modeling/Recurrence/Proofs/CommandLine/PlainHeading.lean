import Mathlib.Data.List.Induction
import Mathlib.Data.List.TakeWhile
import Recurrence.CommandLine.Command

namespace Recurrence.CommandLine

/-!
# Headings that can be shown

A rule text without an opening bracket cannot disturb the markup of the heading that it is put
into.  The backslashes at its end can: an odd number of them takes away the meaning of the tag
that ends the bold text, which then reaches to the end of the heading.  That is no failure.
Nothing here depends on which texts are literals.
-/

namespace Markup

section Pieces

variable {text body inside content after : List Char} {fuel : Nat}

def isSlash (c : Char) : Bool :=
  c == '\\'

/-- The number of backslashes that a text begins with. -/
def leadingSlashes (text : List Char) : Nat :=
  (text.takeWhile isSlash).length

/-- The tag that a text begins with after its backslashes, and what follows it. -/
def leadingTag? (text : List Char) : Option (List Char × List Char) :=
  match text.drop (leadingSlashes text) with
  | '[' :: inside => tagText? inside
  | _ => none

/-- A tag between brackets, or the same as plain text if the number of backslashes is odd. -/
def tagPiece (slashes : Nat) (content : List Char) : Piece :=
  if slashes % 2 = 1 then .plain ('[' :: (content ++ [']'])) else .tag (Tag.ofText content)

theorem pieces_cons
    (fuel : Nat)
    (pending : List Char)
    (c : Char)
    (rest : List Char) :
    pieces (fuel + 1) pending (c :: rest) =
      match leadingTag? (c :: rest) with
      | none => pieces fuel (c :: pending) rest
      | some (content, after) =>
          .plain pending.reverse ::
            .plain (List.replicate (leadingSlashes (c :: rest) / 2) '\\') ::
              tagPiece (leadingSlashes (c :: rest)) content :: pieces fuel [] after :=
  rfl

theorem leadingTag?_of_free
    (free : '[' ∉ text) :
    leadingTag? text = none := by
  rw [leadingTag?]
  split
  · rename_i shape
    have member : '[' ∈ text.drop (leadingSlashes text) := by
      rw [shape]
      exact List.mem_cons_self
    exact absurd (List.mem_of_mem_drop member) free
  · rfl

/-- Without an opening bracket a text is one plain piece. -/
theorem pieces_of_free
    (free : '[' ∉ text)
    (enough : text.length ≤ fuel)
    (pending : List Char) :
    pieces fuel pending text = [.plain (pending.reverse ++ text)] := by
  induction text generalizing fuel pending with
  | nil =>
      rw [List.append_nil]
      cases fuel with
      | zero => rfl
      | succ fuel => rfl
  | cons c rest inductionHypothesis =>
      cases fuel with
      | zero => exact absurd enough (Nat.not_succ_le_zero _)
      | succ fuel =>
          have restFree : '[' ∉ rest := fun member => free (List.mem_cons_of_mem c member)
          rw [pieces_cons, leadingTag?_of_free free]
          dsimp only
          rw [inductionHypothesis restFree (Nat.le_of_succ_le_succ enough), List.reverse_cons,
            List.append_assoc, List.singleton_append]

theorem leadingSlashes_append
    {slashes rest : List Char}
    (allSlashes : ∀ c ∈ slashes, c = '\\')
    (noMore : ∀ c ∈ rest.head?, c ≠ '\\') :
    leadingSlashes (slashes ++ rest) = slashes.length := by
  have pass : ∀ c ∈ slashes, isSlash c = true := by
    intro c member
    rw [allSlashes c member]
    rfl
  rw [leadingSlashes, List.takeWhile_append_of_pos pass]
  cases rest with
  | nil => rw [List.takeWhile_nil, List.append_nil]
  | cons c others =>
      have differs : ¬ isSlash c = true := by simpa [isSlash] using noMore c rfl
      rw [List.takeWhile_cons_of_neg differs, List.append_nil]

/-- There is no tag where a text has another character than a backslash before any bracket. -/
theorem leadingTag?_append
    (free : '[' ∉ body)
    (dark : ∃ c ∈ body, c ≠ '\\')
    (more : List Char) :
    leadingTag? (body ++ more) = none := by
  have allSlashes : ∀ c ∈ body.takeWhile isSlash, c = '\\' :=
    fun c member => by simpa [isSlash] using List.mem_takeWhile_imp member
  have parts : body.takeWhile isSlash ++ body.dropWhile isSlash = body :=
    List.takeWhile_append_dropWhile
  cases shape : body.dropWhile isSlash with
  | nil =>
      rw [shape, List.append_nil] at parts
      obtain ⟨c, member, differs⟩ := dark
      rw [← parts] at member
      exact absurd (allSlashes c member) differs
  | cons first others =>
      have differs : first ≠ '\\' := by
        have stopped := List.head?_dropWhile_not isSlash body
        rw [shape] at stopped
        simpa [isSlash] using stopped
      have notBracket : first ≠ '[' := by
        rintro rfl
        apply free
        rw [← parts, shape]
        exact List.mem_append_right _ List.mem_cons_self
      have noMore : ∀ c ∈ (first :: (others ++ more)).head?, c ≠ '\\' := by
        simpa using differs
      rw [shape] at parts
      rw [← parts, List.append_assoc, List.cons_append, leadingTag?,
        leadingSlashes_append allSlashes noMore, List.drop_left]
      split
      · rename_i same
        exact absurd (List.cons.inj same).1 notBracket
      · rfl

/-- A text up to a tag is its plain part, half of the backslashes before the tag, and the tag. -/
theorem pieces_of_tag
    (free : '[' ∉ body)
    (noSlashAtEnd : ∀ c ∈ body.getLast?, c ≠ '\\')
    (isTag : tagText? inside = some (content, after))
    (slashes fuel : Nat)
    (pending : List Char) :
    pieces (fuel + body.length + 1) pending
        (body ++ (List.replicate slashes '\\' ++ '[' :: inside)) =
      .plain (pending.reverse ++ body) :: .plain (List.replicate (slashes / 2) '\\') ::
        tagPiece slashes content :: pieces fuel [] after := by
  induction body generalizing pending with
  | nil =>
      have allSlashes : ∀ c ∈ List.replicate slashes '\\', c = '\\' :=
        fun c member => List.eq_of_mem_replicate member
      have noMore : ∀ c ∈ ('[' :: inside).head?, c ≠ '\\' := by simp
      have count := leadingSlashes_append allSlashes noMore
      rw [List.length_replicate] at count
      have tag : leadingTag? (List.replicate slashes '\\' ++ '[' :: inside) =
          some (content, after) := by
        rw [leadingTag?, count, List.drop_left' List.length_replicate]
        exact isTag
      rw [List.nil_append, List.append_nil, List.length_nil, Nat.add_zero]
      cases shape : List.replicate slashes '\\' ++ '[' :: inside with
      | nil => exact absurd shape (by simp)
      | cons c rest =>
          rw [shape] at count tag
          rw [pieces_cons, tag, count]
  | cons c body inductionHypothesis =>
      have bodyFree : '[' ∉ body := fun member => free (List.mem_cons_of_mem c member)
      have dark : ∃ d ∈ c :: body, d ≠ '\\' := by
        refine ⟨(c :: body).getLast (List.cons_ne_nil c body), List.getLast_mem _, ?_⟩
        exact noSlashAtEnd _ (List.getLast?_eq_some_getLast _)
      have bodyEnd : ∀ d ∈ body.getLast?, d ≠ '\\' := by
        intro d isLast
        apply noSlashAtEnd
        rw [List.getLast?_cons, Option.mem_def.mp isLast]
        rfl
      have noTag := leadingTag?_append free dark (List.replicate slashes '\\' ++ '[' :: inside)
      rw [List.cons_append] at noTag ⊢
      rw [List.length_cons, ← Nat.add_assoc, pieces_cons, noTag]
      dsimp only
      rw [inductionHypothesis bodyFree bodyEnd, List.reverse_cons, List.append_assoc,
        List.singleton_append]

/-- A text is a part that ends in no backslash, and backslashes. -/
theorem exists_slashes
    (text : List Char) :
    ∃ body slashes, text = body ++ List.replicate slashes '\\' ∧
      ∀ c ∈ body.getLast?, c ≠ '\\' := by
  induction text using List.reverseRecOn with
  | nil => exact ⟨[], 0, rfl, nofun⟩
  | append_singleton start c inductionHypothesis =>
      by_cases slash : c = '\\'
      · obtain ⟨body, slashes, shape, noSlash⟩ := inductionHypothesis
        refine ⟨body, slashes + 1, ?_, noSlash⟩
        rw [shape, slash, List.replicate_succ', List.append_assoc]
      · refine ⟨start ++ [c], 0, (List.append_nil _).symm, ?_⟩
        simpa using slash

end Pieces

/-- The style that the rule has in a heading. -/
def bold : List Char :=
  "bold".toList

theorem key_bold :
    TextStyle.key bold = .ok bold := by
  decide

theorem fault?_bold :
    TextStyle.fault? bold = none := by
  decide

/-- All that has a style is bold. -/
structure IsBoldOnly (rendering : Rendering) : Prop where
  openTags : ∀ tag ∈ rendering.openTags, tag = ⟨bold, none, tag.start⟩
  parts : ∀ part ∈ rendering.parts, part.style = bold

namespace IsBoldOnly

variable (isLiteral : List Char → Bool) {rendering : Rendering}

theorem initial :
    IsBoldOnly ⟨[], [], []⟩ :=
  ⟨nofun, nofun⟩

/-- Plain text has no style. -/
theorem plain
    (boldOnly : IsBoldOnly rendering)
    (text : List Char) :
    ∃ next, rendering.withPiece isLiteral (.plain text) = .ok next ∧ IsBoldOnly next ∧
      next.openTags = rendering.openTags :=
  ⟨_, rfl, ⟨boldOnly.openTags, boldOnly.parts⟩, rfl⟩

theorem opened
    (boldOnly : IsBoldOnly rendering) :
    ∃ next, rendering.withPiece isLiteral (.tag ⟨bold, none⟩) = .ok next ∧ IsBoldOnly next ∧
      next.openTags ≠ [] := by
  have read :
      rendering.withPiece isLiteral (.tag ⟨bold, none⟩) = do
        let key ← (TextStyle.key bold).mapError MarkupError.color
        return { rendering with
          openTags := ⟨key, none, rendering.text.length⟩ :: rendering.openTags } :=
    rfl
  rw [read, key_bold]
  refine ⟨_, rfl, ⟨?_, boldOnly.parts⟩, List.cons_ne_nil _ _⟩
  exact List.forall_mem_cons.mpr ⟨rfl, boldOnly.openTags⟩

theorem closed
    (boldOnly : IsBoldOnly rendering)
    (isOpen : rendering.openTags ≠ []) :
    ∃ next, rendering.withPiece isLiteral (.tag ⟨'/' :: bold, none⟩) = .ok next ∧
      IsBoldOnly next := by
  obtain ⟨tag, others, shape⟩ := List.exists_cons_of_ne_nil isOpen
  have allBold := boldOnly.openTags
  rw [shape] at allBold
  obtain ⟨isBold, othersBold⟩ := List.forall_mem_cons.mp allBold
  have found : lastOpen? bold rendering.openTags = some (tag, others) := by
    rw [shape, lastOpen?, isBold, if_pos rfl]
  have canClose : tag.canClose isLiteral = true := by
    rw [isBold]
    rfl
  have read :
      rendering.withPiece isLiteral (.tag ⟨'/' :: bold, none⟩) =
        rendering.closeNamed isLiteral bold :=
    rfl
  have given : bold.isEmpty = false := rfl
  have closes :
      rendering.withPiece isLiteral (.tag ⟨'/' :: bold, none⟩) =
        rendering.close isLiteral tag others := by
    rw [read, Rendering.closeNamed, given, if_neg Bool.false_ne_true, key_bold]
    simp only [Except.mapError, bind, Except.bind, found]
  rw [closes, Rendering.close, if_pos canClose]
  refine ⟨_, rfl, othersBold, List.forall_mem_cons.mpr ⟨?_, boldOnly.parts⟩⟩
  rw [Rendering.partSince, isBold]
  rfl

theorem closed_other
    {name key : List Char}
    (boldOnly : IsBoldOnly rendering)
    (named : Text.trim name ≠ [])
    (known : TextStyle.key (Text.trim name) = .ok key)
    (other : key ≠ bold) :
    rendering.withPiece isLiteral (.tag ⟨'/' :: name, none⟩) = .error .notOpen := by
  have notOpen (tags : List OpenTag) (allBold : ∀ tag ∈ tags, tag = ⟨bold, none, tag.start⟩) :
      lastOpen? key tags = none := by
    induction tags with
    | nil => rfl
    | cons tag tags inductionHypothesis =>
        obtain ⟨isBold, othersBold⟩ := List.forall_mem_cons.mp allBold
        rw [lastOpen?, isBold, if_neg other.symm, inductionHypothesis othersBold]
        rfl
  have given : (Text.trim name).isEmpty = false := by simpa using named
  have read :
      rendering.withPiece isLiteral (.tag ⟨'/' :: name, none⟩) =
        rendering.closeNamed isLiteral (Text.trim name) :=
    rfl
  rw [read, Rendering.closeNamed, given, if_neg Bool.false_ne_true, known]
  simp only [Except.mapError, bind, Except.bind, notOpen _ boldOnly.openTags]

/-- Bold is a style that can be shown. -/
theorem fault?_eq_none
    (boldOnly : IsBoldOnly rendering)
    (isDivided : Bool) :
    rendering.fault? isDivided = none := by
  rw [Rendering.fault?, List.findSome?_eq_none_iff]
  intro part member
  have isBold : part.style = bold := by
    rw [Rendering.allParts, List.mem_mergeSort, List.mem_append, List.mem_reverse] at member
    rcases member with fromOpen | isPart
    · obtain ⟨tag, isOpen, rfl⟩ := List.mem_map.mp fromOpen
      rw [Rendering.partSince, boldOnly.openTags tag isOpen]
      rfl
    · exact boldOnly.parts part isPart
  rw [isBold, fault?_bold]
  split
  · rfl
  · rfl

end IsBoldOnly

section Headings

variable {isLiteral : List Char → Bool} {rule after : List Char}

/-- What stands before the rule. -/
def lead : List Char :=
  "Rule ".toList

/-- A text with its rule in bold. -/
def inBold (rule after : List Char) : List Char :=
  lead ++ '[' :: (bold ++ ']' :: (rule ++ '[' :: ('/' :: bold ++ ']' :: after)))

theorem pieces_opened
    (fuel : Nat)
    (text : List Char) :
    pieces (fuel + lead.length + 1) [] (lead ++ '[' :: (bold ++ ']' :: text)) =
      .plain lead :: .plain [] :: .tag ⟨bold, none⟩ :: pieces fuel [] text := by
  have opening : tagText? (bold ++ ']' :: text) = some (bold, text) := rfl
  have noSlashAtEnd : ∀ c ∈ lead.getLast?, c ≠ '\\' := by simp [lead]
  exact pieces_of_tag (by decide) noSlashAtEnd opening 0 fuel []

/-- The rule is one piece, with the backslashes at its end halved, before the end of the bold. -/
theorem pieces_inBold
    (ruleFree : '[' ∉ rule)
    (afterFree : '[' ∉ after) :
    ∃ body slashes,
      pieces (inBold rule after).length [] (inBold rule after) =
        [.plain lead, .plain [], .tag ⟨bold, none⟩, .plain body,
          .plain (List.replicate (slashes / 2) '\\'), tagPiece slashes ('/' :: bold),
          .plain after] := by
  obtain ⟨body, slashes, rfl, noSlash⟩ := exists_slashes rule
  have bodyFree : '[' ∉ body := fun member => ruleFree (List.mem_append_left _ member)
  have closing :
      tagText? ('/' :: bold ++ ']' :: after) = some ('/' :: bold, after) :=
    rfl
  have shape :
      inBold (body ++ List.replicate slashes '\\') after =
        lead ++ '[' :: (bold ++ ']' ::
          (body ++ (List.replicate slashes '\\' ++ '[' :: ('/' :: bold ++ ']' :: after)))) := by
    rw [inBold, List.append_assoc body]
  have length :
      (inBold (body ++ List.replicate slashes '\\') after).length =
        (after.length + slashes + 2 * bold.length + 3 + body.length + 1) + lead.length + 1 := by
    simp only [inBold, List.length_append, List.length_replicate, List.length_cons]
    omega
  have enough : after.length ≤ after.length + slashes + 2 * bold.length + 3 := by omega
  refine ⟨body, slashes, ?_⟩
  rw [length, shape, pieces_opened, pieces_of_tag bodyFree noSlash closing,
    pieces_of_free afterFree enough]
  rfl

/-- A rule without an opening bracket leaves nothing that cannot be rendered. -/
theorem render_inBold
    (ruleFree : '[' ∉ rule)
    (afterFree : '[' ∉ after) :
    ∃ rendering, render isLiteral (inBold rule after) = .ok rendering ∧ IsBoldOnly rendering := by
  obtain ⟨body, slashes, cut⟩ := pieces_inBold ruleFree afterFree
  obtain ⟨first, firstRead, firstBold, _⟩ := IsBoldOnly.initial.plain isLiteral lead
  obtain ⟨second, secondRead, secondBold, _⟩ := firstBold.plain isLiteral []
  obtain ⟨opened, openedRead, openedBold, isOpen⟩ := secondBold.opened isLiteral
  obtain ⟨third, thirdRead, thirdBold, thirdOpen⟩ := openedBold.plain isLiteral body
  obtain ⟨fourth, fourthRead, fourthBold, fourthOpen⟩ :=
    thirdBold.plain isLiteral (List.replicate (slashes / 2) '\\')
  have ended : ∃ next, fourth.withPiece isLiteral (tagPiece slashes ('/' :: bold)) = .ok next ∧
      IsBoldOnly next := by
    rw [tagPiece]
    split
    · obtain ⟨next, read, boldOnly, _⟩ := fourthBold.plain isLiteral ('[' :: ('/' :: bold ++ [']']))
      exact ⟨next, read, boldOnly⟩
    · have stillOpen : fourth.openTags ≠ [] := by
        rw [fourthOpen, thirdOpen]
        exact isOpen
      exact fourthBold.closed isLiteral stillOpen
  obtain ⟨fifth, fifthRead, fifthBold⟩ := ended
  obtain ⟨last, lastRead, lastBold, _⟩ := fifthBold.plain isLiteral after
  refine ⟨last, ?_, lastBold⟩
  rw [render, cut]
  simp only [List.foldlM, firstRead, secondRead, openedRead, thirdRead, fourthRead, fifthRead,
    lastRead, bind, Except.bind]
  rfl

theorem tagText?_closing
    {name : List Char}
    (nameFree : ∀ c ∈ name, c ≠ '[' ∧ c ≠ ']')
    (rest : List Char) :
    tagText? ('/' :: (name ++ ']' :: rest)) = some ('/' :: name, rest) := by
  have inside : ∀ c ∈ name, (c != '[' && c != ']') = true := by
    intro c member
    simpa using nameFree c member
  have starts : startsTag '/' = true := by decide
  simp only [tagText?, starts, if_true, List.takeWhile_append_of_pos inside,
    List.dropWhile_append_of_pos inside]
  simp

theorem ofText_closing
    {name : List Char}
    (noParameters : '=' ∉ name) :
    Tag.ofText ('/' :: name) = ⟨'/' :: name, none⟩ := by
  have passes : ∀ c ∈ '/' :: name, (c != '=') = true := by
    refine List.forall_mem_cons.mpr ⟨by decide, ?_⟩
    intro c member
    have differs : c ≠ '=' := by
      rintro rfl
      exact noParameters member
    simpa using differs
  rw [Tag.ofText, List.dropWhile_eq_nil_iff.mpr passes]

/-- A tag that closes something else than the bold text closes nothing. -/
theorem render_inBold_of_closing
    {start name rest key : List Char}
    (startFree : '[' ∉ start)
    (noSlash : ∀ c ∈ start.getLast?, c ≠ '\\')
    (nameFree : ∀ c ∈ name, c ≠ '[' ∧ c ≠ ']')
    (noParameters : '=' ∉ name)
    (named : Text.trim name ≠ [])
    (known : TextStyle.key (Text.trim name) = .ok key)
    (other : key ≠ bold)
    (after : List Char) :
    render isLiteral (inBold (start ++ '[' :: '/' :: (name ++ ']' :: rest)) after) =
      .error .notOpen := by
  let more := rest ++ '[' :: ('/' :: bold ++ ']' :: after)
  have shape :
      inBold (start ++ '[' :: '/' :: (name ++ ']' :: rest)) after =
        lead ++ '[' :: (bold ++ ']' ::
          (start ++ (List.replicate 0 '\\' ++ '[' :: ('/' :: (name ++ ']' :: more))))) := by
    simp only [inBold, more, List.append_assoc, List.cons_append, List.replicate_zero,
      List.nil_append]
  have length :
      (inBold (start ++ '[' :: '/' :: (name ++ ']' :: rest)) after).length =
        (bold.length + name.length + more.length + 3 + start.length + 1) + lead.length + 1 := by
    simp only [inBold, more, List.length_append, List.length_cons]
    omega
  obtain ⟨first, firstRead, firstBold, _⟩ := IsBoldOnly.initial.plain isLiteral lead
  obtain ⟨second, secondRead, secondBold, _⟩ := firstBold.plain isLiteral []
  obtain ⟨opened, openedRead, openedBold, _⟩ := secondBold.opened isLiteral
  obtain ⟨third, thirdRead, thirdBold, _⟩ := openedBold.plain isLiteral start
  obtain ⟨fourth, fourthRead, fourthBold, _⟩ := thirdBold.plain isLiteral []
  have fails := fourthBold.closed_other isLiteral named known other
  rw [render, length, shape, pieces_opened,
    pieces_of_tag startFree noSlash (tagText?_closing nameFree more), tagPiece,
    if_neg (by decide), ofText_closing noParameters]
  simp only [List.foldlM, List.reverse_nil, List.nil_append, Nat.zero_div, List.replicate_zero,
    firstRead, secondRead, openedRead, thirdRead, fourthRead, fails, bind, Except.bind]

end Headings

end Markup

/-- A heading that can be printed. -/
def IsShown (isLiteral : List Char → Bool) (heading : String) : Prop :=
  ∃ rendering, Markup.render isLiteral heading.toList = .ok rendering ∧
    rendering.fault?
        (1 < (wrap terminalWidth rendering.text).length || rendering.text.contains '\t') = none

theorem toList_heading
    (order : Order)
    (now : Date) :
    (heading order now).toList =
      Markup.inBold order.rule.toList
        (" from ".toList ++
          (order.date.toList ++ (", after ".toList ++ (now.compact ++ [':'])))) := by
  -- The texts of the heading are taken for any texts, so that their characters are not looked at.
  have parts (a b c d e f g : String) :
      (a ++ b ++ c ++ d ++ e ++ f ++ g).toList =
        a.toList ++ (b.toList ++ (c.toList ++
          (d.toList ++ (e.toList ++ (f.toList ++ g.toList))))) := by
    simp only [String.toList_append, List.append_assoc]
  have nowText : (String.ofList now.compact).toList = now.compact := String.toList_ofList
  have words :
      heading order now =
        "Rule [bold]" ++ order.rule ++ "[/bold] from " ++ order.date ++ ", after " ++
          String.ofList now.compact ++ ":" :=
    rfl
  rw [words, parts, nowText]
  rfl

/-- Only an opening bracket in its rule can keep the heading of an order from being printed. -/
theorem isShown_heading
    {isLiteral : List Char → Bool}
    {order : Order}
    {now : Date}
    (ruleFree : '[' ∉ order.rule.toList)
    (dateFree : '[' ∉ order.date.toList)
    (nowFree : '[' ∉ now.compact) :
    IsShown isLiteral (heading order now) := by
  have afterFree :
      '[' ∉ " from ".toList ++
        (order.date.toList ++ (", after ".toList ++ (now.compact ++ [':']))) := by
    intro member
    rcases List.mem_append.mp member with inFrom | member
    · exact absurd inFrom (by decide)
    rcases List.mem_append.mp member with inDate | member
    · exact dateFree inDate
    rcases List.mem_append.mp member with inAfter | member
    · exact absurd inAfter (by decide)
    rcases List.mem_append.mp member with inNow | isColon
    · exact nowFree inNow
    · exact absurd isColon (by decide)
  obtain ⟨rendering, rendered, boldOnly⟩ := Markup.render_inBold ruleFree afterFree
  rw [IsShown, toList_heading]
  exact ⟨rendering, rendered, boldOnly.fault?_eq_none _⟩

/-- A closing tag in its rule, of a style that is not open, keeps the heading from being printed. -/
theorem render_heading_of_closing
    {isLiteral : List Char → Bool}
    {order : Order}
    {now : Date}
    {start name rest key : List Char}
    (rule : order.rule.toList = start ++ '[' :: '/' :: (name ++ ']' :: rest))
    (startFree : '[' ∉ start)
    (noSlash : ∀ c ∈ start.getLast?, c ≠ '\\')
    (nameFree : ∀ c ∈ name, c ≠ '[' ∧ c ≠ ']')
    (noParameters : '=' ∉ name)
    (named : Text.trim name ≠ [])
    (known : TextStyle.key (Text.trim name) = .ok key)
    (other : key ≠ Markup.bold) :
    Markup.render isLiteral (heading order now).toList = .error .notOpen := by
  rw [toList_heading, rule]
  exact Markup.render_inBold_of_closing startFree noSlash nameFree noParameters named known other _

end Recurrence.CommandLine
