import SqlAssist.Proofs.DecimalText
import SqlAssist.Proofs.Placement
import SqlAssist.Proofs.PositionGrammar

/-!
# Error messages lead back to the token

An engine that finds fault with a token reports the line and the column of one of its characters
(`ErrorPosition.ofOffset`), written into a message (`ErrorPosition.written`). Each stage of reading
the message undoes one of these steps:

* **digits** — `parse_written`: the position is read out of the message, whatever stands before and
  behind it;
* **lines** — `offset?_ofOffset`: the line and the column of an offset lead to the offset;
* **tokens** — `tokenRangeAt?_inside`: the token found at an offset is the one that covers it.
-/
namespace SqlAssist

open Lexer (Stops)

/-! ## Lines and columns of an offset -/

/-- Where the line of an offset starts: just past the last line break before the offset. -/
def lineStart (text : List Char) (offset : Nat) : Nat :=
  ((text.take offset).reverse.dropWhile (· != '\n')).length

/-- The line and the column of an offset, both counted from one. -/
def ErrorPosition.ofOffset (text : List Char) (offset : Nat) : ErrorPosition :=
  ⟨1 + (text.take offset).count '\n', 1 + offset - lineStart text offset⟩

/-- A text up to a line break holds as many line breaks as have to be passed to get behind it. -/
theorem afterLines?_count {head : List Char} (ends : ∀ c ∈ head.getLast?, c = '\n')
    (rest : List Char) : afterLines? (head.count '\n') (head ++ rest) = some head.length := by
  induction head with
  | nil => cases rest <;> rfl
  | cons c more ih =>
      have later := ih fun d last => ends d (by rw [List.getLast?_cons, last]; rfl)
      by_cases isBreak : c = '\n'
      · rw [isBreak, List.count_cons_self, List.cons_append, afterLines?, if_pos rfl, later]
        rfl
      · -- The last line break is still to come, so the count has not run out.
        have inhabited : more ≠ [] := by
          rintro rfl
          exact isBreak (ends c rfl)
        have last :=
          ends _ (by rw [List.getLast?_cons, List.getLast?_eq_some_getLast inhabited]; rfl)
        have positive : 0 < more.count '\n' :=
          List.count_pos_iff.mpr (last ▸ List.getLast_mem inhabited)
        rw [List.count_cons_of_ne isBreak]
        obtain ⟨n, count⟩ := Nat.exists_eq_succ_of_ne_zero (Nat.ne_of_gt positive)
        rw [count] at later ⊢
        rw [List.cons_append, afterLines?, if_neg isBreak, later]
        rfl

/-- A text in front of an offset: whole lines, and the part of the last line. -/
theorem exists_lines (front : List Char) :
    ∃ lines part : List Char, front = lines ++ part ∧ (∀ c ∈ lines.getLast?, c = '\n') ∧
      '\n' ∉ part ∧ lines.length = (front.reverse.dropWhile (· != '\n')).length := by
  refine ⟨(front.reverse.dropWhile (· != '\n')).reverse,
    (front.reverse.takeWhile (· != '\n')).reverse, ?_, ?_, ?_, List.length_reverse⟩
  · rw [← List.reverse_append, List.takeWhile_append_dropWhile, List.reverse_reverse]
  · intro c last
    rw [List.getLast?_reverse] at last
    have stops := Lexer.stops_dropWhile (· != '\n') front.reverse
    rw [Stops, Option.mem_def.mp last] at stops
    simpa using stops
  · rw [List.mem_reverse]
    intro member
    have other := Lexer.all_takeWhile _ member
    simp at other

/-- The line and the column of an offset of a text lead back to the offset. -/
theorem offset?_ofOffset {text : List Char} {offset : Nat} (inside : offset ≤ text.length) :
    offset? (ErrorPosition.ofOffset text offset).line
      (ErrorPosition.ofOffset text offset).column text =
      some offset := by
  obtain ⟨lines, part, front, ends, unbroken, start⟩ := exists_lines (text.take offset)
  have count : (text.take offset).count '\n' = lines.count '\n' := by
    rw [front, List.count_append, List.count_eq_zero.mpr unbroken, Nat.add_zero]
  have passed : afterLines? (lines.count '\n') text = some lines.length := by
    rw [← List.take_append_drop offset text, front, List.append_assoc]
    exact afterLines?_count ends _
  have before : lines.length ≤ offset := by
    have whole := congrArg List.length front
    rw [List.length_take, List.length_append] at whole
    omega
  have line : ((ErrorPosition.ofOffset text offset).line - 1 : Int).toNat = lines.count '\n' := by
    simp only [ErrorPosition.ofOffset, count]
    omega
  have column : ((ErrorPosition.ofOffset text offset).column - 1 : Int).toNat =
      offset - lines.length := by
    simp only [ErrorPosition.ofOffset, lineStart, ← start]
    omega
  have counted : ¬ (((ErrorPosition.ofOffset text offset).line : Int) < 1 ∨
      ((ErrorPosition.ofOffset text offset).column : Int) < 1) := by
    simp only [ErrorPosition.ofOffset, lineStart, ← start]
    omega
  simp only [offset?, if_neg counted, line, passed, column]
  rw [Nat.add_sub_cancel' before, if_neg (Nat.not_lt.mpr inside)]

/-! ## The token at an offset -/

theorem Token.covers_iff {token : Token} {offset : Nat} :
    token.covers offset = true ↔ token.start ≤ offset ∧ offset < token.stop := by
  simp only [covers, Bool.and_eq_true, decide_eq_true_eq]
  omega

/-- An offset inside a token that is no white space and no comment leads to that token. -/
theorem tokenRangeAt?_inside {text : List Char} {token : Token} {offset : Nat}
    (member : token ∈ tokenize text) (solid : token.isTrivia = false)
    (covered : token.covers offset = true) : tokenRangeAt? offset text = some token.range := by
  obtain ⟨left, right, lexemes, start⟩ := exists_lexemes_around member
  have cut : tokenize text =
      Token.place 0 left ++ token :: Token.place token.stop right := by
    rw [tokenize, lexemes, Token.place_append, Nat.zero_add, ← start]
    rfl
  have passed : ∀ other ∈ Token.place 0 left, (!other.covers offset) = true := by
    intro other isLeft
    have ends := (Token.bounds_of_mem_place isLeft).2
    have begins := (Token.covers_iff.mp covered).1
    rw [Bool.not_eq_true', ← Bool.not_eq_true, Token.covers_iff]
    omega
  have found : (tokenize text).dropWhile (!·.covers offset) =
      token :: Token.place token.stop right := by
    rw [cut, List.dropWhile_append_of_pos passed, List.dropWhile_cons, covered]
    rfl
  simp only [tokenRangeAt?, found, solid, Bool.false_eq_true, if_false]

/-! ## Positions in messages -/

namespace ErrorPosition

/-- How a position is written in a message, with a colon behind `Column` or without one. -/
def written (position : ErrorPosition) (colon : Bool) : List Char :=
  "Line: ".toList ++ Nat.toDigits 10 position.line ++ ", Column".toList ++
    (if colon then [':'] else []) ++ ' ' :: Nat.toDigits 10 position.column

/-- Neither the line nor the column has more digits than are read. -/
def Readable (position : ErrorPosition) : Prop :=
  (Nat.toDigits 10 position.line).length ≤ Text.maxDigits ∧
    (Nat.toDigits 10 position.column).length ≤ Text.maxDigits

/-- A written position is an occurrence in its message. -/
def occurrence (position : ErrorPosition) (colon : Bool) (pre : List Char) {post : List Char}
    (stops : Stops Text.isDigit post) : Occurrence where
  pre := pre
  lineGap := [' ']
  line := Nat.toDigits 10 position.line
  wordGap := [' ']
  colon := colon
  columnGap := [' ']
  column := Nat.toDigits 10 position.column
  post := post
  lineGap_blank := List.forall_mem_singleton.mpr rfl
  line_ne_nil := Nat.toDigits_ne_nil
  line_digits :=
    fun d member => Text.isDigit_of_ascii (isDigit_of_mem_toDigits position.line d member)
  wordGap_blank := List.forall_mem_singleton.mpr rfl
  columnGap_blank := List.forall_mem_singleton.mpr rfl
  column_ne_nil := Nat.toDigits_ne_nil
  column_digits :=
    fun d member => Text.isDigit_of_ascii (isDigit_of_mem_toDigits position.column d member)
  column_maximal := stops

theorem message_occurrence (position : ErrorPosition) (colon : Bool) (pre : List Char)
    {post : List Char} (stops : Stops Text.isDigit post) :
    (position.occurrence colon pre stops).message = pre ++ position.written colon ++ post := by
  have line : "Line: ".toList = "Line:".toList ++ [' '] := by decide
  have column : ", Column".toList = [',', ' '] ++ "Column".toList := by decide
  rw [Occurrence.message, Occurrence.tail_eq]
  unfold written
  dsimp only [occurrence]
  -- Nothing depends on the digits, and left in place they would be computed.
  generalize Nat.toDigits 10 position.line = digits, Nat.toDigits 10 position.column = more
  rw [line, column]
  simp only [List.append_assoc, List.cons_append, List.nil_append]
  rfl

/-- The word that starts a position does not overlap itself, so a text without it stays without it
up to the place where the word is written next. -/
theorem isPrefix_of_append {front rest : List Char} (inhabited : front ≠ [])
    (starts : "Line:".toList <+: front ++ ("Line:".toList ++ rest)) : "Line:".toList <+: front := by
  rcases front with _ | ⟨a, _ | ⟨b, _ | ⟨c, _ | ⟨d, _ | ⟨e, more⟩⟩⟩⟩⟩
  · exact absurd rfl inhabited
  all_goals simp [List.cons_prefix_cons] at starts
  simpa [List.cons_prefix_cons] using starts

/-- An occurrence is the first one if its word does not stand before it. -/
theorem Occurrence.isFirst_of_fresh {place : Occurrence} (fresh : ¬ "Line:".toList <:+: place.pre) :
    place.IsFirst := by
  intro other same
  apply Nat.le_of_not_lt
  intro shorter
  -- The word of the other one would start in front of this one, and so stand there as a whole.
  have otherFront : other.pre <+: place.message := by
    rw [← same]
    exact List.prefix_append _ _
  obtain ⟨front, whole⟩ :=
    List.prefix_of_prefix_length_le otherFront (List.prefix_append _ _) (Nat.le_of_lt shorter)
  have inhabited : front ≠ [] := by
    rintro rfl
    rw [← whole, List.append_nil] at shorter
    exact Nat.lt_irrefl _ shorter
  have starts : "Line:".toList <+: front ++ place.tail := by
    have tails : other.tail = front ++ place.tail := by
      rw [message, message, ← whole, List.append_assoc] at same
      exact List.append_cancel_left same
    rw [← tails, other.tail_eq]
    exact List.prefix_append _ _
  rw [place.tail_eq] at starts
  apply fresh
  rw [← whole]
  exact (isPrefix_of_append inhabited starts).isInfix.trans (List.suffix_append _ _).isInfix

/-- A written position is read back, whatever stands before and behind it. -/
theorem parse_written {position : ErrorPosition} (readable : position.Readable) (colon : Bool)
    {pre post : List Char} (fresh : ¬ "Line:".toList <:+: pre) (stops : Stops Text.isDigit post) :
    parse (pre ++ position.written colon ++ post) = .ok (some position) := by
  have first : (position.occurrence colon pre stops).IsFirst := Occurrence.isFirst_of_fresh fresh
  have fits : ¬ (4300 < (Nat.toDigits 10 position.line).length ∨
      4300 < (Nat.toDigits 10 position.column).length) :=
    not_or.mpr ⟨Nat.not_lt.mpr readable.1, Nat.not_lt.mpr readable.2⟩
  rw [← message_occurrence position colon pre stops, first.parse_message]
  simp only [occurrence, if_neg fits, Text.digitsValue_toDigits]

end ErrorPosition

/-- A message leads back to the token it is about. An engine reports the line and the column of any
character of a token that is no white space and no comment. Whatever it writes before and behind the
position, the range found for the message is the range of the token. -/
theorem errorRange_written {text : List Char} {token : Token} {offset : Nat} {pre post : List Char}
    (member : token ∈ tokenize text) (solid : token.isTrivia = false)
    (inside : token.start ≤ offset ∧ offset < token.stop)
    (fresh : ¬ "Line:".toList <:+: pre) (stops : post.head?.any Text.isDigit = false)
    (readable : (ErrorPosition.ofOffset text offset).Readable) (colon : Bool) :
    errorRange (pre ++ (ErrorPosition.ofOffset text offset).written colon ++ post) text =
      .ok (some token.range) := by
  have bound : offset ≤ text.length := by
    have last := (Token.bounds_of_mem_place member).2
    rw [Lexer.spelling_lex] at last
    omega
  rw [errorRange, ErrorPosition.parse_written readable colon fresh stops]
  simp only [Except.map, Option.bind_some, errorRangeAt?, offset?_ofOffset bound,
    tokenRangeAt?_inside member solid (Token.covers_iff.mpr inside)]

/-- The second line of a text between quotes, behind a comment. -/
theorem errorRange_written_secondLine :
    (⟨⟨.stringLiteral, "'b\nc'".toList⟩, 12⟩ : Token) ∈
      tokenize "-- a\nSELECT 'b\nc' FROM t".toList ∧
    "Error (".toList ++
      (ErrorPosition.ofOffset "-- a\nSELECT 'b\nc' FROM t".toList 15).written true ++
      ").".toList = "Error (Line: 3, Column: 1).".toList ∧
    errorRange "Error (Line: 3, Column: 1).".toList "-- a\nSELECT 'b\nc' FROM t".toList =
      .ok (some ⟨12, 17⟩) := by
  have member : (⟨⟨.stringLiteral, "'b\nc'".toList⟩, 12⟩ : Token) ∈
      tokenize "-- a\nSELECT 'b\nc' FROM t".toList := by decide +kernel
  have message : "Error (".toList ++
      (ErrorPosition.ofOffset "-- a\nSELECT 'b\nc' FROM t".toList 15).written true ++ ").".toList =
        "Error (Line: 3, Column: 1).".toList := by decide +kernel
  refine ⟨member, message, ?_⟩
  rw [← message]
  exact errorRange_written member rfl (by decide) (by decide +kernel) (by decide +kernel)
    ⟨by decide +kernel, by decide +kernel⟩ true

end SqlAssist
