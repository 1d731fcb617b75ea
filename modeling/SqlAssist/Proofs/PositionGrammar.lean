import SqlAssist.ErrorPosition
import SqlAssist.Proofs.Scanners

/-!
# Where a message has a position

A message has a position wherever it can be cut into the parts of an `Occurrence`: the word `Line:`,
blanks, digits, a comma, blanks, the word `Column` with a colon or without one, blanks, and digits
that do not go on. The digits of an occurrence are found by going through the message once:

* **step** — `digitsAtStart?_tail` and `exists_occurrence`: digits are read at the start of a text
  exactly if an occurrence starts there, and they are the digits of the occurrence;
* **run** — `digits?_cases`: the digits of the first occurrence are found, over false starts.
-/
namespace SqlAssist

open Lexer (Stops takeWhile_run dropWhile_run)

namespace Text

/-- The blanks above ASCII, one by one. -/
def wideBlanks : List Nat :=
  blankRanges.flatMap fun range => List.range' range.1 (range.2 + 1 - range.1)

theorem exists_of_inRanges {n : Nat} {ranges : List (Nat × Nat)}
    (inside : inRanges n ranges = true) : ∃ range ∈ ranges, range.1 ≤ n ∧ n ≤ range.2 := by
  induction ranges with
  | nil => cases inside
  | cons range rest ih =>
      rw [inRanges] at inside
      split at inside
      · cases inside
      · rename_i begun
        split at inside
        · rename_i ended
          exact ⟨range, List.mem_cons_self, Nat.le_of_not_lt begun, ended⟩
        · obtain ⟨other, member, bounds⟩ := ih inside
          exact ⟨other, List.mem_cons_of_mem range member, bounds⟩

/-- No blank is a digit, in any script. -/
theorem isDigit_of_isBlank {c : Char} (blank : isBlank c = true) : isDigit c = false := by
  by_cases ascii : c.val < 128
  · have known : ((List.range 128).all fun n =>
        !isBlank (Char.ofNat n) || !isDigit (Char.ofNat n)) = true := by decide +kernel
    have inside : c.toNat < 128 := UInt32.lt_iff_toNat_lt.mp ascii
    have here := List.all_eq_true.mp known c.toNat (List.mem_range.mpr inside)
    rw [Char.ofNat_toNat, blank] at here
    simpa using here
  · have known : (wideBlanks.all fun n => !inRanges n digitRanges) = true := by decide +kernel
    rw [isBlank, if_neg ascii] at blank
    obtain ⟨range, member, low, high⟩ := exists_of_inRanges blank
    have wide : c.toNat ∈ wideBlanks :=
      List.mem_flatMap.mpr ⟨range, member, List.mem_range'_1.mpr (by omega)⟩
    rw [isDigit, if_neg ascii]
    simpa using List.all_eq_true.mp known c.toNat wide

end Text

namespace ErrorPosition

/-! ## Occurrences -/

/-- A message cut into parts at a place where a position is written. -/
structure Occurrence where
  pre : List Char
  lineGap : List Char
  line : List Char
  wordGap : List Char
  colon : Bool
  columnGap : List Char
  column : List Char
  post : List Char
  lineGap_blank : ∀ c ∈ lineGap, Text.isBlank c = true
  line_ne_nil : line ≠ []
  line_digits : ∀ c ∈ line, Text.isDigit c = true
  wordGap_blank : ∀ c ∈ wordGap, Text.isBlank c = true
  columnGap_blank : ∀ c ∈ columnGap, Text.isBlank c = true
  column_ne_nil : column ≠ []
  column_digits : ∀ c ∈ column, Text.isDigit c = true
  column_maximal : post.head?.any Text.isDigit = false

namespace Occurrence

/-- The message from the position on. -/
def tail (place : Occurrence) : List Char :=
  "Line:".toList ++ (place.lineGap ++ (place.line ++ ([','] ++ (place.wordGap ++ ("Column".toList ++
    ((if place.colon then [':'] else []) ++ (place.columnGap ++ (place.column ++ place.post))))))))

theorem tail_eq (place : Occurrence) : place.tail =
    "Line:".toList ++ (place.lineGap ++ (place.line ++ ([','] ++ (place.wordGap ++
      ("Column".toList ++ ((if place.colon then [':'] else []) ++
        (place.columnGap ++ (place.column ++ place.post)))))))) :=
  rfl

/-- The message that was cut. -/
def message (place : Occurrence) : List Char := place.pre ++ place.tail

/-- No other way to cut the message has less in front. -/
def IsFirst (place : Occurrence) : Prop :=
  ∀ other : Occurrence, other.message = place.message → place.pre.length ≤ other.pre.length

end Occurrence

/-! ## A position at the start of a text -/

theorem afterWord?_append (word rest : List Char) : afterWord? word (word ++ rest) = some rest := by
  rw [afterWord?, if_pos (List.isPrefixOf_iff_prefix.mpr (List.prefix_append word rest)),
    List.drop_left]

theorem afterWord?_eq_some {word text rest : List Char} (found : afterWord? word text = some rest) :
    text = word ++ rest := by
  unfold afterWord? at found
  split at found
  · rename_i starts
    obtain ⟨more, rfl⟩ := List.isPrefixOf_iff_prefix.mp starts
    rw [List.drop_left] at found
    rw [Option.some.inj found]
  · cases found

theorem afterDigits?_eq_some {text digits rest : List Char}
    (found : afterDigits? text = some (digits, rest)) :
    ∃ gap, text = gap ++ (digits ++ rest) ∧ (∀ c ∈ gap, Text.isBlank c = true) ∧ digits ≠ [] ∧
      (∀ c ∈ digits, Text.isDigit c = true) ∧ Stops Text.isDigit rest := by
  unfold afterDigits? at found
  dsimp only at found
  split at found
  · cases found
  · rename_i nonempty
    obtain ⟨rfl, rfl⟩ := Prod.mk.inj (Option.some.inj found)
    refine ⟨text.takeWhile Text.isBlank, ?_, Lexer.all_takeWhile, nonempty, Lexer.all_takeWhile,
      Lexer.stops_dropWhile _ _⟩
    rw [List.takeWhile_append_dropWhile, List.takeWhile_append_dropWhile]

/-- Blanks and a run of digits are read up to the end of the run. -/
theorem afterDigits?_run {gap digits rest : List Char} (blank : ∀ c ∈ gap, Text.isBlank c = true)
    (inhabited : digits ≠ []) (inside : ∀ c ∈ digits, Text.isDigit c = true)
    (stops : Stops Text.isDigit rest) :
    afterDigits? (gap ++ (digits ++ rest)) = some (digits, rest) := by
  have solid : Stops Text.isBlank (digits ++ rest) := by
    obtain ⟨d, more, rfl⟩ := List.exists_cons_of_ne_nil inhabited
    rw [List.cons_append, Lexer.stops_cons, ← Bool.not_eq_true]
    intro isBlank
    have noDigit := Text.isDigit_of_isBlank isBlank
    rw [inside d List.mem_cons_self] at noDigit
    cases noDigit
  simp only [afterDigits?, dropWhile_run blank solid, takeWhile_run inside stops,
    dropWhile_run inside stops]

/-- A colon is passed over if there is one. -/
theorem getD_afterWord?_colon (colon : Bool) {behind : List Char}
    (plain : Stops (· == ':') behind) :
    (afterWord? [':'] ((if colon then [':'] else []) ++ behind)).getD
      ((if colon then [':'] else []) ++ behind) = behind := by
  cases colon with
  | true =>
      rw [if_pos rfl, afterWord?_append]
      rfl
  | false =>
      have absent : ¬ [':'].isPrefixOf behind = true := by
        rw [List.isPrefixOf_iff_prefix]
        rintro ⟨more, rfl⟩
        rw [List.singleton_append, Lexer.stops_cons, beq_self_eq_true] at plain
        cases plain
      rw [if_neg Bool.false_ne_true, List.nil_append, afterWord?, if_neg absent]
      rfl

theorem exists_colon (text : List Char) :
    ∃ colon : Bool, text = (if colon then [':'] else []) ++ (afterWord? [':'] text).getD text := by
  cases found : afterWord? [':'] text with
  | none => exact ⟨false, rfl⟩
  | some behind => exact ⟨true, afterWord?_eq_some found⟩

namespace Occurrence

theorem stops_colon (place : Occurrence) :
    Stops (· == ':') (place.columnGap ++ (place.column ++ place.post)) := by
  cases gap : place.columnGap with
  | nil =>
      obtain ⟨d, more, digits⟩ := List.exists_cons_of_ne_nil place.column_ne_nil
      have digit := place.column_digits d (by rw [digits]; exact List.mem_cons_self)
      rw [List.nil_append, digits, List.cons_append, Lexer.stops_cons, beq_eq_false_iff_ne]
      rintro rfl
      revert digit
      decide
  | cons b more =>
      have blank := place.columnGap_blank b (by rw [gap]; exact List.mem_cons_self)
      rw [List.cons_append, Lexer.stops_cons, beq_eq_false_iff_ne]
      rintro rfl
      revert blank
      decide

/-- The digits of an occurrence are read where it starts. -/
theorem digitsAtStart?_tail (place : Occurrence) :
    digitsAtStart? place.tail = some (place.line, place.column) := by
  have comma (rest : List Char) : Stops Text.isDigit ([','] ++ rest) := by
    rw [List.singleton_append, Lexer.stops_cons]
    decide
  have word (rest : List Char) : Stops Text.isBlank ("Column".toList ++ rest) := by
    show Text.isBlank 'C' = false
    decide
  simp only [digitsAtStart?, tail_eq, afterWord?_append, Option.bind_eq_bind, Option.bind_some,
    afterDigits?_run place.lineGap_blank place.line_ne_nil place.line_digits (comma _),
    dropWhile_run place.wordGap_blank (word _), getD_afterWord?_colon place.colon place.stops_colon,
    afterDigits?_run place.columnGap_blank place.column_ne_nil place.column_digits
      place.column_maximal]
  rfl

end Occurrence

/-- Where digits are read, an occurrence starts, whatever stands in front. -/
theorem exists_occurrence {text line column : List Char} (pre : List Char)
    (found : digitsAtStart? text = some (line, column)) :
    ∃ place : Occurrence, place.pre = pre ∧ place.tail = text ∧ place.line = line ∧
      place.column = column := by
  simp only [digitsAtStart?, Option.bind_eq_bind, Option.bind_eq_some_iff] at found
  obtain ⟨afterLine, isLine, ⟨digits, afterDigits⟩, lineRead, afterComma, isComma, afterColumn,
    isColumn, ⟨more, post⟩, columnRead, result⟩ := found
  obtain ⟨rfl, rfl⟩ := Prod.mk.inj (Option.some.inj result)
  obtain ⟨lineGap, line, lineBlank, lineInhabited, lineDigits, _⟩ := afterDigits?_eq_some lineRead
  obtain ⟨colon, isColon⟩ := exists_colon afterColumn
  obtain ⟨columnGap, column, columnBlank, columnInhabited, columnDigits, stops⟩ :=
    afterDigits?_eq_some columnRead
  refine ⟨⟨pre, lineGap, digits, afterComma.takeWhile Text.isBlank, colon, columnGap, more, post,
    lineBlank, lineInhabited, lineDigits, Lexer.all_takeWhile, columnBlank, columnInhabited,
    columnDigits, stops⟩, rfl, ?_, rfl, rfl⟩
  -- The gap before the column word is what was dropped, so it is put back before the parts are
  -- joined.
  have word : afterComma = afterComma.takeWhile Text.isBlank ++
      ("Column".toList ++ afterColumn) := by
    rw [← afterWord?_eq_some isColumn, List.takeWhile_append_dropWhile]
  rw [Occurrence.tail_eq, ← column, ← isColon, ← word, ← afterWord?_eq_some isComma, ← line,
    ← afterWord?_eq_some isLine]

/-! ## The first position -/

theorem digitsAtStart?_nil : digitsAtStart? [] = none := rfl

/-- The digits of a text are those read at the first place where any are. -/
theorem digits?_cases (text : List Char) :
    (digits? text = none ∧ ∀ left right, text = left ++ right → digitsAtStart? right = none) ∨
    ∃ left right found, text = left ++ right ∧ digits? text = some found ∧
      digitsAtStart? right = some found ∧
      ∀ front rest, text = front ++ rest → front.length < left.length →
        digitsAtStart? rest = none := by
  induction text with
  | nil =>
      refine .inl ⟨rfl, ?_⟩
      intro left right parts
      rw [(List.append_eq_nil_iff.mp parts.symm).2]
      exact digitsAtStart?_nil
  | cons c text ih =>
      cases here : digitsAtStart? (c :: text) with
      | some found =>
          refine .inr ⟨[], c :: text, found, rfl, by rw [digits?, here], here, ?_⟩
          intro front rest _ shorter
          cases shorter
      | none =>
          -- Nothing is read in front of the whole text, so every cut has the first character in
          -- front.
          have later : digits? (c :: text) = digits? text := by rw [digits?, here]
          rw [later]
          rcases ih with ⟨nothing, everywhere⟩ |
            ⟨left, right, found, parts, isFound, starts, earlier⟩
          · refine .inl ⟨nothing, ?_⟩
            intro front rest cut
            rcases List.cons_eq_append_iff.mp cut with ⟨_, rfl⟩ | ⟨more, _, behind⟩
            · exact here
            · exact everywhere more rest behind
          · refine .inr ⟨c :: left, right, found, by rw [parts]; rfl, isFound, starts, ?_⟩
            intro front rest cut shorter
            rcases List.cons_eq_append_iff.mp cut with ⟨_, rfl⟩ | ⟨more, rfl, behind⟩
            · exact here
            · exact earlier more rest behind (Nat.lt_of_succ_lt_succ shorter)

namespace Occurrence

/-- An occurrence is the first one if no digits are read before it. -/
theorem isFirst_of_none {place : Occurrence}
    (none : ∀ front rest, place.message = front ++ rest → front.length < place.pre.length →
      digitsAtStart? rest = none) : place.IsFirst := by
  intro other same
  apply Nat.le_of_not_lt
  intro shorter
  have nothing := none other.pre other.tail same.symm shorter
  rw [other.digitsAtStart?_tail] at nothing
  cases nothing

theorem exists_isFirst_of_digits? {text : List Char} {found : List Char × List Char}
    (isFound : digits? text = some found) :
    ∃ place : Occurrence, place.message = text ∧ place.IsFirst ∧
      found = (place.line, place.column) := by
  rcases digits?_cases text with ⟨nothing, _⟩ |
    ⟨left, right, other, parts, isOther, starts, earlier⟩
  · rw [isFound] at nothing
    cases nothing
  · obtain rfl := Option.some.inj (isFound.symm.trans isOther)
    obtain ⟨place, rfl, rfl, line, column⟩ := exists_occurrence left starts
    have isFirst := isFirst_of_none fun front rest cut => earlier front rest (parts.trans cut)
    exact ⟨place, parts.symm, isFirst, by rw [line, column]⟩

theorem digits?_ne_none (place : Occurrence) : digits? place.message ≠ none := by
  intro none
  rcases digits?_cases place.message with ⟨_, everywhere⟩ | ⟨_, _, found, _, isFound, _⟩
  · have nothing := everywhere place.pre place.tail rfl
    rw [place.digitsAtStart?_tail] at nothing
    cases nothing
  · rw [none] at isFound
    cases isFound

/-- Two occurrences that are first in a message start at the same place. -/
theorem IsFirst.tail_eq {place other : Occurrence} (first : place.IsFirst)
    (otherFirst : other.IsFirst) (same : other.message = place.message) :
    other.tail = place.tail := by
  have length : other.pre.length = place.pre.length :=
    Nat.le_antisymm (otherFirst place same.symm) (first other same)
  exact (List.append_inj same length).2

theorem IsFirst.digits?_message {place : Occurrence} (first : place.IsFirst) :
    digits? place.message = some (place.line, place.column) := by
  obtain ⟨found, isFound⟩ := Option.ne_none_iff_exists'.mp place.digits?_ne_none
  obtain ⟨other, same, otherFirst, rfl⟩ := exists_isFirst_of_digits? isFound
  -- The digits are read off the tail, so all ways to cut it have the same ones.
  have digits := other.digitsAtStart?_tail
  rw [first.tail_eq otherFirst same, place.digitsAtStart?_tail] at digits
  rw [isFound, digits]

/-- The position of a message is that of its first occurrence, unless the digits are too many. -/
theorem IsFirst.parse_message {place : Occurrence} (first : place.IsFirst) :
    parse place.message =
      if 4300 < place.line.length ∨ 4300 < place.column.length then .error .tooManyDigits
      else .ok (some ⟨Text.digitsValue place.line, Text.digitsValue place.column⟩) := by
  simp only [parse, first.digits?_message]
  rfl

end Occurrence

theorem parse_eq_none_iff (message : List Char) :
    parse message = .ok none ↔ digits? message = none := by
  unfold parse
  split
  · rename_i nothing
    exact ⟨fun _ => nothing, fun _ => rfl⟩
  · rename_i line column found
    rw [found]
    constructor
    · intro parsed
      split at parsed <;> cases parsed
    · intro nothing
      cases nothing

/-- A message is read by its grammar. There is no position in it exactly if it cannot be cut into
the parts of one. Otherwise the cut with the least in front counts: its digits are refused if there
are more than 4300 of them for the line or for the column, and else the position is their values. -/
theorem parse_grammar (message : List Char) :
    (parse message = .ok none ↔ ∀ place : Occurrence, place.message ≠ message) ∧
    (∀ place : Occurrence, place.message = message →
      ∃ first : Occurrence, first.message = message ∧ first.IsFirst) ∧
    (∀ place : Occurrence, place.message = message → place.IsFirst →
      (parse message = .error .tooManyDigits ↔ 4300 < place.line.length ∨
        4300 < place.column.length) ∧
      (place.line.length ≤ 4300 → place.column.length ≤ 4300 →
        parse message =
          .ok (some ⟨Text.digitsValue place.line, Text.digitsValue place.column⟩))) := by
  refine ⟨?_, ?_, ?_⟩
  · rw [parse_eq_none_iff]
    constructor
    · rintro nothing place rfl
      exact place.digits?_ne_none nothing
    · intro nowhere
      cases found : digits? message with
      | none => rfl
      | some digits =>
          obtain ⟨place, same, _⟩ := Occurrence.exists_isFirst_of_digits? found
          exact absurd same (nowhere place)
  · rintro place rfl
    obtain ⟨found, isFound⟩ := Option.ne_none_iff_exists'.mp place.digits?_ne_none
    obtain ⟨first, same, isFirst, _⟩ := Occurrence.exists_isFirst_of_digits? isFound
    exact ⟨first, same, isFirst⟩
  · rintro place rfl first
    rw [first.parse_message]
    constructor
    · split
      · rename_i long
        exact ⟨fun _ => long, fun _ => rfl⟩
      · rename_i short
        refine ⟨?_, fun long => absurd long short⟩
        intro refused
        cases refused
    · intro line column
      rw [if_neg (by omega)]

/-- A position behind a false start, with digits and blanks of other scripts. -/
def arabicOccurrence : Occurrence where
  pre := "Line: 3, Line:Line 4 ".toList
  lineGap := []
  line := "1\u0662".toList
  wordGap := "\u00a0\t".toList
  colon := false
  columnGap := "\u3000".toList
  column := "\u0660\u0665".toList
  post := ", Line: 7, Column: 8".toList
  lineGap_blank := List.all_eq_true.mp (by decide)
  line_ne_nil := by decide
  line_digits := List.all_eq_true.mp (by decide)
  wordGap_blank := List.all_eq_true.mp (by decide)
  columnGap_blank := List.all_eq_true.mp (by decide)
  column_ne_nil := by decide
  column_digits := List.all_eq_true.mp (by decide)
  column_maximal := by decide

theorem isFirst_arabicOccurrence : arabicOccurrence.IsFirst := by
  apply Occurrence.isFirst_of_none
  intro front rest cut shorter
  have nothing : ((List.range arabicOccurrence.pre.length).all fun k =>
      (digitsAtStart? (arabicOccurrence.message.drop k)).isNone) = true := by decide +kernel
  have here := List.all_eq_true.mp nothing front.length (List.mem_range.mpr shorter)
  rwa [cut, List.drop_left, Option.isNone_iff_eq_none] at here

theorem parse_grammar_arabic :
    arabicOccurrence.message = String.toList
      "Line: 3, Line:Line 4 Line:1\u0662,\u00a0\tColumn\u3000\u0660\u0665, Line: 7, Column: 8" ∧
    arabicOccurrence.IsFirst ∧ parse arabicOccurrence.message = .ok (some ⟨12, 5⟩) := by
  have line : Text.digitsValue arabicOccurrence.line = 12 := by decide +kernel
  have column : Text.digitsValue arabicOccurrence.column = 5 := by decide +kernel
  obtain ⟨_, values⟩ := (parse_grammar arabicOccurrence.message).2.2 arabicOccurrence rfl
    isFirst_arabicOccurrence
  refine ⟨by decide +kernel, isFirst_arabicOccurrence, ?_⟩
  simp only [values (by decide) (by decide), line, column]

end ErrorPosition

end SqlAssist
