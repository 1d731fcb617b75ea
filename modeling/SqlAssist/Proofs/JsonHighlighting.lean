import Mathlib.Data.List.Pairwise
import SqlAssist.Proofs.DecimalText
import SqlAssist.Proofs.DisjointSpans
import SqlAssist.Proofs.JsonDocument
import SqlAssist.Proofs.PreferredRuns

/-!
# Highlighting of documents in JSON

The patterns of the highlighting know nothing of the grammar. `highlightJson_document` says that on
a document they find its pieces nevertheless: each key, string, truth value, null and number, and
nothing else.

* **matches** — at a piece, the pattern for its style prefers the whole piece (`prefers_stringText`,
  `exists_rule`);
* **strings** — the search for strings passes over all other pieces, so it finds exactly the
  strings, and what follows a string tells whether it is a key (`found_strings`);
* **words and numbers** — each stands behind a delimiter, so no earlier match reaches into it
  (`exists_mem_unprotected`);
* **nothing else** — a match starts in a piece that has a span of its own, and spans do not overlap
  (`exists_span`, `liesApart_json`).
-/
namespace SqlAssist

/-- The styles of strings. -/
def Style.isQuoted : Style → Bool
  | .jsonKey | .jsonString => true
  | _ => false

namespace Highlight

open Json
open Pattern (Prefers Repeats Refuses)

variable {before : Option Char} {rest : List Char}

/-! ## Strings -/

/-- A character that stands for itself in a string. -/
def isPlain (c : Char) : Bool := c != '"' && c != '\\'

/-- A character behind a backslash, with the plain ones that follow it. -/
def escaped : Pattern := .all [.char '\\', .one (· != '\n'), .many isPlain]

theorem jsonStringPattern_eq : jsonStringPattern =
    .all [.char '"', .many isPlain, .repeated escaped, .char '"'] := rfl

theorem prefers_char (c : Char) : (Pattern.char c).Prefers before [c] rest :=
  .one (beq_self_eq_true c)

theorem repeats_escaped {c : Char} {run more : List Char} (inside : c ≠ '\n')
    (plain : ∀ d ∈ run, isPlain d = true) (stops : Lexer.Stops isPlain (more ++ rest))
    (repeats : ∀ before, Repeats escaped before more rest) (before : Option Char) :
    Repeats escaped before ('\\' :: c :: run ++ more) rest := by
  have second : (Pattern.one (· != '\n')).Prefers (some '\\') [c] (run ++ (more ++ rest)) :=
    .one (bne_iff_ne.mpr inside)
  have first : (Pattern.char '\\').Prefers before ['\\'] ([c] ++ run ++ (more ++ rest)) :=
    prefers_char '\\'
  exact .again (List.cons_ne_nil _ _) (first.seq (second.seq (.many plain stops))) (repeats _)

/-- What is written between the quotes of a string: plain characters, and then escaped ones with the
plain ones that follow them. -/
theorem exists_repeats (strokes : List Stroke) (rest : List Char) :
    ∃ run more, strokes.flatMap Stroke.text = run ++ more ∧ (∀ c ∈ run, isPlain c = true) ∧
      Lexer.Stops isPlain (more ++ '"' :: rest) ∧
      ∀ before, Repeats escaped before more ('"' :: rest) := by
  induction strokes with
  | nil =>
      refine ⟨[], [], rfl, List.forall_mem_nil _, rfl, fun before => .stop ?_⟩
      exact Refuses.seq (.one rfl)
  | cons stroke strokes ih =>
      obtain ⟨run, more, whole, plain, stops, repeats⟩ := ih
      rw [List.flatMap_cons, whole]
      cases stroke with
      | plain c _ noQuote noBackslash =>
          refine ⟨c :: run, more, rfl, List.forall_mem_cons.mpr ⟨?_, plain⟩, stops, repeats⟩
          simp [isPlain, noQuote, noBackslash]
      | escape c known =>
          refine ⟨[], '\\' :: c :: run ++ more, rfl, List.forall_mem_nil _, rfl, ?_⟩
          refine repeats_escaped ?_ plain stops repeats
          rintro rfl
          revert known
          decide
      | code digits _ hex =>
          refine ⟨[], '\\' :: 'u' :: (digits ++ run) ++ more, ?_, List.forall_mem_nil _, rfl, ?_⟩
          · simp [Stroke.text]
          refine repeats_escaped (by decide) ?_ stops repeats
          intro d member
          rcases List.mem_append.mp member with digit | later
          · have isHex := hex d digit
            have noQuote : d ≠ '"' := by rintro rfl; revert isHex; decide
            have noBackslash : d ≠ '\\' := by rintro rfl; revert isHex; decide
            simp [isPlain, noQuote, noBackslash]
          · exact plain d later

theorem prefers_stringText (strokes : List Stroke) :
    jsonStringPattern.Prefers before (stringText strokes) rest := by
  obtain ⟨run, more, whole, plain, stops, repeats⟩ := exists_repeats strokes rest
  have spelled : stringText strokes = ['"'] ++ (run ++ (more ++ ['"'])) := by
    rw [stringText, whole, List.append_assoc]
    rfl
  have closing := (repeats (run.getLast?.or (some '"'))).prefers.seq (prefers_char '"')
  have inner := Prefers.seq (.many plain (by rwa [List.append_assoc])) closing
  rw [jsonStringPattern_eq, spelled]
  exact (prefers_char '"').seq inner

/-! ## Words and numbers -/

theorem isDigit_of_decimal (digits : Digits) : ∀ c ∈ digits.chars, Text.isDigit c = true :=
  fun c member => Text.isDigit_of_ascii (digits.decimal c member)

theorem isWordChar_of_isDigit {c : Char} (digit : Text.isDigit c = true) :
    Text.isWordChar c = true := by
  simp [Text.isWordChar, Text.isAlphanumeric, digit]

theorem any_isWordChar_of_isDigit {c? : Option Char} (digit : c?.any Text.isDigit = true) :
    c?.any Text.isWordChar = true := by
  cases c? with
  | none => cases digit
  | some c => exact isWordChar_of_isDigit digit

theorem prefers_digits (digits : Digits) (stops : Lexer.Stops Text.isDigit rest) :
    Highlight.digits.Prefers before digits.chars rest :=
  .some digits.inhabited (isDigit_of_decimal digits) stops

theorem any_head?_digits (digits : Digits) (rest : List Char) :
    (digits.chars ++ rest).head?.any Text.isDigit = true := by
  rw [List.head?_append_of_ne_nil _ digits.inhabited, List.head?_eq_some_head digits.inhabited]
  exact isDigit_of_decimal digits _ (List.head_mem digits.inhabited)

/-- A text that starts with a digit does not start with a sign. -/
theorem stops_isSign {cs : List Char} (digit : cs.head?.any Text.isDigit = true) :
    Lexer.Stops Lexer.isSign cs := by
  cases cs with
  | nil => rfl
  | cons c cs => exact Lexer.isSign_of_isDigit digit

theorem stops_minus {cs : List Char} (digit : cs.head?.any Text.isDigit = true) :
    Lexer.Stops (· == '-') cs := by
  cases cs with
  | nil => rfl
  | cons c cs => exact (Bool.or_eq_false_iff.mp (stops_isSign digit)).2

theorem prefers_exponent (exponent : Exponent) (stops : Lexer.Stops Text.isDigit rest) :
    jsonExponent.Prefers before exponent.text rest := by
  have mark : (exponent.mark == 'e' || exponent.mark == 'E') = true := by
    rcases exponent.isMark with isMark | isMark <;> rw [isMark] <;> rfl
  have digits : Highlight.digits.Prefers (exponent.sign.toList.getLast?.or (some exponent.mark))
      exponent.digits.chars rest := prefers_digits exponent.digits stops
  have sign : (Pattern.optional (.one fun c => c == '+' || c == '-')).Prefers (some exponent.mark)
      exponent.sign.toList (exponent.digits.chars ++ rest) := by
    cases isSign : exponent.sign with
    | none => exact .skipped (.one (stops_isSign (any_head?_digits exponent.digits rest)))
    | some c =>
        refine .left (.one ?_)
        rcases exponent.isSign c isSign with rfl | rfl <;> rfl
  have opening : (Pattern.one fun c => c == 'e' || c == 'E').Prefers before [exponent.mark]
      (exponent.sign.toList ++ exponent.digits.chars ++ rest) := .one mark
  exact opening.seq (sign.seq digits)

variable (numeral : Numeral)

theorem stops_exponentText {p : Char → Bool} (lower : p 'e' = false) (upper : p 'E' = false)
    (stops : Lexer.Stops p rest) : Lexer.Stops p (numeral.exponentText ++ rest) := by
  unfold Numeral.exponentText
  cases numeral.exponent with
  | none => exact stops
  | some exponent =>
      show p exponent.mark = false
      rcases exponent.isMark with isMark | isMark <;> rw [isMark] <;> assumption

/-- The exponent of a number, if it has one, with the edge behind it. -/
theorem prefers_exponentText (digit : before.any Text.isDigit = true)
    (closed : Delimited rest.head?) :
    (Pattern.seq (.optional jsonExponent) .edge).Prefers before numeral.exponentText rest := by
  have closes : Lexer.Stops Text.isWordChar rest := closed.any_eq_false (by decide)
  unfold Numeral.exponentText
  cases numeral.exponent with
  | none =>
      have noMark : Lexer.Stops (fun c => c == 'e' || c == 'E') rest :=
        closed.any_eq_false (by decide)
      have skipped : (Pattern.optional jsonExponent).Prefers before [] rest :=
        .skipped (Refuses.seq (.one noMark))
      exact skipped.seq_edge (any_isWordChar_of_isDigit digit) closes
  | some exponent =>
      have taken : (Pattern.optional jsonExponent).Prefers before exponent.text rest :=
        .left (prefers_exponent exponent (closed.any_eq_false (by decide)))
      apply taken.seq_edge _ closes
      apply any_isWordChar_of_isDigit
      exact Pattern.any_getLast?_or exponent.digits.inhabited (isDigit_of_decimal exponent.digits)
        (exponent.mark :: exponent.sign.toList) before

/-- The fraction of a number, if it has one, with what follows it. -/
theorem prefers_fractionText (digit : before.any Text.isDigit = true)
    (closed : Delimited rest.head?) :
    (Pattern.seq (.optional (.seq (.char '.') digits))
      (.seq (.optional jsonExponent) .edge)).Prefers before
        (numeral.fractionText ++ numeral.exponentText) rest := by
  unfold Numeral.fractionText
  cases numeral.fraction with
  | none =>
      have noPoint : Lexer.Stops (· == '.') (numeral.exponentText ++ rest) :=
        stops_exponentText numeral rfl rfl (closed.any_eq_false (by decide))
      have skipped : (Pattern.optional (.seq (.char '.') digits)).Prefers before []
          (numeral.exponentText ++ rest) := .skipped (Refuses.seq (.one noPoint))
      exact skipped.seq (prefers_exponentText numeral digit closed)
  | some fraction =>
      have noDigit : Lexer.Stops Text.isDigit (numeral.exponentText ++ rest) :=
        stops_exponentText numeral (by decide) (by decide) (closed.any_eq_false (by decide))
      have taken : (Pattern.optional (.seq (.char '.') digits)).Prefers before
          ('.' :: fraction.chars) (numeral.exponentText ++ rest) :=
        .left ((prefers_char '.').seq (prefers_digits fraction noDigit))
      refine taken.seq (prefers_exponentText numeral ?_ closed)
      exact Pattern.any_getLast?_or fraction.inhabited (isDigit_of_decimal fraction) ['.'] before

theorem stops_fractionText (closed : Delimited rest.head?) :
    Lexer.Stops Text.isDigit (numeral.fractionText ++ numeral.exponentText ++ rest) := by
  unfold Numeral.fractionText
  cases numeral.fraction with
  | none =>
      exact stops_exponentText numeral (by decide) (by decide) (closed.any_eq_false (by decide))
  | some fraction => exact (by decide : Text.isDigit '.' = false)

theorem any_head?_unsignedText (rest : List Char) :
    (numeral.unsignedText ++ rest).head?.any Text.isDigit = true := by
  rw [Numeral.unsignedText, List.append_assoc]
  exact any_head?_digits numeral.whole _

/-- A number without its sign, between two edges. -/
theorem prefers_unsignedText (opens : before.any Text.isWordChar = false)
    (closed : Delimited rest.head?) :
    (Pattern.all [.edge, digits, .optional (.seq (.char '.') digits), .optional jsonExponent,
      .edge]).Prefers before numeral.unsignedText rest := by
  have letter := any_isWordChar_of_isDigit (any_head?_unsignedText numeral rest)
  have edge : Pattern.edge.Prefers before [] (numeral.unsignedText ++ rest) := .opening opens letter
  have whole : Highlight.digits.Prefers before numeral.whole.chars
      (numeral.fractionText ++ numeral.exponentText ++ rest) :=
    prefers_digits numeral.whole (stops_fractionText numeral closed)
  refine edge.seq (whole.seq (prefers_fractionText numeral ?_ closed))
  exact Pattern.any_getLast?_or numeral.whole.inhabited (isDigit_of_decimal numeral.whole) [] before

theorem prefers_numeral (opens : before.any Text.isWordChar = false)
    (closed : Delimited rest.head?) : jsonNumber.Prefers before numeral.text rest := by
  unfold Numeral.text Numeral.signText
  cases numeral.negative with
  | true =>
      have sign : (Pattern.optional (.char '-')).Prefers before ['-']
          (numeral.unsignedText ++ rest) :=
        .left (prefers_char '-')
      have outside : (some '-').any Text.isWordChar = false := by decide
      exact sign.seq (prefers_unsignedText numeral outside closed)
  | false =>
      have noMinus : Lexer.Stops (· == '-') (numeral.unsignedText ++ rest) :=
        stops_minus (any_head?_unsignedText numeral rest)
      have skipped : (Pattern.optional (.char '-')).Prefers before []
          (numeral.unsignedText ++ rest) :=
        .skipped (.one noMinus)
      exact skipped.seq (prefers_unsignedText numeral opens closed)

/-- A word between two edges. -/
theorem prefers_word {inner : Pattern} {letters : List Char}
    (here : inner.Prefers before letters rest) (inhabited : letters ≠ [])
    (inside : letters.all Text.isWordChar = true) (opens : before.any Text.isWordChar = false)
    (closed : Delimited rest.head?) :
    (Pattern.all [.edge, inner, .edge]).Prefers before letters rest :=
  here.framed inhabited (List.all_eq_true.mp inside) opens (closed.any_eq_false (by decide))

/-- At a word or a number, the rule for its style matches all of it. -/
theorem exists_rule {piece : Piece} {style : Style} (styled : piece.style? = some style)
    (unquoted : style.isQuoted = false) (opens : Delimited before) (closed : Delimited rest.head?) :
    ∃ pattern, (style, pattern) ∈ jsonRules ∧ pattern.Prefers before piece.text rest := by
  have outside : before.any Text.isWordChar = false := opens.any_eq_false (by decide)
  rw [jsonRules_eq]
  cases piece with
  | blank | mark => cases styled
  | key | string =>
      cases styled
      cases unquoted
  | bool value =>
      cases styled
      refine ⟨_, List.mem_cons_self, ?_⟩
      cases value with
      | true => exact prefers_word (.left (.word _)) (by decide) (by decide) outside closed
      | false =>
          have other : (Pattern.word "true".toList).Refuses before ("false".toList ++ rest) :=
            Refuses.seq (.one rfl)
          exact prefers_word (.right other (.word _)) (by decide) (by decide) outside closed
  | null =>
      cases styled
      refine ⟨_, List.mem_cons_of_mem _ List.mem_cons_self, ?_⟩
      exact prefers_word (.word _) (by decide) (by decide) outside closed
  | number numeral =>
      cases styled
      exact ⟨jsonNumber, by simp, prefers_numeral numeral outside closed⟩

/-- A value ends behind a word or a number. -/
theorem endsValue_of_sequenced {piece : Piece} {style : Style} {rest : List Piece}
    (sequenced : Sequenced (tokens (piece :: rest))) (styled : piece.style? = some style)
    (unquoted : style.isQuoted = false) : EndsValue (tokens rest).head? := by
  cases piece with
  | blank | mark => cases styled
  | key | string =>
      cases styled
      cases unquoted
  | bool | null | number => exact sequenced.1

/-- The characters of a word or a number, as its rule takes them. -/
theorem exists_allows {piece : Piece} {style : Style} (styled : piece.style? = some style)
    (unquoted : style.isQuoted = false) :
    ∃ rule ∈ jsonRules, ∀ c ∈ piece.text, rule.2.allows c = true := by
  have nowhere : Delimited none := fun _ isNext => nomatch isNext
  obtain ⟨pattern, isRule, prefers⟩ :=
    @exists_rule none [] piece style styled unquoted nowhere nowhere
  exact ⟨_, isRule, prefers.takes.allows⟩

theorem jsonRules_solid : ∀ rule ∈ jsonRules, ∀ c ∈ delimiters, rule.2.allows c = false := by
  have refused : (jsonRules.all fun rule => delimiters.all (!rule.2.allows ·)) = true := by decide
  intro rule isRule
  exact Pattern.refuses_of_all (List.all_eq_true.mp refused rule isRule)

/-! ## The search for strings -/

theorem not_mem_text {piece : Piece} (unquoted : ∀ style ∈ piece.style?, style.isQuoted = false) :
    '"' ∉ piece.text := by
  intro member
  cases styled : piece.style? with
  | none =>
      obtain ⟨c, isDelimiter, text⟩ := Piece.exists_delimiter styled
      rw [text, List.mem_singleton] at member
      subst member
      revert isDelimiter
      decide
  | some style =>
      obtain ⟨rule, isRule, allowed⟩ := exists_allows styled (unquoted style styled)
      have refused := jsonRules_free rule isRule '"' List.mem_cons_self
      rw [allowed '"' member] at refused
      cases refused

/-- Behind blanks, the text goes on with the next token if that is a mark. -/
theorem head?_dropWhile_isSpace {pieces : List Piece}
    (marks : ∀ piece ∈ (tokens pieces).head?, ∃ mark, piece = .mark mark) :
    ((spelling pieces).dropWhile Lexer.isSpace).head? =
      (tokens pieces).head?.bind (·.text.head?) := by
  induction pieces with
  | nil => rfl
  | cons piece rest ih =>
      cases isBlank : piece.isBlank with
      | true =>
          cases piece with
          | blank gap =>
              have space : Lexer.isSpace gap.char = true := by cases gap <;> rfl
              have same : tokens (.blank gap :: rest) = tokens rest := rfl
              rw [same] at marks ⊢
              rw [← ih marks, spelling_cons]
              show (List.dropWhile Lexer.isSpace (gap.char :: spelling rest)).head? = _
              rw [List.dropWhile_cons_of_pos space]
          | mark | key | string | bool | null | number => cases isBlank
      | false =>
          have next : (tokens (piece :: rest)).head? = some piece := by simp [tokens, isBlank]
          rw [next] at marks ⊢
          obtain ⟨mark, rfl⟩ := marks piece rfl
          have solid : ¬ Lexer.isSpace mark.char = true := by cases mark <;> decide
          rw [spelling_cons]
          show (List.dropWhile Lexer.isSpace (mark.char :: spelling rest)).head? = _
          rw [List.dropWhile_cons_of_neg solid]
          rfl

theorem key_or_string {piece : Piece} {style : Style} (styled : piece.style? = some style)
    (isQuoted : style.isQuoted = true) :
    ∃ strokes, piece = .key strokes ∨ piece = .string strokes := by
  cases piece with
  | key strokes => exact ⟨strokes, .inl rfl⟩
  | string strokes => exact ⟨strokes, .inr rfl⟩
  | blank | mark => cases styled
  | bool | null | number =>
      cases styled
      cases isQuoted

/-- What follows a string tells its style. -/
theorem jsonStringStyle_of_sequenced {piece : Piece} {style : Style} {rest : List Piece}
    (sequenced : Sequenced (tokens (piece :: rest))) (styled : piece.style? = some style)
    (isQuoted : style.isQuoted = true) : jsonStringStyle (spelling rest) = style := by
  unfold jsonStringStyle
  obtain ⟨strokes, rfl | rfl⟩ := key_or_string styled isQuoted
  · have next : (tokens rest).head? = some (.mark .colon) := sequenced.1
    have marks : ∀ piece ∈ (tokens rest).head?, ∃ mark, piece = .mark mark := by
      intro piece isNext
      exact ⟨.colon, (Option.some.inj (next.symm.trans isNext)).symm⟩
    have colon : (some (Piece.mark .colon)).bind (·.text.head?) = some ':' := rfl
    rw [head?_dropWhile_isSpace marks, next, if_pos colon]
    exact Option.some.inj styled
  · have ends : EndsValue (tokens rest).head? := sequenced.1
    have marks : ∀ piece ∈ (tokens rest).head?, ∃ mark, piece = .mark mark := by
      intro piece isNext
      obtain ⟨mark, isMark, _⟩ := ends piece isNext
      exact ⟨mark, isMark⟩
    have noColon : (tokens rest).head?.bind (·.text.head?) ≠ some ':' := by
      intro colon
      obtain ⟨next, isNext, first⟩ := Option.bind_eq_some_iff.mp colon
      obtain ⟨mark, rfl, other⟩ := ends next isNext
      cases mark with
      | colon => exact other rfl
      | openArray | closeArray | openObject | closeObject | comma =>
          revert first
          decide
    rw [head?_dropWhile_isSpace marks, if_neg noColon]
    exact Option.some.inj styled

/-- The rule for strings, as the search has it. -/
def stringRules : List (Unit × Pattern) := [((), jsonStringPattern)]

theorem at?_string {piece : Piece} {style : Style} (styled : piece.style? = some style)
    (isQuoted : style.isQuoted = true) (offset : Nat) (before : Option Char) (rest : List Char) :
    Found.at? stringRules ⟨offset, before, piece.text ++ rest⟩ =
      some ⟨(), offset, ⟨offset + piece.text.length, piece.text.getLast?.or before, rest⟩⟩ := by
  obtain ⟨strokes, text⟩ : ∃ strokes, piece.text = stringText strokes := by
    obtain ⟨strokes, rfl | rfl⟩ := key_or_string styled isQuoted <;> exact ⟨strokes, rfl⟩
  have ends := (@prefers_stringText before rest strokes).endAt? offset
  rw [← text] at ends
  simp [Found.at?, stringRules, ends]

theorem at?_stringRules_none {c : Char} (other : c ≠ '"') (offset : Nat) (before : Option Char)
    (rest : List Char) : Found.at? stringRules ⟨offset, before, c :: rest⟩ = none := by
  have refused : jsonStringPattern.Refuses before (c :: rest) := by
    rw [jsonStringPattern_eq]
    exact Refuses.seq (.one (beq_eq_false_iff_ne.mpr other))
  have nothing : jsonStringPattern.endAt? ⟨offset, before, c :: rest⟩ = none :=
    refused.run_eq offset some
  simp [Found.at?, stringRules, nothing]

/-- The spans that the search for strings gives are those of the keys and strings. -/
theorem found_strings {pieces : List Piece} (sequenced : Sequenced (tokens pieces)) (offset : Nat)
    (before : Option Char) :
    ((Found.allFrom stringRules offset before 0 (spelling pieces)).map fun found =>
      (⟨found.range, jsonStringStyle found.stop.rest⟩ : StyledSpan)) =
        (spans offset pieces).filter (·.style.isQuoted) := by
  induction pieces generalizing offset before with
  | nil => rfl
  | cons piece rest ih =>
      have parts : tokens (piece :: rest) = tokens [piece] ++ tokens rest := by
        rw [tokens, tokens, tokens, ← List.filter_append, List.singleton_append]
      have later : Sequenced (tokens rest) := (parts ▸ sequenced).of_append
      rw [spelling_cons, spans, List.filter_append]
      -- A string is found whole, and no other piece holds a quote at which one could start.
      by_cases isString : ∃ style, piece.style? = some style ∧ style.isQuoted = true
      · obtain ⟨style, styled, isQuoted⟩ := isString
        obtain ⟨before', cut⟩ := Found.allFrom_found piece.text_ne_nil
          (at?_string styled isQuoted offset before (spelling rest)) rfl
        rw [cut, List.map_cons, ih later, jsonStringStyle_of_sequenced sequenced styled isQuoted]
        simp [styled, isQuoted, Found.range]
      · have unquoted : ∀ style ∈ piece.style?, style.isQuoted = false := by
          intro style styled
          by_contra isQuoted
          exact isString ⟨style, styled, Bool.not_eq_false _ ▸ isQuoted⟩
        have nothing : ∀ c ∈ piece.text, ∀ offset before rest,
            Found.at? stringRules ⟨offset, before, c :: rest⟩ = none := by
          intro c member
          apply at?_stringRules_none
          rintro rfl
          exact not_mem_text unquoted member
        obtain ⟨before', passed⟩ := Found.allFrom_pass nothing offset before
        rw [passed, ih later]
        cases styled : piece.style? with
        | none => rfl
        | some style => simp [unquoted style styled]

/-! ## The search for words and numbers -/

/-- A word or a number that is not protected is found by the rule for its style. -/
theorem exists_mem_unprotected {pieces : List Piece} (sequenced : Sequenced (tokens pieces))
    {span : StyledSpan} (member : span ∈ spans 0 pieces) (unquoted : span.style.isQuoted = false)
    {ranges : List TextRange} (outside : ∀ range ∈ ranges, range.contains span.range = false) :
    ∃ rule ∈ jsonRules, span ∈ unprotected ranges (spelling pieces) rule := by
  obtain ⟨left, piece, right, style, rfl, styled, rfl⟩ := exists_piece member
  rw [Nat.zero_add] at outside ⊢
  have opens : Delimited (spelling left).getLast? := sequenced.delimited styled
  have closed : Delimited (spelling right).head? := by
    rw [tokens, List.filter_append] at sequenced
    exact (endsValue_of_sequenced sequenced.of_append styled unquoted).delimited
  obtain ⟨pattern, isRule, prefers⟩ := exists_rule styled unquoted opens closed
  have found :=
    @Found.mem_all_of_prefers Style style pattern (spelling left) piece.text (spelling right)
    (fun c isLast => jsonRules_solid _ isRule c (opens c isLast)) piece.text_ne_nil prefers
  rw [spelling_append, spelling_cons]
  refine ⟨_, isRule, List.mem_filter.mpr ⟨List.mem_map.mpr ⟨_, found, rfl⟩, ?_⟩⟩
  rw [Bool.not_eq_true', List.any_eq_false]
  intro range isRange
  rw [Bool.not_eq_true]
  exact outside range isRange

end Highlight

/-! ## Nothing else is found -/

namespace LiesApart

variable {text : List Char} {spans others : List StyledSpan}

theorem clear (apart : LiesApart text spans) {a b : StyledSpan} (here : a ∈ spans)
    (there : b ∈ spans) (other : a ≠ b) : Highlight.Clear a b := by
  have symmetric : Std.Symm Highlight.Clear := ⟨fun _ _ => Or.symm⟩
  have clear : spans.Pairwise Highlight.Clear := apart.apart.imp Or.inl
  exact clear.forall here there other

theorem eq_of_mem_iff (here : LiesApart text spans) (there : LiesApart text others)
    (same : ∀ span, span ∈ spans ↔ span ∈ others) : spans = others := by
  have ordered : ∀ {spans : List StyledSpan}, LiesApart text spans →
      spans.Pairwise fun a b => a.range.start < b.range.start := by
    intro spans apart
    refine apart.apart.imp_of_mem ?_
    intro a b isFirst _ earlier
    have inhabited := (apart.within a isFirst).2.1
    omega
  exact Highlight.eq_of_ordered (ordered here) (ordered there) same

end LiesApart

namespace Json.Document

open Highlight

variable (document : Document)

theorem liesApart_spans : LiesApart document.text document.spans := by
  refine ⟨?_, pairwise_spans 0 document.pieces⟩
  intro span member
  obtain ⟨left, piece, right, style, whole, _, rfl⟩ := exists_piece member
  have positive : 0 < piece.text.length := List.length_pos_iff.mpr piece.text_ne_nil
  rw [text, whole, spelling_append, spelling_cons, List.length_append, List.length_append]
  dsimp only
  omega

theorem highlightJson_eq : highlightJson document.text =
    combined (document.spans.filter (·.style.isQuoted)) jsonRules document.text := by
  rw [spans, ← found_strings document.sequenced 0 none]
  rfl

theorem mem_highlightJson {span : StyledSpan} (member : span ∈ document.spans) :
    span ∈ highlightJson document.text := by
  rw [highlightJson_eq, combined, (sorted_perm _).mem_iff, List.mem_append]
  cases isQuoted : span.style.isQuoted with
  | true => exact .inl (List.mem_filter.mpr ⟨member, isQuoted⟩)
  | false =>
      refine .inr
        (List.mem_flatMap.mpr (exists_mem_unprotected document.sequenced member isQuoted ?_))
      intro range isRange
      obtain ⟨string, isString, rfl⟩ := List.mem_map.mp isRange
      obtain ⟨isSpan, quoted⟩ := List.mem_filter.mp isString
      have other : string ≠ span := by
        rintro rfl
        rw [isQuoted] at quoted
        cases quoted
      have clear := document.liesApart_spans.clear isSpan member other
      have inhabited := (document.liesApart_spans.within span member).2.1
      simp only [Clear] at clear
      simp only [TextRange.contains, Bool.and_eq_false_iff, decide_eq_false_iff_not]
      omega

/-- What is highlighted starts in a piece, and that piece is highlighted too. -/
theorem mem_spans {span : StyledSpan} (member : span ∈ highlightJson document.text) :
    span ∈ document.spans := by
  have isSpan := member
  rw [highlightJson_eq, combined, (sorted_perm _).mem_iff, List.mem_append] at member
  rcases member with isString | isFound
  · exact (List.mem_filter.mp isString).1
  · obtain ⟨rule, isRule, isFound⟩ := List.mem_flatMap.mp isFound
    obtain ⟨start, stop, range, occurs, _⟩ := exists_of_mem_unprotected isFound
    obtain ⟨c, isChar, allowed⟩ := occurs.exists_char (Nat.le_refl start) occurs.inhabited
    have solid : c ∉ delimiters := by
      intro isDelimiter
      rw [jsonRules_solid rule isRule c isDelimiter] at allowed
      cases allowed
    obtain ⟨other, isOther, low, high⟩ := exists_span isChar solid 0
    -- Both are highlighted and share the offset at which the match starts.
    have same : span = other := by
      by_contra different
      have clear := (liesApart_json document.text).clear isSpan (document.mem_highlightJson isOther)
        different
      have inhabited := occurs.inhabited
      simp only [Clear, range] at clear
      omega
    rw [same]
    exact isOther

end Json.Document

/-- The highlighting of JSON is exact. On every document that the grammar allows, whatever its
strings and numbers look like and whatever blanks stand between its tokens, the highlighted runs are
its keys, strings, truth values, nulls and numbers, in their order and each in its style. -/
theorem highlightJson_document (document : Json.Document) :
    highlightJson document.text = document.spans := by
  apply (Highlight.liesApart_json document.text).eq_of_mem_iff document.liesApart_spans
  intro span
  exact ⟨document.mem_spans, document.mem_highlightJson⟩

/-- An object with an array in it, and blanks and escapes of several kinds. -/
def Json.Document.nested : Json.Document :=
  let digit (c : Char) (isDigit : c.isDigit = true) : Digits :=
    ⟨[c], List.cons_ne_nil c [], List.forall_mem_singleton.mpr isDigit⟩
  let exponent : Exponent :=
    ⟨'e', .inl rfl, some '+', fun _ sign => .inl (Option.some.inj sign).symm, digit '3' rfl⟩
  let number : Numeral :=
    ⟨true, digit '1' rfl, fun zero => (nomatch zero), some (digit '5' rfl), some exponent⟩
  let key : List Stroke := [.plain 'k' (by decide) (by decide) (by decide)]
  let string : List Stroke := [.code ['0', '0', '4', '1'] rfl (List.all_eq_true.mp rfl),
    .escape '"' (by decide)]
  { value := .object [(key, .array [.number number, .string string, .bool true])]
    pieces := [.mark .openObject, .blank .space, .key key, .blank .tab, .mark .colon, .blank .space,
      .mark .openArray, .number number, .mark .comma, .blank .lineFeed, .string string,
      .mark .comma, .blank .space, .bool true, .mark .closeArray, .mark .closeObject]
    isSpelled := rfl }

theorem highlightJson_document_nested :
    highlightJson "\x7b \"k\"\t: [-1.5e+3,\n\"\\u0041\\\"\", true]\x7d".toList =
      [⟨⟨2, 5⟩, .jsonKey⟩, ⟨⟨9, 16⟩, .jsonNumber⟩, ⟨⟨18, 28⟩, .jsonString⟩,
        ⟨⟨30, 34⟩, .jsonBoolean⟩] :=
  highlightJson_document .nested

end SqlAssist
