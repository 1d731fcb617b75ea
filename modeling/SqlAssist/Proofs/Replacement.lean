import SqlAssist.Proofs.Locality
import SqlAssist.Proofs.SelectParts

/-!
# Replacing a column list

Another text in the place of the column list is found as the column list again, if it is one by
itself and if neither end of it melts into the text around it. `Parts.replace` is this step on
lexemes: it divides the new text into the old opening, the new columns and the old closing.
`columnList?_splice` is the law for texts, with white space on both sides of the list.
-/
namespace SqlAssist

/-- A quoted run that lacks its closing quote. The quotes between its ends are doubled, so one is
missing exactly if their number is odd. -/
def Lexeme.isOpenRun (lexeme : Lexeme) : Bool :=
  match lexeme.kind with
  | .stringLiteral => lexeme.text.count '\'' % 2 == 1
  | .quotedIdentifier => lexeme.text.count '"' % 2 == 1
  | _ => false

/-- The text with another one in the place of a range. -/
def splice (text : List Char) (range : TextRange) (middle : List Char) : List Char :=
  text.take range.start.toNat ++ middle ++ text.drop range.stop.toNat

theorem splice_middle (before old after middle : List Char) :
    splice (before ++ old ++ after) ⟨before.length, (before.length + old.length : Nat)⟩ middle =
      before ++ middle ++ after := by
  have front : (before ++ old ++ after).take before.length = before := by
    rw [List.append_assoc, List.take_left]
  have back : (before ++ old ++ after).drop (before.length + old.length) = after := by
    rw [← List.length_append, List.drop_left]
  rw [splice, Int.toNat_natCast, Int.toNat_natCast, front, back]

namespace Lexer

/-! ## Lexemes before white space, and before what is not -/

theorem count_doubled (quote : Char) (name : List Char) :
    (doubled quote name).count quote = 2 * name.count quote := by
  induction name with
  | nil => rfl
  | cons c name ih =>
      by_cases isQuote : c = quote
      · subst isQuote
        rw [doubled_cons_quote, List.count_cons_self, List.count_cons_self, List.count_cons_self,
          ih]
        omega
      · rw [doubled_cons_of_ne isQuote, List.count_cons_of_ne isQuote,
          List.count_cons_of_ne isQuote, ih]

/-- The number of its quotes tells whether a quoted run is open. -/
theorem isOpenRun_of_openRun {quote : Char} {kind : TokenKind}
    (isQuote : quoteKind? quote = some kind) (name : List Char) :
    Lexeme.isOpenRun ⟨kind, quote :: doubled quote name⟩ = true := by
  have odd : (quote :: doubled quote name).count quote % 2 = 1 := by
    rw [List.count_cons_self, count_doubled]
    omega
  rcases quoteKind?_eq_some_iff.mp isQuote with ⟨rfl, rfl⟩ | ⟨rfl, rfl⟩
  · exact beq_iff_eq.mpr odd
  · exact beq_iff_eq.mpr odd

theorem isOpenRun_of_quotedRun {quote : Char} {kind : TokenKind}
    (isQuote : quoteKind? quote = some kind) (name : List Char) :
    Lexeme.isOpenRun ⟨kind, quote :: (doubled quote name ++ [quote])⟩ = false := by
  have even : (quote :: (doubled quote name ++ [quote])).count quote % 2 = 0 := by
    rw [List.count_cons_self, List.count_append, List.count_singleton_self, count_doubled]
    omega
  rcases quoteKind?_eq_some_iff.mp isQuote with ⟨rfl, rfl⟩ | ⟨rfl, rfl⟩ <;>
    simp only [Lexeme.isOpenRun, even] <;> rfl

/-- An open run reaches the end of the text. -/
theorem Reads.rest_of_isOpenRun {lexeme : Lexeme} {rest : List Char} (reads : Reads lexeme rest)
    (isOpen : lexeme.isOpenRun = true) : rest = [] := by
  cases reads with
  | openComment | openRun => rfl
  | quotedRun isQuote =>
      rw [isOpenRun_of_quotedRun isQuote] at isOpen
      cases isOpen
  | punctuation mark =>
      rcases punctuation?_eq_some mark with ⟨_, rfl⟩ | ⟨_, rfl⟩ | ⟨_, rfl⟩ |
        ⟨_, rfl⟩ <;> cases isOpen
  | word =>
      rename_i c run _ _ _ _
      unfold wordKind at isOpen
      split at isOpen <;> cases isOpen
  | space | lineComment | blockComment | number | lone => cases isOpen

theorem isSpace_cases {c : Char} (space : isSpace c = true) :
    c = ' ' ∨ c = '\t' ∨ c = '\r' ∨ c = '\n' := by
  simpa [isSpace, or_assoc] using space

theorem isWordChar_of_isSpace {c : Char} (space : isSpace c = true) :
    Text.isWordChar c = false := by
  rcases isSpace_cases space with rfl | rfl | rfl | rfl <;> decide

theorem Exponent.stops_isSpace {tail : List Char} {p : Char → Bool} (form : Exponent tail p)
    {c : Char} (space : isSpace c = true) : p c = false := by
  cases form <;> rcases isSpace_cases space with rfl | rfl | rfl | rfl <;> decide

theorem opens_isSpace (d : Char) {c : Char} (space : isSpace c = true) : opens d c = false := by
  unfold opens
  repeat' split
  all_goals rcases isSpace_cases space with rfl | rfl | rfl | rfl <;> decide

/-- Any lexeme that is complete stands before white space. -/
theorem Reads.before_space {lexeme : Lexeme} (reads : Reads lexeme [])
    (solid : lexeme.isTrivia = false) (complete : lexeme.isOpenRun = false) {c : Char}
    (space : isSpace c = true) (rest : List Char) : Reads lexeme (c :: rest) := by
  cases reads with
  | space | lineComment | blockComment | openComment => cases solid
  | quotedRun isQuote _ =>
      refine .quotedRun isQuote ?_
      rw [stops_cons, beq_eq_false_iff_ne]
      rintro rfl
      rcases quoteKind?_eq_some_iff.mp isQuote with ⟨rfl, _⟩ | ⟨rfl, _⟩ <;> cases space
  | openRun isQuote =>
      -- This is the case that completeness is there for: more text would go into the run.
      rw [isOpenRun_of_openRun isQuote] at complete
      cases complete
  | punctuation mark => exact .punctuation mark
  | number start inside form _ => exact .number start inside form (form.stops_isSpace space)
  | word start noDigit inside _ =>
      exact .word start noDigit inside (isWordChar_of_isSpace space)
  | lone isLone _ => exact .lone isLone (opens_isSpace _ space)

theorem isWordChar_of_isWordStart {c : Char} (start : isWordStart c = true) :
    Text.isWordChar c = true := by
  simp only [isWordStart, Bool.or_eq_true] at start
  simp only [Text.isWordChar, Text.isAlphanumeric, Bool.or_eq_true]
  rcases start with letter | underscore
  · exact .inl (.inl (.inl letter))
  · exact .inr underscore

/-- Trivia and keywords that have a solid character behind them stand before any other solid
character, unless both are of words. A line comment is not among them: a line end is behind it. -/
theorem Reads.before_solid {lexeme : Lexeme} {d : Char} {ds : List Char}
    (reads : Reads lexeme (d :: ds)) (kind : lexeme.isTrivia = true ∨ lexeme.kind = .keyword)
    (solid : isSpace d = false) {c : Char} (space : isSpace c = false)
    (edge : Text.isWordChar c = false ∨ lexeme.text.getLast?.any isSpace = true)
    (rest : List Char) : Reads lexeme (c :: rest) := by
  cases reads with
  | space start inside _ => exact .space start inside space
  | lineComment inside stops =>
      -- The character behind it could only be a line end.
      have lineEnd : d = '\n' := by simpa using stops
      rw [lineEnd] at solid
      cases solid
  | blockComment clean => exact .blockComment clean
  | quotedRun isQuote _ =>
      rcases quoteKind?_eq_some_iff.mp isQuote with ⟨_, rfl⟩ | ⟨_, rfl⟩ <;>
        rcases kind with trivia | keyword <;> contradiction
  | punctuation mark =>
      rcases punctuation?_eq_some mark with ⟨_, rfl⟩ | ⟨_, rfl⟩ | ⟨_, rfl⟩ | ⟨_, rfl⟩ <;>
        rcases kind with trivia | keyword <;> contradiction
  | number => rcases kind with trivia | keyword <;> contradiction
  | lone => rcases kind with trivia | keyword <;> contradiction
  | word start noDigit inside _ =>
      rename_i first run
      refine .word start noDigit inside ?_
      rcases edge with noWord | blank
      · exact noWord
      · -- A word does not end in white space.
        obtain ⟨last, isLast, blank⟩ := (Option.any_eq_true _ _).mp blank
        have inWord : Text.isWordChar last = true := by
          rcases List.mem_cons.mp (List.mem_of_getLast? isLast) with rfl | later
          · exact isWordChar_of_isWordStart start
          · exact inside last later
        rw [isWordChar_of_isSpace blank] at inWord
        cases inWord

end Lexer

namespace ColumnList

open Lexer

/-! ## The edges of an opening -/

theorem Opening.trivia_or_keyword {distinct : Bool} {opening : List Lexeme}
    (isOpening : Opening distinct opening) {lexeme : Lexeme} (member : lexeme ∈ opening) :
    lexeme.isTrivia = true ∨ lexeme.isKeyword "SELECT" = true ∨
      (distinct = true ∧ lexeme.isKeyword "DISTINCT" = true) := by
  induction isOpening with
  | select leadTrivia select gapTrivia =>
      rcases List.mem_append.mp member with inLead | later
      · exact .inl (leadTrivia lexeme inLead)
      · rcases List.mem_cons.mp later with rfl | inGap
        · exact .inr (.inl select)
        · exact .inl (gapTrivia lexeme inGap)
  | distinct _ keyword gapTrivia ih =>
      rcases List.mem_append.mp member with before | later
      · rcases ih before with trivia | select | ⟨no, _⟩
        · exact .inl trivia
        · exact .inr (.inl select)
        · cases no
      · rcases List.mem_cons.mp later with rfl | inGap
        · exact .inr (.inr ⟨rfl, keyword⟩)
        · exact .inl (gapTrivia lexeme inGap)

theorem Opening.kind {distinct : Bool} {opening : List Lexeme}
    (isOpening : Opening distinct opening) {lexeme : Lexeme} (member : lexeme ∈ opening) :
    lexeme.isTrivia = true ∨ lexeme.kind = .keyword := by
  rcases isOpening.trivia_or_keyword member with trivia | select | ⟨_, keyword⟩
  · exact .inl trivia
  · exact .inr (kind_of_isKeyword select)
  · exact .inr (kind_of_isKeyword keyword)

/-- An opening without `DISTINCT` has none anywhere. -/
theorem Opening.not_distinct {opening : List Lexeme} (isOpening : Opening false opening)
    {lexeme : Lexeme} (member : lexeme ∈ opening) : lexeme.isKeyword "DISTINCT" = false := by
  cases keyword : lexeme.isKeyword "DISTINCT" with
  | false => rfl
  | true =>
      rcases isOpening.trivia_or_keyword member with trivia | select | ⟨no, _⟩
      · rw [isTrivia_of_isKeyword keyword] at trivia
        cases trivia
      · exact absurd (keyword_unique keyword select) (by decide)
      · cases no

/-- The text of columns starts with a character that is not white space. -/
theorem Columns.exists_head {distinct : Bool} {columns : List Lexeme} {rest : List Char}
    (isColumns : Columns distinct columns) (reads : ReadsAll rest columns) :
    ∃ c cs, Lexeme.spelling columns ++ rest = c :: cs ∧ isSpace c = false := by
  obtain ⟨first, isFirst, notTrivia, _⟩ := isColumns.begins
  cases columns with
  | nil => cases isFirst
  | cons head more =>
      obtain rfl : head = first := Option.some.inj isFirst
      obtain ⟨c, cs, spelled, _⟩ := reads.1.first_eq
      refine ⟨c, cs ++ Lexeme.spelling more ++ rest, by simp [spelled], ?_⟩
      cases space : isSpace c with
      | false => rfl
      | true =>
          rw [Lexeme.isTrivia, reads.1.kind_of_isSpace spelled space] at notTrivia
          cases notTrivia

/-! ## Putting other columns in place -/

namespace Parts

variable {text : List Char}

/-- Each part stands before the text of the next. -/
theorem reads (parts : Parts text) :
    ReadsAll (Lexeme.spelling parts.columns ++ Lexeme.spelling parts.closing) parts.opening ∧
    ReadsAll (Lexeme.spelling parts.closing) parts.columns ∧ ReadsAll [] parts.closing := by
  have all := readsAll_lex text
  rw [parts.lexemes, readsAll_append, readsAll_append] at all
  simp only [List.append_nil] at all
  exact ⟨all.1.1, all.1.2, all.2⟩

/-- The opening stands before any other text that starts with a solid character, unless a word would
be behind a word. -/
theorem readsAll_opening (parts : Parts text) {c : Char} (space : isSpace c = false)
    (edge : Text.isWordChar c = false ∨
      (text.take parts.range.start.toNat).getLast?.any isSpace = true) (rest : List Char) :
    ReadsAll (c :: rest) parts.opening := by
  obtain ⟨openingReads, columnReads, _⟩ := parts.reads
  obtain ⟨d, ds, behind, solid⟩ := parts.isColumns.exists_head columnReads
  rw [behind] at openingReads
  apply openingReads.change
  intro last isLast lastReads
  have member : last ∈ parts.opening := List.mem_of_getLast? isLast
  refine lastReads.before_solid (parts.isOpening.kind member) solid space ?_ rest
  apply edge.imp_right
  intro blank
  -- The last character of the opening is that of its last lexeme.
  obtain ⟨before, opening⟩ := List.getLast?_eq_some_iff.mp isLast
  obtain ⟨e, es, spelled, _⟩ := lastReads.first_eq
  rw [parts.take_start, opening, Lexeme.spelling_append, Lexeme.spelling_cons,
    Lexeme.spelling_nil, List.append_nil, List.getLast?_append, spelled, List.getLast?_cons,
    Option.some_or] at blank
  rw [spelled, List.getLast?_cons]
  exact blank

theorem splice_eq (parts : Parts text) (middle : List Char) :
    splice text parts.range middle =
      Lexeme.spelling parts.opening ++ middle ++ Lexeme.spelling parts.closing := by
  rw [splice, parts.take_start, parts.drop_stop]

/-- The text with other columns, divided. -/
def replace (parts : Parts text) {columns : List Lexeme}
    (isColumns : Columns parts.distinct columns)
    (front : ReadsAll (Lexeme.spelling columns ++ Lexeme.spelling parts.closing) parts.opening)
    (middle : ReadsAll (Lexeme.spelling parts.closing) columns) :
    Parts (splice text parts.range (Lexeme.spelling columns)) where
  distinct := parts.distinct
  opening := parts.opening
  columns := columns
  closing := parts.closing
  lexemes := by
    rw [parts.splice_eq]
    refine lex_eq_iff.mpr ⟨?_, by rw [Lexeme.spelling_append, Lexeme.spelling_append]⟩
    rw [readsAll_append, readsAll_append]
    simp only [List.append_nil]
    exact ⟨⟨front, middle⟩, parts.reads.2.2⟩
  isOpening := parts.isOpening
  isColumns := isColumns
  isClosing := parts.isClosing

theorem range_replace (parts : Parts text) {columns : List Lexeme}
    (isColumns : Columns parts.distinct columns)
    (front : ReadsAll (Lexeme.spelling columns ++ Lexeme.spelling parts.closing) parts.opening)
    (middle : ReadsAll (Lexeme.spelling parts.closing) columns) :
    (parts.replace isColumns front middle).range =
      ⟨parts.range.start, parts.range.start + (Lexeme.spelling columns).length⟩ := by
  simp only [range, replace, Int.natCast_add]

/-- The tokens of the parts, one behind the other. -/
theorem tokens (parts : Parts text) :
    tokenize text = Token.place 0 parts.opening ++
      Token.place (Lexeme.spelling parts.opening).length parts.columns ++
      Token.place ((Lexeme.spelling parts.opening).length +
        (Lexeme.spelling parts.columns).length) parts.closing := by
  rw [tokenize, parts.lexemes, Token.place_append, Token.place_append, Lexeme.spelling_append,
    List.length_append, Nat.zero_add, Nat.zero_add]

/-- The tokens that end before the columns are those of the opening. -/
theorem mem_opening (parts : Parts text) {token : Token} (member : token ∈ tokenize text)
    (before : (token.stop : Int) ≤ parts.range.start) : token.toLexeme ∈ parts.opening := by
  have inhabited := start_lt_stop member
  simp only [range] at before
  rw [parts.tokens, List.mem_append, List.mem_append] at member
  rcases member with (inOpening | inColumns) | inClosing
  · exact Token.toLexeme_mem_of_mem_place inOpening
  · have bounds := Token.bounds_of_mem_place inColumns
    omega
  · have bounds := Token.bounds_of_mem_place inClosing
    omega

/-- The tokens in the range of the columns are those of the columns. -/
theorem tokens_inside (parts : Parts text) :
    (tokenize text).filter (fun token => parts.range.contains token.range) =
      Token.place (Lexeme.spelling parts.opening).length parts.columns := by
  have inhabited : ∀ token ∈ tokenize text, token.start < token.stop := fun _ => start_lt_stop
  rw [parts.tokens] at inhabited ⊢
  rw [List.filter_append, List.filter_append, List.filter_eq_nil_iff.mpr,
    List.filter_eq_self.mpr, List.filter_eq_nil_iff.mpr, List.nil_append, List.append_nil]
  · intro token member inside
    have bounds := Token.bounds_of_mem_place member
    have length := inhabited token (List.mem_append_right _ member)
    rw [Token.contains_range_iff] at inside
    simp only [range] at inside
    omega
  · intro token member
    have bounds := Token.bounds_of_mem_place member
    rw [Token.contains_range_iff]
    simp only [range]
    omega
  · intro token member inside
    have bounds := Token.bounds_of_mem_place member
    have length := inhabited token (List.mem_append_left _ (List.mem_append_left _ member))
    rw [Token.contains_range_iff] at inside
    simp only [range] at inside
    omega

/-- The solid tokens in the range of the columns are those of the columns. -/
theorem significant_inside (parts : Parts text) :
    (significant (tokenize text)).filter (fun token => parts.range.contains token.range) =
      significant (Token.place (Lexeme.spelling parts.opening).length parts.columns) := by
  rw [← parts.tokens_inside, significant, significant, List.filter_filter, List.filter_filter]
  congr 1
  funext token
  exact Bool.and_comm ..

end Parts

end ColumnList

open ColumnList

/-- The replacement law. In a text whose column list has white space on both sides, put another text
in its place that starts and ends with a solid token, the last of them complete; that has no `FROM`
at depth zero and comes back to that depth; and that does not start with `DISTINCT`, unless there is
one before it. Then the column list is that text. -/
theorem columnList?_splice {text replacement : List Char} {range : TextRange}
    (located : columnList? text = some range)
    (before : (text.take range.start.toNat).getLast?.any Lexer.isSpace = true)
    (after : (text.drop range.stop.toNat).head?.any Lexer.isSpace = true)
    {first last : Token} (isFirst : (tokenize replacement).head? = some first)
    (isLast : (tokenize replacement).getLast? = some last)
    (solidFirst : first.isTrivia = false) (solidLast : last.isTrivia = false)
    (complete : last.isOpenRun = false)
    (level : depth? 0 ((tokenize replacement).map (·.toLexeme)) = some 0)
    (distinct : first.isKeyword "DISTINCT" = true → ∃ token ∈ tokenize text,
      token.isKeyword "DISTINCT" = true ∧ (token.stop : Int) ≤ range.start) :
    columnList? (splice text range replacement) =
      some ⟨range.start, range.start + replacement.length⟩ := by
  obtain ⟨parts, rfl⟩ := columnList?_eq_some_iff.mp located
  have firstLexeme : (Lexer.lex replacement).head? = some first.toLexeme := by
    rw [← map_toLexeme_tokenize, List.head?_map, isFirst]
    rfl
  have lastLexeme : (Lexer.lex replacement).getLast? = some last.toLexeme := by
    rw [← map_toLexeme_tokenize, List.getLast?_map, isLast]
    rfl
  have isColumns : Columns parts.distinct (Lexer.lex replacement) := by
    refine ⟨⟨first.toLexeme, firstLexeme, solidFirst, ?_⟩, ?_, ?_⟩
    · -- Without a `DISTINCT` in the opening there is none before the columns to be found.
      intro plain
      cases keyword : first.isKeyword "DISTINCT" with
      | false => rfl
      | true =>
          obtain ⟨token, member, isDistinct, stop⟩ := distinct keyword
          have isOpening := parts.isOpening
          rw [plain] at isOpening
          rw [isOpening.not_distinct (parts.mem_opening member stop)] at isDistinct
          cases isDistinct
    · intro other isOther
      obtain rfl := Option.some.inj (lastLexeme.symm.trans isOther)
      exact solidLast
    · rwa [map_toLexeme_tokenize] at level
  -- Behind the new columns is white space, which no complete lexeme goes on with.
  have middle : Lexer.ReadsAll (Lexeme.spelling parts.closing) (Lexer.lex replacement) := by
    apply (Lexer.readsAll_lex replacement).change
    intro other isOther reads
    obtain rfl := Option.some.inj (lastLexeme.symm.trans isOther)
    rw [parts.drop_stop] at after
    obtain ⟨c, isHead, space⟩ := (Option.any_eq_true _ _).mp after
    obtain ⟨rest, closing⟩ := List.head?_eq_some_iff.mp isHead
    rw [closing]
    exact reads.before_space solidLast complete space rest
  -- Before them is white space, which a solid character does not go into.
  have front : Lexer.ReadsAll
      (Lexeme.spelling (Lexer.lex replacement) ++ Lexeme.spelling parts.closing)
      parts.opening := by
    obtain ⟨c, cs, behind, solid⟩ := isColumns.exists_head middle
    rw [behind]
    exact parts.readsAll_opening solid (.inr before) cs
  have replaced := columnList?_eq_some_iff.mpr ⟨parts.replace isColumns front middle, rfl⟩
  rwa [parts.range_replace, Lexer.spelling_lex] at replaced

/-- A replacement with a `DISTINCT` of its own, a closing parenthesis too many, a subquery with its
`FROM`, and a name that is none. -/
theorem columnList?_splice_subquery :
    columnList? "SELECT DISTINCT a\n/* b */ FROM t".toList = some ⟨16, 17⟩ ∧
    columnList? (splice "SELECT DISTINCT a\n/* b */ FROM t".toList ⟨16, 17⟩
      "distinct), (select 1 from y), \"from\"".toList) = some ⟨16, 52⟩ := by
  have located : columnList? "SELECT DISTINCT a\n/* b */ FROM t".toList = some ⟨16, 17⟩ := by
    decide +kernel
  refine ⟨located, ?_⟩
  exact columnList?_splice located (by decide +kernel) (by decide +kernel)
    (show _ = some ⟨⟨.keyword, "distinct".toList⟩, 0⟩ by decide +kernel)
    (show _ = some ⟨⟨.quotedIdentifier, "\"from\"".toList⟩, 30⟩ by decide +kernel)
    (by decide) (by decide) (by decide) (by decide +kernel) (by decide +kernel)

end SqlAssist
