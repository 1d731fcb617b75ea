import SqlAssist.Proofs.Projection

/-!
# Quoting and lexing are inverse

A name between quotes is read as one token that stands for that name, whatever the name is
(`reads_enclosed`). The converse is about any quoted run of any text: what it stands for, put
between quotes again, is the run as it was written. Only a run without a closing quote is not
written in full; it ends the text, and the quote it lacks is all that is missing
(`Reads.exists_value`).
-/
namespace SqlAssist

open Lexer

/-- A text between quotes, with each quote in it written twice. -/
def enclosed (quote : Char) (content : List Char) : List Char :=
  quote :: (doubled quote content ++ [quote])

theorem quoted_eq_enclosed (name : List Char) : quoted name = enclosed '"' name := rfl

/-- A token at the end of a text, which lacks its closing quote. -/
structure Token.Unclosed (text : List Char) (token : Token) : Prop where
  isOpen : token.isOpenRun = true
  last : (tokenize text).getLast? = some token
  reaches : token.stop = text.length

/-! ## What a quoted run stands for -/

theorem value?_of_quoteKind? {quote : Char} {kind : TokenKind}
    (isQuote : quoteKind? quote = some kind) (body : List Char) :
    Lexeme.value? ⟨kind, quote :: body⟩ = some (unquoted quote body) := by
  rcases quoteKind?_eq_some_iff.mp isQuote with ⟨rfl, rfl⟩ | ⟨rfl, rfl⟩ <;> rfl

theorem unquoted_cons_of_ne {quote c : Char} (other : c ≠ quote) (cs : List Char) :
    unquoted quote (c :: cs) = c :: unquoted quote cs := by
  cases cs with
  | nil => simp [unquoted, other]
  | cons d rest => rw [unquoted, if_neg other]

/-- Without a closing quote all of the run counts. -/
theorem unquoted_doubled_open (quote : Char) (content : List Char) :
    unquoted quote (doubled quote content) = content := by
  induction content with
  | nil => rfl
  | cons c content ih =>
      by_cases isQuote : c = quote
      · subst isQuote
        rw [doubled_cons_quote, unquoted, if_pos rfl, if_pos rfl, ih]
      · rw [doubled_cons_of_ne isQuote, unquoted_cons_of_ne isQuote, ih]

/-- A text between quotes is one lexeme, unless another quote is behind it. -/
theorem reads_enclosed {quote : Char} {kind : TokenKind} (isQuote : quoteKind? quote = some kind)
    (content : List Char) {rest : List Char} (stops : Stops (· == quote) rest) :
    Reads ⟨kind, enclosed quote content⟩ rest ∧
      Lexeme.value? ⟨kind, enclosed quote content⟩ = some content := by
  refine ⟨.quotedRun isQuote stops, ?_⟩
  rw [enclosed, value?_of_quoteKind? isQuote, unquoted_doubled]

/-- A quoted run is what it stands for between quotes. If it is open, nothing is behind it, and it
lacks the closing quote only. -/
theorem Lexer.Reads.exists_value {lexeme : Lexeme} {rest : List Char} {quote : Char}
    (reads : Reads lexeme rest) (isQuote : quoteKind? quote = some lexeme.kind) :
    ∃ value, lexeme.value? = some value ∧
      (enclosed quote value = lexeme.text ∨
        lexeme.isOpenRun = true ∧ rest = [] ∧ enclosed quote value = lexeme.text ++ [quote]) := by
  -- The kind of a quoted run tells its quote.
  have sameQuote : ∀ {other : Char}, quoteKind? other = some lexeme.kind → other = quote := by
    intro other isOther
    rcases quoteKind?_eq_some_iff.mp isQuote with ⟨rfl, kind⟩ | ⟨rfl, kind⟩ <;>
      rcases quoteKind?_eq_some_iff.mp isOther with ⟨rfl, kind'⟩ | ⟨rfl, kind'⟩ <;> simp_all
  cases reads with
  | quotedRun isRun stops =>
      rename_i name
      obtain rfl := sameQuote isRun
      exact ⟨name, (reads_enclosed isQuote name stops).2, .inl rfl⟩
  | openRun isRun =>
      rename_i name
      obtain rfl := sameQuote isRun
      refine ⟨name, ?_, .inr ⟨isOpenRun_of_openRun isQuote name, rfl, rfl⟩⟩
      rw [value?_of_quoteKind? isQuote, unquoted_doubled_open]
  | punctuation mark =>
      rcases punctuation?_eq_some mark with ⟨_, rfl⟩ | ⟨_, rfl⟩ | ⟨_, rfl⟩ | ⟨_, rfl⟩ <;>
        simp [quoteKind?_eq_some_iff] at isQuote
  | word =>
      rename_i c run _ _ _ _
      rcases wordKind_eq (c :: run) with kind | kind <;>
        simp [quoteKind?_eq_some_iff, kind] at isQuote
  | space | lineComment | blockComment | openComment | number | lone =>
      simp [quoteKind?_eq_some_iff] at isQuote

/-! ## Tokens of a text -/

theorem Lexer.Reads.lex_append {lexeme : Lexeme} {rest : List Char} (reads : Reads lexeme rest) :
    lex (lexeme.text ++ rest) = lexeme :: lex rest := by
  have alone : ReadsAll rest [lexeme] := ⟨reads, trivial⟩
  simpa using alone.lex_append

/-- A token is of the grammar before what the tokens behind it spell. -/
theorem exists_reads_around {text : List Char} {token : Token} (member : token ∈ tokenize text) :
    ∃ left right, Lexer.lex text = left ++ token.toLexeme :: right ∧
      token.start = (Lexeme.spelling left).length ∧
      Reads token.toLexeme (Lexeme.spelling right) := by
  obtain ⟨left, right, lexemes, start⟩ := exists_lexemes_around member
  have all := readsAll_lex text
  rw [lexemes, readsAll_append] at all
  obtain ⟨_, reads, _⟩ := all
  rw [List.append_nil] at reads
  exact ⟨left, right, lexemes, start, reads⟩

/-- A token that nothing is behind ends the text. -/
theorem reaches_of_spelling_eq_nil {text : List Char} {token : Token} {left right : List Lexeme}
    (lexemes : Lexer.lex text = left ++ token.toLexeme :: right)
    (start : token.start = (Lexeme.spelling left).length) (nothing : Lexeme.spelling right = []) :
    (tokenize text).getLast? = some token ∧ token.stop = text.length := by
  have last : right = [] := by
    cases right with
    | nil => rfl
    | cons next more =>
        have inhabited : next.text ≠ [] := @lex_text_ne_nil text next (by simp [lexemes])
        simp [inhabited] at nothing
  subst last
  have length := congrArg List.length (spelling_lex text)
  rw [lexemes] at length
  constructor
  · rw [tokenize, lexemes, Token.place_append, Nat.zero_add, ← start]
    simp
  · rw [← length, Token.stop, start]
    simp

/-- A quoted run of a text, by its quote: it is its value between quotes, or it is unclosed and
lacks one of them. -/
theorem exists_enclosed {text : List Char} {token : Token} {quote : Char}
    (member : token ∈ tokenize text) (isQuote : quoteKind? quote = some token.kind) :
    ∃ value, token.value? = some value ∧
      (enclosed quote value = token.range.slice text ∨
        token.Unclosed text ∧ enclosed quote value = token.range.slice text ++ [quote]) := by
  obtain ⟨left, right, lexemes, start, reads⟩ := exists_reads_around member
  obtain ⟨value, isValue, written⟩ := reads.exists_value isQuote
  rw [slice_range member]
  refine ⟨value, isValue, written.imp_right ?_⟩
  rintro ⟨isOpen, nothing, written⟩
  obtain ⟨last, reaches⟩ := reaches_of_spelling_eq_nil lexemes start nothing
  exact ⟨⟨isOpen, last, reaches⟩, written⟩

/-- Quoting and lexing are inverse. A quoted name is the first token of a text that starts with it
and does not go on with another quote, and the token stands for that name. Conversely, every quoted
name and every string of any text is what it stands for between quotes; or it is unclosed, ends the
text, and lacks the closing quote only. -/
theorem quoting_lexing_inverse :
    (∀ name rest : List Char, rest.head? ≠ some '"' →
      ∃ first more, tokenize (quoted name ++ rest) = first :: more ∧
        first.kind = .quotedIdentifier ∧ first.range = ⟨0, (quoted name).length⟩ ∧
        first.value? = some name) ∧
    (∀ (text : List Char), ∀ token ∈ tokenize text, token.kind = .quotedIdentifier →
      ∃ value, token.value? = some value ∧
        (quoted value = token.range.slice text ∨
          token.Unclosed text ∧ quoted value = token.range.slice text ++ ['"'])) ∧
    (∀ (text : List Char), ∀ token ∈ tokenize text, token.kind = .stringLiteral →
      ∃ value, token.value? = some value ∧
        (enclosed '\'' value = token.range.slice text ∨
          token.Unclosed text ∧ enclosed '\'' value = token.range.slice text ++ ['\''])) := by
  simp only [quoted_eq_enclosed]
  refine ⟨?_, ?_, ?_⟩
  · intro name rest apart
    obtain ⟨reads, isValue⟩ := reads_enclosed rfl name (stops_beq_iff.mpr apart)
    refine ⟨⟨⟨.quotedIdentifier, enclosed '"' name⟩, 0⟩,
      Token.place (0 + (enclosed '"' name).length) (lex rest), ?_, rfl, ?_, isValue⟩
    · rw [tokenize, reads.lex_append, Token.place_cons]
    · simp [Token.range, Token.stop]
  · intro text token member kind
    exact exists_enclosed member (by rw [kind]; rfl)
  · intro text token member kind
    exact exists_enclosed member (by rw [kind]; rfl)

/-- A name made of quotes before another word, a name of which only the opening quote and a doubled
one are there, and a string that holds a quote. -/
theorem quoting_lexing_inverse_quotes :
    (∃ first more, tokenize (quoted "\"a\"\"".toList ++ "x".toList) = first :: more ∧
      first.kind = .quotedIdentifier ∧ first.range = ⟨0, (quoted "\"a\"\"".toList).length⟩ ∧
      first.value? = some "\"a\"\"".toList) ∧
    (∃ token ∈ tokenize "'it''s'\"\"\"".toList, token.kind = .quotedIdentifier ∧
      ∃ value, token.value? = some value ∧
        (quoted value = token.range.slice "'it''s'\"\"\"".toList ∨
          token.Unclosed "'it''s'\"\"\"".toList ∧
            quoted value = token.range.slice "'it''s'\"\"\"".toList ++ ['"'])) ∧
    (∃ token ∈ tokenize "'it''s'\"\"\"".toList, token.kind = .stringLiteral ∧
      ∃ value, token.value? = some value ∧
        (enclosed '\'' value = token.range.slice "'it''s'\"\"\"".toList ∨
          token.Unclosed "'it''s'\"\"\"".toList ∧
            enclosed '\'' value = token.range.slice "'it''s'\"\"\"".toList ++ ['\''])) := by
  obtain ⟨names, quotedNames, strings⟩ := quoting_lexing_inverse
  have name : ⟨⟨.quotedIdentifier, "\"\"\"".toList⟩, 7⟩ ∈ tokenize "'it''s'\"\"\"".toList := by
    decide +kernel
  have string : ⟨⟨.stringLiteral, "'it''s'".toList⟩, 0⟩ ∈ tokenize "'it''s'\"\"\"".toList := by
    decide +kernel
  exact ⟨names _ _ (by decide), ⟨_, name, rfl, quotedNames _ _ name rfl⟩,
    ⟨_, string, rfl, strings _ _ string rfl⟩⟩

end SqlAssist
