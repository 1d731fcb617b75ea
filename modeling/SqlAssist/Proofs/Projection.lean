import SqlAssist.Proofs.Replacement

/-!
# Rewriting a column list

`replaceColumns?` writes names between quotes and commas between names. Whatever the names are, each
is one quoted name to the lexer, and whatever stands around the old list, the new one keeps apart
from it: an opening ends in a keyword, white space or a closed comment, a closing starts with one of
these or an open comment, and the list has a quote or a star at both ends. So the new list is found
where the old one was, it holds the given names, and a later rewrite finds what it would have found
in the text as it was (`replaceColumns?_roundTrip`).
-/
namespace SqlAssist

open Lexer ColumnList

/-! ## The lexemes of a list of names -/

/-- A name between quotes. -/
def nameLexeme (column : String) : Lexeme := ⟨.quotedIdentifier, quoted column.toList⟩

/-- The lexemes of a column list made of names. -/
def columnLexemes : List String → List Lexeme
  | [] => [⟨.star, ['*']⟩]
  | [column] => [nameLexeme column]
  | column :: next :: rest =>
    nameLexeme column :: ⟨.comma, [',']⟩ :: ⟨.whitespace, [' ']⟩ :: columnLexemes (next :: rest)

/-- The kinds and the values of the tokens of a column list made of names: the names in their order
with commas between them, or a star for none. -/
def columnValues : List String → List (TokenKind × Option (List Char))
  | [] => [(.star, none)]
  | columns =>
    (columns.map fun column => (TokenKind.quotedIdentifier, some column.toList)).intersperse
      (.comma, none)

theorem spelling_columnLexemes (columns : List String) :
    Lexeme.spelling (columnLexemes columns) = projection columns := by
  fun_induction columnLexemes columns with
  | case1 => rfl
  | case2 column =>
      rw [Lexeme.spelling_cons, Lexeme.spelling_nil, List.append_nil]
      exact List.intercalate_singleton.symm
  | case3 column next rest ih =>
      simp only [Lexeme.spelling_cons, ih]
      show quoted column.toList ++ ([','] ++ ([' '] ++ projection (next :: rest))) =
        [',', ' '].intercalate (quoted column.toList :: quoted next.toList ::
          rest.map fun column => quoted column.toList)
      rw [List.intercalate_cons_cons]
      simp [projection]

/-- A name is read back from between its quotes. -/
theorem unquoted_doubled (quote : Char) (name : List Char) :
    unquoted quote (doubled quote name ++ [quote]) = name := by
  induction name with
  | nil => rw [doubled_nil, List.nil_append, unquoted, if_pos rfl]
  | cons c name ih =>
      by_cases isQuote : c = quote
      · subst isQuote
        rw [doubled_cons_quote, List.cons_append, List.cons_append, unquoted, if_pos rfl,
          if_pos rfl, ih]
      · -- The reader looks at two characters at a time, and there is always a second one.
        rw [doubled_cons_of_ne isQuote, List.cons_append]
        obtain ⟨d, ds, behind⟩ : ∃ d ds, doubled quote name ++ [quote] = d :: ds :=
          List.exists_cons_of_ne_nil (by simp)
        rw [behind] at ih ⊢
        rw [unquoted, if_neg isQuote, ih]

theorem value?_nameLexeme (column : String) : (nameLexeme column).value? = some column.toList :=
  congrArg some (unquoted_doubled '"' column.toList)

theorem reads_nameLexeme (column : String) {rest : List Char} (stops : Stops (· == '"') rest) :
    Reads (nameLexeme column) rest :=
  .quotedRun rfl stops

/-- The list starts with a quote or with a star. -/
theorem exists_head_projection (columns : List String) :
    ∃ c cs, projection columns = c :: cs ∧ (c = '"' ∨ c = '*') := by
  match columns with
  | [] => exact ⟨'*', [], rfl, .inr rfl⟩
  | [column] =>
      refine ⟨'"', doubled '"' column.toList ++ ['"'], ?_, .inl rfl⟩
      exact List.intercalate_singleton
  | column :: next :: rest => exact ⟨'"', _, List.intercalate_cons_cons, .inl rfl⟩

/-- Names stay apart from each other, and from what is behind them unless it is a quote. -/
theorem readsAll_columnLexemes (columns : List String) {rest : List Char}
    (stops : Stops (· == '"') rest) : ReadsAll rest (columnLexemes columns) := by
  fun_induction columnLexemes columns with
  | case1 => exact ⟨.punctuation rfl, trivial⟩
  | case2 column => exact ⟨reads_nameLexeme column stops, trivial⟩
  | case3 column next more ih =>
      refine ⟨reads_nameLexeme column rfl, .punctuation rfl,
        .space rfl (List.forall_mem_nil _) ?_, ih⟩
      obtain ⟨c, cs, head, isHead⟩ := exists_head_projection (next :: more)
      rw [spelling_columnLexemes, head, List.cons_append, stops_cons]
      rcases isHead with rfl | rfl <;> decide

theorem columnLexemes_begins (distinct : Bool) (columns : List String) :
    Begins distinct (columnLexemes columns) := by
  match columns with
  | [] => exact ⟨_, rfl, rfl, fun _ => rfl⟩
  | [column] => exact ⟨_, rfl, rfl, fun _ => rfl⟩
  | column :: next :: rest => exact ⟨_, rfl, rfl, fun _ => rfl⟩

theorem columnLexemes_ends (columns : List String) :
    ∀ last ∈ (columnLexemes columns).getLast?, last.isTrivia = false := by
  fun_induction columnLexemes columns with
  | case1 =>
      intro last isLast
      obtain rfl := Option.some.inj isLast
      rfl
  | case2 column =>
      intro last isLast
      obtain rfl := Option.some.inj isLast
      rfl
  | case3 column next rest ih =>
      obtain ⟨first, isFirst, _⟩ := columnLexemes_begins false (next :: rest)
      obtain ⟨more, tail⟩ := List.head?_eq_some_iff.mp isFirst
      rw [tail] at ih ⊢
      rw [List.getLast?_cons_cons, List.getLast?_cons_cons, List.getLast?_cons_cons]
      exact ih

theorem columnLexemes_level (columns : List String) :
    depth? 0 (columnLexemes columns) = some 0 := by
  fun_induction columnLexemes columns with
  | case1 => rfl
  | case2 column => rfl
  | case3 column next rest ih => exact ih

/-- A list of names can stand in a column list, whatever the names are. -/
theorem columns_columnLexemes (distinct : Bool) (columns : List String) :
    Columns distinct (columnLexemes columns) :=
  ⟨columnLexemes_begins distinct columns, columnLexemes_ends columns, columnLexemes_level columns⟩

theorem values_columnLexemes (columns : List String) :
    ((columnLexemes columns).filter (!·.isTrivia)).map
      (fun lexeme => (lexeme.kind, lexeme.value?)) = columnValues columns := by
  fun_induction columnLexemes columns with
  | case1 => rfl
  | case2 column =>
      show [(TokenKind.quotedIdentifier, (nameLexeme column).value?)] = _
      rw [value?_nameLexeme]
      rfl
  | case3 column next rest ih =>
      show (TokenKind.quotedIdentifier, (nameLexeme column).value?) :: (TokenKind.comma, none) ::
        ((columnLexemes (next :: rest)).filter (!·.isTrivia)).map
          (fun lexeme => (lexeme.kind, lexeme.value?)) = _
      rw [value?_nameLexeme, ih]
      rfl

/-! ## The tokens in a column list -/

/-- What a closing starts with is not a quote. -/
theorem ColumnList.Closing.stops_quote {closing : List Lexeme} (isClosing : Closing closing)
    (reads : ReadsAll [] closing) : Stops (· == '"') (Lexeme.spelling closing) := by
  have notQuoted : ∀ first ∈ closing.head?, first.kind ≠ .quotedIdentifier := by
    cases isClosing with
    | mk gapTrivia keyword =>
        rename_i gap tail word
        intro first isFirst isQuoted
        cases gap with
        | nil =>
            obtain rfl : word = first := Option.some.inj isFirst
            rw [kind_of_isKeyword keyword] at isQuoted
            cases isQuoted
        | cons lexeme more =>
            obtain rfl : lexeme = first := Option.some.inj isFirst
            have trivia := gapTrivia lexeme List.mem_cons_self
            rw [Lexeme.isTrivia, isQuoted] at trivia
            cases trivia
  cases closing with
  | nil => rfl
  | cons first more =>
      obtain ⟨c, cs, spelled, _⟩ := reads.1.first_eq
      rw [Lexeme.spelling_cons, spelled, List.cons_append, stops_cons, beq_eq_false_iff_ne]
      rintro rfl
      exact notQuoted first rfl (reads.1.kind_of_quoteKind? spelled rfl)

/-- The solid tokens in the range of the columns, by kind and value. -/
theorem ColumnList.Parts.values_inside {text : List Char} (parts : Parts text) :
    ((significant (tokenize text)).filter (fun token => parts.range.contains token.range)).map
        (fun token => (token.kind, token.value?)) =
      (parts.columns.filter (!·.isTrivia)).map (fun lexeme => (lexeme.kind, lexeme.value?)) := by
  have values : ∀ start, ((Token.place start parts.columns).filter (!·.isTrivia)).map
      (fun token => (token.kind, token.value?)) =
      (parts.columns.filter (!·.isTrivia)).map (fun lexeme => (lexeme.kind, lexeme.value?)) := by
    intro start
    conv => rhs; rw [← Token.map_toLexeme_place start parts.columns, List.filter_map, List.map_map]
    rfl
  rw [parts.significant_inside, significant, values]

/-! ## The rewrite -/

/-- The parts of a text with names in its column list. -/
theorem ColumnList.Parts.exists_rewritten {text : List Char} (parts : Parts text)
    (columns : List String) :
    ∃ rewritten : Parts (splice text parts.range (projection columns)),
      rewritten.opening = parts.opening ∧ rewritten.columns = columnLexemes columns ∧
      rewritten.closing = parts.closing := by
  have middle : ReadsAll (Lexeme.spelling parts.closing) (columnLexemes columns) :=
    readsAll_columnLexemes columns (parts.isClosing.stops_quote parts.reads.2.2)
  have front : ReadsAll (Lexeme.spelling (columnLexemes columns) ++
      Lexeme.spelling parts.closing) parts.opening := by
    obtain ⟨c, cs, head, isHead⟩ := exists_head_projection columns
    rw [spelling_columnLexemes, head, List.cons_append]
    rcases isHead with rfl | rfl
    · exact parts.readsAll_opening rfl (.inl (by decide)) _
    · exact parts.readsAll_opening rfl (.inl (by decide)) _
  have isColumns := columns_columnLexemes parts.distinct columns
  rw [← spelling_columnLexemes]
  exact ⟨parts.replace isColumns front middle, rfl, rfl, rfl⟩

/-- A rewritten column list is read back. In a text with a column list, whatever stands around it,
put names in its place, whatever they are: what is before the list and what is behind it stays; the
list of the new text is what was put in; its solid tokens are the names, in order and with a comma
between any two, or a star for none; and a second rewrite gives what it gives in the first text. -/
theorem replaceColumns?_roundTrip {text : List Char} {range : TextRange}
    (located : columnList? text = some range) (columns : List String) :
    ∃ result, replaceColumns? text columns = some result ∧
      result.take range.start.toNat = text.take range.start.toNat ∧
      result.drop (range.start.toNat + (projection columns).length) =
        text.drop range.stop.toNat ∧
      columnList? result = some ⟨range.start, range.start + (projection columns).length⟩ ∧
      ((significant (tokenize result)).filter (fun token => TextRange.contains
          ⟨range.start, range.start + (projection columns).length⟩ token.range)).map
          (fun token => (token.kind, token.value?)) = columnValues columns ∧
      ∀ others, replaceColumns? result others = replaceColumns? text others := by
  have rewrite : ∀ others, replaceColumns? text others =
      some (splice text range (projection others)) := by
    intro others
    rw [replaceColumns?, located]
    rfl
  obtain ⟨parts, rfl⟩ := columnList?_eq_some_iff.mp located
  obtain ⟨rewritten, opening, names, closing⟩ := parts.exists_rewritten columns
  have newRange : rewritten.range =
      ⟨parts.range.start, parts.range.start + (projection columns).length⟩ := by
    simp only [Parts.range, opening, names, spelling_columnLexemes, Int.natCast_add]
  have relocated := columnList?_eq_some_iff.mpr ⟨rewritten, rfl⟩
  have front := rewritten.take_start
  have back := rewritten.drop_stop
  rw [newRange, opening, ← parts.take_start] at front
  rw [Parts.range, Int.toNat_natCast, opening, names, spelling_columnLexemes, closing,
    ← parts.drop_stop] at back
  refine ⟨_, rewrite columns, front, back, newRange ▸ relocated, ?_, ?_⟩
  · rw [← newRange, rewritten.values_inside, names, values_columnLexemes]
  · intro others
    rw [replaceColumns?, relocated, rewrite others]
    show some (splice _ rewritten.range (projection others)) = _
    rw [rewritten.splice_eq, opening, closing, parts.splice_eq]

/-- Names that would break a list written without care, in a text without white space at the ends of
the list. -/
theorem replaceColumns?_roundTrip_hostile :
    columnList? "SELECT*/*c*/FROM t".toList = some ⟨6, 7⟩ ∧
    ∃ result, replaceColumns? "SELECT*/*c*/FROM t".toList ["a\" FROM", "--", ""] = some result ∧
      columnList? result = some ⟨6, 26⟩ ∧
      ((significant (tokenize result)).filter
          (fun token => TextRange.contains ⟨6, 26⟩ token.range)).map
          (fun token => (token.kind, token.value?)) =
        [(.quotedIdentifier, some "a\" FROM".toList), (.comma, none),
          (.quotedIdentifier, some "--".toList), (.comma, none), (.quotedIdentifier, some [])] ∧
      ∀ others, replaceColumns? result others =
        replaceColumns? "SELECT*/*c*/FROM t".toList others := by
  have located : columnList? "SELECT*/*c*/FROM t".toList = some ⟨6, 7⟩ := by decide +kernel
  have length : (projection ["a\" FROM", "--", ""]).length = 20 := by decide +kernel
  obtain ⟨result, written, _, _, relocated, values, again⟩ :=
    replaceColumns?_roundTrip located ["a\" FROM", "--", ""]
  rw [length] at relocated values
  exact ⟨located, result, written, relocated, values, again⟩

end SqlAssist
