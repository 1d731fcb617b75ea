import SqlAssist.Proofs.DecimalText
import SqlAssist.Proofs.QuotedValues
import SqlAssist.Proofs.Respacing

/-!
# The query for a stream

The query that an editor starts with is a fixed text with two holes: one for the name of the stream,
one for a number of rows. A name goes in between quotes, and between quotes any name is one lexeme,
so that the text before it and the text behind it are read as if each stood alone
(`lex_around_name`). Whatever a stream is called, the query is the same but for one token, and its
column list is the star (`defaultQuery_significant`).
-/
namespace SqlAssist

open Lexer ColumnList

/-! ## Texts around a name -/

/-- White space stands before whatever does not go on with white space. -/
theorem Lexer.Reads.before_unspaced {lexeme : Lexeme} {rest other : List Char}
    (reads : Reads lexeme rest) (blank : lexeme.kind = .whitespace) (stops : Stops isSpace other) :
    Reads lexeme other := by
  cases reads with
  | space start inside _ => exact .space start inside stops
  | quotedRun isQuote => simp_all [quoteKind?_eq_some_iff]
  | openRun isQuote => simp_all [quoteKind?_eq_some_iff]
  | punctuation mark => rcases punctuation?_eq_some mark with h | h | h | h <;> simp_all
  | word =>
      rename_i c run _ _ _ _
      rcases wordKind_eq (c :: run) with keyword | identifier <;> simp_all
  | lineComment | blockComment | openComment | number | lone => cases blank

/-- White space keeps what is before it apart from what is behind it. -/
theorem Lexer.lex_append_of_space {left right run : List Char}
    (blank : (lex left).getLast? = some ⟨.whitespace, run⟩) (stops : Stops isSpace right) :
    lex (left ++ right) = lex left ++ lex right := by
  apply lex_append
  intro last isLast reads
  obtain rfl : ⟨.whitespace, run⟩ = last := Option.some.inj (blank.symm.trans isLast)
  exact reads.before_unspaced rfl stops

/-- A name between quotes, with white space before it and no quote behind it, is one lexeme. What is
around it is read as without it, whatever the name is. -/
theorem lex_around_name {before after run : List Char} (name : String)
    (blank : (lex before).getLast? = some ⟨.whitespace, run⟩) (apart : Stops (· == '"') after) :
    lex (before ++ (quoted name.toList ++ after)) =
      lex before ++ nameLexeme name :: lex after := by
  have begins : Stops isSpace (quoted name.toList ++ after) := by
    show isSpace '"' = false
    decide
  rw [lex_append_of_space blank begins]
  exact congrArg (lex before ++ ·) (reads_nameLexeme name apart).lex_append

/-- The digits of a number are one lexeme. -/
theorem lex_toDigits (n : Nat) : lex (Nat.toDigits 10 n) = [⟨.number, Nat.toDigits 10 n⟩] := by
  have digits : ∀ d ∈ Nat.toDigits 10 n, Text.isDigit d = true := by
    intro d member
    exact Text.isDigit_of_ascii (isDigit_of_mem_toDigits n d member)
  cases spelled : Nat.toDigits 10 n with
  | nil => exact absurd spelled Nat.toDigits_ne_nil
  | cons c run =>
      rw [spelled] at digits
      obtain ⟨digit, inside⟩ := List.forall_mem_cons.mp digits
      have start : (Text.isDigit c || (c == '.' && run.head?.any Text.isDigit)) = true := by
        rw [digit, Bool.true_or]
      have mantissa : ∀ d ∈ run, isMantissa d = true := by
        intro d member
        rw [isMantissa, inside d member, Bool.true_or]
      have reads : Reads ⟨.number, c :: (run ++ [])⟩ [] :=
        .number start mantissa .none (stops_nil _)
      have nothing : lex [] = [] := lex_eq_nil_iff.mpr rfl
      simpa [nothing] using reads.lex_append

/-! ## The query -/

/-- The lexemes of the query before the name of the stream. -/
def queryOpening : List Lexeme :=
  [⟨.keyword, "SELECT".toList⟩, .space, ⟨.star, ['*']⟩, .space, ⟨.keyword, "FROM".toList⟩, .space]

/-- The lexemes of the query between the name of the stream and the number of rows. -/
def queryClosing : List Lexeme :=
  [.space, ⟨.keyword, "ORDER".toList⟩, .space, ⟨.keyword, "BY".toList⟩, .space,
   ⟨.identifier, "p_timestamp".toList⟩, .space, ⟨.keyword, "DESC".toList⟩, .space,
   ⟨.keyword, "LIMIT".toList⟩, .space]

theorem lex_queryOpening : lex "SELECT * FROM ".toList = queryOpening := by decide +kernel

theorem lex_queryClosing :
    lex " ORDER BY p_timestamp DESC LIMIT ".toList = queryClosing := by decide +kernel

theorem lex_defaultQuery (stream : String) (limit : Nat) :
    lex (defaultQuery stream limit) =
      queryOpening ++ nameLexeme stream :: (queryClosing ++
        [⟨.number, Nat.toDigits 10 limit⟩]) := by
  have query : defaultQuery stream limit = "SELECT * FROM ".toList ++ (quoted stream.toList ++
      (" ORDER BY p_timestamp DESC LIMIT ".toList ++ Nat.toDigits 10 limit)) := by
    have digits := toList_toString_natCast limit
    unfold defaultQuery
    rw [digits]
    -- Left as they are, the digits would be computed.
    generalize Nat.toDigits 10 limit = digits
    simp only [List.append_assoc]
  have opening : (lex "SELECT * FROM ".toList).getLast? = some ⟨.whitespace, [' ']⟩ := by
    rw [lex_queryOpening]
    rfl
  have closing : (lex " ORDER BY p_timestamp DESC LIMIT ".toList).getLast? =
      some ⟨.whitespace, [' ']⟩ := by
    rw [lex_queryClosing]
    rfl
  have apart : Stops isSpace (Nat.toDigits 10 limit) := by
    rw [Stops, List.head?_eq_some_head Nat.toDigits_ne_nil]
    have digit := isDigit_of_mem_toDigits limit _ (List.head_mem Nat.toDigits_ne_nil)
    generalize (Nat.toDigits 10 limit).head _ = d at digit
    cases space : isSpace d with
    | false => simpa using space
    | true => rcases isSpace_cases space with rfl | rfl | rfl | rfl <;> cases digit
  have quoteless : Stops (· == '"') (" ORDER BY p_timestamp DESC LIMIT ".toList ++
      Nat.toDigits 10 limit) := rfl
  rw [query, lex_around_name stream opening quoteless, lex_append_of_space closing apart,
    lex_toDigits, lex_queryOpening, lex_queryClosing]

/-- The query divided at its star. -/
def queryParts (stream : String) (limit : Nat) : Parts (defaultQuery stream limit) where
  distinct := false
  opening := [⟨.keyword, "SELECT".toList⟩, .space]
  columns := [⟨.star, ['*']⟩]
  closing := .space :: ⟨.keyword, "FROM".toList⟩ :: .space :: nameLexeme stream ::
    (queryClosing ++ [⟨.number, Nat.toDigits 10 limit⟩])
  lexemes := by
    rw [lex_defaultQuery]
    rfl
  isOpening := by
    have blank : AllTrivia [.space] := List.forall_mem_singleton.mpr rfl
    exact .select (List.forall_mem_nil _) (by decide) blank
  isColumns := columns_columnLexemes false []
  isClosing := by
    have blank : AllTrivia [.space] := List.forall_mem_singleton.mpr rfl
    exact .mk blank (by decide)

/-- No name of a stream can change the query. For every stream and every number of rows the tokens
of the query are the same but for those two: the name, which is one quoted name to the lexer, and
the number in decimal digits. The column list covers the star and nothing else. -/
theorem defaultQuery_significant (stream : String) (limit : Nat) :
    (significant (tokenize (defaultQuery stream limit))).map
        (fun token => (token.kind, token.value?)) =
      [(.keyword, some "SELECT".toList), (.star, none), (.keyword, some "FROM".toList),
       (.quotedIdentifier, some stream.toList), (.keyword, some "ORDER".toList),
       (.keyword, some "BY".toList), (.identifier, some "p_timestamp".toList),
       (.keyword, some "DESC".toList), (.keyword, some "LIMIT".toList),
       (.number, some (Nat.toDigits 10 limit))] ∧
    columnList? (defaultQuery stream limit) = some ⟨7, 8⟩ ∧
    TextRange.slice ⟨7, 8⟩ (defaultQuery stream limit) = ['*'] := by
  have located : columnList? (defaultQuery stream limit) = some (queryParts stream limit).range :=
    columnList?_eq_some_iff.mpr ⟨_, rfl⟩
  refine ⟨?_, located, (queryParts stream limit).slice_range⟩
  have words : (significant (tokenize (defaultQuery stream limit))).map (·.toLexeme) =
      Lexeme.solid (lex (defaultQuery stream limit)) := map_toLexeme_significant 0 _
  calc
    _ = ((significant (tokenize (defaultQuery stream limit))).map (·.toLexeme)).map
          (fun lexeme => (lexeme.kind, lexeme.value?)) := List.map_map.symm
    _ = _ := by
      rw [words, lex_defaultQuery, Lexeme.solid_append, Lexeme.solid_cons_of_not_isTrivia rfl,
        List.map_append, List.map_cons, value?_nameLexeme]
      rfl

end SqlAssist
