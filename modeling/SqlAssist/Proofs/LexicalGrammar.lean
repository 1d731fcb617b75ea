import SqlAssist.Proofs.Scanners

/-!
# The lexical grammar

`Reads lexeme rest` says which lexemes there are and what a text may go on with behind them, without
a scan: a run of white space stops before a character that is none, a quoted run is a name with its
quotes doubled, a block comment ends at the first `*/`, and so on. An open comment or an open quoted
run has nothing behind it.

`first_eq_iff` ties the grammar to the lexer: a text is cut into `lexeme` and `rest` exactly if
`Reads lexeme rest`. The lexer looks at one character behind a lexeme and no further
(`Reads.follow`), so whether a lexeme stands is decided there.
-/
namespace SqlAssist.Lexer

/-! ## Characters by which lexemes are told apart -/

/-- The kind of a quoted run, by its quote. -/
def quoteKind? : Char → Option TokenKind
  | '\'' => some .stringLiteral
  | '"' => some .quotedIdentifier
  | _ => none

/-- A character that a word starts with. -/
def isWordStart (c : Char) : Bool := Text.isLetter c || c == '_'

/-- A character that a number starts with, if a point has a digit behind it. -/
def isNumberStart (c : Char) : Bool := Text.isDigit c || c == '.'

/-- The characters that are white space, a quote or punctuation, or that open a comment. No word and
no number starts with one. -/
def reserved : List Char := [' ', '\t', '\r', '\n', '-', '/', '\'', '"', '(', ')', ',', '*']

/-- A character that is a lexeme of its own if no longer one starts there. -/
def isLone (c : Char) : Bool :=
  !isSpace c && (quoteKind? c).isNone && (punctuation? c).isNone && !Text.isDigit c &&
    !isWordStart c

/-- The characters that a lone `c` makes a longer lexeme with. -/
def opens (c : Char) : Char → Bool :=
  if c = '-' then (· == '-') else if c = '/' then (· == '*') else if c = '.' then Text.isDigit
  else fun _ => false

theorem not_mem_reserved {p : Char → Bool} (outside : reserved.all (!p ·) = true) {c : Char}
    (inside : p c = true) : c ∉ reserved := by
  intro member
  have excluded := List.all_eq_true.mp outside c member
  rw [inside] at excluded
  cases excluded

theorem not_mem_reserved_of_isNumberStart {c : Char} (start : isNumberStart c = true) :
    c ∉ reserved :=
  not_mem_reserved (by decide) start

theorem not_mem_reserved_of_isWordStart {c : Char} (start : isWordStart c = true) : c ∉ reserved :=
  not_mem_reserved (by decide) start

theorem quoteKind?_eq_some_iff {c : Char} {kind : TokenKind} :
    quoteKind? c = some kind ↔
      (c = '\'' ∧ kind = .stringLiteral) ∨ (c = '"' ∧ kind = .quotedIdentifier) := by
  unfold quoteKind?
  split <;> simp_all [eq_comm]

theorem punctuation?_eq_some {c : Char} {kind : TokenKind} (mark : punctuation? c = some kind) :
    c = '(' ∧ kind = .leftParen ∨ c = ')' ∧ kind = .rightParen ∨ c = ',' ∧ kind = .comma ∨
      c = '*' ∧ kind = .star := by
  unfold punctuation? at mark
  split at mark <;> simp_all

theorem reserved_of_punctuation? {c : Char} {kind : TokenKind} (mark : punctuation? c = some kind) :
    isSpace c = false ∧ c ≠ '-' ∧ c ≠ '/' ∧ c ≠ '\'' ∧ c ≠ '"' := by
  rcases punctuation?_eq_some mark with ⟨rfl, _⟩ | ⟨rfl, _⟩ | ⟨rfl, _⟩ | ⟨rfl, _⟩ <;> decide

theorem wordKind_eq (word : List Char) :
    wordKind word = .keyword ∨ wordKind word = .identifier := by
  unfold wordKind
  split
  · exact .inl rfl
  · exact .inr rfl

/-! ## The grammar -/

/-- The lexeme stands if the text goes on with `rest` behind it. -/
inductive Reads : Lexeme → List Char → Prop where
  | space {c : Char} {run rest : List Char} :
      isSpace c = true → (∀ d ∈ run, isSpace d = true) → Stops isSpace rest →
      Reads ⟨.whitespace, c :: run⟩ rest
  | lineComment {run rest : List Char} :
      (∀ d ∈ run, (d != '\n') = true) → Stops (· != '\n') rest →
      Reads ⟨.lineComment, '-' :: '-' :: run⟩ rest
  | blockComment {inner rest : List Char} :
      ¬ commentEnd <:+: inner ++ ['*'] →
      Reads ⟨.blockComment, '/' :: '*' :: (inner ++ commentEnd)⟩ rest
  | openComment {inner : List Char} :
      ¬ commentEnd <:+: inner → Reads ⟨.blockComment, '/' :: '*' :: inner⟩ []
  | quotedRun {quote : Char} {kind : TokenKind} {name rest : List Char} :
      quoteKind? quote = some kind → Stops (· == quote) rest →
      Reads ⟨kind, quote :: (doubled quote name ++ [quote])⟩ rest
  | openRun {quote : Char} {kind : TokenKind} {name : List Char} :
      quoteKind? quote = some kind → Reads ⟨kind, quote :: doubled quote name⟩ []
  | punctuation {c : Char} {kind : TokenKind} {rest : List Char} :
      punctuation? c = some kind → Reads ⟨kind, [c]⟩ rest
  | number {c : Char} {run tail rest : List Char} {p : Char → Bool} :
      (Text.isDigit c || (c == '.' && run.head?.any Text.isDigit)) = true →
      (∀ d ∈ run, isMantissa d = true) → Exponent tail p → Stops p rest →
      Reads ⟨.number, c :: (run ++ tail)⟩ rest
  | word {c : Char} {run rest : List Char} :
      isWordStart c = true → Text.isDigit c = false → (∀ d ∈ run, Text.isWordChar d = true) →
      Stops Text.isWordChar rest → Reads ⟨wordKind (c :: run), c :: run⟩ rest
  | lone {c : Char} {rest : List Char} :
      isLone c = true → Stops (opens c) rest → Reads ⟨.other, [c]⟩ rest

/-! ## What the lexer reads is of the grammar -/

theorem stops_beq_iff {d : Char} {rest : List Char} :
    Stops (· == d) rest ↔ rest.head? ≠ some d := by
  cases rest with
  | nil => simp
  | cons c more => simp

theorem reads_quotedRest {quote : Char} {kind : TokenKind} (isQuote : quoteKind? quote = some kind)
    (cs : List Char) :
    Reads ⟨kind, quote :: (quotedRest quote cs).1⟩ (quotedRest quote cs).2 := by
  rcases quotedRest_forms quote cs with ⟨name, body, stops⟩ | ⟨name, all⟩
  · rw [body]
    exact .quotedRun isQuote stops
  · rw [all]
    exact .openRun isQuote

theorem reads_commentRest (cs : List Char) :
    Reads ⟨.blockComment, '/' :: '*' :: (commentRest cs).1⟩ (commentRest cs).2 := by
  rcases commentRest_forms cs with ⟨inner, body, clean⟩ | ⟨all, clean⟩
  · rw [body]
    exact .blockComment clean
  · rw [all]
    exact .openComment clean

/-- A point with a digit behind it has that digit in its run. -/
theorem head?_takeWhile_isMantissa {cs : List Char} (digit : cs.head?.any Text.isDigit = true) :
    (cs.takeWhile isMantissa).head?.any Text.isDigit = true := by
  cases cs with
  | nil => cases digit
  | cons d rest =>
      have isDigit : Text.isDigit d = true := digit
      have inside : isMantissa d = true := by rw [isMantissa, isDigit, Bool.true_or]
      rw [List.takeWhile_cons_of_pos inside]
      exact isDigit

theorem stops_opens {c : Char} {cs : List Char} (noLineComment : ¬ (c = '-' ∧ cs.head? = some '-'))
    (noBlockComment : ¬ (c = '/' ∧ cs.head? = some '*'))
    (noNumber : ¬ (c = '.' ∧ cs.head?.any Text.isDigit = true)) : Stops (opens c) cs := by
  unfold opens
  split
  · rename_i isMinus
    exact stops_beq_iff.mpr fun head => noLineComment ⟨isMinus, head⟩
  split
  · rename_i isSlash
    exact stops_beq_iff.mpr fun head => noBlockComment ⟨isSlash, head⟩
  split
  · rename_i isPoint
    exact Bool.eq_false_iff.mpr fun digit => noNumber ⟨isPoint, digit⟩
  · cases cs <;> rfl

/-- The first lexeme of a text is of the grammar. -/
theorem first_reads (c : Char) (cs : List Char) : Reads (first c cs).1 (first c cs).2 := by
  fun_cases first c cs with
  | case1 space => exact .space space all_takeWhile (stops_dropWhile _ _)
  | case2 _ minuses =>
      obtain ⟨rfl, head⟩ := minuses
      cases cs with
      | nil => cases head
      | cons d rest =>
          obtain rfl : d = '-' := Option.some.inj head
          rw [List.takeWhile_cons_of_pos (by decide), List.dropWhile_cons_of_pos (by decide)]
          exact .lineComment all_takeWhile (stops_dropWhile _ _)
  | case3 _ _ opening body after parts =>
      obtain ⟨rfl, _⟩ := opening
      have reads := reads_commentRest cs.tail
      rw [parts] at reads
      exact reads
  | case4 _ _ _ isQuote body after parts =>
      subst isQuote
      have reads := reads_quotedRest (show quoteKind? '\'' = some .stringLiteral from rfl) cs
      rw [parts] at reads
      exact reads
  | case5 _ _ _ _ isQuote body after parts =>
      subst isQuote
      have reads := reads_quotedRest (show quoteKind? '"' = some .quotedIdentifier from rfl) cs
      rw [parts] at reads
      exact reads
  | case6 _ _ _ _ _ kind mark => exact .punctuation mark
  | case7 _ _ _ _ _ _ start tail after parts =>
      -- The point of `.5` is told from a lone one by the digit behind it, which is in the run.
      obtain ⟨p, form, stops⟩ := exponent_forms (stops_dropWhile isMantissa cs)
      rw [parts] at form stops
      refine .number ?_ all_takeWhile form stops
      simp only [Bool.or_eq_true, Bool.and_eq_true] at start ⊢
      exact start.imp_right fun point => ⟨point.1, head?_takeWhile_isMantissa point.2⟩
  | case8 _ _ _ _ _ _ noNumber start word =>
      simp only [Bool.or_eq_true, not_or, Bool.not_eq_true] at noNumber
      exact .word start noNumber.1 all_takeWhile (stops_dropWhile _ _)
  | case9 noSpace noLineComment noBlockComment noString noQuote noMark noNumber noWord =>
      simp only [Bool.or_eq_true, Bool.and_eq_true, beq_iff_eq, not_or] at noNumber
      refine .lone ?_ (stops_opens noLineComment noBlockComment noNumber.2)
      have noQuoteKind : quoteKind? c = none := by
        unfold quoteKind?
        split
        · exact absurd rfl noString
        · exact absurd rfl noQuote
        · rfl
      simp [isLone, noSpace, noQuoteKind, noMark, noNumber.1, isWordStart, noWord]

/-! ## What is of the grammar is read -/

theorem plain_of_not_mem_reserved {c : Char} (plain : c ∉ reserved) :
    isSpace c = false ∧ c ≠ '-' ∧ c ≠ '/' ∧ c ≠ '\'' ∧ c ≠ '"' ∧ punctuation? c = none := by
  simp only [reserved, List.mem_cons, List.not_mem_nil, or_false, not_or] at plain
  obtain ⟨blank, tab, cr, newline, minus, slash, single, double, left, right, comma, star⟩ :=
    plain
  refine ⟨by simp [isSpace, blank, tab, cr, newline], minus, slash, single, double, ?_⟩
  unfold punctuation?
  split <;> simp_all

theorem first_quotedRest {quote : Char} {kind : TokenKind} (isQuote : quoteKind? quote = some kind)
    (cs : List Char) :
    first quote cs = (⟨kind, quote :: (quotedRest quote cs).1⟩, (quotedRest quote cs).2) := by
  rcases quoteKind?_eq_some_iff.mp isQuote with ⟨rfl, rfl⟩ | ⟨rfl, rfl⟩ <;> simp [first, isSpace]

theorem first_commentRest (cs : List Char) :
    first '/' ('*' :: cs) =
      (⟨.blockComment, '/' :: '*' :: (commentRest cs).1⟩, (commentRest cs).2) := by
  simp [first, isSpace]

theorem first_punctuation {c : Char} {kind : TokenKind} (mark : punctuation? c = some kind)
    (cs : List Char) : first c cs = (⟨kind, [c]⟩, cs) := by
  obtain ⟨space, minus, slash, single, double⟩ := reserved_of_punctuation? mark
  simp [first, space, minus, slash, single, double, mark]

theorem first_number {c : Char} {cs : List Char}
    (start : (Text.isDigit c || (c == '.' && cs.head?.any Text.isDigit)) = true) :
    first c cs =
      (⟨.number, c :: (cs.takeWhile isMantissa ++ (exponent (cs.dropWhile isMantissa)).1)⟩,
        (exponent (cs.dropWhile isMantissa)).2) := by
  have begins : isNumberStart c = true := by
    simp only [Bool.or_eq_true, Bool.and_eq_true] at start
    rw [isNumberStart, Bool.or_eq_true]
    exact start.imp_right And.left
  obtain ⟨space, minus, slash, single, double, noMark⟩ :=
    plain_of_not_mem_reserved (not_mem_reserved_of_isNumberStart begins)
  unfold first
  simp only [space, minus, slash, single, double, noMark, start, false_and, if_true, if_false,
    Bool.false_eq_true, List.cons_append]

theorem first_word {c : Char} (start : isWordStart c = true) (noDigit : Text.isDigit c = false)
    (cs : List Char) :
    first c cs = (⟨wordKind (c :: cs.takeWhile Text.isWordChar), c :: cs.takeWhile Text.isWordChar⟩,
      cs.dropWhile Text.isWordChar) := by
  obtain ⟨space, minus, slash, single, double, noMark⟩ :=
    plain_of_not_mem_reserved (not_mem_reserved_of_isWordStart start)
  -- The test for a number also looks for a point, which starts no word.
  have noPoint : (c == '.') = false := by
    rw [beq_eq_false_iff_ne]
    rintro rfl
    revert start
    decide
  rw [isWordStart] at start
  unfold first
  simp only [space, minus, slash, single, double, noMark, noDigit, noPoint, start, false_and,
    if_true, if_false, Bool.false_eq_true, Bool.false_and, Bool.or_self]

theorem first_lone {c : Char} {cs : List Char} (lone : isLone c = true)
    (stops : Stops (opens c) cs) : first c cs = (⟨.other, [c]⟩, cs) := by
  simp only [isLone, Bool.and_eq_true, Bool.not_eq_true', Option.isNone_iff_eq_none] at lone
  obtain ⟨⟨⟨⟨space, noQuote⟩, noMark⟩, noDigit⟩, noWord⟩ := lone
  have single : c ≠ '\'' := by rintro rfl; cases noQuote
  have double : c ≠ '"' := by rintro rfl; cases noQuote
  have noLineComment : ¬ (c = '-' ∧ cs.head? = some '-') := by
    rintro ⟨rfl, head⟩
    exact stops_beq_iff.mp stops head
  have noBlockComment : ¬ (c = '/' ∧ cs.head? = some '*') := by
    rintro ⟨rfl, head⟩
    exact stops_beq_iff.mp stops head
  have noNumber : (c == '.' && cs.head?.any Text.isDigit) = false := by
    by_cases point : c = '.'
    · subst point
      exact stops
    · simp [point]
  rw [isWordStart] at noWord
  unfold first
  simp only [space, noLineComment, noBlockComment, single, double, noMark, noDigit, noNumber,
    noWord, if_false, Bool.false_eq_true, Bool.or_self]

/-- A lexeme of the grammar is read as the first of the text it starts. -/
theorem Reads.first_eq {lexeme : Lexeme} {rest : List Char} (reads : Reads lexeme rest) :
    ∃ c cs, lexeme.text = c :: cs ∧ first c (cs ++ rest) = (lexeme, rest) := by
  cases reads with
  | space start inside stops =>
      refine ⟨_, _, rfl, ?_⟩
      rw [first, if_pos start, takeWhile_run inside stops, dropWhile_run inside stops]
  | lineComment inside stops =>
      refine ⟨_, _, rfl, ?_⟩
      rename_i run
      have all : ∀ d ∈ '-' :: run, (d != '\n') = true := by
        intro d member
        rcases List.mem_cons.mp member with rfl | later
        · decide
        · exact inside d later
      rw [first, if_neg (by decide), if_pos ⟨rfl, rfl⟩, takeWhile_run all stops,
        dropWhile_run all stops]
  | blockComment clean =>
      refine ⟨_, _, rfl, ?_⟩
      rename_i inner
      rw [List.cons_append, first_commentRest, commentEnd, List.append_assoc]
      simp only [List.cons_append, List.nil_append]
      rw [commentRest_closed rest clean]
      rfl
  | openComment clean =>
      refine ⟨_, _, rfl, ?_⟩
      rw [List.append_nil, first_commentRest, commentRest_open clean]
  | quotedRun isQuote stops =>
      refine ⟨_, _, rfl, ?_⟩
      rw [first_quotedRest isQuote, List.append_assoc, List.singleton_append,
        quotedRest_closed stops]
  | openRun isQuote =>
      refine ⟨_, _, rfl, ?_⟩
      rw [first_quotedRest isQuote, List.append_nil, quotedRest_open]
  | punctuation mark => exact ⟨_, _, rfl, first_punctuation mark _⟩
  | number start inside form stops =>
      refine ⟨_, _, rfl, ?_⟩
      rename_i c run tail p
      obtain ⟨tailRead, mantissaStops⟩ := form.read stops
      have begins :
          (Text.isDigit c || (c == '.' && (run ++ tail ++ rest).head?.any Text.isDigit)) =
            true := by
        cases run with
        | nil =>
            rw [List.head?_nil, Option.any_none, Bool.and_false, Bool.or_false] at start
            rw [start, Bool.true_or]
        | cons d more => exact start
      rw [first_number begins, List.append_assoc, takeWhile_run inside mantissaStops,
        dropWhile_run inside mantissaStops, tailRead]
  | word start noDigit inside stops =>
      refine ⟨_, _, rfl, ?_⟩
      rw [first_word start noDigit, takeWhile_run inside stops, dropWhile_run inside stops]
  | lone isLone stops => exact ⟨_, _, rfl, first_lone isLone stops⟩

/-- A text is cut into a lexeme and a rest exactly if the grammar has the lexeme before that
rest. -/
theorem first_eq_iff {c : Char} {cs : List Char} {lexeme : Lexeme} {rest : List Char} :
    first c cs = (lexeme, rest) ↔ Reads lexeme rest ∧ lexeme.text ++ rest = c :: cs := by
  constructor
  · intro cut
    have reads := first_reads c cs
    have whole := first_append c cs
    rw [cut] at reads whole
    exact ⟨reads, whole⟩
  · rintro ⟨reads, whole⟩
    obtain ⟨d, ds, spelled, cut⟩ := reads.first_eq
    rw [spelled, List.cons_append] at whole
    obtain ⟨rfl, rfl⟩ := List.cons.inj whole
    exact cut

/-! ## One character of lookahead -/

theorem stops_nothing (rest : List Char) : Stops (fun _ => false) rest := by
  cases rest <;> rfl

/-- A lexeme with something behind it stands before every text that does not go on with a character
of some class. Only an open comment or an open quoted run reaches the end by itself. -/
theorem Reads.follow {lexeme : Lexeme} {rest : List Char} (reads : Reads lexeme rest) :
    (∃ p, Stops p rest ∧ ∀ other, Stops p other → Reads lexeme other) ∨ rest = [] := by
  cases reads with
  | space start inside stops =>
      exact .inl ⟨_, stops, fun _ otherStops => .space start inside otherStops⟩
  | lineComment inside stops =>
      exact .inl ⟨_, stops, fun _ otherStops => .lineComment inside otherStops⟩
  | blockComment clean =>
      exact .inl ⟨_, stops_nothing rest, fun _ _ => .blockComment clean⟩
  | openComment clean => exact .inr rfl
  | quotedRun isQuote stops =>
      exact .inl ⟨_, stops, fun _ otherStops => .quotedRun isQuote otherStops⟩
  | openRun isQuote => exact .inr rfl
  | punctuation mark =>
      exact .inl ⟨_, stops_nothing rest, fun _ _ => .punctuation mark⟩
  | number start inside form stops =>
      exact .inl ⟨_, stops, fun _ otherStops => .number start inside form otherStops⟩
  | word start noDigit inside stops =>
      exact .inl ⟨_, stops, fun _ otherStops => .word start noDigit inside otherStops⟩
  | lone isLone stops =>
      exact .inl ⟨_, stops, fun _ otherStops => .lone isLone otherStops⟩

/-- Whether a lexeme stands depends on the next character only. -/
theorem Reads.of_head? {lexeme : Lexeme} {rest other : List Char} (reads : Reads lexeme rest)
    (sameHead : other.head? = rest.head?) : Reads lexeme other := by
  rcases reads.follow with ⟨p, stops, stands⟩ | rfl
  · apply stands
    rw [Stops, sameHead]
    exact stops
  · rw [List.head?_nil, List.head?_eq_none_iff] at sameHead
    rw [sameHead]
    exact reads

/-- A lexeme still stands if the text is cut behind it. -/
theorem Reads.cut {lexeme : Lexeme} {rest : List Char} (reads : Reads lexeme rest) :
    Reads lexeme [] := by
  rcases reads.follow with ⟨p, _, stands⟩ | rfl
  · exact stands [] (stops_nil p)
  · exact reads

/-- White space and nothing else starts with white space. -/
theorem Reads.kind_of_isSpace {lexeme : Lexeme} {rest cs : List Char} {c : Char}
    (reads : Reads lexeme rest) (spelled : lexeme.text = c :: cs) (space : isSpace c = true) :
    lexeme.kind = .whitespace := by
  obtain ⟨d, ds, here, cut⟩ := reads.first_eq
  obtain ⟨rfl, _⟩ := List.cons.inj (spelled.symm.trans here)
  rw [first, if_pos space] at cut
  rw [← (Prod.mk.inj cut).1]

/-- A quoted run and nothing else starts with its quote. -/
theorem Reads.kind_of_quoteKind? {lexeme : Lexeme} {rest cs : List Char} {quote : Char}
    {kind : TokenKind} (reads : Reads lexeme rest) (spelled : lexeme.text = quote :: cs)
    (isQuote : quoteKind? quote = some kind) : lexeme.kind = kind := by
  obtain ⟨d, ds, here, cut⟩ := reads.first_eq
  obtain ⟨rfl, _⟩ := List.cons.inj (spelled.symm.trans here)
  rw [first_quotedRest isQuote] at cut
  rw [← (Prod.mk.inj cut).1]

end SqlAssist.Lexer
