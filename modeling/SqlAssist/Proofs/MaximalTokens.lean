import SqlAssist.Proofs.QuotedValues

/-!
# Tokens are as long as they can be

A token ends where the text does not go on with it. For every kind of token there is a class of
characters it would go on with (`TokenKind.goesOn`), and none of them stands behind it
(`Reads.stops_goesOn`). Runs of one class start with a character of the class
(`Reads.starts_goesOn`), so no two of them follow each other. What is left is the inside of words
and numbers:

* **words** — the kind of a word is decided by its upper case (`Reads.kind_eq_wordKind`);
* **numbers** — digits and points with a digit among them, and an exponent or none, after which the
  number could not have gone on (`IsNumber`).
-/
namespace SqlAssist

/-- Keywords and identifiers. -/
def TokenKind.isWord : TokenKind → Bool
  | .keyword | .identifier => true
  | _ => false

/-- The characters that a token of the kind would go on with. A number goes on with more of them
before its exponent. -/
def TokenKind.goesOn : TokenKind → Char → Bool
  | .whitespace => Lexer.isSpace
  | .lineComment => (· != '\n')
  | .stringLiteral => (· == '\'')
  | .quotedIdentifier => (· == '"')
  | .keyword | .identifier => Text.isWordChar
  | .number => Text.isDigit
  | _ => fun _ => false

/-- Tokens of the kind start with a character that they go on with. -/
def TokenKind.isUniform : TokenKind → Bool
  | .whitespace | .stringLiteral | .quotedIdentifier | .keyword | .identifier => true
  | _ => false

/-- Tokens of the kind are known by the one or two characters they start with. -/
def TokenKind.isMarked : TokenKind → Bool
  | .number | .keyword | .identifier | .other => false
  | _ => true

/-! ## Specification -/

/-- Two lexemes that follow each other could not have been one. -/
structure Lexeme.Apart (left right : Lexeme) : Prop where
  spaces : ¬ (left.kind = .whitespace ∧ right.kind = .whitespace)
  words : ¬ (left.kind.isWord = true ∧ right.kind.isWord = true)
  strings : ¬ (left.kind = .stringLiteral ∧ right.kind = .stringLiteral)
  quotedNames : ¬ (left.kind = .quotedIdentifier ∧ right.kind = .quotedIdentifier)
  lineComment : left.kind = .lineComment → right.kind = .whitespace ∧ right.text.head? = some '\n'
  word : left.kind.isWord = true → right.text.head?.any Text.isWordChar = false
  minus : left = ⟨.other, ['-']⟩ → right.text.head? ≠ some '-'
  slash : left = ⟨.other, ['/']⟩ → right.text.head? ≠ some '*'

/-- What may stand behind the digits and points of a number: nothing, or an `e`, a sign or none, and
any number of digits. -/
inductive ExponentPart : List Char → Prop where
  | absent : ExponentPart []
  | present {mark : Char} {sign digits : List Char} : mark = 'e' ∨ mark = 'E' →
      sign ∈ [[], ['+'], ['-']] → (∀ d ∈ digits, Text.isDigit d = true) →
      ExponentPart (mark :: (sign ++ digits))

/-- The mantissa and the exponent are those of a number, and the number could not have gone on with
the rest. -/
structure IsNumber (mantissa exponent rest : List Char) : Prop where
  digitsAndPoints : ∀ c ∈ mantissa, Text.isDigit c = true ∨ c = '.'
  digit : ∃ c ∈ mantissa, Text.isDigit c = true
  exponentPart : ExponentPart exponent
  noDigit : ∀ c ∈ rest.head?, Text.isDigit c = false
  noMore : exponent = [] → ∀ c ∈ rest.head?, c ≠ '.' ∧ c ≠ 'e' ∧ c ≠ 'E'

namespace Lexer

/-! ## Kinds of lexemes -/

theorem isWord_iff {kind : TokenKind} :
    kind.isWord = true ↔ kind = .keyword ∨ kind = .identifier := by
  cases kind <;> decide

theorem goesOn_of_isWord {kind : TokenKind} (word : kind.isWord = true) :
    kind.goesOn = Text.isWordChar ∧ kind.isUniform = true := by
  rcases isWord_iff.mp word with rfl | rfl <;> exact ⟨rfl, rfl⟩

theorem isWord_wordKind (word : List Char) : (wordKind word).isWord = true :=
  isWord_iff.mpr (wordKind_eq word)

theorem goesOn_wordKind (word : List Char) : (wordKind word).goesOn = Text.isWordChar :=
  (goesOn_of_isWord (isWord_wordKind word)).1

theorem isMarked_of_isWord {kind : TokenKind} (word : kind.isWord = true) :
    kind.isMarked = false := by
  rcases isWord_iff.mp word with rfl | rfl <;> rfl

theorem isMarked_of_quoteKind? {quote : Char} {kind : TokenKind}
    (isQuote : quoteKind? quote = some kind) : kind.isMarked = true := by
  rcases quoteKind?_eq_some_iff.mp isQuote with ⟨_, rfl⟩ | ⟨_, rfl⟩ <;> rfl

theorem isMarked_of_punctuation? {c : Char} {kind : TokenKind} (mark : punctuation? c = some kind) :
    kind.isMarked = true := by
  rcases punctuation?_eq_some mark with ⟨_, rfl⟩ | ⟨_, rfl⟩ | ⟨_, rfl⟩ | ⟨_, rfl⟩ <;> rfl

theorem goesOn_of_quoteKind? {quote : Char} {kind : TokenKind}
    (isQuote : quoteKind? quote = some kind) : kind.goesOn = (· == quote) := by
  rcases quoteKind?_eq_some_iff.mp isQuote with ⟨rfl, rfl⟩ | ⟨rfl, rfl⟩ <;> rfl

theorem goesOn_of_punctuation? {c : Char} {kind : TokenKind} (mark : punctuation? c = some kind) :
    kind.goesOn = fun _ => false := by
  rcases punctuation?_eq_some mark with ⟨_, rfl⟩ | ⟨_, rfl⟩ | ⟨_, rfl⟩ | ⟨_, rfl⟩ <;> rfl

/-! ## The parts of a number -/

theorem Stops.imp {p q : Char → Bool} {rest : List Char} (stops : Stops p rest)
    (weaker : ∀ c, q c = true → p c = true) : Stops q rest := by
  cases rest with
  | nil => rfl
  | cons c more =>
      rw [stops_cons] at stops ⊢
      exact Bool.eq_false_iff.mpr fun inside => Bool.eq_false_iff.mp stops (weaker c inside)

/-- With any exponent or none, a digit belongs to the number. -/
theorem Exponent.stops_isDigit {tail rest : List Char} {p : Char → Bool} (form : Exponent tail p)
    (stops : Stops p rest) : Stops Text.isDigit rest := by
  cases form with
  | none =>
      apply stops.imp
      intro c digit
      rw [isMantissa, digit]
      rfl
  | mark isMark =>
      apply stops.imp
      intro c digit
      rw [digit]
      rfl
  | digits isMark digit inside => exact stops
  | signed isMark isSign inside => exact stops

theorem Exponent.exponentPart {tail : List Char} {p : Char → Bool} (form : Exponent tail p) :
    ExponentPart tail := by
  cases form with
  | none => exact .absent
  | mark isMark =>
      rename_i e
      show ExponentPart (e :: ([] ++ []))
      exact .present (isExponentMark_iff.mp isMark) (by simp) (List.forall_mem_nil _)
  | digits isMark digit inside =>
      rename_i e d run
      show ExponentPart (e :: ([] ++ d :: run))
      exact .present (isExponentMark_iff.mp isMark) (by simp)
        (List.forall_mem_cons.mpr ⟨digit, inside⟩)
  | signed isMark isSign inside =>
      rename_i e s run
      show ExponentPart (e :: ([s] ++ run))
      refine .present (isExponentMark_iff.mp isMark) ?_ inside
      rcases isSign_iff.mp isSign with rfl | rfl <;> simp

/-- The digits and points of a number have a digit among them, also if a point comes first. -/
theorem exists_digit {c : Char} {run : List Char}
    (start : (Text.isDigit c || (c == '.' && run.head?.any Text.isDigit)) = true) :
    ∃ d ∈ c :: run, Text.isDigit d = true := by
  rw [Bool.or_eq_true, Bool.and_eq_true] at start
  rcases start with digit | ⟨_, behind⟩
  · exact ⟨c, List.mem_cons_self, digit⟩
  · cases run with
    | nil => cases behind
    | cons d more => exact ⟨d, List.mem_cons_of_mem c List.mem_cons_self, behind⟩

theorem isNumber_of_parts {c : Char} {run tail rest : List Char} {p : Char → Bool}
    (start : (Text.isDigit c || (c == '.' && run.head?.any Text.isDigit)) = true)
    (inside : ∀ d ∈ run, isMantissa d = true) (form : Exponent tail p) (stops : Stops p rest) :
    IsNumber (c :: run) tail rest where
  digitsAndPoints := by
    have isPart : ∀ d, isMantissa d = true → Text.isDigit d = true ∨ d = '.' := by
      intro d mantissa
      rwa [isMantissa, Bool.or_eq_true, beq_iff_eq] at mantissa
    rw [Bool.or_eq_true, Bool.and_eq_true, beq_iff_eq] at start
    exact List.forall_mem_cons.mpr ⟨start.imp_right And.left, fun d member =>
      isPart d (inside d member)⟩
  digit := exists_digit start
  exponentPart := form.exponentPart
  noDigit := by
    intro c next
    have noDigit := form.stops_isDigit stops
    rwa [Stops, Option.mem_def.mp next] at noDigit
  noMore := by
    rintro rfl c next
    cases form
    rw [Stops, Option.mem_def.mp next] at stops
    have outside : Text.isDigit c = false ∧ c ≠ '.' ∧ c ≠ 'e' ∧ c ≠ 'E' := by
      simpa [isMantissa, isExponentMark, and_assoc] using stops
    exact outside.2

/-! ## One lexeme and what follows it -/

/-- No lexeme is followed by a character that it would go on with. -/
theorem Reads.stops_goesOn {lexeme : Lexeme} {rest : List Char} (reads : Reads lexeme rest) :
    Stops lexeme.kind.goesOn rest := by
  cases reads with
  | space start inside stops => exact stops
  | lineComment inside stops => exact stops
  | blockComment clean => exact stops_nothing _
  | openComment clean => exact stops_nil _
  | quotedRun isQuote stops =>
      rw [goesOn_of_quoteKind? isQuote]
      exact stops
  | openRun isQuote => exact stops_nil _
  | punctuation mark =>
      rw [goesOn_of_punctuation? mark]
      exact stops_nothing _
  | number start inside form stops => exact form.stops_isDigit stops
  | word start noDigit inside stops =>
      rw [goesOn_wordKind]
      exact stops
  | lone isLone stops => exact stops_nothing _

/-- A run of one class starts with a character of the class. -/
theorem Reads.starts_goesOn {lexeme : Lexeme} {rest : List Char} (reads : Reads lexeme rest)
    (uniform : lexeme.kind.isUniform = true) : lexeme.text.head?.any lexeme.kind.goesOn = true := by
  cases reads with
  | space start inside stops => exact start
  | lineComment inside stops => cases uniform
  | blockComment clean => cases uniform
  | openComment clean => cases uniform
  | quotedRun isQuote stops =>
      rw [goesOn_of_quoteKind? isQuote]
      exact beq_self_eq_true _
  | openRun isQuote =>
      rw [goesOn_of_quoteKind? isQuote]
      exact beq_self_eq_true _
  | punctuation mark =>
      rcases punctuation?_eq_some mark with ⟨_, rfl⟩ | ⟨_, rfl⟩ | ⟨_, rfl⟩ |
        ⟨_, rfl⟩ <;> cases uniform
  | number start inside form stops => cases uniform
  | word start noDigit inside stops =>
      rw [goesOn_wordKind]
      exact isWordChar_of_isWordStart start
  | lone isLone stops => cases uniform

/-- What is not known by its first characters is a number, a word or a character by itself. -/
theorem Reads.kind_cases {lexeme : Lexeme} {rest : List Char} (reads : Reads lexeme rest) :
    lexeme.kind.isMarked = true ∨
    (lexeme.kind = .number ∧ ∃ mantissa exponent, lexeme.text = mantissa ++ exponent ∧
      IsNumber mantissa exponent rest) ∨
    lexeme.kind = wordKind lexeme.text ∨
    (lexeme.kind = .other ∧ ∃ c, lexeme.text = [c] ∧ Stops (opens c) rest) := by
  cases reads with
  | space start inside stops => exact .inl rfl
  | lineComment inside stops => exact .inl rfl
  | blockComment clean => exact .inl rfl
  | openComment clean => exact .inl rfl
  | quotedRun isQuote stops => exact .inl (isMarked_of_quoteKind? isQuote)
  | openRun isQuote => exact .inl (isMarked_of_quoteKind? isQuote)
  | punctuation mark => exact .inl (isMarked_of_punctuation? mark)
  | number start inside form stops =>
      exact .inr (.inl ⟨rfl, _, _, rfl, isNumber_of_parts start inside form stops⟩)
  | word start noDigit inside stops => exact .inr (.inr (.inl rfl))
  | lone isLone stops => exact .inr (.inr (.inr ⟨rfl, _, rfl, stops⟩))

theorem Reads.exists_isNumber {lexeme : Lexeme} {rest : List Char} (reads : Reads lexeme rest)
    (number : lexeme.kind = .number) :
    ∃ mantissa exponent, lexeme.text = mantissa ++ exponent ∧ IsNumber mantissa exponent rest := by
  rcases reads.kind_cases with marked | ⟨_, parts⟩ | word | ⟨other, _⟩
  · rw [number] at marked
    cases marked
  · exact parts
  · have isWord := isWord_wordKind lexeme.text
    rw [← word, number] at isWord
    cases isWord
  · rw [number] at other
    cases other

theorem Reads.kind_eq_wordKind {lexeme : Lexeme} {rest : List Char} (reads : Reads lexeme rest)
    (isWord : lexeme.kind.isWord = true) : lexeme.kind = wordKind lexeme.text := by
  rcases reads.kind_cases with marked | ⟨number, _⟩ | word | ⟨other, _⟩
  · rw [isMarked_of_isWord isWord] at marked
    cases marked
  · rw [number] at isWord
    cases isWord
  · exact word
  · rw [other] at isWord
    cases isWord

theorem Reads.stops_opens {c : Char} {rest : List Char} (reads : Reads ⟨.other, [c]⟩ rest) :
    Stops (opens c) rest := by
  rcases reads.kind_cases with marked | ⟨number, _⟩ | word | ⟨_, d, spelled, stops⟩
  · cases marked
  · cases number
  · have isWord := isWord_wordKind [c]
    rw [← word] at isWord
    cases isWord
  · obtain ⟨rfl, _⟩ := List.cons.inj spelled
    exact stops

/-- The upper case of a word decides whether it is a keyword. -/
theorem wordKind_eq_keyword_iff (word : List Char) :
    wordKind word = .keyword ↔ String.ofList (Text.upper word) ∈ lexerKeywords := by
  unfold wordKind
  split
  · rename_i keyword
    exact ⟨fun _ => List.contains_iff_mem.mp keyword, fun _ => rfl⟩
  · rename_i noKeyword
    refine ⟨TokenKind.noConfusion, fun keyword => ?_⟩
    exact absurd (List.contains_iff_mem.mpr keyword) noKeyword

/-! ## Two lexemes that follow each other -/

/-- Runs of one class do not follow each other. -/
theorem Reads.not_uniform {left right : Lexeme} {rest : List Char}
    (reads : Reads left (right.text ++ rest)) (next : Reads right rest)
    (uniform : right.kind.isUniform = true) : left.kind.goesOn ≠ right.kind.goesOn := by
  intro same
  -- The first character of the right one would have been taken by the left one.
  have starts := next.starts_goesOn uniform
  have stops := reads.stops_goesOn
  obtain ⟨c, cs, spelled, _⟩ := next.first_eq
  rw [same, spelled, List.cons_append, stops_cons] at stops
  rw [spelled, List.head?_cons, Option.any_some, stops] at starts
  cases starts

/-- A class of characters that a text does not go on with is not that of its first lexeme. -/
theorem Reads.stops_text {lexeme : Lexeme} {rest : List Char} {p : Char → Bool}
    (reads : Reads lexeme rest) (stops : Stops p (lexeme.text ++ rest)) : Stops p lexeme.text := by
  obtain ⟨c, cs, spelled, _⟩ := reads.first_eq
  rw [spelled] at stops ⊢
  exact stops

theorem Reads.apart {left right : Lexeme} {rest : List Char}
    (reads : Reads left (right.text ++ rest)) (next : Reads right rest) : left.Apart right where
  spaces := by
    rintro ⟨isLeft, isRight⟩
    exact reads.not_uniform next (by rw [isRight]; rfl) (by rw [isLeft, isRight])
  words := by
    rintro ⟨isLeft, isRight⟩
    have uniform := goesOn_of_isWord isRight
    exact reads.not_uniform next uniform.2 ((goesOn_of_isWord isLeft).1.trans uniform.1.symm)
  strings := by
    rintro ⟨isLeft, isRight⟩
    exact reads.not_uniform next (by rw [isRight]; rfl) (by rw [isLeft, isRight])
  quotedNames := by
    rintro ⟨isLeft, isRight⟩
    exact reads.not_uniform next (by rw [isRight]; rfl) (by rw [isLeft, isRight])
  lineComment := by
    intro isComment
    have stops := next.stops_text reads.stops_goesOn
    obtain ⟨c, cs, spelled, _⟩ := next.first_eq
    rw [isComment, spelled, stops_cons] at stops
    obtain rfl : c = '\n' := by simpa [TokenKind.goesOn] using stops
    exact ⟨next.kind_of_isSpace spelled rfl, by rw [spelled]; rfl⟩
  word := by
    intro isWord
    have stops := next.stops_text reads.stops_goesOn
    rwa [(goesOn_of_isWord isWord).1] at stops
  minus := by
    rintro rfl
    exact stops_beq_iff.mp (next.stops_text reads.stops_opens)
  slash := by
    rintro rfl
    exact stops_beq_iff.mp (next.stops_text reads.stops_opens)

end Lexer

/-! ## The tokens of a text -/

theorem exists_reads_pair {text : List Char} {left right : List Token} {a b : Token}
    (tokens : tokenize text = left ++ a :: b :: right) :
    ∃ rest, Lexer.Reads a.toLexeme (b.text ++ rest) ∧ Lexer.Reads b.toLexeme rest := by
  have lexemes := congrArg (List.map (·.toLexeme)) tokens
  rw [map_toLexeme_tokenize, List.map_append] at lexemes
  have all := Lexer.readsAll_lex text
  rw [lexemes, Lexer.readsAll_append] at all
  obtain ⟨first, second, _⟩ := all.2
  exact ⟨_, by simpa using first, second⟩

theorem exists_reads_drop {text : List Char} {token : Token} (member : token ∈ tokenize text) :
    Lexer.Reads token.toLexeme (text.drop token.stop) := by
  obtain ⟨left, right, lexemes, start, reads⟩ := exists_reads_around member
  have whole : text = Lexeme.spelling left ++ token.text ++ Lexeme.spelling right := by
    rw [← Lexer.spelling_lex text, lexemes, Lexeme.spelling_append, Lexeme.spelling_cons,
      List.append_assoc]
  have behind : text.drop token.stop = Lexeme.spelling right := by
    rw [whole, Token.stop, start, ← List.length_append, List.drop_left]
  rwa [behind]

/-- Tokens are as long as they can be: of two that follow each other the first could not have gone
on with the second. The kind of a word is decided by its upper case, which is the value of a
keyword, and a number has the form of one and ends where it has to. -/
theorem tokenize_maximal (text : List Char) :
    (∀ left right a b, tokenize text = left ++ a :: b :: right → a.toLexeme.Apart b.toLexeme) ∧
    (∀ token ∈ tokenize text, token.kind.isWord = true →
      (token.kind = .keyword ↔ String.ofList (Text.upper token.text) ∈ lexerKeywords) ∧
      (token.kind = .keyword → token.value? = some (Text.upper token.text))) ∧
    (∀ token ∈ tokenize text, token.kind = .number →
      ∃ mantissa exponent, token.text = mantissa ++ exponent ∧
        IsNumber mantissa exponent (text.drop token.stop)) := by
  refine ⟨?_, ?_, ?_⟩
  · intro left right a b tokens
    obtain ⟨rest, first, second⟩ := exists_reads_pair tokens
    exact first.apart second
  · intro token member isWord
    rw [(exists_reads_drop member).kind_eq_wordKind isWord, Lexer.wordKind_eq_keyword_iff]
    refine ⟨Iff.rfl, fun keyword => ?_⟩
    rw [Lexeme.value?, (exists_reads_drop member).kind_eq_wordKind isWord,
      (Lexer.wordKind_eq_keyword_iff _).mpr keyword]
  · intro token member number
    exact (exists_reads_drop member).exists_isNumber number

/-- A number whose exponent has a sign and no digits, with a word behind it; a comment and the end
of its line; and a keyword in lower case. -/
theorem tokenize_maximal_mixed :
    let text := "-1.e+x--c\nfrom".toList
    let number : Token := ⟨⟨.number, "1.e+".toList⟩, 1⟩
    let comment : Token := ⟨⟨.lineComment, "--c".toList⟩, 6⟩
    let space : Token := ⟨⟨.whitespace, ['\n']⟩, 9⟩
    let keyword : Token := ⟨⟨.keyword, "from".toList⟩, 10⟩
    (tokenize text = (tokenize text).take 3 ++ comment :: space :: [keyword] ∧
      comment.toLexeme.Apart space.toLexeme) ∧
    (keyword ∈ tokenize text ∧ String.ofList (Text.upper keyword.text) ∈ lexerKeywords ∧
      keyword.value? = some (Text.upper keyword.text)) ∧
    (number ∈ tokenize text ∧ ∃ mantissa exponent, number.text = mantissa ++ exponent ∧
      IsNumber mantissa exponent (text.drop number.stop)) := by
  intro text number comment space keyword
  have tokens : tokenize text = (tokenize text).take 3 ++ comment :: space :: [keyword] := by
    decide +kernel
  have isKeyword : keyword ∈ tokenize text := by decide +kernel
  have isNumber : number ∈ tokenize text := by decide +kernel
  obtain ⟨apart, words, numbers⟩ := tokenize_maximal text
  obtain ⟨known, value⟩ := words keyword isKeyword rfl
  exact ⟨⟨tokens, apart _ _ _ _ tokens⟩, ⟨isKeyword, known.mp rfl, value rfl⟩,
    ⟨isNumber, numbers number isNumber rfl⟩⟩

end SqlAssist
