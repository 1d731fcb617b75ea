import SqlAssist.Proofs.Locality
import SqlAssist.Proofs.Spellings
import SqlAssist.Suggestion

/-!
# Letter case does not matter

Texts that differ in the case of ASCII letters only are equal once these letters are in lower case,
so it is enough to compare a text with its `lowered` form. A class of characters is `Caseless` if it
does not tell the two cases of a letter apart, which is checked on the 26 capitals
(`caseless_of_capitals`). What is built on such classes goes on in the same way for both texts:

* **lexemes** — each stands lowered where it stood (`Lexer.Reads.lowered`), so the lexer commutes
  with lowering (`lex_lowered`), and keywords keep their value, which is in upper case;
* **column list, slot, suggestions** — they look at kinds, keywords, words in upper case and
  offsets (`columnList?_lowered`, `after_lowered`, `suggestions_lowered`).
-/
namespace SqlAssist

open Lexer

/-! ## Characters -/

/-- The function does not tell the two cases of an ASCII letter apart. -/
def Caseless {β : Type} (f : Char → β) : Prop := ∀ c : Char, f c.toLower = f c

/-- Only capitals have another character for their lower case. -/
theorem toLower_eq_or_mem (c : Char) : c.toLower = c ∨ c ∈ capitals := by
  unfold Char.toLower
  split
  · rename_i isUpper
    obtain ⟨low, high⟩ := isUpper
    have low : 65 ≤ c.toNat := low
    have high : c.toNat ≤ 90 := high
    have known : ((List.range 26).all fun k => capitals.contains (Char.ofNat (65 + k))) = true := by
      decide
    have here := List.all_eq_true.mp known (c.toNat - 65) (List.mem_range.mpr (by omega))
    rw [Nat.add_sub_cancel' low, Char.ofNat_toNat, List.contains_iff_mem] at here
    exact .inr here
  · exact .inl rfl

theorem caseless_of_capitals {β : Type} [DecidableEq β] {f : Char → β}
    (same : (capitals.all fun c => decide (f c.toLower = f c)) = true) : Caseless f := by
  intro c
  rcases toLower_eq_or_mem c with fixed | capital
  · rw [fixed]
  · exact of_decide_eq_true (List.all_eq_true.mp same c capital)

theorem Caseless.beq {d : Char} (fixed : Caseless (· == d)) (c : Char) :
    (c.toLower == d) = (c == d) :=
  fixed c

theorem Caseless.eq_iff {d : Char} (fixed : Caseless (· == d)) {c : Char} :
    c.toLower = d ↔ c = d := by
  rw [← beq_iff_eq, fixed.beq, beq_iff_eq]

theorem caseless_isSpace : Caseless isSpace := caseless_of_capitals (by decide)

theorem caseless_isDigit : Caseless Text.isDigit := caseless_of_capitals (by decide)

theorem caseless_isWordChar : Caseless Text.isWordChar := caseless_of_capitals (by decide)

theorem caseless_isTypedChar : Caseless isTypedChar := caseless_of_capitals (by decide)

theorem caseless_upperChar : Caseless Text.upperChar := caseless_of_capitals (by decide)

theorem caseless_quote {quote : Char} {kind : TokenKind} (isQuote : quoteKind? quote = some kind) :
    Caseless (· == quote) := by
  rcases quoteKind?_eq_some_iff.mp isQuote with ⟨rfl, _⟩ | ⟨rfl, _⟩ <;>
    exact caseless_of_capitals (by decide)

/-! ## Texts -/

/-- The text with its ASCII letters in lower case. -/
def lowered (text : List Char) : List Char := text.map Char.toLower

@[simp] theorem lowered_nil : lowered [] = [] := rfl

@[simp] theorem lowered_cons (c : Char) (cs : List Char) :
    lowered (c :: cs) = c.toLower :: lowered cs := rfl

@[simp] theorem lowered_append (left right : List Char) :
    lowered (left ++ right) = lowered left ++ lowered right := List.map_append

@[simp] theorem length_lowered (text : List Char) : (lowered text).length = text.length :=
  List.length_map ..

theorem upper_lowered (text : List Char) : Text.upper (lowered text) = Text.upper text := by
  rw [Text.upper, Text.upper, lowered, List.flatMap_map]
  congr 1
  funext c
  exact caseless_upperChar c

namespace Caseless

variable {p : Char → Bool} (caseless : Caseless p)

include caseless

theorem comp_toLower : p ∘ Char.toLower = p := funext caseless

theorem takeWhile (text : List Char) : (lowered text).takeWhile p = lowered (text.takeWhile p) := by
  rw [lowered, List.takeWhile_map, caseless.comp_toLower]
  rfl

theorem forall_lowered {run : List Char} (inside : ∀ c ∈ run, p c = true) :
    ∀ c ∈ lowered run, p c = true := by
  intro c member
  obtain ⟨d, isMember, rfl⟩ := List.mem_map.mp member
  rw [caseless d]
  exact inside d isMember

theorem head?_any (text : List Char) : (lowered text).head?.any p = text.head?.any p := by
  cases text with
  | nil => rfl
  | cons c rest => exact caseless c

theorem stops {rest : List Char} (stops : Stops p rest) : Stops p (lowered rest) := by
  rw [Stops, caseless.head?_any]
  exact stops

end Caseless

/-! ## Lexemes -/

namespace Lexer

theorem doubled_lowered {quote : Char} (fixed : Caseless (· == quote)) (name : List Char) :
    lowered (doubled quote name) = doubled quote (lowered name) := by
  have isFixed : quote.toLower = quote := fixed.eq_iff.mpr rfl
  induction name with
  | nil => rfl
  | cons c name ih =>
      by_cases isQuote : c = quote
      · subst isQuote
        simp [isFixed, ih]
      · have other : c.toLower ≠ quote := fun same => isQuote (fixed.eq_iff.mp same)
        rw [doubled_cons_of_ne isQuote, lowered_cons, lowered_cons, doubled_cons_of_ne other, ih]

theorem commentEnd_infix_lowered {cs : List Char} :
    commentEnd <:+: lowered cs ↔ commentEnd <:+: cs := by
  have star : Caseless (· == '*') := caseless_of_capitals (by decide)
  have slash : Caseless (· == '/') := caseless_of_capitals (by decide)
  induction cs with
  | nil => rfl
  | cons c cs ih =>
      have next : (lowered cs).head? = some '/' ↔ cs.head? = some '/' := by
        cases cs with
        | nil => rfl
        | cons d rest => simp [slash.eq_iff]
      rw [lowered_cons, commentEnd_infix_cons, commentEnd_infix_cons, star.eq_iff, next]
      exact or_congr_right ih

theorem Exponent.lowered {tail : List Char} {p : Char → Bool} (form : Exponent tail p) :
    Exponent (lowered tail) p ∧ Caseless p := by
  have mark : Caseless isExponentMark := caseless_of_capitals (by decide)
  have sign : Caseless isSign := caseless_of_capitals (by decide)
  cases form with
  | none => exact ⟨.none, caseless_of_capitals (by decide)⟩
  | mark isMark =>
      exact ⟨.mark ((mark _).trans isMark), caseless_of_capitals (by decide)⟩
  | digits isMark digit inside =>
      exact ⟨.digits ((mark _).trans isMark) ((caseless_isDigit _).trans digit)
        (caseless_isDigit.forall_lowered inside), caseless_isDigit⟩
  | signed isMark isSign inside =>
      exact ⟨.signed ((mark _).trans isMark) ((sign _).trans isSign)
        (caseless_isDigit.forall_lowered inside), caseless_isDigit⟩

theorem wordKind_lowered (word : List Char) : wordKind (lowered word) = wordKind word := by
  rw [wordKind, wordKind, upper_lowered]

theorem caseless_opens (c : Char) : opens c.toLower = opens c ∧ Caseless (opens c) := by
  have minus : Caseless (· == '-') := caseless_of_capitals (by decide)
  have slash : Caseless (· == '/') := caseless_of_capitals (by decide)
  have point : Caseless (· == '.') := caseless_of_capitals (by decide)
  refine ⟨by simp only [opens, minus.eq_iff, slash.eq_iff, point.eq_iff], ?_⟩
  unfold opens
  split
  · exact minus
  split
  · exact caseless_of_capitals (by decide)
  split
  · exact caseless_isDigit
  · exact fun _ => rfl

end Lexer

/-- The lexeme with its ASCII letters in lower case. -/
def Lexeme.lowered (lexeme : Lexeme) : Lexeme :=
  { lexeme with text := SqlAssist.lowered lexeme.text }

namespace Lexer

/-- A lexeme in lower case stands where the lexeme did. -/
theorem Reads.lowered {lexeme : Lexeme} {rest : List Char} (reads : Reads lexeme rest) :
    Reads lexeme.lowered (lowered rest) := by
  cases reads with
  | space start inside stops =>
      exact .space ((caseless_isSpace _).trans start) (caseless_isSpace.forall_lowered inside)
        (caseless_isSpace.stops stops)
  | lineComment inside stops =>
      have line : Caseless (· != '\n') := caseless_of_capitals (by decide)
      exact .lineComment (line.forall_lowered inside) (line.stops stops)
  | @blockComment inner _ clean =>
      have spelled : Lexeme.lowered ⟨.blockComment, '/' :: '*' :: (inner ++ commentEnd)⟩ =
          ⟨.blockComment, '/' :: '*' :: (SqlAssist.lowered inner ++ commentEnd)⟩ := by
        simp [Lexeme.lowered, commentEnd]
      rw [spelled]
      refine .blockComment fun found => clean ?_
      have star : SqlAssist.lowered (inner ++ ['*']) = SqlAssist.lowered inner ++ ['*'] := by
        rw [lowered_append]
        rfl
      rwa [← star, commentEnd_infix_lowered] at found
  | openComment clean => exact .openComment fun found => clean (commentEnd_infix_lowered.mp found)
  | @quotedRun quote kind name _ isQuote stops =>
      have fixed := caseless_quote isQuote
      have spelled : Lexeme.lowered ⟨kind, quote :: (doubled quote name ++ [quote])⟩ =
          ⟨kind, quote :: (doubled quote (SqlAssist.lowered name) ++ [quote])⟩ := by
        simp [Lexeme.lowered, doubled_lowered fixed, fixed.eq_iff.mpr rfl]
      rw [spelled]
      exact .quotedRun isQuote (fixed.stops stops)
  | @openRun quote kind name isQuote =>
      have fixed := caseless_quote isQuote
      have spelled : Lexeme.lowered ⟨kind, quote :: doubled quote name⟩ =
          ⟨kind, quote :: doubled quote (SqlAssist.lowered name)⟩ := by
        simp [Lexeme.lowered, doubled_lowered fixed, fixed.eq_iff.mpr rfl]
      rw [spelled]
      exact .openRun isQuote
  | punctuation mark =>
      have caseless : Caseless punctuation? := caseless_of_capitals (by decide)
      exact .punctuation ((caseless _).trans mark)
  | @number c run tail _ p start inside form stops =>
      have mantissa : Caseless isMantissa := caseless_of_capitals (by decide)
      have point : Caseless (· == '.') := caseless_of_capitals (by decide)
      obtain ⟨form, caseless⟩ := form.lowered
      have begins : (Text.isDigit c.toLower ||
          (c.toLower == '.' && (SqlAssist.lowered run).head?.any Text.isDigit)) = true := by
        rw [caseless_isDigit c, caseless_isDigit.head?_any, point.beq]
        exact start
      have reads := Reads.number begins (mantissa.forall_lowered inside) form (caseless.stops stops)
      rw [← lowered_append] at reads
      exact reads
  | @word c run _ start noDigit inside stops =>
      have begins : Caseless isWordStart := caseless_of_capitals (by decide)
      have reads := Reads.word ((begins c).trans start) ((caseless_isDigit c).trans noDigit)
        (caseless_isWordChar.forall_lowered inside) (caseless_isWordChar.stops stops)
      rw [← lowered_cons, wordKind_lowered] at reads
      exact reads
  | @lone c _ lone stops =>
      have alone : Caseless isLone := caseless_of_capitals (by decide)
      obtain ⟨same, caseless⟩ := caseless_opens c
      refine .lone ((alone c).trans lone) ?_
      rw [same]
      exact caseless.stops stops

theorem spelling_map_lowered (lexemes : List Lexeme) :
    Lexeme.spelling (lexemes.map Lexeme.lowered) = lowered (Lexeme.spelling lexemes) := by
  induction lexemes with
  | nil => rfl
  | cons lexeme rest ih =>
      rw [List.map_cons, Lexeme.spelling_cons, Lexeme.spelling_cons, lowered_append, ih]
      rfl

theorem ReadsAll.lowered {lexemes : List Lexeme} (all : ReadsAll [] lexemes) :
    ReadsAll [] (lexemes.map Lexeme.lowered) := by
  induction lexemes with
  | nil => trivial
  | cons lexeme rest ih =>
      refine ⟨?_, ih all.2⟩
      have here := all.1.lowered
      rwa [List.append_nil, ← spelling_map_lowered, ← List.append_nil (Lexeme.spelling _)] at here

theorem lex_lowered (text : List Char) : lex (lowered text) = (lex text).map Lexeme.lowered := by
  refine lex_eq_iff.mpr ⟨(readsAll_lex text).lowered, ?_⟩
  rw [spelling_map_lowered, spelling_lex]

end Lexer

/-! ## Tokens -/

/-- The token with its ASCII letters in lower case. -/
def Token.lowered (token : Token) : Token := { token with toLexeme := token.toLexeme.lowered }

namespace Token

@[simp] theorem lowered_kind (token : Token) : token.lowered.kind = token.kind := rfl

@[simp] theorem lowered_start (token : Token) : token.lowered.start = token.start := rfl

@[simp] theorem lowered_stop (token : Token) : token.lowered.stop = token.stop := by
  simp [stop, lowered, Lexeme.lowered]

/-- A keyword stands for its upper case. -/
theorem lowered_value? {token : Token} (keyword : token.kind = .keyword) :
    token.lowered.value? = token.value? := by
  have isKeyword : token.lowered.kind = .keyword := keyword
  simp only [Lexeme.value?, keyword, isKeyword]
  exact congrArg some (upper_lowered token.text)

@[simp] theorem lowered_isKeyword (token : Token) (word : String) :
    token.lowered.isKeyword word = token.isKeyword word := by
  by_cases keyword : token.kind = .keyword
  · rw [Lexeme.isKeyword, Lexeme.isKeyword, lowered_value? keyword, lowered_kind]
  · have other : (token.kind == .keyword) = false := beq_eq_false_iff_ne.mpr keyword
    simp [Lexeme.isKeyword, other]

theorem place_map_lowered (start : Nat) (lexemes : List Lexeme) :
    place start (lexemes.map Lexeme.lowered) = (place start lexemes).map lowered := by
  induction lexemes generalizing start with
  | nil => rfl
  | cons lexeme rest ih =>
      rw [List.map_cons, place_cons, place_cons, List.map_cons, ← ih]
      simp [lowered, Lexeme.lowered]

end Token

theorem tokenize_lowered (text : List Char) :
    tokenize (lowered text) = (tokenize text).map Token.lowered := by
  rw [tokenize, lex_lowered, Token.place_map_lowered]
  rfl

/-! ## The column list -/

namespace ColumnList

theorem skipTrivia_map_lowered (tokens : List Token) :
    skipTrivia (tokens.map Token.lowered) = (skipTrivia tokens).map Token.lowered := by
  rw [skipTrivia, List.dropWhile_map]
  rfl

theorem skipKeyword_map_lowered (word : String) (tokens : List Token) :
    skipKeyword word (tokens.map Token.lowered) = (skipKeyword word tokens).map Token.lowered := by
  cases tokens with
  | nil => rfl
  | cons token rest =>
      rw [List.map_cons, skipKeyword, skipKeyword, Token.lowered_isKeyword]
      split <;> rfl

theorem beforeFrom?_map_lowered (depth : Nat) (tokens : List Token) :
    beforeFrom? depth (tokens.map Token.lowered) =
      (beforeFrom? depth tokens).map (List.map Token.lowered) := by
  induction tokens generalizing depth with
  | nil => rfl
  | cons token rest ih =>
      rw [List.map_cons, beforeFrom?, beforeFrom?, Token.lowered_isKeyword, Token.lowered_kind]
      simp only [ih]
      split
      · simp [Function.comp_def]
      split
      · simp [Function.comp_def]
      split
      · rfl
      · simp [Function.comp_def]

theorem extent?_map_lowered (tokens : List Token) :
    extent? (tokens.map Token.lowered) = extent? tokens := by
  rw [extent?, extent?, ← List.map_reverse, skipTrivia_map_lowered, List.head?_map, List.head?_map]
  cases tokens.head? with
  | none => rfl
  | some first =>
      cases (skipTrivia tokens.reverse).head? with
      | none => rfl
      | some last => simp

theorem ofTokens?_map_lowered (tokens : List Token) :
    ofTokens? (tokens.map Token.lowered) = ofTokens? tokens := by
  rw [ofTokens?, ofTokens?, skipTrivia_map_lowered]
  cases skipTrivia tokens with
  | nil => rfl
  | cons head rest =>
      simp only [List.map_cons, Token.lowered_isKeyword, skipTrivia_map_lowered,
        skipKeyword_map_lowered, beforeFrom?_map_lowered, Option.bind_map]
      congr 2
      funext found
      exact extent?_map_lowered found

end ColumnList

theorem columnList?_lowered (text : List Char) : columnList? (lowered text) = columnList? text := by
  rw [columnList?, tokenize_lowered, ColumnList.ofTokens?_map_lowered]
  rfl

/-! ## The slot -/

theorem finishedWords_lowered (text : List Char) :
    Slot.finishedWords (lowered text) = Slot.finishedWords text := by
  rw [Slot.finishedWords, lex_lowered, ← List.map_reverse, List.dropWhile_map, List.filter_map,
    List.map_map]
  show List.map (fun lexeme : Lexeme => String.ofList (Text.upper lexeme.lowered.text)) _ = _
  simp only [Lexeme.lowered, upper_lowered]
  rfl

theorem after_lowered (text : List Char) : Slot.after (lowered text) = Slot.after text := by
  rw [Slot.after, finishedWords_lowered]
  rfl

/-! ## Suggestions -/

theorem typedWord_lowered (text : List Char) :
    typedWord (lowered text) = lowered (typedWord text) := by
  rw [typedWord, lowered, ← List.map_reverse, ← lowered, caseless_isTypedChar.takeWhile, lowered,
    ← List.map_reverse]
  rfl

theorem candidates_lowered (sources : Suggestions.Sources) (slot : Slot) (typed : List Char) :
    Suggestions.candidates sources slot (lowered typed) =
      Suggestions.candidates sources slot typed := by
  simp only [Suggestions.candidates, Suggestions.tableItems, Suggestions.fieldItems,
    Suggestions.wordItems, Suggestions.startsWith, Vocabulary.startingWith, upper_lowered]

theorem repeatsTyped_lowered (items : List Suggestion) (typed : List Char) :
    Suggestions.repeatsTyped items (lowered typed) = Suggestions.repeatsTyped items typed := by
  simp only [Suggestions.repeatsTyped, upper_lowered]

theorem suggestions_lowered (text : List Char) (cursor : Int) (sources : Suggestions.Sources) :
    suggestions (lowered text) cursor sources =
      { suggestions text cursor sources with
        typed := lowered (suggestions text cursor sources).typed } := by
  have take_lowered : ∀ (cs : List Char) (n : Nat), (lowered cs).take n = lowered (cs.take n) :=
    fun cs n => List.map_take.symm
  have empty_lowered : ∀ cs : List Char, (lowered cs).isEmpty = cs.isEmpty := fun cs => by
    cases cs <;> rfl
  unfold suggestions
  rw [length_lowered]
  split
  · rfl
  · simp only [take_lowered, typedWord_lowered, length_lowered, empty_lowered, after_lowered,
      candidates_lowered, repeatsTyped_lowered]
    split
    · rfl
    split
    · rfl
    · rfl

end SqlAssist
