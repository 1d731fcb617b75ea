import Mathlib.Data.List.Basic
import SqlAssist.Highlight
import SqlAssist.Proofs.Matching
import SqlAssist.Proofs.Replacement

/-!
# Protected runs are tokens

Comments and quoted runs are found twice: by the lexer, token by token, and by the patterns of the
highlighting, which look for the leftmost match. `highlightSql_protected` says that the two find the
same runs. Three things can part them:

* an open quoted run, in which the patterns may still find shorter runs, so the two are compared
  before it (`quietEnd`);
* a number like `1e-` with a minus behind it, where the patterns see the start of a comment
  (`NumbersApart` leaves it out);
* nothing else: at a protected lexeme the patterns match exactly that lexeme (`at?_protected`), and
  inside of any other no protected run opens (`quiet_of_reads`).
-/
namespace SqlAssist

/-- A style of comments and quoted runs. -/
def Style.isProtected : Style → Bool
  | .comment | .string | .quotedIdentifier => true
  | _ => false

/-- The style of a comment or a quoted run, by its kind. -/
def TokenKind.protectedStyle? : TokenKind → Option Style
  | .lineComment | .blockComment => some .comment
  | .stringLiteral => some .string
  | .quotedIdentifier => some .quotedIdentifier
  | _ => none

/-- A comment or a quoted run as a span in its style. -/
def Token.protectedSpan? (token : Token) : Option StyledSpan :=
  token.kind.protectedStyle?.map fun style => ⟨token.range, style⟩

/-- Where the open quoted run of a text starts, or the end of the text if there is none. -/
def quietEnd (text : List Char) : Nat :=
  (((tokenize text).filter (·.isOpenRun)).getLast?.map (·.start)).getD text.length

/-- No number ends in a minus with another minus behind it. -/
def NumbersApart (text : List Char) : Prop :=
  ∀ token ∈ tokenize text, token.kind = .number → token.text.getLast? = some '-' →
    (text.drop token.stop).head? ≠ some '-'

instance (text : List Char) : Decidable (NumbersApart text) :=
  inferInstanceAs (Decidable (∀ token ∈ tokenize text, _))

namespace Highlight

open Lexer

/-! ## Where a protected run opens -/

/-- Whether a comment or a quoted run opens at the start of a text. -/
def opensRun : List Char → Bool
  | c :: cs =>
    (quoteKind? c).isSome || decide (c = '-' ∧ cs.head? = some '-') ||
      decide (c = '/' ∧ cs.head? = some '*')
  | [] => false

theorem opensRun_cons_eq_false_iff {c : Char} {cs : List Char} :
    opensRun (c :: cs) = false ↔ quoteKind? c = none ∧ ¬ (c = '-' ∧ cs.head? = some '-') ∧
      ¬ (c = '/' ∧ cs.head? = some '*') := by
  rw [opensRun, Bool.or_eq_false_iff, Bool.or_eq_false_iff, decide_eq_false_iff_not,
    decide_eq_false_iff_not, Option.isSome_eq_false_iff, Option.isNone_iff_eq_none, and_assoc]

theorem commentPattern_refuses {c : Char} {cs : List Char}
    (noLine : ¬ (c = '-' ∧ cs.head? = some '-')) (noBlock : ¬ (c = '/' ∧ cs.head? = some '*'))
    (offset : Nat) (before : Option Char) :
    commentPattern.endAt? ⟨offset, before, c :: cs⟩ = none := by
  simp only [Pattern.endAt?, commentPattern, Pattern.all, Pattern.run, Pattern.run_char_cons]
  cases cs with
  | nil => simp
  | cons d rest =>
      by_cases minus : c = '-'
      · subst minus
        have other : d ≠ '-' := by simpa using noLine
        simp [other]
      · by_cases slash : c = '/'
        · subst slash
          have other : d ≠ '*' := by simpa using noBlock
          simp [other]
        · simp [minus, slash]

theorem quotedPattern_refuses {quote c : Char} (other : c ≠ quote) (cs : List Char) (offset : Nat)
    (before : Option Char) : (quotedPattern quote).endAt? ⟨offset, before, c :: cs⟩ = none := by
  simp [Pattern.endAt?, quotedPattern, Pattern.all, Pattern.run, other]

theorem at?_protected_none {cs : List Char} (closed : opensRun cs = false) (offset : Nat)
    (before : Option Char) : Found.at? protectedRules ⟨offset, before, cs⟩ = none := by
  cases cs with
  | nil =>
      simp [Found.at?, protectedRules, Pattern.endAt?, commentPattern, quotedPattern, Pattern.all,
        Pattern.run]
  | cons c cs =>
      obtain ⟨noQuote, noLine, noBlock⟩ := opensRun_cons_eq_false_iff.mp closed
      have single : c ≠ '\'' := by rintro rfl; cases noQuote
      have double : c ≠ '"' := by rintro rfl; cases noQuote
      simp [Found.at?, protectedRules, commentPattern_refuses noLine noBlock,
        quotedPattern_refuses single, quotedPattern_refuses double]

/-! ## What is matched where one opens -/

theorem lineComment_match {run rest : List Char} (inside : ∀ d ∈ run, (d != '\n') = true)
    (stops : Stops (· != '\n') rest) (offset : Nat) (before : Option Char) :
    ∃ before', commentPattern.endAt? ⟨offset, before, '-' :: '-' :: run ++ rest⟩ =
      some ⟨offset + ('-' :: '-' :: run).length, before', rest⟩ := by
  have inner := Pattern.runMany_longest inside stops (offset + 2) (some '-') Option.isSome_some
  refine ⟨run.getLast?.or (some '-'), ?_⟩
  have opened : Pattern.run (Pattern.all [.char '-', .char '-', .many (· != '\n')])
      ⟨offset, before, '-' :: '-' :: run ++ rest⟩ some = _ := inner
  rw [Pattern.endAt?, commentPattern, Pattern.run, opened]
  simp only [List.length_cons, Option.some.injEq, Site.mk.injEq, and_true]
  omega

/-- The shortest run up to the end of a comment is what the lexer reads of it. -/
theorem runFew_commentRest (cs : List Char) (offset : Nat) (before : Option Char) :
    ∃ before', Pattern.runFew (fun _ => true)
        (fun site => (Pattern.either (Pattern.word ['*', '/']) .ending).run site some)
        cs offset before =
      some ⟨offset + (commentRest cs).1.length, before', (commentRest cs).2⟩ := by
  fun_induction commentRest cs generalizing offset before with
  | case1 => exact ⟨before, rfl⟩
  | case2 c =>
      refine ⟨some c, ?_⟩
      rw [Pattern.runFew_move rfl (by simp [Pattern.run, Pattern.word, Pattern.all])]
      rfl
  | case3 c d rest ends =>
      obtain ⟨rfl, rfl⟩ := ends
      refine ⟨some '/', Pattern.runFew_stay ?_⟩
      simp [Pattern.run, Pattern.word, Pattern.all]
  | case4 c d rest inside body after parts ih =>
      obtain ⟨before', later⟩ := ih (offset + 1) (some c)
      refine ⟨before', ?_⟩
      have stuck : (Pattern.either (Pattern.word ['*', '/']) .ending).run
          ⟨offset, before, c :: d :: rest⟩ some = none := by
        by_cases star : c = '*'
        · have other : d ≠ '/' := fun slash => inside ⟨star, slash⟩
          simp [Pattern.run, Pattern.word, Pattern.all, other]
        · simp [Pattern.run, Pattern.word, Pattern.all, star]
      rw [Pattern.runFew_move rfl stuck, later, parts, List.length_cons, Nat.add_right_comm,
        Nat.add_assoc]

/-- A doubled quote with what follows it up to the next quote: the body that a quoted run
repeats. -/
def quotePair (quote : Char) : Pattern :=
  Pattern.all [.char quote, .char quote, .many (· != quote)]

theorem run_quotePair {α : Type} (quote : Char) (cs : List Char) (offset : Nat)
    (before : Option Char) (next : Site → Option α) :
    (quotePair quote).run ⟨offset, before, quote :: quote :: cs⟩ next =
      Pattern.runMany (· != quote) next cs (offset + 2) (some quote) := by
  simp [quotePair, Pattern.all, Pattern.run]

theorem run_quotePair_none {α : Type} {quote : Char} {rest : List Char}
    (stops : Stops (· == quote) rest) (offset : Nat) (before : Option Char)
    (next : Site → Option α) :
    (quotePair quote).run ⟨offset, before, quote :: rest⟩ next = none := by
  cases rest with
  | nil => simp [quotePair, Pattern.all, Pattern.run]
  | cons d more =>
      have other : d ≠ quote := by simpa using stops
      simp [quotePair, Pattern.all, Pattern.run, other]

/-- At a quote with this text behind it no pair is repeated: the match ends with that quote. -/
def ClosesRun (quote : Char) (rest : List Char) : Prop :=
  ∀ (bound : List Char) (offset : Nat) (before : Option Char),
    Pattern.runRepeated (quotePair quote).run (fun site => (Pattern.char quote).run site some) bound
      ⟨offset, before, quote :: rest⟩ = some ⟨offset + 1, some quote, rest⟩

theorem closesRun_of_stops {quote : Char} {rest : List Char} (stops : Stops (· == quote) rest) :
    ClosesRun quote rest := by
  intro bound offset before
  rw [Pattern.runRepeated_stop (run_quotePair_none stops offset before)]
  simp

/-- Behind the opening quote the pattern takes a name with its quotes doubled. The repetitions are
bounded by `bound`, which has to allow for the quotes of the name wherever they stand. -/
theorem runMany_doubled {quote : Char} {rest : List Char} (closes : ClosesRun quote rest)
    (name : List Char) (bound : Site → List Char)
    (enough : ∀ middle : Site, name.count quote ≤ middle.rest.count quote →
      name.count quote ≤ (bound middle).length)
    (offset : Nat) (before : Option Char) :
    Pattern.runMany (· != quote)
        (fun middle => Pattern.runRepeated (quotePair quote).run
          (fun site => (Pattern.char quote).run site some) (bound middle) middle)
        (doubled quote name ++ quote :: rest) offset before =
      some ⟨offset + (doubled quote name).length + 1, some quote, rest⟩ := by
  induction name generalizing bound offset before with
  | nil =>
      rw [doubled_nil, List.nil_append, Pattern.runMany, if_neg (by simp), closes]
      rfl
  | cons c name ih =>
      by_cases isQuote : c = quote
      · -- One repetition for the quote of the name, and one less for what follows it.
        subst isQuote
        rw [doubled_cons_quote, List.cons_append, List.cons_append, Pattern.runMany,
          if_neg (by simp)]
        have room : name.count c + 1 ≤
            (bound ⟨offset, before, c :: c :: (doubled c name ++ c :: rest)⟩).length := by
          rw [← List.count_cons_self]
          apply enough
          simp only [List.count_cons_self, List.count_append, count_doubled]
          omega
        have again := ih
          (fun _ => (bound ⟨offset, before, c :: c :: (doubled c name ++ c :: rest)⟩).tail)
          (fun _ _ => by rw [List.length_tail]; omega) (offset + 2) (some c)
        refine Pattern.runRepeated_once (by intro empty; simp [empty] at room) ?_
        rw [run_quotePair]
        refine again.trans ?_
        simp only [List.length_cons, Option.some.injEq, Site.mk.injEq, and_true]
        omega
      · rw [List.count_cons_of_ne isQuote] at enough
        have later := ih bound enough (offset + 1) (some c)
        rw [doubled_cons_of_ne isQuote, List.cons_append, Pattern.runMany,
          if_pos (by simpa using isQuote), later]
        simp only [List.length_cons, Option.some.injEq, Site.mk.injEq, and_true]
        omega

theorem quotedPattern_match {quote : Char} {rest : List Char} (closes : ClosesRun quote rest)
    (name : List Char) (offset : Nat) (before : Option Char) :
    (quotedPattern quote).endAt? ⟨offset, before, quote :: (doubled quote name ++ quote :: rest)⟩ =
      some ⟨offset + (quote :: (doubled quote name ++ [quote])).length, some quote, rest⟩ := by
  have inner := runMany_doubled closes name Site.rest
    (fun middle fewer => Nat.le_trans fewer List.count_le_length) (offset + 1) (some quote)
  simp only [Pattern.endAt?, quotedPattern, Pattern.all]
  rw [Pattern.run, Pattern.run_char_cons, if_pos rfl]
  refine inner.trans ?_
  simp only [List.length_cons, List.length_append, List.length_nil, Option.some.injEq,
    Site.mk.injEq, and_true]
  omega

theorem blockComment_match (cs : List Char) (offset : Nat) (before : Option Char) :
    ∃ before', commentPattern.endAt? ⟨offset, before, '/' :: '*' :: cs⟩ =
      some ⟨offset + ('/' :: '*' :: (commentRest cs).1).length, before', (commentRest cs).2⟩ := by
  obtain ⟨before', inner⟩ := runFew_commentRest cs (offset + 2) (some '*')
  refine ⟨before', ?_⟩
  have opened : commentPattern.endAt? ⟨offset, before, '/' :: '*' :: cs⟩ = _ := inner
  rw [opened]
  simp only [List.length_cons, Option.some.injEq, Site.mk.injEq, and_true]
  omega

theorem at?_comment {site stop : Site} (ends : commentPattern.endAt? site = some stop) :
    Found.at? protectedRules site = some ⟨.comment, site.offset, stop⟩ := by
  simp [Found.at?, protectedRules, ends]

theorem at?_quoted {quote : Char} {kind : TokenKind} {style : Style} {cs : List Char}
    {offset : Nat} {before : Option Char} {stop : Site} (isQuote : quoteKind? quote = some kind)
    (isProtected : kind.protectedStyle? = some style)
    (ends : (quotedPattern quote).endAt? ⟨offset, before, quote :: cs⟩ = some stop) :
    Found.at? protectedRules ⟨offset, before, quote :: cs⟩ = some ⟨style, offset, stop⟩ := by
  have comment : commentPattern.endAt? ⟨offset, before, quote :: cs⟩ = none := by
    apply commentPattern_refuses <;> rintro ⟨rfl, _⟩ <;> cases isQuote
  rcases quoteKind?_eq_some_iff.mp isQuote with ⟨rfl, rfl⟩ | ⟨rfl, rfl⟩
  · obtain rfl : Style.string = style := Option.some.inj isProtected
    simp [Found.at?, protectedRules, ends, comment]
  · obtain rfl : Style.quotedIdentifier = style := Option.some.inj isProtected
    have noString : (quotedPattern '\'').endAt? ⟨offset, before, '"' :: cs⟩ = none :=
      quotedPattern_refuses (by decide) cs offset before
    simp [Found.at?, protectedRules, ends, comment, noString]

/-- At a comment, or at a quoted run that is closed, the patterns match what the lexer reads. -/
theorem at?_protected {lexeme : Lexeme} {rest : List Char} (reads : Reads lexeme rest)
    (closed : lexeme.isOpenRun = false) {style : Style}
    (isProtected : lexeme.kind.protectedStyle? = some style) (offset : Nat)
    (before : Option Char) :
    ∃ before', Found.at? protectedRules ⟨offset, before, lexeme.text ++ rest⟩ =
      some ⟨style, offset, ⟨offset + lexeme.text.length, before', rest⟩⟩ := by
  cases reads with
  | lineComment inside stops =>
      obtain rfl : Style.comment = style := Option.some.inj isProtected
      obtain ⟨before', ends⟩ := lineComment_match inside stops offset before
      exact ⟨before', at?_comment ends⟩
  | @blockComment inner _ clean =>
      obtain rfl : Style.comment = style := Option.some.inj isProtected
      obtain ⟨before', ends⟩ := blockComment_match (inner ++ '*' :: '/' :: rest) offset before
      rw [commentRest_closed rest clean] at ends
      have spelled : '/' :: '*' :: (inner ++ commentEnd) ++ rest =
          '/' :: '*' :: (inner ++ '*' :: '/' :: rest) := by simp [commentEnd]
      rw [spelled]
      exact ⟨before', at?_comment ends⟩
  | openComment clean =>
      obtain rfl : Style.comment = style := Option.some.inj isProtected
      obtain ⟨before', ends⟩ := blockComment_match _ offset before
      rw [commentRest_open clean] at ends
      rw [List.append_nil]
      exact ⟨before', at?_comment ends⟩
  | @quotedRun quote _ name _ isQuote stops =>
      have ends := quotedPattern_match (closesRun_of_stops stops) name offset before
      have spelled : quote :: (doubled quote name ++ [quote]) ++ rest =
          quote :: (doubled quote name ++ quote :: rest) := by simp
      rw [spelled]
      exact ⟨some quote, at?_quoted isQuote isProtected ends⟩
  | openRun isQuote =>
      rw [isOpenRun_of_openRun isQuote] at closed
      cases closed
  | punctuation mark =>
      rcases punctuation?_eq_some mark with ⟨_, rfl⟩ | ⟨_, rfl⟩ | ⟨_, rfl⟩ | ⟨_, rfl⟩ <;>
        cases isProtected
  | word start noDigit inside stops =>
      unfold wordKind at isProtected
      split at isProtected <;> cases isProtected
  | space | number | lone => cases isProtected

/-! ## What is not matched -/

/-- No comment and no quoted run opens at a character of `cs`, if the text goes on with `rest`. -/
def Quiet (rest : List Char) : List Char → Prop
  | [] => True
  | c :: cs => opensRun (c :: (cs ++ rest)) = false ∧ Quiet rest cs

/-- The characters that a comment or a quoted run starts with. -/
def openers : List Char := ['-', '/', '\'', '"']

theorem opensRun_of_not_mem {c : Char} (plain : c ∉ openers) (cs : List Char) :
    opensRun (c :: cs) = false := by
  simp only [openers, List.mem_cons, List.not_mem_nil, or_false, not_or] at plain
  obtain ⟨minus, slash, single, double⟩ := plain
  have noQuote : quoteKind? c = none := by
    unfold quoteKind?
    split <;> simp_all
  exact opensRun_cons_eq_false_iff.mpr
    ⟨noQuote, fun line => minus line.1, fun block => slash block.1⟩

theorem not_mem_openers {p : Char → Bool} (outside : openers.all (!p ·) = true) {c : Char}
    (inside : p c = true) : c ∉ openers := by
  intro member
  have excluded := List.all_eq_true.mp outside c member
  rw [inside] at excluded
  cases excluded

theorem quiet_of_plain {cs : List Char} (plain : ∀ c ∈ cs, c ∉ openers) (rest : List Char) :
    Quiet rest cs := by
  induction cs with
  | nil => trivial
  | cons c cs ih =>
      refine ⟨opensRun_of_not_mem (plain c List.mem_cons_self) _, ih ?_⟩
      intro d member
      exact plain d (List.mem_cons_of_mem c member)

/-- A run of a class without openers is quiet. -/
theorem quiet_of_class {p : Char → Bool} (outside : openers.all (!p ·) = true) {cs : List Char}
    (inside : ∀ c ∈ cs, p c = true) (rest : List Char) : Quiet rest cs :=
  quiet_of_plain (fun c member => not_mem_openers outside (inside c member)) rest

theorem quiet_append {rest cs ds : List Char} (left : Quiet (ds ++ rest) cs)
    (right : Quiet rest ds) : Quiet rest (cs ++ ds) := by
  induction cs with
  | nil => exact right
  | cons c cs ih =>
      refine ⟨?_, ih left.2⟩
      show opensRun (c :: (cs ++ ds ++ rest)) = false
      rw [List.append_assoc]
      exact left.1

/-- The only opener in an exponent is the minus of its sign. It opens nothing before a digit, so it
matters only as the last character. -/
theorem quiet_exponent {tail : List Char} {p : Char → Bool} (form : Exponent tail p)
    {rest : List Char} (apart : tail.getLast? = some '-' → rest.head? ≠ some '-') :
    Quiet rest tail := by
  have plainMark : ∀ {e : Char}, isExponentMark e = true → e ∉ openers :=
    not_mem_openers (by decide)
  have digitClass : openers.all (!Text.isDigit ·) = true := by decide
  cases form with
  | none => trivial
  | mark isMark => exact ⟨opensRun_of_not_mem (plainMark isMark) _, trivial⟩
  | digits isMark digit inside =>
      exact ⟨opensRun_of_not_mem (plainMark isMark) _,
        opensRun_of_not_mem (not_mem_openers digitClass digit) _,
        quiet_of_class digitClass inside rest⟩
  | @signed e s run isMark isSign inside =>
      refine ⟨opensRun_of_not_mem (plainMark isMark) _, ?_, quiet_of_class digitClass inside rest⟩
      rcases isSign_iff.mp isSign with rfl | rfl
      · exact opensRun_of_not_mem (by decide) _
      · have noMinus : (run ++ rest).head? ≠ some '-' := by
          cases run with
          | nil => exact apart rfl
          | cons d run =>
              intro minus
              obtain rfl : d = '-' := Option.some.inj minus
              exact absurd (inside '-' List.mem_cons_self) (by decide)
        exact opensRun_cons_eq_false_iff.mpr ⟨rfl, fun line => noMinus line.2, by simp⟩

/-- Inside of a lexeme that is no protected run, none opens. -/
theorem quiet_of_reads {lexeme : Lexeme} {rest : List Char} (reads : Reads lexeme rest)
    (unprotected : lexeme.kind.protectedStyle? = none)
    (apart : lexeme.kind = .number → lexeme.text.getLast? = some '-' → rest.head? ≠ some '-') :
    Quiet rest lexeme.text := by
  cases reads with
  | space start inside stops =>
      exact quiet_of_class (p := isSpace) (by decide)
        (List.forall_mem_cons.mpr ⟨start, inside⟩) rest
  | punctuation mark =>
      refine ⟨opensRun_of_not_mem ?_ _, trivial⟩
      rcases punctuation?_eq_some mark with ⟨rfl, _⟩ | ⟨rfl, _⟩ | ⟨rfl, _⟩ | ⟨rfl, _⟩ <;> decide
  | @number c run tail _ p start inside form stops =>
      have begins : isNumberStart c = true := by
        simp only [Bool.or_eq_true, Bool.and_eq_true] at start
        rw [isNumberStart, Bool.or_eq_true]
        exact start.imp_right And.left
      have mantissa : ∀ d ∈ c :: run, isMantissa d = true :=
        List.forall_mem_cons.mpr ⟨begins, inside⟩
      have left := quiet_of_class (p := isMantissa) (by decide) mantissa (tail ++ rest)
      refine quiet_append left (quiet_exponent form ?_)
      intro minus
      refine apart rfl ?_
      rw [← List.cons_append, List.getLast?_append, minus]
      rfl
  | word start noDigit inside stops =>
      exact quiet_of_class (p := Text.isWordChar) (by decide)
        (List.forall_mem_cons.mpr ⟨isWordChar_of_isWordStart start, inside⟩) rest
  | @lone c _ lone stops =>
      simp only [isLone, Bool.and_eq_true, Option.isNone_iff_eq_none] at lone
      refine ⟨opensRun_cons_eq_false_iff.mpr ⟨lone.1.1.1.2, ?_, ?_⟩, trivial⟩
      · rintro ⟨rfl, minus⟩
        exact stops_beq_iff.mp stops minus
      · rintro ⟨rfl, star⟩
        exact stops_beq_iff.mp stops star
  | lineComment | blockComment | openComment => cases unprotected
  | quotedRun isQuote | openRun isQuote =>
      rcases quoteKind?_eq_some_iff.mp isQuote with ⟨_, rfl⟩ | ⟨_, rfl⟩ <;> cases unprotected

theorem allFrom_quiet {cs rest : List Char} (quiet : Quiet rest cs) (offset : Nat)
    (before : Option Char) :
    ∃ before', Found.allFrom protectedRules offset before 0 (cs ++ rest) =
      Found.allFrom protectedRules (offset + cs.length) before' 0 rest := by
  induction cs generalizing offset before with
  | nil => exact ⟨before, rfl⟩
  | cons c cs ih =>
      obtain ⟨before', moved⟩ := ih quiet.2 (offset + 1) (some c)
      refine ⟨before', ?_⟩
      rw [List.cons_append, Found.allFrom_move (at?_protected_none quiet.1 offset before), moved,
        List.length_cons, Nat.add_right_comm, Nat.add_assoc]

/-! ## From lexeme to lexeme -/

/-- A match as a span. -/
def span (found : Found Style) : StyledSpan := ⟨found.range, found.rule⟩

/-- No number among the lexemes ends in a minus with another minus behind it, if the text goes on
with `rest`. -/
def Apart (rest : List Char) : List Lexeme → Prop
  | [] => True
  | lexeme :: more =>
    (lexeme.kind = .number → lexeme.text.getLast? = some '-' →
      (Lexeme.spelling more ++ rest).head? ≠ some '-') ∧ Apart rest more

/-- One lexeme: the patterns find it if it is protected, and else nothing in it. -/
theorem allFrom_lexeme {lexeme : Lexeme} {rest : List Char} (reads : Reads lexeme rest)
    (closed : lexeme.isOpenRun = false)
    (apart : lexeme.kind = .number → lexeme.text.getLast? = some '-' → rest.head? ≠ some '-')
    (offset : Nat) (before : Option Char) :
    ∃ before', (Found.allFrom protectedRules offset before 0 (lexeme.text ++ rest)).map span =
      (Token.protectedSpan? ⟨lexeme, offset⟩).toList ++
        (Found.allFrom protectedRules (offset + lexeme.text.length) before' 0 rest).map span := by
  cases isProtected : lexeme.kind.protectedStyle? with
  | none =>
      obtain ⟨before', moved⟩ :=
        allFrom_quiet (quiet_of_reads reads isProtected apart) offset before
      refine ⟨before', ?_⟩
      rw [moved, Token.protectedSpan?, isProtected]
      rfl
  | some style =>
      obtain ⟨c, cs, spelled, _⟩ := reads.first_eq
      have inhabited : lexeme.text ≠ [] := by rw [spelled]; exact List.cons_ne_nil c cs
      obtain ⟨_, isFound⟩ := at?_protected reads closed isProtected offset before
      obtain ⟨before', cut⟩ := Found.allFrom_found inhabited isFound rfl
      refine ⟨before', ?_⟩
      rw [cut, Token.protectedSpan?, isProtected]
      rfl

/-- All lexemes of a list that holds no open run: the patterns find the protected ones among them,
and go on behind the last. -/
theorem allFrom_lexemes {lexemes : List Lexeme} {rest : List Char} (all : ReadsAll rest lexemes)
    (closed : ∀ lexeme ∈ lexemes, lexeme.isOpenRun = false) (apart : Apart rest lexemes)
    (offset : Nat) (before : Option Char) :
    ∃ before',
      (Found.allFrom protectedRules offset before 0 (Lexeme.spelling lexemes ++ rest)).map span =
        (Token.place offset lexemes).filterMap Token.protectedSpan? ++
          (Found.allFrom protectedRules (offset + (Lexeme.spelling lexemes).length)
            before' 0 rest).map span := by
  induction lexemes generalizing offset before with
  | nil => exact ⟨before, rfl⟩
  | cons lexeme more ih =>
      obtain ⟨between, here⟩ := allFrom_lexeme all.1 (closed lexeme List.mem_cons_self) apart.1
        offset before
      obtain ⟨before', later⟩ := ih all.2
        (fun other member => closed other (List.mem_cons_of_mem lexeme member)) apart.2
        (offset + lexeme.text.length) between
      refine ⟨before', ?_⟩
      rw [Lexeme.spelling_cons, List.append_assoc, here, later, List.length_append,
        Token.place_cons, List.filterMap_cons, Nat.add_assoc]
      cases Token.protectedSpan? ⟨lexeme, offset⟩ <;> rfl

theorem apart_of_place {before rest : List Char} {lexemes : List Lexeme}
    (apart : ∀ token ∈ Token.place before.length lexemes, token.kind = .number →
      token.text.getLast? = some '-' →
      ((before ++ (Lexeme.spelling lexemes ++ rest)).drop token.stop).head? ≠ some '-') :
    Apart rest lexemes := by
  induction lexemes generalizing before with
  | nil => trivial
  | cons lexeme more ih =>
      rw [Lexeme.spelling_cons, List.append_assoc, ← List.append_assoc] at apart
      constructor
      · have here := apart ⟨lexeme, before.length⟩ List.mem_cons_self
        rwa [Token.stop, ← List.length_append, List.drop_left] at here
      · refine @ih (before ++ lexeme.text) ?_
        intro token member
        rw [List.length_append] at member
        exact apart token (List.mem_cons_of_mem _ member)

end Highlight

namespace Lexer

/-- At most the last lexeme of a text is an open run. -/
theorem ReadsAll.exists_open_split {lexemes : List Lexeme} (all : ReadsAll [] lexemes) :
    ∃ front tail, lexemes = front ++ tail ∧ (∀ lexeme ∈ front, lexeme.isOpenRun = false) ∧
      (tail = [] ∨ ∃ last, tail = [last] ∧ last.isOpenRun = true) := by
  induction lexemes with
  | nil => exact ⟨[], [], rfl, List.forall_mem_nil _, .inl rfl⟩
  | cons lexeme more ih =>
      cases isOpen : lexeme.isOpenRun with
      | true =>
          have nothing := all.1.rest_of_isOpenRun isOpen
          have last : more = [] := by
            cases more with
            | nil => rfl
            | cons next tail =>
                obtain ⟨c, cs, spelled, _⟩ := all.2.1.first_eq
                simp [spelled] at nothing
          subst last
          exact ⟨[], [lexeme], rfl, List.forall_mem_nil _, .inr ⟨lexeme, rfl, isOpen⟩⟩
      | false =>
          obtain ⟨front, tail, rfl, closed, ends⟩ := ih all.2
          exact ⟨lexeme :: front, tail, rfl, List.forall_mem_cons.mpr ⟨isOpen, closed⟩, ends⟩

end Lexer

/-! ## The spans of a text -/

/-- The text divided at its open run: the lexemes before it, and where it starts. -/
theorem exists_quiet_split (text : List Char) :
    ∃ front tail, Lexer.lex text = front ++ tail ∧
      (∀ lexeme ∈ front, lexeme.isOpenRun = false) ∧
      quietEnd text = (Lexeme.spelling front).length := by
  obtain ⟨front, tail, lexemes, closed, ends⟩ := (Lexer.readsAll_lex text).exists_open_split
  refine ⟨front, tail, lexemes, closed, ?_⟩
  have noneOpen : (Token.place 0 front).filter (·.isOpenRun) = [] := by
    rw [List.filter_eq_nil_iff]
    intro token member
    rw [closed _ (Token.toLexeme_mem_of_mem_place member)]
    exact Bool.false_ne_true
  rw [quietEnd, tokenize, lexemes, Token.place_append, List.filter_append, noneOpen]
  rcases ends with rfl | ⟨last, rfl, isOpen⟩
  · rw [← Lexer.spelling_lex text, lexemes, List.append_nil]
    rfl
  · simp [isOpen]

theorem protectedSpan?_start {token : Token} {span : StyledSpan}
    (isSpan : token.protectedSpan? = some span) : span.range.start = token.start := by
  obtain ⟨style, _, rfl⟩ := Option.map_eq_some_iff.mp isSpan
  rfl

namespace Highlight

/-- The order of sorted spans: by their starts, and by their ends for equal starts. -/
def precedes (a b : StyledSpan) : Bool :=
  a.range.start < b.range.start || (a.range.start == b.range.start && a.range.stop ≤ b.range.stop)

theorem sorted_eq (spans : List StyledSpan) : sorted spans = spans.mergeSort precedes := rfl

theorem precedes_iff {a b : StyledSpan} : precedes a b = true ↔
    a.range.start < b.range.start ∨ a.range.start = b.range.start ∧
      a.range.stop ≤ b.range.stop := by
  simp only [precedes, Bool.or_eq_true, Bool.and_eq_true, decide_eq_true_eq, beq_iff_eq]

theorem precedes_trans (a b c : StyledSpan) (first : precedes a b = true)
    (second : precedes b c = true) : precedes a c = true := by
  rw [precedes_iff] at first second ⊢
  omega

theorem precedes_total (a b : StyledSpan) : (precedes a b || precedes b a) = true := by
  rw [Bool.or_eq_true, precedes_iff, precedes_iff]
  omega

/-- Spans that are in order already stay so when all are sorted. -/
theorem filter_sorted {spans : List StyledSpan} {p : StyledSpan → Bool}
    (ordered : (spans.filter p).Pairwise (·.range.start < ·.range.start)) :
    (sorted spans).filter p = spans.filter p := by
  have kept : (spans.filter p).Sublist (sorted spans) := by
    rw [sorted_eq]
    apply List.sublist_mergeSort precedes_trans precedes_total
    · apply ordered.imp
      intro a b earlier
      exact precedes_iff.mpr (.inl earlier)
    · exact List.filter_sublist
  have filtered := kept.filter p
  rw [List.filter_filter] at filtered
  simp only [Bool.and_self] at filtered
  have permuted : (sorted spans).Perm spans := List.mergeSort_perm ..
  exact (filtered.eq_of_length (permuted.filter p).length_eq.symm).symm

/-- The matches of a search stand in the order of the text. -/
theorem ordered_found (rules : List (Style × Pattern)) (text : List Char) :
    ((Found.all rules text).map span).Pairwise (·.range.start < ·.range.start) := by
  rw [List.pairwise_map]
  apply (Found.pairwise_allFrom 0 0 none text).imp
  intro a b earlier
  exact Int.ofNat_lt.mpr (Nat.lt_of_lt_of_le earlier.1 earlier.2)

/-- Of the spans in their final order, those of comments and quoted runs are the matches of the
protected rules, in the order in which they were found. -/
theorem filter_isProtected_highlightSql (text : List Char) :
    (highlightSql text).filter (·.style.isProtected) =
      (Found.all protectedRules text).map span := by
  have inside : ∀ styled ∈ (Found.all protectedRules text).map span,
      styled.style.isProtected = true := by
    intro styled member
    obtain ⟨found, isFound, rfl⟩ := List.mem_map.mp member
    have rule := (Found.of_mem_allFrom isFound).2
    simp only [protectedRules, List.map_cons, List.map_nil, List.mem_cons, List.not_mem_nil,
      or_false] at rule
    rcases rule with rule | rule | rule <;> simp [span, rule, Style.isProtected]
  have outside : ∀ ranges : List TextRange, ∀ styled ∈ sqlRules.flatMap (unprotected ranges text),
      ¬ styled.style.isProtected = true := by
    intro ranges styled member
    obtain ⟨rule, isRule, found⟩ := List.mem_flatMap.mp member
    obtain ⟨found, isFound, rfl⟩ := List.mem_map.mp (List.mem_filter.mp found).1
    have here := (Found.of_mem_allFrom isFound).2
    simp only [List.map_cons, List.map_nil, List.mem_singleton] at here
    simp only [sqlRules, List.mem_cons, List.not_mem_nil, or_false] at isRule
    rcases isRule with rfl | rfl | rfl <;> simp [here, Style.isProtected]
  have parts : ∀ ranges : List TextRange, ((Found.all protectedRules text).map span ++
      sqlRules.flatMap (unprotected ranges text)).filter (·.style.isProtected) =
        (Found.all protectedRules text).map span := by
    intro ranges
    rw [List.filter_append, List.filter_eq_self.mpr inside,
      List.filter_eq_nil_iff.mpr (outside ranges), List.append_nil]
  have whole : highlightSql text = sorted ((Found.all protectedRules text).map span ++
      sqlRules.flatMap
        (unprotected (((Found.all protectedRules text).map span).map (·.range)) text)) := rfl
  rw [whole, filter_sorted (by rw [parts]; exact ordered_found _ text), parts]

end Highlight

/-! ## Both scanners up to a cut between lexemes -/

section

variable {text : List Char} {front tail : List Lexeme} (lexemes : Lexer.lex text = front ++ tail)

include lexemes

theorem tokenize_cut : tokenize text =
    Token.place 0 front ++ Token.place (Lexeme.spelling front).length tail := by
  rw [tokenize, lexemes, Token.place_append, Nat.zero_add]

theorem text_cut : text = Lexeme.spelling front ++ Lexeme.spelling tail := by
  rw [← Lexer.spelling_lex text, lexemes, Lexeme.spelling_append]

/-- The tokens that end at the cut or earlier are those before it. -/
theorem filter_stop_tokenize : (tokenize text).filter
    (fun token => decide (token.stop ≤ (Lexeme.spelling front).length)) = Token.place 0 front := by
  have early : (Token.place 0 front).filter
      (fun token => decide (token.stop ≤ (Lexeme.spelling front).length)) =
        Token.place 0 front := by
    rw [List.filter_eq_self]
    intro token member
    have stop := (Token.bounds_of_mem_place member).2
    simp only [decide_eq_true_eq]
    omega
  have late : (Token.place (Lexeme.spelling front).length tail).filter
      (fun token => decide (token.stop ≤ (Lexeme.spelling front).length)) = [] := by
    rw [List.filter_eq_nil_iff]
    intro token member
    have start := (Token.bounds_of_mem_place member).1
    have isToken : token ∈ tokenize text := by
      rw [tokenize_cut lexemes]
      exact List.mem_append_right _ member
    have inhabited := start_lt_stop isToken
    simp only [decide_eq_true_eq]
    omega
  rw [tokenize_cut lexemes, List.filter_append, early, late, List.append_nil]

theorem apart_front (apart : NumbersApart text) :
    Highlight.Apart (Lexeme.spelling tail) front := by
  refine @Highlight.apart_of_place [] _ _ ?_
  intro token member
  rw [List.nil_append, ← text_cut lexemes]
  apply apart
  rw [tokenize_cut lexemes]
  exact List.mem_append_left _ member

/-- The matches that start before the cut are the comments and quoted runs before it, if no quoted
run is open there. -/
theorem filter_start_found (closed : ∀ lexeme ∈ front, lexeme.isOpenRun = false)
    (apart : NumbersApart text) :
    ((Found.all Highlight.protectedRules text).map Highlight.span).filter
        (fun span => decide (span.range.start < ((Lexeme.spelling front).length : Int))) =
      (Token.place 0 front).filterMap Token.protectedSpan? := by
  have all := Lexer.readsAll_lex text
  rw [lexemes, Lexer.readsAll_append, List.append_nil] at all
  obtain ⟨before, found⟩ :=
    Highlight.allFrom_lexemes all.1 closed (apart_front lexemes apart) 0 none
  rw [← text_cut lexemes, Nat.zero_add] at found
  have early : ((Token.place 0 front).filterMap Token.protectedSpan?).filter
      (fun span => decide (span.range.start < ((Lexeme.spelling front).length : Int))) =
        (Token.place 0 front).filterMap Token.protectedSpan? := by
    rw [List.filter_eq_self]
    intro span member
    obtain ⟨token, isPlaced, isSpan⟩ := List.mem_filterMap.mp member
    have stop := (Token.bounds_of_mem_place isPlaced).2
    have isToken : token ∈ tokenize text := by
      rw [tokenize_cut lexemes]
      exact List.mem_append_left _ isPlaced
    have inhabited := start_lt_stop isToken
    simp only [protectedSpan?_start isSpan, decide_eq_true_eq]
    omega
  have late : ((Found.allFrom Highlight.protectedRules (Lexeme.spelling front).length before 0
      (Lexeme.spelling tail)).map Highlight.span).filter
        (fun span => decide (span.range.start < ((Lexeme.spelling front).length : Int))) = [] := by
    rw [List.filter_eq_nil_iff]
    intro span member
    obtain ⟨behind, isFound, rfl⟩ := List.mem_map.mp member
    have start := (Found.of_mem_allFrom isFound).1
    rw [decide_eq_true_eq, Int.not_lt]
    exact Int.ofNat_le.mpr start
  rw [Found.all, found, List.filter_append, early, late, List.append_nil]

end

/-- The lexer and the patterns agree on comments and quoted runs. In a text in which no number ends
in a minus before another minus, the spans of comments and quoted runs that start before the open
run of the text, if it has one, are the comments and quoted runs among the tokens that end there or
earlier: the same ranges, in the same order. -/
theorem highlightSql_protected (text : List Char) (apart : NumbersApart text) :
    (highlightSql text).filter
        (fun span => span.style.isProtected && decide (span.range.start < (quietEnd text : Int))) =
      ((tokenize text).filter (fun token => decide (token.stop ≤ quietEnd text))).filterMap
        Token.protectedSpan? := by
  obtain ⟨front, tail, lexemes, closed, quiet⟩ := exists_quiet_split text
  calc
    _ = ((highlightSql text).filter (·.style.isProtected)).filter
          (fun span => decide (span.range.start < (quietEnd text : Int))) := by
      rw [List.filter_filter]
      congr 1
      funext span
      rw [Bool.and_comm]
    _ = (Token.place 0 front).filterMap Token.protectedSpan? := by
      rw [Highlight.filter_isProtected_highlightSql, quiet, filter_start_found lexemes closed apart]
    _ = _ := by rw [quiet, filter_stop_tokenize lexemes]

/-- A number before a comment, a string with a doubled quote, a comment that opens like `/*/`, and
an open run in which the patterns find a shorter one. -/
theorem highlightSql_protected_mixed :
    NumbersApart "1e-5--x\n'it''s'/*/a*/\"b\"\"".toList ∧
    quietEnd "1e-5--x\n'it''s'/*/a*/\"b\"\"".toList = 21 ∧
    (highlightSql "1e-5--x\n'it''s'/*/a*/\"b\"\"".toList).filter
        (fun span => span.style.isProtected &&
          decide (span.range.start < (quietEnd "1e-5--x\n'it''s'/*/a*/\"b\"\"".toList : Int))) =
      ((tokenize "1e-5--x\n'it''s'/*/a*/\"b\"\"".toList).filter
        (fun token =>
          decide (token.stop ≤ quietEnd "1e-5--x\n'it''s'/*/a*/\"b\"\"".toList))).filterMap
        Token.protectedSpan? := by
  have apart : NumbersApart "1e-5--x\n'it''s'/*/a*/\"b\"\"".toList := by decide +kernel
  exact ⟨apart, by decide +kernel, highlightSql_protected _ apart⟩

end SqlAssist
