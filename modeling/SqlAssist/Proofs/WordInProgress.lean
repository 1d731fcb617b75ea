import SqlAssist.Proofs.QuotedValues
import SqlAssist.Proofs.SolidParts
import SqlAssist.Slot

/-!
# A word in progress

What the cursor expects does not change while a word is typed, nor while white space is added behind
white space, a comment, a comma or a parenthesis.

Typing changes the last lexeme of a text and adds lexemes behind it. The last lexeme may take some
of the new characters (`Grows`): an open string or comment takes all of them, a word takes what a
word goes on with, a number its digits and exponent, a point becomes a number. It stays what it was
to the slot: trivia, part of the word being typed, or untouched. All lexemes of the word behind it
belong to the word being typed, so the finished words are those from before (`after_append_word`).
-/
namespace SqlAssist

namespace Slot

open Lexer

/-! ## Finished lexemes -/

/-- The solid lexemes before the word being typed, the last one first. -/
def finished (lexemes : List Lexeme) : List Lexeme :=
  (lexemes.reverse.dropWhile inWord).filter (!·.isTrivia)

theorem after_congr {text other : List Char} (same : finished (lex text) = finished (lex other)) :
    after text = after other := by
  show ofWords ((finished (lex text)).map _) = ofWords ((finished (lex other)).map _)
  rw [same]

theorem inWord_of_isTrivia {lexeme : Lexeme} (trivia : lexeme.isTrivia = true) :
    inWord lexeme = false := by
  unfold inWord
  unfold Lexeme.isTrivia at trivia
  split
  · rfl
  · rfl
  · rfl
  · rw [trivia]
    rfl

/-- The lexemes at the end that belong to the word being typed do not count. -/
theorem finished_append_word (left : List Lexeme) {right : List Lexeme}
    (typed : ∀ lexeme ∈ right, inWord lexeme = true) :
    finished (left ++ right) = finished left := by
  unfold finished
  rw [List.reverse_append, List.dropWhile_append_of_pos]
  intro lexeme member
  exact typed lexeme (List.mem_reverse.mp member)

/-- Where no word is being typed, all solid lexemes are finished. -/
theorem finished_eq_of_last {lexemes : List Lexeme}
    (noWord : ∀ last ∈ lexemes.getLast?, inWord last = false) :
    finished lexemes = lexemes.reverse.filter (!·.isTrivia) := by
  unfold finished
  rw [← List.head?_reverse] at noWord
  cases backwards : lexemes.reverse with
  | nil => rfl
  | cons last front =>
      rw [backwards] at noWord
      have outside : ¬ inWord last = true := by simp [noWord last rfl]
      rw [List.dropWhile_cons_of_neg outside]

/-- White space and comments behind finished lexemes change nothing. -/
theorem finished_append_trivia {left right : List Lexeme}
    (noWord : ∀ last ∈ left.getLast?, inWord last = false)
    (blank : ∀ lexeme ∈ right, lexeme.isTrivia = true) :
    finished (left ++ right) = finished left := by
  have outside : ∀ last ∈ (left ++ right).getLast?, inWord last = false := by
    intro last isLast
    rw [List.getLast?_append, Option.mem_def, Option.or_eq_some_iff] at isLast
    rcases isLast with behind | ⟨_, before⟩
    · exact inWord_of_isTrivia (blank last (List.mem_of_getLast? behind))
    · exact noWord last before
  have nothing : right.reverse.filter (!·.isTrivia) = [] := by
    rw [List.filter_eq_nil_iff]
    intro lexeme member
    simp [blank lexeme (List.mem_reverse.mp member)]
  rw [finished_eq_of_last outside, finished_eq_of_last noWord, List.reverse_append,
    List.filter_append, nothing, List.nil_append]

end Slot

namespace Lexer

open Slot

/-! ## Lexemes that grow -/

/-- What becomes of the last lexeme of a text that goes on: it takes the characters `taken` and
stands before `rest`. To the slot it is what it was. -/
structure Grows (lexeme grown : Lexeme) (taken rest : List Char) : Prop where
  text : grown.text = lexeme.text ++ taken
  reads : Reads grown rest
  sort : grown = lexeme ∨ inWord lexeme = true ∧ inWord grown = true ∨
    lexeme.isTrivia = true ∧ grown.isTrivia = true

variable {lexeme grown : Lexeme} {taken rest : List Char}

/-- A lexeme that takes nothing. -/
theorem Reads.grows (reads : Reads lexeme rest) : Grows lexeme lexeme [] rest :=
  ⟨(List.append_nil _).symm, reads, .inl rfl⟩

/-- The lexemes of a text that goes on. The one before the last sees the first character of the last
only, and that is still there. -/
theorem Grows.lex_append {text : List Char} {front : List Lexeme}
    (grows : Grows lexeme grown taken rest) (lexemes : lex text = front ++ [lexeme]) :
    lex (text ++ (taken ++ rest)) = front ++ grown :: lex rest := by
  have all := readsAll_lex text
  rw [lexemes, readsAll_append] at all
  obtain ⟨before, reads, _⟩ := all
  obtain ⟨c, cs, spelled, _⟩ := reads.first_eq
  have stands : ReadsAll (grown.text ++ rest) front := by
    apply before.change
    intro last _ lastReads
    apply lastReads.of_head?
    simp [grows.text, spelled]
  have whole : text ++ (taken ++ rest) = Lexeme.spelling front ++ (grown.text ++ rest) := by
    rw [← spelling_lex text, lexemes, grows.text]
    simp
  rw [whole, stands.lex_append, grows.reads.lex_append]

theorem commentEnd_infix_append {inner more : List Char} (noSlash : '/' ∉ more)
    (found : commentEnd <:+: inner ++ more) : commentEnd <:+: inner := by
  induction inner with
  | nil =>
      have member : '/' ∈ more := found.subset (by simp [commentEnd])
      exact absurd member noSlash
  | cons c inner ih =>
      rw [List.cons_append, commentEnd_infix_cons] at found
      rw [commentEnd_infix_cons]
      rcases found with ⟨star, slash⟩ | later
      · rw [List.head?_append, Option.or_eq_some_iff] at slash
        rcases slash with slash | ⟨_, behind⟩
        · exact .inl ⟨star, slash⟩
        · exact absurd (List.mem_of_head? behind) noSlash
      · exact .inr (ih later)

/-- A lexeme outside of words stays outside of them. White space and comments take what they can,
and without a slash no comment is closed. -/
theorem Reads.exists_grows_of_not_inWord (reads : Reads lexeme []) (outside : inWord lexeme = false)
    {more : List Char} (noSlash : '/' ∉ more) :
    ∃ taken rest grown, more = taken ++ rest ∧ Grows lexeme grown taken rest := by
  cases reads with
  | @space c run _ start inside _ =>
      have taken : ∀ d ∈ run ++ more.takeWhile isSpace, isSpace d = true := by
        intro d member
        exact (List.mem_append.mp member).elim (inside d) (all_takeWhile d)
      exact ⟨more.takeWhile isSpace, more.dropWhile isSpace, _,
        List.takeWhile_append_dropWhile.symm, rfl, .space start taken (stops_dropWhile _ _),
        .inr (.inr ⟨rfl, rfl⟩)⟩
  | @lineComment run _ inside _ =>
      have taken : ∀ d ∈ run ++ more.takeWhile (· != '\n'), (d != '\n') = true := by
        intro d member
        exact (List.mem_append.mp member).elim (inside d) (all_takeWhile d)
      exact ⟨more.takeWhile (· != '\n'), more.dropWhile (· != '\n'), _,
        List.takeWhile_append_dropWhile.symm, rfl, .lineComment taken (stops_dropWhile _ _),
        .inr (.inr ⟨rfl, rfl⟩)⟩
  | blockComment clean => exact ⟨[], more, _, rfl, Reads.grows (.blockComment clean)⟩
  | openComment clean =>
      exact ⟨more, [], _, (List.append_nil more).symm, rfl,
        .openComment fun found => clean (commentEnd_infix_append noSlash found),
        .inr (.inr ⟨rfl, rfl⟩)⟩
  | punctuation mark => exact ⟨[], more, _, rfl, Reads.grows (.punctuation mark)⟩
  | quotedRun isQuote _ =>
      rcases quoteKind?_eq_some_iff.mp isQuote with ⟨_, rfl⟩ | ⟨_, rfl⟩ <;> cases outside
  | openRun isQuote =>
      rcases quoteKind?_eq_some_iff.mp isQuote with ⟨_, rfl⟩ | ⟨_, rfl⟩ <;> cases outside
  | @word c run _ _ _ _ _ =>
      rcases wordKind_eq (c :: run) with kind | kind <;> simp [inWord, kind] at outside <;>
        cases outside
  | number | lone => cases outside

/-! ## Word characters behind a lexeme -/

theorem stops_of_all {p q : Char → Bool} (apart : ∀ c, p c = true → q c = false) {cs : List Char}
    (inside : ∀ c ∈ cs, p c = true) : Stops q cs := by
  cases cs with
  | nil => rfl
  | cons c rest => exact apart c (inside c List.mem_cons_self)

/-- A number takes what a number goes on with. -/
theorem exists_number {c : Char} {run : List Char}
    (start : (Text.isDigit c || (c == '.' && run.head?.any Text.isDigit)) = true)
    (inside : ∀ d ∈ run, isMantissa d = true) (more : List Char) :
    ∃ taken rest, more = taken ++ rest ∧ Reads ⟨.number, c :: (run ++ taken)⟩ rest := by
  obtain ⟨p, form, stops⟩ := exponent_forms (stops_dropWhile isMantissa more)
  have mantissa : ∀ d ∈ run ++ more.takeWhile isMantissa, isMantissa d = true := by
    intro d member
    exact (List.mem_append.mp member).elim (inside d) (all_takeWhile d)
  have begins : (Text.isDigit c ||
      (c == '.' && (run ++ more.takeWhile isMantissa).head?.any Text.isDigit)) = true := by
    cases run with
    | nil =>
        rw [List.head?_nil, Option.any_none, Bool.and_false, Bool.or_false] at start
        rw [start, Bool.true_or]
    | cons d later => exact start
  refine ⟨more.takeWhile isMantissa ++ (exponent (more.dropWhile isMantissa)).1,
    (exponent (more.dropWhile isMantissa)).2, ?_, ?_⟩
  · rw [List.append_assoc, exponent_append, List.takeWhile_append_dropWhile]
  · rw [← List.append_assoc]
    exact .number begins mantissa form stops

/-- An exponent takes digits. A sign it takes only behind its letter. -/
theorem Exponent.exists_grown {tail : List Char} {p : Char → Bool} (form : Exponent tail p)
    (inhabited : tail ≠ []) {more : List Char} (noSign : Stops isSign more) :
    ∃ taken rest q, more = taken ++ rest ∧ Exponent (tail ++ taken) q ∧ Stops q rest := by
  refine ⟨more.takeWhile Text.isDigit, more.dropWhile Text.isDigit, ?_⟩
  have whole : more = more.takeWhile Text.isDigit ++ more.dropWhile Text.isDigit :=
    List.takeWhile_append_dropWhile.symm
  have stops := stops_dropWhile Text.isDigit more
  have digits : ∀ d ∈ more.takeWhile Text.isDigit, Text.isDigit d = true := all_takeWhile
  cases form with
  | none => exact absurd rfl inhabited
  | mark isMark =>
      cases taken : more.takeWhile Text.isDigit with
      | nil =>
          rw [taken, List.nil_append] at whole
          refine ⟨_, whole, .mark isMark, ?_⟩
          rw [← whole] at stops ⊢
          cases more with
          | nil => rfl
          | cons d later =>
              rw [stops_cons] at stops noSign ⊢
              rw [stops, noSign]
              rfl
      | cons d later =>
          rw [taken] at whole digits
          obtain ⟨digit, inside⟩ := List.forall_mem_cons.mp digits
          exact ⟨_, whole, .digits isMark digit inside, stops⟩
  | @digits e d run isMark digit inside =>
      have taken : ∀ d ∈ run ++ more.takeWhile Text.isDigit, Text.isDigit d = true := by
        intro d member
        exact (List.mem_append.mp member).elim (inside d) (digits d)
      exact ⟨_, whole, .digits isMark digit taken, stops⟩
  | @signed e s run isMark isSign inside =>
      have taken : ∀ d ∈ run ++ more.takeWhile Text.isDigit, Text.isDigit d = true := by
        intro d member
        exact (List.mem_append.mp member).elim (inside d) (digits d)
      exact ⟨_, whole, .signed isMark isSign taken, stops⟩

/-- Word characters make a longer lexeme of a lone point only. -/
theorem opens_isWordChar {c d : Char} (inside : Text.isWordChar d = true)
    (goesOn : opens c d = true) : c = '.' ∧ Text.isDigit d = true := by
  unfold opens at goesOn
  split at goesOn
  · obtain rfl := beq_iff_eq.mp goesOn
    exact absurd inside (by decide)
  split at goesOn
  · obtain rfl := beq_iff_eq.mp goesOn
    exact absurd inside (by decide)
  split at goesOn
  · exact ⟨by assumption, goesOn⟩
  · cases goesOn

/-- A number goes on with word characters as a number. -/
theorem exists_grows_number {c : Char} {run tail : List Char} {p : Char → Bool}
    (start : (Text.isDigit c || (c == '.' && run.head?.any Text.isDigit)) = true)
    (mantissa : ∀ d ∈ run, isMantissa d = true) (form : Exponent tail p) {word : List Char}
    (inside : ∀ c ∈ word, Text.isWordChar c = true) :
    ∃ taken rest grown, word = taken ++ rest ∧
      Grows ⟨.number, c :: (run ++ tail)⟩ grown taken rest := by
  by_cases noTail : tail = []
  · subst noTail
    obtain ⟨taken, rest, whole, grown⟩ := exists_number start mantissa word
    refine ⟨taken, rest, _, whole, ?_, grown, .inr (.inl ⟨rfl, rfl⟩)⟩
    rw [List.append_nil]
    rfl
  · have noSign : Stops isSign word := by
      apply stops_of_all _ inside
      intro c isWordChar
      cases sign : isSign c with
      | false => rfl
      | true => rcases isSign_iff.mp sign with rfl | rfl <;> exact absurd isWordChar (by decide)
    obtain ⟨taken, rest, q, whole, grown, stops⟩ := form.exists_grown noTail noSign
    refine ⟨taken, rest, _, whole, ?_, .number start mantissa grown stops,
      .inr (.inl ⟨rfl, rfl⟩)⟩
    simp

/-- A lone character stays alone before word characters, except for a point before a digit, which
starts a number. -/
theorem exists_grows_lone {c : Char} (alone : isLone c = true) {word : List Char}
    (inside : ∀ c ∈ word, Text.isWordChar c = true) :
    ∃ taken rest grown, word = taken ++ rest ∧ Grows ⟨.other, [c]⟩ grown taken rest := by
  cases word with
  | nil => exact ⟨[], [], _, rfl, Reads.grows (.lone alone (stops_nil _))⟩
  | cons d later =>
      cases goesOn : opens c d with
      | false => exact ⟨[], d :: later, _, rfl, Reads.grows (.lone alone goesOn)⟩
      | true =>
          obtain ⟨rfl, digit⟩ := opens_isWordChar (inside d List.mem_cons_self) goesOn
          have mantissa : ∀ e ∈ [d], isMantissa e = true := by
            simp [isMantissa, digit]
          have start :
              (Text.isDigit '.' || ('.' == '.' && [d].head?.any Text.isDigit)) = true := by
            simp [digit]
          obtain ⟨taken, rest, whole, grown⟩ := exists_number start mantissa later
          exact ⟨d :: taken, rest, _, congrArg (d :: ·) whole, rfl, grown, .inr (.inl ⟨rfl, rfl⟩)⟩

/-- A lexeme of the word being typed goes on with word characters as part of the word. -/
theorem Reads.exists_grows_of_inWord (reads : Reads lexeme []) (typed : inWord lexeme = true)
    {word : List Char} (inside : ∀ c ∈ word, Text.isWordChar c = true) :
    ∃ taken rest grown, word = taken ++ rest ∧ Grows lexeme grown taken rest := by
  have without : ∀ d : Char, Text.isWordChar d = false → d ∉ word := by
    intro d outside member
    rw [inside d member] at outside
    cases outside
  cases reads with
  | space | lineComment | blockComment | openComment => cases typed
  | @quotedRun quote kind name _ isQuote _ =>
      -- The run is closed, and what follows is not another quote.
      refine ⟨[], word, _, rfl, Reads.grows (.quotedRun isQuote ?_)⟩
      apply stops_of_all _ inside
      intro c isWordChar
      rw [beq_eq_false_iff_ne]
      rintro rfl
      rcases quoteKind?_eq_some_iff.mp isQuote with ⟨rfl, _⟩ | ⟨rfl, _⟩ <;>
        exact absurd isWordChar (by decide)
  | @openRun quote kind name isQuote =>
      have noQuote : quote ∉ word := by
        apply without
        rcases quoteKind?_eq_some_iff.mp isQuote with ⟨rfl, _⟩ | ⟨rfl, _⟩ <;> decide
      refine ⟨word, [], ⟨kind, quote :: doubled quote (name ++ word)⟩, (List.append_nil word).symm,
        ?_, .openRun isQuote, .inr (.inl ⟨typed, typed⟩)⟩
      rw [doubled_append, doubled_of_not_mem noQuote]
      rfl
  | punctuation mark => exact ⟨[], word, _, rfl, Reads.grows (.punctuation mark)⟩
  | number start mantissa form _ => exact exists_grows_number start mantissa form inside
  | @word c run _ start noDigit letters _ =>
      have all : ∀ d ∈ run ++ word, Text.isWordChar d = true := by
        intro d member
        exact (List.mem_append.mp member).elim (letters d) (inside d)
      -- The longer word may be a keyword where the shorter one is none, or the other way round.
      refine ⟨word, [], _, (List.append_nil word).symm, rfl, .word start noDigit all (stops_nil _),
        .inr (.inl ⟨typed, ?_⟩)⟩
      rcases wordKind_eq (c :: (run ++ word)) with kind | kind <;> simp only [inWord, kind] <;> rfl
  | lone alone _ => exact exists_grows_lone alone inside

/-! ## Lexemes of the characters behind -/

/-- What starts with a word character belongs to the word being typed. -/
theorem Reads.inWord_of_isWordChar {c : Char} {cs : List Char} (reads : Reads lexeme rest)
    (spelled : lexeme.text = c :: cs) (inside : Text.isWordChar c = true) :
    inWord lexeme = true := by
  cases reads with
  | space start =>
      obtain ⟨rfl, _⟩ := List.cons.inj spelled
      rw [isWordChar_of_isSpace start] at inside
      cases inside
  | lineComment | blockComment | openComment =>
      obtain ⟨rfl, _⟩ := List.cons.inj spelled
      exact absurd inside (by decide)
  | punctuation mark =>
      obtain ⟨rfl, _⟩ := List.cons.inj spelled
      rcases punctuation?_eq_some mark with ⟨rfl, _⟩ | ⟨rfl, _⟩ | ⟨rfl, _⟩ | ⟨rfl, _⟩ <;>
        exact absurd inside (by decide)
  | quotedRun isQuote | openRun isQuote =>
      rcases quoteKind?_eq_some_iff.mp isQuote with ⟨_, rfl⟩ | ⟨_, rfl⟩ <;> rfl
  | @word d run _ _ _ _ _ =>
      rcases wordKind_eq (d :: run) with kind | kind <;> simp only [inWord, kind] <;> rfl
  | number | lone => rfl

/-- Every lexeme of a text of one class starts with a character of the class. -/
theorem exists_reads_of_all {p : Char → Bool} {text : List Char} (inside : ∀ c ∈ text, p c = true)
    (member : lexeme ∈ lex text) :
    ∃ c cs rest, lexeme.text = c :: cs ∧ p c = true ∧ Reads lexeme rest := by
  obtain ⟨rest, reads⟩ := (readsAll_lex text).exists_reads member
  obtain ⟨c, cs, spelled, _⟩ := reads.first_eq
  refine ⟨c, cs, rest, spelled, inside c ?_, reads⟩
  rw [← spelling_lex text]
  exact List.mem_flatMap.mpr ⟨lexeme, member, by rw [spelled]; exact List.mem_cons_self⟩

theorem inWord_of_mem_lex {word : List Char} (inside : ∀ c ∈ word, Text.isWordChar c = true) :
    ∀ lexeme ∈ lex word, inWord lexeme = true := by
  intro lexeme member
  obtain ⟨c, cs, rest, spelled, isWordChar, reads⟩ := exists_reads_of_all inside member
  exact reads.inWord_of_isWordChar spelled isWordChar

theorem isTrivia_of_mem_lex {spaces : List Char} (inside : ∀ c ∈ spaces, isSpace c = true) :
    ∀ lexeme ∈ lex spaces, lexeme.isTrivia = true := by
  intro lexeme member
  obtain ⟨c, cs, rest, spelled, space, reads⟩ := exists_reads_of_all inside member
  rw [Lexeme.isTrivia, reads.kind_of_isSpace spelled space]
  rfl

end Lexer

/-! ## The slot -/

namespace Slot

open Lexer

/-- To the slot, the last lexeme is the same before and after it has grown. -/
theorem finished_grown {lexeme grown : Lexeme} {taken rest : List Char}
    (grows : Grows lexeme grown taken rest) (front : List Lexeme) :
    finished (front ++ [grown]) = finished (front ++ [lexeme]) := by
  rcases grows.sort with rfl | ⟨typed, stillTyped⟩ | ⟨trivia, stillTrivia⟩
  · rfl
  · rw [finished_append_word front (by simpa using stillTyped),
      finished_append_word front (by simpa using typed)]
  · have noWord : ∀ last : Lexeme, last.isTrivia = true →
        ∀ other ∈ (front ++ [last]).getLast?, inWord other = false := by
      intro last isTrivia other isLast
      rw [List.getLast?_concat] at isLast
      obtain rfl := Option.some.inj isLast
      exact inWord_of_isTrivia isTrivia
    rw [finished_eq_of_last (noWord grown stillTrivia), finished_eq_of_last (noWord lexeme trivia)]
    simp [trivia, stillTrivia]

/-- A text is empty or has a last lexeme, which stands at its end. -/
theorem eq_nil_or_exists_last (text : List Char) :
    text = [] ∨ ∃ front lexeme, lex text = front ++ [lexeme] ∧ Reads lexeme [] := by
  rcases List.eq_nil_or_concat (lex text) with nothing | ⟨front, lexeme, lexemes⟩
  · exact .inl (lex_eq_nil_iff.mp nothing)
  · rw [List.concat_eq_append] at lexemes
    have all := readsAll_lex text
    rw [lexemes, readsAll_append] at all
    exact .inr ⟨front, lexeme, lexemes, all.2.1⟩

/-- A word in progress does not count. -/
theorem after_append_word (text : List Char) {word : List Char}
    (inside : ∀ c ∈ word, Text.isWordChar c = true) : after (text ++ word) = after text := by
  apply after_congr
  rcases eq_nil_or_exists_last text with rfl | ⟨front, lexeme, lexemes, reads⟩
  · rw [List.nil_append, lex_eq_nil_iff.mpr rfl]
    exact finished_append_word [] (inWord_of_mem_lex inside)
  · obtain ⟨taken, rest, grown, rfl, grows⟩ : ∃ taken rest grown, word = taken ++ rest ∧
        Grows lexeme grown taken rest := by
      cases typed : inWord lexeme with
      | true => exact reads.exists_grows_of_inWord typed inside
      | false =>
          apply reads.exists_grows_of_not_inWord typed
          intro member
          exact absurd (inside _ member) (by decide)
    have behind := inWord_of_mem_lex fun c member => inside c (List.mem_append_right taken member)
    rw [grows.lex_append lexemes, lexemes, List.append_cons, finished_append_word _ behind]
    exact finished_grown grows front

/-- White space does not count either, unless it ends a word. -/
theorem after_append_spaces {text : List Char}
    (noWord : ∀ last ∈ (lex text).getLast?, inWord last = false) {spaces : List Char}
    (inside : ∀ c ∈ spaces, isSpace c = true) : after (text ++ spaces) = after text := by
  apply after_congr
  rcases eq_nil_or_exists_last text with rfl | ⟨front, lexeme, lexemes, reads⟩
  · rw [lex_eq_nil_iff.mpr rfl] at noWord
    rw [List.nil_append, lex_eq_nil_iff.mpr rfl]
    exact finished_append_trivia noWord (isTrivia_of_mem_lex inside)
  · rw [lexemes, List.getLast?_concat] at noWord
    have outside := noWord lexeme rfl
    have noSlash : '/' ∉ spaces := by
      intro member
      exact absurd (inside _ member) (by decide)
    obtain ⟨taken, rest, grown, rfl, grows⟩ := reads.exists_grows_of_not_inWord outside noSlash
    have behind := isTrivia_of_mem_lex fun c member => inside c (List.mem_append_right taken member)
    have stillOutside : ∀ last ∈ (front ++ [grown]).getLast?, inWord last = false := by
      intro last isLast
      rw [List.getLast?_concat] at isLast
      obtain rfl := Option.some.inj isLast
      rcases grows.sort with rfl | ⟨typed, _⟩ | ⟨_, trivia⟩
      · exact outside
      · rw [outside] at typed
        cases typed
      · exact inWord_of_isTrivia trivia
    rw [grows.lex_append lexemes, lexemes, List.append_cons,
      finished_append_trivia stillOutside behind]
    exact finished_grown grows front

end Slot

/-- The token ends a word: it is white space, a comment, a comma or a parenthesis. -/
def Token.EndsWord (token : Token) : Prop :=
  token.isTrivia = true ∨ token.kind = .comma ∨ token.kind = .leftParen ∨ token.kind = .rightParen

instance (token : Token) : Decidable token.EndsWord :=
  inferInstanceAs (Decidable (token.isTrivia = true ∨ _))

theorem Token.EndsWord.inWord {token : Token} (ends : token.EndsWord) :
    Slot.inWord token.toLexeme = false := by
  rcases ends with trivia | comma | left | right
  · exact Slot.inWord_of_isTrivia trivia
  · rw [Slot.inWord, comma]
  · rw [Slot.inWord, left]
  · rw [Slot.inWord, right]

/-- Typing a word never changes what the cursor expects: a text expects the same with any word
characters behind it. A text that is empty or ends in white space, a comment, a comma or a
parenthesis also expects the same with any white space behind it. -/
theorem slot_while_typing (text : List Char) :
    (∀ word : List Char, (∀ c ∈ word, Text.isWordChar c = true) →
      Slot.after (text ++ word) = Slot.after text) ∧
    (text = [] ∨ (∃ last, (tokenize text).getLast? = some last ∧ last.EndsWord) →
      ∀ spaces : List Char, (∀ c ∈ spaces, Lexer.isSpace c = true) →
        Slot.after (text ++ spaces) = Slot.after text) := by
  refine ⟨fun word inside => Slot.after_append_word text inside, ?_⟩
  intro boundary spaces inside
  refine Slot.after_append_spaces ?_ inside
  intro lexeme isLast
  rcases boundary with rfl | ⟨token, lastToken, ends⟩
  · rw [Lexer.lex_eq_nil_iff.mpr rfl] at isLast
    cases isLast
  · have sameLast := congrArg List.getLast? (map_toLexeme_tokenize text)
    rw [List.getLast?_map, lastToken] at sameLast
    obtain rfl := Option.some.inj (sameLast.trans isLast)
    exact ends.inWord

/-- A keyword that turns into a name, a point that turns into a number, an open string that goes on,
and white space with a line end behind a line comment. -/
theorem slot_while_typing_endings :
    (∀ c ∈ "5e2_Ω".toList, Text.isWordChar c = true) ∧
    Slot.after ("SELECT a FROM".toList ++ "5e2_Ω".toList) = Slot.after "SELECT a FROM".toList ∧
    Slot.after ("FROM t.".toList ++ "5e2_Ω".toList) = Slot.after "FROM t.".toList ∧
    Slot.after ("JOIN 'it".toList ++ "5e2_Ω".toList) = Slot.after "JOIN 'it".toList ∧
    (∃ last, (tokenize "FROM --x".toList).getLast? = some last ∧ last.EndsWord) ∧
    (∀ c ∈ " \n ".toList, Lexer.isSpace c = true) ∧
    Slot.after ("FROM --x".toList ++ " \n ".toList) = Slot.after "FROM --x".toList := by
  have word : ∀ c ∈ "5e2_Ω".toList, Text.isWordChar c = true :=
    List.all_eq_true.mp (by decide)
  have spaces : ∀ c ∈ " \n ".toList, Lexer.isSpace c = true := List.all_eq_true.mp (by decide)
  have comment : (tokenize "FROM --x".toList).getLast? =
      some ⟨⟨.lineComment, "--x".toList⟩, 5⟩ := by decide +kernel
  have ends : ∃ last, (tokenize "FROM --x".toList).getLast? = some last ∧ last.EndsWord :=
    ⟨_, comment, .inl rfl⟩
  exact ⟨word, (slot_while_typing _).1 _ word, (slot_while_typing _).1 _ word,
    (slot_while_typing _).1 _ word, ends, spaces, (slot_while_typing _).2 (.inr ends) _ spaces⟩

end SqlAssist
