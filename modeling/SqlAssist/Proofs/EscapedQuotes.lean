import SqlAssist.Proofs.ProtectedRuns
import SqlAssist.Proofs.TakenRuns

/-!
# Escaped quotes in highlighted runs

The pattern of quoted runs takes as many doubled quotes as it can and gives them back where no quote
closes the run. What it matches at a quote depends on the text behind that quote:

* the run is closed: all of it is matched (`quotedPattern_match`, with `closesRun_of_stops`);
* it is never closed, and there are doubled quotes in it: the last of them is given back, and the
  match ends with its first half (`closesRun_of_open`);
* it is never closed, and there are none: nothing is matched (`quotedPattern_refuses_plain`).

`highlightSql_quotedRuns` puts them together (`EscapedRun`): a highlighted quoted run holds quotes
in pairs only, and the next character is another quote exactly if the run that was typed is never
closed.
-/
namespace SqlAssist

/-- The quote around the runs of a style. -/
def Style.quote? : Style → Option Char
  | .string => some '\''
  | .quotedIdentifier => some '"'
  | _ => none

namespace Highlight

open Lexer

/-! ## Where the match has to give back -/

/-- In a text without quotes no pair is repeated and nothing closes the run. -/
theorem runRepeated_plain {quote : Char} {rest : List Char} (plain : quote ∉ rest)
    (bound : List Char) (offset : Nat) (before : Option Char) :
    Pattern.runRepeated (quotePair quote).run (fun site => (Pattern.char quote).run site some) bound
      ⟨offset, before, rest⟩ = none := by
  cases rest with
  | nil =>
      rw [Pattern.runRepeated_stop fun next => by simp [quotePair, Pattern.all, Pattern.run]]
      rfl
  | cons c more =>
      have other : c ≠ quote := by
        rintro rfl
        exact plain List.mem_cons_self
      rw [Pattern.runRepeated_stop fun next => by
        simp [quotePair, Pattern.all, Pattern.run, other]]
      simp [other]

/-- Wherever the longest run of other characters is cut short, no quote is behind it. -/
theorem runMany_plain {quote : Char} {tail : List Char} (plain : quote ∉ tail)
    (bound : Site → List Char) (offset : Nat) (before : Option Char) :
    Pattern.runMany (· != quote)
        (fun middle => Pattern.runRepeated (quotePair quote).run
          (fun site => (Pattern.char quote).run site some) (bound middle) middle)
        tail offset before = none := by
  rw [Option.eq_none_iff_forall_not_mem]
  intro found isFound
  obtain ⟨run, rest, rfl, _, goesOn⟩ := Pattern.runMany_goesOn isFound
  have absent : quote ∉ rest := fun member => plain (List.mem_append_right run member)
  rw [runRepeated_plain absent] at goesOn
  cases goesOn

/-- The pair behind which no quote closes the run is given back, and its first half closes the
run. -/
theorem closesRun_of_open {quote : Char} {tail : List Char} (plain : quote ∉ tail) :
    ClosesRun quote (quote :: tail) := by
  intro bound offset before
  cases bound with
  | nil => simp [Pattern.runRepeated]
  | cons c bound =>
      have stuck := runMany_plain plain (fun _ => bound) (offset + 2) (some quote)
      rw [Pattern.runRepeated, run_quotePair]
      simp only [stuck]
      simp

theorem quotedPattern_refuses_plain {quote : Char} {name : List Char} (plain : quote ∉ name)
    (offset : Nat) (before : Option Char) :
    (quotedPattern quote).endAt? ⟨offset, before, quote :: name⟩ = none := by
  have stuck := runMany_plain plain Site.rest (offset + 1) (some quote)
  simp only [Pattern.endAt?, quotedPattern, Pattern.all]
  rw [Pattern.run, Pattern.run_char_cons, if_pos rfl]
  exact stuck

/-! ## What is matched at a quote -/

/-- A run that is never closed: behind its quote there is a name with its quotes doubled, up to the
end of the text. -/
def NeverCloses (quote : Char) (cs : List Char) : Prop := ∃ name, cs = doubled quote name

/-- A closing quote is one quote more than the pairs of a name. -/
theorem not_neverCloses {quote : Char} {rest : List Char} (stops : Stops (· == quote) rest)
    (name : List Char) : ¬ NeverCloses quote (doubled quote name ++ quote :: rest) := by
  rintro ⟨whole, same⟩
  have closed := quotedRest_closed stops name
  rw [same, quotedRest_open] at closed
  have count := congrArg (List.count quote) (Prod.mk.inj closed).1
  rw [List.count_append, List.count_singleton_self, count_doubled, count_doubled] at count
  omega

/-- A name with a quote, divided at its last one. -/
theorem exists_last_quote {quote : Char} {name : List Char} (member : quote ∈ name) :
    ∃ front tail, name = front ++ quote :: tail ∧ quote ∉ tail := by
  obtain ⟨last, before, reversed, plain⟩ :=
    List.eq_append_cons_of_mem (List.mem_reverse.mpr member)
  refine ⟨before.reverse, last.reverse, ?_, fun found => plain (List.mem_reverse.mp found)⟩
  have turned := congrArg List.reverse reversed
  simpa using turned

/-- What the pattern matches at a quote: a name with its quotes doubled, between two quotes. Another
quote comes next exactly if the run is never closed, and then it is the last one of the text. -/
theorem quotedPattern_forms {quote : Char} {cs : List Char} {offset : Nat} {before : Option Char}
    {stop : Site} (ends : (quotedPattern quote).endAt? ⟨offset, before, quote :: cs⟩ = some stop) :
    ∃ name rest, cs = doubled quote name ++ quote :: rest ∧
      stop = ⟨offset + (doubled quote name).length + 2, some quote, rest⟩ ∧
      (rest.head? = some quote ↔ NeverCloses quote cs) ∧
      (rest.head? = some quote → quote ∉ rest.tail) := by
  have reached : ∀ {name rest}, ClosesRun quote rest → cs = doubled quote name ++ quote :: rest →
      stop = ⟨offset + (doubled quote name).length + 2, some quote, rest⟩ := by
    intro name rest closes whole
    rw [whole, quotedPattern_match closes name offset before] at ends
    rw [← Option.some.inj ends]
    simp only [List.length_cons, List.length_append, List.length_nil, Site.mk.injEq, and_true]
    omega
  rcases quotedRest_forms quote cs with ⟨name, body, stops⟩ | ⟨name, isOpen⟩
  · -- The run is closed by a quote that is not doubled.
    have whole : cs = doubled quote name ++ quote :: (quotedRest quote cs).2 := by
      have parts := quotedRest_append quote cs
      rw [body, List.append_assoc] at parts
      exact parts.symm
    have noQuote : (quotedRest quote cs).2.head? ≠ some quote := stops_beq_iff.mp stops
    refine ⟨name, _, whole, reached (closesRun_of_stops stops) whole, ?_,
      fun next => absurd next noQuote⟩
    refine ⟨fun next => absurd next noQuote, fun never => ?_⟩
    rw [whole] at never
    exact absurd never (not_neverCloses stops name)
  · have whole : cs = doubled quote name := by
      have parts := quotedRest_append quote cs
      rw [isOpen, List.append_nil] at parts
      exact parts.symm
    by_cases escaped : quote ∈ name
    · obtain ⟨front, tail, rfl, plain⟩ := exists_last_quote escaped
      have parts : cs = doubled quote front ++ quote :: quote :: tail := by
        rw [whole, doubled_append, doubled_cons_quote, doubled_of_not_mem plain]
      exact ⟨front, quote :: tail, parts, reached (closesRun_of_open plain) parts,
        iff_of_true rfl ⟨_, whole⟩, fun _ => plain⟩
    · rw [whole, doubled_of_not_mem escaped, quotedPattern_refuses_plain escaped] at ends
      cases ends

end Highlight

/-! ## The quoted runs of a text -/

theorem mem_highlightSql_of_mem_found {text : List Char} {span : StyledSpan}
    (member : span ∈ (Found.all Highlight.protectedRules text).map Highlight.span) :
    span ∈ highlightSql text := by
  rw [← Highlight.filter_isProtected_highlightSql] at member
  exact (List.mem_filter.mp member).1

theorem exists_found {text : List Char} {span : StyledSpan} (member : span ∈ highlightSql text)
    (isProtected : span.style.isProtected = true) :
    ∃ found ∈ Found.all Highlight.protectedRules text, Highlight.span found = span := by
  have kept : span ∈ (highlightSql text).filter (·.style.isProtected) :=
    List.mem_filter.mpr ⟨member, isProtected⟩
  rw [Highlight.filter_isProtected_highlightSql] at kept
  exact List.mem_map.mp kept

/-- The rule of a style with a quote is the pattern of runs between such quotes. -/
theorem eq_quotedPattern {style : Style} {pattern : Pattern} {quote : Char}
    (isRule : (style, pattern) ∈ Highlight.protectedRules) (isQuoted : style.quote? = some quote) :
    pattern = Highlight.quotedPattern quote := by
  simp only [Highlight.protectedRules, List.mem_cons, List.not_mem_nil, or_false,
    Prod.mk.injEq] at isRule
  rcases isRule with ⟨rfl, rfl⟩ | ⟨rfl, rfl⟩ | ⟨rfl, rfl⟩
  · cases isQuoted
  · cases isQuoted
    rfl
  · cases isQuoted
    rfl

theorem isProtected_of_quote? {style : Style} {quote : Char}
    (isQuoted : style.quote? = some quote) : style.isProtected = true := by
  cases style with
  | string | quotedIdentifier => rfl
  | comment | number | keyword | function | jsonKey | jsonString | jsonBoolean | jsonNull |
      jsonNumber =>
      cases isQuoted

/-- A match of the pattern starts with a quote. -/
theorem exists_opened {quote : Char} {site stop : Site}
    (ends : (Highlight.quotedPattern quote).endAt? site = some stop) :
    ∃ cs, site.rest = quote :: cs := by
  obtain ⟨offset, before, rest⟩ := site
  cases rest with
  | nil => simp [Pattern.endAt?, Highlight.quotedPattern, Pattern.all, Pattern.run] at ends
  | cons c cs =>
      by_cases isQuote : c = quote
      · exact ⟨cs, by rw [isQuote]⟩
      · rw [Highlight.quotedPattern_refuses isQuote] at ends
        cases ends

/-- The range of the text is a name between two quotes, with the quotes in it doubled. Another quote
comes next exactly if the run that opens there is never closed; that quote is then the second half
of the last pair, and no quote is behind it. -/
def EscapedRun (quote : Char) (text : List Char) (range : TextRange) : Prop :=
  ∃ front name rest, text = front ++ quote :: (Lexer.doubled quote name ++ quote :: rest) ∧
    range = ⟨front.length, front.length + (Lexer.doubled quote name).length + 2⟩ ∧
    (rest.head? = some quote ↔
      Highlight.NeverCloses quote (Lexer.doubled quote name ++ quote :: rest)) ∧
    (rest.head? = some quote → quote ∉ rest.tail)

/-- In every text, the runs in the style of strings and of quoted names are escaped runs with the
quote of their style. -/
theorem highlightSql_quotedRuns {text : List Char} {span : StyledSpan}
    (member : span ∈ highlightSql text) {quote : Char} (isQuoted : span.style.quote? = some quote) :
    EscapedRun quote text span.range := by
  obtain ⟨found, isFound, rfl⟩ := exists_found member (isProtected_of_quote? isQuoted)
  obtain ⟨forward, pattern, isRule, ends⟩ := Found.exists_endAt? isFound
  obtain rfl := eq_quotedPattern isRule isQuoted
  obtain ⟨cs, opened⟩ := exists_opened ends
  have opened : text.drop found.start = quote :: cs := opened
  rw [Site.within, opened] at ends
  obtain ⟨name, rest, rfl, stop, next, last⟩ := Highlight.quotedPattern_forms ends
  have inside : (text.take found.start).length = found.start := by
    have nonempty := congrArg List.length opened
    rw [List.length_drop, List.length_cons] at nonempty
    rw [List.length_take]
    omega
  refine ⟨text.take found.start, name, rest, ?_, ?_, next, last⟩
  · rw [← opened, List.take_append_drop]
  · rw [inside]
    show TextRange.mk found.start found.stop.offset = _
    rw [stop]
    simp

/-- A closed string with a pair in it, and a quoted name that is never closed. -/
theorem highlightSql_quotedRuns_pairs :
    let text := "'it''s' \"a\"\"b".toList
    ⟨⟨0, 7⟩, .string⟩ ∈ highlightSql text ∧ EscapedRun '\'' text ⟨0, 7⟩ ∧
      ⟨⟨8, 11⟩, .quotedIdentifier⟩ ∈ highlightSql text ∧ EscapedRun '"' text ⟨8, 11⟩ := by
  intro text
  have string : ⟨⟨0, 7⟩, .string⟩ ∈ highlightSql text :=
    mem_highlightSql_of_mem_found (by decide +kernel)
  have name : ⟨⟨8, 11⟩, .quotedIdentifier⟩ ∈ highlightSql text :=
    mem_highlightSql_of_mem_found (by decide +kernel)
  exact ⟨string, highlightSql_quotedRuns string rfl, name, highlightSql_quotedRuns name rfl⟩

/-- A string that is never closed is cut at the first half of its pair: the quote behind the run is
the second half. -/
theorem highlightSql_cut_pair :
    ⟨⟨0, 3⟩, .string⟩ ∈ highlightSql "'a''b".toList ∧ "'a''b".toList.drop 3 = ['\'', 'b'] :=
  ⟨mem_highlightSql_of_mem_found (by decide +kernel), rfl⟩

end SqlAssist
