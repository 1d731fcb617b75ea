import Mathlib.Data.List.Sort
import SqlAssist.Proofs.Overlaps
import SqlAssist.Proofs.ProtectedRuns
import SqlAssist.Proofs.Spellings

/-!
# Highlighted spans lie apart

A highlighting puts several searches together: the protected runs, and for each rule what it finds
outside of them. `highlight_liesApart` says that the spans do not overlap. A search by itself never
finds overlapping runs, and what is found inside of a protected run is left out, so there are two
things to show:

* **protected runs** — the rules take no character that a protected run starts with or ends with, or
  that stands behind it (`fenced_of_protected`, `sqlRules_free`, `jsonRules_free`), so nothing
  reaches over an end of one;
* **rules** — no two of them find overlapping runs (`sqlRules_apart`, `jsonRules_apart`). Numbers
  and words have no character in common, except for the exponent mark in JSON, and no word is in two
  vocabularies.
-/
namespace SqlAssist

/-- The spans lie within the text, none is empty, and each ends before the later ones start. -/
structure LiesApart (text : List Char) (spans : List StyledSpan) : Prop where
  within : ∀ span ∈ spans, 0 ≤ span.range.start ∧ span.range.start < span.range.stop ∧
    span.range.stop ≤ text.length
  apart : spans.Pairwise (·.range.stop ≤ ·.range.start)

namespace Highlight

/-! ## Putting the passes together -/

/-- The spans do not overlap. -/
def Clear (a b : StyledSpan) : Prop := a.range.stop ≤ b.range.start ∨ b.range.stop ≤ a.range.start

theorem sorted_perm (spans : List StyledSpan) : (sorted spans).Perm spans := List.mergeSort_perm ..

theorem pairwise_sorted (spans : List StyledSpan) :
    (sorted spans).Pairwise (·.range.start ≤ ·.range.start) := by
  rw [sorted_eq]
  apply (List.pairwise_mergeSort precedes_trans precedes_total spans).imp
  intro a b earlier
  rw [precedes_iff] at earlier
  omega

/-- Spans that do not overlap lie apart once they are sorted. -/
theorem liesApart_sorted {text : List Char} {spans : List StyledSpan}
    (within : ∀ span ∈ spans, 0 ≤ span.range.start ∧ span.range.start < span.range.stop ∧
      span.range.stop ≤ text.length)
    (clear : spans.Pairwise Clear) : LiesApart text (sorted spans) := by
  have member : ∀ span ∈ sorted spans, span ∈ spans := fun _ => (sorted_perm spans).mem_iff.mp
  refine ⟨fun span isSorted => within span (member span isSorted), ?_⟩
  have apart : (sorted spans).Pairwise Clear :=
    ((sorted_perm spans).pairwise_iff Or.symm).mpr clear
  refine ((pairwise_sorted spans).and apart).imp_of_mem ?_
  rintro a b _ isSorted ⟨ordered, isClear | behind⟩
  · exact isClear
  · have inhabited := (within b (member b isSorted)).2.1
    omega

/-- Spans in the order of their starts are determined by what they are. -/
theorem eq_of_ordered {spans others : List StyledSpan}
    (ordered : spans.Pairwise (·.range.start < ·.range.start))
    (ordered' : others.Pairwise (·.range.start < ·.range.start))
    (same : ∀ span, span ∈ spans ↔ span ∈ others) : spans = others := by
  have irrefl : Std.Irrefl fun a b : StyledSpan => a.range.start < b.range.start :=
    ⟨fun a => Int.lt_irrefl a.range.start⟩
  have antisymm : Std.Antisymm fun a b : StyledSpan => a.range.start < b.range.start :=
    ⟨fun a _ less more => absurd (Int.lt_trans less more) (Int.lt_irrefl a.range.start)⟩
  exact ordered.eq_of_mem_iff ordered' same

variable {text : List Char}

/-- A match of a search, by the rule it is a match of. -/
theorem exists_occurs {β : Type} {rules : List (β × Pattern)} {found : Found β}
    (member : found ∈ Found.all rules text) :
    ∃ pattern, (found.rule, pattern) ∈ rules ∧
      pattern.Occurs text found.start found.stop.offset := by
  obtain ⟨forward, pattern, isRule, ends⟩ := Found.exists_endAt? member
  exact ⟨pattern, isRule, (Pattern.occurs_of_endAt? ends forward).1⟩

theorem clear_found {β : Type} (rules : List (β × Pattern)) (style : Found β → Style) :
    ((Found.all rules text).map fun found => (⟨found.range, style found⟩ : StyledSpan)).Pairwise
      Clear := by
  rw [List.pairwise_map]
  apply (Found.pairwise_allFrom 0 0 none text).imp
  intro a b earlier
  exact .inl (Int.ofNat_le.mpr earlier.2)

/-- What a rule finds outside of protected ranges. -/
theorem exists_of_mem_unprotected {ranges : List TextRange} {rule : Style × Pattern}
    {span : StyledSpan} (member : span ∈ unprotected ranges text rule) :
    ∃ start stop : Nat, span.range = ⟨start, stop⟩ ∧ rule.2.Occurs text start stop ∧
      ∀ range ∈ ranges, range.contains ⟨start, stop⟩ = false := by
  obtain ⟨isSpan, outside⟩ := List.mem_filter.mp member
  obtain ⟨found, isFound, rfl⟩ := List.mem_map.mp isSpan
  obtain ⟨pattern, isRule, occurs⟩ := exists_occurs isFound
  obtain rfl := List.mem_singleton.mp isRule
  refine ⟨found.start, found.stop.offset, rfl, occurs, fun range isRange => ?_⟩
  rw [Bool.not_eq_true', List.any_eq_false] at outside
  exact Bool.not_eq_true _ ▸ outside range isRange

theorem clear_unprotected (ranges : List TextRange) (rule : Style × Pattern) :
    (unprotected ranges text rule).Pairwise Clear :=
  (clear_found [rule] (·.rule)).filter _

theorem clear_of_apart {ranges : List TextRange} {rule other : Style × Pattern} {a b : StyledSpan}
    (apart : rule.2.Apart other.2) (here : a ∈ unprotected ranges text rule)
    (there : b ∈ unprotected ranges text other) : Clear a b := by
  obtain ⟨start, stop, range, here, _⟩ := exists_of_mem_unprotected here
  obtain ⟨start', stop', range', there, _⟩ := exists_of_mem_unprotected there
  have ordered := apart here there
  simp only [Clear, range, range']
  omega

/-- What a rule finds does not reach over an end of a protected run that is fenced, and inside of it
nothing is kept. -/
theorem clear_of_fenced {ranges : List TextRange} {rule : Style × Pattern} {fence : List Char}
    {start stop : Nat} {a b : StyledSpan} (range : a.range = ⟨start, stop⟩)
    (isProtected : a.range ∈ ranges) (run : Fenced fence text start stop)
    (free : ∀ c ∈ fence, rule.2.allows c = false) (found : b ∈ unprotected ranges text rule) :
    Clear a b := by
  obtain ⟨start', stop', range', occurs, outside⟩ := exists_of_mem_unprotected found
  have notWithin := outside a.range isProtected
  simp only [range, TextRange.contains, Bool.and_eq_false_iff, decide_eq_false_iff_not] at notWithin
  have ordered := run.apart_or_within occurs free
  simp only [Clear, range, range']
  omega

/-- Protected runs that are fenced, and rules that take no character of the fence: what they give
together lies apart if the rules do. -/
theorem liesApart_combined {spans : List StyledSpan} {rules : List (Style × Pattern)}
    (fence : List Char)
    (fenced : ∀ span ∈ spans, ∃ start stop : Nat, span.range = ⟨start, stop⟩ ∧
      stop ≤ text.length ∧ Fenced fence text start stop)
    (clear : spans.Pairwise Clear)
    (free : ∀ rule ∈ rules, ∀ c ∈ fence, rule.2.allows c = false)
    (apart : rules.Pairwise fun rule other => rule.2.Apart other.2) :
    LiesApart text (combined spans rules text) := by
  apply liesApart_sorted
  · intro span member
    rcases List.mem_append.mp member with isProtected | isFound
    · obtain ⟨start, stop, range, bound, run⟩ := fenced span isProtected
      have inhabited := run.inhabited
      simp only [range]
      omega
    · obtain ⟨rule, _, found⟩ := List.mem_flatMap.mp isFound
      obtain ⟨start, stop, range, ⟨inhabited, bound, _⟩, _⟩ := exists_of_mem_unprotected found
      simp only [range]
      omega
  · refine List.pairwise_append.mpr ⟨clear, List.pairwise_flatMap.mpr ⟨?_, ?_⟩, ?_⟩
    · intro rule _
      exact clear_unprotected _ rule
    · apply apart.imp
      intro rule other apart a here b there
      exact clear_of_apart apart here there
    · intro a isProtected b isFound
      obtain ⟨rule, isRule, found⟩ := List.mem_flatMap.mp isFound
      obtain ⟨start, stop, range, _, run⟩ := fenced a isProtected
      exact clear_of_fenced range (List.mem_map_of_mem isProtected) run (free rule isRule) found

/-! ## Protected runs are fenced -/

/-- A run between two equal characters is fenced by them. -/
theorem fenced_of_quoted {quote : Char} {inner rest : Pattern} {fence : List Char}
    {start stop : Nat} (member : quote ∈ fence)
    (occurs : (Pattern.all [.char quote, inner, rest, .char quote]).Occurs text start stop) :
    Fenced fence text start stop := by
  obtain ⟨inhabited, bound, takes⟩ := occurs
  have first := @head?_slice text _ _ inhabited
  have final := getLast?_slice inhabited bound
  obtain ⟨_, more, whole, opening, takes⟩ := takes.of_seq
  obtain ⟨_, more, rfl, _, takes⟩ := takes.of_seq
  obtain ⟨_, _, rfl, _, closing⟩ := takes.of_seq
  rw [whole, opening.of_char] at first final
  rw [Pattern.Takes.of_char closing, ← List.append_assoc, ← List.append_assoc, List.getLast?_concat]
    at final
  exact ⟨inhabited, ⟨quote, member, first.symm⟩, .inl ⟨quote, member, final.symm⟩⟩

/-- The characters that a protected run of SQL starts with, and those that it ends with or
before. -/
def sqlFence : List Char := '\n' :: openers

/-- A comment that opens with two dashes ends before a line break, or with the text. -/
theorem stops_lineComment {site stop : Site} {cs : List Char} (opens : site.rest = '-' :: '-' :: cs)
    (ends : commentPattern.endAt? site = some stop) : Lexer.Stops (· != '\n') stop.rest := by
  obtain ⟨offset, before, rest⟩ := site
  obtain rfl : rest = '-' :: '-' :: cs := opens
  have stops := Lexer.stops_dropWhile (· != '\n') cs
  obtain ⟨before', longest⟩ := lineComment_match Lexer.all_takeWhile stops offset before
  rw [List.cons_append, List.cons_append, List.takeWhile_append_dropWhile, ends] at longest
  rw [Option.some.inj longest]
  exact stops

theorem fenced_of_lineComment {start : Nat} {stop : Site}
    (ends : commentPattern.endAt? (.within text start) = some stop)
    (occurs : (Pattern.all [.char '-', .char '-', .many (· != '\n')]).Occurs text start stop.offset)
    (behind : stop.rest = text.drop stop.offset) : Fenced sqlFence text start stop.offset := by
  obtain ⟨inhabited, bound, takes⟩ := occurs
  have first := @head?_slice text _ _ inhabited
  obtain ⟨_, _, whole, opening, takes⟩ := takes.of_seq
  obtain ⟨_, run, rfl, second, _⟩ := takes.of_seq
  rw [opening.of_char, second.of_char] at whole
  have ahead : text.drop start = '-' :: '-' :: (run ++ text.drop stop.offset) := by
    rw [drop_eq_slice_append (Nat.le_of_lt inhabited), whole]
    rfl
  have stops := stops_lineComment ahead ends
  rw [whole] at first
  refine ⟨inhabited, ⟨'-', by decide, first.symm⟩, .inr ?_⟩
  intro c isNext
  rw [Lexer.Stops, behind, List.head?_drop, isNext] at stops
  obtain rfl : c = '\n' := by simpa using stops
  decide

theorem fenced_of_blockComment {start stop : Nat}
    (occurs : (Pattern.all [.char '/', .char '*', .few (fun _ => true),
      .either (.word ['*', '/']) .ending]).Occurs text start stop) :
    Fenced sqlFence text start stop := by
  obtain ⟨inhabited, bound, takes⟩ := occurs
  have first := @head?_slice text _ _ inhabited
  have final := getLast?_slice inhabited bound
  obtain ⟨_, _, whole, opening, takes⟩ := takes.of_seq
  obtain ⟨_, _, rfl, _, takes⟩ := takes.of_seq
  obtain ⟨_, _, rfl, _, closing⟩ := takes.of_seq
  rw [whole, opening.of_char] at first final
  refine ⟨inhabited, ⟨'/', by decide, first.symm⟩, ?_⟩
  rcases Pattern.Takes.of_either closing with closed | unclosed
  · rw [closed.of_word] at final
    refine .inl ⟨'/', by decide, ?_⟩
    rw [← final]
    simp only [List.getLast?_append]
    rfl
  · refine .inr fun c isNext => ?_
    rw [← List.head?_drop] at isNext
    generalize text.drop stop = rest at unclosed isNext
    cases unclosed
    cases isNext

theorem fenced_of_protected {found : Found Style} (member : found ∈ Found.all protectedRules text) :
    Fenced sqlFence text found.start found.stop.offset := by
  obtain ⟨forward, pattern, isRule, ends⟩ := Found.exists_endAt? member
  obtain ⟨occurs, behind⟩ := Pattern.occurs_of_endAt? ends forward
  simp only [protectedRules, List.mem_cons, List.not_mem_nil, or_false, Prod.mk.injEq] at isRule
  rcases isRule with ⟨_, rfl⟩ | ⟨_, rfl⟩ | ⟨_, rfl⟩
  · obtain ⟨inhabited, bound, takes⟩ := occurs
    rcases takes.of_either with line | block
    · exact fenced_of_lineComment ends ⟨inhabited, bound, line⟩ behind
    · exact fenced_of_blockComment ⟨inhabited, bound, block⟩
  · exact fenced_of_quoted (by decide) occurs
  · exact fenced_of_quoted (by decide) occurs

/-! ## The rules of SQL lie apart -/

theorem refused_by_word {vocabulary : Vocabulary}
    (capital : ∀ word ∈ vocabulary.words, isCapital word = true) {c : Char}
    (foreign : c ∉ letterSpellings) : (wordPattern vocabulary).allows c = false := by
  rw [wordPattern_eq, Pattern.allows_framed, ← Bool.not_eq_true]
  exact fun allowed => foreign (mem_letterSpellings capital allowed)

theorem apart_number_word {vocabulary : Vocabulary}
    (capital : ∀ word ∈ vocabulary.words, isCapital word = true) :
    numberPattern.Apart (wordPattern vocabulary) := by
  have foreign := @Pattern.refuses_of_all numberPattern letterSpellings (by decide +kernel)
  apply Pattern.apart_of_allows
  intro c number
  apply refused_by_word capital
  intro member
  rw [foreign c member] at number
  cases number

theorem apart_keyword_function :
    (wordPattern Vocabulary.keywords).Apart (wordPattern Vocabulary.functions) := by
  have letters : letterSpellings.all Text.isWordChar = true := by decide +kernel
  rw [List.all_eq_true] at letters
  obtain ⟨left, right, _⟩ := separateWords_vocabularies
  apply Pattern.apart_of_framed
  · intro c allowed
    exact letters c (mem_letterSpellings left allowed)
  · intro c allowed
    exact letters c (mem_letterSpellings right allowed)
  · exact not_keyword_and_function

theorem sqlRules_apart : sqlRules.Pairwise fun rule other => rule.2.Apart other.2 := by
  obtain ⟨left, right, _⟩ := separateWords_vocabularies
  simp only [sqlRules, List.pairwise_cons, List.forall_mem_cons]
  exact ⟨⟨apart_number_word left, apart_number_word right, List.forall_mem_nil _⟩,
    ⟨apart_keyword_function, List.forall_mem_nil _⟩, List.forall_mem_nil _, .nil⟩

theorem sqlRules_free : ∀ rule ∈ sqlRules, ∀ c ∈ sqlFence, rule.2.allows c = false := by
  have apart : (sqlFence.all fun c => !letterSpellings.contains c) = true := by decide +kernel
  have foreign : ∀ c ∈ sqlFence, c ∉ letterSpellings := by
    intro c member spelling
    have absent := List.all_eq_true.mp apart c member
    rw [List.contains_iff_mem.mpr spelling] at absent
    cases absent
  obtain ⟨left, right, _⟩ := separateWords_vocabularies
  simp only [sqlRules, List.forall_mem_cons]
  refine ⟨Pattern.refuses_of_all (by decide), ?_, ?_, List.forall_mem_nil _⟩
  · exact fun c member => refused_by_word left (foreign c member)
  · exact fun c member => refused_by_word right (foreign c member)

/-! ## The rules of JSON lie apart -/

/-- The words for the truth values. -/
def jsonBoolean : Pattern := .either (.word "true".toList) (.word "false".toList)

/-- A number of JSON. -/
def jsonNumber : Pattern :=
  .all [.optional (.char '-'), .edge, digits, .optional (.seq (.char '.') digits),
    .optional jsonExponent, .edge]

theorem jsonRules_eq : jsonRules =
    [(.jsonBoolean, .all [.edge, jsonBoolean, .edge]),
      (.jsonNull, .all [.edge, .word "null".toList, .edge]), (.jsonNumber, jsonNumber)] := rfl

/-- The letters of a truth value: no digits, and only one of them in numbers. -/
theorem jsonBoolean_letters (c : Char) (allowed : jsonBoolean.allows c = true) :
    Text.isWordChar c = true ∧ Text.isDigit c = false ∧ (jsonNumber.allows c = true → c = 'e') := by
  have letters : (("true".toList ++ "false".toList).all fun c => Text.isWordChar c &&
      (!Text.isDigit c && (!jsonNumber.allows c || c == 'e'))) = true := by decide
  rw [jsonBoolean, Pattern.allows, Bool.or_eq_true, Pattern.allows_word, Pattern.allows_word,
    ← List.mem_append] at allowed
  have here := List.all_eq_true.mp letters c allowed
  simp only [Bool.and_eq_true, Bool.not_eq_true', Bool.or_eq_true, beq_iff_eq] at here
  refine ⟨here.1, here.2.1, fun number => here.2.2.resolve_left ?_⟩
  rw [number]
  exact Bool.noConfusion

theorem any_getLast?_append {p : Char → Bool} {right : List Char}
    (last : right.getLast?.any p = true) (left : List Char) :
    (left ++ right).getLast?.any p = true := by
  rw [List.getLast?_append]
  cases final : right.getLast? with
  | none => rw [final] at last; cases last
  | some c => rwa [final] at last

theorem any_getLast?_of_digits {before : Option Char} {run rest : List Char}
    (takes : digits.Takes before run rest) : run.getLast?.any Text.isDigit = true := by
  obtain ⟨inhabited, inside⟩ := Pattern.Takes.of_some takes
  rw [List.getLast?_eq_some_getLast inhabited]
  exact inside _ (List.getLast_mem inhabited)

/-- The exponent mark of a number stands behind a digit. -/
theorem digit_before_mark {before : Option Char} {run rest left right : List Char}
    (takes : jsonNumber.Takes before run rest) (mark : run = left ++ 'e' :: right) :
    left.getLast?.any Text.isDigit = true := by
  obtain ⟨sign, _, rfl, isSign, takes⟩ := takes.of_seq
  obtain ⟨_, _, rfl, edge, takes⟩ := takes.of_seq
  obtain ⟨whole, _, rfl, isWhole, takes⟩ := takes.of_seq
  obtain ⟨fraction, _, rfl, isFraction, takes⟩ := takes.of_seq
  obtain ⟨exponent, _, rfl, isExponent, closing⟩ := takes.of_seq
  obtain ⟨rfl, _⟩ := edge.of_edge
  obtain ⟨rfl, _⟩ := Pattern.Takes.of_edge closing
  have ends : (sign ++ (whole ++ fraction)).getLast?.any Text.isDigit = true := by
    apply any_getLast?_append
    rcases isFraction.of_optional with point | rfl
    · obtain ⟨_, _, rfl, _, more⟩ := point.of_seq
      exact any_getLast?_append (any_getLast?_append (any_getLast?_of_digits more) _) _
    · rw [List.append_nil]
      exact any_getLast?_of_digits isWhole
  -- There is no other mark, neither in front nor in the rest of the exponent.
  have front : 'e' ∉ sign ++ (whole ++ fraction) := by
    simp only [List.mem_append, not_or]
    exact ⟨isSign.not_mem (by decide), isWhole.not_mem (by decide), isFraction.not_mem (by decide)⟩
  have tail : 'e' ∉ exponent.tail := by
    rcases isExponent.of_optional with isExponent | rfl
    · obtain ⟨_, more, rfl, first, more⟩ := isExponent.of_seq
      cases first
      exact more.not_mem (by decide)
    · exact List.not_mem_nil
  have parts : (sign ++ (whole ++ fraction)) ++ exponent = left ++ 'e' :: right := by
    rw [← mark]
    simp only [List.append_assoc, List.nil_append, List.append_nil]
  rcases List.append_eq_append_iff.mp parts with ⟨more, rfl, isMark⟩ | ⟨more, isFront, isMark⟩
  · cases more with
    | nil => rwa [List.append_nil]
    | cons c more =>
        rw [isMark] at tail
        simp at tail
  · cases more with
    | nil => rwa [isFront, List.append_nil] at ends
    | cons c more =>
        obtain ⟨rfl, _⟩ := List.cons.inj isMark
        rw [isFront] at front
        simp at front

/-- A truth value and a number share the letter of the exponent mark, and nothing else. Before the
mark there is a digit, which a truth value neither holds nor follows. -/
theorem apart_boolean_number : (Pattern.all [.edge, jsonBoolean, .edge]).Apart jsonNumber := by
  intro text start stop start' stop' boolean number
  obtain ⟨boolean, word⟩ := boolean.of_framed fun c allowed => (jsonBoolean_letters c allowed).1
  apply Pattern.apart_of_not_shared boolean.inhabited number.inhabited
  intro i low high low' high'
  obtain ⟨c, isChar, allowed⟩ := boolean.exists_char low high
  obtain ⟨d, isOther, allowed'⟩ := number.exists_char low' high'
  obtain rfl := Option.some.inj (isChar.symm.trans isOther)
  obtain rfl := (jsonBoolean_letters c allowed).2.2 allowed'
  have digit := digit_before_mark number.takes (slice_eq_append_cons isChar low' high')
  have inhabited : start' < i := by
    by_contra first
    obtain rfl : i = start' := by omega
    rw [List.drop_eq_nil_of_le (List.length_take_le ..)] at digit
    cases digit
  rw [getLast?_slice inhabited (by have := number.inside; omega)] at digit
  obtain ⟨d, isBefore, isDigit⟩ := (Option.any_eq_true ..).mp digit
  by_cases first : start = i
  · have outside := word.before (i - 1) (by omega)
    rw [isBefore] at outside
    simp [Text.isWordChar, Text.isAlphanumeric, isDigit] at outside
  · obtain ⟨letter, isLetter, allowed⟩ :=
      boolean.exists_char (show start ≤ i - 1 by omega) (by omega)
    obtain rfl := Option.some.inj (isBefore.symm.trans isLetter)
    rw [(jsonBoolean_letters d allowed).2.1] at isDigit
    cases isDigit

theorem apart_null_number : (Pattern.all [.edge, .word "null".toList, .edge]).Apart jsonNumber := by
  have foreign := @Pattern.refuses_of_all jsonNumber "null".toList (by decide)
  apply Pattern.apart_of_allows
  intro c allowed
  rw [Pattern.allows_framed, Pattern.allows_word] at allowed
  exact foreign c allowed

theorem apart_boolean_null :
    (Pattern.all [.edge, jsonBoolean, .edge]).Apart (.all [.edge, .word "null".toList, .edge]) := by
  have letters : "null".toList.all Text.isWordChar = true := by decide
  rw [List.all_eq_true] at letters
  apply Pattern.apart_of_framed
  · exact fun c allowed => (jsonBoolean_letters c allowed).1
  · exact fun c allowed => letters c (Pattern.allows_word.mp allowed)
  · intro before run rest boolean null
    have isNull := null.of_word
    rcases boolean.of_either with isTrue | isFalse
    · exact absurd (isTrue.of_word.symm.trans isNull) (by decide)
    · exact absurd (isFalse.of_word.symm.trans isNull) (by decide)

theorem jsonRules_apart : jsonRules.Pairwise fun rule other => rule.2.Apart other.2 := by
  simp only [jsonRules_eq, List.pairwise_cons, List.forall_mem_cons]
  exact ⟨⟨apart_boolean_null, apart_boolean_number, List.forall_mem_nil _⟩,
    ⟨apart_null_number, List.forall_mem_nil _⟩, List.forall_mem_nil _, .nil⟩

theorem jsonRules_free : ∀ rule ∈ jsonRules, ∀ c ∈ ['"'], rule.2.allows c = false := by
  have refused : (jsonRules.all fun rule => ['"'].all (!rule.2.allows ·)) = true := by decide
  intro rule isRule
  exact Pattern.refuses_of_all (List.all_eq_true.mp refused rule isRule)

theorem liesApart_json (text : List Char) : LiesApart text (highlightJson text) := by
  apply liesApart_combined ['"']
  · intro span member
    obtain ⟨found, isFound, rfl⟩ := List.mem_map.mp member
    obtain ⟨_, isRule, occurs⟩ := exists_occurs isFound
    obtain ⟨_, rfl⟩ := Prod.mk.inj (List.mem_singleton.mp isRule)
    exact ⟨_, _, rfl, occurs.inside, fenced_of_quoted List.mem_cons_self occurs⟩
  · exact clear_found _ fun found => jsonStringStyle found.stop.rest
  · exact jsonRules_free
  · exact jsonRules_apart

end Highlight

/-- Highlighted spans never overlap. In SQL as in JSON, whatever the text is, no span is empty or
leaves the text, and each ends before the next one starts. -/
theorem highlight_liesApart (text : List Char) :
    LiesApart text (highlightSql text) ∧ LiesApart text (highlightJson text) := by
  constructor
  · apply Highlight.liesApart_combined Highlight.sqlFence
    · intro span member
      obtain ⟨found, isFound, rfl⟩ := List.mem_map.mp member
      obtain ⟨_, _, occurs⟩ := Highlight.exists_occurs isFound
      exact ⟨_, _, rfl, occurs.inside, Highlight.fenced_of_protected isFound⟩
    · exact Highlight.clear_found _ (·.rule)
    · exact Highlight.sqlRules_free
    · exact Highlight.sqlRules_apart
  · exact Highlight.liesApart_json text

end SqlAssist
