import SqlAssist.Proofs.DisjointSpans
import SqlAssist.Proofs.PreferredRuns

/-!
# Highlighted words are looked up

The patterns for keywords and functions are long lists of alternatives, and many words are the
beginning of others. `highlightSql_words` says that this does not show: a word is highlighted
exactly if it stands in the vocabulary, whole and in any case, and outside of protected runs. The
order of the alternatives does not matter.

* **completeness** — between two edges the matcher cannot stop inside of a word, so it goes on to
  the alternative that takes the word whole (`Pattern.Reaches`);
* **searches** — matches are whole words, and whole words that share a character are one, so no
  match is missed because an earlier one reaches over its start (`Found.exists_mem_of_wholeWord`);
* **vocabularies** — what is found depends on which words there are and not on their order
  (`mem_unprotected_iff`, `unprotected_congr`).
-/
namespace SqlAssist

namespace Pattern

variable {first second inner : Pattern} {before : Option Char} {run more rest : List Char}

/-! ## Runs that a match can reach -/

/-- The matcher tries the end of the run at some time: if the match succeeds from there, the pattern
matches, though perhaps another run. -/
structure Reaches (pattern : Pattern) (before : Option Char) (run rest : List Char) : Prop where
  isSome : ∀ {α : Type} (offset : Nat) (next : Site → Option α),
    (next ⟨offset + run.length, run.getLast?.or before, rest⟩).isSome →
      (pattern.run ⟨offset, before, run ++ rest⟩ next).isSome

theorem Prefers.reaches {pattern : Pattern} (prefers : pattern.Prefers before run rest) :
    pattern.Reaches before run rest := by
  refine ⟨fun offset next goesOn => ?_⟩
  rw [prefers.run_eq offset next goesOn]
  exact goesOn

theorem Reaches.seq (here : first.Reaches before run (more ++ rest))
    (later : second.Reaches (run.getLast?.or before) more rest) :
    (Pattern.seq first second).Reaches before (run ++ more) rest := by
  refine ⟨fun offset next goesOn => ?_⟩
  rw [List.length_append, ← Nat.add_assoc, List.getLast?_append, Option.or_assoc] at goesOn
  rw [List.append_assoc, Pattern.run]
  exact here.isSome offset _ (later.isSome _ next goesOn)

theorem Reaches.left (here : first.Reaches before run rest) :
    (Pattern.either first second).Reaches before run rest := by
  refine ⟨fun offset next goesOn => ?_⟩
  obtain ⟨found, isFound⟩ := Option.isSome_iff_exists.mp (here.isSome offset next goesOn)
  rw [Pattern.run, isFound]
  rfl

theorem Reaches.right (here : second.Reaches before run rest) :
    (Pattern.either first second).Reaches before run rest := by
  refine ⟨fun offset next goesOn => ?_⟩
  rw [Pattern.run]
  split
  · rfl
  · exact here.isSome offset next goesOn

/-- Each of several alternatives is tried. -/
theorem Reaches.any {patterns : List Pattern} {pattern : Pattern} (member : pattern ∈ patterns)
    (here : pattern.Reaches before run rest) : (Pattern.any patterns).Reaches before run rest := by
  fun_induction Pattern.any patterns with
  | case1 => cases member
  | case2 only =>
      rw [List.mem_singleton.mp member] at here
      exact here
  | case3 other more _ ih =>
      rcases List.mem_cons.mp member with rfl | later
      · exact here.left
      · exact (ih later).right

/-- A pattern between two edges, where it reaches a whole word. -/
theorem Reaches.framed (here : inner.Reaches before run rest) (inhabited : run ≠ [])
    (letters : ∀ c ∈ run, Text.isWordChar c = true) (opens : before.any Text.isWordChar = false)
    (closes : Lexer.Stops Text.isWordChar rest) :
    (all [.edge, inner, .edge]).Reaches before run rest := by
  have letter : (run ++ rest).head?.any Text.isWordChar = true := by
    rw [List.head?_append_of_ne_nil _ inhabited, List.head?_eq_some_head inhabited]
    exact letters _ (List.head_mem inhabited)
  have opening : Pattern.edge.Reaches before [] (run ++ rest) :=
    (Prefers.opening opens letter).reaches
  have closing : Pattern.edge.Reaches (run.getLast?.or before) [] rest := by
    apply Prefers.reaches
    apply Prefers.edge
    have last := any_getLast?_or inhabited letters [] before
    rw [List.nil_append] at last
    rw [last, closes]
    exact Bool.noConfusion
  have ending : (Pattern.seq inner .edge).Reaches before (run ++ []) rest := here.seq closing
  rw [List.append_nil] at ending
  exact opening.seq ending

end Pattern

/-! ## Whole words -/

namespace WholeWord

variable {text : List Char} {start stop : Nat}

theorem stop_le (word : WholeWord text start stop) (inhabited : start < stop) :
    stop ≤ text.length := by
  by_contra beyond
  have inside := word.inside (stop - 1) (by omega) (by omega)
  rw [List.getElem?_eq_none (by omega)] at inside
  cases inside

theorem letters (word : WholeWord text start stop) :
    ∀ c ∈ (text.take stop).drop start, Text.isWordChar c = true := by
  intro c member
  obtain ⟨k, isChar⟩ := List.getElem?_of_mem member
  have inside : start + k < stop := by
    have bound := (List.getElem?_eq_some_iff.mp isChar).1
    rw [List.length_drop, List.length_take] at bound
    omega
  rw [getElem?_slice inside] at isChar
  have letter := word.inside (start + k) (by omega) inside
  rwa [isChar] at letter

theorem opens (word : WholeWord text start stop) (bound : start ≤ text.length) :
    (text.take start).getLast?.any Text.isWordChar = false := by
  cases start with
  | zero => rfl
  | succ i =>
      rw [getLast?_take_succ i (by omega)]
      exact word.before i rfl

theorem closes (word : WholeWord text start stop) :
    Lexer.Stops Text.isWordChar (text.drop stop) := by
  rw [Lexer.Stops, List.head?_drop]
  exact word.behind

end WholeWord

/-! ## Searches for whole words -/

namespace Found

variable {β : Type} {rule : β} {inner : Pattern} {text : List Char}

/-- A pattern of word characters between two edges takes whole words only. -/
theorem wholeWord_of_mem (letters : ∀ c, inner.allows c = true → Text.isWordChar c = true)
    {found : Found β} (member : found ∈ all [(rule, .all [.edge, inner, .edge])] text) :
    inner.Occurs text found.start found.stop.offset ∧
      WholeWord text found.start found.stop.offset := by
  obtain ⟨pattern, isRule, occurs⟩ := Highlight.exists_occurs member
  obtain ⟨_, rfl⟩ := Prod.mk.inj (List.mem_singleton.mp isRule)
  exact occurs.of_framed letters

/-- A whole word that the pattern reaches is found. -/
theorem exists_mem_of_wholeWord (rule : β)
    (letters : ∀ c, inner.allows c = true → Text.isWordChar c = true)
    (solid : ∀ before rest, ¬ inner.Takes before [] rest) {start stop : Nat}
    (inhabited : start < stop) (word : WholeWord text start stop)
    (reaches : inner.Reaches (text.take start).getLast? ((text.take stop).drop start)
      (text.drop stop)) :
    ∃ found ∈ all [(rule, .all [.edge, inner, .edge])] text,
      found.start = start ∧ found.stop.offset = stop := by
  have bound := word.stop_le inhabited
  have nonempty : (text.take stop).drop start ≠ [] := by
    rw [← List.length_pos_iff, List.length_drop, List.length_take]
    omega
  have framed := reaches.framed nonempty word.letters (word.opens (by omega)) word.closes
  obtain ⟨site, ends⟩ := Option.isSome_iff_exists.mp (framed.isSome start some rfl)
  rw [← drop_eq_slice_append (Nat.le_of_lt inhabited)] at ends
  -- The match is a whole word from the same place, so it is this one.
  have forward : start < site.offset := by
    obtain ⟨run, rest, _, takes, reached⟩ := Pattern.run_goesOn ends
    have offset : start + run.length = site.offset := congrArg Site.offset (Option.some.inj reached)
    have taken : run ≠ [] := by
      rintro rfl
      exact solid _ _ takes.of_framed.1
    have positive := List.length_pos_iff.mpr taken
    omega
  obtain ⟨occurs, _⟩ := Pattern.occurs_of_endAt? ends forward
  obtain ⟨_, isWord⟩ := occurs.of_framed letters
  obtain ⟨_, same⟩ := isWord.eq word (Nat.le_refl start) forward (Nat.le_refl start) inhabited
  have isFound : at? [(rule, Pattern.all [.edge, inner, .edge])] (.within text start) =
      some ⟨rule, start, site⟩ := by
    have here : (Pattern.all [.edge, inner, .edge]).endAt? (.within text start) = some site := ends
    simp only [at?, List.findSome?_cons, here, Option.map_some]
    rfl
  refine ⟨⟨rule, start, site⟩, mem_all isFound forward ?_, rfl, same⟩
  intro earlier member starts
  obtain ⟨_, isEarlier⟩ := wholeWord_of_mem letters member
  by_contra reachesOver
  have sameStart := (isEarlier.eq word (Nat.le_of_lt starts) (by omega) (Nat.le_refl start)
    inhabited).1
  omega

end Found

namespace Highlight

/-! ## Words of a vocabulary -/

/-- Words of capitals, none of them empty. -/
structure Spellable (words : List String) : Prop where
  capital : ∀ word ∈ words, isCapital word = true
  inhabited : ∀ word ∈ words, word ≠ ""

theorem Spellable.congr {words others : List String} (spellable : Spellable words)
    (same : ∀ word, word ∈ others ↔ word ∈ words) : Spellable others where
  capital := fun word member => spellable.capital word ((same word).mp member)
  inhabited := fun word member => spellable.inhabited word ((same word).mp member)

theorem spellable_of_listing {vocabulary : Vocabulary} (listing : vocabulary.Listing)
    (inhabited : listing.words.all (· != "") = true) : Spellable vocabulary.words := by
  refine ⟨listing.isCapital_of_mem, ?_⟩
  intro word member
  exact bne_iff_ne.mp (List.all_eq_true.mp inhabited word (listing.mem_iff.mp member))

theorem spellable_keywords : Spellable Vocabulary.keywords.words :=
  spellable_of_listing .keywords (by decide +kernel)

theorem spellable_functions : Spellable Vocabulary.functions.words :=
  spellable_of_listing .functions (by decide +kernel)

theorem isWordChar_of_mem_letterSpellings :
    ∀ c ∈ letterSpellings, Text.isWordChar c = true := by
  have letters : letterSpellings.all Text.isWordChar = true := by decide +kernel
  exact List.all_eq_true.mp letters

section

variable {words others : List String} {text : List Char} {ranges : List TextRange} {style : Style}

theorem Spellable.letters (spellable : Spellable words) :
    ∀ c, (spelledWord ⟨words⟩).allows c = true → Text.isWordChar c = true := by
  intro c allowed
  exact isWordChar_of_mem_letterSpellings c (mem_letterSpellings spellable.capital allowed)

theorem Spellable.solid (spellable : Spellable words) (before : Option Char) (rest : List Char) :
    ¬ (spelledWord ⟨words⟩).Takes before [] rest := by
  intro takes
  obtain ⟨word, member, spells⟩ := exists_spells takes
  have empty : word.toList = [] := List.forall₂_nil_right_iff.mp spells
  exact spellable.inhabited word member (String.toList_eq_nil_iff.mp empty)

/-- A run that spells a word is among what the alternatives reach. -/
theorem reaches_of_spells {word : String} {run : List Char} (member : word ∈ words)
    (spells : Spells word.toList run) (before : Option Char) (rest : List Char) :
    (spelledWord ⟨words⟩).Reaches before run rest := by
  have here : (Pattern.all (word.toList.map fun letter => .one (matchesLetter letter))).Reaches
      before run rest := (Pattern.Prefers.ones spells).reaches
  exact here.any (List.mem_map.mpr ⟨word, member, rfl⟩)

/-- The range is a whole word of the text, lies in none of the given ranges, and spells one of the
given words. -/
structure IsLookedUp (words : List String) (ranges : List TextRange) (text : List Char)
    (range : TextRange) : Prop where
  isWord : ∃ start stop : Nat, range = ⟨start, stop⟩ ∧ start < stop ∧ WholeWord text start stop
  outside : ∀ other ∈ ranges, other.contains range = false
  spelled : ∃ word ∈ words, Spells word.toList (range.slice text)

/-- What the search for words finds outside of the given ranges. -/
theorem mem_unprotected_iff (spellable : Spellable words) (range : TextRange) :
    ⟨range, style⟩ ∈ unprotected ranges text (style, wordPattern ⟨words⟩) ↔
      IsLookedUp words ranges text range := by
  constructor
  · intro member
    obtain ⟨start, stop, rfl, occurs, outside⟩ := exists_of_mem_unprotected member
    obtain ⟨here, word⟩ := occurs.of_framed spellable.letters
    refine ⟨⟨start, stop, rfl, here.inhabited, word⟩, outside, ?_⟩
    rw [TextRange.slice_natCast]
    exact exists_spells here.takes
  · rintro ⟨⟨start, stop, rfl, inhabited, word⟩, outside, ⟨spelling, member, spells⟩⟩
    rw [TextRange.slice_natCast] at spells
    obtain ⟨found, isFound, rfl, rfl⟩ := Found.exists_mem_of_wholeWord style spellable.letters
      spellable.solid inhabited word (reaches_of_spells member spells _ _)
    have rule : found.rule = style := by
      have isRule := (Found.of_mem_allFrom isFound).2
      exact List.mem_singleton.mp isRule
    refine List.mem_filter.mpr ⟨List.mem_map.mpr ⟨found, isFound, ?_⟩, ?_⟩
    · rw [rule]
      rfl
    · rw [Bool.not_eq_true', List.any_eq_false]
      intro other isRange
      rw [outside other isRange]
      exact Bool.false_ne_true

theorem style_of_mem_unprotected {rule : Style × Pattern} {span : StyledSpan}
    (member : span ∈ unprotected ranges text rule) : span.style = rule.1 := by
  obtain ⟨found, isFound, rfl⟩ := List.mem_map.mp (List.mem_filter.mp member).1
  exact List.mem_singleton.mp (Found.of_mem_allFrom isFound).2

theorem ordered_unprotected (ranges : List TextRange) (text : List Char) (rule : Style × Pattern) :
    (unprotected ranges text rule).Pairwise (·.range.start < ·.range.start) :=
  (ordered_found [rule] text).filter _

/-- The order of the alternatives does not matter, nor that one is there twice. -/
theorem unprotected_congr (spellable : Spellable words)
    (same : ∀ word, word ∈ others ↔ word ∈ words) :
    unprotected ranges text (style, wordPattern ⟨others⟩) =
      unprotected ranges text (style, wordPattern ⟨words⟩) := by
  apply eq_of_ordered (ordered_unprotected ..) (ordered_unprotected ..)
  rintro ⟨range, other⟩
  by_cases isStyle : other = style
  · subst isStyle
    rw [mem_unprotected_iff spellable, mem_unprotected_iff (spellable.congr same)]
    have alike : (∃ word ∈ others, Spells word.toList (range.slice text)) ↔
        ∃ word ∈ words, Spells word.toList (range.slice text) := by
      simp only [same]
    exact ⟨fun found => ⟨found.isWord, found.outside, alike.mp found.spelled⟩,
      fun found => ⟨found.isWord, found.outside, alike.mpr found.spelled⟩⟩
  · constructor
    · intro member
      exact absurd (style_of_mem_unprotected member) isStyle
    · intro member
      exact absurd (style_of_mem_unprotected member) isStyle

end

/-! ## The passes of the highlighting -/

/-- Of what several rules find, the spans of one style are what the rule of that style finds. -/
theorem filter_style_flatMap {rules : List (Style × Pattern)} (distinct : (rules.map (·.1)).Nodup)
    {rule : Style × Pattern} (member : rule ∈ rules) (ranges : List TextRange) (text : List Char) :
    (rules.flatMap (unprotected ranges text)).filter (·.style = rule.1) =
      unprotected ranges text rule := by
  have own : (unprotected ranges text rule).filter (·.style = rule.1) =
      unprotected ranges text rule := by
    rw [List.filter_eq_self]
    intro span isFound
    exact decide_eq_true (style_of_mem_unprotected isFound)
  have foreign : ∀ rules : List (Style × Pattern), rule.1 ∉ rules.map (·.1) →
      (rules.flatMap (unprotected ranges text)).filter (·.style = rule.1) = [] := by
    intro rules absent
    rw [List.filter_eq_nil_iff]
    intro span isFound
    obtain ⟨other, isRule, isFound⟩ := List.mem_flatMap.mp isFound
    rw [decide_eq_true_eq, style_of_mem_unprotected isFound]
    intro same
    exact absent (List.mem_map.mpr ⟨other, isRule, same⟩)
  obtain ⟨before, behind, rfl⟩ := List.append_of_mem member
  rw [List.map_append, List.map_cons, List.nodup_append, List.nodup_cons] at distinct
  obtain ⟨_, ⟨notBehind, _⟩, apart⟩ := distinct
  have notBefore : rule.1 ∉ before.map (·.1) := fun isBefore =>
    apart _ isBefore _ List.mem_cons_self rfl
  rw [List.flatMap_append, List.flatMap_cons, List.filter_append, List.filter_append, own,
    foreign before notBefore, foreign behind notBehind, List.nil_append, List.append_nil]

/-- The rules for SQL with the given words as alternatives, in the given order. -/
def rulesWith (keywords functions : List String) : List (Style × Pattern) :=
  [(.number, numberPattern), (.keyword, wordPattern ⟨keywords⟩),
    (.function, wordPattern ⟨functions⟩)]

/-- The highlighted runs of a text with other alternatives for words. -/
def highlightSqlWith (keywords functions : List String) (text : List Char) : List StyledSpan :=
  combined ((Found.all protectedRules text).map span) (rulesWith keywords functions) text

theorem highlightSqlWith_vocabularies (text : List Char) :
    highlightSqlWith Vocabulary.keywords.words Vocabulary.functions.words text =
      highlightSql text :=
  rfl

theorem highlightSqlWith_congr {keywords functions : List String}
    (sameKeywords : ∀ word, word ∈ keywords ↔ word ∈ Vocabulary.keywords.words)
    (sameFunctions : ∀ word, word ∈ functions ↔ word ∈ Vocabulary.functions.words)
    (text : List Char) : highlightSqlWith keywords functions text = highlightSql text := by
  rw [← highlightSqlWith_vocabularies, highlightSqlWith, highlightSqlWith, combined, combined]
  simp only [rulesWith, List.flatMap_cons, unprotected_congr spellable_keywords sameKeywords,
    unprotected_congr spellable_functions sameFunctions]

/-- The spans of a text in the style of a rule are what the rule finds outside of protected runs. -/
theorem filter_style_highlightSql {rule : Style × Pattern} (member : rule ∈ sqlRules)
    (text : List Char) :
    (highlightSql text).filter (·.style = rule.1) = unprotected
      (((highlightSql text).filter (·.style.isProtected)).map (·.range)) text rule := by
  rw [filter_isProtected_highlightSql]
  have distinct : (sqlRules.map (·.1)).Nodup := by decide
  have notProtected : rule.1.isProtected = false := by
    simp only [sqlRules, List.mem_cons, List.not_mem_nil, or_false] at member
    rcases member with rfl | rfl | rfl <;> rfl
  have outside : ((Found.all protectedRules text).map span).filter (·.style = rule.1) = [] := by
    rw [← filter_isProtected_highlightSql, List.filter_filter, List.filter_eq_nil_iff]
    intro styled _
    rw [Bool.and_eq_true, decide_eq_true_eq]
    rintro ⟨isStyle, isProtected⟩
    rw [isStyle, notProtected] at isProtected
    cases isProtected
  have parts : ∀ ranges : List TextRange, ((Found.all protectedRules text).map span ++
      sqlRules.flatMap (unprotected ranges text)).filter (·.style = rule.1) =
        unprotected ranges text rule := by
    intro ranges
    rw [List.filter_append, outside, List.nil_append, filter_style_flatMap distinct member]
  have whole : highlightSql text = sorted ((Found.all protectedRules text).map span ++
      sqlRules.flatMap
        (unprotected (((Found.all protectedRules text).map span).map (·.range)) text)) := rfl
  rw [whole, filter_sorted (by rw [parts]; exact ordered_unprotected ..), parts]

end Highlight

open Highlight in
/-- Keywords and functions are highlighted by looking up whole words. A range of the text is a span
in the style of a vocabulary exactly if it is a whole word, lies in no comment and no quoted run,
and spells a word of the vocabulary letter by letter in any case. These spans stand in the order of
the text, each once. The order of the words in the patterns has no effect on the highlighting. -/
theorem highlightSql_words (text : List Char) :
    (∀ style vocabulary,
      (style, vocabulary) ∈ [(Style.keyword, Vocabulary.keywords), (.function, .functions)] →
      (∀ range, ⟨range, style⟩ ∈ highlightSql text ↔
        (∃ start stop : Nat, range = ⟨start, stop⟩ ∧ start < stop ∧ WholeWord text start stop) ∧
        (∀ span ∈ highlightSql text, span.style.isProtected = true →
          span.range.contains range = false) ∧
        ∃ word ∈ vocabulary.words, Spells word.toList (range.slice text)) ∧
      ((highlightSql text).filter (·.style = style)).Pairwise (·.range.start < ·.range.start)) ∧
    ∀ keywords functions : List String,
      (∀ word, word ∈ keywords ↔ word ∈ Vocabulary.keywords.words) →
      (∀ word, word ∈ functions ↔ word ∈ Vocabulary.functions.words) →
      highlightSqlWith keywords functions text = highlightSql text := by
  refine ⟨?_, fun keywords functions sameKeywords sameFunctions =>
    highlightSqlWith_congr sameKeywords sameFunctions text⟩
  intro style vocabulary member
  have rule : (style, wordPattern vocabulary) ∈ sqlRules ∧ Spellable vocabulary.words := by
    simp only [List.mem_cons, List.not_mem_nil, or_false, Prod.mk.injEq] at member
    rcases member with ⟨rfl, rfl⟩ | ⟨rfl, rfl⟩
    · exact ⟨by simp [sqlRules], spellable_keywords⟩
    · exact ⟨by simp [sqlRules], spellable_functions⟩
  obtain ⟨isRule, spellable⟩ := rule
  have found := filter_style_highlightSql isRule text
  constructor
  · intro range
    have inStyle : ⟨range, style⟩ ∈ highlightSql text ↔
        ⟨range, style⟩ ∈ (highlightSql text).filter (·.style = style) := by
      simp
    rw [inStyle, found, mem_unprotected_iff spellable]
    have outside : (∀ other ∈ ((highlightSql text).filter (·.style.isProtected)).map (·.range),
        other.contains range = false) ↔ ∀ span ∈ highlightSql text,
          span.style.isProtected = true → span.range.contains range = false := by
      simp only [List.forall_mem_map, List.mem_filter, and_imp]
    rw [← outside]
    constructor
    · intro found
      exact ⟨found.isWord, found.outside, found.spelled⟩
    · rintro ⟨isWord, outside, spelled⟩
      exact ⟨isWord, outside, spelled⟩
  · rw [found]
    exact ordered_unprotected ..

open Highlight in
/-- A keyword that begins like a shorter one, the shorter one inside of quotes, and vocabularies in
reverse order. -/
theorem highlightSql_words_reversed :
    "ASC" ∈ Vocabulary.keywords.words ∧ WholeWord "aſc 'as'".toList 0 3 ∧
    ⟨⟨0, 3⟩, .keyword⟩ ∈ highlightSql "aſc 'as'".toList ∧
    ⟨⟨0, 2⟩, .keyword⟩ ∉ highlightSql "aſc 'as'".toList ∧
    highlightSqlWith Vocabulary.keywords.words.reverse Vocabulary.functions.words.reverse
      "aſc 'as'".toList = highlightSql "aſc 'as'".toList := by
  have lookup := highlightSql_words "aſc 'as'".toList
  have keyword := (lookup.1 .keyword .keywords List.mem_cons_self).1
  have member : "ASC" ∈ Vocabulary.keywords.words :=
    Vocabulary.Listing.keywords.mem_iff.mpr (by decide +kernel)
  have word : WholeWord "aſc 'as'".toList 0 3 := by
    refine ⟨?_, fun i first => by omega, by decide +kernel⟩
    intro i _ inside
    have letters : ∀ i < 3, "aſc 'as'".toList[i]?.any Text.isWordChar = true := by decide +kernel
    exact letters i inside
  have outside : ∀ span ∈ highlightSql "aſc 'as'".toList, span.style.isProtected = true →
      span.range.contains ⟨0, 3⟩ = false := by
    intro span isSpan isProtected
    have found : span ∈ (highlightSql "aſc 'as'".toList).filter (·.style.isProtected) :=
      List.mem_filter.mpr ⟨isSpan, isProtected⟩
    rw [filter_isProtected_highlightSql] at found
    have quoted : (Found.all protectedRules "aſc 'as'".toList).map Highlight.span =
        [⟨⟨4, 8⟩, .string⟩] := by decide +kernel
    rw [quoted] at found
    rw [List.mem_singleton.mp found]
    rfl
  have spells : Spells "ASC".toList "aſc".toList := by
    unfold Spells
    decide
  refine ⟨member, word, (keyword ⟨0, 3⟩).mpr ⟨⟨0, 3, rfl, by decide, word⟩, outside, "ASC", member,
    spells⟩, ?_, lookup.2 _ _ (fun _ => List.mem_reverse) fun _ => List.mem_reverse⟩
  intro short
  obtain ⟨⟨start, stop, range, _, isWord⟩, _⟩ := (keyword ⟨0, 2⟩).mp short
  obtain ⟨starts, stops⟩ := TextRange.mk.inj range
  obtain rfl : stop = 2 := by omega
  exact absurd isWord.behind (by decide +kernel)

end SqlAssist
