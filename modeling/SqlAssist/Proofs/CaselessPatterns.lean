import SqlAssist.Proofs.LetterCase
import SqlAssist.Proofs.Matching

/-!
# Patterns without letter case

A pattern whose classes are all `Caseless` matches a text and its lowered form at the same offsets.
The matcher hands each end to the rest of the match, so this is said of a matcher and two
continuations that agree with each other (`Agrees`): then the matches agree (`run_lowered`). A
search with such patterns finds the same ranges in both texts (`allFrom_lowered`), and all patterns
of the highlighting of SQL are of this kind (`caseless_protectedRules`, `caseless_sqlRules`).

With the lexer and what is built on it, this gives `sameLetters_invariant`: texts that differ in the
case of ASCII letters only are treated alike everywhere.
-/
namespace SqlAssist

/-- The site of the lowered text at the same offset. -/
def Site.lowered (site : Site) : Site :=
  ⟨site.offset, site.before.map Char.toLower, SqlAssist.lowered site.rest⟩

namespace Pattern

/-- No class of the pattern tells the two cases of a letter apart. -/
def IsCaseless : Pattern → Prop
  | .one test | .many test | .few test => Caseless test
  | .seq first second | .either first second => first.IsCaseless ∧ second.IsCaseless
  | .repeated body => body.IsCaseless
  | .empty | .edge | .ending => True

/-- The continuations give the same, each in its own text. -/
def Agrees (next next' : Site → Option Site) : Prop :=
  ∀ site : Site, next' site.lowered = (next site).map Site.lowered

variable {test : Char → Bool} {next next' : Site → Option Site}

theorem runMany_lowered (caseless : Caseless test) (agrees : Agrees next next') (cs : List Char)
    (offset : Nat) (before : Option Char) :
    runMany test next' (lowered cs) offset (before.map Char.toLower) =
      (runMany test next cs offset before).map Site.lowered := by
  induction cs generalizing offset before with
  | nil => exact agrees ⟨offset, before, []⟩
  | cons c rest ih =>
      have here := agrees ⟨offset, before, c :: rest⟩
      have later := ih (offset + 1) (.some c)
      simp only [Option.map_some] at later
      rw [lowered_cons, runMany, runMany, caseless c, later]
      by_cases inside : test c = true
      · rw [if_pos inside, if_pos inside]
        cases runMany test next rest (offset + 1) (.some c) with
        | none => exact here
        | some found => rfl
      · rw [if_neg inside, if_neg inside]
        exact here

theorem runFew_lowered (caseless : Caseless test) (agrees : Agrees next next') (cs : List Char)
    (offset : Nat) (before : Option Char) :
    runFew test next' (lowered cs) offset (before.map Char.toLower) =
      (runFew test next cs offset before).map Site.lowered := by
  induction cs generalizing offset before with
  | nil => exact agrees ⟨offset, before, []⟩
  | cons c rest ih =>
      have here : next' ⟨offset, before.map Char.toLower, c.toLower :: lowered rest⟩ =
          (next ⟨offset, before, c :: rest⟩).map Site.lowered := agrees ⟨offset, before, c :: rest⟩
      have later := ih (offset + 1) (.some c)
      simp only [Option.map_some] at later
      rw [lowered_cons, runFew, runFew, caseless c, later, here]
      cases next ⟨offset, before, c :: rest⟩ with
      | some found => rfl
      | none =>
          by_cases inside : test c = true
          · simp [inside]
          · simp [inside]

theorem runRepeated_lowered {body : Pattern}
    (bodyLowered : ∀ {next next' : Site → Option Site}, Agrees next next' → ∀ site : Site,
      body.run site.lowered next' = (body.run site next).map Site.lowered)
    (agrees : Agrees next next') (bound : List Char) (site : Site) :
    runRepeated (fun site next => body.run site next) next' (lowered bound) site.lowered =
      (runRepeated (fun site next => body.run site next) next bound site).map Site.lowered := by
  induction bound generalizing site with
  | nil => exact agrees site
  | cons c bound ih =>
      rw [lowered_cons, runRepeated, runRepeated, bodyLowered ih site]
      cases body.run site (runRepeated (fun site next => body.run site next) next bound) with
      | some found => rfl
      | none => exact agrees site

theorem atEdge_lowered (site : Site) : atEdge site.lowered = atEdge site := by
  have before : (site.before.map Char.toLower).any Text.isWordChar =
      site.before.any Text.isWordChar := by
    cases site.before with
    | none => rfl
    | some c => exact caseless_isWordChar c
  rw [atEdge, atEdge, Site.lowered, before, caseless_isWordChar.head?_any]

/-- A caseless pattern goes the same way in both texts, if what comes behind it does. -/
theorem run_lowered {pattern : Pattern} (caseless : pattern.IsCaseless) (agrees : Agrees next next')
    (site : Site) : pattern.run site.lowered next' = (pattern.run site next).map Site.lowered := by
  induction pattern generalizing next next' site with
  | empty => exact agrees site
  | one test =>
      obtain ⟨offset, before, rest⟩ := site
      cases rest with
      | nil => rfl
      | cons c rest =>
          have later : next' ⟨offset + 1, .some c.toLower, lowered rest⟩ =
              (next ⟨offset + 1, .some c, rest⟩).map Site.lowered :=
            agrees ⟨offset + 1, .some c, rest⟩
          have same : test c.toLower = test c := caseless c
          simp only [run, Site.lowered, lowered_cons, same, later]
          split
          · rfl
          · rfl
  | many test => exact runMany_lowered caseless agrees site.rest site.offset site.before
  | few test => exact runFew_lowered caseless agrees site.rest site.offset site.before
  | seq first second ihFirst ihSecond =>
      exact ihFirst caseless.1 (fun middle => ihSecond caseless.2 agrees middle) site
  | either first second ihFirst ihSecond =>
      rw [run, run, ihFirst caseless.1 agrees site, ihSecond caseless.2 agrees site]
      cases first.run site next with
      | some found => rfl
      | none => rfl
  | repeated body ih =>
      exact runRepeated_lowered (fun agrees site => ih caseless agrees site) agrees site.rest site
  | edge =>
      rw [run, run, atEdge_lowered, agrees site]
      split
      · rfl
      · rfl
  | ending =>
      have empty : site.lowered.rest.isEmpty = site.rest.isEmpty := by
        obtain ⟨offset, before, rest⟩ := site
        cases rest <;> rfl
      rw [run, run, empty, agrees site]
      split
      · rfl
      · rfl

theorem endAt?_lowered {pattern : Pattern} (caseless : pattern.IsCaseless) (site : Site) :
    pattern.endAt? site.lowered = (pattern.endAt? site).map Site.lowered :=
  run_lowered caseless (fun _ => rfl) site

/-! ## Patterns made of others -/

theorem isCaseless_all {patterns : List Pattern}
    (caseless : ∀ pattern ∈ patterns, pattern.IsCaseless) : (all patterns).IsCaseless := by
  fun_induction all patterns with
  | case1 => trivial
  | case2 pattern => exact caseless pattern List.mem_cons_self
  | case3 pattern more _ ih =>
      obtain ⟨here, later⟩ := List.forall_mem_cons.mp caseless
      exact ⟨here, ih later⟩

theorem isCaseless_any {patterns : List Pattern}
    (caseless : ∀ pattern ∈ patterns, pattern.IsCaseless) : (any patterns).IsCaseless := by
  fun_induction any patterns with
  | case1 => exact fun _ => rfl
  | case2 pattern => exact caseless pattern List.mem_cons_self
  | case3 pattern more _ ih =>
      obtain ⟨here, later⟩ := List.forall_mem_cons.mp caseless
      exact ⟨here, ih later⟩

/-- Whether the classes of the pattern treat the two cases of each letter alike. -/
def ignoresCase : Pattern → Bool
  | .one test | .many test | .few test => capitals.all fun c => test c.toLower == test c
  | .seq first second | .either first second => first.ignoresCase && second.ignoresCase
  | .repeated body => body.ignoresCase
  | .empty | .edge | .ending => true

theorem isCaseless_of_ignoresCase {pattern : Pattern} (ignores : pattern.ignoresCase = true) :
    pattern.IsCaseless := by
  induction pattern with
  | empty | edge | ending => trivial
  | one test | many test | few test => exact caseless_of_capitals ignores
  | seq first second ihFirst ihSecond | either first second ihFirst ihSecond =>
      rw [ignoresCase, Bool.and_eq_true] at ignores
      exact ⟨ihFirst ignores.1, ihSecond ignores.2⟩
  | repeated body ih => exact ih ignores

end Pattern

/-! ## Searches -/

namespace Found

variable {β : Type} {rules : List (β × Pattern)}

/-- The match in the lowered text. -/
def lowered (found : Found β) : Found β := { found with stop := found.stop.lowered }

theorem at?_lowered (caseless : ∀ rule ∈ rules, rule.2.IsCaseless) (site : Site) :
    at? rules site.lowered = (at? rules site).map lowered := by
  induction rules with
  | nil => rfl
  | cons rule rest ih =>
      obtain ⟨here, later⟩ := List.forall_mem_cons.mp caseless
      have tail := ih later
      simp only [at?] at tail ⊢
      rw [List.findSome?_cons, List.findSome?_cons, Pattern.endAt?_lowered here, tail]
      cases rule.2.endAt? site with
      | none => rfl
      | some stop => rfl

theorem allFrom_lowered (caseless : ∀ rule ∈ rules, rule.2.IsCaseless) (offset : Nat)
    (before : Option Char) (skip : Nat) (cs : List Char) :
    allFrom rules offset (before.map Char.toLower) skip (SqlAssist.lowered cs) =
      (allFrom rules offset before skip cs).map lowered := by
  induction cs generalizing offset before skip with
  | nil => simp [allFrom]
  | cons c rest ih =>
      have later := fun skip => ih (offset + 1) (some c) skip
      simp only [Option.map_some] at later
      cases skip with
      | succ skip => rw [lowered_cons, allFrom, allFrom, later]
      | zero =>
          have here : at? rules ⟨offset, before.map Char.toLower,
              c.toLower :: SqlAssist.lowered rest⟩ =
              (at? rules ⟨offset, before, c :: rest⟩).map lowered :=
            at?_lowered caseless ⟨offset, before, c :: rest⟩
          rw [lowered_cons, allFrom, allFrom, here]
          cases at? rules ⟨offset, before, c :: rest⟩ with
          | none => exact later 0
          | some found =>
              show (if offset < found.stop.offset then _ else _) = _
              simp only [later]
              split
              · rfl
              · rfl

theorem all_lowered (caseless : ∀ rule ∈ rules, rule.2.IsCaseless) (text : List Char) :
    all rules (SqlAssist.lowered text) = (all rules text).map lowered :=
  allFrom_lowered caseless 0 none 0 text

end Found

namespace Highlight

/-! ## The highlighting of SQL -/

theorem caseless_protectedRules : ∀ rule ∈ protectedRules, rule.2.IsCaseless := by
  have checked : (protectedRules.all (·.2.ignoresCase)) = true := by decide
  intro rule isRule
  exact Pattern.isCaseless_of_ignoresCase (List.all_eq_true.mp checked rule isRule)

/-- A letter of a vocabulary is spelled by both cases of it, and by neither case of any other. -/
theorem caseless_matchesLetter {letter : Char} (capital : letter ∈ capitals) :
    Caseless (matchesLetter letter) := by
  have checked : (capitals.all fun letter => capitals.all fun c =>
      decide (matchesLetter letter c.toLower = matchesLetter letter c)) = true := by decide +kernel
  exact caseless_of_capitals (List.all_eq_true.mp checked letter capital)

theorem caseless_wordPattern {vocabulary : Vocabulary}
    (capital : ∀ word ∈ vocabulary.words, isCapital word = true) :
    (wordPattern vocabulary).IsCaseless := by
  rw [wordPattern_eq]
  refine ⟨trivial, Pattern.isCaseless_any ?_, trivial⟩
  intro pattern member
  obtain ⟨word, isWord, rfl⟩ := List.mem_map.mp member
  apply Pattern.isCaseless_all
  intro pattern member
  obtain ⟨letter, isLetter, rfl⟩ := List.mem_map.mp member
  exact caseless_matchesLetter (mem_capitals (capital word isWord) letter isLetter)

theorem caseless_sqlRules : ∀ rule ∈ sqlRules, rule.2.IsCaseless := by
  have number : numberPattern.ignoresCase = true := by decide
  obtain ⟨left, right, _⟩ := separateWords_vocabularies
  simp only [sqlRules, List.forall_mem_cons]
  exact ⟨Pattern.isCaseless_of_ignoresCase number, caseless_wordPattern left,
    caseless_wordPattern right, List.forall_mem_nil _⟩

/-- A search gives the same spans for the lowered text. -/
theorem map_all_lowered {rules : List (Style × Pattern)}
    (caseless : ∀ rule ∈ rules, rule.2.IsCaseless) (text : List Char) :
    ((Found.all rules (lowered text)).map fun found => (⟨found.range, found.rule⟩ : StyledSpan)) =
      (Found.all rules text).map fun found => ⟨found.range, found.rule⟩ := by
  rw [Found.all_lowered caseless, List.map_map]
  rfl

theorem unprotected_lowered {rule : Style × Pattern} (caseless : rule.2.IsCaseless)
    (ranges : List TextRange) (text : List Char) :
    unprotected ranges (lowered text) rule = unprotected ranges text rule := by
  rw [unprotected, unprotected, map_all_lowered]
  intro other member
  rw [List.mem_singleton.mp member]
  exact caseless

theorem combined_lowered {rules : List (Style × Pattern)}
    (caseless : ∀ rule ∈ rules, rule.2.IsCaseless) (spans : List StyledSpan) (text : List Char) :
    combined spans rules (lowered text) = combined spans rules text := by
  have found : rules.flatMap (unprotected (spans.map (·.range)) (lowered text)) =
      rules.flatMap (unprotected (spans.map (·.range)) text) := by
    apply List.flatMap_congr
    intro rule isRule
    exact unprotected_lowered (caseless rule isRule) _ text
  rw [combined, combined, found]

end Highlight

theorem highlightSql_lowered (text : List Char) :
    highlightSql (lowered text) = highlightSql text := by
  unfold highlightSql
  rw [Highlight.map_all_lowered Highlight.caseless_protectedRules]
  exact Highlight.combined_lowered Highlight.caseless_sqlRules _ text

/-! ## Texts that differ in the case of letters -/

/-- The same character, or the same ASCII letter in two cases. -/
def SameLetter (c d : Char) : Prop :=
  c = d ∨ (c.isAlpha = true ∧ d.isAlpha = true ∧ c.toLower = d.toLower)

instance : DecidableRel SameLetter := fun c d => inferInstanceAs (Decidable (c = d ∨ _))

/-- The texts have one length and differ in the case of ASCII letters only. -/
def SameLetters (text other : List Char) : Prop := List.Forall₂ SameLetter text other

instance (text other : List Char) : Decidable (SameLetters text other) :=
  inferInstanceAs (Decidable (List.Forall₂ SameLetter text other))

theorem SameLetters.lowered_eq {text other : List Char} (same : SameLetters text other) :
    lowered text = lowered other := by
  induction same with
  | nil => rfl
  | cons here _ ih =>
      rcases here with rfl | ⟨_, _, letter⟩
      · rw [lowered_cons, lowered_cons, ih]
      · rw [lowered_cons, lowered_cons, letter, ih]

/-- What the case of letters leaves of a token: its kind, its range and, for a keyword, its
value. -/
def Token.outline (token : Token) : TokenKind × TextRange × Option (List Char) :=
  (token.kind, token.range, if token.kind = .keyword then token.value? else none)

theorem Token.outline_lowered (token : Token) : token.lowered.outline = token.outline := by
  have range : token.lowered.range = token.range := by simp [Token.range]
  by_cases keyword : token.kind = .keyword
  · simp [outline, range, keyword, lowered_value? keyword]
  · simp [outline, range, keyword]

theorem map_outline_lowered (text : List Char) :
    (tokenize (lowered text)).map Token.outline = (tokenize text).map Token.outline := by
  rw [tokenize_lowered, List.map_map]
  congr 1
  funext token
  exact token.outline_lowered

/-- ASCII case never matters. Texts that differ in the case of ASCII letters only have tokens of the
same kinds at the same places with the same keywords among them, one column list, one slot behind
them and one highlighting; and wherever the cursor is and whatever can be suggested, the same is
suggested for the same range. -/
theorem sameLetters_invariant {text other : List Char} (same : SameLetters text other) :
    (tokenize text).map Token.outline = (tokenize other).map Token.outline ∧
    columnList? text = columnList? other ∧
    Slot.after text = Slot.after other ∧
    highlightSql text = highlightSql other ∧
    ∀ (cursor : Int) (sources : Suggestions.Sources),
      (suggestions text cursor sources).items = (suggestions other cursor sources).items ∧
      (suggestions text cursor sources).range = (suggestions other cursor sources).range := by
  -- Whatever does not change under lowering is the same for both.
  have both : ∀ {β : Type} (f : List Char → β), (∀ text, f (lowered text) = f text) →
      f text = f other := by
    intro β f invariant
    rw [← invariant text, ← invariant other, same.lowered_eq]
  refine ⟨both (fun text => (tokenize text).map Token.outline) map_outline_lowered,
    both columnList? columnList?_lowered, both Slot.after after_lowered,
    both highlightSql highlightSql_lowered, ?_⟩
  intro cursor sources
  constructor
  · apply both fun text => (suggestions text cursor sources).items
    intro text
    simp only [suggestions_lowered]
  · apply both fun text => (suggestions text cursor sources).range
    intro text
    simp only [suggestions_lowered]

/-- Words that mix ASCII letters with others, a number with an exponent, and a function. -/
theorem sameLetters_invariant_mixed :
    let text := "select straße, 1e5 from Été where sum".toList
    let other := "SeLeCT StRAßE, 1E5 FROM ÉTé wHeRe SUM".toList
    SameLetters text other ∧
    (tokenize text).map Token.outline = (tokenize other).map Token.outline ∧
    columnList? text = columnList? other ∧
    Slot.after text = Slot.after other ∧
    highlightSql text = highlightSql other ∧
    ∀ (cursor : Int) (sources : Suggestions.Sources),
      (suggestions text cursor sources).items = (suggestions other cursor sources).items ∧
      (suggestions text cursor sources).range = (suggestions other cursor sources).range := by
  intro text other
  have same : SameLetters text other := by decide
  exact ⟨same, sameLetters_invariant same⟩

end SqlAssist
