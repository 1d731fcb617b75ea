import SqlAssist.ColumnList
import SqlAssist.Proofs.Placement

/-!
# The parts of a SELECT

A text has a column list exactly if its lexemes fall into three parts: an opening, which is `SELECT`
or `SELECT DISTINCT` with white space and comments around it; the columns; and a closing that starts
with `FROM` behind white space and comments. `ColumnList.Parts` holds such a division together with
what makes it one, and `columnList?_eq_some_iff` says that the column list is the range of its
middle part.

Depth is counted on lexemes by `ColumnList.depth?`, which fails at the `FROM` that ends the list.
-/
namespace SqlAssist

namespace ColumnList

/-- White space and comments only. -/
def AllTrivia (lexemes : List Lexeme) : Prop := ∀ lexeme ∈ lexemes, lexeme.isTrivia = true

/-- What stands before a column list, with `DISTINCT` or without. -/
inductive Opening : Bool → List Lexeme → Prop where
  | select {lead gap : List Lexeme} {word : Lexeme} :
      AllTrivia lead → word.isKeyword "SELECT" = true → AllTrivia gap →
      Opening false (lead ++ word :: gap)
  | distinct {opening gap : List Lexeme} {word : Lexeme} :
      Opening false opening → word.isKeyword "DISTINCT" = true → AllTrivia gap →
      Opening true (opening ++ word :: gap)

/-- The parenthesis depth behind a lexeme, if it is `depth` before it; nothing at a `FROM` at depth
zero. -/
def step? (depth : Nat) (lexeme : Lexeme) : Option Nat :=
  if lexeme.kind = .leftParen then some (depth + 1)
  else if lexeme.kind = .rightParen then some (depth - 1)
  else if depth = 0 ∧ lexeme.isKeyword "FROM" then none
  else some depth

/-- The parenthesis depth behind lexemes, if it is `depth` before them; nothing if a `FROM` stands
among them at depth zero. -/
def depth? (depth : Nat) : List Lexeme → Option Nat
  | [] => some depth
  | lexeme :: rest => (step? depth lexeme).bind (depth? · rest)

/-- The lexemes start with one that ends the opening before them. -/
def Begins (distinct : Bool) (lexemes : List Lexeme) : Prop :=
  ∃ first, lexemes.head? = some first ∧ first.isTrivia = false ∧
    (distinct = false → first.isKeyword "DISTINCT" = false)

/-- What can stand in a column list, behind `DISTINCT` or not. -/
structure Columns (distinct : Bool) (lexemes : List Lexeme) : Prop where
  begins : Begins distinct lexemes
  ends : ∀ last ∈ lexemes.getLast?, last.isTrivia = false
  level : depth? 0 lexemes = some 0

/-- What stands behind a column list. -/
inductive Closing : List Lexeme → Prop where
  | mk {gap tail : List Lexeme} {word : Lexeme} :
      AllTrivia gap → word.isKeyword "FROM" = true → Closing (gap ++ word :: tail)

/-- A text divided at its column list. -/
structure Parts (text : List Char) where
  distinct : Bool
  opening : List Lexeme
  columns : List Lexeme
  closing : List Lexeme
  lexemes : Lexer.lex text = opening ++ columns ++ closing
  isOpening : Opening distinct opening
  isColumns : Columns distinct columns
  isClosing : Closing closing

/-! ## Trivia and keywords -/

theorem kind_of_isKeyword {lexeme : Lexeme} {word : String}
    (keyword : lexeme.isKeyword word = true) : lexeme.kind = .keyword := by
  rw [Lexeme.isKeyword, Bool.and_eq_true, beq_iff_eq] at keyword
  exact keyword.1

theorem isTrivia_of_isKeyword {lexeme : Lexeme} {word : String}
    (keyword : lexeme.isKeyword word = true) : lexeme.isTrivia = false := by
  rw [Lexeme.isTrivia, kind_of_isKeyword keyword]
  rfl

/-- A lexeme is at most one keyword. -/
theorem keyword_unique {lexeme : Lexeme} {word other : String}
    (keyword : lexeme.isKeyword word = true) (same : lexeme.isKeyword other = true) :
    word = other := by
  simp only [Lexeme.isKeyword, Bool.and_eq_true, beq_iff_eq] at keyword same
  have spelled := keyword.2.symm.trans same.2
  exact String.toList_inj.mp (Option.some.inj spelled)

theorem allTrivia_cons {lexeme : Lexeme} {rest : List Lexeme} :
    AllTrivia (lexeme :: rest) ↔ lexeme.isTrivia = true ∧ AllTrivia rest :=
  List.forall_mem_cons

/-- Lexemes fall into the trivia at their start and the rest. -/
theorem exists_trivia_split (lexemes : List Lexeme) :
    ∃ gap tail, lexemes = gap ++ tail ∧ AllTrivia gap ∧
      ∀ first ∈ tail.head?, first.isTrivia = false := by
  induction lexemes with
  | nil => exact ⟨[], [], rfl, List.forall_mem_nil _, fun _ member => by cases member⟩
  | cons lexeme rest ih =>
      cases trivia : lexeme.isTrivia with
      | true =>
          obtain ⟨gap, tail, whole, allTrivia, solid⟩ := ih
          exact ⟨lexeme :: gap, tail, congrArg (lexeme :: ·) whole,
            allTrivia_cons.mpr ⟨trivia, allTrivia⟩, solid⟩
      | false =>
          refine ⟨[], lexeme :: rest, rfl, List.forall_mem_nil _, ?_⟩
          intro first member
          obtain rfl : lexeme = first := Option.some.inj member
          exact trivia

/-- Lexemes fall into what comes up to the last that is not trivia, and the trivia at their end. -/
theorem exists_trivia_split_end (lexemes : List Lexeme) :
    ∃ front gap, lexemes = front ++ gap ∧ AllTrivia gap ∧
      ∀ last ∈ front.getLast?, last.isTrivia = false := by
  obtain ⟨gap, front, whole, allTrivia, solid⟩ := exists_trivia_split lexemes.reverse
  refine ⟨front.reverse, gap.reverse, ?_, ?_, ?_⟩
  · rw [← List.reverse_append, ← whole, List.reverse_reverse]
  · intro lexeme member
    exact allTrivia lexeme (List.mem_reverse.mp member)
  · rw [List.getLast?_reverse]
    exact solid

/-! ## Depth -/

theorem step?_eq_none_iff {depth : Nat} {lexeme : Lexeme} :
    step? depth lexeme = none ↔ depth = 0 ∧ lexeme.isKeyword "FROM" = true := by
  unfold step?
  split
  · rename_i left
    simp [Lexeme.isKeyword, left]
  split
  · rename_i right
    simp [Lexeme.isKeyword, right]
  split
  · rename_i ends
    simp [ends]
  · rename_i inside
    simpa using inside

/-- Trivia leave the depth as it is. -/
theorem step?_of_isTrivia (depth : Nat) {lexeme : Lexeme} (trivia : lexeme.isTrivia = true) :
    step? depth lexeme = some depth := by
  have noKeyword : ¬ (depth = 0 ∧ lexeme.isKeyword "FROM" = true) := by
    rintro ⟨_, keyword⟩
    rw [isTrivia_of_isKeyword keyword] at trivia
    cases trivia
  have notOf : ∀ kind : TokenKind, kind.isTrivia = false → lexeme.kind ≠ kind := by
    rintro kind solid rfl
    rw [Lexeme.isTrivia, solid] at trivia
    cases trivia
  rw [step?, if_neg (notOf .leftParen rfl), if_neg (notOf .rightParen rfl), if_neg noKeyword]

theorem depth?_append (depth : Nat) (left right : List Lexeme) :
    depth? depth (left ++ right) = (depth? depth left).bind (depth? · right) := by
  induction left generalizing depth with
  | nil => rfl
  | cons lexeme rest ih =>
      rw [List.cons_append, depth?, depth?]
      cases step? depth lexeme with
      | none => rfl
      | some next => exact ih next

theorem depth?_allTrivia (depth : Nat) {gap : List Lexeme} (allTrivia : AllTrivia gap) :
    depth? depth gap = some depth := by
  induction gap with
  | nil => rfl
  | cons lexeme rest ih =>
      obtain ⟨trivia, later⟩ := allTrivia_cons.mp allTrivia
      rw [depth?, step?_of_isTrivia depth trivia, Option.bind_some, ih later]

/-! ## The scan for `FROM` -/

theorem beforeFrom?_cons (depth : Nat) (token : Token) (rest : List Token) :
    beforeFrom? depth (token :: rest) =
      match step? depth token.toLexeme with
      | none => some []
      | some next => (token :: ·) <$> beforeFrom? next rest := by
  rw [beforeFrom?, step?]
  split
  · rfl
  split
  · rfl
  split
  · rfl
  · rfl

/-- What comes before the `FROM` has none itself and leaves the depth at zero. -/
theorem beforeFrom?_place_eq_some_iff {depth start : Nat} {lexemes : List Lexeme}
    {found : List Token} :
    beforeFrom? depth (Token.place start lexemes) = some found ↔
      ∃ inside word tail, lexemes = inside ++ word :: tail ∧ depth? depth inside = some 0 ∧
        word.isKeyword "FROM" = true ∧ found = Token.place start inside := by
  -- The scan and the count of the depth take the same step at every lexeme.
  induction lexemes generalizing depth start found with
  | nil => simp [beforeFrom?]
  | cons lexeme rest ih =>
      rw [Token.place_cons, beforeFrom?_cons]
      cases step : step? depth lexeme with
      | none =>
          obtain ⟨rfl, keyword⟩ := step?_eq_none_iff.mp step
          constructor
          · intro here
            exact ⟨[], lexeme, rest, rfl, rfl, keyword, (Option.some.inj here).symm⟩
          · rintro ⟨inside, word, tail, whole, level, _, rfl⟩
            cases inside with
            | nil => rfl
            | cons other inside =>
                -- The scan has failed at the first of them already.
                obtain ⟨rfl, _⟩ := List.cons.inj whole
                rw [depth?, step] at level
                cases level
      | some next =>
          simp only [Option.map_eq_map, Option.map_eq_some_iff, ih]
          constructor
          · rintro ⟨_, ⟨inside, word, tail, rfl, level, keyword, rfl⟩, rfl⟩
            refine ⟨lexeme :: inside, word, tail, rfl, ?_, keyword, rfl⟩
            rw [depth?, step]
            exact level
          · rintro ⟨inside, word, tail, whole, level, keyword, rfl⟩
            cases inside with
            | nil =>
                -- The scan would have ended here.
                obtain ⟨rfl, _⟩ := List.cons.inj whole
                have none := step?_eq_none_iff.mpr ⟨Option.some.inj level, keyword⟩
                rw [step] at none
                cases none
            | cons other inside =>
                obtain ⟨rfl, rfl⟩ := List.cons.inj whole
                rw [depth?, step] at level
                exact ⟨_, ⟨inside, word, tail, rfl, level, keyword, rfl⟩, rfl⟩

/-! ## The ends of the list -/

theorem skipTrivia_append {left right : List Token} (trivia : ∀ token ∈ left, token.isTrivia = true)
    (solid : ∀ first ∈ right.head?, first.isTrivia = false) :
    skipTrivia (left ++ right) = right := by
  rw [skipTrivia, List.dropWhile_append_of_pos trivia]
  cases right with
  | nil => rfl
  | cons token rest =>
      apply List.dropWhile_cons_of_neg
      rw [solid token rfl]
      exact Bool.false_ne_true

theorem skipTrivia_place (start : Nat) {gap tail : List Lexeme} (allTrivia : AllTrivia gap)
    (solid : ∀ first ∈ tail.head?, first.isTrivia = false) :
    skipTrivia (Token.place start (gap ++ tail)) =
      Token.place (start + (Lexeme.spelling gap).length) tail := by
  rw [Token.place_append]
  apply skipTrivia_append
  · intro token member
    exact allTrivia _ (Token.toLexeme_mem_of_mem_place member)
  · intro token isFirst
    rw [Token.head?_place] at isFirst
    obtain ⟨first, heads, rfl⟩ := Option.map_eq_some_iff.mp isFirst
    exact solid first heads

/-- The trivia at the end do not count. -/
theorem extent?_place (start : Nat) {columns gap : List Lexeme} (inhabited : columns ≠ [])
    (allTrivia : AllTrivia gap) (solid : ∀ last ∈ columns.getLast?, last.isTrivia = false) :
    extent? (Token.place start (columns ++ gap)) =
      some ⟨start, (start + (Lexeme.spelling columns).length : Nat)⟩ := by
  obtain ⟨first, rest, rfl⟩ := List.exists_cons_of_ne_nil inhabited
  obtain ⟨last, isLast⟩ : ∃ last, (first :: rest).getLast? = some last :=
    ⟨_, List.getLast?_eq_some_getLast inhabited⟩
  obtain ⟨token, lastToken, lexeme, stop⟩ := Token.getLast?_place start isLast
  have trimmed : (skipTrivia (Token.place start (first :: rest ++ gap)).reverse).head? =
      some token := by
    rw [Token.place_append, List.reverse_append, skipTrivia_append, List.head?_reverse, lastToken]
    · intro other member
      exact allTrivia _ (Token.toLexeme_mem_of_mem_place (List.mem_reverse.mp member))
    · intro other isHead
      rw [List.head?_reverse, lastToken] at isHead
      obtain rfl := Option.some.inj isHead
      rw [lexeme]
      exact solid last isLast
  rw [extent?, trimmed, ← stop]
  rfl

theorem extent?_place_allTrivia (start : Nat) {gap : List Lexeme} (allTrivia : AllTrivia gap) :
    extent? (Token.place start gap) = none := by
  have trimmed : skipTrivia (Token.place start gap).reverse = [] := by
    rw [← List.append_nil (Token.place start gap).reverse, skipTrivia_append]
    · intro other member
      exact allTrivia _ (Token.toLexeme_mem_of_mem_place (List.mem_reverse.mp member))
    · intro other isHead
      cases isHead
  rw [extent?, trimmed]
  split
  · rename_i none
    cases none
  · rfl

/-- The columns and the closing behind an opening, and the range of the columns. -/
theorem scan_place_eq_some_iff {start : Nat} {tail : List Lexeme} {range : TextRange} :
    (beforeFrom? 0 (Token.place start tail)).bind extent? = some range ↔
      ∃ columns closing, tail = columns ++ closing ∧ columns ≠ [] ∧
        (∀ last ∈ columns.getLast?, last.isTrivia = false) ∧ depth? 0 columns = some 0 ∧
        Closing closing ∧ range = ⟨start, (start + (Lexeme.spelling columns).length : Nat)⟩ := by
  rw [Option.bind_eq_some_iff]
  constructor
  · rintro ⟨found, scanned, extent⟩
    obtain ⟨inside, word, rest, rfl, level, keyword, rfl⟩ :=
      beforeFrom?_place_eq_some_iff.mp scanned
    obtain ⟨columns, gap, rfl, allTrivia, solid⟩ := exists_trivia_split_end inside
    by_cases empty : columns = []
    · rw [empty, List.nil_append, extent?_place_allTrivia start allTrivia] at extent
      cases extent
    · rw [extent?_place start empty allTrivia solid] at extent
      refine ⟨columns, gap ++ word :: rest, List.append_assoc .., empty, solid, ?_,
        .mk allTrivia keyword, (Option.some.inj extent).symm⟩
      rw [depth?_append] at level
      obtain ⟨depth, level, same⟩ := Option.bind_eq_some_iff.mp level
      rw [depth?_allTrivia depth allTrivia] at same
      rw [level, same]
  · rintro ⟨columns, closing, rfl, inhabited, solid, level, isClosing, rfl⟩
    cases isClosing with
    | mk allTrivia keyword =>
        rename_i gap rest word
        refine ⟨Token.place start (columns ++ gap), ?_,
          extent?_place start inhabited allTrivia solid⟩
        refine beforeFrom?_place_eq_some_iff.mpr
          ⟨columns ++ gap, word, rest, (List.append_assoc ..).symm, ?_, keyword, rfl⟩
        rw [depth?_append, level, Option.bind_some, depth?_allTrivia 0 allTrivia]

/-! ## The opening -/

theorem ofTokens?_select (start : Nat) {lead gap tail : List Lexeme} {word : Lexeme}
    (leadTrivia : AllTrivia lead) (select : word.isKeyword "SELECT" = true)
    (gapTrivia : AllTrivia gap) (solid : ∀ first ∈ tail.head?, first.isTrivia = false) :
    ofTokens? (Token.place start (lead ++ word :: gap ++ tail)) =
      (beforeFrom? 0 (skipTrivia (skipKeyword "DISTINCT" (Token.place
        (start + (Lexeme.spelling (lead ++ word :: gap)).length) tail)))).bind extent? := by
  have atSelect : skipTrivia (Token.place start (lead ++ word :: gap ++ tail)) =
      ⟨word, start + (Lexeme.spelling lead).length⟩ :: Token.place
        (start + (Lexeme.spelling lead).length + word.text.length) (gap ++ tail) := by
    rw [List.append_assoc, skipTrivia_place start leadTrivia]
    · rfl
    · intro first isFirst
      obtain rfl : word = first := Option.some.inj isFirst
      exact isTrivia_of_isKeyword select
  have length : start + (Lexeme.spelling (lead ++ word :: gap)).length =
      start + (Lexeme.spelling lead).length + word.text.length +
        (Lexeme.spelling gap).length := by
    simp only [Lexeme.spelling_append, Lexeme.spelling_cons, List.length_append, Nat.add_assoc]
  rw [ofTokens?, atSelect]
  simp only [select, if_true]
  rw [skipTrivia_place _ gapTrivia solid, length]

/-- Behind an opening the scan for `FROM` starts. -/
theorem ofTokens?_opening (start : Nat) {distinct : Bool} {opening tail : List Lexeme}
    (isOpening : Opening distinct opening) (begins : Begins distinct tail) :
    ofTokens? (Token.place start (opening ++ tail)) =
      (beforeFrom? 0 (Token.place (start + (Lexeme.spelling opening).length) tail)).bind
        extent? := by
  obtain ⟨first, isFirst, notTrivia, notDistinct⟩ := begins
  obtain ⟨rest, rfl⟩ : ∃ rest, tail = first :: rest := by
    cases tail with
    | nil => cases isFirst
    | cons head rest => exact ⟨rest, by rw [Option.some.inj isFirst]⟩
  have solid : ∀ other ∈ (first :: rest).head?, other.isTrivia = false := by
    intro other isOther
    obtain rfl : first = other := Option.some.inj isOther
    exact notTrivia
  cases isOpening with
  | select leadTrivia select gapTrivia =>
      rw [ofTokens?_select start leadTrivia select gapTrivia solid, Token.place_cons, skipKeyword,
        if_neg (by simp [notDistinct rfl]), ← Token.place_cons]
      congr 2
      exact skipTrivia_place _ (List.forall_mem_nil _) solid
  | distinct isSelect keyword gapTrivia =>
      rename_i before gap word
      cases isSelect with
      | select leadTrivia select selectTrivia =>
          rw [List.append_assoc, ofTokens?_select start leadTrivia select selectTrivia]
          · rw [List.cons_append, Token.place_cons, skipKeyword, if_pos keyword,
              skipTrivia_place _ gapTrivia solid]
            congr 3
            simp only [Lexeme.spelling_append, Lexeme.spelling_cons, List.length_append,
              Nat.add_assoc]
          · intro other isOther
            obtain rfl : word = other := Option.some.inj isOther
            exact isTrivia_of_isKeyword keyword

/-- Where a column list is found, an opening stands before it. -/
theorem exists_opening {start : Nat} {lexemes : List Lexeme} {range : TextRange}
    (found : ofTokens? (Token.place start lexemes) = some range) :
    ∃ distinct opening tail, lexemes = opening ++ tail ∧ Opening distinct opening ∧
      Begins distinct tail := by
  -- Each cut below follows a step of the search; where it comes to the end, nothing is found.
  obtain ⟨lead, behindLead, rfl, leadTrivia, leadSolid⟩ := exists_trivia_split lexemes
  cases behindLead with
  | nil =>
      rw [ofTokens?, skipTrivia_place start leadTrivia leadSolid] at found
      cases found
  | cons word afterWord =>
      cases select : word.isKeyword "SELECT" with
      | false =>
          rw [ofTokens?, skipTrivia_place start leadTrivia leadSolid, Token.place_cons] at found
          simp only [select, Bool.false_eq_true, if_false] at found
          cases found
      | true =>
          obtain ⟨gap, tail, rfl, gapTrivia, solid⟩ := exists_trivia_split afterWord
          rw [← List.cons_append, ← List.append_assoc] at found ⊢
          have opening := Opening.select leadTrivia select gapTrivia
          cases tail with
          | nil =>
              rw [ofTokens?_select start leadTrivia select gapTrivia solid] at found
              cases found
          | cons first rest =>
              cases keyword : first.isKeyword "DISTINCT" with
              | false =>
                  exact ⟨false, lead ++ word :: gap, first :: rest, rfl, opening,
                    first, rfl, solid first rfl, fun _ => keyword⟩
              | true =>
                  obtain ⟨second, tail, rfl, secondTrivia, secondSolid⟩ := exists_trivia_split rest
                  refine ⟨true, lead ++ word :: gap ++ first :: second, tail, ?_,
                    .distinct opening keyword secondTrivia, ?_⟩
                  · rw [List.append_assoc _ (first :: second), List.cons_append]
                  · cases tail with
                    | nil =>
                        rw [ofTokens?_select start leadTrivia select gapTrivia solid,
                          Token.place_cons, skipKeyword, if_pos keyword,
                          skipTrivia_place _ secondTrivia secondSolid] at found
                        cases found
                    | cons other more =>
                        exact ⟨other, rfl, secondSolid other rfl, fun no => by cases no⟩

/-! ## Texts -/

namespace Parts

variable {text : List Char}

/-- The range of the columns. -/
def range (parts : Parts text) : TextRange :=
  ⟨(Lexeme.spelling parts.opening).length,
    ((Lexeme.spelling parts.opening).length + (Lexeme.spelling parts.columns).length : Nat)⟩

theorem text_eq (parts : Parts text) :
    text = Lexeme.spelling parts.opening ++ Lexeme.spelling parts.columns ++
      Lexeme.spelling parts.closing := by
  rw [← Lexeme.spelling_append, ← Lexeme.spelling_append, ← parts.lexemes, Lexer.spelling_lex]

theorem take_start (parts : Parts text) :
    text.take parts.range.start.toNat = Lexeme.spelling parts.opening := by
  have front := congrArg (List.take (Lexeme.spelling parts.opening).length) parts.text_eq
  rw [List.append_assoc, List.take_left] at front
  rw [range, Int.toNat_natCast]
  exact front

theorem drop_stop (parts : Parts text) :
    text.drop parts.range.stop.toNat = Lexeme.spelling parts.closing := by
  have back := congrArg (List.drop
    (Lexeme.spelling parts.opening ++ Lexeme.spelling parts.columns).length) parts.text_eq
  rw [List.drop_left] at back
  rw [range, Int.toNat_natCast, ← List.length_append]
  exact back

end Parts

end ColumnList

open ColumnList

/-- The column list of a text is the middle of its parts, and a text without such parts has none. -/
theorem columnList?_eq_some_iff {text : List Char} {range : TextRange} :
    columnList? text = some range ↔ ∃ parts : Parts text, range = parts.range := by
  rw [columnList?, tokenize]
  constructor
  · intro found
    obtain ⟨distinct, opening, tail, lexemes, isOpening, begins⟩ := exists_opening found
    rw [lexemes, ofTokens?_opening 0 isOpening begins, Nat.zero_add] at found
    obtain ⟨columns, closing, rfl, inhabited, ends, level, isClosing, rfl⟩ :=
      scan_place_eq_some_iff.mp found
    have sameHead : (columns ++ closing).head? = columns.head? := by
      cases columns with
      | nil => exact absurd rfl inhabited
      | cons first rest => rfl
    rw [Begins, sameHead] at begins
    rw [← List.append_assoc] at lexemes
    exact ⟨⟨distinct, opening, columns, closing, lexemes, isOpening, ⟨begins, ends, level⟩,
      isClosing⟩, rfl⟩
  · rintro ⟨parts, rfl⟩
    obtain ⟨first, isFirst, behaves⟩ := parts.isColumns.begins
    have inhabited : parts.columns ≠ [] := by
      intro empty
      rw [empty] at isFirst
      cases isFirst
    have begins : Begins parts.distinct (parts.columns ++ parts.closing) :=
      ⟨first, by rw [List.head?_append, isFirst]; rfl, behaves⟩
    rw [parts.lexemes, List.append_assoc, ofTokens?_opening 0 parts.isOpening begins, Nat.zero_add]
    exact scan_place_eq_some_iff.mpr ⟨parts.columns, parts.closing, rfl, inhabited,
      parts.isColumns.ends, parts.isColumns.level, parts.isClosing, rfl⟩

end SqlAssist
