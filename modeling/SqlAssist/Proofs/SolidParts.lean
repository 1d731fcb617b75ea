import Mathlib.Data.List.Forall2
import SqlAssist.Proofs.SelectParts

/-!
# What a column list depends on

The search for a column list passes over white space and comments, so where the list is can be said
on the solid lexemes alone. `ColumnList.Divides` says it: `SELECT`, `DISTINCT` or not, the columns,
and then `FROM`, with nothing between them. A text has `ColumnList.Parts` exactly if its solid
lexemes are divided in this way (`Parts.divides`, `Divides.exists_parts`), and the parts of the text
hold the parts of the division.

Of the other lexemes the search sees the kind, and which keyword it is. Texts whose lexemes are
`Lexeme.Alike` one by one have their parts at the same places (`Parts.exists_alike`).
-/
namespace SqlAssist

/-- The lexemes that are neither white space nor comments. -/
def Lexeme.solid (lexemes : List Lexeme) : List Lexeme := lexemes.filter (!·.isTrivia)

namespace Lexeme

@[simp] theorem solid_nil : solid [] = [] := rfl

@[simp] theorem solid_append (left right : List Lexeme) :
    solid (left ++ right) = solid left ++ solid right :=
  List.filter_append ..

theorem solid_cons_of_isTrivia {lexeme : Lexeme} (trivia : lexeme.isTrivia = true)
    (rest : List Lexeme) : solid (lexeme :: rest) = solid rest := by
  simp [solid, trivia]

theorem solid_cons_of_not_isTrivia {lexeme : Lexeme} (counts : lexeme.isTrivia = false)
    (rest : List Lexeme) : solid (lexeme :: rest) = lexeme :: solid rest := by
  simp [solid, counts]

theorem isTrivia_of_mem_solid {lexemes : List Lexeme} {lexeme : Lexeme}
    (member : lexeme ∈ solid lexemes) : lexeme.isTrivia = false := by
  simpa using (List.mem_filter.mp member).2

/-- Lexemes that end in a solid one have it at their end still. -/
theorem getLast?_solid {lexemes : List Lexeme}
    (ends : ∀ last ∈ lexemes.getLast?, last.isTrivia = false) :
    (solid lexemes).getLast? = lexemes.getLast? := by
  cases isLast : lexemes.getLast? with
  | none =>
      obtain rfl := List.getLast?_eq_none_iff.mp isLast
      rfl
  | some last =>
      obtain ⟨front, rfl⟩ := List.getLast?_eq_some_iff.mp isLast
      rw [solid_append, solid_cons_of_not_isTrivia (ends last isLast), solid_nil,
        List.getLast?_concat]

theorem head?_solid {lexemes : List Lexeme}
    (begins : ∀ first ∈ lexemes.head?, first.isTrivia = false) :
    (solid lexemes).head? = lexemes.head? := by
  cases lexemes with
  | nil => rfl
  | cons first rest => rw [solid_cons_of_not_isTrivia (begins first rfl)]; rfl

end Lexeme

namespace ColumnList

open Lexeme (solid solid_append solid_nil)

/-! ## The parts on solid lexemes -/

theorem allTrivia_iff {lexemes : List Lexeme} : AllTrivia lexemes ↔ solid lexemes = [] := by
  simp [AllTrivia, solid]

/-- What a solid lexeme comes first in starts with it behind trivia. -/
theorem exists_of_solid_eq_cons {lexemes rest : List Lexeme} {word : Lexeme}
    (solids : solid lexemes = word :: rest) :
    ∃ gap tail, lexemes = gap ++ word :: tail ∧ AllTrivia gap ∧ solid tail = rest := by
  obtain ⟨gap, tail, rfl, passed, _, behind⟩ := List.filter_eq_cons_iff.mp solids
  refine ⟨gap, tail, rfl, ?_, behind⟩
  intro lexeme member
  simpa using passed lexeme member

/-- The words of an opening. -/
inductive OpeningWords : Bool → List Lexeme → Prop where
  | select {word : Lexeme} : word.isKeyword "SELECT" = true → OpeningWords false [word]
  | distinct {word next : Lexeme} : word.isKeyword "SELECT" = true →
      next.isKeyword "DISTINCT" = true → OpeningWords true [word, next]

theorem OpeningWords.ne_nil {distinct : Bool} {words : List Lexeme}
    (isOpening : OpeningWords distinct words) : words ≠ [] := by
  cases isOpening <;> exact List.cons_ne_nil _ _

theorem solid_gap {word : Lexeme} {keyword : String} (isWord : word.isKeyword keyword = true)
    {gap : List Lexeme} (gapTrivia : AllTrivia gap) : solid (word :: gap) = [word] := by
  rw [Lexeme.solid_cons_of_not_isTrivia (isTrivia_of_isKeyword isWord),
    allTrivia_iff.mp gapTrivia]

theorem opening_iff {distinct : Bool} {opening : List Lexeme} :
    Opening distinct opening ↔ OpeningWords distinct (solid opening) := by
  constructor
  · intro isOpening
    cases isOpening with
    | select leadTrivia select gapTrivia =>
        rw [solid_append, allTrivia_iff.mp leadTrivia, solid_gap select gapTrivia]
        exact .select select
    | distinct isSelect keyword gapTrivia =>
        cases isSelect with
        | select leadTrivia select selectTrivia =>
            rw [solid_append, solid_append, allTrivia_iff.mp leadTrivia,
              solid_gap select selectTrivia, solid_gap keyword gapTrivia]
            exact .distinct select keyword
  · intro words
    generalize spelled : solid opening = solids at words
    cases words with
    | select select =>
        obtain ⟨lead, gap, rfl, leadTrivia, nothing⟩ := exists_of_solid_eq_cons spelled
        exact .select leadTrivia select (allTrivia_iff.mpr nothing)
    | distinct select keyword =>
        obtain ⟨lead, behind, rfl, leadTrivia, more⟩ := exists_of_solid_eq_cons spelled
        obtain ⟨gap, tail, rfl, gapTrivia, nothing⟩ := exists_of_solid_eq_cons more
        rw [← List.cons_append, ← List.append_assoc]
        exact .distinct (.select leadTrivia select gapTrivia) keyword (allTrivia_iff.mpr nothing)

theorem closing_iff {closing : List Lexeme} :
    Closing closing ↔ ∃ word rest, solid closing = word :: rest ∧ word.isKeyword "FROM" = true := by
  constructor
  · rintro ⟨gapTrivia, keyword⟩
    rename_i gap tail word
    refine ⟨word, solid tail, ?_, keyword⟩
    rw [solid_append, allTrivia_iff.mp gapTrivia,
      Lexeme.solid_cons_of_not_isTrivia (isTrivia_of_isKeyword keyword)]
    rfl
  · rintro ⟨word, rest, solids, keyword⟩
    obtain ⟨gap, tail, rfl, gapTrivia, _⟩ := exists_of_solid_eq_cons solids
    exact .mk gapTrivia keyword

/-- Trivia do not count for the depth. -/
theorem depth?_solid (depth : Nat) (lexemes : List Lexeme) :
    depth? depth (solid lexemes) = depth? depth lexemes := by
  induction lexemes generalizing depth with
  | nil => rfl
  | cons lexeme rest ih =>
      cases trivia : lexeme.isTrivia with
      | true =>
          rw [Lexeme.solid_cons_of_isTrivia trivia, depth?, step?_of_isTrivia depth trivia, ih]
          rfl
      | false =>
          rw [Lexeme.solid_cons_of_not_isTrivia trivia, depth?, depth?]
          congr 1
          funext next
          exact ih next

theorem columns_solid_iff {distinct : Bool} {columns : List Lexeme}
    (begins : ∀ first ∈ columns.head?, first.isTrivia = false)
    (ends : ∀ last ∈ columns.getLast?, last.isTrivia = false) :
    Columns distinct (solid columns) ↔ Columns distinct columns := by
  constructor
  · rintro ⟨isFirst, _, level⟩
    rw [Begins, Lexeme.head?_solid begins] at isFirst
    rw [depth?_solid] at level
    exact ⟨isFirst, ends, level⟩
  · rintro ⟨isFirst, _, level⟩
    refine ⟨?_, ?_, by rwa [depth?_solid]⟩
    · rwa [Begins, Lexeme.head?_solid begins]
    · rwa [Lexeme.getLast?_solid ends]

theorem Columns.head_solid {distinct : Bool} {columns : List Lexeme}
    (isColumns : Columns distinct columns) : ∀ first ∈ columns.head?, first.isTrivia = false := by
  obtain ⟨first, isFirst, counts, _⟩ := isColumns.begins
  intro other isOther
  obtain rfl := Option.some.inj (isFirst.symm.trans isOther)
  exact counts

theorem Columns.ne_nil {distinct : Bool} {columns : List Lexeme}
    (isColumns : Columns distinct columns) : columns ≠ [] := by
  rintro rfl
  obtain ⟨_, isFirst, _⟩ := isColumns.begins
  cases isFirst

/-! ## Divisions -/

/-- The solid lexemes `opening ++ columns ++ closing` are divided at the column list. -/
structure Divides (opening columns closing : List Lexeme) (distinct : Bool) : Prop where
  isOpening : OpeningWords distinct opening
  isColumns : Columns distinct columns
  isClosing : ∃ word rest, closing = word :: rest ∧ word.isKeyword "FROM" = true

variable {text : List Char} {opening columns closing : List Lexeme} {distinct : Bool}

theorem Divides.closing_ne_nil (division : Divides opening columns closing distinct) :
    closing ≠ [] := by
  obtain ⟨word, rest, rfl, _⟩ := division.isClosing
  exact List.cons_ne_nil word rest

/-- The solid lexemes of the parts are a division. -/
theorem Parts.divides (parts : Parts text) :
    Divides (solid parts.opening) (solid parts.columns) (solid parts.closing) parts.distinct where
  isOpening := opening_iff.mp parts.isOpening
  isColumns :=
    (columns_solid_iff parts.isColumns.head_solid parts.isColumns.ends).mpr parts.isColumns
  isClosing := closing_iff.mp parts.isClosing

theorem Parts.solid_lex (parts : Parts text) : solid (Lexer.lex text) =
    solid parts.opening ++ solid parts.columns ++ solid parts.closing := by
  rw [parts.lexemes, solid_append, solid_append]

/-- Lexemes that hold the parts of a division are parts, if those in the middle start and end
solid. -/
def Divides.parts (division : Divides (solid opening) (solid columns) (solid closing) distinct)
    (lexemes : Lexer.lex text = opening ++ columns ++ closing)
    (begins : ∀ first ∈ columns.head?, first.isTrivia = false)
    (ends : ∀ last ∈ columns.getLast?, last.isTrivia = false) : Parts text where
  distinct := distinct
  opening := opening
  columns := columns
  closing := closing
  lexemes := lexemes
  isOpening := opening_iff.mpr division.isOpening
  isColumns := (columns_solid_iff begins ends).mp division.isColumns
  isClosing := closing_iff.mpr division.isClosing

/-- A text whose solid lexemes are divided has parts, which hold those of the division. -/
theorem Divides.exists_parts (division : Divides opening columns closing distinct)
    (solids : solid (Lexer.lex text) = opening ++ columns ++ closing) :
    ∃ parts : Parts text, solid parts.opening = opening ∧ solid parts.columns = columns ∧
      solid parts.closing = closing := by
  obtain ⟨front, back, whole, frontSolids, rfl⟩ := List.filter_eq_append_iff.mp solids
  obtain ⟨left, middle, rfl, rfl, rfl⟩ := List.filter_eq_append_iff.mp frontSolids
  -- The trivia at the ends of the middle go to its neighbours.
  obtain ⟨lead, inner, rfl, leadTrivia, leadSolid⟩ := exists_trivia_split middle
  obtain ⟨core, gap, rfl, gapTrivia, ends⟩ := exists_trivia_split_end inner
  have leftSolids : solid (left ++ lead) = solid left := by
    rw [solid_append, allTrivia_iff.mp leadTrivia, List.append_nil]
  have coreSolids : solid (lead ++ (core ++ gap)) = solid core := by
    rw [solid_append, solid_append, allTrivia_iff.mp leadTrivia, allTrivia_iff.mp gapTrivia,
      List.append_nil, List.nil_append]
  have backSolids : solid (gap ++ back) = solid back := by
    rw [solid_append, allTrivia_iff.mp gapTrivia, List.nil_append]
  have inhabited : core ≠ [] := by
    rintro rfl
    exact division.isColumns.ne_nil coreSolids
  have begins : ∀ first ∈ core.head?, first.isTrivia = false := by
    intro first isFirst
    apply leadSolid first
    rw [List.head?_append, isFirst]
    rfl
  have divided : Divides (solid (left ++ lead)) (solid core) (solid (gap ++ back)) distinct := by
    rw [leftSolids, ← coreSolids, backSolids]
    exact division
  refine ⟨divided.parts ?_ begins ends, leftSolids, coreSolids.symm, backSolids⟩
  rw [whole]
  simp only [List.append_assoc]

/-! ## Lexemes that are alike -/

end ColumnList

/-- Lexemes that the search for a column list does not tell apart. -/
structure Lexeme.Alike (lexeme other : Lexeme) : Prop where
  kind : lexeme.kind = other.kind
  isKeyword : ∀ word, lexeme.isKeyword word = other.isKeyword word

namespace ColumnList

variable {text : List Char} {lexemes others : List Lexeme}

theorem isTrivia_of_alike {lexeme other : Lexeme} (alike : other.Alike lexeme) :
    other.isTrivia = lexeme.isTrivia := by
  rw [Lexeme.isTrivia, Lexeme.isTrivia, alike.kind]

/-- What is alike to lexemes in two parts is in two parts as well. -/
theorem exists_append_alike {left right : List Lexeme}
    (alike : List.Forall₂ Lexeme.Alike others (left ++ right)) :
    ∃ front back, others = front ++ back ∧ List.Forall₂ Lexeme.Alike front left ∧
      List.Forall₂ Lexeme.Alike back right :=
  ⟨others.take left.length, others.drop left.length, (List.take_append_drop ..).symm,
    List.forall₂_take_append _ _ _ alike, List.forall₂_drop_append _ _ _ alike⟩

theorem AllTrivia.alike (allTrivia : AllTrivia lexemes)
    (alike : List.Forall₂ Lexeme.Alike others lexemes) : AllTrivia others := by
  induction alike with
  | nil => exact allTrivia
  | cons here _ ih =>
      obtain ⟨trivia, later⟩ := allTrivia_cons.mp allTrivia
      exact allTrivia_cons.mpr ⟨(isTrivia_of_alike here).trans trivia, ih later⟩

theorem Opening.alike {distinct : Bool} (isOpening : Opening distinct lexemes)
    (alike : List.Forall₂ Lexeme.Alike others lexemes) : Opening distinct others := by
  induction isOpening generalizing others with
  | select leadTrivia select gapTrivia =>
      obtain ⟨lead, tail, rfl, leadAlike, tailAlike⟩ := exists_append_alike alike
      cases tailAlike with
      | cons wordAlike gapAlike =>
          exact .select (leadTrivia.alike leadAlike) ((wordAlike.isKeyword _).trans select)
            (gapTrivia.alike gapAlike)
  | distinct _ keyword gapTrivia ih =>
      obtain ⟨opening, tail, rfl, openingAlike, tailAlike⟩ := exists_append_alike alike
      cases tailAlike with
      | cons wordAlike gapAlike =>
          exact .distinct (ih openingAlike) ((wordAlike.isKeyword _).trans keyword)
            (gapTrivia.alike gapAlike)

theorem Closing.alike (isClosing : Closing lexemes)
    (alike : List.Forall₂ Lexeme.Alike others lexemes) : Closing others := by
  cases isClosing with
  | mk gapTrivia keyword =>
      obtain ⟨gap, tail, rfl, gapAlike, tailAlike⟩ := exists_append_alike alike
      cases tailAlike with
      | cons wordAlike _ =>
          exact .mk (gapTrivia.alike gapAlike) ((wordAlike.isKeyword _).trans keyword)

theorem depth?_alike (alike : List.Forall₂ Lexeme.Alike others lexemes) (depth : Nat) :
    depth? depth others = depth? depth lexemes := by
  induction alike generalizing depth with
  | nil => rfl
  | cons here _ ih =>
      rw [depth?, depth?, step?, step?, here.kind, here.isKeyword]
      congr 1
      funext next
      exact ih next

theorem Columns.alike {distinct : Bool} (isColumns : Columns distinct lexemes)
    (alike : List.Forall₂ Lexeme.Alike others lexemes) : Columns distinct others := by
  refine ⟨?_, ?_, (depth?_alike alike 0).trans isColumns.level⟩
  · obtain ⟨first, isFirst, counts, notDistinct⟩ := isColumns.begins
    cases alike with
    | nil => cases isFirst
    | cons here _ =>
        obtain rfl := Option.some.inj isFirst
        exact ⟨_, rfl, (isTrivia_of_alike here).trans counts,
          fun plain => (here.isKeyword _).trans (notDistinct plain)⟩
  · intro last isLast
    obtain ⟨front, rfl⟩ := List.getLast?_eq_some_iff.mp isLast
    -- Read from the end, the last lexemes are the first.
    have backwards := List.rel_reverse alike
    rw [List.reverse_concat] at backwards
    generalize reversed : lexemes.reverse = others at backwards
    cases backwards with
    | cons here _ =>
        refine (isTrivia_of_alike here).trans (isColumns.ends _ ?_)
        rw [← List.head?_reverse, reversed]
        rfl

/-- The parts of a text whose lexemes are alike to those of another: as many lexemes in each. -/
theorem Parts.exists_alike {other : List Char} (parts : Parts text)
    (alike : List.Forall₂ Lexeme.Alike (Lexer.lex other) (Lexer.lex text)) :
    ∃ found : Parts other, found.opening.length = parts.opening.length ∧
      found.columns.length = parts.columns.length := by
  rw [parts.lexemes] at alike
  obtain ⟨front, closing, whole, frontAlike, closingAlike⟩ := exists_append_alike alike
  obtain ⟨opening, columns, rfl, openingAlike, columnsAlike⟩ := exists_append_alike frontAlike
  exact ⟨⟨parts.distinct, opening, columns, closing, whole, parts.isOpening.alike openingAlike,
    parts.isColumns.alike columnsAlike, parts.isClosing.alike closingAlike⟩,
    openingAlike.length_eq, columnsAlike.length_eq⟩

end ColumnList

end SqlAssist
