import SqlAssist.Proofs.Replacement
import SqlAssist.Proofs.SolidParts

/-!
# Respacing a text

`respaced` writes the solid tokens of a text with a single space between any two and leaves out the
rest: comments, line ends, the space that two tokens do without. The tokens are read back from it as
they were (`lex_respaced`), since a complete lexeme stands before a space and a space before
whatever is solid. So the column list of the new text is that of the old one, respaced
(`respaced_invariant`).
-/
namespace SqlAssist

open Lexer ColumnList
open Lexeme (solid solid_append solid_nil solid_cons_of_isTrivia solid_cons_of_not_isTrivia)

/-- A single space. -/
def Lexeme.space : Lexeme := ⟨.whitespace, [' ']⟩

/-- The text with its solid tokens a single space apart, and nothing else. -/
def respaced (text : List Char) : List Char :=
  [' '].intercalate ((significant (tokenize text)).map fun token => token.range.slice text)

/-! ## Lexemes a space apart -/

theorem spelling_intersperse (lexemes : List Lexeme) :
    Lexeme.spelling (lexemes.intersperse .space) = [' '].intercalate (lexemes.map (·.text)) := by
  induction lexemes with
  | nil => rfl
  | cons lexeme rest ih =>
      cases rest with
      | nil =>
          rw [List.intersperse_singleton, List.map_singleton, List.intercalate_singleton,
            Lexeme.spelling_cons, Lexeme.spelling_nil, List.append_nil]
      | cons next more =>
          simp only [List.intersperse_cons_cons, Lexeme.spelling_cons, ih, List.map_cons,
            List.intercalate_cons_cons, List.append_assoc]
          rfl

theorem intersperse_append {left right : List Lexeme} (leftInhabited : left ≠ [])
    (rightInhabited : right ≠ []) :
    (left ++ right).intersperse .space =
      left.intersperse .space ++ .space :: right.intersperse .space := by
  induction left with
  | nil => exact absurd rfl leftInhabited
  | cons lexeme rest ih =>
      cases rest with
      | nil =>
          obtain ⟨next, more, rfl⟩ := List.exists_cons_of_ne_nil rightInhabited
          rfl
      | cons next more =>
          have later := ih (List.cons_ne_nil next more)
          rw [List.cons_append] at later
          rw [List.cons_append, List.cons_append, List.intersperse_cons_cons, later,
            List.intersperse_cons_cons]
          rfl

theorem solid_intersperse {lexemes : List Lexeme}
    (counts : ∀ lexeme ∈ lexemes, lexeme.isTrivia = false) :
    solid (lexemes.intersperse .space) = lexemes := by
  induction lexemes with
  | nil => rfl
  | cons lexeme rest ih =>
      obtain ⟨here, later⟩ := List.forall_mem_cons.mp counts
      cases rest with
      | nil => exact solid_cons_of_not_isTrivia here []
      | cons next more =>
          rw [List.intersperse_cons_cons, solid_cons_of_not_isTrivia here,
            solid_cons_of_isTrivia rfl, ih later]

theorem head?_intersperse (lexemes : List Lexeme) :
    (lexemes.intersperse .space).head? = lexemes.head? := by
  match lexemes with
  | [] => rfl
  | [_] => rfl
  | _ :: _ :: _ => rfl

theorem getLast?_intersperse (lexemes : List Lexeme) :
    (lexemes.intersperse .space).getLast? = lexemes.getLast? := by
  cases isLast : lexemes.getLast? with
  | none =>
      obtain rfl := List.getLast?_eq_none_iff.mp isLast
      rfl
  | some last =>
      obtain ⟨front, rfl⟩ := List.getLast?_eq_some_iff.mp isLast
      cases front with
      | nil => rfl
      | cons lexeme rest =>
          rw [intersperse_append (List.cons_ne_nil lexeme rest) (List.cons_ne_nil last []),
            List.intersperse_singleton, List.getLast?_append]
          rfl

/-! ## Reading a respaced text -/

/-- What is solid starts with a character that is not white space. -/
theorem stops_isSpace_of_solid {lexeme : Lexeme} {rest : List Char} (reads : Reads lexeme rest)
    (counts : lexeme.isTrivia = false) (behind : List Char) :
    Stops isSpace (lexeme.text ++ behind) := by
  obtain ⟨c, cs, spelled, _⟩ := reads.first_eq
  rw [spelled, List.cons_append, stops_cons]
  cases space : isSpace c with
  | false => rfl
  | true =>
      rw [Lexeme.isTrivia, reads.kind_of_isSpace spelled space] at counts
      cases counts

/-- A lexeme with a solid one somewhere behind it is not an open run. -/
theorem isOpenRun_of_solid_behind {lexeme next : Lexeme} {rest : List Lexeme}
    (reads : Reads lexeme (Lexeme.spelling rest)) (all : ReadsAll [] rest)
    (member : next ∈ solid rest) : lexeme.isOpenRun = false := by
  cases isOpen : lexeme.isOpenRun with
  | false => rfl
  | true =>
      have nothing := reads.rest_of_isOpenRun isOpen
      have inRest : next ∈ rest := (List.mem_filter.mp member).1
      obtain ⟨behind, nextReads⟩ := all.exists_reads inRest
      obtain ⟨c, cs, spelled, _⟩ := nextReads.first_eq
      have empty := List.flatMap_eq_nil_iff.mp nothing next inRest
      rw [spelled] at empty
      cases empty

/-- The solid lexemes of a text stand behind each other with a space between them. Only the last can
be an open run, and no space is behind the last. -/
theorem readsAll_intersperse {lexemes : List Lexeme} (all : ReadsAll [] lexemes) :
    ReadsAll [] ((solid lexemes).intersperse .space) := by
  induction lexemes with
  | nil => trivial
  | cons lexeme rest ih =>
      obtain ⟨here, behind⟩ := all
      rw [List.append_nil] at here
      have later := ih behind
      cases trivia : lexeme.isTrivia with
      | true => rwa [solid_cons_of_isTrivia trivia]
      | false =>
          rw [solid_cons_of_not_isTrivia trivia]
          cases solids : solid rest with
          | nil => exact ⟨here.cut, trivial⟩
          | cons next more =>
              have member : next ∈ solid rest := solids ▸ List.mem_cons_self
              have complete := isOpenRun_of_solid_behind here behind member
              have counts := Lexeme.isTrivia_of_mem_solid member
              obtain ⟨_, nextReads⟩ := behind.exists_reads (List.mem_filter.mp member).1
              rw [solids] at later
              obtain ⟨tail, starts⟩ :=
                List.head?_eq_some_iff.mp (head?_intersperse (next :: more))
              rw [List.intersperse_cons_cons]
              refine ⟨here.cut.before_space trivia complete rfl _, ?_, later⟩
              refine .space rfl (List.forall_mem_nil _) ?_
              rw [starts, Lexeme.spelling_cons, List.append_assoc]
              exact stops_isSpace_of_solid nextReads counts _

/-- The solid tokens of a text, without their places. -/
theorem map_toLexeme_significant (start : Nat) (lexemes : List Lexeme) :
    (significant (Token.place start lexemes)).map (·.toLexeme) = solid lexemes := by
  conv => rhs; rw [← Token.map_toLexeme_place start lexemes, solid, List.filter_map]
  rfl

/-- What there is to say about the solid tokens of a text, apart from their places, is said about
its solid lexemes. -/
theorem map_significant_tokenize (text : List Char) :
    (significant (tokenize text)).map
        (fun token => (token.kind, token.value?, token.range.slice text)) =
      (solid (lex text)).map (fun lexeme => (lexeme.kind, lexeme.value?, lexeme.text)) := by
  rw [← map_toLexeme_significant 0, List.map_map]
  apply List.map_congr_left
  intro token member
  rw [slice_range (List.mem_filter.mp member).1]
  rfl

theorem lex_respaced (text : List Char) :
    lex (respaced text) = (solid (lex text)).intersperse .space := by
  refine lex_eq_iff.mpr ⟨readsAll_intersperse (readsAll_lex text), ?_⟩
  have texts := congrArg (List.map fun entry => entry.2.2) (map_significant_tokenize text)
  rw [List.map_map, List.map_map] at texts
  rw [spelling_intersperse, respaced]
  exact congrArg [' '].intercalate texts.symm

theorem solid_lex_respaced (text : List Char) :
    solid (lex (respaced text)) = solid (lex text) := by
  rw [lex_respaced]
  exact solid_intersperse fun _ => Lexeme.isTrivia_of_mem_solid

/-! ## The column list of a respaced text -/

/-- Texts with the same solid lexemes both have a column list, or neither has. -/
theorem columnList?_eq_none_of_solid {text other : List Char}
    (same : solid (lex other) = solid (lex text)) (nothing : columnList? text = none) :
    columnList? other = none := by
  cases located : columnList? other with
  | none => rfl
  | some range =>
      obtain ⟨parts, _⟩ := columnList?_eq_some_iff.mp located
      obtain ⟨found, _⟩ := parts.divides.exists_parts (same.symm.trans parts.solid_lex)
      rw [columnList?_eq_some_iff.mpr ⟨found, rfl⟩] at nothing
      cases nothing

namespace ColumnList.Parts

variable {text : List Char}

theorem slice_range (parts : Parts text) :
    parts.range.slice text = Lexeme.spelling parts.columns := by
  have slice := TextRange.slice_middle (Lexeme.spelling parts.opening)
    (Lexeme.spelling parts.columns) (Lexeme.spelling parts.closing)
  rwa [← parts.text_eq] at slice

/-- The parts of a text, each of them respaced. -/
theorem exists_respaced (parts : Parts text) : ∃ spaced : Parts (respaced text),
    spaced.columns = (solid parts.columns).intersperse .space := by
  have division := parts.divides
  have lexemes : lex (respaced text) =
      ((solid parts.opening).intersperse .space ++ [.space]) ++
        (solid parts.columns).intersperse .space ++
        .space :: (solid parts.closing).intersperse .space := by
    have front := intersperse_append division.isOpening.ne_nil division.isColumns.ne_nil
    have inhabited := List.append_ne_nil_of_left_ne_nil division.isOpening.ne_nil
      (solid parts.columns)
    rw [lex_respaced, parts.solid_lex, intersperse_append inhabited division.closing_ne_nil, front,
      List.append_assoc _ [_]]
    rfl
  have kept : ∀ part : List Lexeme, solid ((solid part).intersperse .space) = solid part :=
    fun part => solid_intersperse fun _ => Lexeme.isTrivia_of_mem_solid
  have divided : Divides (solid ((solid parts.opening).intersperse .space ++ [.space]))
      (solid ((solid parts.columns).intersperse .space))
      (solid (.space :: (solid parts.closing).intersperse .space)) parts.distinct := by
    rw [solid_append, kept, kept, solid_cons_of_isTrivia rfl, solid_cons_of_isTrivia rfl, kept,
      solid_nil, List.append_nil]
    exact division
  refine ⟨divided.parts lexemes ?_ ?_, rfl⟩
  · rw [head?_intersperse]
    exact division.isColumns.head_solid
  · rw [getLast?_intersperse]
    exact division.isColumns.ends

/-- The solid tokens in the range of the columns, by what they cover. -/
theorem texts_inside (parts : Parts text) :
    ((significant (tokenize text)).filter (fun token => parts.range.contains token.range)).map
        (fun token => token.range.slice text) = (solid parts.columns).map (·.text) := by
  have covered : ∀ token ∈ (significant (tokenize text)).filter
      (fun token => parts.range.contains token.range), token.range.slice text = token.text := by
    intro token member
    exact SqlAssist.slice_range (List.mem_filter.mp (List.mem_filter.mp member).1).1
  rw [List.map_congr_left covered, parts.significant_inside,
    ← map_toLexeme_significant (Lexeme.spelling parts.opening).length, List.map_map]
  rfl

end ColumnList.Parts

/-- Spacing and comments do not count. A text and its respaced form have the same solid tokens: the
same kinds, the same values, the same characters. If one of them has a column list, so has the
other, and the list of the respaced text is the solid tokens in that of the text, a single space
apart. -/
theorem respaced_invariant (text : List Char) :
    (significant (tokenize (respaced text))).map
        (fun token => (token.kind, token.value?, token.range.slice (respaced text))) =
      (significant (tokenize text)).map
        (fun token => (token.kind, token.value?, token.range.slice text)) ∧
    (columnList? (respaced text) = none ↔ columnList? text = none) ∧
    ∀ range spacedRange, columnList? text = some range →
      columnList? (respaced text) = some spacedRange →
      spacedRange.slice (respaced text) =
        [' '].intercalate (((significant (tokenize text)).filter
          (fun token => range.contains token.range)).map fun token => token.range.slice text) := by
  have same := solid_lex_respaced text
  refine ⟨?_, ⟨columnList?_eq_none_of_solid same.symm, columnList?_eq_none_of_solid same⟩, ?_⟩
  · rw [map_significant_tokenize, map_significant_tokenize, same]
  · intro range spacedRange located spacedLocated
    obtain ⟨parts, rfl⟩ := columnList?_eq_some_iff.mp located
    obtain ⟨spaced, columns⟩ := parts.exists_respaced
    obtain rfl : spaced.range = spacedRange := by
      have relocated := columnList?_eq_some_iff.mpr ⟨spaced, rfl⟩
      exact Option.some.inj (relocated.symm.trans spacedLocated)
    rw [spaced.slice_range, columns, spelling_intersperse, parts.texts_inside]

/-- A text with comments for spaces, a number without its exponent, a lone minus, and a name without
its closing quote. -/
theorem respaced_invariant_comments :
    respaced "select/**/distinct 1e-,-/*-*/-'a b'--c\nfrom\"t".toList =
      "select distinct 1e- , - - 'a b' from \"t".toList ∧
    columnList? "select/**/distinct 1e-,-/*-*/-'a b'--c\nfrom\"t".toList = some ⟨19, 35⟩ ∧
    columnList? (respaced "select/**/distinct 1e-,-/*-*/-'a b'--c\nfrom\"t".toList) =
      some ⟨16, 31⟩ ∧
    TextRange.slice ⟨16, 31⟩ (respaced "select/**/distinct 1e-,-/*-*/-'a b'--c\nfrom\"t".toList) =
      [' '].intercalate (((significant (tokenize
          "select/**/distinct 1e-,-/*-*/-'a b'--c\nfrom\"t".toList)).filter
          (fun token => TextRange.contains ⟨19, 35⟩ token.range)).map fun token =>
        token.range.slice "select/**/distinct 1e-,-/*-*/-'a b'--c\nfrom\"t".toList) := by
  have located : columnList? "select/**/distinct 1e-,-/*-*/-'a b'--c\nfrom\"t".toList =
      some ⟨19, 35⟩ := by decide +kernel
  have spacedLocated : columnList?
      (respaced "select/**/distinct 1e-,-/*-*/-'a b'--c\nfrom\"t".toList) = some ⟨16, 31⟩ := by
    decide +kernel
  exact ⟨by decide +kernel, located, spacedLocated,
    (respaced_invariant _).2.2 _ _ located spacedLocated⟩

end SqlAssist
