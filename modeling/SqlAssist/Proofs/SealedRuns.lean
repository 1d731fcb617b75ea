import SqlAssist.Proofs.Replacement
import SqlAssist.Proofs.SolidParts
import SqlAssist.Slot

/-!
# What is inside of comments and quoted runs

A comment or a quoted run that is closed hides what it holds. Put another of the same kind in its
place, and nothing else in the text changes: the other tokens are the same and stand where they have
to (`tokenize_splice_sealed`), the cursor expects what it did (`after_eq_of_exchanged`), and the
column list is found between the same tokens or not at all (`Parts.exists_alike`).
`splice_sealed_invariant` is the three together.

The texts are compared lexeme by lexeme (`Lexeme.Exchanged`): two lexemes at one place are equal, or
both are sealed and of one kind.
-/
namespace SqlAssist

open Lexer ColumnList

/-- A comment to the end of its line, or a block comment or a quoted run with its closing. -/
def Lexeme.isSealed (lexeme : Lexeme) : Bool :=
  match lexeme.kind with
  | .lineComment => true
  | .blockComment => commentEnd.isSuffixOf (lexeme.text.drop 2)
  | .stringLiteral | .quotedIdentifier => !lexeme.isOpenRun
  | _ => false

/-- The first character of a comment or a quoted run, and the characters that cannot stand behind it
when it is sealed. -/
def TokenKind.fence? : TokenKind → Option (Char × (Char → Bool))
  | .lineComment => some ('-', (· != '\n'))
  | .blockComment => some ('/', fun _ => false)
  | .stringLiteral => some ('\'', (· == '\''))
  | .quotedIdentifier => some ('"', (· == '"'))
  | _ => none

/-! ## Sealed lexemes in a text -/

/-- What a sealed lexeme starts with, and what can be behind it, is decided by its kind. -/
theorem Lexer.Reads.fence {lexeme : Lexeme} {rest : List Char} (reads : Reads lexeme rest)
    (isSealed : lexeme.isSealed = true) :
    ∃ c p, lexeme.kind.fence? = some (c, p) ∧ lexeme.text.head? = some c ∧ Stops p rest ∧
      ∀ other, Stops p other → Reads lexeme other := by
  cases reads with
  | lineComment inside stops =>
      exact ⟨_, _, rfl, rfl, stops, fun _ otherStops => .lineComment inside otherStops⟩
  | blockComment clean => exact ⟨_, _, rfl, rfl, stops_nothing rest, fun _ _ => .blockComment clean⟩
  | openComment clean =>
      exact absurd (List.isSuffixOf_iff_suffix.mp isSealed).isInfix clean
  | quotedRun isQuote stops =>
      rcases quoteKind?_eq_some_iff.mp isQuote with ⟨rfl, rfl⟩ | ⟨rfl, rfl⟩
      · exact ⟨_, _, rfl, rfl, stops, fun _ otherStops => .quotedRun isQuote otherStops⟩
      · exact ⟨_, _, rfl, rfl, stops, fun _ otherStops => .quotedRun isQuote otherStops⟩
  | openRun isQuote =>
      have isOpen := isOpenRun_of_openRun isQuote
      rcases quoteKind?_eq_some_iff.mp isQuote with ⟨rfl, rfl⟩ | ⟨rfl, rfl⟩
      · rw [Lexeme.isSealed, isOpen] at isSealed
        cases isSealed
      · rw [Lexeme.isSealed, isOpen] at isSealed
        cases isSealed
  | punctuation mark =>
      rcases punctuation?_eq_some mark with ⟨_, rfl⟩ | ⟨_, rfl⟩ | ⟨_, rfl⟩ | ⟨_, rfl⟩ <;>
        cases isSealed
  | word =>
      rename_i c run _ _ _ _
      rcases wordKind_eq (c :: run) with kind | kind <;>
        simp only [Lexeme.isSealed, kind] at isSealed <;> cases isSealed
  | space | number | lone => cases isSealed

/-- A comment or a quoted run and another, both sealed, that only what they hold tells apart. -/
structure Lexeme.Swapped (lexeme other : Lexeme) : Prop where
  kind : lexeme.kind = other.kind
  isSealed : lexeme.isSealed = true ∧ other.isSealed = true
  reads : (∃ rest, Reads lexeme rest) ∧ ∃ rest, Reads other rest

namespace Lexeme

variable {lexeme other : Lexeme}

theorem Swapped.symm (swapped : lexeme.Swapped other) : other.Swapped lexeme :=
  ⟨swapped.kind.symm, swapped.isSealed.symm, swapped.reads.symm⟩

/-- Where one of them stands the other does too, and both start with the same character. -/
theorem Swapped.stands (swapped : lexeme.Swapped other) {rest : List Char}
    (reads : Reads other rest) :
    Reads lexeme rest ∧ ∃ c, lexeme.text.head? = some c ∧ other.text.head? = some c := by
  obtain ⟨_, ownReads⟩ := swapped.reads.1
  obtain ⟨c, p, ownFence, ownHead, _, stands⟩ := ownReads.fence swapped.isSealed.1
  obtain ⟨d, q, fence, head, stops, _⟩ := reads.fence swapped.isSealed.2
  rw [swapped.kind, fence] at ownFence
  obtain ⟨rfl, rfl⟩ := Prod.mk.inj (Option.some.inj ownFence)
  exact ⟨stands rest stops, d, ownHead, head⟩

theorem isKeyword_of_isSealed (isSealed : lexeme.isSealed = true) (word : String) :
    lexeme.isKeyword word = false := by
  cases keyword : lexeme.isKeyword word with
  | false => rfl
  | true =>
      rw [Lexeme.isSealed, kind_of_isKeyword keyword] at isSealed
      cases isSealed

theorem Swapped.alike (swapped : lexeme.Swapped other) : lexeme.Alike other where
  kind := swapped.kind
  isKeyword word := by
    rw [isKeyword_of_isSealed swapped.isSealed.1, isKeyword_of_isSealed swapped.isSealed.2]

/-- Two lexemes at one place of two texts: the same, or swapped. -/
def Exchanged (lexeme other : Lexeme) : Prop := lexeme = other ∨ lexeme.Swapped other

theorem Exchanged.alike (exchanged : lexeme.Exchanged other) : lexeme.Alike other := by
  rcases exchanged with rfl | swapped
  · exact ⟨rfl, fun _ => rfl⟩
  · exact swapped.alike

theorem forall₂_exchanged (left right : List Lexeme) (swapped : lexeme.Swapped other) :
    List.Forall₂ Exchanged (left ++ lexeme :: right) (left ++ other :: right) := by
  have same : ∀ lexemes : List Lexeme, List.Forall₂ Exchanged lexemes lexemes :=
    fun _ => List.forall₂_same.mpr fun _ _ => .inl rfl
  exact List.rel_append (same left) (.cons (.inr swapped) (same right))

end Lexeme

/-- The lexemes of a text in which a sealed one is swapped for another. -/
theorem lex_swapped {text : List Char} {left right : List Lexeme} {lexeme other : Lexeme}
    (lexemes : lex text = left ++ other :: right) (swapped : lexeme.Swapped other) :
    lex (Lexeme.spelling left ++ lexeme.text ++ Lexeme.spelling right) =
      left ++ lexeme :: right := by
  have all := readsAll_lex text
  rw [lexemes, readsAll_append] at all
  obtain ⟨front, here, behind⟩ := all
  rw [List.append_nil] at here
  obtain ⟨stands, c, head, otherHead⟩ := swapped.stands here
  refine lex_eq_iff.mpr ⟨?_, by simp⟩
  refine readsAll_append.mpr ⟨?_, by rwa [List.append_nil], behind⟩
  -- The lexeme before the changed one sees its first character only.
  apply front.change
  intro last _ reads
  apply reads.of_head?
  simp [head, otherHead]

/-! ## Tokens -/

/-- The token where it is once `removed` characters before it have made way for `added` ones. -/
def Token.moved (removed added : Nat) (token : Token) : Token :=
  { token with start := token.start - removed + added }

theorem Token.map_moved_place {removed start : Nat} (inside : removed ≤ start) (added : Nat)
    (lexemes : List Lexeme) :
    (Token.place start lexemes).map (Token.moved removed added) =
      Token.place (start - removed + added) lexemes := by
  induction lexemes generalizing start with
  | nil => rfl
  | cons lexeme rest ih =>
      have later := ih (Nat.le_add_right_of_le inside : removed ≤ start + lexeme.text.length)
      have place : start + lexeme.text.length - removed + added =
          start - removed + added + lexeme.text.length := by omega
      rw [Token.place_cons, Token.place_cons, List.map_cons, later, place]
      rfl

section

variable {text replacement : List Char} {k : Nat} {token other : Token}
  (here : (tokenize text)[k]? = some token) (isSealed : token.isSealed = true)
  (single : tokenize replacement = [other]) (kind : other.kind = token.kind)
  (otherSealed : other.isSealed = true)

include here isSealed single kind otherSealed

/-- The lexemes of a text before and after a sealed token of it is swapped. -/
theorem exists_swapped : ∃ left right, left.length = k ∧
    token.start = (Lexeme.spelling left).length ∧ other.text = replacement ∧
    other.toLexeme.Swapped token.toLexeme ∧ lex text = left ++ token.toLexeme :: right ∧
    lex (splice text token.range replacement) = left ++ other.toLexeme :: right := by
  obtain ⟨left, right, lexemes, length, start⟩ := exists_lexemes_at here
  have alone : lex replacement = [other.toLexeme] := by
    rw [← map_toLexeme_tokenize, single, List.map_singleton]
  have spelled : other.text = replacement := by
    rw [← spelling_lex replacement, alone, Lexeme.spelling_cons, Lexeme.spelling_nil,
      List.append_nil]
  have swapped : other.toLexeme.Swapped token.toLexeme := by
    refine ⟨kind, ⟨otherSealed, isSealed⟩, ?_, ?_⟩
    · apply (readsAll_lex replacement).exists_reads
      rw [alone]
      exact List.mem_singleton_self _
    · apply (readsAll_lex text).exists_reads
      rw [lexemes]
      exact List.mem_append_right _ List.mem_cons_self
  have whole : text = Lexeme.spelling left ++ token.text ++ Lexeme.spelling right := by
    rw [← spelling_lex text, lexemes, Lexeme.spelling_append, Lexeme.spelling_cons,
      List.append_assoc]
  have spliced : splice text token.range replacement =
      Lexeme.spelling left ++ other.text ++ Lexeme.spelling right := by
    rw [Token.range, Token.stop, start, spelled, whole]
    exact splice_middle _ _ _ _
  refine ⟨left, right, length, start, spelled, swapped, lexemes, ?_⟩
  rw [spliced]
  exact lex_swapped lexemes swapped

/-- The tokens of a text in which a sealed one is swapped: the new one is where the old one was, and
those behind it move. -/
theorem tokenize_splice_sealed : tokenize (splice text token.range replacement) =
    (tokenize text).take k ++ { other with start := token.start } ::
      ((tokenize text).drop (k + 1)).map (Token.moved token.text.length replacement.length) := by
  obtain ⟨left, right, length, start, spelled, _, lexemes, swapped⟩ :=
    exists_swapped here isSealed single kind otherSealed
  have front : (lex text).take k = left := by rw [lexemes, ← length, List.take_left]
  have upTo : (lex text).take (k + 1) = left ++ [token.toLexeme] := by
    rw [lexemes, ← length, List.take_length_add_append]
    rfl
  have behind : (lex text).drop (k + 1) = right := by
    rw [lexemes, ← length, List.drop_length_add_append]
    rfl
  have place : (Lexeme.spelling (left ++ [token.toLexeme])).length =
      token.start + token.text.length := by
    rw [Lexeme.spelling_append, List.length_append, Lexeme.spelling_cons, Lexeme.spelling_nil,
      List.append_nil, start]
  rw [tokenize, tokenize, swapped, Token.take_place, Token.drop_place, front, upTo, behind, place,
    Nat.zero_add, Token.map_moved_place (Nat.le_add_left ..), Nat.add_sub_cancel,
    Token.place_append, Token.place_cons, Nat.zero_add, start, spelled]

end

/-! ## What the cursor expects -/

namespace Slot

/-- The words that decide what is expected. -/
def decisive : List String :=
  tableWords ++ columnWords ++ columnListWords ++ tableListWords ++ ["ORDER", "GROUP", ","]

/-- Words that decide the same. -/
def SameWord (word other : String) : Prop :=
  word = other ∨ word ∉ decisive ∧ other ∉ decisive

theorem ofList_congr {words others : List String} (same : List.Forall₂ SameWord words others) :
    ofList words = ofList others := by
  unfold ofList
  congr 1
  induction same with
  | nil => rfl
  | cons here _ ih =>
      rcases here with rfl | ⟨plain, otherPlain⟩
      · rw [List.findSome?_cons, List.findSome?_cons, ih]
      · simp only [decisive, List.mem_append, not_or] at plain otherPlain
        simpa [plain, otherPlain] using ih

theorem ofWords_congr {words others : List String} (same : List.Forall₂ SameWord words others) :
    ofWords words = ofWords others := by
  have lists := ofList_congr same
  cases same with
  | nil => rfl
  | cons here _ =>
      rcases here with rfl | ⟨plain, otherPlain⟩
      · rw [ofWords, ofWords, lists]
      · simp only [decisive, List.mem_append, List.mem_cons, not_or] at plain otherPlain
        simp [ofWords, plain, otherPlain]

/-- A sealed lexeme starts with a quote or the opening of a comment, and no word that decides
does. -/
theorem not_mem_decisive {lexeme : Lexeme} {rest : List Char} (reads : Reads lexeme rest)
    (isSealed : lexeme.isSealed = true) :
    String.ofList (Text.upper lexeme.text) ∉ decisive := by
  obtain ⟨c, p, fence, head, _⟩ := reads.fence isSealed
  obtain ⟨cs, spelled⟩ := List.head?_eq_some_iff.mp head
  have apart : Text.upperChar c = [c] ∧ decisive.all (·.toList.head? != some c) = true := by
    unfold TokenKind.fence? at fence
    split at fence <;> cases fence <;> decide
  intro member
  have other := List.all_eq_true.mp apart.2 _ member
  rw [spelled, String.toList_ofList, Text.upper, List.flatMap_cons, apart.1] at other
  simp at other

theorem sameWord_of_exchanged {lexeme other : Lexeme} (exchanged : lexeme.Exchanged other) :
    SameWord (String.ofList (Text.upper lexeme.text)) (String.ofList (Text.upper other.text)) := by
  rcases exchanged with rfl | ⟨_, ⟨isSealed, otherSealed⟩, ⟨_, reads⟩, ⟨_, otherReads⟩⟩
  · exact .inl rfl
  · exact .inr ⟨not_mem_decisive reads isSealed, not_mem_decisive otherReads otherSealed⟩

theorem forall₂_dropWhile {lexemes others : List Lexeme} {p : Lexeme → Bool}
    (same : ∀ lexeme other : Lexeme, lexeme.Exchanged other → p lexeme = p other)
    (exchanged : List.Forall₂ Lexeme.Exchanged lexemes others) :
    List.Forall₂ Lexeme.Exchanged (lexemes.dropWhile p) (others.dropWhile p) := by
  induction exchanged with
  | nil => exact .nil
  | @cons lexeme other _ _ here later ih =>
      rw [List.dropWhile_cons, List.dropWhile_cons, same lexeme other here]
      split
      · exact ih
      · exact .cons here later

/-- What is expected behind texts that sealed lexemes only tell apart. -/
theorem after_eq_of_exchanged {text other : List Char}
    (exchanged : List.Forall₂ Lexeme.Exchanged (lex text) (lex other)) :
    after text = after other := by
  apply ofWords_congr
  have sameWord : ∀ lexeme other : Lexeme, lexeme.Exchanged other →
      inWord lexeme = inWord other := by
    intro lexeme other here
    rw [inWord, inWord, here.alike.kind]
  have finished := forall₂_dropWhile sameWord (List.rel_reverse exchanged)
  apply List.rel_map (fun _ _ here => sameWord_of_exchanged here)
  refine List.rel_filter ?_ finished
  intro lexeme other here
  show (!lexeme.isTrivia) = true ↔ (!other.isTrivia) = true
  rw [isTrivia_of_alike here.alike]

end Slot

/-! ## The column list -/

/-- The range reaches from the start of one token to the end of another, by their numbers. -/
def Token.Bounds (tokens : List Token) (first last : Nat) (range : TextRange) : Prop :=
  ∃ firstToken lastToken, tokens[first]? = some firstToken ∧ tokens[last]? = some lastToken ∧
    range = ⟨firstToken.start, lastToken.stop⟩

theorem ColumnList.Parts.bounds {text : List Char} (parts : Parts text) :
    Token.Bounds (tokenize text) parts.opening.length
      (parts.opening.length + parts.columns.length - 1) parts.range := by
  obtain ⟨first, rest, columns⟩ := List.exists_cons_of_ne_nil parts.isColumns.ne_nil
  obtain ⟨last, isLast⟩ : ∃ last, parts.columns.getLast? = some last :=
    ⟨_, List.getLast?_eq_some_getLast parts.isColumns.ne_nil⟩
  obtain ⟨token, lastToken, _, stop⟩ :=
    Token.getLast?_place (Lexeme.spelling parts.opening).length isLast
  refine ⟨⟨first, (Lexeme.spelling parts.opening).length⟩, token, ?_, ?_, ?_⟩
  · rw [parts.tokens, List.append_assoc, List.getElem?_append_right (by simp)]
    simp [columns]
  · have positive := List.length_pos_iff.mpr parts.isColumns.ne_nil
    have behind : parts.opening.length ≤ parts.opening.length + parts.columns.length - 1 := by omega
    have inside : parts.opening.length + parts.columns.length - 1 - parts.opening.length <
        parts.columns.length := by omega
    rw [parts.tokens, List.append_assoc, List.getElem?_append_right (by rwa [Token.length_place]),
      Token.length_place, List.getElem?_append_left (by rwa [Token.length_place]), ← lastToken,
      List.getLast?_eq_getElem?, Token.length_place]
    congr 1
    omega
  · rw [stop]
    rfl

/-- Where the column list is in texts that sealed lexemes only tell apart. -/
theorem columnList?_exchanged {text other : List Char}
    (exchanged : List.Forall₂ Lexeme.Exchanged (lex other) (lex text)) {range : TextRange}
    (located : columnList? text = some range) :
    ∃ otherRange first last, columnList? other = some otherRange ∧
      Token.Bounds (tokenize text) first last range ∧
      Token.Bounds (tokenize other) first last otherRange := by
  obtain ⟨parts, rfl⟩ := columnList?_eq_some_iff.mp located
  obtain ⟨found, opening, columns⟩ := parts.exists_alike
    (exchanged.imp fun _ _ here => here.alike)
  refine ⟨found.range, _, _, columnList?_eq_some_iff.mpr ⟨found, rfl⟩, parts.bounds, ?_⟩
  rw [← opening, ← columns]
  exact found.bounds

/-- What a comment or a quoted run holds changes nothing else. In the place of a sealed token of a
text put another text that is read as one sealed token of the same kind. The tokens are those of the
text, with the new one among them and those behind it moved; the cursor expects the same behind the
text; and the column list is found or not found as before, between the tokens with the same
numbers. -/
theorem splice_sealed_invariant {text replacement : List Char} {k : Nat} {token other : Token}
    (here : (tokenize text)[k]? = some token) (isSealed : token.isSealed = true)
    (single : tokenize replacement = [other]) (kind : other.kind = token.kind)
    (otherSealed : other.isSealed = true) :
    tokenize (splice text token.range replacement) =
      (tokenize text).take k ++ { other with start := token.start } ::
        ((tokenize text).drop (k + 1)).map (Token.moved token.text.length replacement.length) ∧
    Slot.after (splice text token.range replacement) = Slot.after text ∧
    ((columnList? (splice text token.range replacement)).isSome ↔ (columnList? text).isSome) ∧
    ∀ range changedRange, columnList? text = some range →
      columnList? (splice text token.range replacement) = some changedRange →
      ∃ first last, Token.Bounds (tokenize text) first last range ∧
        Token.Bounds (tokenize (splice text token.range replacement)) first last changedRange := by
  obtain ⟨left, right, _, _, _, swapped, lexemes, changed⟩ :=
    exists_swapped here isSealed single kind otherSealed
  have forward := Lexeme.forall₂_exchanged left right swapped
  have backward := Lexeme.forall₂_exchanged left right swapped.symm
  rw [← lexemes, ← changed] at forward backward
  refine ⟨tokenize_splice_sealed here isSealed single kind otherSealed,
    Slot.after_eq_of_exchanged forward, ⟨?_, ?_⟩, ?_⟩
  · intro located
    obtain ⟨range, isRange⟩ := Option.isSome_iff_exists.mp located
    obtain ⟨_, _, _, found, _⟩ := columnList?_exchanged backward isRange
    rw [found, Option.isSome_some]
  · intro located
    obtain ⟨range, isRange⟩ := Option.isSome_iff_exists.mp located
    obtain ⟨_, _, _, found, _⟩ := columnList?_exchanged forward isRange
    rw [found, Option.isSome_some]
  · intro range changedRange located changedLocated
    obtain ⟨found, first, last, isFound, bounds, foundBounds⟩ :=
      columnList?_exchanged forward located
    obtain rfl := Option.some.inj (isFound.symm.trans changedLocated)
    exact ⟨first, last, bounds, foundBounds⟩

/-- A string with a doubled quote and a `FROM` of its own in the place of a harmless one. -/
theorem splice_sealed_invariant_from :
    (tokenize "SELECT 'a' FROM t".toList)[2]? = some ⟨⟨.stringLiteral, "'a'".toList⟩, 7⟩ ∧
    tokenize "'''), FROM --'".toList = [⟨⟨.stringLiteral, "'''), FROM --'".toList⟩, 0⟩] ∧
    tokenize "SELECT '''), FROM --' FROM t".toList =
      (tokenize "SELECT 'a' FROM t".toList).take 2 ++
        ⟨⟨.stringLiteral, "'''), FROM --'".toList⟩, 7⟩ ::
        ((tokenize "SELECT 'a' FROM t".toList).drop 3).map (Token.moved 3 14) ∧
    Slot.after "SELECT '''), FROM --' FROM t".toList = Slot.after "SELECT 'a' FROM t".toList ∧
    ∃ first last, Token.Bounds (tokenize "SELECT 'a' FROM t".toList) first last ⟨7, 10⟩ ∧
      Token.Bounds (tokenize "SELECT '''), FROM --' FROM t".toList) first last ⟨7, 21⟩ := by
  have here : (tokenize "SELECT 'a' FROM t".toList)[2]? =
      some ⟨⟨.stringLiteral, "'a'".toList⟩, 7⟩ := by decide +kernel
  have single : tokenize "'''), FROM --'".toList =
      [⟨⟨.stringLiteral, "'''), FROM --'".toList⟩, 0⟩] := by decide +kernel
  obtain ⟨tokens, slot, _, bounds⟩ :=
    splice_sealed_invariant here (by decide) single rfl (by decide)
  exact ⟨here, single, tokens, slot, bounds _ _ (by decide +kernel) (by decide +kernel)⟩

end SqlAssist
