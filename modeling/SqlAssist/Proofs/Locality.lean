import SqlAssist.Proofs.LexicalGrammar
import SqlAssist.Proofs.Placement

/-!
# Lexing is local

The lexemes of a text are a list in which each stands before what the others spell (`ReadsAll`), and
every such list is what its text is split into (`lex_eq_iff`). A list of this kind may be cut
anywhere, and two of them may be joined if the last lexeme of the one stands before the other. So a
text can be taken apart between its tokens, and texts can be put together, without lexing again:
`tokenize_local` is the first of the two, and the lemmas about `ReadsAll` are the second.
-/
namespace SqlAssist.Lexer

/-- The lexemes stand one behind the other if the text goes on with `rest` behind the last. -/
def ReadsAll (rest : List Char) : List Lexeme → Prop
  | [] => True
  | lexeme :: more => Reads lexeme (Lexeme.spelling more ++ rest) ∧ ReadsAll rest more

theorem readsAll_append {rest : List Char} {left right : List Lexeme} :
    ReadsAll rest (left ++ right) ↔
      ReadsAll (Lexeme.spelling right ++ rest) left ∧ ReadsAll rest right := by
  induction left with
  | nil => exact ⟨fun all => ⟨trivial, all⟩, fun both => both.2⟩
  | cons lexeme more ih =>
      simp only [List.cons_append, ReadsAll, Lexeme.spelling_append, List.append_assoc, ih]
      exact and_assoc.symm

/-- What a list of lexemes spells is split into them, whatever stands behind. -/
theorem ReadsAll.lex_append {rest : List Char} {lexemes : List Lexeme}
    (all : ReadsAll rest lexemes) :
    lex (Lexeme.spelling lexemes ++ rest) = lexemes ++ lex rest := by
  induction lexemes with
  | nil => rfl
  | cons lexeme more ih =>
      obtain ⟨reads, later⟩ := all
      obtain ⟨c, cs, spelled, cut⟩ := reads.first_eq
      rw [Lexeme.spelling_cons, List.append_assoc, spelled, List.cons_append, lex, cut, ih later]
      rfl

theorem readsAll_lex (text : List Char) : ReadsAll [] (lex text) := by
  fun_induction lex text with
  | case1 => trivial
  | case2 c cs ih =>
      refine ⟨?_, ih⟩
      rw [spelling_lex, List.append_nil]
      exact first_reads c cs

theorem ReadsAll.exists_reads {rest : List Char} {lexemes : List Lexeme}
    (all : ReadsAll rest lexemes) {lexeme : Lexeme} (member : lexeme ∈ lexemes) :
    ∃ behind, Reads lexeme behind := by
  induction lexemes with
  | nil => cases member
  | cons first more ih =>
      rcases List.mem_cons.mp member with rfl | later
      · exact ⟨_, all.1⟩
      · exact ih all.2 later

theorem lex_eq_iff {text : List Char} {lexemes : List Lexeme} :
    lex text = lexemes ↔ ReadsAll [] lexemes ∧ Lexeme.spelling lexemes = text := by
  constructor
  · rintro rfl
    exact ⟨readsAll_lex text, spelling_lex text⟩
  · rintro ⟨all, rfl⟩
    have split := all.lex_append
    rwa [List.append_nil, lex_eq_nil_iff.mpr rfl, List.append_nil] at split

/-! ## Changing what stands behind -/

/-- Only the last lexeme sees what the text goes on with. -/
theorem ReadsAll.change {rest other : List Char} {lexemes : List Lexeme}
    (all : ReadsAll rest lexemes)
    (last : ∀ lexeme ∈ lexemes.getLast?, Reads lexeme rest → Reads lexeme other) :
    ReadsAll other lexemes := by
  induction lexemes with
  | nil => trivial
  | cons lexeme more ih =>
      obtain ⟨reads, later⟩ := all
      cases more with
      | nil => exact ⟨last lexeme rfl reads, trivial⟩
      | cons next tail =>
          refine ⟨reads.of_head? ?_, ih later ?_⟩
          · -- The next lexeme is not empty, so the next character is its first.
            obtain ⟨c, cs, spelled, _⟩ := later.1.first_eq
            simp [spelled]
          · intro final member
            apply last final
            rwa [List.getLast?_cons_cons]

theorem ReadsAll.cut {rest : List Char} {lexemes : List Lexeme} (all : ReadsAll rest lexemes) :
    ReadsAll [] lexemes :=
  all.change fun _ _ reads => reads.cut

/-- Two texts are split apart from each other if the last lexeme of the one stands before the
other. -/
theorem lex_append {left right : List Char}
    (joins : ∀ last ∈ (lex left).getLast?, Reads last [] → Reads last right) :
    lex (left ++ right) = lex left ++ lex right := by
  have split := ((readsAll_lex left).change joins).lex_append
  rwa [spelling_lex] at split

/-- Lexemes that follow each other in a text are what they spell is split into. -/
theorem lex_spelling_middle {text : List Char} {left middle right : List Lexeme}
    (parts : lex text = left ++ middle ++ right) : lex (Lexeme.spelling middle) = middle := by
  have all := readsAll_lex text
  rw [parts, readsAll_append, readsAll_append] at all
  exact lex_eq_iff.mpr ⟨all.1.2.cut, rfl⟩

end SqlAssist.Lexer

namespace SqlAssist

/-! ## The tokens of a part of a text -/

/-- An offset between tokens, or at an end of the text. -/
def IsBoundary (text : List Char) (offset : Nat) : Prop :=
  offset = 0 ∨ ∃ token ∈ tokenize text, offset = token.start ∨ offset = token.stop

instance (text : List Char) (offset : Nat) : Decidable (IsBoundary text offset) :=
  inferInstanceAs (Decidable (offset = 0 ∨ ∃ token ∈ tokenize text, _))

/-- At an offset between tokens the lexemes of the text fall into two. -/
theorem IsBoundary.split {text : List Char} {offset : Nat} (boundary : IsBoundary text offset) :
    ∃ left right, Lexer.lex text = left ++ right ∧ (Lexeme.spelling left).length = offset := by
  rcases boundary with rfl | ⟨token, member, atToken⟩
  · exact ⟨[], Lexer.lex text, rfl, rfl⟩
  · obtain ⟨left, right, lexemes, start⟩ := exists_lexemes_around member
    rcases atToken with rfl | rfl
    · exact ⟨left, token.toLexeme :: right, lexemes, start.symm⟩
    · refine ⟨left ++ [token.toLexeme], right, by rw [lexemes, List.append_assoc]; rfl, ?_⟩
      rw [Lexeme.spelling_append, List.length_append, Lexeme.spelling_cons, Lexeme.spelling_nil,
        List.append_nil, Token.stop, start]

/-- The tokens of a text, cut at an offset between tokens. -/
theorem tokenize_split {text : List Char} {offset : Nat} (boundary : IsBoundary text offset) :
    tokenize text = tokenize (text.take offset) ++
      (tokenize (text.drop offset)).map (Token.shift offset) := by
  obtain ⟨left, right, lexemes, rfl⟩ := boundary.split
  have whole : text = Lexeme.spelling left ++ Lexeme.spelling right := by
    rw [← Lexer.spelling_lex text, lexemes, Lexeme.spelling_append]
  have leftLexed : Lexer.lex (Lexeme.spelling left) = left :=
    Lexer.lex_spelling_middle (show Lexer.lex text = [] ++ left ++ right from lexemes)
  have rightLexed : Lexer.lex (Lexeme.spelling right) = right :=
    Lexer.lex_spelling_middle (show Lexer.lex text = left ++ right ++ [] by
      rw [lexemes, List.append_nil])
  have front : text.take (Lexeme.spelling left).length = Lexeme.spelling left := by
    rw [whole, List.take_left]
  have back : text.drop (Lexeme.spelling left).length = Lexeme.spelling right := by
    rw [whole, List.drop_left]
  rw [front, back]
  unfold tokenize
  rw [lexemes, leftLexed, rightLexed, Token.place_append, Token.map_shift_place, Nat.add_comm]

/-- A token by its number: where it starts and where it ends. -/
theorem getElem_tokenize {text : List Char} {i : Nat} (bound : i < (tokenize text).length) :
    (tokenize text)[i].start = (Lexeme.spelling ((Lexer.lex text).take i)).length ∧
    (tokenize text)[i].stop = (Lexeme.spelling ((Lexer.lex text).take (i + 1))).length := by
  have inside : i < (Lexer.lex text).length := by
    rwa [tokenize, Token.length_place] at bound
  have behind := Token.drop_place 0 i (Lexer.lex text)
  rw [List.drop_eq_getElem_cons inside, Token.place_cons, Nat.zero_add] at behind
  obtain ⟨here, _⟩ := List.cons.inj ((List.drop_eq_getElem_cons bound).symm.trans behind)
  rw [here]
  refine ⟨rfl, ?_⟩
  rw [← List.take_append_getElem inside, Lexeme.spelling_append, List.length_append,
    Lexeme.spelling_cons, Lexeme.spelling_nil, List.append_nil]
  rfl

private theorem take_front {lexemes : List Lexeme} {i j : Nat} (ordered : i ≤ j) :
    (lexemes.take (j + 1)).take i = lexemes.take i := by
  rw [List.take_take, Nat.min_eq_left (Nat.le_succ_of_le ordered)]

/-- The characters from the start of one token to the end of another are spelled by the lexemes from
the one to the other, and those are what they are split into. -/
theorem lex_slice_tokens {text : List Char} {i j : Nat} (ordered : i ≤ j)
    (bound : j < (tokenize text).length) :
    Lexer.lex (TextRange.slice ⟨(tokenize text)[i].start, (tokenize text)[j].stop⟩ text) =
      ((Lexer.lex text).take (j + 1)).drop i := by
  have parts : Lexer.lex text = (Lexer.lex text).take i ++
      ((Lexer.lex text).take (j + 1)).drop i ++ (Lexer.lex text).drop (j + 1) := by
    rw [← take_front ordered, List.take_append_drop, List.take_append_drop]
  have whole : text = Lexeme.spelling ((Lexer.lex text).take i) ++
      Lexeme.spelling (((Lexer.lex text).take (j + 1)).drop i) ++
      Lexeme.spelling ((Lexer.lex text).drop (j + 1)) := by
    rw [← Lexeme.spelling_append, ← Lexeme.spelling_append, ← parts, Lexer.spelling_lex]
  have stop : (Lexeme.spelling ((Lexer.lex text).take (j + 1))).length =
      (Lexeme.spelling ((Lexer.lex text).take i)).length +
        (Lexeme.spelling (((Lexer.lex text).take (j + 1)).drop i)).length := by
    rw [← List.length_append, ← Lexeme.spelling_append, ← take_front ordered,
      List.take_append_drop]
  have slice := TextRange.slice_middle (Lexeme.spelling ((Lexer.lex text).take i))
    (Lexeme.spelling (((Lexer.lex text).take (j + 1)).drop i))
    (Lexeme.spelling ((Lexer.lex text).drop (j + 1)))
  rw [← whole] at slice
  rw [(getElem_tokenize (Nat.lt_of_le_of_lt ordered bound)).1, (getElem_tokenize bound).2, stop,
    slice]
  exact Lexer.lex_spelling_middle parts

/-- Lexing is local. The text from the start of one token to the end of another is split into the
tokens from the one to the other, up to their place; and where a text is cut between tokens, its
tokens are those of the one part and, moved behind it, those of the other. -/
theorem tokenize_local (text : List Char) :
    (∀ (i j : Nat) (_ : i ≤ j) (_ : j < (tokenize text).length),
      (tokenize (TextRange.slice ⟨(tokenize text)[i].start, (tokenize text)[j].stop⟩ text)).map
          (Token.shift (tokenize text)[i].start) =
        ((tokenize text).take (j + 1)).drop i) ∧
    (∀ offset, IsBoundary text offset →
      tokenize text = tokenize (text.take offset) ++
        (tokenize (text.drop offset)).map (Token.shift offset)) := by
  refine ⟨?_, fun offset boundary => tokenize_split boundary⟩
  intro i j ordered bound
  have start := (getElem_tokenize (Nat.lt_of_le_of_lt ordered bound)).1
  calc
    _ = (Token.place 0 (((Lexer.lex text).take (j + 1)).drop i)).map
          (Token.shift (tokenize text)[i].start) := by
      rw [← lex_slice_tokens ordered bound]
      rfl
    _ = Token.place (Lexeme.spelling ((Lexer.lex text).take i)).length
          (((Lexer.lex text).take (j + 1)).drop i) := by
      rw [Token.map_shift_place, Nat.add_zero, start]
    _ = ((tokenize text).take (j + 1)).drop i := by
      rw [tokenize, Token.take_place, Token.drop_place, Nat.zero_add, take_front ordered]

/-- A comment and the line end behind it, cut out between a number and an open string. -/
theorem tokenize_local_comment :
    (∃ (_ : 1 ≤ 2) (_ : 2 < (tokenize "1e- --b\n'c".toList).length),
      (tokenize (TextRange.slice ⟨(tokenize "1e- --b\n'c".toList)[1].start,
            (tokenize "1e- --b\n'c".toList)[2].stop⟩ "1e- --b\n'c".toList)).map
          (Token.shift (tokenize "1e- --b\n'c".toList)[1].start) =
        ((tokenize "1e- --b\n'c".toList).take 3).drop 1) ∧
    IsBoundary "1e- --b\n'c".toList 7 ∧
    tokenize "1e- --b\n'c".toList = tokenize ("1e- --b\n'c".toList.take 7) ++
      (tokenize ("1e- --b\n'c".toList.drop 7)).map (Token.shift 7) := by
  have bound : 2 < (tokenize "1e- --b\n'c".toList).length := by decide +kernel
  have boundary : IsBoundary "1e- --b\n'c".toList 7 := by decide +kernel
  exact ⟨⟨by decide, bound, (tokenize_local _).1 1 2 (by decide) bound⟩, boundary,
    (tokenize_local _).2 7 boundary⟩

end SqlAssist
