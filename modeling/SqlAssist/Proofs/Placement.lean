import SqlAssist.Lexer

/-!
# Tokens tile their text

`Token.place` puts lexemes one after the other, so the tokens of a text cover it from its start to
its end without a gap, and none of them is empty (`Token.Tiles`). Cutting a list of placed tokens
cuts the list of lexemes under it (`Token.place_eq_append`), which is how a fact about tokens comes
down to a fact about the lexemes they were made of.
-/
namespace SqlAssist

/-- The characters of lexemes, one after the other. -/
def Lexeme.spelling (lexemes : List Lexeme) : List Char := lexemes.flatMap (·.text)

namespace Lexeme

@[simp] theorem spelling_nil : spelling [] = [] := rfl

@[simp] theorem spelling_cons (lexeme : Lexeme) (rest : List Lexeme) :
    spelling (lexeme :: rest) = lexeme.text ++ spelling rest := rfl

@[simp] theorem spelling_append (left right : List Lexeme) :
    spelling (left ++ right) = spelling left ++ spelling right :=
  List.flatMap_append

end Lexeme

namespace Lexer

theorem spelling_lex (text : List Char) : Lexeme.spelling (lex text) = text := lex_text text

theorem lex_text_ne_nil {text : List Char} {lexeme : Lexeme} (member : lexeme ∈ lex text) :
    lexeme.text ≠ [] := by
  fun_induction lex text with
  | case1 => cases member
  | case2 c cs ih =>
      rcases List.mem_cons.mp member with rfl | later
      · obtain ⟨rest, hrest⟩ := first_text c cs
        rw [hrest]
        exact List.cons_ne_nil c rest
      · exact ih later

theorem lex_eq_nil_iff {text : List Char} : lex text = [] ↔ text = [] := by
  constructor
  · intro empty
    rw [← spelling_lex text, empty]
    rfl
  · rintro rfl
    rw [lex]

end Lexer

/-! ## Slices at natural offsets -/

theorem TextRange.slice_natCast (start stop : Nat) (text : List Char) :
    TextRange.slice ⟨start, stop⟩ text = (text.take stop).drop start := by
  have hstart : ¬ (start : Int) < 0 := by omega
  have hstop : ¬ (stop : Int) < 0 := by omega
  simp only [slice, place, if_neg hstart, if_neg hstop, Int.toNat_natCast]
  rw [← List.take_eq_take_min]
  rcases Nat.le_total start text.length with inside | outside
  · rw [Nat.min_eq_left inside]
  · -- Both sides drop everything, since no more than the text is left to drop.
    rw [Nat.min_eq_right outside, List.drop_eq_nil_of_le, List.drop_eq_nil_of_le]
    · exact Nat.le_trans (List.length_take_le' ..) outside
    · exact List.length_take_le' ..

theorem TextRange.slice_middle (before middle after : List Char) :
    TextRange.slice ⟨before.length, (before.length + middle.length : Nat)⟩
      (before ++ middle ++ after) = middle := by
  rw [slice_natCast, ← List.length_append, List.take_left, List.drop_left]

namespace Token

/-! ## Placing lexemes -/

/-- The token as many places further on. -/
def shift (offset : Nat) (token : Token) : Token := { token with start := offset + token.start }

@[simp] theorem place_nil (start : Nat) : place start [] = [] := rfl

@[simp] theorem place_cons (start : Nat) (lexeme : Lexeme) (rest : List Lexeme) :
    place start (lexeme :: rest) = ⟨lexeme, start⟩ :: place (start + lexeme.text.length) rest :=
  rfl

theorem place_append (start : Nat) (left right : List Lexeme) :
    place start (left ++ right) =
      place start left ++ place (start + (Lexeme.spelling left).length) right := by
  induction left generalizing start with
  | nil => rfl
  | cons lexeme rest ih =>
      simp only [List.cons_append, place_cons, Lexeme.spelling_cons, List.length_append]
      rw [ih, Nat.add_assoc]

@[simp] theorem map_toLexeme_place (start : Nat) (lexemes : List Lexeme) :
    (place start lexemes).map (·.toLexeme) = lexemes := by
  induction lexemes generalizing start with
  | nil => rfl
  | cons lexeme rest ih => rw [place_cons, List.map_cons, ih]

@[simp] theorem length_place (start : Nat) (lexemes : List Lexeme) :
    (place start lexemes).length = lexemes.length := by
  rw [← List.length_map, map_toLexeme_place]

theorem toLexeme_mem_of_mem_place {start : Nat} {lexemes : List Lexeme} {token : Token}
    (member : token ∈ place start lexemes) : token.toLexeme ∈ lexemes := by
  have lexeme : token.toLexeme ∈ (place start lexemes).map (·.toLexeme) :=
    List.mem_map_of_mem member
  rwa [map_toLexeme_place] at lexeme

/-- Placed tokens lie between the place they start from and the end of what they spell. -/
theorem bounds_of_mem_place {start : Nat} {lexemes : List Lexeme} {token : Token}
    (member : token ∈ place start lexemes) :
    start ≤ token.start ∧ token.stop ≤ start + (Lexeme.spelling lexemes).length := by
  induction lexemes generalizing start with
  | nil => cases member
  | cons lexeme rest ih =>
      rw [Lexeme.spelling_cons, List.length_append]
      rcases List.mem_cons.mp member with rfl | later
      · simp only [stop]
        omega
      · have bounds := ih later
        omega

theorem head?_place (start : Nat) (lexemes : List Lexeme) :
    (place start lexemes).head? = lexemes.head?.map (⟨·, start⟩) := by
  cases lexemes <;> rfl

/-- The last of placed tokens ends where what they spell ends. -/
theorem getLast?_place (start : Nat) {lexemes : List Lexeme} {last : Lexeme}
    (isLast : lexemes.getLast? = some last) :
    ∃ token : Token, (place start lexemes).getLast? = some token ∧ token.toLexeme = last ∧
      token.stop = start + (Lexeme.spelling lexemes).length := by
  obtain ⟨before, rfl⟩ := List.getLast?_eq_some_iff.mp isLast
  refine ⟨⟨last, start + (Lexeme.spelling before).length⟩, ?_, rfl, ?_⟩
  · rw [place_append, place_cons, place_nil, List.getLast?_concat]
  · simp only [stop, Lexeme.spelling_append, Lexeme.spelling_cons, Lexeme.spelling_nil,
      List.append_nil, List.length_append, Nat.add_assoc]

theorem map_shift_place (offset start : Nat) (lexemes : List Lexeme) :
    (place start lexemes).map (shift offset) = place (offset + start) lexemes := by
  induction lexemes generalizing start with
  | nil => rfl
  | cons lexeme rest ih =>
      rw [place_cons, place_cons, List.map_cons, ih, Nat.add_assoc]
      rfl

theorem take_place (start count : Nat) (lexemes : List Lexeme) :
    (place start lexemes).take count = place start (lexemes.take count) := by
  induction lexemes generalizing start count with
  | nil => rw [place_nil, List.take_nil, List.take_nil, place_nil]
  | cons lexeme rest ih =>
      cases count with
      | zero => rfl
      | succ count => rw [place_cons, List.take_succ_cons, List.take_succ_cons, place_cons, ih]

/-- The tokens behind the first ones start where those end. -/
theorem drop_place (start count : Nat) (lexemes : List Lexeme) :
    (place start lexemes).drop count =
      place (start + (Lexeme.spelling (lexemes.take count)).length) (lexemes.drop count) := by
  induction lexemes generalizing start count with
  | nil => rw [place_nil, List.drop_nil, List.drop_nil, place_nil]
  | cons lexeme rest ih =>
      cases count with
      | zero => rfl
      | succ count =>
          rw [place_cons, List.drop_succ_cons, List.drop_succ_cons, List.take_succ_cons,
            Lexeme.spelling_cons, List.length_append, ← Nat.add_assoc, ih]

/-- A cut of placed tokens is a cut of their lexemes. -/
theorem place_eq_append {start : Nat} {lexemes : List Lexeme} {left right : List Token}
    (cut : place start lexemes = left ++ right) :
    ∃ leftLexemes rightLexemes, lexemes = leftLexemes ++ rightLexemes ∧
      left = place start leftLexemes ∧
      right = place (start + (Lexeme.spelling leftLexemes).length) rightLexemes := by
  refine ⟨lexemes.take left.length, lexemes.drop left.length,
    (List.take_append_drop left.length lexemes).symm, ?_, ?_⟩
  · rw [← take_place, cut, List.take_left]
  · rw [← drop_place, cut, List.drop_left]

/-! ## Tiling -/

/-- The tokens cover the offsets from `start` to `stop`: none is empty, and each starts where the
one before it ends. -/
def Tiles (start stop : Nat) : List Token → Prop
  | [] => start = stop
  | token :: rest => token.start = start ∧ start < token.stop ∧ Tiles token.stop stop rest

theorem tiles_place (start : Nat) (lexemes : List Lexeme)
    (inhabited : ∀ lexeme ∈ lexemes, lexeme.text ≠ []) :
    Tiles start (start + (Lexeme.spelling lexemes).length) (place start lexemes) := by
  induction lexemes generalizing start with
  | nil => rfl
  | cons lexeme rest ih =>
      have positive := List.length_pos_iff.mpr (inhabited lexeme List.mem_cons_self)
      refine ⟨rfl, by simp only [stop]; omega, ?_⟩
      have later := ih (start + lexeme.text.length)
        (fun other member => inhabited other (List.mem_cons_of_mem _ member))
      rw [Lexeme.spelling_cons, List.length_append, ← Nat.add_assoc]
      exact later

/-- What the ranges of placed tokens cover, one after the other, is what the lexemes spell.
`before` is the text that the first of them stands behind. -/
theorem flatMap_slice_place (before : List Char) (lexemes : List Lexeme) :
    (place before.length lexemes).flatMap
        (fun token => token.range.slice (before ++ Lexeme.spelling lexemes)) =
      Lexeme.spelling lexemes := by
  induction lexemes generalizing before with
  | nil => rfl
  | cons lexeme rest ih =>
      have here := TextRange.slice_middle before lexeme.text (Lexeme.spelling rest)
      have later := ih (before ++ lexeme.text)
      rw [List.append_assoc] at here later
      rw [List.length_append] at later
      rw [place_cons, List.flatMap_cons, Lexeme.spelling_cons, later]
      exact congrArg (· ++ Lexeme.spelling rest) here

end Token

/-! ## The tokens of a text -/

theorem map_toLexeme_tokenize (text : List Char) :
    (tokenize text).map (·.toLexeme) = Lexer.lex text :=
  Token.map_toLexeme_place 0 (Lexer.lex text)

/-- A token is not empty. -/
theorem start_lt_stop {text : List Char} {token : Token} (member : token ∈ tokenize text) :
    token.start < token.stop := by
  have inhabited := Lexer.lex_text_ne_nil (Token.toLexeme_mem_of_mem_place member)
  have positive := List.length_pos_iff.mpr inhabited
  simp only [Token.stop]
  omega

/-- A token by its number and the lexemes on both sides of it: it starts where those before it
end. -/
theorem exists_lexemes_at {text : List Char} {token : Token} {k : Nat}
    (here : (tokenize text)[k]? = some token) :
    ∃ left right, Lexer.lex text = left ++ token.toLexeme :: right ∧ left.length = k ∧
      token.start = (Lexeme.spelling left).length := by
  obtain ⟨bound, isToken⟩ := List.getElem?_eq_some_iff.mp here
  have cut : tokenize text = (tokenize text).take k ++ token :: (tokenize text).drop (k + 1) := by
    rw [← isToken, ← List.drop_eq_getElem_cons bound, List.take_append_drop]
  obtain ⟨left, right, lexemes, front, placed⟩ := Token.place_eq_append cut
  cases right with
  | nil => cases placed
  | cons lexeme rest =>
      obtain ⟨rfl, _⟩ := List.cons.inj placed
      refine ⟨left, rest, lexemes, ?_, Nat.zero_add _⟩
      rw [← Token.length_place 0 left, ← front, List.length_take]
      omega

theorem exists_lexemes_around {text : List Char} {token : Token} (member : token ∈ tokenize text) :
    ∃ left right, Lexer.lex text = left ++ token.toLexeme :: right ∧
      token.start = (Lexeme.spelling left).length := by
  obtain ⟨k, here⟩ := List.mem_iff_getElem?.mp member
  obtain ⟨left, right, lexemes, _, start⟩ := exists_lexemes_at here
  exact ⟨left, right, lexemes, start⟩

/-- A token covers the characters that it was read from. -/
theorem slice_range {text : List Char} {token : Token} (member : token ∈ tokenize text) :
    token.range.slice text = token.text := by
  obtain ⟨left, right, lexemes, start⟩ := exists_lexemes_around member
  have whole : text = Lexeme.spelling left ++ token.text ++ Lexeme.spelling right := by
    rw [← Lexer.spelling_lex text, lexemes, Lexeme.spelling_append, Lexeme.spelling_cons,
      List.append_assoc]
  have slice := TextRange.slice_middle (Lexeme.spelling left) token.text (Lexeme.spelling right)
  rwa [← whole, ← start] at slice

theorem Token.contains_range_iff {range : TextRange} {token : Token} :
    range.contains token.range = true ↔
      range.start ≤ token.start ∧ (token.stop : Int) ≤ range.stop := by
  simp only [TextRange.contains, Bool.and_eq_true, decide_eq_true_eq]
  exact Iff.rfl

/-- No text is lost, whatever it is: its tokens are not empty and tile it from its start to its end,
there are none only for the empty text, and the characters they cover, in order, are the text. -/
theorem tokenize_lossless (text : List Char) :
    Token.Tiles 0 text.length (tokenize text) ∧
    (tokenize text = [] ↔ text = []) ∧
    (tokenize text).flatMap (fun token => token.range.slice text) = text := by
  refine ⟨?_, ?_, ?_⟩
  · have tiles := Token.tiles_place 0 (Lexer.lex text) (fun _ => Lexer.lex_text_ne_nil)
    rwa [Lexer.spelling_lex, Nat.zero_add] at tiles
  · rw [← Lexer.lex_eq_nil_iff, ← map_toLexeme_tokenize, List.map_eq_nil_iff]
  · have covered := Token.flatMap_slice_place [] (Lexer.lex text)
    rwa [Lexer.spelling_lex, List.nil_append] at covered

end SqlAssist
