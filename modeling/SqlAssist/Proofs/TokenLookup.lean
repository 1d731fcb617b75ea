import Mathlib.Data.List.Find
import Mathlib.Data.List.TakeWhile
import SqlAssist.ErrorPosition
import SqlAssist.Proofs.SignificantTokens

/-!
# The token that an offset leads to

`tokenRangeAt?` looks for the token that covers an offset, and moves on from there if it does not
count. Seen from outside there is no such search: in the text it is the first token that counts and
ends behind the offset, and past the text it is the last one that counts (`targetAt?`).

* **step** — `snapped_cons`: what one token in front does to the search;
* **run** — `snapped_place`: the search through tokens that lie one behind the other;
* **order** — `find?_ordered`: a search for less ends no earlier.
-/
namespace SqlAssist

/-! ## What an offset leads to -/

/-- The token counts, and it ends behind the offset. -/
def Token.isAhead (offset : Int) (token : Token) : Bool := !token.isTrivia && offset < token.stop

/-- The token that an offset leads to: in the text the first one that counts and ends behind the
offset, past the text the last one that counts. Before the text there is none. -/
def targetAt? (offset : Int) (text : List Char) : Option Token :=
  if offset < 0 then none
  else if offset < text.length then (tokenize text).find? (·.isAhead offset)
  else (tokenize text).reverse.find? (!·.isTrivia)

theorem mem_of_targetAt? {offset : Int} {text : List Char} {token : Token}
    (target : targetAt? offset text = some token) :
    token ∈ tokenize text ∧ token.isTrivia = false := by
  unfold targetAt? at target
  split at target
  · cases target
  split at target
  · have ahead := List.find?_some target
    simp only [Token.isAhead, Bool.and_eq_true, Bool.not_eq_true'] at ahead
    exact ⟨List.mem_of_find?_eq_some target, ahead.1⟩
  · have counts := List.find?_some target
    rw [Bool.not_eq_true'] at counts
    exact ⟨List.mem_reverse.mp (List.mem_of_find?_eq_some target), counts⟩

/-! ## The search -/

namespace Token

/-- The token that the search from the one that covers the offset ends at, if one covers it. -/
def snapped (offset : Int) (tokens : List Token) : Option Token :=
  match tokens.dropWhile (!·.covers offset) with
  | [] => none
  | token :: rest => if token.isTrivia then (significant rest).head? else some token

theorem snapped_cons (offset : Int) (token : Token) (rest : List Token) :
    snapped offset (token :: rest) =
      if token.covers offset = true then
        if token.isTrivia then (significant rest).head? else some token
      else snapped offset rest := by
  unfold snapped
  cases covered : token.covers offset with
  | true => simp [covered]
  | false => simp [covered]

theorem covers_iff_lt {token : Token} {offset : Int} (begun : token.start ≤ offset) :
    token.covers offset = true ↔ offset < token.stop := by
  simp only [covers, Bool.and_eq_true, decide_eq_true_eq]
  exact ⟨And.right, fun ends => ⟨begun, ends⟩⟩

/-- Behind the offset a token is ahead if it counts. -/
theorem find?_isAhead_place {offset : Int} {start : Nat} (before : offset < start)
    (lexemes : List Lexeme) :
    (place start lexemes).find? (·.isAhead offset) = (significant (place start lexemes)).head? := by
  rw [significant, List.head?_filter]
  apply List.find?_congr
  intro token member
  have begins := (bounds_of_mem_place member).1
  have ends : offset < token.stop := by
    simp only [stop]
    omega
  rw [isAhead, decide_eq_true ends, Bool.and_true]

/-- The search from an offset on finds the first token that counts and ends behind it. -/
theorem snapped_place {offset : Int} {start : Nat} (begun : start ≤ offset)
    (lexemes : List Lexeme) :
    snapped offset (place start lexemes) = (place start lexemes).find? (·.isAhead offset) := by
  induction lexemes generalizing start with
  | nil => rfl
  | cons lexeme rest ih =>
      rw [place_cons, snapped_cons, List.find?_cons]
      by_cases ends : offset < (start + lexeme.text.length : Nat)
      · -- The token covers the offset, so all tokens behind it lie behind the offset.
        have covered : (⟨lexeme, start⟩ : Token).covers offset = true :=
          (covers_iff_lt begun).mpr ends
        rw [if_pos covered, ← find?_isAhead_place ends, isAhead, stop, decide_eq_true ends]
        cases (⟨lexeme, start⟩ : Token).isTrivia <;> rfl
      · have passed : ¬ (⟨lexeme, start⟩ : Token).covers offset = true :=
          mt (covers_iff_lt begun).mp ends
        rw [if_neg passed, ih (Int.not_lt.mp ends), isAhead, stop, decide_eq_false ends,
          Bool.and_false]

/-- No token covers an offset before all of them or behind all of them. -/
theorem dropWhile_place_outside {offset : Int} {start : Nat} {lexemes : List Lexeme}
    (outside : offset < start ∨ start + (Lexeme.spelling lexemes).length ≤ offset) :
    (place start lexemes).dropWhile (!·.covers offset) = [] := by
  rw [List.dropWhile_eq_nil_iff]
  intro token member
  have bounds := bounds_of_mem_place member
  simp only [covers, Bool.not_eq_true', Bool.and_eq_false_iff, decide_eq_false_iff_not]
  omega

end Token

theorem tokenRangeAt?_eq (offset : Int) (text : List Char) :
    tokenRangeAt? offset text = (targetAt? offset text).map (·.range) := by
  have length : (Lexeme.spelling (Lexer.lex text)).length = text.length := by
    rw [Lexer.spelling_lex]
  by_cases negative : offset < 0
  · have nothing : (tokenize text).dropWhile (!·.covers offset) = [] :=
      Token.dropWhile_place_outside (.inl negative)
    have short : ¬ (text.length : Int) ≤ offset := by omega
    simp only [tokenRangeAt?, nothing, if_neg short, targetAt?, if_pos negative, Option.map_none]
  by_cases inside : offset < text.length
  · have short : ¬ (text.length : Int) ≤ offset := by omega
    rw [targetAt?, if_neg negative, if_pos inside, tokenize, ← Token.snapped_place (by omega),
      ← tokenize]
    cases found : (tokenize text).dropWhile (!·.covers offset) with
    | nil => simp only [tokenRangeAt?, Token.snapped, found, if_neg short, Option.map_none]
    | cons token rest =>
        simp only [tokenRangeAt?, Token.snapped, found]
        split <;> rfl
  · have nothing : (tokenize text).dropWhile (!·.covers offset) = [] :=
      Token.dropWhile_place_outside (.inr (by omega))
    have past : (text.length : Int) ≤ offset := by omega
    simp only [tokenRangeAt?, nothing, if_pos past, targetAt?, if_neg negative, if_neg inside,
      significant, ← List.head?_reverse, ← List.filter_reverse, List.head?_filter]

/-! ## Order -/

/-- In an ordered list, a search for less ends where the other one ends or behind it. -/
theorem find?_ordered {α : Type} {r : α → α → Prop} {p q : α → Bool} {items : List α} {a b : α}
    (ordered : items.Pairwise r) (weaker : ∀ item, q item = true → p item = true)
    (first : items.find? p = some a) (second : items.find? q = some b) : a = b ∨ r a b := by
  obtain ⟨_, front, back, rfl, passed⟩ := List.find?_eq_some_iff_append.mp first
  have fits := weaker b (List.find?_some second)
  rcases List.mem_append.mp (List.mem_of_find?_eq_some second) with early | late
  · have refused := passed b early
    rw [fits] at refused
    cases refused
  rcases List.mem_cons.mp late with same | behind
  · exact .inl same.symm
  · exact .inr ((List.pairwise_cons.mp (List.pairwise_append.mp ordered).2.1).1 b behind)

theorem Token.isAhead_of_le {earlier later : Int} (ordered : earlier ≤ later) (token : Token)
    (ahead : token.isAhead later = true) : token.isAhead earlier = true := by
  simp only [isAhead, Bool.and_eq_true, decide_eq_true_eq] at ahead ⊢
  exact ⟨ahead.1, by omega⟩

/-- The range found at an offset snaps forward. In the text it is that of the first token that
counts and ends behind the offset, past the text that of the last token that counts, and before the
text there is none. So every range found is that of a token that counts, and as the offset moves on
through the text the ranges do not move back; where none is found, none is found from there on. -/
theorem tokenRangeAt?_snaps (text : List Char) :
    (∀ offset, tokenRangeAt? offset text = (targetAt? offset text).map (·.range)) ∧
    (∀ offset range, tokenRangeAt? offset text = some range →
      ∃ token ∈ tokenize text, token.isTrivia = false ∧ range = token.range) ∧
    (∀ earlier later : Int, 0 ≤ earlier → earlier ≤ later → later < text.length →
      (tokenRangeAt? earlier text = none → tokenRangeAt? later text = none) ∧
      ∀ first ∈ tokenRangeAt? earlier text, ∀ next ∈ tokenRangeAt? later text,
        first.start ≤ next.start) := by
  refine ⟨fun offset => tokenRangeAt?_eq offset text, ?_, ?_⟩
  · intro offset range found
    rw [tokenRangeAt?_eq] at found
    obtain ⟨token, target, rfl⟩ := Option.map_eq_some_iff.mp found
    obtain ⟨member, counts⟩ := mem_of_targetAt? target
    exact ⟨token, member, counts, rfl⟩
  · intro earlier later positive ordered inside
    have atOffset : ∀ offset : Int, 0 ≤ offset → offset < text.length →
        tokenRangeAt? offset text = ((tokenize text).find? (·.isAhead offset)).map (·.range) := by
      intro offset low high
      rw [tokenRangeAt?_eq, targetAt?, if_neg (by omega), if_pos high]
    rw [atOffset earlier positive (by omega), atOffset later (by omega) inside]
    have weaker := Token.isAhead_of_le ordered
    constructor
    · intro nothing
      rw [Option.map_eq_none_iff, List.find?_eq_none] at nothing ⊢
      exact fun token member ahead => nothing token member (weaker token ahead)
    · intro first isFirst next isNext
      obtain ⟨a, foundFirst, rfl⟩ := Option.map_eq_some_iff.mp isFirst
      obtain ⟨b, foundNext, rfl⟩ := Option.map_eq_some_iff.mp isNext
      have placed := Token.pairwise_place 0 (Lexer.lex text)
      have nonempty := start_lt_stop (List.mem_of_find?_eq_some foundFirst)
      show (a.start : Int) ≤ b.start
      rcases find?_ordered placed weaker foundFirst foundNext with rfl | behind
      · exact Int.le_refl _
      · omega

/-- From a word and from the comment behind it, and from the last number on, where only a comment is
left. -/
theorem tokenRangeAt?_snaps_comments :
    let text := "a --b\n 12 /*".toList
    (tokenRangeAt? 3 text = some ⟨7, 9⟩ ∧
      ∃ token ∈ tokenize text, token.isTrivia = false ∧ (⟨7, 9⟩ : TextRange) = token.range) ∧
    (tokenRangeAt? 0 text = some ⟨0, 1⟩ ∧ (⟨0, 1⟩ : TextRange).start ≤ (⟨7, 9⟩ : TextRange).start) ∧
    tokenRangeAt? 9 text = none ∧ tokenRangeAt? 11 text = none := by
  intro text
  obtain ⟨_, isToken, ordered⟩ := tokenRangeAt?_snaps text
  have onWord : tokenRangeAt? 0 text = some ⟨0, 1⟩ := by decide +kernel
  have onComment : tokenRangeAt? 3 text = some ⟨7, 9⟩ := by decide +kernel
  have nothing : tokenRangeAt? 9 text = none := by decide +kernel
  exact ⟨⟨onComment, isToken 3 _ onComment⟩,
    ⟨onWord, (ordered 0 3 (by decide) (by decide) (by decide)).2 _ onWord _ onComment⟩,
    nothing, (ordered 9 11 (by decide) (by decide) (by decide)).1 nothing⟩

end SqlAssist
