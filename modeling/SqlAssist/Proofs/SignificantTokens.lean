import SqlAssist.Proofs.SealedRuns

/-!
# The column list on significant tokens

The search for a column list works on all tokens of a text and passes over white space and comments
in several places. `columnList?_significant` says what it finds in terms of the significant tokens
alone: behind `SELECT` and at most one `DISTINCT` there is a first `FROM` at depth zero (`FromAt`),
and the list is all that comes before it (`LocatedAt`).

* **trivia** — the search finds the same without them (`ofTokens?_significant`);
* **scan** — on what is left, the scan stops at the first `FROM` at depth zero
  (`beforeFrom?_eq_some_iff`);
* **order** — each token ends before the next one starts (`Token.pairwise_place`), which gives the
  bounds of the range and which tokens lie in it.
-/
namespace SqlAssist

/-! ## The order of tokens -/

theorem Token.pairwise_place (start : Nat) (lexemes : List Lexeme) :
    (place start lexemes).Pairwise (fun a b => a.stop ≤ b.start) := by
  induction lexemes generalizing start with
  | nil => exact .nil
  | cons lexeme rest ih =>
      refine List.pairwise_cons.mpr ⟨?_, ih _⟩
      intro token member
      exact (bounds_of_mem_place member).1

theorem pairwise_significant (text : List Char) :
    (significant (tokenize text)).Pairwise (fun a b => a.stop ≤ b.start) :=
  (Token.pairwise_place 0 (Lexer.lex text)).filter _

theorem Token.stop_le_start {tokens : List Token} {i j : Nat} {a b : Token}
    (ordered : tokens.Pairwise (fun a b => a.stop ≤ b.start)) (first : tokens[i]? = some a)
    (second : tokens[j]? = some b) (earlier : i < j) : a.stop ≤ b.start := by
  obtain ⟨bound, rfl⟩ := List.getElem?_eq_some_iff.mp first
  obtain ⟨bound', rfl⟩ := List.getElem?_eq_some_iff.mp second
  exact List.pairwise_iff_getElem.mp ordered i j bound bound' earlier

namespace ColumnList

/-! ## The specification -/

/-- The parenthesis depth behind a token, if it is `depth` before it. It does not go below zero. -/
def level (depth : Nat) (token : Token) : Nat :=
  match token.kind with
  | .leftParen => depth + 1
  | .rightParen => depth - 1
  | _ => depth

/-- The parenthesis depth behind tokens, if it is `depth` before them. -/
def depthBehind (depth : Nat) (tokens : List Token) : Nat := tokens.foldl level depth

/-- The tokens start with `SELECT`, and `rest` is what follows it, or what follows the `DISTINCT`
that is next to it. -/
def FollowsSelect (tokens rest : List Token) : Prop :=
  ∃ select more, tokens = select :: more ∧ select.isKeyword "SELECT" = true ∧
    ((∃ distinct, more = distinct :: rest ∧ distinct.isKeyword "DISTINCT" = true) ∨
      more = rest ∧ ∀ first ∈ more.head?, first.isKeyword "DISTINCT" = false)

/-- A `FROM` stands at the position, and the depth is zero there if it is `depth` before the
tokens. -/
def FromAt (depth : Nat) (tokens : List Token) (position : Nat) : Prop :=
  ∃ token, tokens[position]? = some token ∧ token.isKeyword "FROM" = true ∧
    depthBehind depth (tokens.take position) = 0

/-- The range reaches over the tokens before the position, where the first `FROM` at depth zero
stands. -/
structure LocatedAt (tokens : List Token) (position : Nat) (range : TextRange) : Prop where
  positive : 1 ≤ position
  isFrom : FromAt 0 tokens position
  isFirst : ∀ earlier < position, ¬ FromAt 0 tokens earlier
  bounds : Token.Bounds tokens 0 (position - 1) range

/-! ## Trivia do not count -/

theorem significant_cons_of_isTrivia {token : Token} (trivia : token.isTrivia = true)
    (rest : List Token) : significant (token :: rest) = significant rest := by
  simp [significant, trivia]

theorem significant_cons_of_not_isTrivia {token : Token} (counts : token.isTrivia = false)
    (rest : List Token) : significant (token :: rest) = token :: significant rest := by
  simp [significant, counts]

/-- Tokens without the trivia at their start have a solid first one, or there are none. -/
theorem skipTrivia_cases (tokens : List Token) :
    (skipTrivia tokens = [] ∧ significant tokens = []) ∨
      ∃ first rest, skipTrivia tokens = first :: rest ∧ first.isTrivia = false ∧
        significant tokens = first :: significant rest := by
  induction tokens with
  | nil => exact .inl ⟨rfl, rfl⟩
  | cons token rest ih =>
      cases trivia : token.isTrivia with
      | true =>
          have skipped : skipTrivia (token :: rest) = skipTrivia rest := by
            simp [skipTrivia, trivia]
          rw [skipped, significant_cons_of_isTrivia trivia]
          exact ih
      | false =>
          refine .inr ⟨token, rest, ?_, trivia, significant_cons_of_not_isTrivia trivia rest⟩
          simp [skipTrivia, trivia]

theorem significant_skipTrivia (tokens : List Token) :
    significant (skipTrivia tokens) = significant tokens := by
  rcases skipTrivia_cases tokens with ⟨skipped, solids⟩ | ⟨first, rest, skipped, counts, solids⟩
  · rw [skipped, solids]
    rfl
  · rw [skipped, solids, significant_cons_of_not_isTrivia counts]

theorem head?_skipTrivia (tokens : List Token) :
    (skipTrivia tokens).head? = (significant tokens).head? := by
  rcases skipTrivia_cases tokens with ⟨skipped, solids⟩ | ⟨first, rest, skipped, _, solids⟩
  · rw [skipped, solids]
  · rw [skipped, solids]
    rfl

theorem isTrivia_of_mem_significant {tokens : List Token} {token : Token}
    (member : token ∈ significant tokens) : token.isTrivia = false := by
  simpa using (List.mem_filter.mp member).2

theorem skipTrivia_significant (tokens : List Token) :
    skipTrivia (significant tokens) = significant tokens := by
  cases solids : significant tokens with
  | nil => rfl
  | cons first rest =>
      have member : first ∈ significant tokens := by simp [solids]
      simp [skipTrivia, isTrivia_of_mem_significant member]

theorem skipTrivia_of_solid {tokens : List Token}
    (solid : ∀ token ∈ tokens, token.isTrivia = false) : skipTrivia tokens = tokens := by
  have kept : significant tokens = tokens := by
    rw [significant, List.filter_eq_self]
    intro token member
    simp [solid token member]
  rw [← kept, skipTrivia_significant]

theorem beforeFrom?_step (depth : Nat) (token : Token) (rest : List Token) :
    beforeFrom? depth (token :: rest) =
      if depth = 0 ∧ token.isKeyword "FROM" = true then some []
      else (token :: ·) <$> beforeFrom? (level depth token) rest := by
  by_cases ends : depth = 0 ∧ token.isKeyword "FROM" = true
  · have kind := kind_of_isKeyword ends.2
    simp [beforeFrom?, kind, ends]
  · rw [beforeFrom?, if_neg ends, level]
    split
    · simp_all
    split
    · simp_all
    · rename_i left right
      cases kind : token.kind <;> simp_all

/-- The scan for `FROM` passes over trivia. -/
theorem beforeFrom?_significant (depth : Nat) (tokens : List Token) :
    beforeFrom? depth (significant tokens) = (beforeFrom? depth tokens).map significant := by
  induction tokens generalizing depth with
  | nil => rfl
  | cons token rest ih =>
      cases trivia : token.isTrivia with
      | true =>
          have unmoved := step?_of_isTrivia depth trivia
          rw [significant_cons_of_isTrivia trivia, beforeFrom?_cons, unmoved, ih]
          simp only [Option.map_eq_map, Option.map_map]
          congr 1
          funext found
          exact (significant_cons_of_isTrivia trivia found).symm
      | false =>
          rw [significant_cons_of_not_isTrivia trivia, beforeFrom?_step, beforeFrom?_step]
          split
          · rfl
          · rw [ih]
            simp only [Option.map_eq_map, Option.map_map]
            congr 1
            funext found
            exact (significant_cons_of_not_isTrivia trivia found).symm

/-- Trivia at the end of a list, or inside of it, do not change where it reaches. -/
theorem extent?_significant {tokens : List Token}
    (begins : ∀ first ∈ tokens.head?, first.isTrivia = false) :
    extent? (significant tokens) = extent? tokens := by
  have head : (significant tokens).head? = tokens.head? := by
    cases tokens with
    | nil => rfl
    | cons first rest => rw [significant_cons_of_not_isTrivia (begins first rfl)]; rfl
  have last : (skipTrivia (significant tokens).reverse).head? =
      (skipTrivia tokens.reverse).head? := by
    simp [head?_skipTrivia, significant, List.filter_reverse, List.filter_filter]
  rw [extent?, extent?, head, last]

/-- What comes before the `FROM` starts as the tokens do, or there is nothing before it. -/
theorem head?_beforeFrom? {depth : Nat} {tokens found : List Token}
    (scanned : beforeFrom? depth tokens = some found) :
    ∀ first ∈ found.head?, tokens.head? = some first := by
  cases tokens with
  | nil => cases scanned
  | cons token rest =>
      rw [beforeFrom?_step] at scanned
      split at scanned
      · cases scanned
        exact fun _ member => by cases member
      · obtain ⟨later, _, rfl⟩ := Option.map_eq_some_iff.mp scanned
        intro first member
        exact member

theorem scan_significant {tokens : List Token}
    (begins : ∀ first ∈ tokens.head?, first.isTrivia = false) :
    (beforeFrom? 0 (significant tokens)).bind extent? = (beforeFrom? 0 tokens).bind extent? := by
  rw [beforeFrom?_significant]
  cases scanned : beforeFrom? 0 tokens with
  | none => rfl
  | some found =>
      refine extent?_significant fun first member => begins first ?_
      exact head?_beforeFrom? scanned first member

theorem skipKeyword_significant (word : String) (tokens : List Token) :
    skipKeyword word (significant tokens) = significant (skipKeyword word (skipTrivia tokens)) := by
  rcases skipTrivia_cases tokens with ⟨skipped, solids⟩ | ⟨first, rest, skipped, counts, solids⟩
  · rw [skipped, solids]
    rfl
  · rw [skipped, solids, skipKeyword, skipKeyword]
    split
    · rfl
    · rw [significant_cons_of_not_isTrivia counts]

/-- The search finds the same without white space and comments. -/
theorem ofTokens?_significant (tokens : List Token) :
    ofTokens? (significant tokens) = ofTokens? tokens := by
  rw [ofTokens?, ofTokens?, skipTrivia_significant]
  rcases skipTrivia_cases tokens with ⟨skipped, solids⟩ | ⟨first, rest, skipped, _, solids⟩
  · rw [skipped, solids]
  · rw [skipped, solids]
    show (if _ then _ else _) = (if _ then _ else _)
    rw [skipTrivia_significant, skipKeyword_significant, skipTrivia_significant,
      ← significant_skipTrivia, scan_significant]
    intro first member
    rw [head?_skipTrivia] at member
    exact isTrivia_of_mem_significant (List.mem_of_head? member)

/-! ## The scan stops at the first `FROM` at depth zero -/

theorem fromAt_zero {depth : Nat} {token : Token} {rest : List Token} :
    FromAt depth (token :: rest) 0 ↔ depth = 0 ∧ token.isKeyword "FROM" = true := by
  simp [FromAt, depthBehind, and_comm]

theorem fromAt_succ {depth position : Nat} {token : Token} {rest : List Token} :
    FromAt depth (token :: rest) (position + 1) ↔ FromAt (level depth token) rest position := by
  simp [FromAt, depthBehind]

theorem not_fromAt_nil (depth position : Nat) : ¬ FromAt depth [] position := by
  simp [FromAt]

theorem beforeFrom?_eq_some_iff {depth : Nat} {tokens found : List Token} :
    beforeFrom? depth tokens = some found ↔
      ∃ position, FromAt depth tokens position ∧
        (∀ earlier < position, ¬ FromAt depth tokens earlier) ∧
        found = tokens.take position := by
  induction tokens generalizing depth found with
  | nil => simp [beforeFrom?, not_fromAt_nil]
  | cons token rest ih =>
      rw [beforeFrom?_step]
      by_cases ends : depth = 0 ∧ token.isKeyword "FROM" = true
      · rw [if_pos ends]
        have isFrom : FromAt depth (token :: rest) 0 := fromAt_zero.mpr ends
        constructor
        · rintro here
          obtain rfl := Option.some.inj here
          exact ⟨0, isFrom, fun earlier before => absurd before (Nat.not_lt_zero earlier), rfl⟩
        · rintro ⟨position, _, isFirst, rfl⟩
          have here : position = 0 := by
            by_contra later
            exact isFirst 0 (by omega) isFrom
          rw [here, List.take_zero]
      · rw [if_neg ends]
        simp only [Option.map_eq_map, Option.map_eq_some_iff, ih]
        constructor
        · rintro ⟨_, ⟨position, isFrom, isFirst, rfl⟩, rfl⟩
          refine ⟨position + 1, fromAt_succ.mpr isFrom, ?_, rfl⟩
          intro earlier before isFrom
          cases earlier with
          | zero => exact ends (fromAt_zero.mp isFrom)
          | succ earlier => exact isFirst earlier (by omega) (fromAt_succ.mp isFrom)
        · rintro ⟨position, isFrom, isFirst, rfl⟩
          cases position with
          | zero => exact absurd (fromAt_zero.mp isFrom) ends
          | succ position =>
              refine ⟨_, ⟨position, fromAt_succ.mp isFrom, ?_, rfl⟩, rfl⟩
              intro earlier before isFrom
              exact isFirst (earlier + 1) (by omega) (fromAt_succ.mpr isFrom)

/-- Where all tokens count, a list reaches from its first token to its last one. -/
theorem extent?_eq_some_iff {tokens : List Token} (solid : ∀ token ∈ tokens, token.isTrivia = false)
    {range : TextRange} :
    extent? tokens = some range ↔ tokens ≠ [] ∧
      Token.Bounds tokens 0 (tokens.length - 1) range := by
  have trimmed : (skipTrivia tokens.reverse).head? = tokens[tokens.length - 1]? := by
    rw [skipTrivia_of_solid fun token member => solid token (List.mem_reverse.mp member),
      List.head?_reverse, List.getLast?_eq_getElem?]
  rw [extent?, trimmed, List.head?_eq_getElem?]
  cases tokens with
  | nil => simp [Token.Bounds]
  | cons first rest =>
      obtain ⟨last, isLast⟩ : ∃ last, (first :: rest)[(first :: rest).length - 1]? = some last := by
        rw [← List.getLast?_eq_getElem?]
        exact ⟨_, List.getLast?_eq_some_getLast (List.cons_ne_nil first rest)⟩
      simp [Token.Bounds, eq_comm]

/-- The words of the opening stand before the rest. -/
theorem FollowsSelect.exists_opening {tokens rest : List Token}
    (follows : FollowsSelect tokens rest) :
    ∃ select opening, tokens = select :: opening ++ rest := by
  obtain ⟨select, more, rfl, _, ⟨distinct, rfl, _⟩ | ⟨rfl, _⟩⟩ := follows
  · exact ⟨select, [distinct], rfl⟩
  · exact ⟨select, [], rfl⟩

/-- The tokens behind the opening words are what the search takes for them. -/
theorem followsSelect_iff {select : Token} {more rest : List Token} :
    FollowsSelect (select :: more) rest ↔
      select.isKeyword "SELECT" = true ∧ skipKeyword "DISTINCT" more = rest := by
  constructor
  · rintro ⟨_, _, whole, isSelect, opening⟩
    obtain ⟨rfl, rfl⟩ := List.cons.inj whole
    refine ⟨isSelect, ?_⟩
    rcases opening with ⟨distinct, rfl, isDistinct⟩ | ⟨rfl, plain⟩
    · rw [skipKeyword, if_pos isDistinct]
    · cases more with
      | nil => rfl
      | cons first tail => rw [skipKeyword, if_neg (by simp [plain first rfl])]
  · rintro ⟨isSelect, rfl⟩
    refine ⟨select, more, rfl, isSelect, ?_⟩
    cases more with
    | nil => exact .inr ⟨rfl, fun _ member => by cases member⟩
    | cons first tail =>
        by_cases isDistinct : first.isKeyword "DISTINCT" = true
        · exact .inl ⟨first, by rw [skipKeyword, if_pos isDistinct], isDistinct⟩
        · refine .inr ⟨by rw [skipKeyword, if_neg isDistinct], ?_⟩
          intro other member
          obtain rfl : first = other := Option.some.inj member
          simpa using isDistinct

/-- The first tokens of a list reach from the first of it to the last of them. -/
theorem extent?_take {tokens : List Token} (solid : ∀ token ∈ tokens, token.isTrivia = false)
    {position : Nat} (inside : position ≤ tokens.length) {range : TextRange} :
    extent? (tokens.take position) = some range ↔
      1 ≤ position ∧ Token.Bounds tokens 0 (position - 1) range := by
  have length : (tokens.take position).length = position := by
    rw [List.length_take]
    omega
  rw [extent?_eq_some_iff fun token member => solid token (List.mem_of_mem_take member), length]
  by_cases positive : 1 ≤ position
  · have inhabited : tokens.take position ≠ [] := by
      rw [← List.length_pos_iff, length]
      exact positive
    have first : (tokens.take position)[0]? = tokens[0]? := List.getElem?_take_of_lt (by omega)
    have last : (tokens.take position)[position - 1]? = tokens[position - 1]? :=
      List.getElem?_take_of_lt (by omega)
    simp [inhabited, positive, Token.Bounds, first, last]
  · obtain rfl : position = 0 := by omega
    simp

/-- The scan and the range of what it finds, on tokens that all count. -/
theorem scan_eq_some_iff {tokens : List Token} (solid : ∀ token ∈ tokens, token.isTrivia = false)
    {range : TextRange} :
    (beforeFrom? 0 tokens).bind extent? = some range ↔
      ∃ position, LocatedAt tokens position range := by
  have inside : ∀ {position}, FromAt 0 tokens position → position ≤ tokens.length := by
    rintro position ⟨word, isWord, _⟩
    obtain ⟨bound, _⟩ := List.getElem?_eq_some_iff.mp isWord
    omega
  rw [Option.bind_eq_some_iff]
  constructor
  · rintro ⟨found, scanned, extent⟩
    obtain ⟨position, isFrom, isFirst, rfl⟩ := beforeFrom?_eq_some_iff.mp scanned
    obtain ⟨positive, bounds⟩ := (extent?_take solid (inside isFrom)).mp extent
    exact ⟨position, positive, isFrom, isFirst, bounds⟩
  · rintro ⟨position, positive, isFrom, isFirst, bounds⟩
    exact ⟨_, beforeFrom?_eq_some_iff.mpr ⟨position, isFrom, isFirst, rfl⟩,
      (extent?_take solid (inside isFrom)).mpr ⟨positive, bounds⟩⟩

/-- The search on tokens that all count. -/
theorem ofTokens?_eq_some_iff {tokens : List Token}
    (solid : ∀ token ∈ tokens, token.isTrivia = false) {range : TextRange} :
    ofTokens? tokens = some range ↔
      ∃ rest position, FollowsSelect tokens rest ∧ LocatedAt rest position range := by
  rw [ofTokens?, skipTrivia_of_solid solid]
  cases tokens with
  | nil => simp [FollowsSelect]
  | cons select more =>
      simp only [followsSelect_iff]
      by_cases isSelect : select.isKeyword "SELECT" = true
      · have moreSolid : ∀ token ∈ more, token.isTrivia = false :=
          fun token member => solid token (List.mem_cons_of_mem select member)
        have restSolid : ∀ token ∈ skipKeyword "DISTINCT" more, token.isTrivia = false := by
          obtain ⟨_, _, whole⟩ := (followsSelect_iff.mpr ⟨isSelect, rfl⟩).exists_opening
          intro token member
          apply solid
          rw [whole]
          exact List.mem_append_right _ member
        simp [isSelect, skipTrivia_of_solid moreSolid, skipTrivia_of_solid restSolid,
          scan_eq_some_iff restSolid]
      · simp [isSelect]

end ColumnList

open ColumnList

/-! ## Texts -/

section

variable {text : List Char} {rest : List Token} {position : Nat} {range : TextRange}
  (follows : FollowsSelect (significant (tokenize text)) rest)

include follows

theorem mem_tokenize_of_follows {token : Token} (member : token ∈ rest) :
    token ∈ tokenize text := by
  obtain ⟨select, opening, whole⟩ := follows.exists_opening
  have counts : token ∈ significant (tokenize text) := by
    rw [whole]
    exact List.mem_append_right _ member
  exact (List.mem_filter.mp counts).1

theorem pairwise_of_follows : rest.Pairwise (fun a b => a.stop ≤ b.start) := by
  obtain ⟨select, opening, whole⟩ := follows.exists_opening
  have ordered := pairwise_significant text
  rw [whole, List.pairwise_append] at ordered
  exact ordered.2.1

/-- A significant token is one of the rest, or it ends before all of the rest start. -/
theorem mem_or_before {token : Token} (member : token ∈ significant (tokenize text)) :
    token ∈ rest ∨ ∀ other ∈ rest, token.stop ≤ other.start := by
  obtain ⟨select, opening, whole⟩ := follows.exists_opening
  have ordered := pairwise_significant text
  rw [whole] at member ordered
  rw [List.pairwise_append] at ordered
  rcases List.mem_append.mp member with inOpening | inRest
  · exact .inr (ordered.2.2 token inOpening)
  · exact .inl inRest

theorem start_pos_of_follows {token : Token} (member : token ∈ rest) : 0 < token.start := by
  obtain ⟨select, opening, whole⟩ := follows.exists_opening
  have isSelect : select ∈ significant (tokenize text) := by
    rw [whole]
    exact List.mem_append_left _ List.mem_cons_self
  have ordered := pairwise_significant text
  rw [whole, List.pairwise_append] at ordered
  have before : select.stop ≤ token.start := ordered.2.2 select List.mem_cons_self token member
  have inhabited := start_lt_stop (List.mem_filter.mp isSelect).1
  omega

/-- The range starts behind the opening, holds a token and ends before the `FROM`. -/
theorem ColumnList.LocatedAt.within (located : LocatedAt rest position range) :
    0 < range.start ∧ range.start < range.stop ∧ range.stop < text.length := by
  obtain ⟨positive, ⟨word, isWord, _⟩, _, first, last, isFirst, isLast, rfl⟩ := located
  have ordered := pairwise_of_follows follows
  have start := start_pos_of_follows follows (List.mem_of_getElem? isFirst)
  have member := mem_tokenize_of_follows follows (List.mem_of_getElem? isWord)
  have beforeWord := Token.stop_le_start ordered isLast isWord (by omega)
  have wordInhabited := start_lt_stop member
  have wordInside := (Token.bounds_of_mem_place member).2
  rw [Lexer.spelling_lex] at wordInside
  have inhabited : first.start < last.stop := by
    have firstInhabited :=
      start_lt_stop (mem_tokenize_of_follows follows (List.mem_of_getElem? isFirst))
    have lastInhabited :=
      start_lt_stop (mem_tokenize_of_follows follows (List.mem_of_getElem? isLast))
    by_cases single : position - 1 = 0
    · rw [single, isFirst] at isLast
      obtain rfl := Option.some.inj isLast
      exact firstInhabited
    · have apart := Token.stop_le_start ordered isFirst isLast (by omega)
      omega
  refine ⟨?_, ?_, ?_⟩ <;> simp only <;> omega

/-- A `FROM` in the range is not at depth zero. -/
theorem ColumnList.LocatedAt.depth_of_from (located : LocatedAt rest position range) {token : Token}
    (member : token ∈ tokenize text) (inside : range.contains token.range = true)
    (keyword : token.isKeyword "FROM" = true) :
    ∃ k, rest[k]? = some token ∧ depthBehind 0 (rest.take k) ≠ 0 := by
  obtain ⟨positive, _, earlier, first, last, isFirst, isLast, rfl⟩ := located
  rw [Token.contains_range_iff] at inside
  simp only at inside
  have inhabited := start_lt_stop member
  have counts : token ∈ significant (tokenize text) := by
    rw [significant, List.mem_filter]
    exact ⟨member, by simp [isTrivia_of_isKeyword keyword]⟩
  have inRest : token ∈ rest := by
    rcases mem_or_before follows counts with inRest | before
    · exact inRest
    · have apart := before first (List.mem_of_getElem? isFirst)
      omega
  obtain ⟨k, here⟩ := List.mem_iff_getElem?.mp inRest
  refine ⟨k, here, fun level => earlier k ?_ ⟨token, here, keyword, level⟩⟩
  by_contra behind
  have apart := Token.stop_le_start (pairwise_of_follows follows) isLast here (by omega)
  omega

end

/-- Where the column list is, said on the significant tokens of a text. They start with `SELECT`,
and behind it and the `DISTINCT` that is next to it, if there is one, a first `FROM` at depth zero
has tokens before it: the list is the range from the first to the last of these, and in every other
case there is none. The range lies inside of the text, and each `FROM` in it is inside of
parentheses. -/
theorem columnList?_significant (text : List Char) :
    (∀ range, columnList? text = some range ↔
      ∃ rest position, FollowsSelect (significant (tokenize text)) rest ∧
        LocatedAt rest position range) ∧
    (∀ range, columnList? text = some range →
      0 < range.start ∧ range.start < range.stop ∧ range.stop < text.length ∧
      ∃ rest, FollowsSelect (significant (tokenize text)) rest ∧
        ∀ token ∈ tokenize text, range.contains token.range = true → token.isKeyword "FROM" = true →
          ∃ position, rest[position]? = some token ∧ depthBehind 0 (rest.take position) ≠ 0) := by
  have specified : ∀ range, columnList? text = some range ↔
      ∃ rest position, FollowsSelect (significant (tokenize text)) rest ∧
        LocatedAt rest position range := by
    intro range
    rw [columnList?, ← ofTokens?_significant]
    exact ofTokens?_eq_some_iff fun _ => isTrivia_of_mem_significant
  refine ⟨specified, ?_⟩
  intro range found
  obtain ⟨rest, position, follows, located⟩ := (specified range).mp found
  obtain ⟨start, inhabited, stop⟩ := located.within follows
  exact ⟨start, inhabited, stop, rest, follows,
    fun token member inside keyword => located.depth_of_from follows member inside keyword⟩

/-- Comments in every gap, a parenthesis that closes nothing, and a `FROM` inside of others. -/
theorem columnList?_significant_nested :
    let text := "/**/select--\n distinct ) /**/ , ((from)) -- from\n from t".toList
    columnList? text = some ⟨23, 40⟩ ∧ ((0 : Int) < 23 ∧ (23 : Int) < 40 ∧
      (40 : Int) < text.length) ∧
    ∃ rest, FollowsSelect (significant (tokenize text)) rest ∧
      ∃ position, rest[position]? = some ⟨⟨.keyword, "from".toList⟩, 34⟩ ∧
        depthBehind 0 (rest.take position) ≠ 0 := by
  intro text
  have found : columnList? text = some ⟨23, 40⟩ := by decide +kernel
  have member : ⟨⟨.keyword, "from".toList⟩, 34⟩ ∈ tokenize text := by decide +kernel
  obtain ⟨start, inhabited, stop, rest, follows, inside⟩ := (columnList?_significant text).2 _ found
  exact ⟨found, ⟨start, inhabited, stop⟩, rest, follows, inside _ member (by decide) (by decide)⟩

end SqlAssist
