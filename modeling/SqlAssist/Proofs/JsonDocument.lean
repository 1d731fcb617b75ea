import SqlAssist.Highlight
import SqlAssist.Proofs.Scanners

/-!
# Documents in JSON

The grammar of JSON as data. A `Value` is a tree, and whatever the grammar leaves to the writer is
part of it: how each character of a string is escaped, how each number is spelled. `Value.pieces`
writes it down piece by piece, and a `Document` puts blanks anywhere between the pieces. The types
carry the conditions of the grammar, so each document is one that the grammar allows.

`Document.spans` is the highlighting that a document should have: one span for each key, string,
truth value, null and number, over the characters of that piece.

What the highlighting goes by are the neighbours of a piece. `Value.sequenced` derives them from the
tree: a colon follows each key and no other piece, and words and numbers stand between blanks and
marks.
-/
namespace SqlAssist

namespace Json

/-! ## Pieces -/

/-- The characters that may stand between pieces. -/
inductive Blank where
  | space
  | tab
  | lineFeed
  | carriageReturn
  deriving DecidableEq, Repr

def Blank.char : Blank → Char
  | .space => ' '
  | .tab => '\t'
  | .lineFeed => '\n'
  | .carriageReturn => '\r'

/-- The characters that hold arrays and objects together. -/
inductive Mark where
  | openArray
  | closeArray
  | openObject
  | closeObject
  | colon
  | comma
  deriving DecidableEq, Repr

def Mark.char : Mark → Char
  | .openArray => '['
  | .closeArray => ']'
  | .openObject => '\x7b'
  | .closeObject => '\x7d'
  | .colon => ':'
  | .comma => ','

/-- A hexadecimal digit in either case. -/
def isHexDigit (c : Char) : Bool :=
  c.isDigit || ('a' ≤ c && c ≤ 'f') || ('A' ≤ c && c ≤ 'F')

/-- A character of a string as it is written: by itself, by a letter behind a backslash, or by the
four digits of its code. Control characters, quotes and backslashes do not stand by themselves. -/
inductive Stroke where
  | plain (c : Char) (printable : ' ' ≤ c) (noQuote : c ≠ '"') (noBackslash : c ≠ '\\')
  | escape (c : Char) (known : c ∈ ['"', '\\', '/', 'b', 'f', 'n', 'r', 't'])
  | code (digits : List Char) (four : digits.length = 4) (hex : ∀ c ∈ digits, isHexDigit c = true)

def Stroke.text : Stroke → List Char
  | .plain c _ _ _ => [c]
  | .escape c _ => ['\\', c]
  | .code digits _ _ => '\\' :: 'u' :: digits

/-- A string between its quotes. -/
def stringText (strokes : List Stroke) : List Char := '"' :: (strokes.flatMap Stroke.text ++ ['"'])

/-- Some decimal digits, at least one. -/
structure Digits where
  chars : List Char
  inhabited : chars ≠ []
  decimal : ∀ c ∈ chars, c.isDigit = true

/-- The exponent of a number. -/
structure Exponent where
  mark : Char
  isMark : mark = 'e' ∨ mark = 'E'
  sign : Option Char
  isSign : ∀ c ∈ sign, c = '+' ∨ c = '-'
  digits : Digits

def Exponent.text (exponent : Exponent) : List Char :=
  exponent.mark :: (exponent.sign.toList ++ exponent.digits.chars)

/-- A number as it is written. A zero does not lead other digits. -/
structure Numeral where
  negative : Bool
  whole : Digits
  noLeadingZero : whole.chars.head? = some '0' → whole.chars = ['0']
  fraction : Option Digits
  exponent : Option Exponent

namespace Numeral

def signText (numeral : Numeral) : List Char := if numeral.negative then ['-'] else []

def fractionText (numeral : Numeral) : List Char :=
  numeral.fraction.elim [] fun digits => '.' :: digits.chars

def exponentText (numeral : Numeral) : List Char :=
  numeral.exponent.elim [] Exponent.text

def unsignedText (numeral : Numeral) : List Char :=
  numeral.whole.chars ++ (numeral.fractionText ++ numeral.exponentText)

def text (numeral : Numeral) : List Char := numeral.signText ++ numeral.unsignedText

end Numeral

/-- A piece of a document: a blank or a token. Keys are told from other strings. -/
inductive Piece where
  | blank (blank : Blank)
  | mark (mark : Mark)
  | key (strokes : List Stroke)
  | string (strokes : List Stroke)
  | bool (value : Bool)
  | null
  | number (numeral : Numeral)

namespace Piece

def isBlank : Piece → Bool
  | .blank _ => true
  | _ => false

/-- The characters of a piece. -/
def text : Piece → List Char
  | .blank gap => [gap.char]
  | .mark sign => [sign.char]
  | .key strokes | .string strokes => stringText strokes
  | .bool value => (if value then "true" else "false").toList
  | .null => "null".toList
  | .number numeral => numeral.text

/-- The style of a piece that is shown in one. -/
def style? : Piece → Option Style
  | .blank _ | .mark _ => none
  | .key _ => some .jsonKey
  | .string _ => some .jsonString
  | .bool _ => some .jsonBoolean
  | .null => some .jsonNull
  | .number _ => some .jsonNumber

end Piece

/-- The characters of pieces one after the other. -/
def spelling (pieces : List Piece) : List Char := pieces.flatMap Piece.text

/-- The spans of pieces from an offset on. -/
def spans : Nat → List Piece → List StyledSpan
  | _, [] => []
  | offset, piece :: rest =>
    let stop := offset + piece.text.length
    (piece.style?.map fun style => ⟨⟨offset, stop⟩, style⟩).toList ++ spans stop rest

/-- The pieces without the blanks. -/
def tokens (pieces : List Piece) : List Piece := pieces.filter (!·.isBlank)

/-! ## Values -/

/-- A value, with the spelling of its strings and numbers. -/
inductive Value where
  | null
  | bool (value : Bool)
  | number (numeral : Numeral)
  | string (strokes : List Stroke)
  | array (items : List Value)
  | object (members : List (List Stroke × Value))

mutual

/-- The tokens of a value. -/
def Value.pieces : Value → List Piece
  | .null => [.null]
  | .bool value => [.bool value]
  | .number numeral => [.number numeral]
  | .string strokes => [.string strokes]
  | .array items => .mark .openArray :: (itemPieces items ++ [.mark .closeArray])
  | .object members => .mark .openObject :: (memberPieces members ++ [.mark .closeObject])

/-- The items of an array with commas between them. -/
def itemPieces : List Value → List Piece
  | [] => []
  | [item] => item.pieces
  | item :: next :: items => item.pieces ++ .mark .comma :: itemPieces (next :: items)

/-- The members of an object with commas between them. -/
def memberPieces : List (List Stroke × Value) → List Piece
  | [] => []
  | [(key, value)] => .key key :: .mark .colon :: value.pieces
  | (key, value) :: next :: members =>
    .key key :: .mark .colon :: (value.pieces ++ .mark .comma :: memberPieces (next :: members))

end

/-- A value with blanks before, between and behind its tokens. -/
structure Document where
  value : Value
  pieces : List Piece
  isSpelled : tokens pieces = value.pieces

namespace Document

def text (document : Document) : List Char := spelling document.pieces

def spans (document : Document) : List StyledSpan := Json.spans 0 document.pieces

end Document

/-! ## Spans -/

@[simp] theorem spelling_nil : spelling [] = [] := rfl

@[simp] theorem spelling_cons (piece : Piece) (rest : List Piece) :
    spelling (piece :: rest) = piece.text ++ spelling rest := List.flatMap_cons

@[simp] theorem spelling_append (left right : List Piece) :
    spelling (left ++ right) = spelling left ++ spelling right := List.flatMap_append

theorem Piece.text_ne_nil (piece : Piece) : piece.text ≠ [] := by
  cases piece with
  | bool value => cases value <;> decide
  | number numeral => simp [Piece.text, Numeral.text, Numeral.unsignedText, numeral.whole.inhabited]
  | blank | mark | key | string | null => exact List.cons_ne_nil _ _

/-- A span is that of a piece with a style. -/
theorem exists_piece {offset : Nat} {pieces : List Piece} {span : StyledSpan}
    (member : span ∈ spans offset pieces) :
    ∃ left piece right style, pieces = left ++ piece :: right ∧ piece.style? = some style ∧
      span = ⟨⟨(offset + (spelling left).length : Nat),
        (offset + (spelling left).length + piece.text.length : Nat)⟩, style⟩ := by
  induction pieces generalizing offset with
  | nil => cases member
  | cons piece rest ih =>
      rcases List.mem_append.mp member with here | later
      · obtain ⟨style, styled, rfl⟩ := Option.map_eq_some_iff.mp (Option.mem_toList.mp here)
        exact ⟨[], piece, rest, style, rfl, styled, rfl⟩
      · obtain ⟨left, other, right, style, rfl, styled, rfl⟩ := ih later
        refine ⟨piece :: left, other, right, style, rfl, styled, ?_⟩
        simp only [spelling_cons, List.length_append, Nat.add_assoc]

/-- The spans lie one behind the other. -/
theorem pairwise_spans (offset : Nat) (pieces : List Piece) :
    (spans offset pieces).Pairwise (·.range.stop ≤ ·.range.start) := by
  induction pieces generalizing offset with
  | nil => exact .nil
  | cons piece rest ih =>
      refine List.pairwise_append.mpr ⟨?_, ih _, ?_⟩
      · cases piece.style? with
        | none => exact .nil
        | some style => exact List.pairwise_singleton _ _
      · intro first here second later
        obtain ⟨style, _, rfl⟩ := Option.map_eq_some_iff.mp (Option.mem_toList.mp here)
        obtain ⟨left, other, right, style', _, _, rfl⟩ := exists_piece later
        dsimp only
        omega

/-! ## Delimiters -/

/-- The characters of blanks and marks. -/
def delimiters : List Char := [' ', '\t', '\n', '\r', '[', ']', '\x7b', '\x7d', ':', ',']

theorem Blank.char_mem_delimiters (blank : Blank) : blank.char ∈ delimiters := by
  cases blank <;> decide

theorem Mark.char_mem_delimiters (mark : Mark) : mark.char ∈ delimiters := by
  cases mark <;> decide

/-- A piece without a style is a delimiter. -/
theorem Piece.exists_delimiter {piece : Piece} (plain : piece.style? = none) :
    ∃ c ∈ delimiters, piece.text = [c] := by
  cases piece with
  | blank gap => exact ⟨_, gap.char_mem_delimiters, rfl⟩
  | mark sign => exact ⟨_, sign.char_mem_delimiters, rfl⟩
  | key | string | bool | null | number => cases plain

/-- Any other character of a document is covered by a span. -/
theorem exists_span {pieces : List Piece} {i : Nat} {c : Char}
    (isChar : (spelling pieces)[i]? = some c) (solid : c ∉ delimiters) (offset : Nat) :
    ∃ span ∈ spans offset pieces,
      span.range.start ≤ (offset + i : Nat) ∧ (offset + i : Nat) < span.range.stop := by
  induction pieces generalizing i offset with
  | nil => cases isChar
  | cons piece rest ih =>
      rw [spelling_cons] at isChar
      by_cases here : i < piece.text.length
      · rw [List.getElem?_append_left here] at isChar
        cases styled : piece.style? with
        | none =>
            obtain ⟨d, member, text⟩ := Piece.exists_delimiter styled
            rw [text] at isChar
            obtain rfl := List.mem_singleton.mp (List.mem_of_getElem? isChar)
            exact absurd member solid
        | some style =>
            refine ⟨⟨⟨offset, (offset + piece.text.length : Nat)⟩, style⟩, ?_, ?_⟩
            · simp [spans, styled]
            · dsimp only
              omega
      · rw [List.getElem?_append_right (by omega)] at isChar
        obtain ⟨span, member, low, high⟩ := ih isChar (offset + piece.text.length)
        refine ⟨span, List.mem_append_right _ member, ?_⟩
        have same : offset + piece.text.length + (i - piece.text.length) = offset + i := by omega
        rw [same] at low high
        exact ⟨low, high⟩

/-! ## Neighbours -/

/-- A value ends before this piece: it is a mark other than the colon, or there is none. -/
def EndsValue (next : Option Piece) : Prop :=
  ∀ piece ∈ next, ∃ mark, piece = .mark mark ∧ mark ≠ .colon

/-- What may follow a token. -/
def Piece.LeadsTo : Piece → Option Piece → Prop
  | .blank _, _ | .mark _, _ => True
  | .key _, next => next = some (.mark .colon)
  | _, next => EndsValue next

/-- Each token may be followed by the next one. -/
def Sequenced : List Piece → Prop
  | [] => True
  | piece :: rest => piece.LeadsTo rest.head? ∧ Sequenced rest

theorem Sequenced.of_append {left right : List Piece} (all : Sequenced (left ++ right)) :
    Sequenced right := by
  induction left with
  | nil => exact all
  | cons piece left ih => exact ih all.2

/-- The tokens may follow a value. -/
def FollowValue (rest : List Piece) : Prop := EndsValue rest.head? ∧ Sequenced rest

theorem followValue_mark {mark : Mark} {rest : List Piece} (other : mark ≠ .colon)
    (later : Sequenced rest) : FollowValue (.mark mark :: rest) := by
  refine ⟨?_, trivial, later⟩
  intro piece isNext
  exact ⟨mark, (Option.some.inj isNext).symm, other⟩

mutual

theorem Value.sequenced {rest : List Piece} (follow : FollowValue rest) :
    (value : Value) → Sequenced (value.pieces ++ rest)
  | .null | .bool _ | .number _ | .string _ => follow
  | .array items => by
      have closing : FollowValue (.mark .closeArray :: rest) :=
        followValue_mark (by decide) follow.2
      rw [Value.pieces, List.cons_append, List.append_assoc]
      exact ⟨trivial, itemPieces_sequenced closing items⟩
  | .object members => by
      have closing : FollowValue (.mark .closeObject :: rest) :=
        followValue_mark (by decide) follow.2
      rw [Value.pieces, List.cons_append, List.append_assoc]
      exact ⟨trivial, memberPieces_sequenced closing members⟩

theorem itemPieces_sequenced {rest : List Piece} (follow : FollowValue rest) :
    (items : List Value) → Sequenced (itemPieces items ++ rest)
  | [] => follow.2
  | [item] => item.sequenced follow
  | item :: next :: items => by
      have more := itemPieces_sequenced follow (next :: items)
      rw [itemPieces, List.append_assoc]
      exact item.sequenced (followValue_mark (by decide) more)

theorem memberPieces_sequenced {rest : List Piece} (follow : FollowValue rest) :
    (members : List (List Stroke × Value)) → Sequenced (memberPieces members ++ rest)
  | [] => follow.2
  | [(_, value)] => ⟨rfl, trivial, value.sequenced follow⟩
  | (_, value) :: next :: members => by
      have more := memberPieces_sequenced follow (next :: members)
      rw [memberPieces, List.cons_append, List.cons_append, List.append_assoc]
      exact ⟨rfl, trivial, value.sequenced (followValue_mark (by decide) more)⟩

end

theorem Document.sequenced (document : Document) : Sequenced (tokens document.pieces) := by
  have follow : FollowValue [] := ⟨fun _ isNext => (nomatch isNext), trivial⟩
  rw [document.isSpelled, ← List.append_nil document.value.pieces]
  exact document.value.sequenced follow

/-- The character, if there is one, is a delimiter. -/
def Delimited (next : Option Char) : Prop := ∀ c ∈ next, c ∈ delimiters

theorem Delimited.any_eq_false {next : Option Char} (delimited : Delimited next) {p : Char → Bool}
    (foreign : delimiters.all (!p ·) = true) : next.any p = false := by
  cases next with
  | none => rfl
  | some c => simpa using List.all_eq_true.mp foreign c (delimited c rfl)

/-- Where a value ends, the text goes on with a delimiter. -/
theorem EndsValue.delimited {pieces : List Piece} (ends : EndsValue (tokens pieces).head?) :
    Delimited (spelling pieces).head? := by
  intro c isNext
  cases pieces with
  | nil => cases isNext
  | cons piece rest =>
      have plain : piece.style? = none := by
        cases isBlank : piece.isBlank with
        | true => cases piece <;> first | rfl | cases isBlank
        | false =>
            obtain ⟨mark, rfl, _⟩ := ends piece (by simp [tokens, isBlank])
            rfl
      obtain ⟨d, member, text⟩ := Piece.exists_delimiter plain
      rw [spelling_cons, text] at isNext
      obtain rfl : d = c := Option.some.inj isNext
      exact member

/-- A piece with a style stands behind a delimiter. -/
theorem Sequenced.delimited {left right : List Piece} {piece : Piece} {style : Style}
    (all : Sequenced (tokens (left ++ piece :: right))) (styled : piece.style? = some style) :
    Delimited (spelling left).getLast? := by
  rcases List.eq_nil_or_concat left with rfl | ⟨front, last, rfl⟩
  · exact fun _ isLast => nomatch isLast
  · have solid : piece.isBlank = false := by cases piece <;> first | rfl | cases styled
    have noMark : ∀ mark, piece ≠ .mark mark := by
      rintro mark rfl
      cases styled
    have plain : last.style? = none := by
      rw [List.concat_eq_append, List.append_assoc, tokens, List.filter_append] at all
      have behind := all.of_append
      cases last with
      | blank | mark => rfl
      | key =>
          have next : (tokens (piece :: right)).head? = some (.mark .colon) := behind.1
          simp only [tokens, List.filter_cons, solid] at next
          exact absurd (Option.some.inj next) (noMark _)
      | string | bool | null | number =>
          have ends : EndsValue (tokens (piece :: right)).head? := behind.1
          obtain ⟨mark, isMark, _⟩ := ends piece (by simp [tokens, solid])
          exact absurd isMark (noMark mark)
    obtain ⟨d, member, text⟩ := Piece.exists_delimiter plain
    intro c isLast
    rw [List.concat_eq_append, spelling_append, spelling_cons, text] at isLast
    obtain rfl : d = c := by simpa using isLast
    exact member

end Json

end SqlAssist
