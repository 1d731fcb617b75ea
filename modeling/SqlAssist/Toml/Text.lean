import SqlAssist.Text.Literal
import SqlAssist.Toml.Lexical

/-!
# Texts in TOML

A text stands between single or double quotes, on one line or, with three quotes, on several.
Between double quotes a backslash starts an escape.

`encode` writes a text between double quotes on one line; `readBasic` reads it back.
-/
namespace SqlAssist.Toml

/-! ## Writing -/

/-- A character as it stands between double quotes. -/
def encodeChar (c : Char) : List Char :=
  if c = '\\' ∨ c = '"' then ['\\', c]
  else if isControl c then '\\' :: 'u' :: Text.hexDigits 4 c.toNat
  else [c]

/-- A text between double quotes. -/
def encode (text : List Char) : List Char := '"' :: text.flatMap encodeChar ++ ['"']

/-! ## Escapes -/

/-- A hexadecimal digit. -/
def isHex (c : Char) : Bool :=
  c.isDigit || ('a' ≤ c && c ≤ 'f') || ('A' ≤ c && c ≤ 'F')

/-- The value of a hexadecimal digit. -/
def hexValue (c : Char) : Nat :=
  if c.isDigit then c.toNat - '0'.toNat
  else if 'a' ≤ c then c.toNat - 'a'.toNat + 10
  else c.toNat - 'A'.toNat + 10

/-- The number that digits stand for in a base. -/
def baseValue (base : Nat) (digits : List Char) : Nat :=
  digits.foldl (fun value c => base * value + hexValue c) 0

/-- The character with the code point in the next `count` hexadecimal digits. -/
def codePoint? (count : Nat) (text : List Char) : Option (List Char × List Char) :=
  let digits := text.take count
  let code := baseValue 16 digits
  if digits.length = count ∧ digits.all isHex ∧ code.isValidChar then
    some ([Char.ofNat code], text.drop count)
  else none

/-- The characters that an escape of one letter stands for. -/
def simpleEscape? : Char → Option Char
  | 'b' => some '\x08'
  | 't' => some '\t'
  | 'n' => some '\n'
  | 'f' => some '\x0c'
  | 'r' => some '\r'
  | '"' => some '"'
  | '\\' => some '\\'
  | _ => none

/-- The end of a line that a backslash joins to the next one. -/
def joinedLine? (text : List Char) : Option (List Char × List Char) :=
  match text.dropWhile isBlank with
  | [] => some ([], [])
  | '\n' :: rest => some ([], rest.dropWhile isSpace)
  | _ => none

/-- The characters that an escape stands for, from after its backslash on. In a text of several
lines the backslash can also join lines. -/
def escape? (multiline : Bool) : List Char → Option (List Char × List Char)
  | [] => none
  | c :: rest =>
    if multiline && isSpace c then joinedLine? (c :: rest)
    else if c = 'u' then codePoint? 4 rest
    else if c = 'U' then codePoint? 8 rest
    else (simpleEscape? c).map fun meaning => ([meaning], rest)

theorem length_dropWhile_le (test : Char → Bool) (text : List Char) :
    (text.dropWhile test).length ≤ text.length :=
  (List.dropWhile_sublist test).length_le

theorem joinedLine?_rest_length {text chars rest : List Char}
    (h : joinedLine? text = some (chars, rest)) : rest.length ≤ text.length := by
  unfold joinedLine? at h
  have hle := length_dropWhile_le isBlank text
  split at h
  · simp at h
    simp [h.2]
  · next tail heq =>
    have := length_dropWhile_le isSpace tail
    rw [heq] at hle
    simp at h hle
    rw [← h.2]
    omega
  · simp at h

theorem codePoint?_rest_length {count : Nat} {text chars rest : List Char}
    (h : codePoint? count text = some (chars, rest)) : rest.length ≤ text.length := by
  simp only [codePoint?] at h
  split at h
  · simp at h
    simp [← h.2]
  · simp at h

theorem escape?_rest_length {multiline : Bool} {text chars rest : List Char}
    (h : escape? multiline text = some (chars, rest)) : rest.length ≤ text.length := by
  cases text with
  | nil => simp [escape?] at h
  | cons c tail =>
    simp only [escape?] at h
    split at h
    · exact joinedLine?_rest_length h
    · split at h
      · have := codePoint?_rest_length h
        simp; omega
      · split at h
        · have := codePoint?_rest_length h
          simp; omega
        · obtain ⟨_, _, hrest⟩ := Option.map_eq_some_iff.1 h
          simp at hrest
          simp [← hrest.2]

/-! ## Reading -/

/-- Whether the text closes a text between the given quotes, which are three on several lines. -/
def closes (quote : Char) (multiline : Bool) (text : List Char) : Bool :=
  (if multiline then [quote, quote, quote] else [quote]).isPrefixOf text

/-- A character that may not stand in a text. -/
def isRefusedIn (multiline : Bool) (c : Char) : Bool := isRefused c && !(multiline && c == '\n')

/-- A text between double quotes, from after the opening ones on. -/
def readBasic (multiline : Bool) : List Char → Read (List Char)
  | [] => .error .malformed
  | c :: rest =>
    if closes '"' multiline (c :: rest) then .ok ([], rest.drop (if multiline then 2 else 0))
    else if c = '\\' then
      match h : escape? multiline rest with
      | some (chars, after) =>
        have := escape?_rest_length h
        (readBasic multiline after).map fun (more, after) => (chars ++ more, after)
      | none => .error .malformed
    else if isRefusedIn multiline c then .error .malformed
    else (readBasic multiline rest).map fun (more, after) => (c :: more, after)
  termination_by text => text.length
  decreasing_by all_goals simp; try omega

/-- A text between single quotes, from after the opening ones on. -/
def readLiteral (multiline : Bool) : List Char → Read (List Char)
  | [] => .error .malformed
  | c :: rest =>
    if closes '\'' multiline (c :: rest) then .ok ([], rest.drop (if multiline then 2 else 0))
    else if isRefusedIn multiline c then .error .malformed
    else (readLiteral multiline rest).map fun (more, after) => (c :: more, after)

/-- Up to two quotes that stand before the closing ones of a text on several lines. -/
def extraQuotes (quote : Char) (found : List Char × List Char) : List Char × List Char :=
  let extra := (found.2.take 2).takeWhile (· == quote)
  (found.1 ++ extra, found.2.drop extra.length)

/-- The text without a line end at its start. -/
def skipLineEnd : List Char → List Char
  | '\n' :: rest => rest
  | rest => rest

/-- A text that starts with the given quote, from that quote on. -/
def readText (quote : Char) (text : List Char) : Read (List Char) :=
  let read (multiline : Bool) (text : List Char) : Read (List Char) :=
    if quote == '"' then readBasic multiline text else readLiteral multiline text
  if closes quote true text then (read true (skipLineEnd (text.drop 3))).map (extraQuotes quote)
  else read false (text.drop 1)

end SqlAssist.Toml
