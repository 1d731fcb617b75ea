/-!
# Characters of TOML

The blanks, line ends, comments and keys of a document in TOML. All readers take the characters that
are left and give back those that are left after them.
-/
namespace SqlAssist.Toml

/-- Why a document cannot be read. -/
inductive Error where
  /-- It is not TOML. -/
  | malformed
  /-- A whole number has too many digits. -/
  | tooManyDigits
  /-- Its values are nested too deep. -/
  | tooDeep
  deriving DecidableEq, Repr

/-- What a reader gives: a value and the characters after it. -/
abbrev Read (α : Type) := Except Error (α × List Char)

/-- A blank within a line. -/
def isBlank (c : Char) : Bool := c == ' ' || c == '\t'

/-- A blank or the end of a line. -/
def isSpace (c : Char) : Bool := isBlank c || c == '\n'

/-- A control character, which a document may hold only as an escape. -/
def isControl (c : Char) : Bool := c.toNat < 32 || c.toNat == 127

/-- A character that no line may hold: a control character other than the tab. -/
def isRefused (c : Char) : Bool := isControl c && c != '\t'

/-- A character of a key without quotes. -/
def isBare (c : Char) : Bool := c.isAlphanum || c == '-' || c == '_'

/-- Skips blanks. -/
def skipBlanks (text : List Char) : List Char := text.dropWhile isBlank

/-- Skips a comment up to the end of its line. -/
def skipComment (text : List Char) : Except Error (List Char) :=
  match text with
  | '#' :: rest =>
    if (rest.takeWhile (· != '\n')).any isRefused then .error .malformed
    else .ok (rest.dropWhile (· != '\n'))
  | _ => .ok text

/-- Skips blanks, line ends and comments; `inComment` tells whether a comment is open. -/
def skipLines (inComment : Bool) : List Char → Except Error (List Char)
  | [] => .ok []
  | c :: rest =>
    if inComment then
      if c == '\n' then skipLines false rest
      else if isRefused c then .error .malformed
      else skipLines true rest
    else if isSpace c then skipLines false rest
    else if c == '#' then skipLines true rest
    else .ok (c :: rest)

/-- The text with plain line ends: a carriage return before a line end is dropped. -/
def plainLines : List Char → List Char
  | '\r' :: '\n' :: rest => '\n' :: plainLines rest
  | c :: rest => c :: plainLines rest
  | [] => []

end SqlAssist.Toml
