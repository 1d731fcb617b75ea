import SqlAssist.Data.Assoc
import SqlAssist.Highlight

/-!
# Styled text

A `StyledText` is a text for a terminal together with the styles of its ranges. Control characters
that move the cursor of a terminal are left out of it.
-/
namespace SqlAssist

/-- The styles of a theme: what each named style looks like. -/
abbrev Theme := List (String × String)

namespace Theme

/-- The looks that styles have unless they are given others. -/
def default : Theme :=
  [("comment", "dim"), ("string", "red"), ("quoted_identifier", "red"), ("number", "magenta"),
   ("keyword", "bold blue"), ("function", "cyan"), ("json_key", "bold cyan"),
   ("json_string", "red"), ("json_boolean", "yellow"), ("json_null", "dim"),
   ("json_number", "magenta")]

end Theme

/-- A character that a terminal text cannot hold: bell, backspace, vertical tab, form feed or
carriage return. -/
def isTerminalControl (c : Char) : Bool := [7, 8, 11, 12, 13].contains c.toNat

/-- A text as a terminal can show it. -/
def terminalText (text : List Char) : List Char := text.filter (!isTerminalControl ·)

/-- A text with ranges that look in some way. -/
structure StyledText where
  plain : List Char
  spans : List (TextRange × String)
  deriving DecidableEq, Repr

namespace StyledText

/-- A text without styles. -/
def ofText (text : List Char) : StyledText := ⟨terminalText text, []⟩

/-- Gives a range a look. Negative ends count from the end of the text; a range that starts beyond
the text or is empty adds nothing, and one that ends beyond it ends there. -/
def stylize (styled : StyledText) (look : String) (range : TextRange) : StyledText :=
  let length : Int := styled.plain.length
  let fromEnd (offset : Int) : Int := if offset < 0 then offset + length else offset
  let start := fromEnd range.start
  let stop := fromEnd range.stop
  if length ≤ start ∨ stop ≤ start then styled
  else { styled with spans := styled.spans ++ [(⟨start, min length stop⟩, look)] }

/-- Gives a span the look that the theme has for its style, if it has one. -/
def addSpan (theme : Theme) (styled : StyledText) (span : StyledSpan) : StyledText :=
  match Assoc.get? span.style.name theme with
  | some look => if look.isEmpty then styled else styled.stylize look span.range
  | none => styled

/-- A text with the given spans in the looks of a theme. -/
def render (text : List Char) (spans : List StyledSpan) (theme : Theme) : StyledText :=
  spans.foldl (addSpan theme) (ofText text)

end StyledText

end SqlAssist
