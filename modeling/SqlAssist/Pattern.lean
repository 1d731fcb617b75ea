import SqlAssist.Text.Digit
import SqlAssist.TextRange

/-!
# Patterns

A small language of patterns over characters, with a backtracking matcher. A pattern matches at a
`Site` of a text in an order of preference: alternatives from left to right, repetitions as often as
possible (`many`, `repeated`) or as seldom as possible (`few`). `run` hands each end to the rest of
the match in that order and keeps the first that succeeds.

`findAll` lists the matches of a text from left to right; each search goes on where the last match
ended.
-/
namespace SqlAssist

/-- A place of a text: its offset, the character before it and the characters from it on. -/
structure Site where
  offset : Nat
  before : Option Char
  rest : List Char
  deriving DecidableEq, Repr

/-- A pattern over characters. -/
inductive Pattern where
  /-- Matches without any character. -/
  | empty
  /-- One character of a class. -/
  | one (test : Char → Bool)
  /-- Any number of characters of a class, preferably many. -/
  | many (test : Char → Bool)
  /-- Any number of characters of a class, preferably few. -/
  | few (test : Char → Bool)
  /-- One pattern after the other. -/
  | seq (first second : Pattern)
  /-- One pattern, or else the other. -/
  | either (first second : Pattern)
  /-- The pattern any number of times, preferably often. -/
  | repeated (body : Pattern)
  /-- Between a word character and one that is none, or an end of the text. -/
  | edge
  /-- At the end of the text. -/
  | ending

namespace Pattern

variable {α : Type}

/-- Tries the longest run of characters of a class first. -/
def runMany (test : Char → Bool) (next : Site → Option α) : List Char → Nat → Option Char → Option α
  | [], offset, before => next ⟨offset, before, []⟩
  | c :: rest, offset, before =>
    if test c then
      match runMany test next rest (offset + 1) (some c) with
      | some found => some found
      | none => next ⟨offset, before, c :: rest⟩
    else next ⟨offset, before, c :: rest⟩

/-- Tries the shortest run of characters of a class first. -/
def runFew (test : Char → Bool) (next : Site → Option α) : List Char → Nat → Option Char → Option α
  | [], offset, before => next ⟨offset, before, []⟩
  | c :: rest, offset, before =>
    match next ⟨offset, before, c :: rest⟩ with
    | some found => some found
    | none => if test c then runFew test next rest (offset + 1) (some c) else none

/-- Tries to repeat `body`, at most once for each character of `bound` and preferably often. -/
def runRepeated (body : Site → (Site → Option α) → Option α) (next : Site → Option α) :
    (bound : List Char) → Site → Option α
  | [], site => next site
  | _ :: bound, site =>
    match body site (runRepeated body next bound) with
    | some found => some found
    | none => next site

/-- Whether the word edge lies at a site. -/
def atEdge (site : Site) : Bool :=
  site.before.any Text.isWordChar != site.rest.head?.any Text.isWordChar

/-- Matches a pattern at a site and goes on with `next` at its end; the first end in the order of
preference from which `next` succeeds counts. A body that is repeated takes at least one character,
so the rest of the text bounds the repetitions. -/
def run : Pattern → Site → (Site → Option α) → Option α
  | .empty, site, next => next site
  | .one test, site, next =>
    match site.rest with
    | c :: rest => if test c then next ⟨site.offset + 1, some c, rest⟩ else none
    | [] => none
  | .many test, site, next => runMany test next site.rest site.offset site.before
  | .few test, site, next => runFew test next site.rest site.offset site.before
  | .seq first second, site, next => run first site fun middle => run second middle next
  | .either first second, site, next =>
    match run first site next with
    | some found => some found
    | none => run second site next
  | .repeated body, site, next =>
    runRepeated (fun site next => run body site next) next site.rest site
  | .edge, site, next => if atEdge site then next site else none
  | .ending, site, next => if site.rest.isEmpty then next site else none

/-- The end of the match at a site. -/
def endAt? (pattern : Pattern) (site : Site) : Option Site := pattern.run site some

/-- The given character. -/
def char (c : Char) : Pattern := .one (· == c)

/-- The pattern, or nothing. -/
def optional (pattern : Pattern) : Pattern := .either pattern .empty

/-- Some characters of a class, at least one and preferably many. -/
def some (test : Char → Bool) : Pattern := .seq (.one test) (.many test)

/-- The patterns of a list one after the other. -/
def all : List Pattern → Pattern
  | [] => .empty
  | [pattern] => pattern
  | pattern :: rest => .seq pattern (all rest)

/-- The patterns of a list, preferably the earlier ones. -/
def any : List Pattern → Pattern
  | [] => .one fun _ => false
  | [pattern] => pattern
  | pattern :: rest => .either pattern (any rest)

/-- The characters of a word as they are. -/
def word (letters : List Char) : Pattern := all (letters.map char)

end Pattern

/-- A match: the rule that matched, the offset of its start and the site of its end. -/
structure Found (β : Type) where
  rule : β
  start : Nat
  stop : Site

namespace Found

variable {β : Type}

/-- The first rule, in order, whose pattern matches at a site. -/
def at? (rules : List (β × Pattern)) (site : Site) : Option (Found β) :=
  rules.findSome? fun (rule, pattern) =>
    (pattern.endAt? site).map fun stop => ⟨rule, site.offset, stop⟩

/-- The matches in a text of which `skip` characters belong to the last match already. Matches
without characters do not count. -/
def allFrom (rules : List (β × Pattern)) : Nat → Option Char → Nat → List Char → List (Found β)
  | _, _, _, [] => []
  | offset, _, skip + 1, c :: rest => allFrom rules (offset + 1) (some c) skip rest
  | offset, before, 0, c :: rest =>
    match at? rules ⟨offset, before, c :: rest⟩ with
    | none => allFrom rules (offset + 1) (some c) 0 rest
    | some found =>
      if offset < found.stop.offset then
        found :: allFrom rules (offset + 1) (some c) (found.stop.offset - offset - 1) rest
      else allFrom rules (offset + 1) (some c) 0 rest

/-- The matches in a text from left to right. -/
def all (rules : List (β × Pattern)) (text : List Char) : List (Found β) :=
  allFrom rules 0 none 0 text

/-- The range of the text that a match covers. -/
def range (found : Found β) : TextRange := ⟨found.start, found.stop.offset⟩

end Found

end SqlAssist
