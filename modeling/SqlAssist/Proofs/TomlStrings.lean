import SqlAssist.Proofs.TomlReaders

/-!
# Written texts are TOML strings

TOML says by a grammar how a text stands between double quotes on one line, character by character
(`SpellsChar`, `StandsFor`, `IsBasicString`). The reader follows the grammar:

* **complete** — `StandsFor.readBasic`: what the grammar allows is read as the text it stands for;
* **sound** — `readBasic_outcome_standsFor`: nothing else is read.

So a text has one string at its start at most (`IsBasicString.unique`), and a written text is one
(`isBasicString_encode`). Writing escapes the backslashes first, then the quotes, then the control
characters, and no pass spoils what an earlier one wrote (`encode_eq_passes`).
-/
namespace SqlAssist.Toml

/-! ## The grammar -/

/-- The code points that stand for themselves between double quotes. -/
def unescapedRanges : List (Nat × Nat) :=
  [(0x09, 0x09), (0x20, 0x21), (0x23, 0x5b), (0x5d, 0x7e), (0x80, 0xd7ff), (0xe000, 0x10ffff)]

/-- The escapes of one letter, with the characters that they stand for. -/
def shortEscapes : List (Char × Char) :=
  [('b', '\x08'), ('t', '\t'), ('n', '\n'), ('f', '\x0c'), ('r', '\r'), ('"', '"'), ('\\', '\\')]

/-- The letters of the escapes by code point, with the numbers of their hexadecimal digits. -/
def codeEscapes : List (Char × Nat) := [('u', 4), ('U', 8)]

/-- How a character is spelled between double quotes. -/
inductive SpellsChar : List Char → Char → Prop
  | plain {c : Char}
      (unescaped : ∃ range ∈ unescapedRanges, range.1 ≤ c.toNat ∧ c.toNat ≤ range.2) :
      SpellsChar [c] c
  | short {letter c : Char} (escape : (letter, c) ∈ shortEscapes) : SpellsChar ['\\', letter] c
  | code {letter c : Char} {digits : List Char} (escape : (letter, digits.length) ∈ codeEscapes)
      (hex : digits.all isHex = true) (value : baseValue 16 digits = c.toNat) :
      SpellsChar ('\\' :: letter :: digits) c

/-- What stands between double quotes, and the text that it stands for. -/
inductive StandsFor : List Char → List Char → Prop
  | nil : StandsFor [] []
  | cons {spelled body text : List Char} {c : Char} (first : SpellsChar spelled c)
      (rest : StandsFor body text) : StandsFor (spelled ++ body) (c :: text)

/-- A string in double quotes on one line, and the text that it stands for. -/
def IsBasicString (spelled text : List Char) : Prop :=
  ∃ body, spelled = '"' :: (body ++ ['"']) ∧ StandsFor body text

/-! ## What the grammar allows is read -/

theorem unescaped_iff {c : Char} :
    (∃ range ∈ unescapedRanges, range.1 ≤ c.toNat ∧ c.toNat ≤ range.2) ↔
      c ≠ '"' ∧ c ≠ '\\' ∧ isRefused c = false := by
  have quote : c = '"' ↔ c.toNat = 0x22 := Char.toNat_inj.symm
  have escape : c = '\\' ↔ c.toNat = 0x5c := Char.toNat_inj.symm
  have tab : c = '\t' ↔ c.toNat = 0x09 := Char.toNat_inj.symm
  have valid : c.toNat < 0xd800 ∨ 0xdfff < c.toNat ∧ c.toNat < 0x110000 := c.valid
  have refused : isRefused c = false ↔ ¬ ((c.toNat < 32 ∨ c.toNat = 127) ∧ c ≠ '\t') := by
    simp only [isRefused, isControl, Bool.and_eq_false_iff, Bool.or_eq_false_iff,
      decide_eq_false_iff_not, beq_eq_false_iff_ne, bne_eq_false_iff_eq, not_and_or, not_or, ne_eq,
      not_not]
  -- Both sides are about the code point alone; that it is no surrogate comes from the character.
  rw [refused, ne_eq, ne_eq, ne_eq, quote, escape, tab]
  simp only [unescapedRanges, List.mem_cons, List.not_mem_nil, or_false, exists_eq_or_imp,
    exists_eq_left]
  omega

theorem simpleEscape?_eq_some_iff {letter c : Char} :
    simpleEscape? letter = some c ↔ (letter, c) ∈ shortEscapes := by
  constructor
  · intro found
    unfold simpleEscape? at found
    split at found <;> cases found <;> decide
  · have known : (shortEscapes.all fun entry => simpleEscape? entry.1 == some entry.2) = true := by
      decide
    intro escape
    exact beq_iff_eq.mp (List.all_eq_true.mp known _ escape)

theorem escape?_short {letter c : Char} (escape : (letter, c) ∈ shortEscapes) (rest : List Char) :
    escape? false (letter :: rest) = some ([c], rest) := by
  have found := simpleEscape?_eq_some_iff.mpr escape
  have notCode : letter ≠ 'u' ∧ letter ≠ 'U' := by
    constructor <;>
    · rintro rfl
      cases found
  rw [escape?, Bool.false_and, if_neg Bool.false_ne_true, if_neg notCode.1, if_neg notCode.2, found]
  rfl

theorem escape?_code {letter c : Char} {digits : List Char}
    (escape : (letter, digits.length) ∈ codeEscapes) (hex : digits.all isHex = true)
    (value : baseValue 16 digits = c.toNat) (rest : List Char) :
    escape? false (letter :: (digits ++ rest)) = some ([c], rest) := by
  have read := codePoint?_append hex value rest
  simp only [codeEscapes, List.mem_cons, Prod.mk.injEq, List.not_mem_nil, or_false] at escape
  rcases escape with ⟨rfl, length⟩ | ⟨rfl, length⟩
  · rw [length] at read
    exact read
  · rw [length] at read
    exact read

theorem SpellsChar.readBasic {spelled : List Char} {c : Char} (spells : SpellsChar spelled c)
    (rest : List Char) : readBasic false (spelled ++ rest) =
      (readBasic false rest).map fun (more, after) => (c :: more, after) := by
  cases spells with
  | plain unescaped =>
      obtain ⟨notQuote, notEscape, notRefused⟩ := unescaped_iff.mp unescaped
      exact readBasic_plain notQuote notEscape notRefused rest
  | short escape => exact readBasic_escape (escape?_short escape rest)
  | code escape hex value => exact readBasic_escape (escape?_code escape hex value rest)

theorem StandsFor.readBasic {body text : List Char} (stands : StandsFor body text)
    (rest : List Char) : readBasic false (body ++ '"' :: rest) = .ok (text, rest) := by
  induction stands with
  | nil =>
      rw [List.nil_append, Toml.readBasic]
      rfl
  | cons first _ ih =>
      rw [List.append_assoc, first.readBasic, ih]
      rfl

/-! ## What is read is allowed by the grammar -/

theorem exists_spellsChar_of_codePoint? {letter : Char} {count : Nat}
    {input chars after : List Char} (escape : (letter, count) ∈ codeEscapes)
    (found : codePoint? count input = some (chars, after)) :
    ∃ spelled c, letter :: input = spelled ++ after ∧ chars = [c] ∧
      SpellsChar ('\\' :: spelled) c := by
  rw [codePoint?] at found
  split at found
  · rename_i checked
    obtain ⟨length, hex, valid⟩ := checked
    obtain ⟨rfl, rfl⟩ := Prod.mk.inj (Option.some.inj found)
    have whole : Char.ofNat (baseValue 16 (input.take count)) =
        Char.ofNatAux (baseValue 16 (input.take count)) valid := dif_pos valid
    refine ⟨letter :: input.take count, _, ?_, rfl, .code (length.symm ▸ escape) hex ?_⟩
    · rw [List.cons_append, List.take_append_drop]
    · rw [whole]
      rfl
  · cases found

theorem exists_spellsChar_of_escape? {input chars after : List Char}
    (found : escape? false input = some (chars, after)) :
    ∃ spelled c, input = spelled ++ after ∧ chars = [c] ∧ SpellsChar ('\\' :: spelled) c := by
  cases input with
  | nil => cases found
  | cons letter rest =>
      rw [escape?, Bool.false_and, if_neg Bool.false_ne_true] at found
      by_cases isShort : letter = 'u'
      · rw [if_pos isShort] at found
        exact exists_spellsChar_of_codePoint? (by rw [isShort]; decide) found
      rw [if_neg isShort] at found
      by_cases isLong : letter = 'U'
      · rw [if_pos isLong] at found
        exact exists_spellsChar_of_codePoint? (by rw [isLong]; decide) found
      rw [if_neg isLong] at found
      obtain ⟨c, escape, same⟩ := Option.map_eq_some_iff.mp found
      obtain ⟨rfl, rfl⟩ := Prod.mk.inj same
      exact ⟨[letter], c, rfl, rfl, .short (simpleEscape?_eq_some_iff.mp escape)⟩

theorem readBasic_outcome_standsFor (input : List Char) :
    Outcome False False (fun found => ∃ body, input = body ++ '"' :: found.2 ∧
      StandsFor body found.1)
      (readBasic false input) := by
  fun_induction readBasic false input with
  | case1 => exact .malformed
  | case2 c rest closed =>
      have quote : '"' = c := by simpa [closes, List.isPrefixOf] using closed
      exact .ok ⟨[], by rw [quote]; rfl, .nil⟩
  | case3 rest chars after found shorter notClosed ih =>
      obtain ⟨spelled, c, rfl, rfl, spells⟩ := exists_spellsChar_of_escape? found
      refine ih.map fun read part => ?_
      obtain ⟨body, behind, stands⟩ := part
      refine ⟨'\\' :: spelled ++ body, ?_, .cons spells stands⟩
      rw [behind, List.cons_append, List.cons_append, List.append_assoc]
  | case4 | case5 => exact .malformed
  | case6 c rest notClosed notEscape allowed ih =>
      have notQuote : c ≠ '"' := by
        rintro rfl
        exact notClosed rfl
      have notRefused : isRefused c = false := by simpa [isRefusedIn] using allowed
      have spells : SpellsChar [c] c := .plain (unescaped_iff.mpr ⟨notQuote, notEscape, notRefused⟩)
      refine ih.map fun read part => ?_
      obtain ⟨body, behind, stands⟩ := part
      refine ⟨[c] ++ body, ?_, .cons spells stands⟩
      rw [behind]
      rfl

/-! ## Written texts -/

/-- Two strings at the start of one text are one. -/
theorem IsBasicString.unique {spelled other text text' after after' : List Char}
    (here : IsBasicString spelled text) (there : IsBasicString other text')
    (same : spelled ++ after = other ++ after') : spelled = other ∧ text = text' := by
  obtain ⟨body, rfl, stands⟩ := here
  obtain ⟨body', rfl, stands'⟩ := there
  have bodies : body ++ '"' :: after = body' ++ '"' :: after' := by simpa using same
  -- The reader reads both of them, and it has one answer for one text.
  have read := stands.readBasic after
  rw [bodies, stands'.readBasic after'] at read
  obtain ⟨rfl, rfl⟩ := Prod.mk.inj (Except.ok.inj read)
  exact ⟨List.append_cancel_right same, rfl⟩

theorem isBasicString_encode (text : List Char) : IsBasicString (encode text) text := by
  -- What is written is read back, and nothing is read that is not in the grammar.
  have read := readBasic_outcome_standsFor (text.flatMap encodeChar ++ ['"'])
  rw [readBasic_encode text []] at read
  cases read with
  | ok good =>
      obtain ⟨body, same, stands⟩ := good
      exact ⟨body, congrArg ('"' :: ·) same, stands⟩

/-- Puts a backslash in front of each occurrence of a character. -/
def escapeAll (special : Char) (text : List Char) : List Char :=
  text.flatMap fun c => if c = special then ['\\', c] else [c]

/-- Writes control characters by their code points. -/
def escapeControls (text : List Char) : List Char :=
  text.flatMap fun c => if isControl c then '\\' :: 'u' :: Text.hexDigits 4 c.toNat else [c]

theorem encodeChar_eq_passes (c : Char) :
    encodeChar c = escapeControls (escapeAll '"' (escapeAll '\\' [c])) := by
  by_cases isEscape : c = '\\'
  · subst isEscape
    decide
  · by_cases isQuote : c = '"'
    · subst isQuote
      decide
    · simp [encodeChar, escapeControls, escapeAll, isEscape, isQuote]

/-- Writing in three passes. The passes for quotes and for control characters meet the backslashes
of the passes before them, but have nothing to do with them. -/
theorem encode_eq_passes (text : List Char) :
    encode text = '"' :: (escapeControls (escapeAll '"' (escapeAll '\\' text)) ++ ['"']) := by
  have body : text.flatMap encodeChar = escapeControls (escapeAll '"' (escapeAll '\\' text)) := by
    rw [funext encodeChar_eq_passes]
    simp only [escapeControls, escapeAll, List.flatMap_assoc, List.flatMap_singleton]
  rw [← body]
  rfl

/-- Three quotes open a text of several lines, which ends behind them. -/
theorem readText_triple_outcome (more : List Char) :
    Outcome False False (Part more fun _ => True) (readText '"' ('"' :: '"' :: '"' :: more)) := by
  have read : readText '"' ('"' :: '"' :: '"' :: more) =
      (readBasic true (skipLineEnd more)).map (extraQuotes '"') := rfl
  rw [read]
  refine (readBasic_outcome true (skipLineEnd more)).map fun found part => ⟨trivial, ?_⟩
  exact (List.drop_suffix _ found.2).trans (part.2.trans (skipLineEnd_suffix more))

theorem readText_encode_iff {text rest : List Char} :
    readText '"' (encode text ++ rest) = .ok (text, rest) ↔
      (text = [] → rest.head? ≠ some '"') := by
  constructor
  · rintro read rfl isQuote
    obtain ⟨more, rfl⟩ := List.head?_eq_some_iff.mp isQuote
    -- The reader goes beyond the quote that follows, so it cannot leave it.
    have part := readText_triple_outcome more
    have opens : encode [] ++ '"' :: more = '"' :: '"' :: '"' :: more := rfl
    rw [← opens, read] at part
    cases part with
    | ok good =>
        have shorter := good.2.length_le
        rw [List.length_cons] at shorter
        omega
  · exact readText_encode

theorem readValue_encode_iff {fuel : Nat} {text rest : List Char} :
    readValue (fuel + 1) (encode text ++ rest) = .ok (.string (String.ofList text), rest) ↔
      (text = [] → rest.head? ≠ some '"') := by
  rw [readValue_encode, ← readText_encode_iff]
  cases readText '"' (encode text ++ rest) with
  | error => simp [Except.map]
  | ok found => simp [Except.map, Prod.ext_iff, String.ofList_inj]

/-- A written text can be read back and stands on one line. It is made by three passes of escaping;
whatever follows it, it is the only string at the start of the whole, and it stands for the text; it
holds no control character; no other text is written like it; as a key it is read as the text; and
as a value too, unless it is empty and a quote makes it the start of a text of several lines. -/
theorem encode_decodable (text rest : List Char) :
    encode text = '"' :: (escapeControls (escapeAll '"' (escapeAll '\\' text)) ++ ['"']) ∧
    (∀ spelled meaning after, spelled ++ after = encode text ++ rest →
      (IsBasicString spelled meaning ↔ spelled = encode text ∧ meaning = text)) ∧
    (∀ c ∈ encode text, 0x20 ≤ c.toNat ∧ c.toNat ≠ 0x7f) ∧
    (∀ other, encode other = encode text → other = text) ∧
    readKeyPart (encode text ++ rest) = .ok (String.ofList text, rest) ∧
    ∀ fuel, readValue (fuel + 1) (encode text ++ rest) = .ok (.string (String.ofList text), rest) ↔
      (text = [] → rest.head? ≠ some '"') := by
  refine ⟨encode_eq_passes text, ?_, ?_, ?_, readKeyPart_encode text rest, ?_⟩
  · intro spelled meaning after same
    constructor
    · intro isString
      exact isString.unique (isBasicString_encode text) same
    · rintro ⟨rfl, rfl⟩
      exact isBasicString_encode meaning
  · intro c member
    have visible := isControl_of_mem_encode member
    rw [isControl, Bool.or_eq_false_iff, decide_eq_false_iff_not, beq_eq_false_iff_ne] at visible
    omega
  · intro other same
    exact ((isBasicString_encode other).unique (isBasicString_encode text)
      (congrArg (· ++ []) same)).2
  · exact fun _ => readValue_encode_iff

/-- A quote, a backslash, a line break, the last control character and what looks like an escape,
with a quote behind the written text. -/
theorem encode_decodable_hostile :
    let text := "\"\\\n\x7f\\u0041é".toList
    let spelled := "\"\\\"\\\\\\u000a\\u007f\\\\u0041é\"".toList
    let rest := "\" = 1".toList
    encode text = spelled ∧ IsBasicString spelled text ∧
    readKeyPart (spelled ++ rest) = .ok (String.ofList text, rest) ∧
    readValue 1 (spelled ++ rest) = .ok (.string (String.ofList text), rest) := by
  intro text spelled rest
  have written : encode text = spelled := by decide
  obtain ⟨_, strings, _, _, key, value⟩ := encode_decodable text rest
  rw [written] at strings key value
  refine ⟨written, (strings spelled text rest rfl).mpr ⟨rfl, rfl⟩, key, (value 0).mpr ?_⟩
  intro empty
  exact absurd empty (by decide)

end SqlAssist.Toml
