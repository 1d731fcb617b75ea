import SqlAssist.Proofs.AssociationLists
import SqlAssist.Proofs.TomlValues

/-!
# Written documents are read back

A document that is written line by line reads back as the tables that its lines describe.

* **keys and values** — `Spells` and `Writes` say that a text reads back as a key or as a value,
  whatever stands after it;
* **lines** — `ReadsLine` is one line and what it does to a draft, `ReadsLines` any number of them,
  and `read_lines` reads a whole document off it;
* **tables** — `Leads` is the place of the open table in the document; `assign_new`, `openTable_new`
  and `openItem_new` say what statements about new names do there.
-/
namespace SqlAssist

namespace Toml

/-! ## Keys -/

/-- What may follow a key: it does not go on with it. -/
structure EndsKey (rest : List Char) : Prop where
  notBare : ∀ c ∈ rest.head?, isBare c = false
  notDot : ∀ more, skipBlanks rest ≠ '.' :: more

/-- A text is read as a key wherever it may stand. -/
structure Spells (text : List Char) (key : Key) : Prop where
  starts : ∃ c more, text = c :: more ∧ (isBare c = true ∨ c = '"')
  short : key.length ≤ text.length
  reads : ∀ fuel rest, key.length ≤ fuel → EndsKey rest →
    readKey fuel (text ++ rest) = .ok (key, skipBlanks rest)

theorem skipBlanks_cons {c : Char} (visible : isBlank c = false) (text : List Char) :
    skipBlanks (c :: text) = c :: text := by
  simp [skipBlanks, visible]

theorem isBlank_of_isBare {c : Char} (bare : isBare c = true) : isBlank c = false := by
  cases blank : isBlank c with
  | false => rfl
  | true =>
      simp only [isBlank, Bool.or_eq_true, beq_iff_eq] at blank
      rcases blank with rfl | rfl <;> cases bare

theorem readKeyPart_bare {name rest : List Char} (nonempty : name ≠ [])
    (bare : ∀ c ∈ name, isBare c = true) (ends : ∀ c ∈ rest.head?, isBare c = false) :
    readKeyPart (name ++ rest) = .ok (String.ofList name, rest) := by
  have taken : (name ++ rest).takeWhile isBare = name := by
    rw [List.takeWhile_append_of_pos bare]
    cases rest with
    | nil => simp
    | cons c rest => simp [ends c rfl]
  have first : ∀ {c : Char}, isBare c = false → ∀ more, name ++ rest = c :: more → False := by
    intro c other more same
    cases name with
    | nil => exact nonempty rfl
    | cons d name =>
        rw [← (List.cons.inj same).1, bare d List.mem_cons_self] at other
        cases other
  rw [readKeyPart]
  · simp [taken, nonempty]
  · exact first rfl
  · exact first rfl

theorem readKey_last {fuel : Nat} {text rest : List Char} {name : String}
    (part : readKeyPart text = .ok (name, rest)) (notDot : ∀ more, skipBlanks rest ≠ '.' :: more) :
    readKey (fuel + 1) text = .ok ([name], skipBlanks rest) := by
  simp only [readKey, part, bind, Except.bind]
  rfl

theorem readKey_dot {fuel : Nat} {text rest after : List Char} {name : String} {key : Key}
    (part : readKeyPart text = .ok (name, '.' :: rest))
    (more : readKey fuel (skipBlanks rest) = .ok (key, after)) :
    readKey (fuel + 1) text = .ok (name :: key, after) := by
  simp only [readKey, part, bind, Except.bind, skipBlanks_cons (by decide : isBlank '.' = false),
    more]
  rfl

theorem spells_bare {name : List Char} (nonempty : name ≠ []) (bare : ∀ c ∈ name, isBare c = true) :
    Spells name [String.ofList name] where
  starts := by
    cases name with
    | nil => exact absurd rfl nonempty
    | cons c more => exact ⟨c, more, rfl, .inl (bare c List.mem_cons_self)⟩
  short := List.length_pos_iff.mpr nonempty
  reads fuel rest enough ends := by
    obtain ⟨fuel, rfl⟩ := Nat.exists_eq_add_of_le' enough
    exact readKey_last (readKeyPart_bare nonempty bare ends.notBare) ends.notDot

theorem readKeyPart_encode (text rest : List Char) :
    readKeyPart (encode text ++ rest) = .ok (String.ofList text, rest) := by
  have quoted : encode text ++ rest = '"' :: (text.flatMap encodeChar ++ '"' :: rest) := by
    simp [encode]
  rw [quoted, readKeyPart, readBasic_encode]
  rfl

theorem spells_encode (name : String) : Spells (encode name.toList) [name] where
  starts := ⟨'"', _, rfl, .inr rfl⟩
  short := by simp [encode]
  reads fuel rest enough ends := by
    obtain ⟨fuel, rfl⟩ := Nat.exists_eq_add_of_le' enough
    refine readKey_last ?_ ends.notDot
    rw [readKeyPart_encode, String.ofList_toList]

theorem spells_dot {name text : List Char} {key : Key} (nonempty : name ≠ [])
    (bare : ∀ c ∈ name, isBare c = true) (spells : Spells text key) :
    Spells (name ++ '.' :: text) (String.ofList name :: key) where
  starts := by
    cases name with
    | nil => exact absurd rfl nonempty
    | cons c more => exact ⟨c, more ++ '.' :: text, rfl, .inl (bare c List.mem_cons_self)⟩
  short := by
    have := spells.short
    simp only [List.length_cons, List.length_append]
    omega
  reads fuel rest enough ends := by
    obtain ⟨fuel, rfl⟩ := Nat.exists_eq_add_of_le' enough
    obtain ⟨c, more, rfl, first⟩ := spells.starts
    have visible : isBlank c = false := by
      rcases first with isBare' | rfl
      · exact isBlank_of_isBare isBare'
      · rfl
    have later := spells.reads (fuel + key.length) rest (by omega) ends
    rw [List.append_assoc]
    -- The dot ends the name, and the rest of the key starts right after it.
    refine readKey_dot (readKeyPart_bare nonempty bare ?_) ?_
    · rintro _ ⟨⟩
      rfl
    · exact (congrArg (readKey _) (skipBlanks_cons visible (more ++ rest))).trans later

/-! ## Values -/

/-- A text is read as a value wherever a line ends behind it. -/
structure Writes (text : List Char) (value : Value) : Prop where
  starts : ∃ c more, text = c :: more ∧ isBlank c = false
  reads : ∀ depth rest, readValue depth (text ++ '\n' :: rest) = .ok (value, '\n' :: rest)

/-- At every depth a value is read by its first characters. -/
theorem exists_readValueWith (depth : Nat) : ∃ inner, readValue depth = readValueWith inner := by
  cases depth with
  | zero => exact ⟨_, rfl⟩
  | succ depth => exact ⟨_, rfl⟩

theorem readValue_encode (depth : Nat) (text rest : List Char) :
    readValue depth (encode text ++ rest) =
      (readText '"' (encode text ++ rest)).map fun (chars, rest) =>
        (.string (String.ofList chars), rest) := by
  have quoted : encode text ++ rest = '"' :: (text.flatMap encodeChar ++ '"' :: rest) := by
    simp [encode]
  obtain ⟨inner, isInner⟩ := exists_readValueWith depth
  rw [quoted, isInner, readValueWith]

theorem writes_encode (s : String) : Writes (encode s.toList) (.string s) where
  starts := ⟨'"', _, rfl, rfl⟩
  reads depth rest := by
    rw [readValue_encode, readText_encode (by simp)]
    simp [Except.map]

theorem writes_emptyList : Writes ['[', ']'] (.list []) where
  starts := ⟨'[', [']'], rfl, rfl⟩
  reads depth rest := by
    obtain ⟨inner, isInner⟩ := exists_readValueWith depth
    rw [isInner]
    rfl

/-- The characters of written numbers. -/
def isNumberChar (c : Char) : Bool :=
  c.isDigit || ['+', '-', '.', 'e', 'i', 'n', 'f', 'a'].contains c

/-- No other character comes before the line end. -/
theorem number_line_ne {text rest : List Char} {c : Char} (front more : List Char)
    (number : ∀ d ∈ text, isNumberChar d = true) (other : isNumberChar c = false)
    (visible : c ≠ '\n') (noLineEnd : '\n' ∉ front) :
    text ++ '\n' :: rest ≠ front ++ c :: more := by
  induction front generalizing text with
  | nil =>
      intro same
      cases text with
      | nil => exact visible (List.cons.inj same).1.symm
      | cons d text =>
          rw [← (List.cons.inj same).1, number d List.mem_cons_self] at other
          cases other
  | cons f front ih =>
      intro same
      cases text with
      | nil => exact noLineEnd ((List.cons.inj same).1 ▸ List.mem_cons_self)
      | cons d text =>
          exact ih (fun d' member => number d' (List.mem_cons_of_mem d member))
            (fun member => noLineEnd (List.mem_cons_of_mem f member)) (List.cons.inj same).2

/-- What a number reads as alone, it reads as on its line. -/
theorem readValue_number {text : List Char} (number : ∀ c ∈ text, isNumberChar c = true)
    (depth : Nat) (rest : List Char) :
    readValue depth (text ++ '\n' :: rest) = (readScalar text).map (onLine rest) := by
  have first : ∀ {c : Char}, isNumberChar c = false → c ≠ '\n' → ∀ more,
      text ++ '\n' :: rest = c :: more → False :=
    fun other visible more => number_line_ne [] more number other visible List.not_mem_nil
  obtain ⟨inner, isInner⟩ := exists_readValueWith depth
  -- The last case of a value; what starts the others is not in a number.
  rw [isInner, readValueWith]
  · exact readScalar_line text rest
  · exact first rfl (by decide)
  · exact first rfl (by decide)
  · exact fun more => first rfl (by decide) ('r' :: 'u' :: 'e' :: more)
  · exact fun more => number_line_ne ['f', 'a'] ('s' :: 'e' :: more) number
      (by decide : isNumberChar 'l' = false) (by decide) (by decide)
  · exact first rfl (by decide)
  · exact first rfl (by decide)

theorem isBlank_of_isNumberChar {c : Char}
    (number : isNumberChar c = true) : isBlank c = false := by
  cases blank : isBlank c with
  | false => rfl
  | true =>
      simp only [isBlank, Bool.or_eq_true, beq_iff_eq] at blank
      rcases blank with rfl | rfl <;> cases number

/-- A number that reads back alone reads back on its line. -/
theorem writes_scalar {text : List Char} {value : Value} (read : readScalar text = .ok (value, []))
    (number : ∀ c ∈ text, isNumberChar c = true) : Writes text value where
  starts := by
    cases text with
    | nil => cases read
    | cons c more => exact ⟨c, more, rfl, isBlank_of_isNumberChar (number c List.mem_cons_self)⟩
  reads depth rest := by
    rw [readValue_number number, read]
    rfl

/-! ## Statements -/

theorem Spells.visible {text : List Char} {key : Key} (spells : Spells text key) :
    ∃ c more, text = c :: more ∧ isBlank c = false ∧ c ≠ '[' ∧ c ≠ '#' ∧ c ≠ '\n' := by
  obtain ⟨c, more, rfl, first⟩ := spells.starts
  refine ⟨c, more, rfl, ?_⟩
  rcases first with bare | rfl
  · refine ⟨isBlank_of_isBare bare, ?_, ?_, ?_⟩ <;>
    · rintro rfl
      cases bare
  · decide

/-- The fuel of a statement is enough for its key. -/
theorem Spells.read {text rest : List Char} {key : Key} (spells : Spells text key)
    (ends : EndsKey rest) : readKey (text ++ rest).length (text ++ rest) =
      .ok (key, skipBlanks rest) := by
  refine spells.reads _ rest ?_ ends
  have := spells.short
  rw [List.length_append]
  omega

theorem endsKey_equals (rest : List Char) : EndsKey ([' ', '=', ' '] ++ rest) where
  notBare := by
    rintro _ ⟨⟩
    rfl
  notDot more same := by cases same

/-- A line with an equals sign gives the value behind it to the key in front of it. -/
theorem readStatement_eq (depth : Nat) (draft : Draft) {keyText valueText : List Char} {key : Key}
    (spells : Spells keyText key) (starts : ∃ c more, valueText = c :: more ∧ isBlank c = false)
    (rest : List Char) :
    readStatement depth draft (keyText ++ ([' ', '=', ' '] ++ (valueText ++ '\n' :: rest))) =
      (readValue depth (valueText ++ '\n' :: rest)).bind fun found =>
        (draft.assign key found.1).map fun draft => (draft, found.2) := by
  have read := spells.read (endsKey_equals (valueText ++ '\n' :: rest))
  obtain ⟨c, more, rfl, _, notOpen, notComment, _⟩ := spells.visible
  obtain ⟨d, valueMore, rfl, visible⟩ := starts
  have equals : skipBlanks ([' ', '=', ' '] ++ (d :: valueMore ++ '\n' :: rest)) =
      '=' :: ' ' :: (d :: valueMore ++ '\n' :: rest) := rfl
  have blank : skipBlanks (' ' :: (d :: valueMore ++ '\n' :: rest)) =
      d :: valueMore ++ '\n' :: rest :=
    skipBlanks_cons visible (valueMore ++ '\n' :: rest)
  rw [equals] at read
  rw [List.cons_append, readStatement]
  · rw [← List.cons_append, read]
    simp only [bind, Except.bind, skipEquals, blank]
    rfl
  · exact fun _ same => notOpen (List.cons.inj same).1
  · exact fun _ same => notOpen (List.cons.inj same).1
  · exact fun _ same => notComment (List.cons.inj same).1

theorem readStatement_assign (depth : Nat) {draft draft' : Draft} {keyText valueText : List Char}
    {key : Key} {value : Value} (spells : Spells keyText key) (writes : Writes valueText value)
    (assigned : draft.assign key value = .ok draft') (rest : List Char) :
    readStatement depth draft (keyText ++ ([' ', '=', ' '] ++ (valueText ++ '\n' :: rest))) =
      .ok (draft', '\n' :: rest) := by
  rw [readStatement_eq depth draft spells writes.starts rest, writes.reads depth rest]
  simp only [Except.bind, assigned]
  rfl

/-- The brackets of a header end its key. -/
theorem endsKey_bracket (rest : List Char) : EndsKey (']' :: rest) where
  notBare := by
    rintro _ ⟨⟩
    rfl
  notDot more same := by cases same

theorem readStatement_table (depth : Nat) {draft draft' : Draft} {keyText : List Char} {key : Key}
    (spells : Spells keyText key) (opened : draft.openTable key = .ok draft') (rest : List Char) :
    readStatement depth draft ('[' :: (keyText ++ ']' :: '\n' :: rest)) =
      .ok (draft', '\n' :: rest) := by
  have read := spells.read (endsKey_bracket ('\n' :: rest))
  obtain ⟨c, more, rfl, visible, notOpen, _⟩ := spells.visible
  have first : skipBlanks (c :: more ++ ']' :: '\n' :: rest) = c :: more ++ ']' :: '\n' :: rest :=
    skipBlanks_cons visible _
  have bracket : skipBlanks (']' :: '\n' :: rest) = ']' :: '\n' :: rest := rfl
  rw [readStatement]
  · simp only [first, read, bracket, bind, Except.bind, opened]
    rfl
  · exact fun _ same => notOpen (List.cons.inj same).1

theorem readStatement_item (depth : Nat) {draft draft' : Draft} {keyText : List Char} {key : Key}
    (spells : Spells keyText key) (opened : draft.openItem key = .ok draft') (rest : List Char) :
    readStatement depth draft ('[' :: '[' :: (keyText ++ ']' :: ']' :: '\n' :: rest)) =
      .ok (draft', '\n' :: rest) := by
  have read := spells.read (endsKey_bracket (']' :: '\n' :: rest))
  obtain ⟨c, more, rfl, visible, _⟩ := spells.visible
  have first : skipBlanks (c :: more ++ ']' :: ']' :: '\n' :: rest) =
      c :: more ++ ']' :: ']' :: '\n' :: rest :=
    skipBlanks_cons visible _
  have bracket : skipBlanks (']' :: ']' :: '\n' :: rest) = ']' :: ']' :: '\n' :: rest := rfl
  rw [readStatement]
  simp only [first, read, bracket, bind, Except.bind, opened]
  rfl

/-! ## Lines -/

/-- A line, with what it makes of a draft at every depth. -/
inductive ReadsLine (draft : Draft) : List Char → Draft → Prop where
  | blank : ReadsLine draft [] draft
  | statement {c : Char} {more : List Char} {draft' : Draft} : isBlank c = false → c ≠ '\n' →
      (∀ depth rest,
        readStatement depth draft (c :: more ++ '\n' :: rest) = .ok (draft', '\n' :: rest)) →
      ReadsLine draft (c :: more) draft'

/-- Lines, with what they make of a draft. -/
inductive ReadsLines : Draft → List (List Char) → Draft → Prop where
  | nil (draft : Draft) : ReadsLines draft [] draft
  | cons {draft next last : Draft} {line : List Char} {lines : List (List Char)} :
      ReadsLine draft line next → ReadsLines next lines last → ReadsLines draft (line :: lines) last

theorem ReadsLines.append {draft next last : Draft} {lines more : List (List Char)}
    (first : ReadsLines draft lines next) (second : ReadsLines next more last) :
    ReadsLines draft (lines ++ more) last := by
  induction first with
  | nil => exact second
  | cons line _ ih => exact .cons line (ih second)

theorem readsLine_assign {draft draft' : Draft} {keyText valueText : List Char} {key : Key}
    {value : Value} (spells : Spells keyText key) (writes : Writes valueText value)
    (assigned : draft.assign key value = .ok draft') :
    ReadsLine draft (keyText ++ [' ', '=', ' '] ++ valueText) draft' := by
  have read := fun depth => readStatement_assign depth spells writes assigned
  obtain ⟨c, more, rfl, visible, _, _, notEnd⟩ := spells.visible
  refine .statement visible notEnd fun depth rest => ?_
  simpa using read depth rest

theorem readsLine_table {draft draft' : Draft} {keyText : List Char} {key : Key}
    (spells : Spells keyText key) (opened : draft.openTable key = .ok draft') :
    ReadsLine draft (['['] ++ keyText ++ [']']) draft' := by
  refine .statement (by decide) (by decide) fun depth rest => ?_
  simpa using readStatement_table depth spells opened rest

theorem readsLine_item {draft draft' : Draft} {keyText : List Char} {key : Key}
    (spells : Spells keyText key) (opened : draft.openItem key = .ok draft') :
    ReadsLine draft (['[', '['] ++ keyText ++ [']', ']']) draft' := by
  refine .statement (by decide) (by decide) fun depth rest => ?_
  simpa using readStatement_item depth spells opened rest

theorem readStatements_visible {c : Char} (visible : isBlank c = false) (notEnd : c ≠ '\n')
    (depth fuel : Nat) (draft : Draft) (more : List Char) :
    readStatements depth (fuel + 1) draft (c :: more) =
      (readStatement depth draft (c :: more)).bind fun found =>
        (skipComment (skipBlanks found.2)).bind fun
          | [] => .ok found.1
          | '\n' :: rest => readStatements depth fuel found.1 rest
          | _ => .error .malformed := by
  rw [readStatements, skipBlanks_cons visible]
  split
  · rename_i same
    cases same
  · rename_i same
    exact absurd (List.cons.inj same).1 notEnd
  · rfl

/-- A line is read with one unit of fuel. -/
theorem ReadsLine.readStatements {draft draft' : Draft} {line : List Char}
    (reads : ReadsLine draft line draft') (depth fuel : Nat) (rest : List Char) :
    readStatements depth (fuel + 1) draft (line ++ '\n' :: rest) =
      readStatements depth fuel draft' rest := by
  cases reads with
  | blank => rfl
  | @statement c more _ visible notEnd read =>
      rw [List.cons_append, readStatements_visible visible notEnd, ← List.cons_append,
        read depth rest]
      rfl

theorem ReadsLines.readStatements {draft last : Draft} {lines : List (List Char)}
    (reads : ReadsLines draft lines last) (depth fuel : Nat) (enough : lines.length < fuel) :
    Toml.readStatements depth fuel draft (lines.flatMap (· ++ ['\n'])) = .ok last := by
  induction reads generalizing fuel with
  | nil draft =>
      obtain ⟨fuel, rfl⟩ := Nat.exists_eq_add_of_le' enough
      rfl
  | @cons draft next last line lines isLine _ ih =>
      obtain ⟨fuel, rfl⟩ := Nat.exists_eq_add_of_le' (Nat.zero_lt_of_lt enough)
      have length : lines.length < fuel := by simpa using enough
      rw [List.flatMap_cons, List.append_assoc]
      exact (isLine.readStatements depth fuel _).trans (ih fuel length)

theorem plainLines_eq {text : List Char} (plain : '\r' ∉ text) : plainLines text = text := by
  fun_induction plainLines text with
  | case1 rest ih => exact absurd List.mem_cons_self plain
  | case2 c rest _ ih => rw [ih fun member => plain (List.mem_cons_of_mem c member)]
  | case3 => rfl

theorem length_le_length_lines (lines : List (List Char)) :
    lines.length ≤ (lines.flatMap (· ++ ['\n'])).length := by
  induction lines with
  | nil => exact Nat.le_refl 0
  | cons line lines ih =>
      simp only [List.flatMap_cons, List.length_append, List.length_cons, List.length_nil]
      omega

/-- A document of lines that hold no carriage return. -/
theorem read_lines {last : Draft} {lines : List (List Char)} (reads : ReadsLines {} lines last)
    (plain : ∀ line ∈ lines, '\r' ∉ line) (depth : Nat) :
    read depth (lines.flatMap (· ++ ['\n'])) = .ok last.entries := by
  have noReturn : '\r' ∉ lines.flatMap (· ++ ['\n']) := by
    intro member
    obtain ⟨line, isLine, inLine⟩ := List.mem_flatMap.mp member
    rcases List.mem_append.mp inLine with inside | isEnd
    · exact plain line isLine inside
    · cases List.mem_singleton.mp isEnd
  have statements := reads.readStatements depth ((lines.flatMap (· ++ ['\n'])).length + 1)
    (Nat.lt_succ_of_le (length_le_length_lines lines))
  simp only [read, plainLines_eq noReturn, statements]
  rfl

/-! ## Open tables -/

theorem isClosed_eq_false {marks : Marks} {key : Key}
    (longer : ∀ closed ∈ marks.closed, key.length < closed.length) :
    marks.isClosed key = false := by
  rw [Marks.isClosed, List.any_eq_false]
  intro closed member isPrefix
  have := (List.isPrefixOf_iff_prefix.mp isPrefix).length_le
  have := longer closed member
  omega

theorem settle_eq {marks : Marks} (noPending : marks.pending = []) : marks.settle = marks := by
  obtain ⟨closed, opened, pending⟩ := marks
  subst noPending
  rfl

/-- A place for entries in a document: the table that a key leads to. -/
def Leads (key : Key) (place : Entries → Entries) : Prop :=
  ∀ change inner, changeAt true change key (place inner) = (change inner).map place

theorem leads_nil : Leads [] id := by
  intro change inner
  rw [changeAt, Option.map_id]
  rfl

section

variable {name : String} {front : Entries} (absent : name ∉ Assoc.keys front)
include absent

theorem changeAt_new (change : Entries → Option Entries) (key : Key) :
    changeAt true change (name :: key) front =
      (changeAt true change key []).map fun inner => front ++ [(name, .table inner)] := by
  simp only [changeAt, Assoc.get?_eq_none absent, Assoc.put_new absent]

theorem changeAt_last (change : Entries → Option Entries) (key : Key) (inner : Entries) :
    changeAt true change (name :: key) (front ++ [(name, .table inner)]) =
      (changeAt true change key inner).map fun inner => front ++ [(name, .table inner)] := by
  simp only [changeAt, Assoc.get?_concat absent, Assoc.put_concat absent]

theorem leads_table {key : Key} {place : Entries → Entries} (leads : Leads key place) :
    Leads (name :: key) fun inner => front ++ [(name, .table (place inner))] := by
  intro change inner
  rw [changeAt_last absent, leads, Option.map_map]
  rfl

theorem leads_item (items : List Value) :
    Leads [name] fun inner => front ++ [(name, .list (items ++ [.table inner]))] := by
  intro change inner
  simp only [changeAt, Assoc.get?_concat absent, List.getLast?_concat, List.dropLast_concat,
    Assoc.put_concat absent]

theorem appendTable_new : appendTable name front =
    some (front ++ [(name, .list ([] ++ [.table []]))]) := by
  rw [appendTable, Assoc.get?_eq_none absent, Assoc.put_new absent]
  rfl

theorem appendTable_last (items : List Value) :
    appendTable name (front ++ [(name, .list items)]) =
      some (front ++ [(name, .list (items ++ [.table []]))]) := by
  simp only [appendTable, Assoc.get?_concat absent, Assoc.put_concat absent]

end

/-- A statement that gives a value to a new name of the open table. -/
theorem assign_new (draft : Draft) {place : Entries → Entries} {inner : Entries} {name : String}
    (value : Value) (leads : Leads draft.header place) (entries : draft.entries = place inner)
    (notClosed : draft.marks.isClosed draft.header = false) (isNew : name ∉ Assoc.keys inner) :
    draft.assign [name] value = .ok { draft with
      entries := place (inner ++ [(name, value)])
      marks := { draft.marks with
        closed := if isContainer value then (draft.header ++ [name]) :: draft.marks.closed
          else draft.marks.closed } } := by
  have changed : changeAt true (addEntry name value) draft.header draft.entries =
      some (place (inner ++ [(name, value)])) := by
    rw [entries, leads, addEntry, Assoc.get?_eq_none isNew, Assoc.put_new isNew]
    rfl
  have noTables : draft.between [name] = [] := rfl
  simp only [Draft.assign, noTables, List.any_nil, Bool.false_eq_true, if_false,
    List.dropLast_singleton, List.append_nil, notClosed, List.getLastD_cons, List.getLastD_nil,
    changed, orMalformed, List.nil_append]
  rfl

theorem openTable_new (draft : Draft) (key : Key) {entries : Entries}
    (noPending : draft.marks.pending = []) (notOpened : draft.marks.isOpened key = false)
    (notClosed : draft.marks.isClosed key = false)
    (changed : changeAt true some key draft.entries = some entries) :
    draft.openTable key =
      .ok ⟨entries, { draft.marks with opened := key :: draft.marks.opened }, key⟩ := by
  simp only [Draft.openTable, settle_eq noPending, notOpened, notClosed, Bool.or_self,
    Bool.false_eq_true, if_false, changed, orMalformed]
  rfl

theorem openItem_new (draft : Draft) (key : Key) {entries : Entries}
    (noPending : draft.marks.pending = []) (notClosed : draft.marks.isClosed key = false)
    (changed : changeAt true (appendTable (key.getLastD "")) key.dropLast draft.entries =
      some entries) :
    draft.openItem key = .ok ⟨entries, ⟨(draft.marks.release key).closed,
      key :: (draft.marks.release key).opened, (draft.marks.release key).pending⟩, key⟩ := by
  simp only [Draft.openItem, settle_eq noPending, notClosed, Bool.false_eq_true, if_false, changed,
    orMalformed]
  rfl

/-- A line that gives a name of the open table a value that is no container. -/
def Assigns (line : List Char) (name : String) (value : Value) : Prop :=
  ∃ keyText valueText, line = keyText ++ [' ', '=', ' '] ++ valueText ∧ Spells keyText [name] ∧
    Writes valueText value ∧ isContainer value = false

/-- The lines of the entries of a table that has been opened. -/
theorem readsLines_entries (draft : Draft) {α : Type} {line : α → List Char}
    {entry : α → String × Value} {items : List α} {place : Entries → Entries} {inner : Entries}
    (assigns : ∀ item ∈ items, Assigns (line item) (entry item).1 (entry item).2)
    (leads : Leads draft.header place) (entries : draft.entries = place inner)
    (notClosed : draft.marks.isClosed draft.header = false)
    (distinct : (Assoc.keys (inner ++ items.map entry)).Nodup) :
    ReadsLines draft (items.map line)
      { draft with entries := place (inner ++ items.map entry) } := by
  induction items generalizing draft inner with
  | nil =>
      rw [List.map_nil, List.map_nil, List.append_nil, ← entries]
      exact .nil draft
  | cons item items ih =>
      obtain ⟨keyText, valueText, spelled, spells, writes, notContainer⟩ :=
        assigns item List.mem_cons_self
      have parts : (Assoc.keys inner ++ (entry item).1 :: Assoc.keys (items.map entry)).Nodup := by
        simpa [Assoc.keys] using distinct
      have isNew : (entry item).1 ∉ Assoc.keys inner :=
        fun member => (List.nodup_append.mp parts).2.2 _ member _ List.mem_cons_self rfl
      have assigned := assign_new draft (entry item).2 leads entries notClosed isNew
      -- Nothing is closed by it, so the marks stay as they are.
      rw [notContainer] at assigned
      have again : inner ++ (item :: items).map entry =
          inner ++ [entry item] ++ items.map entry := by simp
      rw [again] at distinct ⊢
      rw [List.map_cons, spelled]
      refine .cons (readsLine_assign spells writes assigned) ?_
      exact ih _ (fun other member => assigns other (List.mem_cons_of_mem item member)) leads rfl
        notClosed distinct

end Toml

end SqlAssist
