import Mathlib.Data.List.Basic
import SqlAssist.Proofs.ErrorMessages

/-!
# Lines and columns are counted exactly

A line and a column are looked up by passing line breaks one by one. The other side of the look-up
is the list of all places where a line starts (`lineStarts`), which the walk reads off at the number
of the line (`afterLines?_eq_getElem?`), by induction on the text.

* **the offset** — `IsPlaceOf` says which offset a line and a column stand for, if any, and
  `offset?_eq_some_iff` that this is the offset found;
* **the way back** — the line and the column of an offset lead to it (`offset?_ofOffset`).
-/
namespace SqlAssist

/-! ## Where lines start -/

/-- Where the lines of a text start: the first one at its start, each further one just past a line
break. -/
def lineStarts (text : List Char) : List Nat := 0 :: (text.idxsOf '\n').map (· + 1)

theorem length_lineStarts (text : List Char) : (lineStarts text).length = 1 + text.count '\n' := by
  rw [lineStarts, List.length_cons, List.length_map, List.length_idxsOf, Nat.add_comm]

theorem lineStarts_break (rest : List Char) :
    lineStarts ('\n' :: rest) = 0 :: (lineStarts rest).map (· + 1) := by
  simp only [lineStarts, List.idxsOf_cons, beq_self_eq_true, if_true, Nat.zero_add, List.map_cons]
  rw [List.idxsOf_start]

theorem lineStarts_other {c : Char} (other : c ≠ '\n') (rest : List Char) :
    lineStarts (c :: rest) = 0 :: (lineStarts rest).tail.map (· + 1) := by
  have notBreak : (c == '\n') = false := beq_eq_false_iff_ne.mpr other
  simp only [lineStarts, List.idxsOf_cons, notBreak, Bool.false_eq_true, if_false, Nat.zero_add,
    List.tail_cons]
  rw [List.idxsOf_start]

/-- Passing `n` line breaks leads to the start of the line behind them. -/
theorem afterLines?_eq_getElem? (n : Nat) (text : List Char) :
    afterLines? n text = (lineStarts text)[n]? := by
  induction text generalizing n with
  | nil => cases n <;> rfl
  | cons c rest ih =>
      cases n with
      | zero => rfl
      | succ n =>
          rw [afterLines?, ih]
          by_cases isBreak : c = '\n'
          · rw [if_pos isBreak, isBreak, lineStarts_break, List.getElem?_cons_succ,
              List.getElem?_map]
          · -- The count stays, and so does the line: all starts but the first move on by one.
            rw [if_neg isBreak, lineStarts_other isBreak, List.getElem?_cons_succ,
              List.getElem?_map, List.getElem?_tail]

/-! ## The offset of a line and a column -/

/-- The offset that a line and a column stand for, both counted from one. The line is one of the
text; the column is counted from its start and may lead on to later lines, but not beyond the
text. -/
structure IsPlaceOf (text : List Char) (line column : Int) (offset : Nat) : Prop where
  line_pos : 1 ≤ line
  line_le : line ≤ 1 + text.count '\n'
  column_pos : 1 ≤ column
  counted : ∃ start ∈ (lineStarts text)[(line - 1).toNat]?, (offset : Int) = start + column - 1
  inside : offset ≤ text.length

theorem offset?_eq_some_iff {line column : Int} {text : List Char} {offset : Nat} :
    offset? line column text = some offset ↔ IsPlaceOf text line column offset := by
  by_cases counted : line < 1 ∨ column < 1
  · -- Numbers below one are refused, and they stand for no place.
    have refused : offset? line column text = none := if_pos counted
    rw [refused]
    constructor
    · intro found
      cases found
    · intro place
      have := place.line_pos
      have := place.column_pos
      omega
  · simp only [offset?, if_neg counted, afterLines?_eq_getElem?]
    cases isStart : (lineStarts text)[(line - 1).toNat]? with
    | none =>
        constructor
        · intro found
          cases found
        · intro place
          obtain ⟨start, isLine, _⟩ := place.counted
          rw [isStart] at isLine
          cases isLine
    | some start =>
        have bound : (line - 1).toNat < 1 + text.count '\n' := by
          rw [← length_lineStarts]
          exact (List.getElem?_eq_some_iff.mp isStart).1
        rw [Option.ite_none_left_eq_some, Option.some.injEq]
        constructor
        · rintro ⟨inside, same⟩
          refine ⟨?_, ?_, ?_, ⟨start, isStart, ?_⟩, ?_⟩ <;> omega
        · intro place
          obtain ⟨other, isLine, same⟩ := place.counted
          obtain rfl := Option.some.inj (isStart.symm.trans isLine)
          have := place.inside
          constructor <;> omega

/-- The arithmetic of lines and columns is exact. Whatever the two numbers are, the offset found is
the one that they stand for, and none is found if they stand for none; and the line and the column
of every offset of the text, its end included, lead back to the offset. -/
theorem offset?_exact (line column : Int) (text : List Char) :
    (∀ offset, offset? line column text = some offset ↔ IsPlaceOf text line column offset) ∧
    (offset? line column text = none ↔ ¬ ∃ offset, IsPlaceOf text line column offset) ∧
    ∀ offset ≤ text.length,
      offset? (ErrorPosition.ofOffset text offset).line (ErrorPosition.ofOffset text offset).column
        text = some offset := by
  refine ⟨fun _ => offset?_eq_some_iff, ?_, fun _ inside => offset?_ofOffset inside⟩
  simp only [← offset?_eq_some_iff, Option.eq_none_iff_forall_ne_some, not_exists, ne_eq]

/-- A text that ends with a line break: its end is the first column of a third line, and the second
column there is none. -/
theorem offset?_exact_lastLine :
    let text := "SELECT\n1\n".toList
    lineStarts text = [0, 7, 9] ∧ ErrorPosition.ofOffset text 9 = ⟨3, 1⟩ ∧
    offset? 3 1 text = some 9 ∧ IsPlaceOf text 3 1 9 ∧ ¬ ∃ offset, IsPlaceOf text 3 2 offset := by
  intro text
  have position : ErrorPosition.ofOffset text 9 = ⟨3, 1⟩ := by decide
  have found : offset? 3 1 text = some 9 := by
    have back := (offset?_exact 3 1 text).2.2 9 (by decide)
    rwa [position] at back
  refine ⟨by decide, position, found, ((offset?_exact 3 1 text).1 9).mp found, ?_⟩
  exact (offset?_exact 3 2 text).2.1.mp (by decide)

end SqlAssist
