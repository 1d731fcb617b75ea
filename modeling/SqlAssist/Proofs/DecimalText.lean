import SqlAssist.Text.Digit

/-!
# Numbers as decimal text

A natural number is written with the digits `Nat.toDigits 10`. They are ASCII digits, and the value
of the run of digits is the number (`digitsValue_toDigits`).
-/
namespace SqlAssist

theorem toList_toString (n : Nat) : (toString n).toList = Nat.toDigits 10 n := by
  rw [Nat.toString_eq_ofList_toDigits, String.toList_ofList]

theorem toList_toString_natCast (n : Nat) : (toString (n : Int)).toList = Nat.toDigits 10 n := by
  rw [Int.toString_eq_repr, Int.repr_eq_if, if_pos (Int.natCast_nonneg n), Int.toNat_natCast]
  exact toList_toString n

theorem isDigit_of_mem_toDigits (n : Nat) : ∀ d ∈ Nat.toDigits 10 n, d.isDigit = true :=
  fun _ member => Nat.isDigit_of_mem_toDigits (by decide) (by decide) member

namespace Text

theorem ascii_of_isDigit {c : Char} (digit : c.isDigit = true) : c.val < 128 := by
  simp only [Char.isDigit, Bool.and_eq_true, decide_eq_true_eq] at digit
  exact UInt32.lt_of_le_of_lt digit.2 (by decide)

/-- An ASCII digit is a digit among those of all scripts. -/
theorem isDigit_of_ascii {c : Char} (digit : c.isDigit = true) : isDigit c = true := by
  rw [isDigit, if_pos (ascii_of_isDigit digit), digit]

theorem foldl_digitValue {text : List Char} (digits : ∀ d ∈ text, d.isDigit = true) (start : Nat) :
    text.foldl (fun value c => 10 * value + digitValue c) start =
      Nat.ofDigitChars 10 text start := by
  induction text generalizing start with
  | nil => rfl
  | cons c text ih =>
      have value : digitValue c = c.toNat - '0'.toNat :=
        if_pos (ascii_of_isDigit (digits c List.mem_cons_self))
      rw [List.foldl_cons, value, ih fun d member => digits d (List.mem_cons_of_mem c member)]
      rfl

theorem digitsValue_toDigits (n : Nat) : digitsValue (Nat.toDigits 10 n) = n :=
  (foldl_digitValue (isDigit_of_mem_toDigits n) 0).trans Nat.ofDigitChars_ten_toDigits

end Text

end SqlAssist
