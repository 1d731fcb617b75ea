import Mathlib.Algebra.Ring.Nat
import Mathlib.Data.Nat.Digits.Defs
import SqlAssist.Proofs.TomlValues

/-!
# Numbers with too many digits

A whole number of more than `Text.maxDigits` decimal digits can be neither read nor shown. In a
document such a number is visible: there is a run of that many decimal digits, or one of more than
`maxHexDigits` hexadecimal digits behind `0x` (`HasLongNumber`).

* **runs** — the digits that a reader takes are those of a run of the text (`TakesRun`);
* **sizes** — a number from a run that is not too long can be shown (`TakesRun.shown`), so a number
  that cannot be shown stands in a text with a long number (`Fits`).
-/
namespace SqlAssist

namespace Toml

/-! ## Long numbers in a text -/

/-- Digits with underscores among them, of which more than `limit` are digits. -/
def LongRun (isDigit : Char → Bool) (limit : Nat) (run : List Char) : Prop :=
  (∀ c ∈ run, isDigit c = true ∨ c = '_') ∧ limit < run.countP isDigit

/-- The most hexadecimal digits of which every number can be shown in decimal digits. -/
def maxHexDigits : Nat := 3571

/-- The text has a number with too many digits in it. -/
def HasLongNumber (text : List Char) : Prop :=
  (∃ run, run <:+: text ∧ LongRun Char.isDigit Text.maxDigits run) ∨
    ∃ run, '0' :: 'x' :: run <:+: text ∧ LongRun isHex maxHexDigits run

theorem HasLongNumber.mono {part text : List Char} (long : HasLongNumber part)
    (isPart : part <:+: text) : HasLongNumber text := by
  rcases long with ⟨run, inside, isLong⟩ | ⟨run, inside, isLong⟩
  · exact .inl ⟨run, inside.trans isPart, isLong⟩
  · exact .inr ⟨run, inside.trans isPart, isLong⟩

/-! ## The run that a reader takes -/

/-- The digits are those of a run at the start of the text, and the rest is behind that run. -/
def TakesRun (isDigit : Char → Bool) (text digits rest : List Char) : Prop :=
  ∃ run, text = run ++ rest ∧ digits = run.filter isDigit ∧ ∀ c ∈ run, isDigit c = true ∨ c = '_'

variable {isDigit : Char → Bool} {text digits rest : List Char}

theorem TakesRun.suffix (takes : TakesRun isDigit text digits rest) : rest <:+ text := by
  obtain ⟨run, rfl, _⟩ := takes
  exact List.suffix_append run rest

theorem TakesRun.all (takes : TakesRun isDigit text digits rest) :
    ∀ c ∈ digits, isDigit c = true := by
  obtain ⟨run, _, rfl, _⟩ := takes
  intro c member
  exact (List.mem_filter.mp member).2

/-- If there are too many digits, the run is a long one. -/
theorem TakesRun.exists_long (takes : TakesRun isDigit text digits rest) {limit : Nat}
    (many : limit < digits.length) : ∃ run, run <+: text ∧ LongRun isDigit limit run := by
  obtain ⟨run, rfl, rfl, inside⟩ := takes
  refine ⟨run, List.prefix_append run rest, inside, ?_⟩
  rwa [List.countP_eq_length_filter]

theorem TakesRun.cons {c : Char} (digit : isDigit c = true)
    (takes : TakesRun isDigit text digits rest) :
    TakesRun isDigit (c :: text) (c :: digits) rest := by
  obtain ⟨run, rfl, rfl, inside⟩ := takes
  refine ⟨c :: run, rfl, ?_, List.forall_mem_cons.mpr ⟨.inl digit, inside⟩⟩
  rw [List.filter_cons_of_pos digit]

theorem TakesRun.underscore (noDigit : isDigit '_' = false)
    (takes : TakesRun isDigit text digits rest) : TakesRun isDigit ('_' :: text) digits rest := by
  obtain ⟨run, rfl, rfl, inside⟩ := takes
  refine ⟨'_' :: run, rfl, ?_, List.forall_mem_cons.mpr ⟨.inr rfl, inside⟩⟩
  rw [List.filter_cons_of_neg (by simp [noDigit])]

theorem takesRun_nil : TakesRun isDigit text [] text := ⟨[], rfl, rfl, List.forall_mem_nil _⟩

theorem takesRun_digitRun (noDigit : isDigit '_' = false) (text : List Char) :
    TakesRun isDigit text (digitRun isDigit text).1 (digitRun isDigit text).2 := by
  fun_induction digitRun isDigit text with
  | case1 c text digit digits after found ih =>
      rw [found] at ih
      exact (TakesRun.cons digit ih).underscore noDigit
  | case3 c text _ digit digits after found ih =>
      rw [found] at ih
      exact TakesRun.cons digit ih
  | case2 | case4 | case5 => exact takesRun_nil

theorem takesRun_digits? (noDigit : isDigit '_' = false)
    (found : digits? isDigit text = some (digits, rest)) : TakesRun isDigit text digits rest := by
  cases text with
  | nil => cases found
  | cons c more =>
      rw [digits?] at found
      split at found
      · rename_i digit
        obtain ⟨rfl, rfl⟩ := Prod.mk.inj (Option.some.inj found)
        exact TakesRun.cons digit (takesRun_digitRun noDigit more)
      · cases found

theorem takesRun_wholePart? (found : wholePart? text = some (digits, rest)) :
    TakesRun Char.isDigit text digits rest := by
  unfold wholePart? at found
  split at found
  · obtain ⟨rfl, rfl⟩ := Prod.mk.inj (Option.some.inj found)
    exact TakesRun.cons rfl takesRun_nil
  · exact takesRun_digits? rfl found

/-! ## Sizes -/

/-- Digits below the base make a number below its power. -/
theorem foldl_digits_lt {base : Nat} {value : Char → Nat} (small : ∀ c ∈ digits, value c < base)
    (start : Nat) :
    digits.foldl (fun n c => base * n + value c) start < base ^ digits.length * (start + 1) := by
  induction digits generalizing start with
  | nil => simp
  | cons c digits ih =>
      obtain ⟨here, later⟩ := List.forall_mem_cons.mp small
      calc
        _ < base ^ digits.length * (base * start + value c + 1) := ih later _
        _ ≤ base ^ digits.length * (base * (start + 1)) := by
          apply Nat.mul_le_mul_left
          rw [Nat.mul_succ]
          omega
        _ = base ^ (c :: digits).length * (start + 1) := by
          rw [List.length_cons, pow_succ, Nat.mul_assoc]

theorem shownInt?_isSome {n : Int} (small : n.natAbs < 10 ^ Text.maxDigits) :
    (Value.shownInt? n).isSome = true := by
  have short : (toString n.natAbs).length ≤ Text.maxDigits := by
    rw [← String.length_toList, toList_toString]
    exact Nat.toDigits_length 10 n.natAbs Text.maxDigits (by decide) small
  rw [Value.shownInt?, if_neg (Nat.not_lt.mpr short)]
  rfl

theorem hexPower_le : 16 ^ maxHexDigits ≤ 10 ^ Text.maxDigits := by decide +kernel

theorem toNat_of_isDigit {c : Char} (digit : c.isDigit = true) : 48 ≤ c.toNat ∧ c.toNat ≤ 57 := by
  simp only [Char.isDigit, Bool.and_eq_true, decide_eq_true_eq] at digit
  exact digit

theorem digitValue_lt {c : Char} (digit : c.isDigit = true) : Text.digitValue c < 10 := by
  have bounds := toNat_of_isDigit digit
  have zero : '0'.toNat = 48 := rfl
  rw [Text.digitValue, if_pos (Text.ascii_of_isDigit digit)]
  omega

theorem hexValue_lt {c : Char} (hex : isHex c = true) : hexValue c < 16 := by
  simp only [isHex, Bool.or_eq_true, Bool.and_eq_true, decide_eq_true_eq] at hex
  have codes : '0'.toNat = 48 ∧ 'a'.toNat = 97 ∧ 'A'.toNat = 65 := ⟨rfl, rfl, rfl⟩
  by_cases digit : c.isDigit = true
  · have bounds := toNat_of_isDigit digit
    rw [hexValue, if_pos digit]
    omega
  · rw [hexValue, if_neg digit]
    rcases hex with (digit' | ⟨low, high⟩) | ⟨_, high⟩
    · exact absurd digit' digit
    · have high : c.toNat ≤ 102 := high
      rw [if_pos low]
      omega
    · have high : c.toNat ≤ 70 := high
      have capital : ¬ 'a' ≤ c := by
        intro low
        have low : 97 ≤ c.toNat := low
        omega
      rw [if_neg capital]
      omega

theorem isDigit_of_octal {c : Char} (octal : ('0' ≤ c && c ≤ '7') = true) : c.isDigit = true := by
  have below : '7'.val ≤ '9'.val := by decide
  simp only [Char.isDigit, Bool.and_eq_true, decide_eq_true_eq] at octal ⊢
  exact ⟨octal.1, UInt32.le_trans octal.2 below⟩

theorem hexValue_lt_of_octal {c : Char} (octal : ('0' ≤ c && c ≤ '7') = true) : hexValue c < 8 := by
  rw [hexValue, if_pos (isDigit_of_octal octal)]
  simp only [Bool.and_eq_true, decide_eq_true_eq] at octal
  have high : c.toNat ≤ 55 := octal.2
  have zero : '0'.toNat = 48 := rfl
  omega

theorem eq_zero_or_one {c : Char} (binary : (c == '0' || c == '1') = true) : c = '0' ∨ c = '1' := by
  simpa using binary

theorem isDigit_of_binary {c : Char}
    (binary : (c == '0' || c == '1') = true) : c.isDigit = true := by
  rcases eq_zero_or_one binary with rfl | rfl <;> rfl

theorem hexValue_lt_of_binary {c : Char}
    (binary : (c == '0' || c == '1') = true) : hexValue c < 2 := by
  rcases eq_zero_or_one binary with rfl | rfl <;> decide

/-- A number from a run that is not too long can be shown. -/
theorem TakesRun.shown {value : Char → Nat} {base : Nat} (takes : TakesRun isDigit text digits rest)
    (small : ∀ c, isDigit c = true → value c < base) {limit : Nat}
    (fits : base ^ limit ≤ 10 ^ Text.maxDigits) (positive : 0 < base)
    (few : digits.length ≤ limit) :
    (Value.shownInt? (digits.foldl (fun n c => base * n + value c) 0 : Nat)).isSome = true := by
  apply shownInt?_isSome
  rw [Int.natAbs_natCast]
  have bounded := foldl_digits_lt (fun c member => small c (takes.all c member)) 0
  calc
    _ < base ^ digits.length := by simpa using bounded
    _ ≤ base ^ limit := Nat.pow_le_pow_right positive few
    _ ≤ 10 ^ Text.maxDigits := fits

/-- The number can be shown, unless the text has a long number. -/
def Fits (text : List Char) (n : Int) : Prop :=
  HasLongNumber text ∨ (Value.shownInt? n).isSome = true

theorem Fits.mono {part text : List Char} {n : Int} (fits : Fits part n) (isPart : part <:+: text) :
    Fits text n :=
  fits.imp_left fun long => long.mono isPart

theorem Fits.neg {n : Int} (fits : Fits text n) : Fits text (-n) := by
  refine fits.imp_right fun shown => ?_
  rw [Value.shownInt?, Int.natAbs_neg]
  rw [Value.shownInt?] at shown
  split at shown
  · cases shown
  · rename_i short
    rw [if_neg short]
    rfl

theorem LongRun.mono {isDigit' : Char → Bool} (wider : ∀ c, isDigit c = true → isDigit' c = true)
    {limit : Nat} {run : List Char} (long : LongRun isDigit limit run) :
    LongRun isDigit' limit run :=
  ⟨fun c member => (long.1 c member).imp_left (wider c),
    Nat.lt_of_lt_of_le long.2 (List.countP_mono_left fun c _ => wider c)⟩

/-- A number in a base of at most ten: its digits are decimal digits too. -/
theorem TakesRun.fits {value : Char → Nat} {base : Nat} (takes : TakesRun isDigit text digits rest)
    (small : ∀ c, isDigit c = true → value c < base)
    (wider : ∀ c, isDigit c = true → c.isDigit = true) (positive : 0 < base) (atMost : base ≤ 10) :
    Fits text (digits.foldl (fun n c => base * n + value c) 0 : Nat) := by
  by_cases few : digits.length ≤ Text.maxDigits
  · exact .inr (takes.shown small (Nat.pow_le_pow_left atMost _) positive few)
  · obtain ⟨run, isPrefix, long⟩ := takes.exists_long (Nat.lt_of_not_le few)
    exact .inl (.inl ⟨run, isPrefix.isInfix, long.mono wider⟩)

theorem fits_of_hex (takes : TakesRun isHex text digits rest) :
    Fits ('0' :: 'x' :: text) (baseValue 16 digits : Nat) := by
  by_cases few : digits.length ≤ maxHexDigits
  · exact .inr (takes.shown (fun _ => hexValue_lt) hexPower_le (by decide) few)
  · obtain ⟨run, isPrefix, long⟩ := takes.exists_long (Nat.lt_of_not_le few)
    refine .inl (.inr ⟨run, ?_, long⟩)
    exact (List.prefix_cons_inj _ |>.mpr (List.prefix_cons_inj _ |>.mpr isPrefix)).isInfix

theorem baseNumber?_fits {n : Nat} (found : baseNumber? text = some (n, rest)) :
    Fits text n ∧ rest <:+ text := by
  unfold baseNumber? at found
  split at found
  · rename_i more
    obtain ⟨⟨digits, after⟩, taken, same⟩ := Option.map_eq_some_iff.mp found
    obtain ⟨rfl, rfl⟩ := Prod.mk.inj same
    have takes := takesRun_digits? rfl taken
    exact ⟨fits_of_hex takes, takes.suffix.trans (List.suffix_append ['0', 'x'] more)⟩
  · rename_i more
    obtain ⟨⟨digits, after⟩, taken, same⟩ := Option.map_eq_some_iff.mp found
    obtain ⟨rfl, rfl⟩ := Prod.mk.inj same
    have takes := takesRun_digits? rfl taken
    have inside : more <:+ '0' :: 'o' :: more := List.suffix_append ['0', 'o'] more
    have fits := takes.fits (fun _ => hexValue_lt_of_octal) (fun _ => isDigit_of_octal) (by decide)
      (by decide)
    exact ⟨fits.mono inside.isInfix, takes.suffix.trans inside⟩
  · rename_i more
    obtain ⟨⟨digits, after⟩, taken, same⟩ := Option.map_eq_some_iff.mp found
    obtain ⟨rfl, rfl⟩ := Prod.mk.inj same
    have takes := takesRun_digits? rfl taken
    have inside : more <:+ '0' :: 'b' :: more := List.suffix_append ['0', 'b'] more
    have fits := takes.fits (fun _ => hexValue_lt_of_binary) (fun _ => isDigit_of_binary)
      (by decide) (by decide)
    exact ⟨fits.mono inside.isInfix, takes.suffix.trans inside⟩
  · cases found

end Toml

end SqlAssist
