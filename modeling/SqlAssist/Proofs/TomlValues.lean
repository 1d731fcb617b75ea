import Mathlib.Algebra.Ring.Nat
import SqlAssist.Proofs.DecimalText
import SqlAssist.Toml.Document

/-!
# Written values are read back

What is written into a document reads back as what it was: texts between double quotes and whole
numbers.

* **texts** — `readBasic_encode`: a written text reads back, whatever follows it, and
  `isControl_of_mem_encode`: it stands on one line;
* **lines** — a date, a time or a number never reaches beyond its line (`readScalar_line`), so it is
  enough to read it alone;
* **numbers** — `readScalar_eq`: the digits of a number read back as the number, unless there are
  too many of them.
-/
namespace SqlAssist

/-! ## Hexadecimal digits -/

namespace Text

theorem length_hexDigits (width n : Nat) : (hexDigits width n).length = width := by
  induction width generalizing n with
  | zero => rfl
  | succ width ih => rw [hexDigits, List.length_append, ih, List.length_singleton]

end Text

namespace Toml

theorem isHex_digitChar : ∀ d, d < 16 → isHex (Nat.digitChar d) = true := by decide

theorem hexValue_digitChar : ∀ d, d < 16 → hexValue (Nat.digitChar d) = d := by decide

theorem isHex_hexDigits (width n : Nat) : (Text.hexDigits width n).all isHex = true := by
  induction width generalizing n with
  | zero => rfl
  | succ width ih =>
      simp only [Text.hexDigits, List.all_append, ih, Bool.true_and, List.all_cons, List.all_nil,
        Bool.and_true]
      exact isHex_digitChar _ (Nat.mod_lt n (by decide))

theorem baseValue_concat (base : Nat) (digits : List Char) (c : Char) :
    baseValue base (digits ++ [c]) = base * baseValue base digits + hexValue c := by
  simp [baseValue]

theorem baseValue_hexDigits (width n : Nat) :
    baseValue 16 (Text.hexDigits width n) = n % 16 ^ width := by
  induction width generalizing n with
  | zero => simp [Text.hexDigits, baseValue, Nat.mod_one]
  | succ width ih =>
      rw [Text.hexDigits, baseValue_concat, ih, hexValue_digitChar _ (Nat.mod_lt n (by decide)),
        Nat.pow_succ, Nat.mul_comm (16 ^ width), Nat.mod_mul]
      omega

/-! ## Texts -/

theorem codePoint?_append {digits : List Char} {c : Char} (hex : digits.all isHex = true)
    (value : baseValue 16 digits = c.toNat) (rest : List Char) :
    codePoint? digits.length (digits ++ rest) = some ([c], rest) := by
  have valid : c.toNat.isValidChar := c.valid
  simp only [codePoint?, List.take_left, List.drop_left, hex, value, valid, Char.ofNat_toNat]
  rfl

theorem codePoint?_hexDigits (c : Char) (small : c.toNat < 16 ^ 4) (rest : List Char) :
    codePoint? 4 (Text.hexDigits 4 c.toNat ++ rest) = some ([c], rest) := by
  have value : baseValue 16 (Text.hexDigits 4 c.toNat) = c.toNat := by
    rw [baseValue_hexDigits, Nat.mod_eq_of_lt small]
  have read := codePoint?_append (isHex_hexDigits 4 c.toNat) value rest
  rwa [Text.length_hexDigits] at read

theorem readBasic_escape {c : Char} {text after : List Char}
    (means : escape? false text = some ([c], after)) :
    readBasic false ('\\' :: text) =
      (readBasic false after).map fun (more, after) => (c :: more, after) := by
  rw [readBasic]
  have inside : closes '"' false ('\\' :: text) = false := rfl
  simp only [inside, Bool.false_eq_true, if_false, if_true]
  split
  · rename_i chars' after' means'
    cases means.symm.trans means'
    rfl
  · rename_i fails
    cases means.symm.trans fails

theorem readBasic_plain {c : Char} (notQuote : c ≠ '"') (notEscape : c ≠ '\\')
    (notRefused : isRefused c = false) (rest : List Char) :
    readBasic false (c :: rest) =
      (readBasic false rest).map fun (more, after) => (c :: more, after) := by
  rw [readBasic]
  have inside : closes '"' false (c :: rest) = false := by
    simp [closes, List.isPrefixOf, Ne.symm notQuote]
  have accepted : isRefusedIn false c = false := by simp [isRefusedIn, notRefused]
  simp only [inside, accepted, notEscape, Bool.false_eq_true, if_false]

theorem readBasic_encodeChar (c : Char) (rest : List Char) :
    readBasic false (encodeChar c ++ rest) =
      (readBasic false rest).map fun (more, after) => (c :: more, after) := by
  unfold encodeChar
  by_cases special : c = '\\' ∨ c = '"'
  · rw [if_pos special]
    have means : escape? false (c :: rest) = some ([c], rest) := by
      rcases special with rfl | rfl <;> rfl
    exact readBasic_escape means
  · rw [if_neg special]
    obtain ⟨notEscape, notQuote⟩ := not_or.mp special
    cases control : isControl c with
    | true =>
        have small : c.toNat < 16 ^ 4 := by
          simp only [isControl, Bool.or_eq_true, decide_eq_true_eq, beq_iff_eq] at control
          omega
        have means : escape? false ('u' :: (Text.hexDigits 4 c.toNat ++ rest)) = some ([c], rest) :=
          codePoint?_hexDigits c small rest
        exact readBasic_escape means
    | false => exact readBasic_plain notQuote notEscape (by rw [isRefused, control]; rfl) rest

theorem readBasic_encode (text rest : List Char) :
    readBasic false (text.flatMap encodeChar ++ '"' :: rest) = .ok (text, rest) := by
  induction text with
  | nil =>
      rw [List.flatMap_nil, List.nil_append, readBasic]
      rfl
  | cons c text ih =>
      rw [List.flatMap_cons, List.append_assoc, readBasic_encodeChar, ih]
      rfl

theorem isControl_of_mem_hexDigits {width n : Nat} {c : Char}
    (member : c ∈ Text.hexDigits width n) : isControl c = false := by
  have digit : ∀ d, d < 16 → isControl (Nat.digitChar d) = false := by decide
  induction width generalizing n with
  | zero => cases member
  | succ width ih =>
      rcases List.mem_append.mp member with isEarlier | isLast
      · exact ih isEarlier
      · rw [List.mem_singleton.mp isLast]
        exact digit _ (Nat.mod_lt n (by decide))

theorem isControl_of_mem_encodeChar {c d : Char}
    (member : d ∈ encodeChar c) : isControl d = false := by
  unfold encodeChar at member
  split at member
  · rename_i special
    rcases special with rfl | rfl <;> simp at member <;> rcases member with rfl | rfl <;> rfl
  · split at member
    · rcases List.mem_cons.mp member with rfl | member
      · rfl
      · rcases List.mem_cons.mp member with rfl | member
        · rfl
        · exact isControl_of_mem_hexDigits member
    · rename_i notControl
      rw [List.mem_singleton.mp member]
      exact Bool.eq_false_iff.mpr notControl

/-- A written text holds no control character, so it stands on one line. -/
theorem isControl_of_mem_encode {text : List Char} {c : Char} (member : c ∈ encode text) :
    isControl c = false := by
  rcases List.mem_append.mp member with body | isLast
  · rcases List.mem_cons.mp body with rfl | inside
    · rfl
    · obtain ⟨d, _, isOf⟩ := List.mem_flatMap.mp inside
      exact isControl_of_mem_encodeChar isOf
  · rw [List.mem_singleton.mp isLast]
    rfl

/-- A written text does not start with three quotes, unless it is empty and a quote follows it. -/
theorem closes_encode {text rest : List Char} (apart : text = [] → rest.head? ≠ some '"') :
    closes '"' true (encode text ++ rest) = false := by
  cases text with
  | nil =>
      cases rest with
      | nil => rfl
      | cons c rest =>
          have other : c ≠ '"' := fun same => apart rfl (congrArg some same)
          simp [closes, encode, List.isPrefixOf, Ne.symm other]
  | cons c text =>
      have first : ∃ d more, encodeChar c = d :: more ∧ d ≠ '"' := by
        unfold encodeChar
        split
        · exact ⟨'\\', [c], rfl, by decide⟩
        · rename_i special
          split
          · exact ⟨'\\', _, rfl, by decide⟩
          · exact ⟨c, [], rfl, (not_or.mp special).2⟩
      obtain ⟨d, more, spelled, other⟩ := first
      simp [closes, encode, spelled, List.isPrefixOf, Ne.symm other]

theorem readText_encode {text rest : List Char} (apart : text = [] → rest.head? ≠ some '"') :
    readText '"' (encode text ++ rest) = .ok (text, rest) := by
  simp only [readText, closes_encode apart]
  have body : (encode text ++ rest).drop 1 = text.flatMap encodeChar ++ '"' :: rest := by
    simp [encode]
  rw [body]
  exact readBasic_encode text rest

/-! ## Lines -/

/-- What was found on a line, with the lines after it. -/
def onLine {α : Type} (rest : List Char) (found : α × List Char) : α × List Char :=
  (found.1, found.2 ++ '\n' :: rest)

/-- A reader that never reaches beyond a line. -/
def StaysOnLine {α : Type} (read : List Char → Option (α × List Char)) : Prop :=
  ∀ text rest, read (text ++ '\n' :: rest) = (read text).map (onLine rest)

theorem StaysOnLine.bind {α β : Type} {read : List Char → Option (α × List Char)}
    {next : α → List Char → Option (β × List Char)} (first : StaysOnLine read)
    (second : ∀ a, StaysOnLine (next a)) :
    StaysOnLine fun text => (read text).bind fun found => next found.1 found.2 := by
  intro text rest
  simp only [first text rest]
  cases read text with
  | none => rfl
  | some found => exact second found.1 found.2 rest

theorem staysOnLine_some {α : Type} (a : α) : StaysOnLine fun text => some (a, text) :=
  fun _ _ => rfl

variable (text rest : List Char)

theorem mark?_line {c : Char} (visible : c ≠ '\n') :
    mark? c (text ++ '\n' :: rest) = (mark? c text).map (· ++ '\n' :: rest) := by
  cases text with
  | nil => simp [mark?, Ne.symm visible]
  | cons d text =>
      simp only [List.cons_append, mark?]
      split <;> rfl

theorem StaysOnLine.mark {α : Type} {read : List Char → Option (α × List Char)} {c : Char}
    (visible : c ≠ '\n') (stays : StaysOnLine read) :
    StaysOnLine fun text => (mark? c text).bind read := by
  intro text rest
  simp only [mark?_line text rest visible]
  cases mark? c text with
  | none => rfl
  | some text => exact stays text rest

theorem staysOnLine_fixed (count low high : Nat) : StaysOnLine (fixed? count low high) := by
  intro text rest
  by_cases long : count ≤ text.length
  · simp only [fixed?, List.take_append_of_le_length long, List.drop_append_of_le_length long]
    split <;> rfl
  · -- The end of the line is among the characters, and it is no digit.
    have short : (text.take count).length ≠ count := by
      rw [List.length_take]
      omega
    have member : '\n' ∈ (text ++ '\n' :: rest).take count := by
      obtain ⟨more, rfl⟩ := Nat.exists_eq_add_of_lt (Nat.lt_of_not_le long)
      simp [List.take_append, Nat.add_assoc]
    have notDigits : ((text ++ '\n' :: rest).take count).all Char.isDigit = false := by
      rw [List.all_eq_false]
      exact ⟨'\n', member, by decide⟩
    simp only [fixed?, short, notDigits, Bool.false_eq_true, false_and, and_false, if_false]
    rfl

theorem takeWhile_line {p : Char → Bool} (stops : p '\n' = false) :
    (text ++ '\n' :: rest).takeWhile p = text.takeWhile p := by
  induction text with
  | nil => simp [stops]
  | cons c text ih =>
      rw [List.cons_append, List.takeWhile_cons, List.takeWhile_cons, ih]

theorem isDigit_newline : Char.isDigit '\n' = false := rfl

theorem drop_line {p : Char → Bool} :
    (text ++ '\n' :: rest).drop (text.takeWhile p).length =
      text.drop (text.takeWhile p).length ++ '\n' :: rest :=
  List.drop_append_of_le_length (List.takeWhile_sublist p).length_le

theorem fraction_line : fraction (text ++ '\n' :: rest) = onLine rest (fraction text) := by
  cases text with
  | nil => rfl
  | cons c text =>
      by_cases isMark : c = '.'
      · subst isMark
        simp only [List.cons_append, fraction, takeWhile_line text rest isDigit_newline, drop_line]
        split <;> rfl
      · have other : ∀ text, fraction (c :: text) = (0, c :: text) := by
          intro text
          unfold fraction
          split
          · rename_i same
            exact absurd (List.cons.inj same).1 isMark
          · rfl
        rw [List.cons_append, other, other]
        rfl

theorem time?_line : time? (text ++ '\n' :: rest) = (time? text).map (onLine rest) := by
  have fraction (hour minute second : Nat) : StaysOnLine fun text =>
      some ((⟨hour, minute, second, (fraction text).1⟩ : TimeOfDay), (fraction text).2) := by
    intro text rest
    simp only [fraction_line]
    rfl
  have stays := (staysOnLine_fixed 2 0 23).bind fun hour =>
    .mark (by decide : ':' ≠ '\n') <| (staysOnLine_fixed 2 0 59).bind fun minute =>
      .mark (by decide : ':' ≠ '\n') <| (staysOnLine_fixed 2 0 59).bind fun second =>
        fraction hour minute second
  exact stays text rest

theorem date?_line : date? (text ++ '\n' :: rest) = (date? text).map (onLine rest) := by
  have stays := (staysOnLine_fixed 4 0 9999).bind fun year =>
    .mark (by decide : '-' ≠ '\n') <| (staysOnLine_fixed 2 1 12).bind fun month =>
      .mark (by decide : '-' ≠ '\n') <| (staysOnLine_fixed 2 1 31).bind fun day =>
        staysOnLine_some (⟨year, month, day⟩ : Date)
  exact stays text rest

theorem timeAfterDate?_line :
    timeAfterDate? (text ++ '\n' :: rest) = (timeAfterDate? text).map (onLine rest) := by
  cases text with
  | nil => rfl
  | cons c text =>
      simp only [List.cons_append, timeAfterDate?, time?_line]
      split <;> rfl

theorem hoursAndMinutes?_line :
    hoursAndMinutes? (text ++ '\n' :: rest) = (hoursAndMinutes? text).map (onLine rest) := by
  have stays := (staysOnLine_fixed 2 0 23).bind fun hours =>
    .mark (by decide : ':' ≠ '\n') <| (staysOnLine_fixed 2 0 59).bind fun minutes =>
      staysOnLine_some (60 * hours + minutes : Int)
  exact stays text rest

theorem offset_line : offset (text ++ '\n' :: rest) = onLine rest (offset text) := by
  cases text with
  | nil => rfl
  | cons c text =>
      simp only [List.cons_append, offset, hoursAndMinutes?_line]
      split
      · rfl
      · split
        · cases hoursAndMinutes? text <;> rfl
        · split
          · cases hoursAndMinutes? text <;> rfl
          · rfl

theorem dateTime?_line :
    dateTime? (text ++ '\n' :: rest) = (dateTime? text).map (·.map (onLine rest)) := by
  simp only [dateTime?, date?_line]
  rcases date? text with _ | ⟨date, text⟩
  · rfl
  simp only [Option.map_some, onLine, timeAfterDate?_line]
  split
  · rfl
  rcases timeAfterDate? text with _ | ⟨time, text⟩
  · rfl
  simp only [Option.map_some, onLine, offset_line]
  rfl

variable {isDigit : Char → Bool}

theorem digitRun_cons {c : Char} (notMark : c ≠ '_') :
    digitRun isDigit (c :: text) =
      if isDigit c then (c :: (digitRun isDigit text).1, (digitRun isDigit text).2)
      else ([], c :: text) := by
  rw [digitRun]
  exact fun _ _ same => absurd same notMark

theorem digitRun_line (newline : isDigit '\n' = false) (underscore : isDigit '_' = false) :
    digitRun isDigit (text ++ '\n' :: rest) = onLine rest (digitRun isDigit text) := by
  fun_induction digitRun isDigit text with
  | case1 c text isDigit' digits after found ih =>
      rw [found] at ih
      simp only [List.cons_append, digitRun, isDigit', if_true, ih]
      rfl
  | case2 c text notDigit =>
      simp only [List.cons_append, digitRun, notDigit]
      rfl
  | case3 c text notMark isDigit' digits after found ih =>
      have notUnderscore : c ≠ '_' := by
        rintro rfl
        rw [underscore] at isDigit'
        cases isDigit'
      rw [found] at ih
      rw [List.cons_append, digitRun_cons _ notUnderscore, if_pos isDigit', ih]
      rfl
  | case4 c text notMark notDigit =>
      by_cases isUnderscore : c = '_'
      · subst isUnderscore
        cases text with
        | nil =>
            simp only [List.cons_append, List.nil_append, digitRun, newline]
            rfl
        | cons d text => exact (notMark d text rfl rfl).elim
      · rw [List.cons_append, digitRun_cons _ isUnderscore, if_neg notDigit]
        rfl
  | case5 =>
      rw [List.nil_append, digitRun_cons _ (by decide), newline]
      rfl

theorem digits?_line (newline : isDigit '\n' = false) (underscore : isDigit '_' = false) :
    digits? isDigit (text ++ '\n' :: rest) = (digits? isDigit text).map (onLine rest) := by
  cases text with
  | nil => simp [digits?, newline]
  | cons c text =>
      simp only [List.cons_append, digits?, digitRun_line text rest newline underscore]
      split <;> rfl

theorem line_ne_cons {c : Char} (visible : c ≠ '\n') (other : ∀ more, text = c :: more → False) :
    ∀ more, text ++ '\n' :: rest = c :: more → False := by
  intro more same
  cases text with
  | nil => exact visible (List.cons.inj same).1.symm
  | cons d text =>
      obtain ⟨rfl, _⟩ := List.cons.inj same
      exact other text rfl

theorem line_ne_cons_cons {c d : Char} (visible : c ≠ '\n') (visible' : d ≠ '\n')
    (other : ∀ more, text = c :: d :: more → False) :
    ∀ more, text ++ '\n' :: rest = c :: d :: more → False := by
  intro more same
  cases text with
  | nil => exact visible (List.cons.inj same).1.symm
  | cons a text =>
      obtain ⟨rfl, tail⟩ := List.cons.inj same
      exact line_ne_cons text rest visible'
        (fun more spelled => other more (by rw [spelled])) more tail

theorem baseNumber?_line : baseNumber? (text ++ '\n' :: rest) =
    (baseNumber? text).map (onLine rest) := by
  have digits : ∀ (isDigit : Char → Bool) (base : Nat) (text : List Char), isDigit '\n' = false →
      isDigit '_' = false →
      ((digits? isDigit (text ++ '\n' :: rest)).map fun (ds, after) => (baseValue base ds, after)) =
        ((digits? isDigit text).map fun (ds, after) => (baseValue base ds, after)).map
          (onLine rest) := by
    intro isDigit base text newline underscore
    rw [digits?_line text rest newline underscore]
    cases digits? isDigit text <;> rfl
  fun_cases baseNumber? text with
  | case1 text => exact digits _ 16 text rfl rfl
  | case2 text => exact digits _ 8 text rfl rfl
  | case3 text => exact digits _ 2 text rfl rfl
  | case4 _ notHex notOctal notBinary =>
      rw [baseNumber?]
      · rfl
      · exact line_ne_cons_cons text rest (by decide) (by decide) notHex
      · exact line_ne_cons_cons text rest (by decide) (by decide) notOctal
      · exact line_ne_cons_cons text rest (by decide) (by decide) notBinary

theorem wholePart?_line : wholePart? (text ++ '\n' :: rest) =
    (wholePart? text).map (onLine rest) := by
  fun_cases wholePart? text with
  | case1 text => rfl
  | case2 _ notZero =>
      rw [wholePart?]
      · exact digits?_line text rest rfl rfl
      · exact line_ne_cons text rest (by decide) notZero

theorem fractionPart?_line :
    fractionPart? (text ++ '\n' :: rest) = (fractionPart? text).map (onLine rest) :=
  StaysOnLine.mark (by decide : '.' ≠ '\n')
    (fun text rest => digits?_line text rest isDigit_newline rfl) text rest

theorem signPart_line : signPart (text ++ '\n' :: rest) = onLine rest (signPart text) := by
  fun_cases signPart text with
  | case1 text => rfl
  | case2 text => rfl
  | case3 _ notMinus notPlus =>
      rw [signPart]
      · rfl
      · exact line_ne_cons text rest (by decide) notMinus
      · exact line_ne_cons text rest (by decide) notPlus

theorem exponentPart?_cons (c : Char) :
    exponentPart? (c :: text) =
      if c = 'e' ∨ c = 'E' then
        (digits? Char.isDigit (signPart text).2).map fun (digits, after) =>
          let n : Int := Text.digitsValue digits
          (if (signPart text).1 then -n else n, after)
      else none := by
  rfl

theorem exponentPart?_line :
    exponentPart? (text ++ '\n' :: rest) = (exponentPart? text).map (onLine rest) := by
  cases text with
  | nil => rfl
  | cons c text =>
      simp only [List.cons_append, exponentPart?_cons, signPart_line, onLine,
        digits?_line (signPart text).2 rest isDigit_newline rfl]
      split
      · cases digits? Char.isDigit (signPart text).2 <;> rfl
      · rfl

theorem decimal?_line :
    decimal? (text ++ '\n' :: rest) = (decimal? text).map (·.map (onLine rest)) := by
  simp only [decimal?, signPart_line, onLine, wholePart?_line]
  rcases wholePart? (signPart text).2 with _ | ⟨whole, after⟩
  · rfl
  simp only [Option.map_some, onLine, fractionPart?_line]
  rcases fractionPart? after with _ | ⟨fraction, after⟩
  · simp only [Option.map_none, Option.getD_none, exponentPart?_line]
    rcases exponentPart? after with _ | ⟨exponent, after⟩
    · simp only [Option.map_none]
      split
      · rename_i some
        cases some
      · split <;> rfl
    · rfl
  · simp only [Option.map_some, Option.getD_some, onLine, exponentPart?_line]
    rcases exponentPart? after with _ | ⟨exponent, after⟩
    · rfl
    · rfl

theorem special?_line : special? (text ++ '\n' :: rest) = (special? text).map (onLine rest) := by
  simp only [special?, signPart_line, onLine]
  generalize (signPart text).2 = after
  by_cases long : 3 ≤ after.length
  · rw [List.take_append_of_le_length long, List.drop_append_of_le_length long]
    split
    · cases Entry.special? (signPart text).1 (after.take 3) <;> rfl
    · rfl
  · -- A word that the end of the line cuts short is neither of the two.
    have short : after.take 3 ≠ "inf".toList ∧ after.take 3 ≠ "nan".toList := by
      constructor <;> intro same <;>
      · have := congrArg List.length same
        simp at this
        omega
    have cut : (after ++ '\n' :: rest).take 3 ≠ "inf".toList ∧
        (after ++ '\n' :: rest).take 3 ≠ "nan".toList := by
      obtain ⟨more, isLength⟩ := Nat.exists_eq_add_of_lt (Nat.lt_of_not_le long)
      have member : '\n' ∈ (after ++ '\n' :: rest).take 3 := by
        rw [isLength]
        simp [List.take_append, Nat.add_assoc]
      constructor <;> intro same <;> rw [same] at member <;> simp at member
    simp only [short, cut, or_self, if_false]
    rfl

/-- A date, a time or a number never reaches beyond its line. -/
theorem readScalar_line : readScalar (text ++ '\n' :: rest) =
    (readScalar text).map (onLine rest) := by
  simp only [readScalar, dateTime?_line, time?_line, baseNumber?_line, decimal?_line, special?_line]
  rcases dateTime? text with _ | found
  · rcases time? text with _ | found
    · rcases baseNumber? text with _ | found
      · rcases decimal? text with _ | found
        · cases special? text <;> rfl
        · rfl
      · rfl
    · rfl
  · cases found <;> rfl

/-! ## Whole numbers -/

section

variable {text}

theorem not_mem_digits {c : Char} (notDigit : c.isDigit = false)
    (digits : ∀ d ∈ text, d.isDigit = true) : c ∉ text := by
  intro member
  rw [digits c member] at notDigit
  cases notDigit

theorem mark?_digits {c : Char} (mark : c.isDigit = false) (digits : ∀ d ∈ text, d.isDigit = true) :
    mark? c text = none := by
  cases text with
  | nil => rfl
  | cons d text =>
      have other : d ≠ c := by
        rintro rfl
        exact not_mem_digits mark digits List.mem_cons_self
      simp [mark?, other]

theorem digits_of_fixed? {count low high n : Nat} {after : List Char}
    (digits : ∀ d ∈ text, d.isDigit = true) (found : fixed? count low high text = some (n, after)) :
    ∀ d ∈ after, d.isDigit = true := by
  simp only [fixed?] at found
  split at found
  · cases found
    exact fun d member => digits d (List.mem_of_mem_drop member)
  · cases found

/-- Digits alone are no time. -/
theorem time?_digits (digits : ∀ d ∈ text, d.isDigit = true) : time? text = none := by
  simp only [time?, Option.bind_eq_bind]
  cases found : fixed? 2 0 23 text with
  | none => rfl
  | some hour =>
      simp only [Option.bind_some, mark?_digits (by decide : Char.isDigit ':' = false)
        (digits_of_fixed? digits found)]
      rfl

/-- Digits alone are no date. -/
theorem dateTime?_digits (digits : ∀ d ∈ text, d.isDigit = true) : dateTime? text = none := by
  simp only [dateTime?, date?, Option.bind_eq_bind]
  cases found : fixed? 4 0 9999 text with
  | none => rfl
  | some year =>
      simp only [Option.bind_some, mark?_digits (by decide : Char.isDigit '-' = false)
        (digits_of_fixed? digits found)]
      rfl

theorem baseNumber?_digits (digits : ∀ d ∈ text, d.isDigit = true) : baseNumber? text = none := by
  have other {c : Char} (notDigit : c.isDigit = false)
      (more : List Char) : text ≠ '0' :: c :: more := by
    rintro rfl
    exact not_mem_digits notDigit digits (by simp)
  rw [baseNumber?]
  · exact other rfl
  · exact other rfl
  · exact other rfl

theorem signPart_digits (digits : ∀ d ∈ text, d.isDigit = true) :
    signPart text = (false, text) := by
  have other {c : Char} (notDigit : c.isDigit = false) (more : List Char) : text ≠ c :: more := by
    rintro rfl
    exact not_mem_digits notDigit digits List.mem_cons_self
  rw [signPart]
  · exact other rfl
  · exact other rfl

theorem digitRun_digits (digits : ∀ d ∈ text, d.isDigit = true) :
    digitRun Char.isDigit text = (text, []) := by
  induction text with
  | nil => rfl
  | cons c text ih =>
      have isDigit := digits c List.mem_cons_self
      have notMark : c ≠ '_' := by
        rintro rfl
        cases isDigit
      rw [digitRun_cons _ notMark, if_pos isDigit, ih fun d member =>
        digits d (List.mem_cons_of_mem c member)]

end

theorem toDigits_ne_zero_cons {n : Nat} (positive : 0 < n) (more : List Char) :
    Nat.toDigits 10 n ≠ '0' :: more := by
  induction n using Nat.strongRecOn generalizing more with
  | _ n ih =>
      have digit : ∀ d, d < 10 → 0 < d → Nat.digitChar d ≠ '0' := by decide
      by_cases small : n < 10
      · rw [Nat.toDigits_of_lt_base small]
        intro same
        exact digit n small positive (List.cons.inj same).1
      · rw [Nat.toDigits_of_base_le (by decide) (Nat.le_of_not_lt small)]
        intro same
        cases high : Nat.toDigits 10 (n / 10) with
        | nil => exact Nat.toDigits_ne_nil high
        | cons c rest =>
            rw [high] at same
            obtain ⟨rfl, _⟩ := List.cons.inj same
            exact ih (n / 10) (by omega) (by omega) rest high

theorem wholePart?_toDigits (n : Nat) :
    wholePart? (Nat.toDigits 10 n) = some (Nat.toDigits 10 n, []) := by
  rcases Nat.eq_zero_or_pos n with rfl | positive
  · rfl
  · rw [wholePart?]
    · have digits := isDigit_of_mem_toDigits n
      cases spelled : Nat.toDigits 10 n with
      | nil => exact absurd spelled Nat.toDigits_ne_nil
      | cons c more =>
          rw [spelled] at digits
          have run := digitRun_digits fun d member => digits d (List.mem_cons_of_mem c member)
          simp [digits?, digits c List.mem_cons_self, run]
    · exact toDigits_ne_zero_cons positive

theorem readScalar_eq (n : Nat) : readScalar (Nat.toDigits 10 n) =
    if Text.maxDigits < (Nat.toDigits 10 n).length then .error .tooManyDigits
    else .ok (.int n, []) := by
  have digits := isDigit_of_mem_toDigits n
  have noFraction : fractionPart? [] = none := rfl
  have noExponent : exponentPart? [] = none := rfl
  rw [readScalar, dateTime?_digits digits, time?_digits digits, baseNumber?_digits digits]
  simp only [decimal?, signPart_digits digits, wholePart?_toDigits, Option.map_some,
    Text.digitsValue_toDigits, noFraction, Option.getD_none, noExponent, Option.isSome_none,
    Bool.false_eq_true, if_false]

/-- The digits of a number read back as the number. -/
theorem readScalar_toDigits (n : Nat) (fits : (Nat.toDigits 10 n).length ≤ Text.maxDigits) :
    readScalar (Nat.toDigits 10 n) = .ok (.int n, []) := by
  rw [readScalar_eq, if_neg (Nat.not_lt.mpr fits)]

end Toml

end SqlAssist
