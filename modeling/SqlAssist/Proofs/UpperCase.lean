import SqlAssist.Text.Case

/-!
# Upper case

The upper case of a text has at least as many characters as the text (`length_le_length_upper`), and
it is its own upper case (`upper_upper`). The second is a fact about the table of mappings: nothing
that a character is mapped to is mapped further. A run of the table maps its characters to a band of
code points, and a band is checked against all runs at once (`Band.isFinal`), not one character
after the other.
-/
namespace SqlAssist.Text

/-! ## Length -/

theorem mem_upperSpecials {n : Nat} {codes : List Nat}
    (found : upperSpecials.lookup n = some codes) : (n, codes) ∈ upperSpecials := by
  obtain ⟨front, back, parts, _⟩ := List.lookup_eq_some_iff.mp found
  rw [parts]
  exact List.mem_append_right _ List.mem_cons_self

theorem upperChar_ne_nil (c : Char) : upperChar c ≠ [] := by
  unfold upperChar
  split
  · exact List.cons_ne_nil _ _
  split
  · rename_i codes found
    have inhabited : (upperSpecials.all fun entry => !entry.2.isEmpty) = true := by decide
    have here := List.all_eq_true.mp inhabited _ (mem_upperSpecials found)
    intro empty
    obtain rfl := List.map_eq_nil_iff.mp empty
    cases here
  · exact List.cons_ne_nil _ _

theorem upper_nil : upper [] = [] := rfl

theorem upper_cons (c : Char) (cs : List Char) : upper (c :: cs) = upperChar c ++ upper cs := rfl

theorem upper_append (left right : List Char) :
    upper (left ++ right) = upper left ++ upper right := List.flatMap_append

theorem length_le_length_upper (cs : List Char) : cs.length ≤ (upper cs).length := by
  induction cs with
  | nil => exact Nat.le_refl _
  | cons c cs ih =>
      have positive := List.length_pos_iff.mpr (upperChar_ne_nil c)
      simp only [upper_cons, List.length_append, List.length_cons]
      omega

/-! ## Bands of code points -/

/-- The code points from `lo` to `hi`: all of them, or every second one. -/
structure Band where
  lo : Nat
  hi : Nat
  alternate : Bool

namespace Band

/-- A code point of the band. -/
structure Holds (band : Band) (n : Nat) : Prop where
  low : band.lo ≤ n
  high : n ≤ band.hi
  even : band.alternate = true → (n - band.lo) % 2 = 0

/-- Whether a code point from `lo` to `hi` is none of the band because it is a neighbour of one. -/
def between (band : Band) (n : Nat) : Bool := band.alternate && Nat.beq ((band.lo + n) % 2) 1

/-- Whether the band is clear of a code point. -/
def misses (band : Band) (n : Nat) : Bool :=
  Nat.blt n band.lo || (Nat.blt band.hi n || band.between n)

/-- Whether a sorted list of runs maps all code points of the band to themselves. -/
def stays (band : Band) : List Shift → Bool
  | [] => true
  | run :: rest =>
    bif Nat.blt run.hi band.lo then band.stays rest
    else Nat.blt band.hi run.lo || Nat.beq run.stride 2 && band.between run.lo && band.stays rest

/-- Whether all characters of the band are their own upper case. -/
def isFinal (band : Band) : Bool :=
  (Nat.blt band.hi 0x61 || Nat.blt 0x7a band.lo) &&
    (upperSpecials.all fun entry => band.misses entry.1) && band.stays upperRuns

variable {band : Band} {n : Nat}

theorem between_iff : band.between n = true ↔ band.alternate = true ∧ (band.lo + n) % 2 = 1 := by
  simp [between]

theorem Holds.ne_of_misses {m : Nat} (holds : band.Holds n) (clear : band.misses m = true) :
    n ≠ m := by
  obtain ⟨low, high, even⟩ := holds
  simp only [misses, Bool.or_eq_true, Nat.blt_eq, between_iff] at clear
  rintro rfl
  rcases clear with below | above | ⟨alternate, odd⟩
  · omega
  · omega
  · have := even alternate
    omega

/-- The check follows the search through the runs. -/
theorem Holds.shifted_eq (holds : band.Holds n) {runs : List Shift}
    (clear : band.stays runs = true) : shifted n runs = n := by
  obtain ⟨low, high, even⟩ := holds
  induction runs with
  | nil => rfl
  | cons run rest ih =>
      unfold stays at clear
      unfold shifted
      cases behind : Nat.blt run.hi band.lo with
      | true =>
          rw [behind, cond_true] at clear
          rw [Nat.blt_eq] at behind
          rw [ih clear]
          split
          · rfl
          · rw [if_neg (by omega)]
      | false =>
          simp only [behind, cond_false, Bool.or_eq_true, Bool.and_eq_true, Nat.blt_eq, Nat.beq_eq,
            between_iff] at clear
          rcases clear with before | ⟨⟨stride, alternate, odd⟩, later⟩
          · rw [if_pos (by omega)]
          · -- The run and the band alternate with each other.
            have := even alternate
            rw [stride, ih later]
            split
            · rfl
            split
            · rw [if_neg (by omega)]
            · rfl

theorem Holds.upperChar_eq {c : Char} (holds : band.Holds c.toNat) (final : band.isFinal = true) :
    upperChar c = [c] := by
  simp only [isFinal, Bool.and_eq_true, Bool.or_eq_true, Nat.blt_eq, List.all_eq_true] at final
  obtain ⟨⟨noLetter, noSpecial⟩, noRun⟩ := final
  have missing : upperSpecials.lookup c.toNat = none := by
    rw [List.lookup_eq_none_iff]
    intro entry member
    simpa using holds.ne_of_misses (noSpecial entry member)
  unfold upperChar
  split
  · have noCase : ¬ ('a'.val ≤ c.val ∧ c.val ≤ 'z'.val) := by
      rintro ⟨low, high⟩
      have low : 0x61 ≤ c.toNat := UInt32.le_iff_toNat_le.mp low
      have high : c.toNat ≤ 0x7a := UInt32.le_iff_toNat_le.mp high
      have := holds.low
      have := holds.high
      omega
    have same : c.toUpper = c := dif_neg noCase
    rw [same]
  · rw [missing, holds.shifted_eq noRun, Char.ofNat_toNat]

end Band

/-! ## Upper case of upper case -/

/-- The code points that a run maps its own to. -/
def Shift.image (run : Shift) : Band :=
  ⟨(run.lo + run.delta).toNat, (run.hi + run.delta).toNat,
    Nat.beq run.lo run.hi || Nat.beq run.stride 2⟩

/-- A single code point. -/
def Band.point (n : Nat) : Band := ⟨n, n, true⟩

theorem Band.holds_point (n : Nat) : (Band.point n).Holds n :=
  ⟨Nat.le_refl n, Nat.le_refl n, fun _ => by simp [Band.point]⟩

theorem isFinal_images :
    (upperRuns.all fun run => decide (0 ≤ run.lo + run.delta) && run.image.isFinal) = true := by
  decide +kernel

theorem isFinal_specials :
    (upperSpecials.all fun entry => entry.2.all fun code => (Band.point code).isFinal) = true := by
  decide +kernel

/-- A code point is mapped by one of the runs or left as it is. -/
theorem shifted_cases (n : Nat) (runs : List Shift) :
    shifted n runs = n ∨ ∃ run ∈ runs, run.lo ≤ n ∧ n ≤ run.hi ∧ (n - run.lo) % run.stride = 0 ∧
      shifted n runs = (n + run.delta).toNat := by
  induction runs with
  | nil => exact .inl rfl
  | cons run rest ih =>
      unfold shifted
      split
      · exact .inl rfl
      · rename_i notBefore
        split
        · rename_i inside
          split
          · rename_i onStride
            exact .inr ⟨run, List.mem_cons_self, by omega, inside, onStride, rfl⟩
          · exact .inl rfl
        · rcases ih with same | ⟨other, member, mapped⟩
          · exact .inl same
          · exact .inr ⟨other, List.mem_cons_of_mem _ member, mapped⟩

theorem Shift.holds_image {run : Shift} {n : Nat} (positive : 0 ≤ run.lo + run.delta)
    (low : run.lo ≤ n) (high : n ≤ run.hi) (onStride : (n - run.lo) % run.stride = 0) :
    run.image.Holds (n + run.delta).toNat := by
  refine ⟨?_, ?_, ?_⟩
  · simp only [image]
    omega
  · simp only [image]
    omega
  · intro alternate
    simp only [image, Bool.or_eq_true, Nat.beq_eq] at alternate ⊢
    have same : (n + run.delta).toNat - (run.lo + run.delta).toNat = n - run.lo := by omega
    rw [same]
    rcases alternate with single | stride
    · have : n - run.lo = 0 := by omega
      rw [this]
    · rwa [stride] at onStride

theorem Band.Holds.upperChar_ofNat {band : Band} {n : Nat} (holds : band.Holds n)
    (final : band.isFinal = true) : upperChar (Char.ofNat n) = [Char.ofNat n] := by
  by_cases valid : n.isValidChar
  · have whole : Char.ofNat n = Char.ofNatAux n valid := dif_pos valid
    rw [whole]
    exact Holds.upperChar_eq holds final
  · have zero : Char.ofNat n = '\x00' := dif_neg valid
    rw [zero]
    decide

theorem upper_eq_self {cs : List Char} (final : ∀ c ∈ cs, upperChar c = [c]) : upper cs = cs := by
  induction cs with
  | nil => rfl
  | cons c cs ih =>
      obtain ⟨here, later⟩ := List.forall_mem_cons.mp final
      rw [upper_cons, here, ih later]
      rfl

theorem upper_upperChar (c : Char) : upper (upperChar c) = upperChar c := by
  by_cases ascii : c.val < 128
  · have known : ((List.range 128).all fun n =>
        upper (upperChar (Char.ofNat n)) == upperChar (Char.ofNat n)) = true := by decide +kernel
    have inside : c.toNat < 128 := UInt32.lt_iff_toNat_lt.mp ascii
    have here := List.all_eq_true.mp known c.toNat (List.mem_range.mpr inside)
    rwa [Char.ofNat_toNat, beq_iff_eq] at here
  · cases found : upperSpecials.lookup c.toNat with
    | some codes =>
        have mapped : upperChar c = codes.map Char.ofNat := by
          rw [upperChar, if_neg ascii, found]
        have member := mem_upperSpecials found
        have final := List.all_eq_true.mp (List.all_eq_true.mp isFinal_specials _ member)
        rw [mapped]
        apply upper_eq_self
        intro d isMember
        obtain ⟨code, isCode, rfl⟩ := List.mem_map.mp isMember
        exact Band.Holds.upperChar_ofNat (Band.holds_point code) (final code isCode)
    | none =>
        have mapped : upperChar c = [Char.ofNat (shifted c.toNat upperRuns)] := by
          rw [upperChar, if_neg ascii, found]
        rcases shifted_cases c.toNat upperRuns with same | ⟨run, member, low, high, onStride, image⟩
        · rw [same, Char.ofNat_toNat] at mapped
          rw [mapped, upper_eq_self (by simpa using mapped)]
        · have checked := List.all_eq_true.mp isFinal_images run member
          rw [Bool.and_eq_true, decide_eq_true_eq] at checked
          have holds := Shift.holds_image checked.1 low high onStride
          rw [image] at mapped
          rw [mapped]
          apply upper_eq_self
          simpa using holds.upperChar_ofNat checked.2

/-- Upper case does not change any more. -/
theorem upper_upper (cs : List Char) : upper (upper cs) = upper cs := by
  induction cs with
  | nil => rfl
  | cons c cs ih => rw [upper_cons, upper_append, upper_upperChar, ih]

end SqlAssist.Text
