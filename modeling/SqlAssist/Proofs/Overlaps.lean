import SqlAssist.Proofs.TakenRuns

/-!
# Occurrences that do not overlap

Two patterns may occur in one text at ranges that share an offset. There are three reasons why they
do not:

* **characters** — no character is taken by both (`Pattern.apart_of_allows`);
* **words** — both take whole words (`WholeWord`), and none is taken by both
  (`Pattern.apart_of_framed`);
* **fences** — one takes a run that is `Fenced` by characters that the other does not take. Then the
  other may still lie inside of the run, but it does not reach over an end of it
  (`Fenced.apart_or_within`).
-/
namespace SqlAssist

/-! ## Characters at offsets -/

section

variable {text : List Char} {start stop : Nat}

theorem getElem?_slice {k : Nat} (inside : start + k < stop) :
    ((text.take stop).drop start)[k]? = text[start + k]? := by
  rw [List.getElem?_drop, List.getElem?_take_of_lt inside]

theorem drop_eq_slice_append (ordered : start ≤ stop) :
    text.drop start = (text.take stop).drop start ++ text.drop stop := by
  rw [List.drop_take, ← Nat.add_sub_cancel' ordered, ← List.drop_drop, Nat.add_sub_cancel_left,
    List.take_append_drop]

theorem slice_eq_append_cons {i : Nat} {c : Char} (isChar : text[i]? = some c) (low : start ≤ i)
    (high : i < stop) :
    (text.take stop).drop start =
      (text.take i).drop start ++ c :: (text.take stop).drop (i + 1) := by
  have here : (text.take stop)[i]? = some c := by rw [List.getElem?_take_of_lt high, isChar]
  obtain ⟨bound, rfl⟩ := List.getElem?_eq_some_iff.mp here
  rw [← List.drop_eq_getElem_cons bound, drop_eq_slice_append low, List.take_take,
    Nat.min_eq_left (Nat.le_of_lt high)]

theorem head?_slice (inhabited : start < stop) :
    ((text.take stop).drop start).head? = text[start]? := by
  rw [List.head?_eq_getElem?, getElem?_slice inhabited]
  rfl

theorem getLast?_take_succ (offset : Nat) (inside : offset < text.length) :
    (text.take (offset + 1)).getLast? = text[offset]? := by
  rw [List.take_add_one, List.getElem?_eq_getElem inside, Option.toList_some, List.getLast?_concat]

theorem getLast?_slice (inhabited : start < stop) (bound : stop ≤ text.length) :
    ((text.take stop).drop start).getLast? = text[stop - 1]? := by
  obtain ⟨last, rfl⟩ : ∃ last, stop = last + 1 := ⟨stop - 1, by omega⟩
  rw [List.getLast?_drop, if_neg (by rw [List.length_take]; omega), getLast?_take_succ last bound,
    Nat.add_sub_cancel]

end

namespace Pattern

variable {pattern other : Pattern} {text : List Char} {start stop start' stop' : Nat}

theorem Occurs.exists_char (occurs : pattern.Occurs text start stop) {i : Nat} (low : start ≤ i)
    (high : i < stop) : ∃ c, text[i]? = .some c ∧ pattern.allows c = true := by
  have bound : i < text.length := Nat.lt_of_lt_of_le high occurs.inside
  refine ⟨text[i], List.getElem?_eq_getElem bound, occurs.takes.allows _ ?_⟩
  apply List.mem_of_getElem? (i := i - start)
  rw [getElem?_slice (by omega), Nat.add_sub_cancel' low, List.getElem?_eq_getElem bound]

/-- Ranges that share no offset lie apart. -/
theorem apart_of_not_shared (inhabited : start < stop) (inhabited' : start' < stop')
    (unshared : ∀ i, start ≤ i → i < stop → start' ≤ i → ¬ i < stop') :
    stop ≤ start' ∨ stop' ≤ start := by
  by_contra overlap
  exact unshared (max start start') (by omega) (by omega) (by omega) (by omega)

/-- No occurrences of the two patterns in a text overlap. -/
def Apart (pattern other : Pattern) : Prop :=
  ∀ {text : List Char} {start stop start' stop' : Nat}, pattern.Occurs text start stop →
    other.Occurs text start' stop' → stop ≤ start' ∨ stop' ≤ start

theorem apart_of_allows (foreign : ∀ c, pattern.allows c = true → other.allows c = false) :
    pattern.Apart other := by
  intro text start stop start' stop' here there
  apply apart_of_not_shared here.inhabited there.inhabited
  intro i low high low' high'
  obtain ⟨c, isChar, allowed⟩ := here.exists_char low high
  obtain ⟨d, isOther, allowed'⟩ := there.exists_char low' high'
  obtain rfl := Option.some.inj (isChar.symm.trans isOther)
  rw [foreign c allowed] at allowed'
  cases allowed'

end Pattern

/-! ## Whole words -/

/-- A run of word characters that no other word character stands next to. -/
structure WholeWord (text : List Char) (start stop : Nat) : Prop where
  inside : ∀ i, start ≤ i → i < stop → text[i]?.any Text.isWordChar = true
  before : ∀ i, i + 1 = start → text[i]?.any Text.isWordChar = false
  behind : text[stop]?.any Text.isWordChar = false

/-- Whole words that share an offset are one. -/
theorem WholeWord.eq {text : List Char} {start stop start' stop' i : Nat}
    (here : WholeWord text start stop) (there : WholeWord text start' stop')
    (low : start ≤ i) (high : i < stop) (low' : start' ≤ i) (high' : i < stop') :
    start = start' ∧ stop = stop' := by
  have grows : ∀ {s e s' e' : Nat}, WholeWord text s e → WholeWord text s' e' →
      s ≤ i → i < e → s' ≤ i → i < e' → s ≤ s' ∧ e' ≤ e := by
    intro s e s' e' one another low high low' high'
    constructor
    · -- Else the character before `s` is inside of the other word.
      by_contra later
      have outside := one.before (s - 1) (by omega)
      rw [another.inside (s - 1) (by omega) (by omega)] at outside
      cases outside
    · by_contra earlier
      have outside := one.behind
      rw [another.inside e (by omega) (by omega)] at outside
      cases outside
  have left := grows here there low high low' high'
  have right := grows there here low' high' low high
  omega

namespace Pattern

variable {text : List Char} {start stop : Nat}

/-- A pattern of word characters between two edges takes whole words. -/
theorem Occurs.of_framed {inner : Pattern}
    (letters : ∀ c, inner.allows c = true → Text.isWordChar c = true)
    (occurs : (all [.edge, inner, .edge]).Occurs text start stop) :
    inner.Occurs text start stop ∧ WholeWord text start stop := by
  obtain ⟨inhabited, bound, takes⟩ := occurs
  obtain ⟨takes, opens, closes⟩ := takes.of_framed
  have here : inner.Occurs text start stop := ⟨inhabited, bound, takes⟩
  have inside : ∀ i, start ≤ i → i < stop → text[i]?.any Text.isWordChar = true := by
    intro i low high
    obtain ⟨c, isChar, allowed⟩ := here.exists_char low high
    rw [isChar]
    exact letters c allowed
  refine ⟨here, inside, ?_, ?_⟩
  · -- The first character is a word character, so at the edge the one before it is none.
    rintro i rfl
    rw [getLast?_take_succ i (by omega), List.head?_append, head?_slice inhabited] at opens
    obtain ⟨c, isChar, allowed⟩ := here.exists_char (Nat.le_refl _) inhabited
    rw [isChar] at opens
    simpa [letters c allowed] using opens
  · rw [getLast?_slice inhabited bound, List.head?_drop] at closes
    obtain ⟨c, isChar, allowed⟩ := here.exists_char (show start ≤ stop - 1 by omega) (by omega)
    rw [isChar] at closes
    simpa [letters c allowed] using closes

/-- Two patterns of whole words lie apart if no run is taken by both. -/
theorem apart_of_framed {inner inner' : Pattern}
    (letters : ∀ c, inner.allows c = true → Text.isWordChar c = true)
    (letters' : ∀ c, inner'.allows c = true → Text.isWordChar c = true)
    (foreign : ∀ {before run rest}, inner.Takes before run rest → ¬ inner'.Takes before run rest) :
    (all [.edge, inner, .edge]).Apart (all [.edge, inner', .edge]) := by
  intro text start stop start' stop' here there
  obtain ⟨here, word⟩ := here.of_framed letters
  obtain ⟨there, word'⟩ := there.of_framed letters'
  apply apart_of_not_shared here.inhabited there.inhabited
  intro i low high low' high'
  obtain ⟨rfl, rfl⟩ := word.eq word' low high low' high'
  exact foreign here.takes there.takes

end Pattern

/-! ## Fences -/

/-- A run that starts with a character of the fence, and ends with one or before one, or at the end
of the text. -/
structure Fenced (fence : List Char) (text : List Char) (start stop : Nat) : Prop where
  inhabited : start < stop
  opens : ∃ c ∈ fence, text[start]? = some c
  closes : (∃ c ∈ fence, text[stop - 1]? = some c) ∨ ∀ c, text[stop]? = some c → c ∈ fence

/-- What takes no character of the fence does not reach over it. -/
theorem Fenced.apart_or_within {fence text : List Char} {start stop start' stop' : Nat}
    {pattern : Pattern} (fenced : Fenced fence text start stop)
    (occurs : pattern.Occurs text start' stop') (free : ∀ c ∈ fence, pattern.allows c = false) :
    (stop ≤ start' ∨ stop' ≤ start) ∨ (start ≤ start' ∧ stop' ≤ stop) := by
  have outside : ∀ {i c}, c ∈ fence → text[i]? = some c → start' ≤ i → ¬ i < stop' := by
    intro i c member isFence low high
    obtain ⟨d, isChar, allowed⟩ := occurs.exists_char low high
    obtain rfl := Option.some.inj (isFence.symm.trans isChar)
    rw [free c member] at allowed
    cases allowed
  obtain ⟨c, member, opens⟩ := fenced.opens
  have notOver := outside member opens
  by_contra crosses
  rcases fenced.closes with ⟨d, member, closes⟩ | closes
  · have notPast := outside member closes
    omega
  · -- The run goes on behind the fenced one, so there is a character, and it is in the fence.
    obtain ⟨d, isChar, _⟩ := occurs.exists_char (show start' ≤ stop by omega) (by omega)
    have notPast := outside (closes d isChar) isChar
    omega

end SqlAssist
