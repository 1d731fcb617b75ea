import Mathlib.Data.List.Nodup
import SqlAssist.Data.Assoc

/-!
# Association lists as maps

An association list in which each key stands once is the map `get?`: the order of its pairs does not
matter to `get?` (`get?_perm`), and lists with equal maps have the same pairs (`perm_of_get?`). A
new key goes to the end (`put_new`), and `update` puts one map over another (`get?_update`).
-/
namespace SqlAssist

namespace Assoc

variable {κ α : Type} [DecidableEq κ] {key : κ} {pairs more : List (κ × α)}

/-! ## Keys that are there, and new ones -/

theorem get?_eq_none (absent : key ∉ keys pairs) : get? key pairs = none := by
  induction pairs with
  | nil => rfl
  | cons pair rest ih =>
      obtain ⟨notFirst, notLater⟩ := not_or.mp fun member => absent (List.mem_cons.mpr member)
      rw [get?, if_neg (Ne.symm notFirst)]
      exact ih notLater

theorem get?_concat (absent : key ∉ keys pairs) (value : α) :
    get? key (pairs ++ [(key, value)]) = some value := by
  induction pairs with
  | nil => simp [get?]
  | cons pair rest ih =>
      obtain ⟨notFirst, notLater⟩ := not_or.mp fun member => absent (List.mem_cons.mpr member)
      rw [List.cons_append, get?, if_neg (Ne.symm notFirst)]
      exact ih notLater

theorem put_new (absent : key ∉ keys pairs) (value : α) :
    put key value pairs = pairs ++ [(key, value)] := by
  induction pairs with
  | nil => rfl
  | cons pair rest ih =>
      obtain ⟨notFirst, notLater⟩ := not_or.mp fun member => absent (List.mem_cons.mpr member)
      rw [put, if_neg (Ne.symm notFirst), ih notLater]
      rfl

theorem put_concat (absent : key ∉ keys pairs) (old value : α) :
    put key value (pairs ++ [(key, old)]) = pairs ++ [(key, value)] := by
  induction pairs with
  | nil => simp [put]
  | cons pair rest ih =>
      obtain ⟨notFirst, notLater⟩ := not_or.mp fun member => absent (List.mem_cons.mpr member)
      rw [List.cons_append, put, if_neg (Ne.symm notFirst), ih notLater]
      rfl

theorem get?_ne_none (present : key ∈ keys pairs) : get? key pairs ≠ none := by
  induction pairs with
  | nil => cases present
  | cons pair rest ih =>
      rw [get?]
      split
      · exact Option.some_ne_none _
      · rename_i notFirst
        exact ih ((List.mem_cons.mp present).resolve_left (Ne.symm notFirst))

/-! ## Distinct keys -/

omit [DecidableEq κ] in
theorem mem_keys {value : α} (member : (key, value) ∈ pairs) : key ∈ keys pairs :=
  List.mem_map.mpr ⟨_, member, rfl⟩

theorem mem_of_get? {value : α} (found : get? key pairs = some value) : (key, value) ∈ pairs := by
  induction pairs with
  | nil => cases found
  | cons pair rest ih =>
      rw [get?] at found
      split at found
      · rename_i same
        cases found
        rw [← same]
        exact List.mem_cons_self
      · exact List.mem_cons_of_mem pair (ih found)

theorem get?_of_mem (distinct : (keys pairs).Nodup) {value : α} (member : (key, value) ∈ pairs) :
    get? key pairs = some value := by
  induction pairs with
  | nil => cases member
  | cons pair rest ih =>
      obtain ⟨notLater, distinct⟩ := List.nodup_cons.mp distinct
      rcases List.mem_cons.mp member with rfl | later
      · exact if_pos rfl
      · have notFirst : pair.1 ≠ key := by
          rintro rfl
          exact notLater (mem_keys later)
        rw [get?, if_neg notFirst]
        exact ih distinct later

theorem get?_perm (distinct : (keys pairs).Nodup) (perm : pairs.Perm more) :
    get? key pairs = get? key more := by
  have distinct' : (keys more).Nodup := (perm.map _).nodup_iff.mp distinct
  ext value
  exact ⟨fun found => get?_of_mem distinct' (perm.mem_iff.mp (mem_of_get? found)),
    fun found => get?_of_mem distinct (perm.mem_iff.mpr (mem_of_get? found))⟩

theorem perm_of_get? (distinct : (keys pairs).Nodup) (distinct' : (keys more).Nodup)
    (same : ∀ key, get? key pairs = get? key more) : pairs.Perm more := by
  refine (List.perm_ext_iff_of_nodup distinct.of_map distinct'.of_map).mpr fun pair => ?_
  constructor
  · intro member
    exact mem_of_get? (same pair.1 ▸ get?_of_mem distinct member)
  · intro member
    exact mem_of_get? ((same pair.1).symm ▸ get?_of_mem distinct' member)

/-- The value under a key, as the values of the pairs with that key. -/
theorem toList_get? (distinct : (keys pairs).Nodup) (key : κ) :
    (get? key pairs).toList = (pairs.filter (·.1 = key)).map (·.2) := by
  induction pairs with
  | nil => rfl
  | cons pair rest ih =>
      obtain ⟨notLater, distinct⟩ := List.nodup_cons.mp distinct
      by_cases same : pair.1 = key
      · subst same
        have noOther : rest.filter (·.1 = pair.1) = [] := by
          rw [List.filter_eq_nil_iff]
          intro other member
          have isKey : other.1 ∈ keys rest := mem_keys member
          have absent : other.1 ≠ pair.1 := by
            intro same
            rw [same] at isKey
            exact notLater isKey
          simp [absent]
        simp [get?, noOther]
      · simp [get?, same, ih distinct]

/-! ## One map over another -/

theorem mem_put {pair : κ × α} {value : α} (member : pair ∈ put key value pairs) :
    pair = (key, value) ∨ pair ∈ pairs := by
  induction pairs with
  | nil => exact .inl (List.mem_singleton.mp member)
  | cons first rest ih =>
      rw [put] at member
      split at member
      · exact (List.mem_cons.mp member).imp_right (List.mem_cons_of_mem first)
      · rcases List.mem_cons.mp member with rfl | later
        · exact .inr List.mem_cons_self
        · exact (ih later).imp_right (List.mem_cons_of_mem first)

theorem mem_update {pair : κ × α} (member : pair ∈ update pairs more) :
    pair ∈ more ∨ pair ∈ pairs := by
  induction more generalizing pairs with
  | nil => exact .inr member
  | cons new rest ih =>
      rcases ih member with later | earlier
      · exact .inl (List.mem_cons_of_mem new later)
      · rcases mem_put earlier with rfl | old
        · exact .inl List.mem_cons_self
        · exact .inr old

theorem keys_put_known (known : key ∈ keys pairs) (value : α) :
    keys (put key value pairs) = keys pairs := by
  induction pairs with
  | nil => cases known
  | cons pair rest ih =>
      by_cases same : pair.1 = key
      · simp [put, keys, same]
      · have later : key ∈ keys rest := (List.mem_cons.mp known).resolve_left (Ne.symm same)
        rw [put, if_neg same]
        exact congrArg (pair.1 :: ·) (ih later)

theorem keys_put_new (absent : key ∉ keys pairs) (value : α) :
    keys (put key value pairs) = keys pairs ++ [key] := by
  rw [put_new absent, keys, List.map_append]
  rfl

theorem mem_keys_put {other : κ} {value : α} :
    other ∈ keys (put key value pairs) ↔ other = key ∨ other ∈ keys pairs := by
  by_cases known : key ∈ keys pairs
  · rw [keys_put_known known, or_iff_right_of_imp]
    rintro rfl
    exact known
  · rw [keys_put_new known, List.mem_append, List.mem_singleton, or_comm]

theorem nodup_put (distinct : (keys pairs).Nodup) (value : α) :
    (keys (put key value pairs)).Nodup := by
  by_cases known : key ∈ keys pairs
  · rw [keys_put_known known]
    exact distinct
  · rw [keys_put_new known, ← List.concat_eq_append]
    exact distinct.concat known

theorem update_cons (pair : κ × α) :
    update pairs (pair :: more) = update (put pair.1 pair.2 pairs) more := rfl

theorem keys_subset_update : keys pairs ⊆ keys (update pairs more) := by
  induction more generalizing pairs with
  | nil => exact List.Subset.refl _
  | cons pair rest ih => exact fun other member => ih (mem_keys_put.mpr (.inr member))

theorem nodup_update (distinct : (keys pairs).Nodup) : (keys (update pairs more)).Nodup := by
  induction more generalizing pairs with
  | nil => exact distinct
  | cons pair rest ih => exact ih (nodup_put distinct pair.2)

theorem get?_update (distinct : (keys more).Nodup) :
    get? key (update pairs more) = (get? key more).or (get? key pairs) := by
  induction more generalizing pairs with
  | nil => rfl
  | cons pair rest ih =>
      obtain ⟨notLater, distinct⟩ := List.nodup_cons.mp distinct
      rw [update_cons, ih distinct, get?_put, get?]
      by_cases same : pair.1 = key
      · -- The pairs after this one have other keys, so its value stays.
        rw [if_pos same, if_pos same, get?_eq_none (same ▸ notLater)]
        rfl
      · rw [if_neg same, if_neg same]

/-- Under a key there is the last of the new values, or what was there before. -/
theorem get?_update_last (key : κ) (pairs more : List (κ × α)) :
    get? key (update pairs more) =
      ((more.reverse.find? (·.1 = key)).map (·.2)).or (get? key pairs) := by
  induction more generalizing pairs with
  | nil => rfl
  | cons pair rest ih =>
      rw [update_cons, ih, get?_put, List.reverse_cons, List.find?_append]
      cases later : rest.reverse.find? (·.1 = key) with
      | some found => rfl
      | none => by_cases same : pair.1 = key <;> simp [same]

theorem get?_update_cases (key : κ) (pairs more : List (κ × α)) :
    (key ∉ keys more ∧ get? key (update pairs more) = get? key pairs) ∨
      ∃ value, (key, value) ∈ more ∧ get? key (update pairs more) = some value := by
  rw [get?_update_last]
  cases last : more.reverse.find? (·.1 = key) with
  | none =>
      refine .inl ⟨?_, rfl⟩
      intro isKey
      obtain ⟨pair, member, rfl⟩ := List.mem_map.mp isKey
      have passed := List.find?_eq_none.mp last pair (List.mem_reverse.mpr member)
      simp at passed
  | some pair =>
      obtain rfl : pair.1 = key := by simpa using List.find?_some last
      exact .inr ⟨pair.2, List.mem_reverse.mp (List.mem_of_find?_eq_some last), rfl⟩

/-- The values in order are those under the keys in order. -/
theorem map_snd_eq (distinct : (keys pairs).Nodup) :
    pairs.map (·.2) = (keys pairs).filterMap (get? · pairs) := by
  rw [keys, List.filterMap_map, ← List.filterMap_eq_map]
  apply List.filterMap_congr
  intro pair member
  exact (get?_of_mem distinct member).symm

end Assoc

end SqlAssist
