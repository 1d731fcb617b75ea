/-!
# Association lists in insertion order

A list of pairs in which each key stands once. Putting a value under a key that is there already
replaces the value and keeps the key's place.
-/
namespace SqlAssist

namespace Assoc

variable {κ α : Type} [DecidableEq κ]

/-- Puts a value under a key: in the key's place, or at the end. -/
def put (key : κ) (value : α) : List (κ × α) → List (κ × α)
  | [] => [(key, value)]
  | (k, v) :: rest => if k = key then (key, value) :: rest else (k, v) :: put key value rest

/-- The value under a key. -/
def get? (key : κ) : List (κ × α) → Option α
  | [] => none
  | (k, v) :: rest => if k = key then some v else get? key rest

/-- Puts all pairs of the second list into the first one, in order. -/
def update (pairs more : List (κ × α)) : List (κ × α) :=
  more.foldl (fun acc pair => put pair.1 pair.2 acc) pairs

/-- The association list of a list of pairs: a repeated key keeps its first place and its last
value. -/
def ofPairs (pairs : List (κ × α)) : List (κ × α) := update [] pairs

/-- The keys in order. -/
def keys (pairs : List (κ × α)) : List κ := pairs.map (·.1)

theorem get?_put (key other : κ) (value : α) (pairs : List (κ × α)) :
    get? other (put key value pairs) = if key = other then some value else get? other pairs := by
  induction pairs with
  | nil => simp [put, get?]
  | cons pair rest ih =>
    obtain ⟨k, v⟩ := pair
    by_cases h : k = key
    · subst h
      by_cases ho : k = other <;> simp [put, get?, ho]
    · by_cases ho : k = other
      · subst ho
        have : ¬ key = k := fun e => h e.symm
        simp [put, get?, h, this]
      · simp [put, get?, h, ho, ih]

end Assoc

end SqlAssist
