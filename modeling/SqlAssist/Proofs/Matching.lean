import SqlAssist.Pattern
import SqlAssist.Proofs.Scanners

/-!
# How patterns match

The matcher tries ends in an order of preference and takes the first from which the rest of the
match succeeds. The lemmas here say which end that is where no other has to be tried:

* **many** — the longest run, if the match goes on behind it (`runMany_longest`);
* **few** — the next character is taken exactly if the match does not go on before it
  (`runFew_stay`, `runFew_move`);
* **repeated** — once more, if the match goes on behind that, and else not at all
  (`runRepeated_once`, `runRepeated_stop`).

`Found.allFrom` walks through a text. Where nothing matches it moves on by a character
(`allFrom_move`), and behind a match it goes on with what is left (`allFrom_found`).
-/
namespace SqlAssist

namespace Pattern

variable {α : Type} {test : Char → Bool} {next : Site → Option α} {found : α}

theorem getLast?_cons_or (c : Char) (run : List Char) (before : Option Char) :
    (c :: run).getLast?.or before = run.getLast?.or (.some c) := by
  rw [List.getLast?_cons]
  cases run.getLast? <;> rfl

theorem runMany_longest {run rest : List Char} (inside : ∀ c ∈ run, test c = true)
    (stops : Lexer.Stops test rest) (offset : Nat) (before : Option Char)
    (goesOn : (next ⟨offset + run.length, run.getLast?.or before, rest⟩).isSome) :
    runMany test next (run ++ rest) offset before =
      next ⟨offset + run.length, run.getLast?.or before, rest⟩ := by
  induction run generalizing offset before with
  | nil =>
      cases rest with
      | nil => rfl
      | cons c rest =>
          have outside : ¬ test c = true := by simpa using stops
          rw [List.nil_append, runMany, if_neg outside]
          rfl
  | cons c run ih =>
      have further : offset + 1 + run.length = offset + (c :: run).length := by
        rw [List.length_cons]
        omega
      rw [getLast?_cons_or, ← further] at goesOn ⊢
      have later := ih (fun d member => inside d (List.mem_cons_of_mem c member)) (offset + 1)
        (.some c) goesOn
      obtain ⟨found, isFound⟩ := Option.isSome_iff_exists.mp goesOn
      rw [isFound] at later ⊢
      rw [List.cons_append, runMany, if_pos (inside c List.mem_cons_self), later]

theorem runFew_stay {cs : List Char} {offset : Nat} {before : Option Char}
    (goesOn : next ⟨offset, before, cs⟩ = .some found) :
    runFew test next cs offset before = .some found := by
  cases cs with
  | nil => exact goesOn
  | cons c rest => rw [runFew, goesOn]

theorem runFew_move {c : Char} {rest : List Char} {offset : Nat} {before : Option Char}
    (inside : test c = true) (stuck : next ⟨offset, before, c :: rest⟩ = none) :
    runFew test next (c :: rest) offset before = runFew test next rest (offset + 1) (.some c) := by
  rw [runFew, stuck]
  exact if_pos inside

theorem runRepeated_once {body : Site → (Site → Option α) → Option α} {bound : List Char}
    {site : Site} (positive : bound ≠ [])
    (again : body site (runRepeated body next bound.tail) = .some found) :
    runRepeated body next bound site = .some found := by
  cases bound with
  | nil => exact absurd rfl positive
  | cons c bound => rw [runRepeated, show body site (runRepeated body next bound) = _ from again]

theorem runRepeated_stop {body : Site → (Site → Option α) → Option α} {site : Site}
    (refused : ∀ next, body site next = none) (bound : List Char) :
    runRepeated body next bound site = next site := by
  cases bound with
  | nil => rfl
  | cons c bound => rw [runRepeated, refused]

@[simp] theorem run_char_cons (c d : Char) (rest : List Char) (offset : Nat)
    (before : Option Char) :
    (char c).run ⟨offset, before, d :: rest⟩ next =
      if d = c then next ⟨offset + 1, .some d, rest⟩ else none := by
  simp [char, run]

@[simp] theorem run_char_nil (c : Char) (offset : Nat) (before : Option Char) :
    (char c).run ⟨offset, before, []⟩ next = none := rfl

end Pattern

namespace Found

variable {β : Type} {rules : List (β × Pattern)}

theorem at?_eq_some {site : Site} {found : Found β} (isFound : at? rules site = some found) :
    found.start = site.offset ∧
      ∃ pattern, (found.rule, pattern) ∈ rules ∧ pattern.endAt? site = some found.stop := by
  obtain ⟨⟨rule, pattern⟩, member, here⟩ := List.exists_of_findSome?_eq_some isFound
  obtain ⟨stop, ends, rfl⟩ := Option.map_eq_some_iff.mp here
  exact ⟨rfl, pattern, member, ends⟩

theorem allFrom_move {offset : Nat} {before : Option Char} {c : Char} {rest : List Char}
    (nothing : at? rules ⟨offset, before, c :: rest⟩ = none) :
    allFrom rules offset before 0 (c :: rest) = allFrom rules (offset + 1) (some c) 0 rest := by
  rw [allFrom, nothing]

theorem allFrom_skip (run rest : List Char) (offset : Nat) (before : Option Char) :
    ∃ before', allFrom rules offset before run.length (run ++ rest) =
      allFrom rules (offset + run.length) before' 0 rest := by
  induction run generalizing offset before with
  | nil => exact ⟨before, rfl⟩
  | cons c run ih =>
      obtain ⟨before', skipped⟩ := ih (offset + 1) (some c)
      refine ⟨before', ?_⟩
      rw [List.cons_append, List.length_cons, allFrom, skipped]
      congr 1
      omega

/-- Behind a match that is not empty, the search goes on with what the match has left. -/
theorem allFrom_found {found : Found β} {run rest : List Char} {offset : Nat}
    {before : Option Char} (inhabited : run ≠ [])
    (isFound : at? rules ⟨offset, before, run ++ rest⟩ = some found)
    (stop : found.stop.offset = offset + run.length) :
    ∃ before', allFrom rules offset before 0 (run ++ rest) =
      found :: allFrom rules (offset + run.length) before' 0 rest := by
  cases run with
  | nil => exact absurd rfl inhabited
  | cons c run =>
      obtain ⟨before', skipped⟩ := @allFrom_skip β rules run rest (offset + 1) (some c)
      refine ⟨before', ?_⟩
      rw [List.length_cons] at stop ⊢
      have forward : offset < found.stop.offset := by omega
      have left : found.stop.offset - offset - 1 = run.length := by omega
      rw [List.cons_append] at isFound ⊢
      rw [allFrom, isFound]
      simp only [if_pos forward, left, skipped]
      rw [Nat.add_right_comm, Nat.add_assoc]

/-- A match is of one of the rules, and starts no earlier than the search behind the last match. -/
theorem of_mem_allFrom {offset skip : Nat} {before : Option Char} {cs : List Char}
    {found : Found β} (member : found ∈ allFrom rules offset before skip cs) :
    offset + skip ≤ found.start ∧ found.rule ∈ rules.map (·.1) := by
  fun_induction allFrom rules offset before skip cs with
  | case1 => cases member
  | case2 _ _ _ _ _ ih => exact (ih member).imp_left (by omega)
  | case3 _ _ _ _ _ ih => exact (ih member).imp_left (by omega)
  | case4 offset before c rest here isFound _ ih =>
      rcases List.mem_cons.mp member with rfl | later
      · obtain ⟨start, pattern, isRule, _⟩ := at?_eq_some isFound
        exact ⟨Nat.le_of_eq start.symm, List.mem_map_of_mem isRule⟩
      · exact (ih later).imp_left (by omega)
  | case5 _ _ _ _ _ _ _ ih => exact (ih member).imp_left (by omega)

/-- The matches are not empty, and each of them ends before the later ones start. -/
theorem pairwise_allFrom (offset skip : Nat) (before : Option Char) (cs : List Char) :
    (allFrom rules offset before skip cs).Pairwise
      (fun a b => a.start < a.stop.offset ∧ a.stop.offset ≤ b.start) := by
  fun_induction allFrom rules offset before skip cs with
  | case1 => exact List.Pairwise.nil
  | case2 _ _ _ _ _ ih => exact ih
  | case3 _ _ _ _ _ ih => exact ih
  | case4 offset before c rest here isFound forward ih =>
      refine List.pairwise_cons.mpr ⟨?_, ih⟩
      intro later member
      have behind := (of_mem_allFrom member).1
      rw [(at?_eq_some isFound).1]
      exact ⟨forward, by omega⟩
  | case5 _ _ _ _ _ _ _ ih => exact ih

end Found

end SqlAssist
