import SqlAssist.Proofs.Overlaps

/-!
# The run that a pattern prefers

`Pattern.Takes` says which runs a pattern can match, `Pattern.Prefers` which of them is the match:
the one from which the matcher goes on first. There is one rule for each way to build a pattern, and
the rules ask for what decides the order of preference:

* **many** and **repeated** — the run cannot be made longer (`Prefers.many`, `Repeats`);
* **either** — the first pattern is preferred, the second counts where the first is refused
  (`Prefers.left`, `Prefers.right`).

A search finds a match wherever a rule matches and no earlier match reaches over that place
(`Found.mem_all`). A character that the rule refuses keeps earlier matches off
(`Found.mem_all_of_prefers`).
-/
namespace SqlAssist

namespace Pattern

variable {first second body inner : Pattern} {before : Option Char} {run more rest : List Char}
  {test : Char → Bool}

/-- The matcher goes on behind the run before it tries any other: if the match succeeds from there,
that is the match. -/
structure Prefers (pattern : Pattern) (before : Option Char) (run rest : List Char) : Prop where
  run_eq : ∀ {α : Type} (offset : Nat) (next : Site → Option α),
    (next ⟨offset + run.length, run.getLast?.or before, rest⟩).isSome →
      pattern.run ⟨offset, before, run ++ rest⟩ next =
        next ⟨offset + run.length, run.getLast?.or before, rest⟩

/-- The pattern does not match at the start of a text, whatever is to follow it. -/
structure Refuses (pattern : Pattern) (before : Option Char) (cs : List Char) : Prop where
  run_eq : ∀ {α : Type} (offset : Nat) (next : Site → Option α),
    pattern.run ⟨offset, before, cs⟩ next = none

theorem Prefers.endAt? {pattern : Pattern} (prefers : pattern.Prefers before run rest)
    (offset : Nat) : pattern.endAt? ⟨offset, before, run ++ rest⟩ =
      .some ⟨offset + run.length, run.getLast?.or before, rest⟩ :=
  prefers.run_eq offset .some rfl

/-- What the matcher prefers is one of the runs that the pattern takes. -/
theorem Prefers.takes {pattern : Pattern} (prefers : pattern.Prefers before run rest) :
    pattern.Takes before run rest := by
  obtain ⟨run', rest', whole, takes, reached⟩ := run_goesOn (prefers.endAt? 0)
  have length : run'.length = run.length := by
    have offset := congrArg Site.offset (Option.some.inj reached)
    simpa using offset
  obtain ⟨rfl, rfl⟩ := List.append_inj whole length.symm
  exact takes

/-! ## One rule for each pattern -/

theorem Refuses.one (stops : Lexer.Stops test rest) : (Pattern.one test).Refuses before rest := by
  refine ⟨fun offset next => ?_⟩
  cases rest with
  | nil => rfl
  | cons c rest =>
      have outside : test c = false := by simpa using stops
      simp [Pattern.run, outside]

theorem Refuses.seq (refused : first.Refuses before rest) :
    (Pattern.seq first second).Refuses before rest :=
  ⟨fun offset _ => refused.run_eq offset _⟩

theorem Prefers.empty : Pattern.empty.Prefers before [] rest := ⟨fun _ _ _ => rfl⟩

theorem Prefers.one {c : Char} (inside : test c = true) :
    (Pattern.one test).Prefers before [c] rest := by
  refine ⟨fun offset next _ => ?_⟩
  simp [Pattern.run, inside]

theorem Prefers.many (inside : ∀ c ∈ run, test c = true) (stops : Lexer.Stops test rest) :
    (Pattern.many test).Prefers before run rest :=
  ⟨fun offset _ goesOn => runMany_longest inside stops offset before goesOn⟩

theorem Prefers.seq (here : first.Prefers before run (more ++ rest))
    (later : second.Prefers (run.getLast?.or before) more rest) :
    (Pattern.seq first second).Prefers before (run ++ more) rest := by
  refine ⟨fun offset next goesOn => ?_⟩
  rw [List.length_append, ← Nat.add_assoc, List.getLast?_append, Option.or_assoc] at goesOn ⊢
  have reached := later.run_eq (offset + run.length) next goesOn
  rw [List.append_assoc, Pattern.run, here.run_eq offset _ (by rw [reached]; exact goesOn), reached]

theorem Prefers.left (here : first.Prefers before run rest) :
    (Pattern.either first second).Prefers before run rest := by
  refine ⟨fun offset next goesOn => ?_⟩
  obtain ⟨found, isFound⟩ := Option.isSome_iff_exists.mp goesOn
  rw [Pattern.run, here.run_eq offset next goesOn, isFound]

theorem Prefers.right (refused : first.Refuses before (run ++ rest))
    (here : second.Prefers before run rest) :
    (Pattern.either first second).Prefers before run rest := by
  refine ⟨fun offset next goesOn => ?_⟩
  rw [Pattern.run, refused.run_eq offset next]
  exact here.run_eq offset next goesOn

theorem Prefers.edge (apart : before.any Text.isWordChar ≠ rest.head?.any Text.isWordChar) :
    Pattern.edge.Prefers before [] rest := by
  refine ⟨fun offset next _ => ?_⟩
  have here : atEdge ⟨offset, before, rest⟩ = true := bne_iff_ne.mpr apart
  rw [List.nil_append, Pattern.run, if_pos here]
  rfl

/-- The run is made of preferred runs of the pattern, none of them empty, and behind it the pattern
is refused. -/
inductive Repeats (pattern : Pattern) : Option Char → List Char → List Char → Prop
  | stop {before : Option Char} {rest : List Char} (refused : pattern.Refuses before rest) :
      Repeats pattern before [] rest
  | again {before : Option Char} {run more rest : List Char} (inhabited : run ≠ [])
      (here : pattern.Prefers before run (more ++ rest))
      (later : Repeats pattern (run.getLast?.or before) more rest) :
      Repeats pattern before (run ++ more) rest

theorem Repeats.prefers (repeats : Repeats body before run rest) :
    (Pattern.repeated body).Prefers before run rest := by
  refine ⟨fun offset next goesOn => ?_⟩
  -- A repetition takes at least one character, so the characters of the run bound them.
  have bounded : ∀ bound : List Char, run.length ≤ bound.length →
      runRepeated (fun site next => body.run site next) next bound ⟨offset, before, run ++ rest⟩ =
        next ⟨offset + run.length, run.getLast?.or before, rest⟩ := by
    induction repeats generalizing offset with
    | stop refused =>
        intro bound _
        exact runRepeated_stop (fun next => refused.run_eq offset next) bound
    | @again before run more rest inhabited here later ih =>
        intro bound enough
        have positive : 0 < run.length := List.length_pos_iff.mpr inhabited
        rw [List.length_append] at enough
        rw [List.length_append, ← Nat.add_assoc, List.getLast?_append, Option.or_assoc] at goesOn ⊢
        have rest := ih (offset + run.length) goesOn bound.tail (by rw [List.length_tail]; omega)
        obtain ⟨found, isFound⟩ := Option.isSome_iff_exists.mp goesOn
        rw [isFound] at rest ⊢
        apply runRepeated_once
        · rintro rfl
          simp only [List.length_nil] at enough
          omega
        · rw [List.append_assoc, here.run_eq offset _ (by rw [rest]; rfl), rest]
  refine bounded (run ++ rest) ?_
  rw [List.length_append]
  omega

/-! ## Patterns made of others -/

theorem Prefers.skipped (refused : inner.Refuses before rest) :
    (optional inner).Prefers before [] rest :=
  .right refused .empty

/-- Some characters of a class: all that there are. -/
theorem Prefers.some (inhabited : run ≠ []) (inside : ∀ c ∈ run, test c = true)
    (stops : Lexer.Stops test rest) : (some test).Prefers before run rest := by
  cases run with
  | nil => exact absurd rfl inhabited
  | cons c run =>
      obtain ⟨here, later⟩ := List.forall_mem_cons.mp inside
      have first : (Pattern.one test).Prefers before [c] (run ++ rest) := .one here
      exact first.seq (.many later stops)

/-- One character after the other, each of a class of its own. -/
theorem Prefers.ones {β : Type} {test : β → Char → Bool} {letters : List β}
    (inside : List.Forall₂ (fun letter c => test letter c = true) letters run) :
    (all (letters.map fun letter => .one (test letter))).Prefers before run rest := by
  induction inside generalizing before with
  | nil => exact .empty
  | @cons letter c letters run here later ih =>
      have first : ∀ {rest}, (Pattern.one (test letter)).Prefers before [c] rest := .one here
      cases later with
      | nil => exact first
      | cons => exact first.seq ih

theorem Prefers.word (letters : List Char) : (word letters).Prefers before letters rest := by
  have inside : List.Forall₂ (fun letter c => (c == letter) = true) letters letters := by
    rw [List.forall₂_same]
    exact fun c _ => beq_self_eq_true c
  exact .ones inside

/-- Behind a run that ends in some characters of a class there is a character of the class. -/
theorem any_getLast?_or (inhabited : run ≠ []) (inside : ∀ c ∈ run, test c = true)
    (left : List Char) (before : Option Char) :
    ((left ++ run).getLast?.or before).any test = true := by
  rw [List.getLast?_append_of_ne_nil _ inhabited, List.getLast?_eq_some_getLast inhabited]
  exact inside _ (List.getLast_mem inhabited)

/-- The edge before a word. -/
theorem Prefers.opening (opens : before.any Text.isWordChar = false)
    (letter : rest.head?.any Text.isWordChar = true) : Pattern.edge.Prefers before [] rest := by
  apply Prefers.edge
  rw [opens, letter]
  exact Bool.noConfusion

/-- A pattern before an edge, where it prefers a run that ends a word. -/
theorem Prefers.seq_edge (here : inner.Prefers before run rest)
    (letter : (run.getLast?.or before).any Text.isWordChar = true)
    (closes : Lexer.Stops Text.isWordChar rest) :
    (Pattern.seq inner .edge).Prefers before run rest := by
  have ending : Pattern.edge.Prefers (run.getLast?.or before) [] rest := by
    apply Prefers.edge
    rw [letter, closes]
    exact Bool.noConfusion
  have whole : (Pattern.seq inner .edge).Prefers before (run ++ []) rest := here.seq ending
  rwa [List.append_nil] at whole

/-- A pattern between two edges, where it prefers a whole word. -/
theorem Prefers.framed (here : inner.Prefers before run rest) (inhabited : run ≠ [])
    (letters : ∀ c ∈ run, Text.isWordChar c = true) (opens : before.any Text.isWordChar = false)
    (closes : Lexer.Stops Text.isWordChar rest) :
    (all [.edge, inner, .edge]).Prefers before run rest := by
  have letter : (run ++ rest).head?.any Text.isWordChar = true := by
    rw [List.head?_append_of_ne_nil _ inhabited, List.head?_eq_some_head inhabited]
    exact letters _ (List.head_mem inhabited)
  have start : Pattern.edge.Prefers before [] (run ++ rest) := .opening opens letter
  exact start.seq (here.seq_edge (any_getLast?_or inhabited letters [] before) closes)

end Pattern

/-! ## What a search finds -/

namespace Found

variable {β : Type} {rules : List (β × Pattern)}

/-- A search passes over characters at which no rule matches. -/
theorem allFrom_pass {run rest : List Char}
    (nothing : ∀ c ∈ run, ∀ offset before rest, at? rules ⟨offset, before, c :: rest⟩ = none)
    (offset : Nat) (before : Option Char) :
    ∃ before', allFrom rules offset before 0 (run ++ rest) =
      allFrom rules (offset + run.length) before' 0 rest := by
  induction run generalizing offset before with
  | nil => exact ⟨before, rfl⟩
  | cons c run ih =>
      obtain ⟨here, later⟩ := List.forall_mem_cons.mp nothing
      obtain ⟨before', passed⟩ := ih later (offset + 1) (some c)
      refine ⟨before', ?_⟩
      rw [List.cons_append, allFrom_move (here ..), passed, List.length_cons, Nat.add_right_comm,
        Nat.add_assoc]

/-- Where a rule matches, the search finds the match unless an earlier one reaches over its
start. -/
theorem mem_all {text : List Char} {start : Nat} {found : Found β}
    (isFound : at? rules (.within text start) = some found) (forward : start < found.stop.offset)
    (uncovered : ∀ earlier ∈ all rules text, earlier.start < start →
      earlier.stop.offset ≤ start) : found ∈ all rules text := by
  obtain ⟨_, pattern, _, ends⟩ := at?_eq_some isFound
  have inside := (Pattern.occurs_of_endAt? ends forward).1.inside
  have searched : ∀ {offset skip : Nat} {before : Option Char} {cs : List Char},
      Site.within text offset = ⟨offset, before, cs⟩ → offset + skip ≤ start →
      (∀ earlier ∈ allFrom rules offset before skip cs, earlier.start < start →
        earlier.stop.offset ≤ start) → found ∈ allFrom rules offset before skip cs := by
    intro offset skip before cs here behind uncovered
    fun_induction allFrom rules offset before skip cs with
    | case1 offset _ _ =>
        have ahead : text.drop offset = [] := (Site.mk.inj here).2.2
        rw [List.drop_eq_nil_iff] at ahead
        omega
    | case2 _ _ _ _ _ ih => exact ih (Site.within_succ here) (by omega) uncovered
    | case3 offset _ _ _ nothing ih =>
        have further : offset ≠ start := by
          rintro rfl
          rw [here, nothing] at isFound
          cases isFound
        exact ih (Site.within_succ here) (by omega) uncovered
    | case4 offset _ _ _ other isOther forward' ih =>
        obtain ⟨ends, uncovered⟩ := List.forall_mem_cons.mp uncovered
        by_cases same : offset = start
        · subst same
          rw [here, isOther] at isFound
          exact List.mem_cons.mpr (.inl (Option.some.inj isFound).symm)
        · have reach := ends (by rw [(at?_eq_some isOther).1]; simp only; omega)
          exact List.mem_cons_of_mem _ (ih (Site.within_succ here) (by omega) uncovered)
    | case5 offset _ _ _ other isOther empty ih =>
        have further : offset ≠ start := by
          rintro rfl
          rw [here, isOther] at isFound
          rw [Option.some.inj isFound] at empty
          exact empty forward
        exact ih (Site.within_succ here) (by omega) uncovered
  exact searched rfl (by omega) uncovered

/-- A match does not reach over a character that its rule refuses. -/
theorem stop_le_of_refused {rule : β} {pattern : Pattern} {front rest : List Char}
    (refused : ∀ c ∈ front.getLast?, pattern.allows c = false) {found : Found β}
    (member : found ∈ all [(rule, pattern)] (front ++ rest)) (starts : found.start < front.length) :
    found.stop.offset ≤ front.length := by
  by_contra reaches
  obtain ⟨forward, other, isRule, ends⟩ := exists_endAt? member
  obtain ⟨_, rfl⟩ := Prod.mk.inj (List.mem_singleton.mp isRule)
  obtain ⟨occurs, _⟩ := Pattern.occurs_of_endAt? ends forward
  obtain ⟨c, isChar, allowed⟩ := occurs.exists_char (show found.start ≤ front.length - 1 by omega)
    (by omega)
  rw [List.getElem?_append_left (by omega), ← List.getLast?_eq_getElem?] at isChar
  rw [refused c isChar] at allowed
  cases allowed

/-- The search for a rule finds the run that its pattern prefers behind such a character. -/
theorem mem_all_of_prefers {rule : β} {pattern : Pattern} {front run rest : List Char}
    (refused : ∀ c ∈ front.getLast?, pattern.allows c = false) (inhabited : run ≠ [])
    (prefers : pattern.Prefers front.getLast? run rest) :
    ⟨rule, front.length, ⟨front.length + run.length, run.getLast?.or front.getLast?, rest⟩⟩ ∈
      all [(rule, pattern)] (front ++ (run ++ rest)) := by
  have site : Site.within (front ++ (run ++ rest)) front.length =
      ⟨front.length, front.getLast?, run ++ rest⟩ := by
    rw [Site.within, List.take_left, List.drop_left]
  have positive : 0 < run.length := List.length_pos_iff.mpr inhabited
  apply mem_all
  · rw [site]
    simp [at?, prefers.endAt?]
  · exact Nat.lt_add_of_pos_right positive
  · intro earlier member starts
    exact stop_le_of_refused refused member starts

end Found

end SqlAssist
