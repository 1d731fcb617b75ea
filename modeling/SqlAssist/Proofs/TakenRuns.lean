import Mathlib.Data.List.Forall2
import SqlAssist.Proofs.Matching

/-!
# What a pattern takes

`Pattern.Takes` says which runs of characters a pattern can match, without an order of preference:
one rule for each way to build a pattern. A pattern looks at what is around a run too, so the
relation has the character before the run and the text behind it.

* **soundness** — `run_goesOn`: the match goes on behind a run that the pattern takes;
* **characters** — `Pattern.allows` computes which characters a pattern can take at all
  (`Takes.allows`);
* **texts** — a match that a search finds in a text is the match of a rule there
  (`Found.exists_endAt?`), and so an occurrence of its pattern (`Pattern.occurs_of_endAt?`).
-/
namespace SqlAssist

namespace Pattern

/-- The pattern takes the run between the character before it and the rest of the text. -/
inductive Takes : Pattern → Option Char → List Char → List Char → Prop
  | empty {before rest} : Takes .empty before [] rest
  | one {test c before rest} (inside : test c = true) : Takes (.one test) before [c] rest
  | many {test before run rest} (inside : ∀ c ∈ run, test c = true) :
      Takes (.many test) before run rest
  | few {test before run rest} (inside : ∀ c ∈ run, test c = true) :
      Takes (.few test) before run rest
  | seq {first second before run more rest} (here : Takes first before run (more ++ rest))
      (later : Takes second (run.getLast?.or before) more rest) :
      Takes (.seq first second) before (run ++ more) rest
  | left {first second before run rest} (here : Takes first before run rest) :
      Takes (.either first second) before run rest
  | right {first second before run rest} (here : Takes second before run rest) :
      Takes (.either first second) before run rest
  | stop {body before rest} : Takes (.repeated body) before [] rest
  | again {body before run more rest} (here : Takes body before run (more ++ rest))
      (later : Takes (.repeated body) (run.getLast?.or before) more rest) :
      Takes (.repeated body) before (run ++ more) rest
  | edge {before rest offset} (here : atEdge ⟨offset, before, rest⟩ = true) :
      Takes .edge before [] rest
  | ending {before} : Takes .ending before [] []

/-! ## Soundness of the matcher -/

/-- The match goes on behind a run that the pattern takes at the site. -/
def GoesOn {α : Type} (pattern : Pattern) (site : Site) (next : Site → Option α)
    (found : α) : Prop :=
  ∃ run rest, site.rest = run ++ rest ∧ pattern.Takes site.before run rest ∧
    next ⟨site.offset + run.length, run.getLast?.or site.before, rest⟩ = .some found

variable {α : Type} {test : Char → Bool} {next : Site → Option α} {found : α}

theorem runMany_goesOn {cs : List Char} {offset : Nat} {before : Option Char}
    (isFound : runMany test next cs offset before = .some found) :
    ∃ run rest, cs = run ++ rest ∧ (∀ c ∈ run, test c = true) ∧
      next ⟨offset + run.length, run.getLast?.or before, rest⟩ = .some found := by
  fun_induction runMany test next cs offset before with
  | case1 offset before => exact ⟨[], [], rfl, List.forall_mem_nil _, isFound⟩
  | case2 c rest offset before inside other later ih =>
      obtain ⟨run, rest, rfl, all, goesOn⟩ := ih (later.trans isFound)
      refine ⟨c :: run, rest, rfl, List.forall_mem_cons.mpr ⟨inside, all⟩, ?_⟩
      rw [getLast?_cons_or, List.length_cons, ← goesOn, Nat.add_right_comm, Nat.add_assoc]
  | case3 c rest offset before | case4 c rest offset before =>
      exact ⟨[], c :: rest, rfl, List.forall_mem_nil _, isFound⟩

theorem runFew_goesOn {cs : List Char} {offset : Nat} {before : Option Char}
    (isFound : runFew test next cs offset before = .some found) :
    ∃ run rest, cs = run ++ rest ∧ (∀ c ∈ run, test c = true) ∧
      next ⟨offset + run.length, run.getLast?.or before, rest⟩ = .some found := by
  fun_induction runFew test next cs offset before with
  | case1 offset before => exact ⟨[], [], rfl, List.forall_mem_nil _, isFound⟩
  | case2 c rest offset before other here =>
      exact ⟨[], c :: rest, rfl, List.forall_mem_nil _, here.trans isFound⟩
  | case3 c rest offset before stuck inside ih =>
      obtain ⟨run, rest, rfl, all, goesOn⟩ := ih isFound
      refine ⟨c :: run, rest, rfl, List.forall_mem_cons.mpr ⟨inside, all⟩, ?_⟩
      rw [getLast?_cons_or, List.length_cons, ← goesOn, Nat.add_right_comm, Nat.add_assoc]
  | case4 => cases isFound

/-- Two patterns one after the other, if the match goes on with the second one. -/
theorem GoesOn.trans {first second both : Pattern} {site : Site} {middle : Site → Option α}
    (join : ∀ {before run more rest}, first.Takes before run (more ++ rest) →
      second.Takes (run.getLast?.or before) more rest → both.Takes before (run ++ more) rest)
    (sound : ∀ {site}, middle site = .some found → second.GoesOn site next found)
    (here : first.GoesOn site middle found) : both.GoesOn site next found := by
  obtain ⟨run, behind, whole, takes, reached⟩ := here
  obtain ⟨more, rest, rfl, later, goesOn⟩ := sound reached
  refine ⟨run ++ more, rest, by rw [whole, List.append_assoc], join takes later, ?_⟩
  rw [List.length_append, List.getLast?_append, Option.or_assoc, ← Nat.add_assoc, ← goesOn]

theorem runRepeated_goesOn {body : Pattern}
    (sound : ∀ {site : Site} {next : Site → Option α}, body.run site next = .some found →
      body.GoesOn site next found)
    {bound : List Char} {site : Site}
    (isFound : runRepeated (fun site next => body.run site next) next bound site = .some found) :
    (Pattern.repeated body).GoesOn site next found := by
  -- Where the bound ends the repetition stops, as it may anywhere.
  induction bound generalizing site with
  | nil => exact ⟨[], site.rest, rfl, .stop, isFound⟩
  | cons c bound ih =>
      rw [runRepeated] at isFound
      split at isFound
      · rename_i other again
        exact (sound (again.trans isFound)).trans .again ih
      · exact ⟨[], site.rest, rfl, .stop, isFound⟩

/-- Where the match goes on, the pattern has taken a run. -/
theorem run_goesOn {pattern : Pattern} {site : Site} {next : Site → Option α}
    (isFound : pattern.run site next = .some found) : pattern.GoesOn site next found := by
  induction pattern generalizing site next with
  | empty => exact ⟨[], site.rest, rfl, .empty, isFound⟩
  | one test =>
      rw [run] at isFound
      split at isFound
      · rename_i c rest isRest
        split at isFound
        · rename_i inside
          exact ⟨[c], rest, isRest, .one inside, isFound⟩
        · cases isFound
      · cases isFound
  | many test =>
      obtain ⟨run, rest, whole, inside, goesOn⟩ := runMany_goesOn isFound
      exact ⟨run, rest, whole, .many inside, goesOn⟩
  | few test =>
      obtain ⟨run, rest, whole, inside, goesOn⟩ := runFew_goesOn isFound
      exact ⟨run, rest, whole, .few inside, goesOn⟩
  | seq first second ihFirst ihSecond =>
      exact (ihFirst isFound).trans .seq ihSecond
  | either first second ihFirst ihSecond =>
      rw [run] at isFound
      split at isFound
      · rename_i other here
        obtain ⟨run, rest, whole, takes, goesOn⟩ := ihFirst (here.trans isFound)
        exact ⟨run, rest, whole, .left takes, goesOn⟩
      · obtain ⟨run, rest, whole, takes, goesOn⟩ := ihSecond isFound
        exact ⟨run, rest, whole, .right takes, goesOn⟩
  | repeated body ih => exact runRepeated_goesOn ih isFound
  | edge =>
      rw [run] at isFound
      split at isFound
      · rename_i here
        exact ⟨[], site.rest, rfl, .edge here, isFound⟩
      · cases isFound
  | ending =>
      rw [run] at isFound
      split at isFound
      · rename_i here
        obtain ⟨offset, before, rest⟩ := site
        obtain rfl : rest = [] := List.isEmpty_iff.mp here
        exact ⟨[], [], rfl, .ending, isFound⟩
      · cases isFound

/-! ## Characters that a pattern can take -/

/-- Whether the pattern can take the character. -/
def allows : Pattern → Char → Bool
  | .empty, _ | .edge, _ | .ending, _ => false
  | .one test, c | .many test, c | .few test, c => test c
  | .seq first second, c | .either first second, c => first.allows c || second.allows c
  | .repeated body, c => body.allows c

theorem Takes.allows {pattern : Pattern} {before : Option Char} {run rest : List Char}
    (takes : pattern.Takes before run rest) : ∀ c ∈ run, pattern.allows c = true := by
  induction takes with
  | empty | stop | edge | ending => exact List.forall_mem_nil _
  | one inside => exact List.forall_mem_singleton.mpr inside
  | many inside | few inside => exact inside
  | seq _ _ ihHere ihLater =>
      intro c member
      rw [Pattern.allows, Bool.or_eq_true]
      exact (List.mem_append.mp member).imp (ihHere c) (ihLater c)
  | left _ ih =>
      intro c member
      rw [Pattern.allows, ih c member, Bool.true_or]
  | right _ ih =>
      intro c member
      rw [Pattern.allows, ih c member, Bool.or_true]
  | again _ _ ihHere ihLater =>
      intro c member
      exact (List.mem_append.mp member).elim (ihHere c) (ihLater c)

theorem Takes.not_mem {pattern : Pattern} {before : Option Char} {run rest : List Char} {c : Char}
    (takes : pattern.Takes before run rest) (refused : pattern.allows c = false) : c ∉ run := by
  intro member
  rw [takes.allows c member] at refused
  cases refused

theorem refuses_of_all {pattern : Pattern} {cs : List Char}
    (refused : cs.all (!pattern.allows ·) = true) : ∀ c ∈ cs, pattern.allows c = false := by
  intro c member
  rw [← Bool.not_eq_true']
  exact List.all_eq_true.mp refused c member

theorem allows_all (patterns : List Pattern) (c : Char) :
    (all patterns).allows c = patterns.any (·.allows c) := by
  fun_induction all patterns with
  | case1 => rfl
  | case2 pattern => rw [List.any_cons, List.any_nil, Bool.or_false]
  | case3 pattern more _ ih => rw [allows, ih, List.any_cons]

theorem allows_any (patterns : List Pattern) (c : Char) :
    (any patterns).allows c = patterns.any (·.allows c) := by
  fun_induction any patterns with
  | case1 => rfl
  | case2 pattern => rw [List.any_cons, List.any_nil, Bool.or_false]
  | case3 pattern more _ ih => rw [allows, ih, List.any_cons]

theorem allows_word {letters : List Char} {c : Char} :
    (word letters).allows c = true ↔ c ∈ letters := by
  simp [word, allows_all, char, allows]

theorem allows_framed (inner : Pattern) (c : Char) :
    (all [.edge, inner, .edge]).allows c = inner.allows c := by
  simp [allows_all, allows]

/-! ## Patterns made of others -/

section

variable {before : Option Char} {run rest : List Char}

theorem Takes.of_seq {first second : Pattern}
    (takes : (Pattern.seq first second).Takes before run rest) :
    ∃ left right, run = left ++ right ∧ first.Takes before left (right ++ rest) ∧
      second.Takes (left.getLast?.or before) right rest := by
  cases takes with
  | seq here later => exact ⟨_, _, rfl, here, later⟩

theorem Takes.of_either {first second : Pattern}
    (takes : (either first second).Takes before run rest) :
    first.Takes before run rest ∨ second.Takes before run rest := by
  cases takes with
  | left here => exact .inl here
  | right here => exact .inr here

theorem Takes.of_optional {pattern : Pattern} (takes : pattern.optional.Takes before run rest) :
    pattern.Takes before run rest ∨ run = [] := by
  rcases Takes.of_either takes with here | nothing
  · exact .inl here
  · cases nothing
    exact .inr rfl

theorem Takes.of_char {c : Char} (takes : (char c).Takes before run rest) : run = [c] := by
  cases takes with
  | one inside => rw [beq_iff_eq.mp inside]

theorem Takes.of_edge (takes : Pattern.edge.Takes before run rest) :
    run = [] ∧ before.any Text.isWordChar ≠ rest.head?.any Text.isWordChar := by
  cases takes with
  | edge here => exact ⟨rfl, bne_iff_ne.mp here⟩

/-- A pattern between two edges. -/
theorem Takes.of_framed {inner : Pattern}
    (takes : (all [.edge, inner, .edge]).Takes before run rest) :
    inner.Takes before run rest ∧
      before.any Text.isWordChar ≠ (run ++ rest).head?.any Text.isWordChar ∧
      (run.getLast?.or before).any Text.isWordChar ≠ rest.head?.any Text.isWordChar := by
  obtain ⟨_, framed, rfl, opening, takes⟩ := takes.of_seq
  obtain ⟨rfl, opens⟩ := opening.of_edge
  obtain ⟨run, _, rfl, takes, closing⟩ := takes.of_seq
  obtain ⟨rfl, closes⟩ := closing.of_edge
  rw [List.append_nil] at opens ⊢
  exact ⟨takes, opens, closes⟩

/-- Some characters of a class: at least one, and all of the class. -/
theorem Takes.of_some (takes : (some test).Takes before run rest) :
    run ≠ [] ∧ ∀ c ∈ run, test c = true := by
  obtain ⟨left, right, rfl, first, more⟩ := takes.of_seq
  cases first with
  | one inside =>
      cases more with
      | many all => exact ⟨List.cons_ne_nil _ _, List.forall_mem_cons.mpr ⟨inside, all⟩⟩

theorem Takes.of_any {patterns : List Pattern} (takes : (any patterns).Takes before run rest) :
    ∃ pattern ∈ patterns, pattern.Takes before run rest := by
  fun_induction any patterns with
  | case1 =>
      cases takes with
      | one inside => cases inside
  | case2 pattern => exact ⟨pattern, List.mem_cons_self, takes⟩
  | case3 pattern more _ ih =>
      rcases takes.of_either with here | later
      · exact ⟨pattern, List.mem_cons_self, here⟩
      · obtain ⟨other, member, here⟩ := ih later
        exact ⟨other, List.mem_cons_of_mem pattern member, here⟩

/-- One character after the other, each of a class of its own. -/
theorem Takes.of_ones {β : Type} {test : β → Char → Bool} {letters : List β}
    (takes : (all (letters.map fun letter => .one (test letter))).Takes before run rest) :
    List.Forall₂ (fun letter c => test letter c = true) letters run := by
  induction letters generalizing before run with
  | nil =>
      cases takes
      exact .nil
  | cons letter more ih =>
      cases more with
      | nil =>
          cases takes with
          | one inside => exact .cons inside .nil
      | cons next more =>
          obtain ⟨left, right, rfl, here, later⟩ := takes.of_seq
          cases here with
          | one inside => exact .cons inside (ih later)

theorem Takes.of_word {letters : List Char} (takes : (word letters).Takes before run rest) :
    run = letters := by
  have same : List.Forall₂ (fun letter c => (c == letter) = true) letters run := Takes.of_ones takes
  clear takes
  induction same with
  | nil => rfl
  | cons here _ ih => rw [beq_iff_eq.mp here, ih]

end

end Pattern

/-! ## Matches in a text -/

/-- The site of an offset of a text. -/
def Site.within (text : List Char) (offset : Nat) : Site :=
  ⟨offset, (text.take offset).getLast?, text.drop offset⟩

theorem Site.within_succ {text rest : List Char} {offset : Nat} {before : Option Char} {c : Char}
    (here : within text offset = ⟨offset, before, c :: rest⟩) :
    within text (offset + 1) = ⟨offset + 1, some c, rest⟩ := by
  obtain ⟨-, ahead⟩ : _ ∧ text.drop offset = c :: rest := by
    simpa only [within, mk.injEq, true_and] using here
  have isChar : text[offset]? = some c := by rw [← List.head?_drop, ahead]; rfl
  rw [within, List.take_add_one, isChar, Option.toList_some, List.getLast?_concat, ← List.tail_drop,
    ahead]
  rfl

namespace Pattern

/-- The pattern takes the characters from one offset of a text to a later one. -/
structure Occurs (pattern : Pattern) (text : List Char) (start stop : Nat) : Prop where
  inhabited : start < stop
  inside : stop ≤ text.length
  takes : pattern.Takes (text.take start).getLast? ((text.take stop).drop start) (text.drop stop)

theorem occurs_of_endAt? {pattern : Pattern} {text : List Char} {start : Nat} {stop : Site}
    (ends : pattern.endAt? (.within text start) = .some stop) (forward : start < stop.offset) :
    pattern.Occurs text start stop.offset ∧ stop.rest = text.drop stop.offset := by
  obtain ⟨run, rest, whole, takes, reached⟩ := run_goesOn ends
  obtain rfl := Option.some.inj reached
  have whole : text.drop start = run ++ rest := whole
  have forward : start < start + run.length := forward
  have slice : (text.take (start + run.length)).drop start = run := by
    rw [List.drop_take, whole, Nat.add_sub_cancel_left, List.take_left]
  have behind : text.drop (start + run.length) = rest := by
    rw [← List.drop_drop, whole, List.drop_left]
  show pattern.Occurs text start (start + run.length) ∧ rest = text.drop (start + run.length)
  refine ⟨⟨forward, ?_, ?_⟩, behind.symm⟩
  · have fits := congrArg List.length whole
    rw [List.length_drop, List.length_append] at fits
    omega
  · rw [slice, behind]
    exact takes

end Pattern

namespace Found

variable {β : Type} {rules : List (β × Pattern)}

/-- A match of a search is not empty, and a rule matches there. -/
theorem exists_endAt? {text : List Char} {found : Found β} (member : found ∈ all rules text) :
    found.start < found.stop.offset ∧
      ∃ pattern, (found.rule, pattern) ∈ rules ∧
        pattern.endAt? (.within text found.start) = some found.stop := by
  have searched : ∀ {offset skip : Nat} {before : Option Char} {cs : List Char},
      Site.within text offset = ⟨offset, before, cs⟩ → found ∈ allFrom rules offset before skip cs →
      found.start < found.stop.offset ∧ ∃ pattern, (found.rule, pattern) ∈ rules ∧
        pattern.endAt? (.within text found.start) = some found.stop := by
    intro offset skip before cs here member
    fun_induction allFrom rules offset before skip cs with
    | case1 => cases member
    | case2 _ _ _ _ _ ih | case3 _ _ _ _ _ ih => exact ih (Site.within_succ here) member
    | case4 offset before c rest found isFound forward ih =>
        rcases List.mem_cons.mp member with rfl | later
        · obtain ⟨start, pattern, isRule, ends⟩ := at?_eq_some isFound
          simp only at start
          rw [start]
          exact ⟨forward, pattern, isRule, here ▸ ends⟩
        · exact ih (Site.within_succ here) later
    | case5 _ _ _ _ _ _ _ ih => exact ih (Site.within_succ here) member
  exact searched rfl member

end Found

end SqlAssist
