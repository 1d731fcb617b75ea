import SqlAssist.Debounce.Script

/-!
# Deliveries of a debouncer

A run of a debouncer is any sequence of submissions, cancellations and steps. A step may be taken by
any submission at any time and with any world, so all orders are covered in which waiting ends, work
goes on, raises, gives in to an interruption or ends in spite of it. A call that a receiver makes
comes behind its step, and work that makes one pauses there.

* **steps** — `Takes` lists the steps that a submission can take, and `resume_cases` says that there
  are no others: a step delivers only for the current generation, and ends its submission then;
* **receivers** — a step that does not say `delivered` has called no receiver
  (`resume_withReceivers`);
* **runs** — `Tracks` ties a debouncer to the history that led to it, `Tracks.run` carries it
  through a run, and `deliveries_current` reads the safety of deliveries off it.
-/
namespace SqlAssist

namespace Debounce

/-- What can happen to a debouncer: a call, or the next step of a submission in some world. -/
inductive Action (ω ρ ε : Type) where
  | submit (work : Work ω ρ ε)
  | cancel
  | step (generation : Nat) (now : Rat) (world : ω)

/-- What a run shows: the calls, and the results that are handed over. -/
inductive Occurrence where
  | submitted (generation : Nat)
  | cancelled
  | delivered (generation : Nat)
  deriving DecidableEq, Repr

namespace Occurrence

def isCall : Occurrence → Bool
  | .delivered _ => false
  | _ => true

def submission? : Occurrence → Option Nat
  | .submitted generation => some generation
  | _ => none

def delivery? : Occurrence → Option Nat
  | .delivered generation => some generation
  | _ => none

end Occurrence

/-- The last call of a history. -/
def lastCall (history : List Occurrence) : Option Occurrence :=
  (history.filter (·.isCall)).getLast?

/-- The deliveries of a history are current. -/
structure Safe (history : List Occurrence) : Prop where
  /-- The last call before a delivery is the submission that delivers. -/
  own : ∀ before generation, before ++ [.delivered generation] <+: history →
    lastCall before = some (.submitted generation)
  /-- Each generation delivers at most once, and later ones later. -/
  increasing : (history.filterMap Occurrence.delivery?).Pairwise (· < ·)
  /-- A submission with a call behind it never delivers. -/
  superseded : ∀ before call after generation, history = before ++ call :: after →
    call.isCall = true → .submitted generation ∈ before → .delivered generation ∉ after
  /-- Between a cancellation and the next submission nothing is delivered. -/
  cancelled : ∀ before between after, history = before ++ .cancelled :: (between ++ after) →
    (∀ generation, .submitted generation ∉ between) → ∀ generation, .delivered generation ∉ between

/-! ## Histories -/

/-- What `Safe` is read off: it is kept when a history grows at its end. -/
structure Ordered (history : List Occurrence) : Prop where
  own : ∀ before generation, before ++ [.delivered generation] <+: history →
    lastCall before = some (.submitted generation)
  increasing : (history.filterMap Occurrence.delivery?).Pairwise (· < ·)
  distinct : (history.filterMap Occurrence.submission?).Pairwise (· < ·)

section

variable {history : List Occurrence}

theorem lastCall_append (left right : List Occurrence) :
    lastCall (left ++ right) = (lastCall right).or (lastCall left) := by
  rw [lastCall, List.filter_append, List.getLast?_append]
  rfl

theorem lastCall_concat {call : Occurrence} (isCall : call.isCall = true) :
    lastCall (history ++ [call]) = some call := by
  rw [lastCall_append, lastCall, List.filter_cons_of_pos isCall]
  rfl

theorem mem_of_lastCall {call : Occurrence} (isLast : lastCall history = some call) :
    call ∈ history :=
  (List.mem_filter.mp (List.mem_of_getLast? isLast)).1

theorem Ordered.call (ordered : Ordered history) {call : Occurrence} (isCall : call.isCall = true)
    (newer : ∀ n ∈ call.submission?, ∀ g, .submitted g ∈ history → g < n) :
    Ordered (history ++ [call]) where
  own before generation isPrefix := by
    rcases List.prefix_concat_iff.mp isPrefix with whole | earlier
    · have last := (List.append_inj_right' whole rfl : [Occurrence.delivered generation] = [call])
      obtain rfl : Occurrence.delivered generation = call := by simpa using last
      cases isCall
    · exact ordered.own before generation earlier
  increasing := by
    rw [List.filterMap_append]
    cases call with
    | delivered => cases isCall
    | submitted | cancelled =>
        simpa [List.filterMap_cons, Occurrence.delivery?] using ordered.increasing
  distinct := by
    rw [List.filterMap_append]
    cases call with
    | delivered => cases isCall
    | cancelled => simpa [List.filterMap_cons, Occurrence.submission?] using ordered.distinct
    | submitted n =>
        refine List.pairwise_append.mpr ⟨ordered.distinct, List.pairwise_singleton _ n, ?_⟩
        intro g member m isNew
        obtain rfl : m = n := by simpa [Occurrence.submission?] using isNew
        obtain ⟨o, isOld, submits⟩ := List.mem_filterMap.mp member
        cases o with
        | submitted g' =>
            obtain rfl : g' = g := by simpa [Occurrence.submission?] using submits
            exact newer m rfl g' isOld
        | cancelled | delivered => cases submits

theorem Ordered.delivery (ordered : Ordered history) {n : Nat}
    (last : lastCall history = some (.submitted n))
    (newer : ∀ g, .delivered g ∈ history → g < n) : Ordered (history ++ [.delivered n]) where
  own before generation isPrefix := by
    rcases List.prefix_concat_iff.mp isPrefix with whole | earlier
    · obtain ⟨rfl, same⟩ := List.append_inj' whole rfl
      obtain rfl : generation = n := by simpa using same
      exact last
    · exact ordered.own before generation earlier
  increasing := by
    rw [List.filterMap_append]
    refine List.pairwise_append.mpr ⟨ordered.increasing, List.pairwise_singleton _ n, ?_⟩
    intro g member m isNew
    obtain rfl : m = n := by simpa [Occurrence.delivery?] using isNew
    obtain ⟨o, isOld, delivers⟩ := List.mem_filterMap.mp member
    cases o with
    | delivered g' =>
        obtain rfl : g' = g := by simpa [Occurrence.delivery?] using delivers
        exact newer g' isOld
    | submitted | cancelled => cases delivers
  distinct := by
    rw [List.filterMap_append]
    simpa [List.filterMap_cons, Occurrence.submission?] using ordered.distinct

/-- What is delivered behind a call was submitted by that call or behind it. -/
theorem Ordered.submitted_behind (ordered : Ordered history)
    {before between after : List Occurrence} {call : Occurrence} (isCall : call.isCall = true)
    {g : Nat} (parts : history = before ++ call :: (between ++ .delivered g :: after)) :
    .submitted g ∈ call :: between := by
  have isPrefix : (before ++ call :: between) ++ [.delivered g] <+: history :=
    ⟨after, by simp [parts]⟩
  have own := ordered.own _ g isPrefix
  have some : (lastCall (call :: between)).isSome := by
    simp [lastCall, List.filter_cons_of_pos isCall]
  obtain ⟨last, isLast⟩ := Option.isSome_iff_exists.mp some
  rw [lastCall_append, isLast] at own
  obtain rfl : last = .submitted g := by simpa using own
  exact mem_of_lastCall isLast

theorem Ordered.safe (ordered : Ordered history) : Safe history where
  own := ordered.own
  increasing := ordered.increasing
  superseded before call after g parts isCall early late := by
    obtain ⟨between, rest, rfl⟩ := List.append_of_mem late
    have again := ordered.submitted_behind isCall parts
    have distinct := ordered.distinct
    rw [parts, List.filterMap_append] at distinct
    have first : g ∈ before.filterMap Occurrence.submission? :=
      List.mem_filterMap.mpr ⟨_, early, rfl⟩
    have second : g ∈ (call :: (between ++ .delivered g :: rest)).filterMap
        Occurrence.submission? := by
      refine List.mem_filterMap.mpr ⟨.submitted g, ?_, rfl⟩
      rw [← List.cons_append]
      exact List.mem_append_left _ again
    exact Nat.lt_irrefl g ((List.pairwise_append.mp distinct).2.2 g first g second)
  cancelled before between after parts noSubmission g late := by
    obtain ⟨left, right, rfl⟩ := List.append_of_mem late
    have behind : .submitted g ∈ Occurrence.cancelled :: left :=
      ordered.submitted_behind rfl (by rw [parts, List.append_assoc, List.cons_append])
    rcases List.mem_cons.mp behind with same | member
    · cases same
    · exact noSubmission g (List.mem_append_left _ member)

end

/-- Whether a submission has ended. -/
def Submission.isSettled {ω ρ ε : Type} (s : Submission ω ρ ε) : Bool :=
  match s.phase with
  | .settled _ => true
  | _ => false

end Debounce

open Debounce

namespace Debouncer

variable {ω ρ ε : Type}

/-! ## One step -/

/-- The steps that a submission can take. -/
inductive Takes (d : Debouncer ω ρ ε) (s : Submission ω ρ ε) : Step ω ρ ε → Prop where
  | enters (phase : Phase ε) (world : ω) (next : Next) :
      Takes d s (d.enter s.generation phase world next)
  | settles (outcome : Outcome ε) (world : ω) : Takes d s (d.settle s.generation outcome world)
  | drops (world : ω) :
      Takes d s (d.settle s.generation .finished world (some (.dropped s.generation)))
  | delivers {receive : Rat → ρ → ω → Handover ε × ω} (outcome : Outcome ε) (now : Rat)
      (result : ρ) (world : ω) : s.generation = d.generation → s.work.receiver = some receive →
      Takes d s (d.settle s.generation outcome (receive now result world).2
        (some (.delivered s.generation)))

theorem handOver_takes (d : Debouncer ω ρ ε) (s : Submission ω ρ ε) (now : Rat) (result : ρ)
    (world : ω) : Takes d s (d.handOver s now result world) := by
  unfold handOver
  split
  · rename_i current
    split
    · exact .settles _ _
    · rename_i receive isReceiver
      exact .delivers _ now result world current isReceiver
  · exact .drops _

theorem follow_takes (d : Debouncer ω ρ ε) (s : Submission ω ρ ε) (now : Rat)
    (step : Progress ρ ε × ω) : Takes d s (d.follow s now step) := by
  unfold follow
  split
  · exact .enters _ _ _
  · exact .enters _ _ _
  · exact handOver_takes d s now _ _
  · exact .settles _ _
  · exact .settles _ _

theorem submission?_eq_some {d : Debouncer ω ρ ε} {generation : Nat} {s : Submission ω ρ ε}
    (isFound : d.submission? generation = some s) :
    s ∈ d.submissions ∧ s.generation = generation :=
  ⟨List.mem_of_find?_eq_some isFound, by simpa using List.find?_some isFound⟩

/-- A step is taken by a submission that has not ended, or nothing happens. -/
theorem resume_cases (d : Debouncer ω ρ ε) (generation : Nat) (now : Rat) (world : ω) :
    d.resume generation now world = ⟨d, world, .ended, none⟩ ∨
    ∃ s ∈ d.submissions, s.generation = generation ∧ s.isSettled = false ∧
      Takes d s (d.resume generation now world) := by
  unfold resume
  split
  · exact .inl rfl
  · rename_i s isFound
    obtain ⟨member, rfl⟩ := submission?_eq_some isFound
    split
    case h_7 => exact .inl rfl
    all_goals
      rename_i phase _
      refine .inr ⟨s, member, rfl, by simp only [Submission.isSettled, phase], ?_⟩
    · exact .settles _ _
    · exact .enters _ _ _
    · exact .settles _ _
    · exact follow_takes d s now _
    · exact follow_takes d s now _
    · exact follow_takes d s now _

/-! ## Receivers -/

/-- The step of its work that a submission takes next, if it gets to one. -/
def workStep? (s : Submission ω ρ ε) (now : Rat) (world : ω) : Option (Progress ρ ε × ω) :=
  match s.phase, s.interrupted with
  | .waiting, false => some (s.work.start now world)
  | .pausing, true => some (s.work.interrupt now world)
  | .pausing, false => some (s.work.resume now world)
  | _, _ => none

/-- The next step of a generation calls a receiver with a result and leads to the given world. -/
def HandsOver (d : Debouncer ω ρ ε) (generation : Nat) (now : Rat) (world after : ω) : Prop :=
  ∃ s receive result changed, d.submission? generation = some s ∧ s.work.receiver = some receive ∧
    workStep? s now world = some (.returned result, changed) ∧
    (receive now result changed).2 = after

theorem resume_eq_follow {d : Debouncer ω ρ ε} {generation : Nat} {now : Rat} {world : ω}
    {s : Submission ω ρ ε} {step : Progress ρ ε × ω} (isFound : d.submission? generation = some s)
    (takes : workStep? s now world = some step) :
    d.resume generation now world = d.follow s now step := by
  obtain ⟨own, work, phase, interrupted⟩ := s
  simp only [resume, isFound]
  cases phase <;> cases interrupted <;> cases takes <;> rfl

/-- A step without one of its work delivers nothing. -/
theorem resume_silent {d : Debouncer ω ρ ε} {generation : Nat} {now : Rat} {world : ω}
    (none : ∀ s ∈ d.submission? generation, workStep? s now world = none) :
    (d.resume generation now world).effect = .none := by
  unfold resume
  split
  · rfl
  · rename_i s isFound
    have := none s isFound
    obtain ⟨own, work, phase, interrupted⟩ := s
    cases phase <;> cases interrupted <;> first | rfl | cases this

theorem follow_delivered_iff (d : Debouncer ω ρ ε) (s : Submission ω ρ ε) (now : Rat)
    (step : Progress ρ ε × ω) (g : Nat) :
    (d.follow s now step).effect = some (.delivered g) ↔ g = s.generation ∧ g = d.generation ∧
      ∃ receive result changed, s.work.receiver = some receive ∧
        step = (.returned result, changed) ∧
        (receive now result changed).2 = (d.follow s now step).world := by
  obtain ⟨progress, changed⟩ := step
  cases progress with
  | returned result =>
      simp only [follow, handOver]
      by_cases current : s.generation = d.generation
      · cases receiver : s.work.receiver with
        | none => simp [current, settle]
        | some receive =>
            simp only [current, if_true, settle, Option.some.injEq, Effect.delivered.injEq]
            constructor
            · rintro rfl
              exact ⟨rfl, rfl, receive, result, changed, rfl, rfl, rfl⟩
            · rintro ⟨same, _⟩
              exact same.symm
      · simp only [current, if_false, settle, Option.some.injEq, reduceCtorEq, false_iff]
        rintro ⟨rfl, same, _⟩
        exact current same
  | pausing | carryingOn | raised | stopped =>
      constructor
      · intro delivered
        cases delivered
      · rintro ⟨_, _, _, _, _, _, other, _⟩
        cases other

/-- A step delivers just when it is the current generation that has a result and a receiver for
it. -/
theorem resume_delivered_iff (d : Debouncer ω ρ ε) (generation : Nat) (now : Rat) (world : ω)
    (g : Nat) :
    (d.resume generation now world).effect = some (.delivered g) ↔
      g = generation ∧ g = d.generation ∧
      d.HandsOver generation now world (d.resume generation now world).world := by
  constructor
  · intro delivered
    cases isFound : d.submission? generation with
    | none =>
        rw [resume_silent (by simp [isFound])] at delivered
        cases delivered
    | some s =>
        cases takes : workStep? s now world with
        | none =>
            rw [resume_silent (by simp [isFound, takes])] at delivered
            cases delivered
        | some step =>
            rw [resume_eq_follow isFound takes] at delivered ⊢
            obtain ⟨own, isCurrent, receive, result, changed, isReceiver, rfl, reached⟩ :=
              (follow_delivered_iff d s now step g).mp delivered
            refine ⟨own.trans (submission?_eq_some isFound).2, isCurrent, ?_⟩
            exact ⟨s, receive, result, changed, isFound, isReceiver, takes, reached⟩
  · rintro ⟨rfl, isCurrent, s, receive, result, changed, isFound, isReceiver, takes, reached⟩
    rw [resume_eq_follow isFound takes] at reached ⊢
    exact (follow_delivered_iff d s now _ g).mpr ⟨(submission?_eq_some isFound).2.symm, isCurrent,
      receive, result, changed, isReceiver, rfl, reached⟩

/-- The submission with another receiver, if it has one. -/
def withReceiver (receive : Rat → ρ → ω → Handover ε × ω) (s : Submission ω ρ ε) :
    Submission ω ρ ε :=
  { s with work := { s.work with receiver := s.work.receiver.map fun _ => receive } }

/-- The debouncer with another receiver in the place of each that there is. -/
def withReceivers (receive : Rat → ρ → ω → Handover ε × ω) (d : Debouncer ω ρ ε) :
    Debouncer ω ρ ε :=
  { d with submissions := d.submissions.map (withReceiver receive) }

theorem submission?_withReceivers (receive : Rat → ρ → ω → Handover ε × ω) (d : Debouncer ω ρ ε)
    (generation : Nat) :
    (d.withReceivers receive).submission? generation =
      (d.submission? generation).map (withReceiver receive) := by
  simp only [submission?, withReceivers, List.find?_map]
  rfl

theorem follow_withReceivers (receive : Rat → ρ → ω → Handover ε × ω) (d : Debouncer ω ρ ε)
    (s : Submission ω ρ ε) (now : Rat) (step : Progress ρ ε × ω)
    (silent : ∀ generation, (d.follow s now step).effect ≠ some (.delivered generation)) :
    ((d.withReceivers receive).follow (withReceiver receive s) now step).world =
      (d.follow s now step).world := by
  unfold follow at silent ⊢
  split
  case h_3 result _ =>
    -- Only here a receiver can be called, and then the step says so.
    simp only [handOver] at silent ⊢
    by_cases current : s.generation = d.generation
    · cases receiver : s.work.receiver with
      | none => simp [withReceiver, withReceivers, current, receiver, settle]
      | some other => simp [*, settle] at silent
    · simp [withReceiver, withReceivers, current, settle]
  all_goals rfl

/-- A step that does not say that it delivers has called no receiver: with other receivers it leads
to the same world. -/
theorem resume_withReceivers (receive : Rat → ρ → ω → Handover ε × ω) (d : Debouncer ω ρ ε)
    (generation : Nat) (now : Rat) (world : ω)
    (silent : ∀ g, (d.resume generation now world).effect ≠ some (.delivered g)) :
    ((d.withReceivers receive).resume generation now world).world =
      (d.resume generation now world).world := by
  unfold resume at silent ⊢
  rw [submission?_withReceivers]
  cases isFound : d.submission? generation with
  | none => rfl
  | some s =>
      rw [isFound] at silent
      obtain ⟨own, work, phase, interrupted⟩ := s
      cases phase <;> cases interrupted
      case waiting.false => exact follow_withReceivers receive d _ now _ silent
      case pausing.false => exact follow_withReceivers receive d _ now _ silent
      case pausing.true => exact follow_withReceivers receive d _ now _ silent
      all_goals rfl

/-! ## Runs -/

/-- The debouncer after something has happened to it. -/
def perform (d : Debouncer ω ρ ε) : Action ω ρ ε → Debouncer ω ρ ε
  | .submit work => d.submit work
  | .cancel => d.cancel
  | .step generation now world => (d.resume generation now world).debouncer

/-- What something that happens to a debouncer shows. -/
def shown (d : Debouncer ω ρ ε) : Action ω ρ ε → List Occurrence
  | .submit _ => [.submitted (d.generation + 1)]
  | .cancel => [.cancelled]
  | .step generation now world =>
    match (d.resume generation now world).effect with
    | some (.delivered g) => [.delivered g]
    | _ => []

/-- The debouncer after a run. -/
def after (d : Debouncer ω ρ ε) : List (Action ω ρ ε) → Debouncer ω ρ ε
  | [] => d
  | action :: rest => (d.perform action).after rest

/-- What a run shows. -/
def history (d : Debouncer ω ρ ε) : List (Action ω ρ ε) → List Occurrence
  | [] => []
  | action :: rest => d.shown action ++ (d.perform action).history rest

/-- What a debouncer and the history that led to it have to do with each other. -/
structure Tracks (d : Debouncer ω ρ ε) (history : List Occurrence) : Prop where
  bounded : ∀ s ∈ d.submissions, s.generation ≤ d.generation
  /-- A submission of the current generation was the last call. -/
  current : ∀ s ∈ d.submissions, s.generation = d.generation →
    lastCall history = some (.submitted d.generation)
  submitted : ∀ g, .submitted g ∈ history → g ≤ d.generation
  delivered : ∀ g, .delivered g ∈ history → g ≤ d.generation
  /-- What has delivered has ended. -/
  settled : ∀ g, .delivered g ∈ history → ∀ s ∈ d.submissions, s.generation = g →
    s.isSettled = true
  ordered : Ordered history

theorem tracks_start (delay : Delay) : Tracks ({ delay } : Debouncer ω ρ ε) [] where
  bounded := List.forall_mem_nil _
  current := List.forall_mem_nil _
  submitted _ member := by cases member
  delivered _ member := by cases member
  settled _ member := by cases member
  ordered := ⟨fun before g isPrefix => by simp at isPrefix, .nil, .nil⟩

variable {d : Debouncer ω ρ ε} {past : List Occurrence}

/-- An interruption leaves the generations of the submissions as they are, and what has ended. -/
theorem mem_interruptLatest {s : Submission ω ρ ε} (member : s ∈ d.interruptLatest.submissions) :
    ∃ t ∈ d.submissions, s.generation = t.generation ∧ s.isSettled = t.isSettled := by
  unfold interruptLatest at member
  split at member
  · obtain ⟨t, isOld, rfl⟩ := List.mem_map.mp member
    refine ⟨t, isOld, ?_⟩
    split <;> exact ⟨rfl, rfl⟩
  · exact ⟨s, member, rfl, rfl⟩

@[simp] theorem interruptLatest_generation : d.interruptLatest.generation = d.generation := by
  unfold interruptLatest
  split <;> rfl

/-- What a call needs to lead to: the next generation, which it submits if it submits at all, and
the submissions from before. -/
theorem Tracks.call (tracks : Tracks d past) {d' : Debouncer ω ρ ε} {call : Occurrence}
    (isCall : call.isCall = true) (next : d'.generation = d.generation + 1)
    (named : ∀ n ∈ call.submission?, n = d'.generation)
    (kept : ∀ s ∈ d'.submissions,
      (∃ t ∈ d.submissions, s.generation = t.generation ∧ s.isSettled = t.isSettled) ∨
      s.generation = d'.generation ∧ call = .submitted d'.generation) :
    Tracks d' (past ++ [call]) := by
  have isOld : ∀ g, .delivered g ∈ past ++ [call] → .delivered g ∈ past := by
    intro g member
    rcases List.mem_append.mp member with old | new
    · exact old
    · obtain rfl := List.mem_singleton.mp new
      cases isCall
  refine ⟨?_, ?_, ?_, ?_, ?_, tracks.ordered.call isCall ?_⟩
  · intro s member
    rcases kept s member with ⟨t, old, same, _⟩ | ⟨same, _⟩
    · have := tracks.bounded t old
      omega
    · exact Nat.le_of_eq same
  · intro s member isCurrent
    rcases kept s member with ⟨t, old, same, _⟩ | ⟨_, rfl⟩
    · have := tracks.bounded t old
      omega
    · exact lastCall_concat isCall
  · intro g member
    rcases List.mem_append.mp member with old | new
    · have := tracks.submitted g old
      omega
    · obtain rfl := List.mem_singleton.mp new
      exact Nat.le_of_eq (named g rfl)
  · intro g member
    have := tracks.delivered g (isOld g member)
    omega
  · intro g member s isMember same
    rcases kept s isMember with ⟨t, old, sameGeneration, sameEnd⟩ | ⟨isNew, _⟩
    · rw [sameEnd]
      exact tracks.settled g (isOld g member) t old (by omega)
    · have := tracks.delivered g (isOld g member)
      omega
  · intro n isNew g old
    have := tracks.submitted g old
    have := named n isNew
    omega

theorem Tracks.submit (tracks : Tracks d past) (work : Work ω ρ ε) :
    Tracks (d.submit work) (past ++ [.submitted (d.generation + 1)]) := by
  have next : (d.submit work).generation = d.generation + 1 := by simp [Debouncer.submit]
  refine tracks.call rfl next ?_ ?_
  · intro n isNew
    rw [next]
    exact (Option.some.inj isNew).symm
  · intro s member
    rcases List.mem_append.mp member with isOld | isNew
    · exact .inl (mem_interruptLatest isOld)
    · obtain rfl := List.mem_singleton.mp isNew
      exact .inr ⟨rfl, by rw [next]⟩

theorem Tracks.cancel (tracks : Tracks d past) : Tracks d.cancel (past ++ [.cancelled]) := by
  refine tracks.call rfl rfl ?_ ?_
  · intro n isNew
    cases isNew
  · intro s member
    exact .inl (mem_interruptLatest member)

/-- A change of a submission that has not ended keeps what is known, if it does not deliver. -/
theorem Tracks.change (tracks : Tracks d past) {s : Submission ω ρ ε} (isMember : s ∈ d.submissions)
    (live : s.isSettled = false) {f : Submission ω ρ ε → Submission ω ρ ε}
    (same : ∀ t, (f t).generation = t.generation) : Tracks (d.change s.generation f) past := by
  have kept : ∀ t ∈ (d.change s.generation f).submissions, ∃ t' ∈ d.submissions,
      t.generation = t'.generation ∧ (t.generation ≠ s.generation → t = t') := by
    intro t member
    obtain ⟨t', old, rfl⟩ := List.mem_map.mp member
    refine ⟨t', old, ?_⟩
    split
    · rename_i isChanged
      refine ⟨same t', fun other => absurd ?_ other⟩
      rw [same t']
      exact beq_iff_eq.mp isChanged
    · exact ⟨rfl, fun _ => rfl⟩
  refine ⟨?_, ?_, tracks.submitted, tracks.delivered, ?_, tracks.ordered⟩
  · intro t member
    obtain ⟨t', old, sameGeneration, _⟩ := kept t member
    rw [sameGeneration]
    exact tracks.bounded t' old
  · intro t member isCurrent
    obtain ⟨t', old, sameGeneration, _⟩ := kept t member
    exact tracks.current t' old (sameGeneration.symm.trans isCurrent)
  · intro g isDelivered t member own
    obtain ⟨t', old, sameGeneration, sameOther⟩ := kept t member
    by_cases other : t.generation = s.generation
    · -- What has delivered has ended, so it takes no further step.
      have ended := tracks.settled g isDelivered s isMember (other.symm.trans own)
      rw [live] at ended
      cases ended
    · rw [sameOther other]
      exact tracks.settled g isDelivered t' old (sameGeneration.symm.trans own)

/-- The submission of the current generation ends and delivers. -/
theorem Tracks.deliver (tracks : Tracks d past) {s : Submission ω ρ ε}
    (isMember : s ∈ d.submissions) (live : s.isSettled = false)
    (isCurrent : s.generation = d.generation) (outcome : Outcome ε) :
    Tracks (d.change s.generation fun t => { t with phase := .settled outcome })
      (past ++ [.delivered s.generation]) := by
  have base : Tracks (d.change s.generation fun t => { t with phase := .settled outcome }) past :=
    tracks.change isMember live fun _ => rfl
  have last : lastCall past = some (.submitted s.generation) :=
    isCurrent ▸ tracks.current s isMember isCurrent
  refine ⟨base.bounded, ?_, ?_, ?_, ?_, base.ordered.delivery last ?_⟩
  · intro t member own
    rw [lastCall_append]
    exact base.current t member own
  · intro g member
    rcases List.mem_append.mp member with old | new
    · exact base.submitted g old
    · cases List.mem_singleton.mp new
  · intro g member
    rcases List.mem_append.mp member with old | new
    · exact base.delivered g old
    · cases List.mem_singleton.mp new
      exact Nat.le_of_eq isCurrent
  · intro g member t isOwn own
    rcases List.mem_append.mp member with old | new
    · exact base.settled g old t isOwn own
    · cases List.mem_singleton.mp new
      obtain ⟨t', _, rfl⟩ := List.mem_map.mp isOwn
      split
      · rfl
      · rename_i other
        rw [if_neg other] at own
        exact absurd (beq_iff_eq.mpr own) other
  · intro g isDelivered
    have atMost := tracks.delivered g isDelivered
    have notOwn : g ≠ s.generation := by
      rintro rfl
      have ended := tracks.settled _ isDelivered s isMember rfl
      rw [live] at ended
      cases ended
    omega

theorem Tracks.resume (tracks : Tracks d past) (generation : Nat) (now : Rat) (world : ω) :
    Tracks (d.resume generation now world).debouncer
      (past ++ d.shown (.step generation now world)) := by
  rcases d.resume_cases generation now world with idle | ⟨s, isMember, _, live, takes⟩
  · simpa only [shown, idle, List.append_nil] using tracks
  · simp only [shown]
    generalize d.resume generation now world = step at takes
    cases takes with
    | enters phase world next =>
        rw [enter, List.append_nil]
        exact tracks.change isMember live fun _ => rfl
    | settles outcome world =>
        rw [settle, List.append_nil]
        exact tracks.change isMember live fun _ => rfl
    | drops world =>
        rw [settle, List.append_nil]
        exact tracks.change isMember live fun _ => rfl
    | delivers outcome now result world isCurrent _ =>
        exact tracks.deliver isMember live isCurrent outcome

theorem Tracks.perform (tracks : Tracks d past) (action : Action ω ρ ε) :
    Tracks (d.perform action) (past ++ d.shown action) := by
  cases action with
  | submit work => exact tracks.submit work
  | cancel => exact tracks.cancel
  | step generation now world => exact tracks.resume generation now world

theorem Tracks.run (tracks : Tracks d past) (actions : List (Action ω ρ ε)) :
    Tracks (d.after actions) (past ++ d.history actions) := by
  induction actions generalizing d past with
  | nil => rwa [history, List.append_nil]
  | cons action rest ih =>
      have later := ih (tracks.perform action)
      rwa [List.append_assoc] at later

/-- In every run, a step calls a receiver just when it is the step of the current generation that
has a result for it; no other step calls one. So the deliveries of the run are current. -/
theorem deliveries_current (delay : Delay) (actions : List (Action ω ρ ε)) :
    let start : Debouncer ω ρ ε := { delay }
    Safe (start.history actions) ∧
    ∀ generation now world,
      let step := (start.after actions).resume generation now world
      (∀ g, step.effect = some (.delivered g) ↔ g = generation ∧
        g = (start.after actions).generation ∧
        (start.after actions).HandsOver generation now world step.world) ∧
      ((∀ g, step.effect ≠ some (.delivered g)) → ∀ receive,
        (((start.after actions).withReceivers receive).resume generation now world).world =
          step.world) := by
  intro start
  have tracks := (tracks_start delay : Tracks start []).run actions
  refine ⟨tracks.ordered.safe, ?_⟩
  intro generation now world
  exact ⟨resume_delivered_iff _ generation now world,
    fun silent receive => resume_withReceivers receive _ generation now world silent⟩

/-- A run in which a job that does not give in ends late, and another is called off. -/
def lateAndCancelled : List (Action Record String String) :=
  [.submit ({ label := "late", seconds := 1, mode := .stubborn } : Job).work, .step 1 0 {},
   .step 1 0 {}, .submit ({ label := "next" } : Job).work, .step 1 0 {}, .step 2 0 {}, .step 1 1 {},
   .step 2 1 {}, .submit ({ label := "off" } : Job).work, .cancel, .step 3 1 {},
   .submit ({ label := "last" } : Job).work, .step 5 1 {}, .step 5 2 {}]

theorem deliveries_current_lateAndCancelled :
    let start : Debouncer Record String String := { delay := .seconds 1 }
    start.history lateAndCancelled = [.submitted 1, .submitted 2, .delivered 2, .submitted 3,
      .cancelled, .submitted 5, .delivered 5] ∧
    Safe (start.history lateAndCancelled) ∧
    (∀ g, ((start.after lateAndCancelled).resume 5 2 {}).effect ≠ some (.delivered g)) ∧
    ∀ receive, (((start.after lateAndCancelled).withReceivers receive).resume 5 2 {}).world =
      ((start.after lateAndCancelled).resume 5 2 {}).world := by
  have ended : ((({ delay := .seconds 1 } : Debouncer Record String String).after
      lateAndCancelled).resume 5 2 {}).effect = none := by decide +kernel
  have silent : ∀ g, ((({ delay := .seconds 1 } : Debouncer Record String String).after
      lateAndCancelled).resume 5 2 {}).effect ≠ some (.delivered g) := by
    rw [ended]
    intro g same
    cases same
  obtain ⟨safe, steps⟩ := deliveries_current (.seconds 1) lateAndCancelled
  exact ⟨by decide +kernel, safe, silent, (steps 5 2 {}).2 silent⟩

end Debouncer

end SqlAssist
