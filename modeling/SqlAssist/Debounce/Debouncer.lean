/-!
# Debouncing

A `Debouncer` takes submissions of work in quick succession and carries out the last one only. Each
submission first waits; a later submission, or `cancel`, interrupts those before it. Work that goes
on in spite of the interruption may still come to its end, but then its result is discarded.

Submissions advance one step at a time: `resume` takes the next step of one of them. The debouncer
does not know about time; it says what a submission waits for (`Next`), and who calls `resume` sees
to it.

* **deliveries are current**: a result is handed over only by the submission whose generation is the
  generation of the debouncer (`Effect.delivered`).
-/
namespace SqlAssist.Debounce

/-- What work has come to after a step of it. The errors are of type `ε`, the results of type
`ρ`. -/
inductive Progress (ρ ε : Type) where
  /-- It pauses for some seconds. -/
  | pausing (seconds : Rat)
  /-- It goes on with the pause that was interrupted. -/
  | carryingOn
  | returned (result : ρ)
  | raised (error : ε)
  /-- It has given in to the interruption. -/
  | stopped

/-- What a receiver of a result does with it. -/
inductive Handover (ε : Type) where
  | accepted
  | raised (error : ε)
  | cancelled

/-- Work that can be submitted. Its steps change a world of type `ω` and know the time. -/
structure Work (ω ρ ε : Type) where
  /-- The first step, when the waiting is over. -/
  start : Rat → ω → Progress ρ ε × ω
  /-- The step at the end of a pause. -/
  resume : Rat → ω → Progress ρ ε × ω
  /-- The step at an interruption during a pause. -/
  interrupt : Rat → ω → Progress ρ ε × ω
  /-- The receiver of the result. -/
  receiver : Option (Rat → ρ → ω → Handover ε × ω)
  /-- What is noted if the result comes too late. -/
  discard : ω → ω

/-- How a submission ended. -/
inductive Outcome (ε : Type) where
  | finished
  | cancelled
  | failed (error : ε)

/-- How far a submission is. -/
inductive Phase (ε : Type) where
  | created
  | waiting
  | pausing
  | settled (outcome : Outcome ε)

/-- A submission: its generation, its work and how far it is. -/
structure Submission (ω ρ ε : Type) where
  generation : Nat
  work : Work ω ρ ε
  phase : Phase ε := .created
  interrupted : Bool := false

/-- How long submissions wait. -/
inductive Delay where
  /-- Until all others that are ready had their turn. -/
  | turn
  | seconds (s : Rat)
  | forever

/-- What a submission waits for after a step. -/
inductive Next where
  /-- Its next turn. -/
  | turn
  /-- The end of some seconds. -/
  | alarm (seconds : Rat)
  /-- What it was waiting for before. -/
  | same
  /-- Nothing that ever comes. -/
  | never
  /-- It has ended. -/
  | ended

/-- What a step has done with a result of a generation. -/
inductive Effect where
  | delivered (generation : Nat)
  | dropped (generation : Nat)
  deriving DecidableEq, Repr

end SqlAssist.Debounce

namespace SqlAssist

open Debounce

/-- A debouncer with its submissions. -/
structure Debouncer (ω ρ ε : Type) where
  delay : Delay
  generation : Nat := 0
  /-- The generation of the submission that counts. -/
  latest : Option Nat := none
  submissions : List (Submission ω ρ ε) := []

namespace Debouncer

variable {ω ρ ε : Type}

/-- The submission of a generation. -/
def submission? (d : Debouncer ω ρ ε) (generation : Nat) : Option (Submission ω ρ ε) :=
  d.submissions.find? (·.generation == generation)

/-- How the submission of a generation ended, if it has. -/
def outcome? (d : Debouncer ω ρ ε) (generation : Nat) : Option (Outcome ε) :=
  (d.submission? generation).bind fun s =>
    match s.phase with
    | .settled outcome => some outcome
    | _ => none

/-- Changes the submission of a generation. -/
def change (d : Debouncer ω ρ ε) (generation : Nat)
    (f : Submission ω ρ ε → Submission ω ρ ε) : Debouncer ω ρ ε :=
  { d with submissions := d.submissions.map fun s => if s.generation == generation then f s else s }

/-- The debouncer with the latest submission interrupted. -/
def interruptLatest (d : Debouncer ω ρ ε) : Debouncer ω ρ ε :=
  match d.latest with
  | some generation => d.change generation fun s => { s with interrupted := true }
  | none => d

/-- Submits work. -/
def submit (d : Debouncer ω ρ ε) (work : Work ω ρ ε) : Debouncer ω ρ ε :=
  let d := d.interruptLatest
  let generation := d.generation + 1
  { d with
    generation
    latest := some generation
    submissions := d.submissions ++ [{ generation, work }] }

/-- Interrupts the latest submission without another in its place. -/
def cancel (d : Debouncer ω ρ ε) : Debouncer ω ρ ε :=
  { d.interruptLatest with generation := d.generation + 1, latest := none }

/-- The state after a step. -/
structure Step (ω ρ ε : Type) where
  debouncer : Debouncer ω ρ ε
  world : ω
  next : Next
  effect : Option Effect := none

/-- What a waiting time means for the next step. -/
def delayNext : Delay → Next
  | .turn => .turn
  | .seconds s => .alarm s
  | .forever => .never

/-- A step after which a submission has ended. -/
def settle (d : Debouncer ω ρ ε) (generation : Nat) (outcome : Outcome ε) (world : ω)
    (effect : Option Effect := none) : Step ω ρ ε :=
  ⟨d.change generation fun s => { s with phase := .settled outcome }, world, .ended, effect⟩

/-- A step after which a submission is in the given phase. -/
def enter (d : Debouncer ω ρ ε) (generation : Nat) (phase : Phase ε) (world : ω) (next : Next) :
    Step ω ρ ε :=
  ⟨d.change generation fun s => { s with phase, interrupted := false }, world, next, none⟩

/-- The result of a submission goes to its receiver, if no submission and no cancellation came
later. -/
def handOver (d : Debouncer ω ρ ε) (s : Submission ω ρ ε) (now : Rat) (result : ρ) (world : ω) :
    Step ω ρ ε :=
  if s.generation = d.generation then
    match s.work.receiver with
    | none => d.settle s.generation .finished world
    | some receive =>
      let (handover, world) := receive now result world
      let outcome : Outcome ε := match handover with
        | .accepted => .finished
        | .raised error => .failed error
        | .cancelled => .cancelled
      d.settle s.generation outcome world (some (.delivered s.generation))
  else d.settle s.generation .finished (s.work.discard world) (some (.dropped s.generation))

/-- What a step of the work means for its submission. -/
def follow (d : Debouncer ω ρ ε) (s : Submission ω ρ ε) (now : Rat)
    (step : Progress ρ ε × ω) : Step ω ρ ε :=
  match step.1 with
  | .pausing seconds => d.enter s.generation .pausing step.2 (.alarm seconds)
  | .carryingOn => d.enter s.generation .pausing step.2 .same
  | .returned result => d.handOver s now result step.2
  | .raised error => d.settle s.generation (.failed error) step.2
  | .stopped => d.settle s.generation .finished step.2

/-- Takes the next step of a submission. One that is interrupted before its first step never starts;
one that is interrupted while it waits ends quietly. -/
def resume (d : Debouncer ω ρ ε) (generation : Nat) (now : Rat) (world : ω) : Step ω ρ ε :=
  match d.submission? generation with
  | none => ⟨d, world, .ended, none⟩
  | some s =>
    match s.phase, s.interrupted with
    | .created, true => d.settle generation .cancelled world
    | .created, false => d.enter generation .waiting world (delayNext d.delay)
    | .waiting, true => d.settle generation .finished world
    | .waiting, false => d.follow s now (s.work.start now world)
    | .pausing, true => d.follow s now (s.work.interrupt now world)
    | .pausing, false => d.follow s now (s.work.resume now world)
    | .settled _, _ => ⟨d, world, .ended, none⟩

end Debouncer

end SqlAssist
