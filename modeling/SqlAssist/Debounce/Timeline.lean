import SqlAssist.Debounce.Debouncer
import SqlAssist.Number.Binary64

/-!
# A debouncer on a clock

A `Timeline` carries out what the submissions of a debouncer wait for. Those that are ready take
turns in the order in which they became ready; when none is ready, the clock can move to the next
alarm. The time is counted in doubles, starting at zero.
-/
namespace SqlAssist.Debounce

/-- A turn that is due. -/
inductive Turn (ω ε : Type) where
  /-- The next step of a submission. -/
  | step (generation : Nat)
  /-- Someone asks for the latest submission. -/
  | ask (answer : Rat → Outcome ε → ω → ω)
  /-- The submission that someone waited for has ended. -/
  | tell (answer : Rat → Outcome ε → ω → ω) (generation : Nat)

/-- Someone who waits for a submission. -/
structure Watcher (ω ε : Type) where
  generation : Nat
  answer : Rat → Outcome ε → ω → ω

/-- The time at which a submission goes on. -/
structure Alarm where
  due : Rat
  generation : Nat

/-- The double nearest to a time. -/
def roundTime (t : Rat) : Rat :=
  Binary64.toRat (Binary64.nearest (decide (t < 0)) t.num.natAbs t.den)

/-- The waiting time of so many seconds. -/
def Delay.ofSeconds (x : Float) : Delay :=
  match Binary64.decode x with
  | .nan => .forever
  | .infinite negative => if negative then .turn else .forever
  | .finite negative mantissa _ =>
    if negative || mantissa == 0 then .turn else .seconds (Binary64.toRat x)

end SqlAssist.Debounce

namespace SqlAssist

open Debounce

/-- A debouncer, the world that its work changes, and the time. -/
structure Timeline (ω ρ ε : Type) where
  debouncer : Debouncer ω ρ ε
  world : ω
  now : Rat := 0
  ready : List (Turn ω ε) := []
  alarms : List Alarm := []
  watchers : List (Watcher ω ε) := []

namespace Timeline

variable {ω ρ ε : Type}

/-- Whether a submission has its turn already. -/
def isReady (t : Timeline ω ρ ε) (generation : Nat) : Bool :=
  t.ready.any fun
    | .step g => g == generation
    | _ => false

/-- Lets the latest submission have its turn, because it is about to be interrupted. -/
def rouseLatest (t : Timeline ω ρ ε) : Timeline ω ρ ε :=
  match t.debouncer.latest with
  | some generation =>
    if (t.debouncer.outcome? generation).isSome || t.isReady generation then t
    else { t with ready := t.ready ++ [.step generation] }
  | none => t

/-- Submits work. Nothing runs yet. -/
def submit (t : Timeline ω ρ ε) (work : Work ω ρ ε) : Timeline ω ρ ε :=
  let t := t.rouseLatest
  let debouncer := t.debouncer.submit work
  { t with debouncer, ready := t.ready ++ [.step debouncer.generation] }

/-- Cancels the latest submission. Nothing runs yet. -/
def cancel (t : Timeline ω ρ ε) : Timeline ω ρ ε :=
  let t := t.rouseLatest
  { t with debouncer := t.debouncer.cancel }

/-- Lets someone ask for the end of the submission that is the latest when the turn comes. -/
def ask (t : Timeline ω ρ ε) (answer : Rat → Outcome ε → ω → ω) : Timeline ω ρ ε :=
  { t with ready := t.ready ++ [.ask answer] }

/-- The alarms without those of a submission. -/
def otherAlarms (t : Timeline ω ρ ε) (generation : Nat) : List Alarm :=
  t.alarms.filter (·.generation != generation)

/-- The turns of those who waited for a submission. -/
def told (t : Timeline ω ρ ε) (generation : Nat) : List (Turn ω ε) :=
  (t.watchers.filter (·.generation == generation)).map fun w => .tell w.answer generation

/-- Sees to what a submission waits for. -/
def arrange (t : Timeline ω ρ ε) (generation : Nat) : Next → Timeline ω ρ ε
  | .turn => { t with ready := t.ready ++ [.step generation], alarms := t.otherAlarms generation }
  | .alarm seconds =>
    { t with alarms := t.otherAlarms generation ++ [⟨roundTime (t.now + seconds), generation⟩] }
  | .same => t
  | .never => { t with alarms := t.otherAlarms generation }
  | .ended =>
    { t with
      alarms := t.otherAlarms generation
      ready := t.ready ++ t.told generation
      watchers := t.watchers.filter (·.generation != generation) }

/-- Answers someone who asked. -/
def reply (t : Timeline ω ρ ε) (answer : Rat → Outcome ε → ω → ω) (outcome : Outcome ε) :
    Timeline ω ρ ε :=
  { t with world := answer t.now outcome t.world }

/-- Takes a turn. -/
def take (t : Timeline ω ρ ε) : Turn ω ε → Timeline ω ρ ε
  | .step generation =>
    let step := t.debouncer.resume generation t.now t.world
    arrange { t with debouncer := step.debouncer, world := step.world } generation step.next
  | .ask answer =>
    match t.debouncer.latest with
    | none => t.reply answer .finished
    | some generation =>
      match t.debouncer.outcome? generation with
      | some outcome => t.reply answer outcome
      | none => { t with watchers := t.watchers ++ [⟨generation, answer⟩] }
  | .tell answer generation => t.reply answer ((t.debouncer.outcome? generation).getD .finished)

/-- Takes up to `n` turns. -/
def takeTurns : Nat → Timeline ω ρ ε → Timeline ω ρ ε
  | 0, t => t
  | n + 1, t =>
    match t.ready with
    | [] => t
    | turn :: rest => takeTurns n (take { t with ready := rest } turn)

/-- Takes all turns that are due now. At one time a submission has at most four turns, someone who
asks two. -/
def settleNow (t : Timeline ω ρ ε) : Timeline ω ρ ε :=
  takeTurns (4 * t.debouncer.submissions.length + 2 * t.ready.length + t.watchers.length) t

/-- The next alarm, the earlier one of two at the same time. -/
def nextAlarm? (t : Timeline ω ρ ε) : Option Alarm :=
  t.alarms.foldl (fun best alarm =>
    match best with
    | some earliest => if alarm.due < earliest.due then some alarm else best
    | none => some alarm) none

/-- Moves the clock to an alarm and takes the turns that are due then. -/
def ring (t : Timeline ω ρ ε) (alarm : Alarm) : Timeline ω ρ ε :=
  settleNow { t with
    now := alarm.due
    alarms := t.otherAlarms alarm.generation
    ready := t.ready ++ [.step alarm.generation] }

/-- Rings up to `n` alarms as long as `goesOn` holds for the timeline and the alarm. -/
def ringWhile (goesOn : Timeline ω ρ ε → Alarm → Bool) : Nat → Timeline ω ρ ε → Timeline ω ρ ε
  | 0, t => t
  | n + 1, t =>
    match t.nextAlarm? with
    | some alarm => if goesOn t alarm then ringWhile goesOn n (t.ring alarm) else t
    | none => t

/-- The most alarms that can ring without another submission: one for the waiting of each and one
for a pause. -/
def alarmBound (t : Timeline ω ρ ε) : Nat := 2 * t.debouncer.submissions.length

/-- Moves the clock by some seconds, with all that is due until then. The clock never goes back. -/
def advance (t : Timeline ω ρ ε) (seconds : Rat) : Timeline ω ρ ε :=
  let target := roundTime (t.now + seconds)
  let rung := ringWhile (fun _ alarm => decide (alarm.due ≤ target)) t.alarmBound t.settleNow
  { rung with now := if t.now ≤ target then target else t.now }

/-- Moves the clock until the latest submission has ended, and tells how. -/
def wait (t : Timeline ω ρ ε) : Outcome ε × Timeline ω ρ ε :=
  match t.debouncer.latest with
  | none => (.finished, t.settleNow)
  | some generation =>
    let t :=
      ringWhile (fun t _ => (t.debouncer.outcome? generation).isNone) t.alarmBound t.settleNow
    ((t.debouncer.outcome? generation).getD .finished, t)

end Timeline

end SqlAssist
