import SqlAssist.Editor.Session
import SqlAssist.Proofs.Deliveries
import SqlAssist.Proofs.EditorAnswers

/-!
# Coalescing of requests

Requests for suggestions that come in quick succession are coalesced: of a burst, only the last one
is answered. `firings` says which requests of a history are answered, and with which streams, by
looking forward from each request; it knows nothing of submissions, turns and alarms. The session
hands over just the answers to these requests, in their order.

* **stages** — between two turns a session is in one of four stages (`Stage`), and `Holds` says what
  each means for its submissions, its turns and its alarms;
* **turns** — `Holds.take` carries this through one turn, `Holds.takeTurns` through all that are
  due;
* **histories** — `Sleeps.advance`, `Sleeps.schedule` and `Sleeps.cancel` carry it through an event
  and `Sleeps.delivered_play` through a history.
-/
namespace SqlAssist

open Debounce

/-- The suggestions of an editor, if its parser does not fail. -/
def Editor.answer? (editor : Editor) (text : List Char) (cursor : Int) : Option Suggestions :=
  ((editor.suggest text cursor).run.run []).1.toOption

namespace Session

/-! ## Histories -/

/-- What can happen to a session. -/
inductive Event where
  | schedule (text : List Char) (cursor : Int)
  | update (streams : Streams)
  | cancel
  | advance (seconds : Rat)

/-- The session after an event. -/
def react (session : Session) : Event → Session
  | .schedule text cursor => session.schedule text cursor
  | .update streams => session.updateStreams streams
  | .cancel => session.cancel
  | .advance seconds => session.advance seconds

/-- The session after a history. -/
def play (session : Session) : List Event → Session
  | [] => session
  | event :: rest => play (session.react event) rest

/-- The time after some seconds. -/
def laterTime (now seconds : Rat) : Rat :=
  let target := roundTime (now + seconds)
  if now ≤ target then target else now

/-- Whether a sleep that began at `since` is over when the clock is moved to `target`. -/
def sleepEnds (since target : Rat) : Delay → Bool
  | .turn => true
  | .seconds s => decide (roundTime (since + s) ≤ target)
  | .forever => false

/-- The streams that are known at the end of a sleep that began at `since`, if it ends before the
next request and the next cancellation. -/
def wake? (delay : Delay) (since now : Rat) (known : StreamCatalog) :
    List Event → Option StreamCatalog
  | [] => none
  | .schedule _ _ :: _ => none
  | .cancel :: _ => none
  | .update streams :: rest => wake? delay since now (StreamCatalog.ofStreams streams) rest
  | .advance seconds :: rest =>
    if sleepEnds since (roundTime (now + seconds)) delay then some known
    else wake? delay since (laterTime now seconds) known rest

/-- A request that is answered, and the streams that are known then. -/
structure Firing where
  text : List Char
  cursor : Int
  known : StreamCatalog

/-- The requests of a history that are answered: those whose sleep ends in time. -/
def firings (delay : Delay) (now : Rat) (known : StreamCatalog) : List Event → List Firing
  | [] => []
  | .schedule text cursor :: rest =>
    ((wake? delay now now known rest).map (Firing.mk text cursor)).toList ++
      firings delay now known rest
  | .cancel :: rest => firings delay now known rest
  | .update streams :: rest => firings delay now (StreamCatalog.ofStreams streams) rest
  | .advance seconds :: rest => firings delay (laterTime now seconds) known rest

/-- The answer to a request with the streams that are known. -/
def Firing.answer? (editor : Editor) (firing : Firing) : Option Suggestions :=
  ({ editor with catalog := firing.known } : Editor).answer? firing.text firing.cursor

end Session

/-! ## Submissions by generation -/

namespace Debouncer

variable {ω ρ ε : Type} {d : Debouncer ω ρ ε}

theorem submission?_change (f : Submission ω ρ ε → Submission ω ρ ε)
    (keeps : ∀ s, (f s).generation = s.generation) (g g' : Nat) :
    (d.change g f).submission? g' = (d.submission? g').map fun s => if g' = g then f s else s := by
  have same : (fun s : Submission ω ρ ε => s.generation == g') ∘
      (fun s => if s.generation == g then f s else s) = fun s => s.generation == g' := by
    funext s
    simp only [Function.comp]
    split
    · rw [keeps]
    · rfl
  simp only [submission?, change, List.find?_map, same]
  cases isFound : d.submissions.find? (·.generation == g') with
  | none => rfl
  | some s =>
      have own := (submission?_eq_some isFound).2
      simp [own]

theorem submission?_change_of_ne (f : Submission ω ρ ε → Submission ω ρ ε)
    (keeps : ∀ s, (f s).generation = s.generation) {g g' : Nat} (other : g' ≠ g) :
    (d.change g f).submission? g' = d.submission? g' := by
  rw [submission?_change f keeps]
  simp [other]

theorem submission?_interruptLatest (g : Nat) :
    d.interruptLatest.submission? g =
      (d.submission? g).map fun s =>
        if d.latest = some g then { s with interrupted := true } else s := by
  unfold interruptLatest
  split
  · rename_i latest isLatest
    rw [submission?_change _ (by intro s; rfl)]
    simp only [isLatest, Option.some.injEq, eq_comm]
  · rename_i isLatest
    simp [isLatest]

@[simp] theorem interruptLatest_latest : d.interruptLatest.latest = d.latest := by
  unfold interruptLatest
  split <;> rfl

@[simp] theorem interruptLatest_delay : d.interruptLatest.delay = d.delay := by
  unfold interruptLatest
  split <;> rfl

theorem submission?_submit (work : Work ω ρ ε) (g : Nat)
    (fresh : d.submission? (d.generation + 1) = none) :
    (d.submit work).submission? g =
      if g = d.generation + 1 then some { generation := g, work }
      else d.interruptLatest.submission? g := by
  have newFresh : d.interruptLatest.submission? (d.generation + 1) = none := by
    rw [submission?_interruptLatest, fresh]
    rfl
  simp only [submission?] at newFresh ⊢
  simp only [Debouncer.submit, List.find?_append, interruptLatest_generation]
  by_cases isNew : g = d.generation + 1
  · subst isNew
    rw [newFresh]
    simp
  · rw [if_neg isNew]
    have other : (d.generation + 1 == g) = false := by
      simpa using fun same : _ = g => isNew same.symm
    simp [other]

/-- The generation `g` has ended in `d'`, and all else is as in `d`. -/
structure EndsIn (d : Debouncer ω ρ ε) (g : Nat) (d' : Debouncer ω ρ ε) : Prop where
  delay : d'.delay = d.delay
  generation : d'.generation = d.generation
  latest : d'.latest = d.latest
  others : ∀ g', g' ≠ g → d'.submission? g' = d.submission? g'
  ended : ∀ s, d'.submission? g = some s → s.isSettled = true

theorem endsIn_self {g : Nat} (ended : ∀ s, d.submission? g = some s → s.isSettled = true) :
    EndsIn d g d :=
  ⟨rfl, rfl, rfl, fun _ _ => rfl, ended⟩

theorem endsIn_settled (g : Nat) (outcome : Outcome ε) :
    EndsIn d g (d.change g fun s => { s with phase := .settled outcome }) := by
  refine ⟨rfl, rfl, rfl, fun g' other => submission?_change_of_ne _ (by intro s; rfl) other, ?_⟩
  intro s isFound
  rw [submission?_change _ (by intro s; rfl)] at isFound
  obtain ⟨s', _, rfl⟩ := Option.map_eq_some_iff.mp isFound
  simp [Submission.isSettled]

end Debouncer

namespace Session

/-! ## Stages -/

/-- A request for suggestions. -/
structure Request where
  text : List Char
  cursor : Int

/-- A request as work. -/
def Request.work (r : Request) : Work EditorWorld Suggestions EditorError :=
  EditorWorld.suggestWork r.text r.cursor

/-- The world after a request has been carried out in it. -/
def Request.carryOut (r : Request) (world : EditorWorld) : EditorWorld :=
  match world.ask fun editor => editor.suggest r.text r.cursor with
  | (.ok found, world) => { world with delivered := world.delivered ++ [found] }
  | (.error _, world) => world

/-- How far the latest request is. -/
inductive Stage where
  /-- There is none, or it has ended. -/
  | idle
  /-- It has not had its first turn. -/
  | created (r : Request)
  /-- It sleeps since some time. -/
  | waiting (r : Request) (since : Rat)
  /-- Its sleep is over, and it will have its turn. -/
  | due (r : Request)

/-- The alarms that a sleep sets. -/
def sleepAlarms (since : Rat) (g : Nat) : Delay → List Alarm
  | .seconds s => [⟨roundTime (since + s), g⟩]
  | _ => []

/-- What a stage means for the latest submission, where those in `gens` have a turn. -/
inductive Standing (t : Session) (gens : List Nat) : Stage → Prop where
  | none : t.debouncer.latest = none → Standing t gens .idle
  | ended {g : Nat} {s : Submission EditorWorld Suggestions EditorError} :
      t.debouncer.latest = some g → t.debouncer.submission? g = some s → s.isSettled = true →
      Standing t gens .idle
  | created {g : Nat} {r : Request} : t.debouncer.latest = some g →
      t.debouncer.submission? g = some ⟨g, r.work, .created, false⟩ → g ∈ gens →
      Standing t gens (.created r)
  | waiting {g : Nat} {r : Request} {since : Rat} : t.debouncer.latest = some g →
      t.debouncer.submission? g = some ⟨g, r.work, .waiting, false⟩ → g ∉ gens →
      t.debouncer.delay ≠ .turn →
      t.alarms.filter (·.generation == g) = sleepAlarms since g t.debouncer.delay →
      Standing t gens (.waiting r since)
  | due {g : Nat} {r : Request} : t.debouncer.latest = some g →
      t.debouncer.submission? g = some ⟨g, r.work, .waiting, false⟩ → g ∈ gens →
      Standing t gens (.due r)

/-- The turns and alarms of a session are those of its submissions. -/
structure Orderly (t : Session) (gens : List Nat) : Prop where
  ready : t.ready = gens.map .step
  nodup : gens.Nodup
  bounded : ∀ g ∈ gens, g ≤ t.debouncer.generation
  current : ∀ g, t.debouncer.latest = some g → g = t.debouncer.generation
  fresh : ∀ g, t.debouncer.generation < g → t.debouncer.submission? g = none
  watchers : t.watchers = []
  alarms : ∀ alarm ∈ t.alarms, ∃ s,
    t.debouncer.submission? alarm.generation = some s ∧ s.isSettled = false

/-- A submission that does not count any more has ended, or its next turn ends it. -/
def Stale (t : Session) (gens : List Nat) (g : Nat) : Prop :=
  ∀ s, t.debouncer.submission? g = some s → s.isSettled = true ∨
    s.interrupted = true ∧ (s.phase = .created ∨ s.phase = .waiting) ∧ g ∈ gens

/-- A session is in a stage, and those in `gens` have a turn. -/
structure Holds (t : Session) (gens : List Nat) (stage : Stage) : Prop extends Orderly t gens where
  stale : ∀ g, t.debouncer.latest ≠ some g → Stale t gens g
  standing : Standing t gens stage

variable {t : Session} {g : Nat} {gens : List Nat} {stage : Stage}

/-! ## Turns -/

theorem filter_otherAlarms (t : Session) {g g' : Nat} (other : g' ≠ g) :
    (t.otherAlarms g).filter (·.generation == g') = t.alarms.filter (·.generation == g') := by
  rw [Timeline.otherAlarms, List.filter_filter]
  refine List.filter_congr fun alarm _ => ?_
  by_cases own : alarm.generation = g'
  · simp [own, other]
  · simp [own]

/-- A turn ends its submission. -/
theorem Holds.finish (holds : Holds t (g :: gens) stage)
    {d : Debouncer EditorWorld Suggestions EditorError} (ends : t.debouncer.EndsIn g d)
    (world : EditorWorld) {next : Stage}
    (isLatest : t.debouncer.latest = some g → next = .idle ∧ (d.submission? g).isSome)
    (isOther : t.debouncer.latest ≠ some g → next = stage) :
    Holds (Timeline.arrange { t with debouncer := d, world, ready := gens.map .step } g .ended)
      gens next := by
  obtain ⟨⟨ready, nodup, bounded, current, fresh, watchers, alarms⟩, stale, standing⟩ := holds
  obtain ⟨delay, generation, latest, others, ended⟩ := ends
  have kept : ∀ {g' s}, t.debouncer.submission? g' = some s → g' ≠ g → d.submission? g' = some s :=
    fun isFound other => (others _ other).trans isFound
  refine ⟨⟨?_, (List.nodup_cons.mp nodup).2, ?_, ?_, ?_, ?_, ?_⟩, ?_, ?_⟩
  · simp [Timeline.arrange, Timeline.told, watchers]
  · intro g' member
    exact generation ▸ bounded g' (List.mem_cons_of_mem g member)
  · intro g' is
    exact (current g' (latest.symm.trans is)).trans generation.symm
  · intro g' isNew
    have isFresh : t.debouncer.generation < g' := generation ▸ isNew
    have atMost := bounded g List.mem_cons_self
    exact (others g' (by omega)).trans (fresh g' isFresh)
  · simp [Timeline.arrange, watchers]
  · intro alarm member
    obtain ⟨isOld, other⟩ := List.mem_filter.mp member
    obtain ⟨s, isFound, live⟩ := alarms alarm isOld
    exact ⟨s, kept isFound (by simpa using other), live⟩
  · intro g' notLatest s isFound
    by_cases other : g' = g
    · subst other
      exact .inl (ended s isFound)
    · rcases stale g' (latest ▸ notLatest) s ((others g' other).symm.trans isFound) with
        isEnded | ⟨interrupted, phase, member⟩
      · exact .inl isEnded
      · exact .inr ⟨interrupted, phase, (List.mem_cons.mp member).resolve_left other⟩
  · by_cases own : t.debouncer.latest = some g
    · obtain ⟨rfl, some⟩ := isLatest own
      obtain ⟨s, isFound⟩ := Option.isSome_iff_exists.mp some
      exact .ended (latest.trans own) isFound (ended s isFound)
    · obtain rfl := isOther own
      have apart : ∀ {g'}, t.debouncer.latest = some g' → g' ≠ g :=
        fun isLatest' same => own (same ▸ isLatest')
      cases standing with
      | none isNone => exact .none (latest.trans isNone)
      | ended is isFound isEnded => exact .ended (latest.trans is) (kept isFound (apart is)) isEnded
      | created is isFound member =>
          exact .created (latest.trans is) (kept isFound (apart is))
            ((List.mem_cons.mp member).resolve_left (apart is))
      | waiting is isFound notReady slow isSet =>
          refine .waiting (latest.trans is) (kept isFound (apart is))
            (fun member => notReady (List.mem_cons_of_mem g member))
            (fun same => slow (delay.symm.trans same)) ?_
          rw [← delay] at isSet
          exact (filter_otherAlarms t (apart is)).trans isSet
      | due is isFound member =>
          exact .due (latest.trans is) (kept isFound (apart is))
            ((List.mem_cons.mp member).resolve_left (apart is))

/-- The first turn of a submission lets it sleep. -/
theorem Holds.sleep {r : Request} (holds : Holds t (g :: gens) (.created r))
    (own : t.debouncer.latest = some g) {turns : List Nat} {alarms : List Alarm}
    (kept : turns = gens ∨ turns = gens ++ [g])
    (set : ∀ alarm ∈ alarms, alarm ∈ t.alarms ∨ alarm.generation = g) :
    let d := t.debouncer.change g fun s => { s with phase := .waiting, interrupted := false }
    let asleep : Session := { t with debouncer := d, ready := turns.map .step, alarms }
    Orderly asleep turns ∧ (∀ g', d.latest ≠ some g' → Stale asleep turns g') ∧
      d.submission? g = some ⟨g, r.work, .waiting, false⟩ := by
  intro d asleep
  obtain ⟨⟨ready, nodup, bounded, current, fresh, watchers, old⟩, stale, standing⟩ := holds
  have others : ∀ g', g' ≠ g → d.submission? g' = t.debouncer.submission? g' :=
    fun g' other => Debouncer.submission?_change_of_ne _ (by intro s; rfl) other
  have isFound : d.submission? g = some ⟨g, r.work, .waiting, false⟩ := by
    cases standing with
    | @created g' _ is isFound =>
        obtain rfl : g = g' := Option.some.inj (own.symm.trans is)
        rw [Debouncer.submission?_change _ (by intro s; rfl), isFound]
        simp
  have inTurns : ∀ g' ∈ gens, g' ∈ turns := by
    rcases kept with rfl | rfl
    · exact fun _ member => member
    · exact fun _ member => List.mem_append_left _ member
  obtain ⟨notAgain, nodup⟩ := List.nodup_cons.mp nodup
  refine ⟨⟨rfl, ?_, ?_, current, ?_, watchers, ?_⟩, ?_, isFound⟩
  · rcases kept with rfl | rfl
    · exact nodup
    · refine List.nodup_append.mpr ⟨nodup, by simp, ?_⟩
      rintro g' member _ isLast rfl
      exact notAgain (List.mem_singleton.mp isLast ▸ member)
  · intro g' member
    refine bounded g' ?_
    rcases kept with rfl | rfl
    · exact List.mem_cons_of_mem g member
    · simpa [or_comm] using member
  · intro g' isNew
    have atMost := bounded g List.mem_cons_self
    have isFresh : t.debouncer.generation < g' := isNew
    exact (others g' (by omega)).trans (fresh g' isFresh)
  · intro alarm member
    by_cases same : alarm.generation = g
    · exact ⟨_, same ▸ isFound, rfl⟩
    · obtain ⟨s, found, live⟩ := old alarm ((set alarm member).resolve_right same)
      exact ⟨s, (others _ same).trans found, live⟩
  · intro g' notLatest s found
    have other : g' ≠ g := by
      rintro rfl
      exact notLatest own
    rcases stale g' notLatest s ((others g' other).symm.trans found) with
      isEnded | ⟨interrupted, phase, member⟩
    · exact .inl isEnded
    · exact .inr ⟨interrupted, phase, inTurns g' ((List.mem_cons.mp member).resolve_left other)⟩

/-- The stage and the world when all turns have been taken. -/
def Stage.settle (delay : Delay) (now : Rat) : Stage → EditorWorld → Stage × EditorWorld
  | .created r, world =>
    match delay with
    | .turn => (.idle, r.carryOut world)
    | _ => (.waiting r now, world)
  | .due r, world => (.idle, r.carryOut world)
  | stage, world => (stage, world)

/-- The turns that are still to be taken. -/
def Stage.turns (delay : Delay) (gens : List Nat) : Stage → Nat
  | .created _ =>
    match delay with
    | .turn => gens.length + 1
    | _ => gens.length
  | _ => gens.length

theorem resume_ended {d : Debouncer EditorWorld Suggestions EditorError}
    (ended : ∀ s, d.submission? g = some s → s.isSettled = true) (now : Rat) (world : EditorWorld) :
    d.resume g now world = ⟨d, world, .ended, none⟩ := by
  unfold Debouncer.resume
  split
  · rfl
  · rename_i s isFound
    have isEnded := ended s isFound
    obtain ⟨own, work, phase, interrupted⟩ := s
    cases phase with
    | settled outcome => rfl
    | created | waiting | pausing => cases isEnded

theorem resume_interrupted {d : Debouncer EditorWorld Suggestions EditorError}
    {s : Submission EditorWorld Suggestions EditorError} (isFound : d.submission? g = some s)
    (interrupted : s.interrupted = true) (phase : s.phase = .created ∨ s.phase = .waiting)
    (now : Rat) (world : EditorWorld) :
    ∃ outcome, d.resume g now world = d.settle g outcome world := by
  unfold Debouncer.resume
  rcases phase with phase | phase <;> simp only [isFound, phase, interrupted] <;> exact ⟨_, rfl⟩

/-- A request whose sleep is over is carried out at once. -/
theorem resume_due {d : Debouncer EditorWorld Suggestions EditorError} {r : Request}
    (isFound : d.submission? g = some ⟨g, r.work, .waiting, false⟩) (current : g = d.generation)
    (now : Rat) (world : EditorWorld) :
    ∃ outcome effect, d.resume g now world = d.settle g outcome (r.carryOut world) effect := by
  have takes : Debouncer.workStep? ⟨g, r.work, .waiting, false⟩ now world =
      some (r.work.start now world) := rfl
  rw [Debouncer.resume_eq_follow isFound takes]
  simp only [Request.work, EditorWorld.suggestWork, Request.carryOut]
  obtain ⟨answer, after⟩ := world.ask fun editor => editor.suggest r.text r.cursor
  cases answer with
  | error e => exact ⟨_, _, rfl⟩
  | ok found =>
      simp only [Debouncer.follow, Debouncer.handOver, current, if_true]
      exact ⟨_, _, rfl⟩

/-- The session `next` is nearer to where the turns that are due lead. -/
def Nearer (t : Session) (gens : List Nat) (stage : Stage) (next : Session) : Prop :=
  ∃ gens' stage', Holds next gens' stage' ∧
    stage'.turns t.debouncer.delay gens' < stage.turns t.debouncer.delay gens ∧
    stage'.settle t.debouncer.delay t.now next.world =
      stage.settle t.debouncer.delay t.now t.world ∧
    next.now = t.now ∧ next.debouncer.delay = t.debouncer.delay

theorem Stage.turns_lt (delay : Delay) {next : Stage} (isNext : next = .idle ∨ next = stage) :
    next.turns delay gens < stage.turns delay (g :: gens) := by
  rcases isNext with rfl | rfl
  · cases stage <;> cases delay <;> simp only [Stage.turns, List.length_cons] <;> omega
  · cases next <;> cases delay <;> simp only [Stage.turns, List.length_cons] <;> omega

/-- A turn that ends its submission. -/
theorem Holds.take_ends (holds : Holds t (g :: gens) stage)
    {d : Debouncer EditorWorld Suggestions EditorError} {world : EditorWorld}
    {effect : Option Effect}
    (resumed : t.debouncer.resume g t.now t.world = ⟨d, world, .ended, effect⟩)
    (ends : t.debouncer.EndsIn g d) {next : Stage}
    (isLatest : t.debouncer.latest = some g → next = .idle ∧ (d.submission? g).isSome)
    (isOther : t.debouncer.latest ≠ some g → next = stage)
    (settles : next.settle t.debouncer.delay t.now world =
      stage.settle t.debouncer.delay t.now t.world) :
    Nearer t (g :: gens) stage (Timeline.take { t with ready := gens.map .step } (.step g)) := by
  simp only [Timeline.take, resumed]
  refine ⟨gens, next, holds.finish ends world isLatest isOther, ?_, settles, rfl, ends.delay⟩
  by_cases own : t.debouncer.latest = some g
  · exact Stage.turns_lt _ (.inl (isLatest own).1)
  · exact Stage.turns_lt _ (.inr (isOther own))

/-- The first turn of a request. -/
theorem Holds.take_created {r : Request} (holds : Holds t (g :: gens) (.created r))
    (own : t.debouncer.latest = some g) :
    Nearer t (g :: gens) (.created r)
      (Timeline.take { t with ready := gens.map .step } (.step g)) := by
  have isFound : t.debouncer.submission? g = some ⟨g, r.work, .created, false⟩ := by
    cases holds.standing with
    | created is isFound =>
        cases own.symm.trans is
        exact isFound
  have resumed : t.debouncer.resume g t.now t.world =
      t.debouncer.enter g .waiting t.world (Debouncer.delayNext t.debouncer.delay) := by
    simp only [Debouncer.resume, isFound]
  have notAgain : g ∉ gens := (List.nodup_cons.mp holds.nodup).1
  have others : ∀ alarm ∈ t.otherAlarms g, alarm ∈ t.alarms ∨ alarm.generation = g :=
    fun alarm member => .inl (List.mem_filter.mp member).1
  have noOwn : (t.otherAlarms g).filter (·.generation == g) = [] := by
    rw [Timeline.otherAlarms, List.filter_filter]
    simp
  simp only [Timeline.take, resumed, Debouncer.enter]
  cases isDelay : t.debouncer.delay with
  | turn =>
      -- No alarm is set: the sleep is over with one more turn, behind those that are due.
      obtain ⟨orderly, stale, asleep⟩ := holds.sleep own (.inr rfl) others
      refine ⟨gens ++ [g], .due r, ⟨⟨?_, orderly.2, orderly.3, orderly.4, orderly.5, orderly.6,
        orderly.7⟩, stale, .due own asleep ?_⟩, ?_, ?_, rfl, rfl⟩
      · simp [Debouncer.delayNext, Timeline.arrange]
      · exact List.mem_append_right _ (List.mem_singleton_self g)
      · simp [Stage.turns, isDelay]
      · simp [Stage.settle, isDelay, Debouncer.delayNext, Timeline.arrange]
  | seconds x =>
      have set : ∀ alarm ∈ t.otherAlarms g ++ [Alarm.mk (roundTime (t.now + x)) g],
          alarm ∈ t.alarms ∨ alarm.generation = g := by
        intro alarm member
        rcases List.mem_append.mp member with old | new
        · exact others alarm old
        · exact .inr (by rw [List.mem_singleton.mp new])
      obtain ⟨orderly, stale, asleep⟩ := holds.sleep own (.inl rfl) set
      refine ⟨gens, .waiting r t.now, ⟨orderly, stale, .waiting own asleep notAgain ?_ ?_⟩, ?_, ?_,
        rfl, rfl⟩
      · simp [Debouncer.delayNext, Timeline.arrange, Debouncer.change, isDelay]
      · show (t.otherAlarms g ++ [Alarm.mk (roundTime (t.now + x)) g]).filter (·.generation == g) =
          sleepAlarms t.now g t.debouncer.delay
        rw [isDelay, List.filter_append, noOwn]
        simp [sleepAlarms]
      · simp [Stage.turns, isDelay]
      · simp [Stage.settle, isDelay, Debouncer.delayNext, Timeline.arrange]
  | forever =>
      obtain ⟨orderly, stale, asleep⟩ := holds.sleep own (.inl rfl) others
      refine ⟨gens, .waiting r t.now, ⟨orderly, stale, .waiting own asleep notAgain ?_ ?_⟩, ?_, ?_,
        rfl, rfl⟩
      · simp [Debouncer.delayNext, Timeline.arrange, Debouncer.change, isDelay]
      · show (t.otherAlarms g).filter (·.generation == g) = sleepAlarms t.now g t.debouncer.delay
        rw [isDelay]
        exact noOwn
      · simp [Stage.turns, isDelay]
      · simp [Stage.settle, isDelay, Debouncer.delayNext, Timeline.arrange]

/-- One turn. -/
theorem Holds.take (holds : Holds t (g :: gens) stage) :
    Nearer t (g :: gens) stage (Timeline.take { t with ready := gens.map .step } (.step g)) := by
  by_cases own : t.debouncer.latest = some g
  · have standing := holds.standing
    cases standing with
    | none isNone =>
        rw [own] at isNone
        cases isNone
    | ended is isFound isEnded =>
        cases own.symm.trans is
        have ended : ∀ s', t.debouncer.submission? g = some s' → s'.isSettled = true := by
          intro s' found
          cases isFound.symm.trans found
          exact isEnded
        exact holds.take_ends (resume_ended ended _ _) (Debouncer.endsIn_self ended)
          (fun _ => ⟨rfl, by simp [isFound]⟩) (fun _ => rfl) rfl
    | created is isFound => exact holds.take_created own
    | waiting is isFound notReady =>
        cases own.symm.trans is
        exact absurd List.mem_cons_self notReady
    | due is isFound =>
        cases own.symm.trans is
        obtain ⟨outcome, effect, resumed⟩ := resume_due isFound (holds.current g own) t.now t.world
        refine holds.take_ends resumed (Debouncer.endsIn_settled g outcome) (fun _ => ⟨rfl, ?_⟩)
          (fun other => absurd own other) rfl
        rw [Debouncer.submission?_change _ (by intro s; rfl), isFound]
        rfl
  · have ends := holds.stale g own
    cases isFound : t.debouncer.submission? g with
    | none =>
        have ended : ∀ s, t.debouncer.submission? g = some s → s.isSettled = true := by
          simp [isFound]
        exact holds.take_ends (resume_ended ended _ _) (Debouncer.endsIn_self ended)
          (fun is => absurd is own) (fun _ => rfl) rfl
    | some s =>
        rcases ends s isFound with isEnded | ⟨interrupted, phase, _⟩
        · have ended : ∀ s', t.debouncer.submission? g = some s' → s'.isSettled = true := by
            intro s' found
            cases isFound.symm.trans found
            exact isEnded
          exact holds.take_ends (resume_ended ended _ _) (Debouncer.endsIn_self ended)
            (fun is => absurd is own) (fun _ => rfl) rfl
        · obtain ⟨outcome, resumed⟩ := resume_interrupted isFound interrupted phase t.now t.world
          exact holds.take_ends resumed (Debouncer.endsIn_settled g outcome)
            (fun is => absurd is own) (fun _ => rfl) rfl

theorem Stage.length_le_turns (delay : Delay) (gens : List Nat) (stage : Stage) :
    gens.length ≤ stage.turns delay gens := by
  cases stage <;> cases delay <;> simp [Stage.turns]

/-- All turns that were due have been taken. -/
structure Settled (t : Session) (stage : Stage) (rest : Session) : Prop where
  holds : Holds rest [] (stage.settle t.debouncer.delay t.now t.world).1
  world : rest.world = (stage.settle t.debouncer.delay t.now t.world).2
  now : rest.now = t.now
  delay : rest.debouncer.delay = t.debouncer.delay

theorem Holds.settled (holds : Holds t [] stage) : Settled t stage t := by
  have same : stage.settle t.debouncer.delay t.now t.world = (stage, t.world) := by
    cases holds.standing with
    | none | ended | waiting => rfl
    | created _ _ member | due _ _ member => cases member
  exact ⟨by rw [same]; exact holds, by rw [same], rfl, rfl⟩

theorem Holds.takeTurns (holds : Holds t gens stage) {n : Nat}
    (enough : stage.turns t.debouncer.delay gens ≤ n) : Settled t stage (t.takeTurns n) := by
  induction n generalizing t gens stage with
  | zero =>
      have length := stage.length_le_turns t.debouncer.delay gens
      obtain rfl : gens = [] := List.eq_nil_of_length_eq_zero (by omega)
      exact holds.settled
  | succ n ih =>
      cases gens with
      | nil =>
          rw [Timeline.takeTurns, holds.ready]
          exact holds.settled
      | cons g gens =>
          rw [Timeline.takeTurns, holds.ready]
          -- A turn can ask for another one, but the turns still to be taken get fewer.
          obtain ⟨gens', stage', later, fewer, same, now, delay⟩ := holds.take
          obtain ⟨ends, world, atTime, withDelay⟩ := ih later (by rw [delay]; omega)
          rw [delay, now, same] at ends world
          exact ⟨ends, world, atTime.trans now, withDelay.trans delay⟩

theorem Holds.settleNow (holds : Holds t gens stage) : Settled t stage t.settleNow := by
  refine holds.takeTurns ?_
  have length : t.ready.length = gens.length := by simp [holds.ready]
  have few : stage.turns t.debouncer.delay gens ≤ 2 * gens.length := by
    cases holds.standing with
    | created _ _ member =>
        have := List.length_pos_of_mem member
        cases t.debouncer.delay <;> simp only [Stage.turns] <;> omega
    | none | ended | waiting | due =>
        simp only [Stage.turns]
        omega
  omega

/-! ## Alarms -/

/-- The time and the world have no part in the stage. -/
theorem Holds.congr (holds : Holds t gens stage) (world : EditorWorld) (now : Rat) :
    Holds { t with world, now } gens stage := by
  obtain ⟨⟨ready, nodup, bounded, current, fresh, watchers, alarms⟩, stale, standing⟩ := holds
  refine ⟨⟨ready, nodup, bounded, current, fresh, watchers, alarms⟩, stale, ?_⟩
  cases standing with
  | none isNone => exact .none isNone
  | ended is isFound isEnded => exact .ended is isFound isEnded
  | created is isFound member => exact .created is isFound member
  | waiting is isFound notReady slow isSet => exact .waiting is isFound notReady slow isSet
  | due is isFound member => exact .due is isFound member

/-- When all turns have been taken, only the latest submission can have an alarm. -/
theorem Holds.alarm_latest (holds : Holds t [] stage) :
    ∀ alarm ∈ t.alarms, t.debouncer.latest = some alarm.generation := by
  intro alarm member
  obtain ⟨s, isFound, live⟩ := holds.alarms alarm member
  by_cases own : t.debouncer.latest = some alarm.generation
  · exact own
  · rcases holds.stale _ own s isFound with isEnded | ⟨_, _, noTurn⟩
    · rw [live] at isEnded
      cases isEnded
    · cases noTurn

theorem Holds.alarms_idle (holds : Holds t [] .idle) : t.alarms = [] := by
  refine List.eq_nil_iff_forall_not_mem.mpr fun alarm member => ?_
  have own := holds.alarm_latest alarm member
  obtain ⟨s, isFound, live⟩ := holds.alarms alarm member
  cases holds.standing with
  | none isNone =>
      rw [isNone] at own
      cases own
  | ended is found isEnded =>
      cases own.symm.trans is
      cases isFound.symm.trans found
      rw [live] at isEnded
      cases isEnded

theorem Holds.alarms_waiting {r : Request} {since : Rat} (holds : Holds t [] (.waiting r since)) :
    ∃ g, t.debouncer.latest = some g ∧ t.alarms = sleepAlarms since g t.debouncer.delay := by
  have all := holds.alarm_latest
  cases holds.standing with
  | @waiting g _ _ is _ _ _ isSet =>
      refine ⟨g, is, ?_⟩
      rw [← isSet, eq_comm, List.filter_eq_self]
      intro alarm member
      exact beq_iff_eq.mpr (Option.some.inj ((all alarm member).symm.trans is))

theorem ringWhile_no_alarms (goesOn : Session → Alarm → Bool) (n : Nat) (silent : t.alarms = []) :
    Timeline.ringWhile goesOn n t = t := by
  cases n with
  | zero => rfl
  | succ n => simp [Timeline.ringWhile, Timeline.nextAlarm?, silent]

/-- The alarm of a request that waits lets it be carried out. -/
theorem Holds.ring {r : Request} {since : Rat} (holds : Holds t [] (.waiting r since)) (due : Rat)
    (own : t.debouncer.latest = some g) :
    let after := t.ring ⟨due, g⟩
    Holds after [] .idle ∧ after.world = r.carryOut t.world ∧
      after.debouncer.delay = t.debouncer.delay := by
  have isFound : t.debouncer.submission? g = some ⟨g, r.work, .waiting, false⟩ := by
    cases holds.standing with
    | waiting is isFound =>
        cases own.symm.trans is
        exact isFound
  have rung : Holds { t with
      now := due, alarms := t.otherAlarms g, ready := t.ready ++ [.step g] } [g] (.due r) := by
    refine ⟨⟨?_, by simp, ?_, holds.current, holds.fresh, holds.watchers, ?_⟩, ?_, ?_⟩
    · simp [holds.ready]
    · intro g' member
      obtain rfl := List.mem_singleton.mp member
      exact Nat.le_of_eq (holds.current g' own)
    · intro alarm member
      exact holds.alarms alarm (List.mem_filter.mp member).1
    · intro g' other s found
      rcases holds.stale g' other s found with isEnded | ⟨_, _, noTurn⟩
      · exact .inl isEnded
      · cases noTurn
    · exact .due own isFound (List.mem_singleton_self g)
  have settled := rung.settleNow
  exact ⟨settled.holds, settled.world, settled.delay⟩

/-! ## Events -/

/-- What is left of a sleep when the clock is moved to `target`, and the world then. -/
def doze (delay : Delay) (target : Rat) (world : EditorWorld) :
    Option (Request × Rat) → Option (Request × Rat) × EditorWorld
  | none => (none, world)
  | some (r, since) =>
    if sleepEnds since target delay then (none, r.carryOut world) else (some (r, since), world)

/-- The sleep of the latest request in a stage, with the time when it begins. -/
inductive Rests (now : Rat) : Stage → Option (Request × Rat) → Prop where
  | idle : Rests now .idle none
  | created (r : Request) : Rests now (.created r) (some (r, now))
  | waiting (r : Request) (since : Rat) : Rests now (.waiting r since) (some (r, since))

/-- Between two events the latest request sleeps, or there is none that waits. -/
def Sleeps (t : Session) (sleep : Option (Request × Rat)) : Prop :=
  ∃ gens stage, Holds t gens stage ∧ Rests t.now stage sleep

variable {sleep : Option (Request × Rat)}

/-- All that rings until `target`, when the turns of now have been taken. -/
theorem Holds.ringWhile (holds : Holds t [] stage) (rests : Rests t.now stage sleep) (target : Rat)
    {n : Nat} (enough : sleep.isSome → 0 < n) :
    let after := Timeline.ringWhile (fun _ alarm => decide (alarm.due ≤ target)) n t
    ∃ stage', Holds after [] stage' ∧
      (∀ now, Rests now stage' (doze t.debouncer.delay target t.world sleep).1) ∧
      after.world = (doze t.debouncer.delay target t.world sleep).2 ∧
      after.debouncer.delay = t.debouncer.delay := by
  intro after
  cases rests with
  | idle =>
      have same : after = t := ringWhile_no_alarms _ n holds.alarms_idle
      rw [same]
      exact ⟨.idle, holds, fun _ => .idle, rfl, rfl⟩
  | created =>
      cases holds.standing with
      | created _ _ member => cases member
  | waiting r since =>
      obtain ⟨g, own, set⟩ := holds.alarms_waiting
      cases isDelay : t.debouncer.delay with
      | turn =>
          cases holds.standing with
          | waiting _ _ _ slow => exact absurd isDelay slow
      | forever =>
          rw [isDelay] at set
          have same : after = t := ringWhile_no_alarms _ n set
          rw [same]
          exact ⟨_, holds, fun _ => .waiting r since, rfl, isDelay⟩
      | seconds x =>
          rw [isDelay] at set
          obtain ⟨m, rfl⟩ := Nat.exists_eq_succ_of_ne_zero (Nat.ne_of_gt (enough rfl))
          have next : t.nextAlarm? = some ⟨roundTime (since + x), g⟩ := by
            simp [Timeline.nextAlarm?, set, sleepAlarms]
          by_cases ends : roundTime (since + x) ≤ target
          · obtain ⟨idle, world, delay⟩ := holds.ring (roundTime (since + x)) own
            have rung : after = t.ring ⟨roundTime (since + x), g⟩ := by
              simp only [after, Timeline.ringWhile, next, ends, decide_true, if_true]
              exact ringWhile_no_alarms _ m idle.alarms_idle
            rw [rung]
            simp only [doze, sleepEnds, ends, decide_true, if_true]
            exact ⟨.idle, idle, fun _ => .idle, world, delay.trans isDelay⟩
          · have same : after = t := by simp [after, Timeline.ringWhile, next, ends]
            rw [same]
            simp only [doze, sleepEnds, ends, decide_false, Bool.false_eq_true, if_false]
            exact ⟨_, holds, fun _ => .waiting r since, trivial, isDelay⟩

theorem Holds.submissions_pos (holds : Holds t gens stage) (rests : Rests t.now stage sleep)
    (isSome : sleep.isSome) : 0 < t.debouncer.submissions.length := by
  have found : ∃ g s, t.debouncer.submission? g = some s := by
    cases rests with
    | idle => cases isSome
    | created =>
        cases holds.standing with
        | created _ isFound => exact ⟨_, _, isFound⟩
    | waiting =>
        cases holds.standing with
        | waiting _ isFound => exact ⟨_, _, isFound⟩
  obtain ⟨g, s, isFound⟩ := found
  exact List.length_pos_of_mem (Debouncer.submission?_eq_some isFound).1

/-- The turns of now come first; a sleep without an end of its own is over with them. -/
theorem Rests.settle {now : Rat} (rests : Rests now stage sleep) (delay : Delay)
    (world : EditorWorld) (target : Rat) :
    ∃ left, Rests now (stage.settle delay now world).1 left ∧ (left.isSome → sleep.isSome) ∧
      doze delay target (stage.settle delay now world).2 left = doze delay target world sleep := by
  cases rests with
  | idle => exact ⟨none, .idle, id, rfl⟩
  | waiting r since => exact ⟨some (r, since), .waiting r since, id, rfl⟩
  | created r =>
      cases delay with
      | turn => exact ⟨none, .idle, fun _ => rfl, rfl⟩
      | seconds | forever => exact ⟨some (r, now), .waiting r now, id, rfl⟩

theorem Sleeps.advance (sleeps : Sleeps t sleep) (seconds : Rat) :
    let target := roundTime (t.now + seconds)
    let after := t.advance seconds
    Sleeps after (doze t.debouncer.delay target t.world sleep).1 ∧
      after.world = (doze t.debouncer.delay target t.world sleep).2 ∧
      after.now = laterTime t.now seconds ∧ after.debouncer.delay = t.debouncer.delay := by
  intro target after
  obtain ⟨gens, stage, holds, rests⟩ := sleeps
  -- The clock is moved in two parts: the turns of now, then what rings on the way.
  obtain ⟨settled, world, now, delay⟩ := holds.settleNow
  obtain ⟨left, restsLeft, fewer, same⟩ := rests.settle t.debouncer.delay t.world target
  have positive : left.isSome → 0 < t.alarmBound := by
    intro isSome
    have := holds.submissions_pos rests (fewer isSome)
    rw [Timeline.alarmBound]
    omega
  obtain ⟨last, atEnd, restsEnd, worldEnd, delayEnd⟩ :=
    settled.ringWhile (now ▸ restsLeft) target positive
  rw [delay, world, same] at restsEnd worldEnd
  exact ⟨⟨[], last, atEnd.congr _ _, restsEnd _⟩, worldEnd, rfl, delayEnd.trans delay⟩

theorem isReady_iff (orderly : Orderly t gens) (g : Nat) : t.isReady g = true ↔ g ∈ gens := by
  simp [Timeline.isReady, orderly.ready]

/-- Before it is interrupted, the latest submission gets a turn, if it has none and has not
ended. -/
theorem Holds.rouseLatest (holds : Holds t gens stage) :
    ∃ turns : List Nat, t.rouseLatest = { t with ready := turns.map .step } ∧ turns.Nodup ∧
      (∀ g ∈ turns, g ≤ t.debouncer.generation) ∧ (∀ g ∈ gens, g ∈ turns) ∧
      ∀ g, t.debouncer.latest = some g → g ∈ turns ∨
        ∀ s, t.debouncer.submission? g = some s → s.isSettled = true := by
  have kept : t = { t with ready := gens.map .step } := by rw [← holds.ready]
  unfold Timeline.rouseLatest
  cases latest : t.debouncer.latest with
  | none =>
      exact ⟨gens, kept, holds.nodup, holds.bounded, fun _ => id, fun _ other => by cases other⟩
  | some g =>
      by_cases member : g ∈ gens
      · have isReady := (isReady_iff holds.toOrderly g).mpr member
        simp only [isReady, Bool.or_true, if_true]
        refine ⟨gens, kept, holds.nodup, holds.bounded, fun _ => id, ?_⟩
        rintro _ ⟨⟩
        exact .inl member
      · have notReady : t.isReady g = false := by
          rw [← Bool.not_eq_true, isReady_iff holds.toOrderly g]
          exact member
        cases ended : (t.debouncer.outcome? g).isSome with
        | true =>
            simp only [ended, Bool.true_or, if_true]
            refine ⟨gens, kept, holds.nodup, holds.bounded, fun _ => id, ?_⟩
            rintro _ ⟨⟩
            refine .inr fun s isFound => ?_
            simp only [Debouncer.outcome?, isFound, Option.bind_some] at ended
            obtain ⟨own, work, phase, interrupted⟩ := s
            cases phase with
            | settled => rfl
            | created | waiting | pausing => cases ended
        | false =>
            simp only [ended, notReady, Bool.or_false, Bool.false_eq_true, if_false]
            refine ⟨gens ++ [g], ?_, ?_, ?_, fun _ => List.mem_append_left _, ?_⟩
            · rw [holds.ready, List.map_append]
              rfl
            · refine List.nodup_append.mpr ⟨holds.nodup, by simp, ?_⟩
              rintro g' isOld _ isLast rfl
              exact member (List.mem_singleton.mp isLast ▸ isOld)
            · intro g' isTurn
              rcases List.mem_append.mp isTurn with isOld | isLast
              · exact holds.bounded g' isOld
              · rw [List.mem_singleton.mp isLast]
                exact Nat.le_of_eq (holds.current g latest)
            · rintro _ ⟨⟩
              exact .inl (List.mem_append_right _ (List.mem_singleton_self g))

/-- Once the latest submission is interrupted, none counts any more. -/
theorem Holds.interrupt (holds : Holds t gens stage) :
    ∃ turns : List Nat, t.rouseLatest = { t with ready := turns.map .step } ∧
      Orderly { t with debouncer := t.debouncer.interruptLatest, ready := turns.map .step } turns ∧
      ∀ g, Stale
        { t with debouncer := t.debouncer.interruptLatest, ready := turns.map .step } turns g := by
  obtain ⟨turns, roused, nodup, bounded, kept, isRoused⟩ := holds.rouseLatest
  refine ⟨turns, roused, ⟨rfl, nodup, ?_, ?_, ?_, holds.watchers, ?_⟩, ?_⟩
  · simpa using bounded
  · intro g is
    simp only [Debouncer.interruptLatest_generation, Debouncer.interruptLatest_latest] at is ⊢
    exact holds.current g is
  · intro g isNew
    rw [Debouncer.interruptLatest_generation] at isNew
    rw [Debouncer.submission?_interruptLatest, holds.fresh g isNew]
    rfl
  · intro alarm member
    obtain ⟨s, isFound, live⟩ := holds.alarms alarm member
    rw [Debouncer.submission?_interruptLatest, isFound]
    refine ⟨_, rfl, ?_⟩
    split
    · exact live
    · exact live
  · intro g s isFound
    rw [Debouncer.submission?_interruptLatest] at isFound
    obtain ⟨s', found, rfl⟩ := Option.map_eq_some_iff.mp isFound
    by_cases own : t.debouncer.latest = some g
    · rw [if_pos own]
      rcases isRoused g own with isTurn | isEnded
      · cases holds.standing with
        | none isNone => cases isNone.symm.trans own
        | ended is isOld isEnded =>
            cases own.symm.trans is
            cases isOld.symm.trans found
            exact .inl isEnded
        | created is isOld =>
            cases own.symm.trans is
            cases isOld.symm.trans found
            exact .inr ⟨rfl, .inl rfl, isTurn⟩
        | waiting is isOld | due is isOld =>
            cases own.symm.trans is
            cases isOld.symm.trans found
            exact .inr ⟨rfl, .inr rfl, isTurn⟩
      · exact .inl (isEnded s' found)
    · rw [if_neg own]
      rcases holds.stale g own s' found with isEnded | ⟨interrupted, phase, member⟩
      · exact .inl isEnded
      · exact .inr ⟨interrupted, phase, kept g member⟩

theorem Sleeps.schedule (sleeps : Sleeps t sleep) (text : List Char) (cursor : Int) :
    let after := t.schedule text cursor
    Sleeps after (some (⟨text, cursor⟩, t.now)) ∧ after.world = t.world ∧ after.now = t.now ∧
      after.debouncer.delay = t.debouncer.delay := by
  intro after
  obtain ⟨gens, stage, holds, _⟩ := sleeps
  obtain ⟨turns, roused, orderly, stale⟩ := holds.interrupt
  have reached : after = { t with
      debouncer := t.debouncer.submit (EditorWorld.suggestWork text cursor)
      ready := (turns ++ [t.debouncer.generation + 1]).map .step } := by
    simp only [after, Session.schedule, Timeline.submit, roused, Debouncer.submit,
      Debouncer.interruptLatest_generation, List.map_append]
    rfl
  have generation : (t.debouncer.submit (EditorWorld.suggestWork text cursor)).generation =
      t.debouncer.generation + 1 := by
    simp [Debouncer.submit]
  have delay : (t.debouncer.submit (EditorWorld.suggestWork text cursor)).delay =
      t.debouncer.delay := by
    simp [Debouncer.submit]
  have found : ∀ g, _ :=
    fun g => Debouncer.submission?_submit (EditorWorld.suggestWork text cursor) g
    (holds.fresh _ (Nat.lt_succ_self _))
  have isNew : (t.debouncer.submit (EditorWorld.suggestWork text cursor)).latest =
      some (t.debouncer.generation + 1) := by
    simp [Debouncer.submit]
  have notYet : t.debouncer.generation + 1 ∉ turns := by
    intro member
    have := orderly.bounded _ member
    rw [Debouncer.interruptLatest_generation] at this
    omega
  rw [reached]
  refine ⟨⟨_, .created ⟨text, cursor⟩, ⟨⟨rfl, ?_, ?_, ?_, ?_, holds.watchers, ?_⟩, ?_, ?_⟩,
    .created _⟩, rfl, rfl, delay⟩
  · refine List.nodup_append.mpr ⟨orderly.nodup, by simp, ?_⟩
    rintro g isOld _ isLast rfl
    exact notYet (List.mem_singleton.mp isLast ▸ isOld)
  · intro g member
    rw [generation]
    rcases List.mem_append.mp member with isOld | isLast
    · have := orderly.bounded g isOld
      rw [Debouncer.interruptLatest_generation] at this
      omega
    · exact Nat.le_of_eq (List.mem_singleton.mp isLast)
  · intro g is
    rw [generation]
    exact Option.some.inj (is.symm.trans isNew)
  · intro g isLater
    rw [generation] at isLater
    rw [found, if_neg (by omega)]
    exact orderly.fresh g (by rw [Debouncer.interruptLatest_generation]; omega)
  · intro alarm member
    obtain ⟨s, isFound, live⟩ := orderly.alarms alarm member
    refine ⟨s, ?_, live⟩
    rw [found, if_neg]
    · exact isFound
    · intro same
      have fresh := orderly.fresh alarm.generation
        (by rw [Debouncer.interruptLatest_generation]; omega)
      cases isFound.symm.trans fresh
  · intro g other s isFound
    have older : g ≠ t.debouncer.generation + 1 := by
      rintro rfl
      exact other isNew
    rw [found, if_neg older] at isFound
    rcases stale g s isFound with isEnded | ⟨interrupted, phase, member⟩
    · exact .inl isEnded
    · exact .inr ⟨interrupted, phase, List.mem_append_left _ member⟩
  · refine .created isNew ?_ (List.mem_append_right _ (List.mem_singleton_self _))
    rw [found, if_pos rfl]
    rfl

theorem Sleeps.cancel (sleeps : Sleeps t sleep) :
    let after := t.cancel
    Sleeps after none ∧ after.world = t.world ∧ after.now = t.now ∧
      after.debouncer.delay = t.debouncer.delay := by
  intro after
  obtain ⟨gens, stage, holds, _⟩ := sleeps
  obtain ⟨turns, roused, orderly, stale⟩ := holds.interrupt
  have reached : after = { t with
      debouncer := t.debouncer.cancel, ready := turns.map .step } := by
    simp only [after, Timeline.cancel, roused]
  have delay : t.debouncer.cancel.delay = t.debouncer.delay := by
    simp [Debouncer.cancel]
  rw [reached]
  refine ⟨⟨turns, .idle, ⟨⟨rfl, orderly.nodup, ?_, ?_, ?_, holds.watchers, orderly.alarms⟩, ?_,
    .none rfl⟩, .idle⟩, rfl, rfl, delay⟩
  · intro g member
    have := orderly.bounded g member
    simp only [Debouncer.interruptLatest_generation, Debouncer.cancel] at this ⊢
    omega
  · intro g is
    cases is
  · intro g isLater
    refine orderly.fresh g ?_
    simp only [Debouncer.interruptLatest_generation, Debouncer.cancel] at isLater ⊢
    omega
  · exact fun g _ => stale g

theorem Sleeps.updateStreams (sleeps : Sleeps t sleep) (streams : Streams) :
    Sleeps (t.updateStreams streams) sleep := by
  obtain ⟨gens, stage, holds, rests⟩ := sleeps
  exact ⟨gens, stage, holds.congr _ _, rests⟩

theorem sleeps_ofEditor (editor : Editor) : Sleeps (ofEditor editor) none := by
  refine ⟨[], .idle, ⟨⟨rfl, .nil, ?_, ?_, ?_, rfl, ?_⟩, ?_, .none rfl⟩, .idle⟩
  · exact List.forall_mem_nil _
  · intro g is
    cases is
  · intro g _
    rfl
  · exact List.forall_mem_nil _
  · intro g _ s isFound
    cases isFound

/-! ## Answers -/

theorem carryOut_editor (r : Request) (world : EditorWorld) :
    (r.carryOut world).editor = world.editor := by
  simp only [Request.carryOut, EditorWorld.ask]
  rcases (world.editor.suggest r.text r.cursor).run.run [] with ⟨_ | _, notes⟩ <;> rfl

theorem carryOut_delivered (r : Request) (world : EditorWorld) :
    (r.carryOut world).delivered =
      world.delivered ++ (world.editor.answer? r.text r.cursor).toList := by
  simp only [Request.carryOut, EditorWorld.ask, Editor.answer?]
  rcases (world.editor.suggest r.text r.cursor).run.run [] with ⟨_ | found, notes⟩
  · exact (List.append_nil _).symm
  · rfl

/-- What becomes of a sleep in a history. -/
def pending (delay : Delay) (now : Rat) (known : StreamCatalog) (events : List Event) :
    Option (Request × Rat) → List Firing
  | none => []
  | some (r, since) => ((wake? delay since now known events).map (Firing.mk r.text r.cursor)).toList

/-- What a session hands over in a history: first the answer to the request that sleeps. -/
theorem Sleeps.delivered_play (sleeps : Sleeps t sleep) {editor : Editor} {known : StreamCatalog}
    (own : t.world.editor = { editor with catalog := known }) (events : List Event) :
    (t.play events).world.delivered = t.world.delivered ++
      (pending t.debouncer.delay t.now known events sleep ++
        firings t.debouncer.delay t.now known events).filterMap (·.answer? editor) := by
  induction events generalizing t sleep known with
  | nil =>
      have none : pending t.debouncer.delay t.now known [] sleep = [] := by
        rcases sleep with _ | ⟨r, since⟩ <;> rfl
      simp [none, firings, play]
  | cons event rest ih =>
      cases event with
      | schedule text cursor =>
          obtain ⟨later, world, now, delay⟩ := sleeps.schedule text cursor
          have none : pending t.debouncer.delay t.now known (.schedule text cursor :: rest) sleep =
              [] := by
            rcases sleep with _ | ⟨r, since⟩ <;> rfl
          rw [play, react, ih later (by rw [world]; exact own), world, now, delay, none]
          rfl
      | cancel =>
          obtain ⟨later, world, now, delay⟩ := sleeps.cancel
          have none : pending t.debouncer.delay t.now known (.cancel :: rest) sleep = [] := by
            rcases sleep with _ | ⟨r, since⟩ <;> rfl
          rw [play, react, ih later (by rw [world]; exact own), world, now, delay, none]
          rfl
      | update streams =>
          have later := sleeps.updateStreams streams
          have known' : (t.updateStreams streams).world.editor =
              { editor with catalog := StreamCatalog.ofStreams streams } := by
            simp [Session.updateStreams, own]
          rw [play, react, ih later known']
          rcases sleep with _ | ⟨r, since⟩ <;> rfl
      | advance seconds =>
          obtain ⟨later, world, now, delay⟩ := sleeps.advance seconds
          rcases sleep with _ | ⟨r, since⟩
          · rw [play, react, ih later (by rw [world]; exact own), world, now, delay]
            rfl
          · cases ends : sleepEnds since (roundTime (t.now + seconds)) t.debouncer.delay with
            | false =>
                simp only [doze, ends, Bool.false_eq_true, if_false] at later world
                rw [play, react, ih later (by rw [world]; exact own), world, now, delay]
                simp [pending, wake?, ends, firings]
            | true =>
                -- The sleep is over, so the request is answered with the streams known now.
                simp only [doze, ends, if_true] at later world
                have same : (t.advance seconds).world.editor =
                    { editor with catalog := known } := by
                  rw [world, carryOut_editor, own]
                rw [play, react, ih later same, world, now, delay, carryOut_delivered, own]
                simp only [pending, wake?, ends, if_true, Option.map_some, Option.toList_some,
                  List.singleton_append, List.filterMap_cons, List.nil_append, List.append_assoc]
                rw [Firing.answer?]
                cases ({ editor with catalog := known } : Editor).answer? r.text r.cursor <;> rfl

/-- There is an answer unless the parser fails, whatever streams are known. -/
theorem answer?_isSome_iff (editor : Editor) (text : List Char) (cursor : Int) :
    (editor.answer? text cursor).isSome = true ↔ editor.Parses text := by
  rw [← Editor.tables_isSome_iff, Editor.answer?, editor.answers_suggest text cursor []]
  cases editor.tables text <;> rfl

theorem schedule_mem_of_mem_firings {delay : Delay} {now : Rat} {known : StreamCatalog}
    {events : List Event} {firing : Firing} (member : firing ∈ firings delay now known events) :
    .schedule firing.text firing.cursor ∈ events := by
  induction events generalizing now known with
  | nil => cases member
  | cons event rest ih =>
      cases event with
      | schedule text cursor =>
          rcases List.mem_append.mp member with isFirst | isLater
          · obtain ⟨known', _, rfl⟩ := Option.map_eq_some_iff.mp (Option.mem_toList.mp isFirst)
            exact List.mem_cons_self
          · exact List.mem_cons_of_mem _ (ih isLater)
      | cancel | update | advance => exact List.mem_cons_of_mem _ (ih member)

theorem map_some_filterMap {α β : Type} {f : α → Option β} {items : List α}
    (defined : ∀ item ∈ items, (f item).isSome = true) :
    (items.filterMap f).map some = items.map f := by
  induction items with
  | nil => rfl
  | cons item rest ih =>
      obtain ⟨value, isValue⟩ := Option.isSome_iff_exists.mp (defined item List.mem_cons_self)
      have later := ih fun other member => defined other (List.mem_cons_of_mem item member)
      rw [List.filterMap_cons_some isValue, List.map_cons, List.map_cons, later, isValue]

/-- A session hands over the answers to the requests whose sleep ends before the next request and
the next cancellation, in their order and with the streams known at the end of the sleep. A request
without an answer is passed over; if the parser never fails there is none. -/
theorem delivered_eq_firings (editor : Editor) (events : List Event) :
    let delay := Delay.ofSeconds editor.settings.debounceDelay
    let fired := firings delay 0 editor.catalog events
    let delivered := ((ofEditor editor).play events).world.delivered
    delivered = fired.filterMap (·.answer? editor) ∧
      ((∀ text cursor, .schedule text cursor ∈ events →
        (editor.answer? text cursor).isSome = true) →
        delivered.map some = fired.map (·.answer? editor)) := by
  intro delay fired delivered
  have own : (ofEditor editor).world.editor = { editor with catalog := editor.catalog } := rfl
  have all : delivered = fired.filterMap (·.answer? editor) := by
    simpa [delivered, ofEditor, pending] using (sleeps_ofEditor editor).delivered_play own events
  refine ⟨all, fun returns => ?_⟩
  rw [all]
  refine map_some_filterMap fun firing member => ?_
  have asked := returns firing.text firing.cursor (schedule_mem_of_mem_firings member)
  rw [answer?_isSome_iff] at asked
  rw [Firing.answer?, answer?_isSome_iff]
  exact asked

/-- An editor with the usual settings that knows no streams. -/
def plainEditor : Editor :=
  { catalog := StreamCatalog.ofStreams [], parser := fun _ _ => .tables [] }

/-- Of three requests the first is overtaken and the last is called off; while the second one
sleeps, a stream becomes known. -/
def burst : List Event :=
  [.schedule "SEL".toList 3, .advance (1 / 10), .schedule "SELECT ".toList 7, .advance (1 / 10),
   .update [("orders", [])], .advance (1 / 10), .schedule "FROM ".toList 5, .cancel, .advance 1]

theorem delivered_eq_firings_burst :
    let delay := Delay.ofSeconds plainEditor.settings.debounceDelay
    let fired := firings delay 0 plainEditor.catalog burst
    let delivered := ((ofEditor plainEditor).play burst).world.delivered
    fired.map (fun firing => (firing.text, firing.known.streamNames)) =
        [("SELECT ".toList, ["orders"])] ∧
      (∀ text cursor, .schedule text cursor ∈ burst →
        (plainEditor.answer? text cursor).isSome = true) ∧
      delivered.map some = fired.map (·.answer? plainEditor) := by
  have returns : ∀ text cursor, .schedule text cursor ∈ burst →
      (plainEditor.answer? text cursor).isSome = true := by
    intro text cursor _
    exact (answer?_isSome_iff plainEditor text cursor).mpr (.inr fun _ => ParseOutcome.noConfusion)
  exact ⟨by decide +kernel, returns, (delivered_eq_firings plainEditor burst).2 returns⟩

end Session

end SqlAssist
