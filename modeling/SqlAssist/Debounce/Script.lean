import SqlAssist.Debounce.Timeline
import SqlAssist.Log

/-!
# Scripted work

Work that does nothing but keep a record, to watch a debouncer with: each job has a label, takes
some seconds and then returns its label or raises an error.
-/
namespace SqlAssist.Debounce

/-- What happens to a job or to someone who waits. -/
inductive EventKind where
  | start
  | finish
  | fail
  | interrupt
  | deliver
  | waited
  | waitFailed
  deriving DecidableEq, Repr

/-- The written name of a kind of event. -/
def EventKind.name : EventKind → String
  | .start => "start"
  | .finish => "finish"
  | .fail => "fail"
  | .interrupt => "interrupt"
  | .deliver => "deliver"
  | .waited => "waited"
  | .waitFailed => "wait_failed"

/-- An event and its time. -/
structure Event where
  time : Rat
  kind : EventKind
  label : String
  deriving DecidableEq, Repr

/-- The record of what happened. -/
structure Record where
  events : List Event := []
  log : List LogEntry := []
  deriving DecidableEq, Repr

/-- The record with one more event. -/
def Record.add (record : Record) (time : Rat) (kind : EventKind) (label : String) : Record :=
  { record with events := record.events ++ [⟨time, kind, label⟩] }

/-- How a job ends. -/
inductive JobMode where
  | returns
  | raises
  /-- It returns, and an interruption does not end it. -/
  | stubborn
  deriving DecidableEq, Repr

/-- What the receiver of a job does with its result. -/
inductive JobReceiver where
  | absent
  | records
  | raises
  | cancels
  deriving DecidableEq, Repr

/-- A scripted job. -/
structure Job where
  label : String
  seconds : Rat := 0
  mode : JobMode := .returns
  receiver : JobReceiver := .records

namespace Job

/-- The end of a job. -/
def finish (job : Job) (now : Rat) (record : Record) : Progress String String × Record :=
  match job.mode with
  | .raises => (.raised job.label, record.add now .fail job.label)
  | _ => (.returned job.label, record.add now .finish job.label)

/-- What the receiver of a job does. -/
def receive (job : Job) (now : Rat) (label : String) (record : Record) : Handover String × Record :=
  let record := record.add now .deliver label
  match job.receiver with
  | .raises => (.raised ("callback " ++ label), record)
  | .cancels => (.cancelled, record)
  | _ => (.accepted, record)

/-- A job as work. One that takes no time cannot be interrupted. -/
def work (job : Job) : Work Record String String where
  start now record :=
    let record := record.add now .start job.label
    if 0 < job.seconds then (.pausing job.seconds, record) else job.finish now record
  resume now record := job.finish now record
  interrupt now record :=
    let record := record.add now .interrupt job.label
    match job.mode with
    | .stubborn => (.carryingOn, record)
    | _ => (.stopped, record)
  receiver := if job.receiver = .absent then none else some job.receive
  discard record := { record with log := record.log ++ [.staleResult] }

end Job

/-- Someone with a label who waits for a submission, as an answer to its outcome. -/
def recordAnswer (label : String) (now : Rat) (outcome : Outcome String)
    (record : Record) : Record :=
  match outcome with
  | .failed _ => record.add now .waitFailed label
  | _ => record.add now .waited label

end SqlAssist.Debounce
