import SqlAssist.Debounce.Timeline
import SqlAssist.Editor.Basic

/-!
# Sessions

A `Session` is an editor in use: while the user types, requests for suggestions are scheduled, and a
debouncer lets only the last one of a burst through. A request is answered with the streams that are
known when it is carried out.
-/
namespace SqlAssist

/-- An editor with what has happened to it. -/
structure EditorWorld where
  editor : Editor
  notes : List Note := []
  /-- The suggestions that were handed over, in order. -/
  delivered : List Suggestions := []

namespace EditorWorld

/-- Lets the editor answer, and keeps its notes. -/
def ask {α : Type} (world : EditorWorld) (request : Editor → Noted α) :
    Except EditorError α × EditorWorld :=
  let (answer, notes) := (request world.editor).run.run []
  (answer, { world with notes := world.notes ++ notes })

/-- A request for suggestions as work. It is carried out in one step. -/
def suggestWork (text : List Char) (cursor : Int) :
    Debounce.Work EditorWorld Suggestions EditorError where
  start _ world :=
    match world.ask fun editor => editor.suggest text cursor with
    | (.ok found, world) => (.returned found, world)
    | (.error e, world) => (.raised e, world)
  resume _ world := (.stopped, world)
  interrupt _ world := (.stopped, world)
  receiver := some fun _ found world =>
    (.accepted, { world with delivered := world.delivered ++ [found] })
  discard world := { world with notes := world.notes ++ [.logged .staleResult] }

end EditorWorld

/-- An editor in use. -/
abbrev Session := Timeline EditorWorld Suggestions EditorError

namespace Session

/-- A session with an editor. -/
def ofEditor (editor : Editor) : Session :=
  { debouncer := { delay := Debounce.Delay.ofSeconds editor.settings.debounceDelay }
    world := { editor } }

/-- Schedules a request for suggestions. -/
def schedule (session : Session) (text : List Char) (cursor : Int) : Session :=
  session.submit (EditorWorld.suggestWork text cursor)

/-- Puts other streams in the place of those that are known. -/
def updateStreams (session : Session) (streams : Streams) : Session :=
  let editor := { session.world.editor with catalog := StreamCatalog.ofStreams streams }
  { session with world := { session.world with editor } }

end Session

end SqlAssist
