import SqlAssist.Editor.Basic

/-!
# The answers of an editor

What an editor answers does not depend on the notes that it has made (`Noted.Answers`). For
suggestions as for an analysis it asks the parser which tables the text names (`tables`). If the
parser fails there is no answer; otherwise the answer is a function of those tables
(`answers_suggest`, `answers_analyse`).
-/
namespace SqlAssist

/-- The action ends with the given answer, whatever has been noted before. -/
def Noted.Answers {α : Type} (action : Noted α) (answer : Except EditorError α) : Prop :=
  ∀ notes, (action.run.run notes).1 = answer

namespace Editor

variable (editor : Editor) (text : List Char) {α β : Type}

/-- Doing a part of the analysis aside changes no answer. -/
theorem answers_analysing {chore : Chore} {part : Noted α} {next : α → Noted β}
    {answer : Except EditorError β} (answers : (part >>= next).Answers answer) :
    (editor.analysing text chore part >>= next).Answers answer := by
  intro notes
  unfold analysing
  split
  · exact answers _
  · exact answers notes

/-! ## The tables of a text -/

/-- The tables that the text names and what the parser has against it, unless the parser fails. -/
def tables : Except EditorError (List String × List String) :=
  ((editor.referencedTables text).run.run []).1

/-- The parser need not be asked about the text, or does not fail. -/
def Parses : Prop :=
  (Text.strip text).isEmpty = true ∨
    ∀ message, editor.parser editor.settings.dialect (Text.strip text) ≠ .broken message

theorem answers_referencedTables : (editor.referencedTables text).Answers (editor.tables text) := by
  intro notes
  simp only [tables, referencedTables]
  cases (Text.strip text).isEmpty with
  | true => rfl
  | false => cases editor.parser editor.settings.dialect (Text.strip text) <;> rfl

theorem tables_isSome_iff : (editor.tables text).toOption.isSome = true ↔ editor.Parses text := by
  simp only [tables, Parses, referencedTables]
  cases (Text.strip text).isEmpty with
  | true => exact ⟨fun _ => .inl rfl, fun _ => rfl⟩
  | false =>
      cases editor.parser editor.settings.dialect (Text.strip text) with
      | tables names => exact ⟨fun _ => .inr fun _ => ParseOutcome.noConfusion, fun _ => rfl⟩
      | refused message => exact ⟨fun _ => .inr fun _ => ParseOutcome.noConfusion, fun _ => rfl⟩
      | broken message =>
          constructor
          · intro isSome
            cases isSome
          · intro parses
            rcases parses with isEmpty | other
            · cases isEmpty
            · exact absurd rfl (other message)

/-- What goes on with the tables of a text answers as a function of them. -/
theorem answers_bind_referencedTables {next : List String × List String → Noted α}
    {answer : List String × List String → α}
    (answers : ∀ told, (next told).Answers (.ok (answer told))) :
    (editor.referencedTables text >>= next).Answers ((editor.tables text).map answer) := by
  intro notes
  rw [← editor.answers_referencedTables text notes, ExceptT.run_bind, StateT.run_bind]
  rcases (editor.referencedTables text).run.run notes with ⟨_ | told, more⟩
  · rfl
  · exact answers told more

/-! ## Suggestions and analyses -/

/-- The suggestions of an editor that knows the tables of the text. -/
def suggestionsFor (tables : List String) (cursor : Int) : Suggestions :=
  let found := suggestions text cursor
    { tables := editor.catalog.streamNames, fields := editor.catalog.fieldsFor tables }
  { found with items := limited editor.settings.maxSuggestions found.items }

theorem answers_suggest (cursor : Int) : (editor.suggest text cursor).Answers
    ((editor.tables text).map fun told => editor.suggestionsFor text told.1 cursor) := by
  apply answers_analysing
  apply answers_bind_referencedTables
  intro told
  apply answers_analysing
  exact fun notes => rfl

/-- The analysis of a text with a cursor inside of it, by the outcome of the parser. -/
def analysisFor (told : List String × List String) (cursor : Nat) : TextAnalysis :=
  let typed := typedWord (text.take cursor)
  ⟨cursor, Slot.after (text.take (cursor - typed.length)), typed, told.1, columnList? text, told.2⟩

theorem answers_analyse (cursor : Int) : (editor.analyse text cursor).Answers
    ((editor.tables text).map fun told =>
      analysisFor text told (max 0 (min cursor text.length)).toNat) := by
  apply answers_analysing
  show Noted.Answers (_ >>= _) _
  apply answers_analysing
  show Noted.Answers (_ >>= _) _
  apply answers_analysing
  apply answers_bind_referencedTables
  exact fun told notes => rfl

end Editor

end SqlAssist
