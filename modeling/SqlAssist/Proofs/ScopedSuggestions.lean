import SqlAssist.Proofs.AssociationLists
import SqlAssist.Proofs.EditorAnswers
import SqlAssist.Proofs.NarrowedSuggestions

/-!
# Suggested columns are those of the named streams

An editor suggests the fields of the streams that a text names. There are four steps on the way from
the text to the suggestions, and each has its own idea of what is the same:

* **tables** — the parser names tables, and two names in different case are one (`namedTables`);
* **streams** — a name means the stream that is spelled like it but for case and double quotes
  (`scope`); if no name means one, all streams are in scope;
* **fields** — fields of exactly one name are one (`scopedFields`);
* **suggestions** — the fields that start with the typed word in any case, up to the limit.

In each step the first of what is the same counts (`firsts`). `suggest_scoped` puts the steps
together.
-/
namespace SqlAssist

/-! ## The first of each kind -/

section Firsts

variable {α κ : Type} [DecidableEq κ]

/-- The items of a list whose key no earlier item has. -/
def firsts (key : α → κ) (items : List α) : List α :=
  items.eraseDupsBy fun item other => key item == key other

variable (key : α → κ)

theorem firsts_cons (item : α) (rest : List α) :
    firsts key (item :: rest) = item :: firsts key (rest.filter (key · ≠ key item)) := by
  rw [firsts, List.eraseDupsBy_cons]
  simp [firsts]

theorem firsts_sublist (items : List α) : (firsts key items).Sublist items := by
  match items with
  | [] => exact List.Sublist.refl _
  | item :: rest =>
      rw [firsts_cons]
      exact ((firsts_sublist _).trans List.filter_sublist).cons_cons item
termination_by items.length
decreasing_by exact Nat.lt_succ_of_le (List.length_filter_le _ _)

theorem nodup_firsts (items : List α) : ((firsts key items).map key).Nodup := by
  match items with
  | [] => exact List.nodup_nil
  | item :: rest =>
      rw [firsts_cons, List.map_cons, List.nodup_cons]
      refine ⟨?_, nodup_firsts _⟩
      intro repeated
      obtain ⟨other, isOther, same⟩ := List.mem_map.mp repeated
      have kept := List.mem_filter.mp ((firsts_sublist key _).subset isOther)
      simp [same] at kept
termination_by items.length
decreasing_by exact Nat.lt_succ_of_le (List.length_filter_le _ _)

/-- Going through a list with the keys that were seen: an item of a new key is a first one, and its
key is seen from then on. -/
theorem firsts_unseen_cons (seen : List κ) (item : α) (rest : List α) :
    firsts key ((item :: rest).filter (key · ∉ seen)) =
      if key item ∈ seen then firsts key (rest.filter (key · ∉ seen))
      else item :: firsts key (rest.filter (key · ∉ key item :: seen)) := by
  by_cases isSeen : key item ∈ seen
  · rw [List.filter_cons_of_neg (by simp [isSeen]), if_pos isSeen]
  · rw [List.filter_cons_of_pos (by simp [isSeen]), firsts_cons, List.filter_filter, if_neg isSeen]
    congr 2
    apply List.filter_congr
    intro other _
    simp [not_or]

end Firsts

/-! ## The tables of a text -/

namespace Editor

/-- The tables that the text names: of the names that the parser gives, those that are not empty, in
the first of their spellings. A blank text names none, nor does one that the parser refuses. -/
def namedTables (editor : Editor) (text : List Char) : List String :=
  if (Text.strip text).isEmpty then []
  else
    match editor.parser editor.settings.dialect (Text.strip text) with
    | .tables names => firsts Text.lowerName (names.filter (· ≠ ""))
    | .refused _ => []
    | .broken _ => []

theorem distinctNames_eq (seen names : List String) : distinctNames seen names =
    firsts Text.lowerName ((names.filter (· ≠ "")).filter (Text.lowerName · ∉ seen)) := by
  induction names generalizing seen with
  | nil => rfl
  | cons name rest ih =>
      by_cases blank : name = ""
      · subst blank
        simp [distinctNames, ih]
      · rw [List.filter_cons_of_pos (by simp [blank]), firsts_unseen_cons, ← ih, ← ih,
          distinctNames]
        simp [blank]

theorem exists_tables_eq (editor : Editor) {text : List Char} (parses : editor.Parses text) :
    ∃ errors, editor.tables text = .ok (editor.namedTables text, errors) := by
  simp only [tables, namedTables, referencedTables]
  simp only [Parses] at parses
  cases blank : (Text.strip text).isEmpty with
  | true => exact ⟨[], rfl⟩
  | false =>
      rw [blank] at parses
      cases outcome : editor.parser editor.settings.dialect (Text.strip text) with
      | tables names =>
          refine ⟨[], ?_⟩
          have all : names.filter (· ≠ "") =
              (names.filter (· ≠ "")).filter (Text.lowerName · ∉ ([] : List String)) := by
            simp
          simp only [Bool.false_eq_true, if_false]
          rw [all, ← distinctNames_eq]
          rfl
      | refused message => exact ⟨_, rfl⟩
      | broken message =>
          rcases parses with isBlank | fine
          · cases isBlank
          · exact absurd outcome (fine message)

end Editor

/-! ## The streams in scope -/

namespace StreamCatalog

/-- The streams of the catalog, in order. -/
def streams (catalog : StreamCatalog) : List Entry := catalog.entries.map (·.2)

/-- The name means the stream: they are spelled alike but for case and double quotes. -/
def Entry.IsMeantBy (entry : Entry) (name : String) : Prop := normalise entry.label = normalise name

instance (entry : Entry) (name : String) : Decidable (entry.IsMeantBy name) :=
  inferInstanceAs (Decidable (_ = _))

/-- The streams that the names mean, in the order of the names and each once; all streams of the
catalog if there are none. -/
def scope (catalog : StreamCatalog) (names : List String) : List Entry :=
  let meant := firsts id (names.flatMap fun name => catalog.streams.filter (·.IsMeantBy name))
  if meant = [] then catalog.streams else meant

/-- The fields of the streams in scope, of each name the first one. -/
def scopedFields (catalog : StreamCatalog) (names : List String) : List SchemaField :=
  firsts (·.name) ((catalog.scope names).flatMap (·.fields))

/-- Each stream is filed once, under its own normalised name. -/
structure Filed (catalog : StreamCatalog) : Prop where
  distinct : (Assoc.keys catalog.entries).Nodup
  own : ∀ entry ∈ catalog.entries, entry.1 = normalise entry.2.label

theorem filed_ofStreams (given : Streams) : (ofStreams given).Filed where
  distinct := Assoc.nodup_update List.nodup_nil
  own := by
    intro entry member
    rcases Assoc.mem_update member with new | old
    · obtain ⟨stream, _, rfl⟩ := List.mem_map.mp new
      rfl
    · cases old

theorem Filed.toList_get? {catalog : StreamCatalog} (filed : catalog.Filed) (name : String) :
    (Assoc.get? (normalise name) catalog.entries).toList =
      catalog.streams.filter (·.IsMeantBy name) := by
  rw [Assoc.toList_get? filed.distinct, streams, List.filter_map]
  congr 1
  apply List.filter_congr
  intro entry member
  rw [Function.comp_apply, decide_eq_decide, filed.own entry member]
  exact Iff.rfl

theorem Filed.matched_eq {catalog : StreamCatalog} (filed : catalog.Filed) (names : List String) :
    catalog.matched names =
      firsts id (names.flatMap fun name => catalog.streams.filter (·.IsMeantBy name)) := by
  rw [matched, List.filterMap_eq_flatMap_toList]
  simp only [filed.toList_get?]
  rfl

theorem distinctFields_eq (seen : List String) (fields : List SchemaField) :
    distinctFields seen fields = firsts (·.name) (fields.filter (·.name ∉ seen)) := by
  induction fields generalizing seen with
  | nil => rfl
  | cons field rest ih =>
      rw [firsts_unseen_cons, ← ih, ← ih, distinctFields]
      simp

theorem Filed.fieldsFor_eq {catalog : StreamCatalog} (filed : catalog.Filed) (names : List String) :
    catalog.fieldsFor names = catalog.scopedFields names := by
  have targets : catalog.fieldsFor names =
      distinctFields [] ((catalog.scope names).flatMap (·.fields)) := by
    rw [fieldsFor, scope, ← filed.matched_eq]
    cases catalog.matched names <;> rfl
  have unseen : ∀ fields : List SchemaField, fields.filter (·.name ∉ ([] : List String)) =
      fields := by
    intro fields
    simp
  rw [targets, distinctFields_eq, unseen, scopedFields]

end StreamCatalog

/-! ## Columns among the suggestions -/

namespace Suggestions

/-- The columns among the candidates for a slot come from the fields, and each field gives one. -/
theorem columns_sublist (sources : Sources) (slot : Slot) (typed : List Char) :
    ((candidates sources slot typed).filter (·.kind = .column)).Sublist
      (fieldItems sources.fields typed) := by
  have none : ∀ items : List Suggestion, (∀ item ∈ items, item.kind ≠ .column) →
      items.filter (·.kind = .column) = [] := by
    intro items other
    rw [List.filter_eq_nil_iff]
    intro item member
    simp [other item member]
  have words : ∀ kind vocabulary, kind ≠ .column →
      (wordItems kind vocabulary typed).filter (·.kind = .column) = [] := by
    intro kind vocabulary other
    apply none
    intro item member
    rw [kind_of_mem_wordItems member]
    exact other
  have tables : (tableItems sources.tables typed).filter (·.kind = .column) = [] := by
    apply none
    intro item member
    rw [kind_of_mem_tableItems member]
    exact SuggestionKind.noConfusion
  cases slot with
  | tableRef =>
      rw [candidates, tables]
      exact List.nil_sublist _
  | columnRef =>
      rw [candidates, List.filter_append, words .function _ SuggestionKind.noConfusion,
        List.append_nil]
      exact List.filter_sublist
  | afterOrder | afterGroup =>
      rw [none]
      · exact List.nil_sublist _
      · intro item member isColumn
        have allowed := kind_mem_kinds member
        simp [kinds, isColumn] at allowed
  | general =>
      rw [candidates]
      simp only [List.filter_append, words .keyword _ SuggestionKind.noConfusion,
        words .function _ SuggestionKind.noConfusion, tables, List.nil_append]
      exact List.filter_sublist

theorem items_eq_nil_or (text : List Char) (cursor : Int) (sources : Sources) :
    (suggestions text cursor sources).items = [] ∨
      ∃ slot typed, (suggestions text cursor sources).items = candidates sources slot typed := by
  unfold suggestions
  split
  · exact .inl rfl
  · dsimp only
    split
    · exact .inl rfl
    · split
      · exact .inl rfl
      · exact .inr ⟨_, _, rfl⟩

/-- The columns that are suggested, up to a limit: different fields, if fields have different
names. -/
theorem columns_sublist_sorted (text : List Char) (cursor : Int) (sources : Sources) (limit : Nat) :
    (((suggestions text cursor sources).items.take limit).filter (·.kind = .column)).Sublist
      ((sources.fields.mergeSort fun a b => decide (a.name ≤ b.name)).map Suggestion.ofField) := by
  have all : ((suggestions text cursor sources).items.filter (·.kind = .column)).Sublist
      ((sources.fields.mergeSort fun a b => decide (a.name ≤ b.name)).map Suggestion.ofField) := by
    rcases items_eq_nil_or text cursor sources with nothing | ⟨slot, typed, listed⟩
    · rw [nothing]
      exact List.nil_sublist _
    · rw [listed]
      exact (columns_sublist sources slot typed).trans (List.filter_sublist.map _)
  exact ((List.take_sublist limit _).filter _).trans all

end Suggestions

theorem Editor.limited_eq {α : Type} {limit : Int} (positive : 1 ≤ limit) (items : List α) :
    limited limit items = items.take limit.toNat := by
  unfold limited
  split
  · rw [List.take_of_length_le (by omega)]
  · rw [if_neg (by omega)]

/-- The suggestions of an editor are those for the fields in scope, up to the limit of its settings:
the fields of the streams that the text names, or of all streams if it names none of them. Whenever
the parser tells the tables of a text or refuses it, there is an answer. Every column in it is a
field in scope, and no two columns show the same name. -/
theorem suggest_scoped (given : Streams) {settings : Settings}
    (positive : 1 ≤ settings.maxSuggestions) (theme : Theme) (parser : Parser) (text : List Char)
    (cursor : Int) (notes : List Note) :
    let editor : Editor := { catalog := .ofStreams given, settings, theme, parser }
    let fields := editor.catalog.scopedFields (editor.namedTables text)
    let found := suggestions text cursor { tables := editor.catalog.streamNames, fields }
    let shown := found.items.take settings.maxSuggestions.toNat
    editor.Parses text →
      ((editor.suggest text cursor).run.run notes).1 = .ok { found with items := shown } ∧
      (∀ item ∈ shown, item.kind = .column → ∃ field ∈ fields, item = .ofField field) ∧
      ((shown.filter (·.kind = .column)).map (·.display)).Nodup ∧
      (shown.length : Int) ≤ settings.maxSuggestions := by
  intro editor fields found shown parses
  have columns := Suggestions.columns_sublist_sorted text cursor
    { tables := editor.catalog.streamNames, fields } settings.maxSuggestions.toNat
  refine ⟨?_, ?_, ?_, ?_⟩
  · obtain ⟨errors, told⟩ := editor.exists_tables_eq parses
    rw [editor.answers_suggest text cursor notes, told]
    show Except.ok (editor.suggestionsFor text (editor.namedTables text) cursor) = _
    rw [Editor.suggestionsFor, (StreamCatalog.filed_ofStreams given).fieldsFor_eq,
      Editor.limited_eq positive]
  · intro item member isColumn
    have isField := columns.subset (List.mem_filter.mpr ⟨member, by simpa using isColumn⟩)
    obtain ⟨field, isSorted, rfl⟩ := List.mem_map.mp isField
    exact ⟨field, List.mem_mergeSort.mp isSorted, rfl⟩
  · -- Sorting and leaving out keeps names different, and a column shows the name of its field.
    have names := columns.map (·.display)
    rw [List.map_map] at names
    refine names.nodup ?_
    have sorted := (List.mergeSort_perm fields fun a b => decide (a.name ≤ b.name)).map (·.name)
    exact sorted.nodup_iff.mpr (nodup_firsts _ _)
  · have short := List.length_take_le settings.maxSuggestions.toNat found.items
    show ((found.items.take settings.maxSuggestions.toNat).length : Int) ≤ _
    omega

/-- A text that names two of three streams, in other spellings than the catalog and one of them
twice, where both streams have a field `name`. -/
theorem suggest_scoped_spellings :
    let given : Streams := [("Orders", [⟨"id", "INT64"⟩, ⟨"name", "UTF8"⟩]),
      ("users", [⟨"name", "INT64"⟩, ⟨"nick", "UTF8"⟩]), ("logs", [⟨"note", "UTF8"⟩])]
    let parser : Parser := fun _ _ => .tables ["USERS", "", "Users", "\"ORDERS\""]
    let editor : Editor := { catalog := .ofStreams given, parser }
    let text := "SELECT n FROM USERS, Users u, \"ORDERS\"".toList
    let fields := editor.catalog.scopedFields (editor.namedTables text)
    let found := suggestions text 8 { tables := editor.catalog.streamNames, fields }
    let shown := found.items.take 50
    1 ≤ editor.settings.maxSuggestions ∧ editor.Parses text ∧
      editor.namedTables text = ["USERS", "\"ORDERS\""] ∧
      fields = [⟨"name", "INT64"⟩, ⟨"nick", "UTF8"⟩, ⟨"id", "INT64"⟩] ∧
      ((editor.suggest text 8).run.run []).1 = .ok { found with items := shown } ∧
      (∀ item ∈ shown, item.kind = .column → ∃ field ∈ fields, item = .ofField field) ∧
      ((shown.filter (·.kind = .column)).map (·.display)).Nodup ∧ (shown.length : Int) ≤ 50 := by
  intro given parser editor text fields found shown
  have parses : editor.Parses text := .inr fun _ => ParseOutcome.noConfusion
  have told : editor.namedTables text = ["USERS", "\"ORDERS\""] := by decide +kernel
  have inScope : fields = [⟨"name", "INT64"⟩, ⟨"nick", "UTF8"⟩, ⟨"id", "INT64"⟩] := by
    decide +kernel
  have positive : 1 ≤ editor.settings.maxSuggestions := by decide
  exact ⟨positive, parses, told, inScope,
    suggest_scoped given positive Theme.default parser text 8 [] parses⟩

end SqlAssist
