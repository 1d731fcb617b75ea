import SqlAssist.Proofs.SavedLines

/-!
# Configuration files

A configuration that is saved is loaded again (`load_save`): the settings and the streams as they
were, and the styles over the usual ones.

* **document** — `documentSettings_saved`, `documentStyles_saved` and `documentStreams_saved` take
  the saved document apart again;
* **loading** — `load_saved` gives the loaded configuration as it is, pair by pair;
* **comparing** — `agrees_of_sameEntries` turns equal maps into the comparison of configurations.
-/
namespace SqlAssist

namespace Config

open Toml

variable {rules : Rules} {limits : Limits} {settings : Settings} {styles : Theme}
  {streams : Streams}

/-! ## Taking the document apart -/

theorem documentSettings_saved (lawful : rules.Lawful) (valid : settings.Valid rules) :
    documentSettings rules (savedDocument settings styles streams) = .ok settings := by
  have found : Assoc.get? "editor" (savedDocument settings styles streams) =
      some (.table settings.saved) := by
    cases streams <;> rfl
  simp only [documentSettings, found, Settings.check_saved lawful valid]
  rfl

theorem shownStyles_saved (styles : Theme) :
    shownStyles limits (styles.map styleEntry) = .ok styles := by
  induction styles with
  | nil => rfl
  | cons style styles ih =>
      rw [List.map_cons, styleEntry, shownStyles, ih]
      rfl

theorem documentStyles_saved :
    documentStyles limits (savedDocument settings styles streams) =
      .ok (Assoc.update Theme.default styles) := by
  have found : (Assoc.get? "theme" (savedDocument settings styles streams)).bind (·.get? "styles") =
      some (.table (styles.map styleEntry)) := by
    cases streams <;> rfl
  simp only [documentStyles, found, shownStyles_saved]
  rfl

theorem check_fieldTable (lawful : rules.Lawful) (field : SchemaField) :
    SchemaField.check rules (fieldTable field) = .ok field := by
  have name : SchemaField.checkName rules (.string field.name) = .ok field.name := by
    rw [SchemaField.checkName, lawful.string]
    rfl
  have dataType : SchemaField.checkType rules (.string field.dataType) = .ok field.dataType := by
    show Checked.byRule (rules.string (.string field.dataType)) = _
    rw [lawful.string]
    rfl
  simp [SchemaField.check, fieldTable, Checked.table, Checked.field, Assoc.get?, name, dataType,
    Checked.within, Checked.both, Except.map]

theorem items_fieldTable (lawful : rules.Lawful) (fields : List SchemaField) (first : Nat) :
    Checked.items (SchemaField.check rules) first (fields.map fieldTable) = .ok fields := by
  induction fields generalizing first with
  | nil => rfl
  | cons field fields ih =>
      rw [List.map_cons, Checked.items, check_fieldTable lawful, ih]
      rfl

/-- Both forms of a stream give the tables of its fields. -/
theorem streamItems?_streamValue (fields : List SchemaField) :
    streamItems? (streamValue fields) = some (fields.map fieldTable) := by
  cases fields with
  | nil => rfl
  | cons field fields =>
      have tables : ∀ item ∈ (field :: fields).map fieldTable, item.entries?.isSome = true := by
        intro item member
        obtain ⟨other, _, rfl⟩ := List.mem_map.mp member
        rfl
      exact congrArg some (List.filter_eq_self.mpr tables)

theorem checkStreams_saved (lawful : rules.Lawful) (streams : Streams) :
    checkStreams rules ((streams.map streamEntry).filterMap fun (name, value) =>
      (streamItems? value).map fun items => (name, items)) = .ok streams := by
  induction streams with
  | nil => rfl
  | cons stream streams ih =>
      simp only [List.map_cons, List.filterMap_cons, streamEntry, streamItems?_streamValue,
        Option.map_some, checkStreams, items_fieldTable lawful, ih]
      rfl

theorem documentStreams_saved (lawful : rules.Lawful) :
    documentStreams rules (savedDocument settings styles streams) = .ok streams := by
  cases streams with
  | nil => rfl
  | cons stream streams =>
      have found : Assoc.get? "streams" (savedDocument settings styles (stream :: streams)) =
          some (.table ((stream :: streams).map streamEntry)) := rfl
      simp only [documentStreams, found, checkStreams_saved lawful]
      rfl

theorem ofDocument_saved (lawful : rules.Lawful) (valid : settings.Valid rules) :
    ofDocument rules limits (savedDocument settings styles streams) =
      .ok (.ok ⟨settings, Assoc.update Theme.default styles, streams⟩) := by
  rw [ofDocument, documentStyles_saved, documentSettings_saved lawful valid,
    documentStreams_saved lawful]
  rfl

/-! ## Loading -/

theorem fromUTF8?_toUTF8 (s : String) : String.fromUTF8? s.toUTF8 = some s := by
  unfold String.fromUTF8?
  split
  · rfl
  · exact absurd s.isValidUTF8 ‹_›

/-- A text whose document describes a configuration is loaded as that. -/
theorem load_text {text : List Char} {document : Entries} {config : Config}
    (isRead : Toml.read limits.reading text = .ok document)
    (described : ofDocument rules limits document = .ok (.ok config)) :
    load rules limits (.content (String.ofList text).toUTF8) = .ok (config, []) := by
  simp only [load, fromUTF8?_toUTF8, String.toList_ofList, ofText, isRead, described]
  rfl

/-- What is loaded from the file of a configuration. -/
def reloaded (config : Config) : Config :=
  ⟨config.editor, Assoc.update Theme.default (byName config.styles), byName config.streams⟩

theorem writable_of_valid (valid : settings.Valid rules)
    (limit : (toString settings.maxSuggestions.natAbs).length ≤ Text.maxDigits)
    (threshold : (toString settings.offloadThreshold.natAbs).length ≤ Text.maxDigits)
    (delay : readScalar (writtenFloat settings.debounceDelay).toList =
      .ok (.float settings.debounceDelay, [])) : Writable settings where
  limit := ⟨Int.le_trans (by decide) valid.limit, limit⟩
  threshold := ⟨valid.threshold, threshold⟩
  delay := delay

theorem load_saved {config : Config} (lawful : rules.Lawful) (limits : Limits)
    (valid : config.editor.Valid rules) (writable : Writable config.editor)
    (distinctStyles : (Assoc.keys config.styles).Nodup)
    (distinctStreams : (Assoc.keys config.streams).Nodup) :
    ∃ text, config.save = .ok text ∧
      load rules limits (.content (String.ofList text).toUTF8) = .ok (config.reloaded, []) := by
  have isRead := read_saved writable (nodup_byName distinctStyles) (nodup_byName distinctStreams)
    limits.reading
  exact ⟨_, save_eq writable, load_text isRead (ofDocument_saved lawful valid)⟩

/-! ## Comparing -/

theorem sameEntries_of_get? {α : Type} [DecidableEq α] {a b : List (String × α)}
    (distinct : (Assoc.keys a).Nodup) (distinct' : (Assoc.keys b).Nodup)
    (same : ∀ key, Assoc.get? key a = Assoc.get? key b) : sameEntries a b = true := by
  have length : a.length = b.length := (Assoc.perm_of_get? distinct distinct' same).length_eq
  refine Bool.and_eq_true_iff.mpr ⟨beq_iff_eq.mpr length, List.all_eq_true.mpr ?_⟩
  rintro ⟨key, value⟩ member
  have found : Assoc.get? key b = some value := by
    rw [← same, Assoc.get?_of_mem distinct member]
  exact beq_iff_eq.mpr found

theorem sameSetting_float {x : Float} (delay : Settings.isDuration x = true) :
    sameSetting (.float x) (.float x) = true := by
  unfold Settings.isDuration at delay
  cases decoded : Binary64.decode x with
  | nan =>
      rw [decoded] at delay
      cases delay
  | infinite => simp [sameSetting, amount?, decoded]
  | finite => simp [sameSetting, amount?, decoded]

theorem agrees_of_sameEntries {config : Config}
    (delay : Settings.isDuration config.editor.debounceDelay = true)
    (stylesAgree : sameEntries config.styles styles = true)
    (streamsAgree : sameEntries config.streams streams = true) :
    config.agrees (rawSettings config.editor) styles streams = true := by
  have limit (n : Int) : sameSetting (.int n) (.int n) = true := by simp [sameSetting, amount?]
  have dialect (s : String) : sameSetting (.string s) (.string s) = true := by simp [sameSetting]
  simp only [agrees, rawSettings, limit, sameSetting_float delay, dialect, stylesAgree,
    streamsAgree, Bool.and_true]

theorem get?_reloaded_styles {config : Config} (distinct : (Assoc.keys config.styles).Nodup)
    (name : String) : Assoc.get? name config.reloaded.styles =
      (Assoc.get? name config.styles).or (Assoc.get? name Theme.default) := by
  rw [reloaded, Assoc.get?_update (nodup_byName distinct),
    Assoc.get?_perm (nodup_byName distinct) (byName_perm config.styles)]

theorem get?_reloaded_streams {config : Config} (distinct : (Assoc.keys config.streams).Nodup)
    (stream : String) : Assoc.get? stream config.reloaded.streams =
      Assoc.get? stream config.streams :=
  Assoc.get?_perm (nodup_byName distinct) (byName_perm config.streams)

theorem nodup_reloaded_styles (config : Config) : (Assoc.keys config.reloaded.styles).Nodup :=
  Assoc.nodup_update (by decide)

theorem sameEntries_reloaded_styles {config : Config}
    (distinct : (Assoc.keys config.styles).Nodup) :
    sameEntries config.reloaded.styles (Assoc.update Theme.default config.styles) = true := by
  refine sameEntries_of_get? (nodup_reloaded_styles config) (Assoc.nodup_update (by decide)) ?_
  intro name
  rw [get?_reloaded_styles distinct, Assoc.get?_update distinct]

/-- A theme with every usual name is loaded as it was. -/
theorem get?_reloaded_styles_of_subset {config : Config}
    (distinct : (Assoc.keys config.styles).Nodup)
    (all : Assoc.keys Theme.default ⊆ Assoc.keys config.styles) (name : String) :
    Assoc.get? name config.reloaded.styles = Assoc.get? name config.styles := by
  rw [get?_reloaded_styles distinct]
  cases found : Assoc.get? name config.styles with
  | some look => rfl
  | none =>
      have absent : name ∉ Assoc.keys Theme.default := fun isUsual =>
        Assoc.get?_ne_none (all isUsual) found
      exact Assoc.get?_eq_none absent

theorem sameEntries_reloaded_styles_of_subset {config : Config}
    (distinct : (Assoc.keys config.styles).Nodup)
    (all : Assoc.keys Theme.default ⊆ Assoc.keys config.styles) :
    sameEntries config.reloaded.styles config.styles = true :=
  sameEntries_of_get? (nodup_reloaded_styles config) distinct
    (get?_reloaded_styles_of_subset distinct all)

/-! ## The round trip -/

/-- A configuration that is saved is loaded again, with its styles over the usual ones. -/
theorem load_save {rules : Rules} (lawful : rules.Lawful) (limits : Limits) {config : Config}
    {value : Value} (checked : Settings.check rules value = .ok config.editor)
    (limit : (toString config.editor.maxSuggestions.natAbs).length ≤ Text.maxDigits)
    (threshold : (toString config.editor.offloadThreshold.natAbs).length ≤ Text.maxDigits)
    (delay : readScalar (writtenFloat config.editor.debounceDelay).toList =
      .ok (.float config.editor.debounceDelay, []))
    (distinctStyles : (Assoc.keys config.styles).Nodup)
    (distinctStreams : (Assoc.keys config.streams).Nodup) :
    ∃ text loaded, config.save = .ok text ∧
      load rules limits (.content (String.ofList text).toUTF8) = .ok (loaded, []) ∧
      loaded.editor = config.editor ∧
      (∀ name, Assoc.get? name loaded.styles =
        (Assoc.get? name config.styles).or (Assoc.get? name Theme.default)) ∧
      (∀ stream, Assoc.get? stream loaded.streams = Assoc.get? stream config.streams) ∧
      loaded.agrees (rawSettings config.editor) (Assoc.update Theme.default config.styles)
        config.streams = true ∧
      (Assoc.keys Theme.default ⊆ Assoc.keys config.styles →
        loaded.agrees (rawSettings config.editor) config.styles config.streams = true) := by
  have valid := Settings.valid_of_check lawful checked
  obtain ⟨text, isSaved, isLoaded⟩ :=
    load_saved lawful limits valid (writable_of_valid valid limit threshold delay) distinctStyles
      distinctStreams
  have streams := get?_reloaded_streams distinctStreams
  have sameStreams : sameEntries config.reloaded.streams config.streams = true :=
    sameEntries_of_get? (nodup_byName distinctStreams) distinctStreams streams
  refine ⟨text, config.reloaded, isSaved, isLoaded, rfl, get?_reloaded_styles distinctStyles,
    streams, ?_, fun all => ?_⟩
  · exact agrees_of_sameEntries valid.delay (sameEntries_reloaded_styles distinctStyles) sameStreams
  · exact agrees_of_sameEntries valid.delay
      (sameEntries_reloaded_styles_of_subset distinctStyles all)
      sameStreams

/-- Settings, styles and streams that are hard to write: names with quotes, dots, backslashes and
control characters, an empty name, and a stream without fields. -/
def hostile : Config where
  editor := ⟨7, 0.25, 0, " postgres "⟩
  styles := Theme.default ++ [("a.\"b\"", "bold\n[theme]"), ("", "\\u0041\x7f")]
  streams := [("", []), ("x.\"]]\t\\", [⟨"name", "Int"⟩, ⟨"", "\r\n"⟩]), ("a", [⟨"#", "= 1"⟩])]

theorem load_save_hostile :
    Rules.usual.Lawful ∧
      Settings.check .usual (.table hostile.editor.saved) = .ok hostile.editor ∧
      readScalar (writtenFloat hostile.editor.debounceDelay).toList =
        .ok (.float hostile.editor.debounceDelay, []) ∧
      ∃ text loaded, hostile.save = .ok text ∧
        load .usual .usual (.content (String.ofList text).toUTF8) = .ok (loaded, []) ∧
        loaded.agrees (rawSettings hostile.editor) hostile.styles hostile.streams = true := by
  have checked : Settings.check .usual (.table hostile.editor.saved) = .ok hostile.editor := rfl
  have delay : readScalar (writtenFloat hostile.editor.debounceDelay).toList =
      .ok (.float hostile.editor.debounceDelay, []) := rfl
  obtain ⟨text, loaded, isSaved, isLoaded, _, _, _, _, agrees⟩ :=
    load_save Rules.lawful_usual .usual checked (by decide) (by decide) delay (by decide)
      (by decide)
  exact ⟨Rules.lawful_usual, checked, delay, text, loaded, isSaved, isLoaded, agrees (by decide)⟩

end Config

end SqlAssist
