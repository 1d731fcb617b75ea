import SqlAssist.Proofs.ConfigFile
import SqlAssist.Proofs.ReaderBounds

/-!
# Loaded configurations

Loading a file ends in one of three ways (`load_fallsBack`): with the configuration that the file
describes, with the usual one if it describes none, or with an error. An error has one of the causes
that `File.Unloadable` lists: the bytes are no text, there is a long number in the text, its values
or styles are nested too deep, or the rule on dialects breaks off. What a file describes does not
hang on the limits of the stack (`File.Describes`).

* **showing** — a sound value without numbers that are too long can be shown
  (`Value.shown?_isSome`), and only a style that cannot be shown stands in the way of a document
  (`ofDocument_error`);
* **ways** — `Reading` lists how a text can be loaded; the lemmas on loading take it apart;
* **well-formed** — a loaded configuration has checked settings and each usual style, and each name
  in it stands once (`wellFormed_of_load`);
* **round trip** — so it comes back when it is saved and loaded again (`load_save_load`).
-/
namespace SqlAssist

/-! ## Showing values -/

namespace Value

theorem describedItems?_isSome {items : List Value}
    (each : ∀ item ∈ items, (described? item).isSome = true) :
    (describedItems? items).isSome = true := by
  induction items with
  | nil => rfl
  | cons item rest ih =>
      obtain ⟨here, later⟩ := List.forall_mem_cons.mp each
      obtain ⟨text, isText⟩ := Option.isSome_iff_exists.mp here
      obtain ⟨texts, areTexts⟩ := Option.isSome_iff_exists.mp (ih later)
      rw [describedItems?, isText, areTexts]
      rfl

theorem describedEntries?_isSome {entries : List (String × Value)}
    (each : ∀ entry ∈ entries, (described? entry.2).isSome = true) :
    (describedEntries? entries).isSome = true := by
  induction entries with
  | nil => rfl
  | cons entry rest ih =>
      obtain ⟨here, later⟩ := List.forall_mem_cons.mp each
      obtain ⟨text, isText⟩ := Option.isSome_iff_exists.mp here
      obtain ⟨texts, areTexts⟩ := Option.isSome_iff_exists.mp (ih later)
      rw [describedEntries?, isText, areTexts]
      rfl

/-- The whole number can be shown. -/
abbrev IsShown (n : Int) : Prop := (shownInt? n).isSome = true

theorem described?_isSome {value : Value} (sound : Toml.Sound IsShown value) :
    (described? value).isSome = true := by
  induction sound with
  | @simple value noContainer number =>
      cases value with
      | int n =>
          rw [described?]
          exact number n rfl
      | list | table => cases noContainer
      | null | bool | float | string | moment => rfl
  | list _ ih =>
      rw [described?, Option.isSome_map]
      exact describedItems?_isSome ih
  | table _ _ ih =>
      rw [described?, Option.isSome_map]
      exact describedEntries?_isSome ih

theorem shown?_isSome {value : Value} (sound : Toml.Sound IsShown value) :
    value.shown?.isSome = true := by
  unfold shown?
  split
  · rfl
  · rfl
  · exact described?_isSome sound

/-- A sound value of a text that cannot be shown comes from a long number. -/
theorem hasLongNumber_of_shown? {text : List Char} {value : Value}
    (sound : Toml.Sound (Toml.Fits text) value) (notShown : value.shown? = none) :
    Toml.HasLongNumber text := by
  by_contra short
  have isShown := shown?_isSome (sound.mono fun n fits => fits.resolve_left short)
  rw [notShown] at isShown
  cases isShown

theorem exists_entries {value found : Value} {key : String}
    (isFound : value.get? key = some found) :
    ∃ entries, value = .table entries ∧ Assoc.get? key entries = some found := by
  cases value with
  | table entries => exact ⟨entries, rfl, isFound⟩
  | null | bool | int | float | string | moment | list => cases isFound

end Value

namespace Config

open Toml

variable {rules : Rules} {limits : Limits} {file : File} {config : Config} {log : List LogEntry}
  {document : Entries}

/-! ## Documents -/

/-- The document gives the styles. -/
def GivesStyles (document styles : Entries) : Prop :=
  (Assoc.get? "theme" document).bind (·.get? "styles") = some (.table styles)

/-- The document gives the value as its dialect. -/
def GivesDialect (document : Entries) (value : Value) : Prop :=
  (Assoc.get? "editor" document).bind (·.get? "dialect") = some value

/-- Why a value cannot be shown as a style. -/
inductive NotShown (limits : Limits) (value : Value) : LoadError → Prop
  | longNumber (notShown : value.shown? = none) : NotShown limits value .tooManyDigits
  | deep (isDeep : limits.showing < value.depth) : NotShown limits value .tooDeep

theorem shownLook_error {value : Value} {error : LoadError}
    (failed : shownLook limits value = .error error) : NotShown limits value error := by
  unfold shownLook at failed
  split at failed
  · cases failed
    exact .deep (by assumption)
  · split at failed
    · cases failed
    · cases failed
      exact .longNumber (by assumption)

theorem shown?_of_shownLook {value : Value} {look : String}
    (shown : shownLook limits value = .ok look) : value.shown? = some look := by
  unfold shownLook at shown
  split at shown
  · cases shown
  · split at shown
    · cases shown
      assumption
    · cases shown

theorem shownStyles_error {styles : Entries} {error : LoadError}
    (failed : shownStyles limits styles = .error error) :
    ∃ style ∈ styles, NotShown limits style.2 error := by
  induction styles with
  | nil => cases failed
  | cons style rest ih =>
      rw [shownStyles] at failed
      cases here : shownLook limits style.2 with
      | error reason =>
          rw [here] at failed
          cases failed
          exact ⟨style, List.mem_cons_self, shownLook_error here⟩
      | ok look =>
          rw [here] at failed
          cases later : shownStyles limits rest with
          | ok theme =>
              rw [later] at failed
              cases failed
          | error reason =>
              rw [later] at failed
              cases failed
              obtain ⟨style', member, notShown⟩ := ih later
              exact ⟨style', List.mem_cons_of_mem style member, notShown⟩

theorem shownStyles_ok {styles : Entries} {theme : Theme}
    (shown : shownStyles limits styles = .ok theme) :
    theme.map (fun style => (style.1, some style.2)) =
      styles.map fun style => (style.1, style.2.shown?) := by
  induction styles generalizing theme with
  | nil =>
      cases shown
      rfl
  | cons style rest ih =>
      rw [shownStyles] at shown
      cases here : shownLook limits style.2 with
      | error reason =>
          rw [here] at shown
          cases shown
      | ok look =>
          rw [here] at shown
          cases later : shownStyles limits rest with
          | error reason =>
              rw [later] at shown
              cases shown
          | ok theme' =>
              rw [later] at shown
              cases shown
              rw [List.map_cons, List.map_cons, ih later, shown?_of_shownLook here]

theorem documentStyles_cases (limits : Limits) (document : Entries) :
    documentStyles limits document = .ok Theme.default ∧ (∀ styles, ¬ GivesStyles document styles) ∨
      ∃ styles, GivesStyles document styles ∧
        documentStyles limits document =
          (shownStyles limits styles).map (Assoc.update Theme.default) := by
  unfold documentStyles
  split
  · rename_i styles found
    exact .inr ⟨styles, found, rfl⟩
  · rename_i noStyles
    exact .inl ⟨rfl, noStyles⟩

theorem sound_of_givesStyles {fits : Int → Prop} {styles : Entries}
    (sound : Sound fits (.table document)) (gives : GivesStyles document styles) :
    Sound fits (.table styles) := by
  obtain ⟨value, isTheme, inTheme⟩ := Option.bind_eq_some_iff.mp gives
  obtain ⟨theme, rfl, isStyles⟩ := Value.exists_entries inTheme
  exact (sound.get? isTheme).get? isStyles

/-- Only a style that cannot be shown stands in the way of a document. -/
theorem ofDocument_error {error : LoadError}
    (failed : ofDocument rules limits document = .error error) :
    ∃ styles, GivesStyles document styles ∧ ∃ style ∈ styles, NotShown limits style.2 error := by
  rcases documentStyles_cases limits document with ⟨usual, _⟩ | ⟨styles, gives, same⟩
  · rw [ofDocument, usual] at failed
    cases failed
  · cases shown : shownStyles limits styles with
    | ok looks =>
        rw [ofDocument, same, shown] at failed
        cases failed
    | error reason =>
        rw [ofDocument, same, shown] at failed
        cases failed
        exact ⟨styles, gives, shownStyles_error shown⟩

/-- The limits have no part in the styles that are shown. -/
theorem documentStyles_unique {limits' : Limits} {styles styles' : Theme}
    (shown : documentStyles limits document = .ok styles)
    (shown' : documentStyles limits' document = .ok styles') : styles = styles' := by
  rcases documentStyles_cases limits document with ⟨usual, none⟩ | ⟨given, gives, same⟩
  · rcases documentStyles_cases limits' document with ⟨usual', _⟩ | ⟨given', gives', _⟩
    · cases usual.symm.trans shown
      cases usual'.symm.trans shown'
      rfl
    · exact absurd gives' (none given')
  · rcases documentStyles_cases limits' document with ⟨_, none'⟩ | ⟨given', gives', same'⟩
    · exact absurd gives (none' given)
    · cases gives.symm.trans gives'
      obtain ⟨theme, isTheme, rfl⟩ := Checked.map_eq_ok (same.symm.trans shown)
      obtain ⟨theme', isTheme', rfl⟩ := Checked.map_eq_ok (same'.symm.trans shown')
      have looks := (shownStyles_ok isTheme).trans (shownStyles_ok isTheme').symm
      have injective : Function.Injective fun style : String × String =>
          (style.1, some style.2) := by
        rintro ⟨name, look⟩ ⟨name', look'⟩ alike
        simpa using alike
      rw [List.map_injective_iff.mpr injective looks]

/-- A document gives one result, whatever the limits are. -/
theorem ofDocument_unique {limits' : Limits} {checked checked' : Checked Config}
    (isOk : ofDocument rules limits document = .ok checked)
    (isOk' : ofDocument rules limits' document = .ok checked') : checked = checked' := by
  obtain ⟨styles, shown, rfl⟩ := Checked.map_eq_ok isOk
  obtain ⟨styles', shown', rfl⟩ := Checked.map_eq_ok isOk'
  rw [documentStyles_unique shown shown']

theorem checkStreams_ne_brokenOff (items : List (String × List Value)) :
    checkStreams rules items ≠ .error .brokenOff := by
  induction items with
  | nil => exact Checked.ok_ne_brokenOff
  | cons item rest ih =>
      intro broken
      rcases Checked.both_eq_brokenOff (Checked.map_eq_brokenOff broken) with here | later
      · obtain ⟨value, same⟩ := Checked.items_eq_brokenOff (Checked.within_eq_brokenOff here)
        exact SchemaField.check_ne_brokenOff rules value same
      · exact ih later

/-- Only the rule on dialects can break off the checks of a document. -/
theorem exists_dialect_of_ofDocument
    (broken : ofDocument rules limits document = .ok (.error .brokenOff)) :
    ∃ value name, GivesDialect document value ∧ rules.string value = .ok name ∧
      rules.dialect name = .brokenOff := by
  obtain ⟨styles, _, same⟩ := Checked.map_eq_ok broken
  rcases Checked.both_eq_brokenOff (Checked.map_eq_brokenOff same) with here | here
  · unfold documentSettings at here
    split at here
    · rename_i settings isEditor
      obtain ⟨value, name, isGiven, taken, isBroken⟩ :=
        Settings.exists_dialect_of_brokenOff (Checked.within_eq_brokenOff here)
      refine ⟨value, name, ?_, taken, isBroken⟩
      rw [GivesDialect, isEditor]
      exact isGiven
    · exact absurd here Checked.ok_ne_brokenOff
  · unfold documentStreams at here
    split at here
    · exact absurd (Checked.within_eq_brokenOff here) (checkStreams_ne_brokenOff _)
    · exact absurd here Checked.ok_ne_brokenOff

/-! ## How loading ends -/

/-- The file is a text that is a document, and the document describes the configuration: it is
loaded if the limits leave room for it. -/
def File.Describes (rules : Rules) (file : File) (config : Config) : Prop :=
  ∃ limits bytes text document, file = .content bytes ∧ String.fromUTF8? bytes = some text ∧
    Toml.read limits.reading text.toList = .ok document ∧
    ofDocument rules limits document = .ok (.ok config)

/-- Why a file cannot be loaded. -/
inductive File.Unloadable (rules : Rules) (limits : Limits) : File → LoadError → Prop
  | notText {bytes : ByteArray} (invalid : String.fromUTF8? bytes = none) :
      Unloadable rules limits (.content bytes) .notText
  | longNumber {bytes : ByteArray} {text : String} (decoded : String.fromUTF8? bytes = some text)
      (long : HasLongNumber text.toList) : Unloadable rules limits (.content bytes) .tooManyDigits
  | manyBrackets {bytes : ByteArray} {text : String} (decoded : String.fromUTF8? bytes = some text)
      (many : limits.reading < brackets text.toList) :
      Unloadable rules limits (.content bytes) .tooDeep
  | deepStyle {bytes : ByteArray} {text : String} {document styles : Entries}
      {style : String × Value} (decoded : String.fromUTF8? bytes = some text)
      (isRead : Toml.read limits.reading text.toList = .ok document)
      (gives : GivesStyles document styles) (member : style ∈ styles)
      (deep : limits.showing < style.2.depth) : Unloadable rules limits (.content bytes) .tooDeep
  | brokenOff {bytes : ByteArray} {text : String} {document : Entries} {value : Value}
      {name : String} (decoded : String.fromUTF8? bytes = some text)
      (isRead : Toml.read limits.reading text.toList = .ok document)
      (gives : GivesDialect document value) (taken : rules.string value = .ok name)
      (broken : rules.dialect name = .brokenOff) :
      Unloadable rules limits (.content bytes) .brokenOff

/-- The ways in which a text can be loaded. -/
inductive Reading (rules : Rules) (limits : Limits) (text : List Char) :
    Except LoadError (Config × List LogEntry) → Prop
  | malformed (isRead : Toml.read limits.reading text = .error .malformed) :
      Reading rules limits text (.ok ({}, [.unreadableConfig]))
  | tooManyDigits (isRead : Toml.read limits.reading text = .error .tooManyDigits) :
      Reading rules limits text (.error .tooManyDigits)
  | tooDeep (isRead : Toml.read limits.reading text = .error .tooDeep) :
      Reading rules limits text (.error .tooDeep)
  | notShown {document : Entries} {error : LoadError}
      (isRead : Toml.read limits.reading text = .ok document)
      (failed : ofDocument rules limits document = .error error) :
      Reading rules limits text (.error error)
  | invalid {document : Entries} {found : List Problem}
      (isRead : Toml.read limits.reading text = .ok document)
      (failed : ofDocument rules limits document = .ok (.error (.problems found))) :
      Reading rules limits text (.ok ({}, [.invalidConfig]))
  | brokenOff {document : Entries} (isRead : Toml.read limits.reading text = .ok document)
      (failed : ofDocument rules limits document = .ok (.error .brokenOff)) :
      Reading rules limits text (.error .brokenOff)
  | described {document : Entries} {config : Config}
      (isRead : Toml.read limits.reading text = .ok document)
      (described : ofDocument rules limits document = .ok (.ok config)) :
      Reading rules limits text (.ok (config, []))

theorem reading_ofText (rules : Rules) (limits : Limits) (text : List Char) :
    Reading rules limits text (ofText rules limits text) := by
  cases isRead : Toml.read limits.reading text with
  | error reason =>
      cases reason with
      | malformed =>
          simp only [ofText, isRead]
          exact .malformed isRead
      | tooManyDigits =>
          simp only [ofText, isRead]
          exact .tooManyDigits isRead
      | tooDeep =>
          simp only [ofText, isRead]
          exact .tooDeep isRead
  | ok document =>
      cases checked : ofDocument rules limits document with
      | error reason =>
          simp only [ofText, isRead, checked]
          exact .notShown isRead checked
      | ok found =>
          simp only [ofText, isRead, checked]
          cases found with
          | ok config => exact .described isRead checked
          | error rejection =>
              cases rejection with
              | problems found => exact .invalid isRead checked
              | brokenOff => exact .brokenOff isRead checked

theorem sound_of_read {depth : Nat} {text : List Char}
    (isRead : Toml.read depth text = .ok document) : Sound (Fits text) (.table document) := by
  have outcome := read_outcome depth text
  rw [isRead] at outcome
  cases outcome with
  | ok sound => exact sound

theorem unloadable_of_ofText {bytes : ByteArray} {text : String} {error : LoadError}
    (decoded : String.fromUTF8? bytes = some text)
    (failed : ofText rules limits text.toList = .error error) :
    File.Unloadable rules limits (.content bytes) error := by
  have reading := reading_ofText rules limits text.toList
  have outcome := read_outcome limits.reading text.toList
  rw [failed] at reading
  cases reading with
  | tooManyDigits isRead =>
      rw [isRead] at outcome
      cases outcome with
      | tooManyDigits isLong => exact .longNumber decoded isLong
  | tooDeep isRead =>
      rw [isRead] at outcome
      cases outcome with
      | tooDeep isDeep => exact .manyBrackets decoded isDeep
  | notShown isRead stopped =>
      obtain ⟨styles, gives, style, member, notShown⟩ := ofDocument_error stopped
      cases notShown with
      | longNumber notShown =>
          have sound := (sound_of_givesStyles (sound_of_read isRead) gives).each style member
          exact .longNumber decoded (Value.hasLongNumber_of_shown? sound notShown)
      | deep isDeep => exact .deepStyle decoded isRead gives member isDeep
  | brokenOff isRead brokeOff =>
      obtain ⟨value, name, gives, taken, broken⟩ := exists_dialect_of_ofDocument brokeOff
      exact .brokenOff decoded isRead gives taken broken

theorem ofText_ok {text : List Char} (loaded : ofText rules limits text = .ok (config, log)) :
    (∃ document, Toml.read limits.reading text = .ok document ∧
      ofDocument rules limits document = .ok (.ok config) ∧ log = []) ∨
    (config = {} ∧ log ≠ [] ∧ ∀ (limits' : Limits) document,
      Toml.read limits'.reading text = .ok document →
      ∀ other, ofDocument rules limits' document ≠ .ok (.ok other)) := by
  have reading := reading_ofText rules limits text
  rw [loaded] at reading
  cases reading with
  | malformed isRead =>
      refine .inr ⟨rfl, List.cons_ne_nil _ _, fun limits' document isDocument => ?_⟩
      cases read_unique isRead isDocument (by simp) (by simp)
  | @invalid read found isRead failed =>
      refine .inr ⟨rfl, List.cons_ne_nil _ _, fun limits' document isDocument other isOther => ?_⟩
      cases read_unique isRead isDocument (by simp) (by simp)
      cases ofDocument_unique failed isOther
  | described isRead described => exact .inl ⟨_, isRead, described, rfl⟩

theorem unloadable_of_load {error : LoadError} (failed : load rules limits file = .error error) :
    file.Unloadable rules limits error := by
  cases file with
  | missing | directory => cases failed
  | content bytes =>
      cases decoded : String.fromUTF8? bytes with
      | none =>
          rw [load, decoded] at failed
          cases failed
          exact .notText decoded
      | some text =>
          rw [load, decoded] at failed
          exact unloadable_of_ofText decoded failed

/-- A configuration that is loaded is the one that the file describes; if there is none, it is the
usual one, and all but a missing file is noted. -/
theorem describes_of_load (loaded : load rules limits file = .ok (config, log)) :
    (file.Describes rules config ∧ log = []) ∨
      (config = {} ∧ (∀ other, ¬ file.Describes rules other) ∧ (log = [] ↔ file = .missing)) := by
  cases file with
  | missing | directory =>
      cases loaded
      refine .inr ⟨rfl, ?_, by simp⟩
      rintro other ⟨_, bytes, text, document, isContent, _⟩
      cases isContent
  | content bytes =>
      cases decoded : String.fromUTF8? bytes with
      | none =>
          rw [load, decoded] at loaded
          cases loaded
      | some text =>
          rw [load, decoded] at loaded
          rcases ofText_ok loaded with ⟨document, isRead, isConfig, isLog⟩ | ⟨rfl, noted, none⟩
          · exact .inl ⟨⟨limits, bytes, text, document, rfl, decoded, isRead, isConfig⟩, isLog⟩
          · refine .inr ⟨rfl, ?_, by simp [noted]⟩
            rintro other ⟨limits', _, text', document, ⟨⟩, isText, isRead, isOther⟩
            cases decoded.symm.trans isText
            exact none limits' document isRead other isOther

/-! ## Files that cannot be loaded -/

theorem maxDigits_lt_length {n : Nat} (large : 10 ^ Text.maxDigits ≤ n) :
    Text.maxDigits < (Nat.toDigits 10 n).length := by
  by_contra short
  have below : Text.digitsValue (Nat.toDigits 10 n) < 10 ^ (Nat.toDigits 10 n).length * (0 + 1) :=
    foldl_digits_lt (fun c member => digitValue_lt (isDigit_of_mem_toDigits n c member)) 0
  rw [Text.digitsValue_toDigits, Nat.zero_add, Nat.mul_one] at below
  have power : 10 ^ (Nat.toDigits 10 n).length ≤ 10 ^ Text.maxDigits :=
    Nat.pow_le_pow_right (by decide) (Nat.le_of_not_lt short)
  exact absurd below (Nat.not_lt.mpr (power.trans large))

/-- A line on which a value cannot be read ends the reading of the document. -/
theorem read_line_error {keyText valueText : List Char} {key : Key} {depth : Nat} {error : Error}
    (spells : Spells keyText key) (starts : ∃ c more, valueText = c :: more ∧ isBlank c = false)
    (plain : '\r' ∉ keyText ++ valueText)
    (failed : readValue depth (valueText ++ ['\n']) = .error error) :
    Toml.read depth (keyText ++ ([' ', '=', ' '] ++ (valueText ++ ['\n']))) = .error error := by
  have statement := readStatement_eq depth {} spells starts []
  rw [failed] at statement
  have noReturn : '\r' ∉ keyText ++ ([' ', '=', ' '] ++ (valueText ++ ['\n'])) := by
    simpa using plain
  obtain ⟨c, more, rfl, visible, _, _, notEnd⟩ := spells.visible
  simp only [Toml.read, plainLines_eq noReturn]
  rw [List.cons_append, readStatements_visible visible notEnd, ← List.cons_append, statement]
  rfl

theorem not_mem_of_isBare {name : String}
    (bare : name.toList.all isBare = true) : '\r' ∉ name.toList := by
  intro member
  have isBare := List.all_eq_true.mp bare '\r' member
  cases isBare

theorem read_largeNumber {name : String} {n : Nat} (bare : name.toList.all isBare = true)
    (nonempty : name ≠ "") (large : 10 ^ Text.maxDigits ≤ n) (depth : Nat) :
    Toml.read depth (name ++ " = " ++ toString n ++ "\n").toList = .error .tooManyDigits := by
  have number := numberText_toDigits n
  have starts : ∃ c more, Nat.toDigits 10 n = c :: more ∧ isBlank c = false := by
    cases digits : Nat.toDigits 10 n with
    | nil => exact absurd digits Nat.toDigits_ne_nil
    | cons c more =>
        exact ⟨c, more, rfl, isBlank_of_isNumberChar (number c (digits ▸ List.mem_cons_self))⟩
  have failed : readValue depth (Nat.toDigits 10 n ++ ['\n']) = .error .tooManyDigits := by
    rw [readValue_number number, readScalar_eq, if_pos (maxDigits_lt_length large)]
    rfl
  have plain : '\r' ∉ name.toList ++ Nat.toDigits 10 n := by
    simp [not_mem_of_isBare bare, not_mem_digits (c := '\r') rfl (isDigit_of_mem_toDigits n)]
  simpa using read_line_error (spells_name bare nonempty) starts plain failed

/-- A list in a list and so on, as deep as the count says. -/
def nestedLists (count : Nat) : List Char := List.replicate count '[' ++ List.replicate count ']'

theorem read_nestedLists {name : String} {depth count : Nat} (bare : name.toList.all isBare = true)
    (nonempty : name ≠ "") (deep : depth + 2 ≤ count) :
    Toml.read depth (name ++ " = " ++ String.ofList (nestedLists count) ++ "\n").toList =
      .error .tooDeep := by
  obtain ⟨more, rfl⟩ := Nat.exists_eq_add_of_le deep
  have brackets : nestedLists (depth + 2 + more) = List.replicate (depth + 2) '[' ++
      (List.replicate more '[' ++ List.replicate (depth + 2 + more) ']') := by
    rw [nestedLists, List.replicate_add, List.append_assoc]
  have starts : ∃ c rest, nestedLists (depth + 2 + more) = c :: rest ∧ isBlank c = false := by
    rw [brackets]
    exact ⟨'[', _, rfl, rfl⟩
  have failed : readValue depth (nestedLists (depth + 2 + more) ++ ['\n']) = .error .tooDeep := by
    rw [brackets, List.append_assoc]
    exact readValue_replicate depth _
  have plain : '\r' ∉ name.toList ++ nestedLists (depth + 2 + more) := by
    simp [nestedLists, not_mem_of_isBare bare, List.mem_replicate]
  simpa using read_line_error (spells_name bare nonempty) starts plain failed

theorem load_toUTF8 {text : String} {error : LoadError}
    (failed : ofText rules limits text.toList = .error error) :
    load rules limits (.content text.toUTF8) = .error error := by
  rw [load, fromUTF8?_toUTF8]
  exact failed

/-- Loading ends with what the file describes, or with the usual configuration if it describes
nothing. It fails only for one of the causes of `File.Unloadable`, and there are such files: it
fails on all bytes that are no text, on every large number that is given to a name, and on lists
that are nested deeper than the stack allows, though these are TOML. -/
theorem load_fallsBack (rules : Rules) (limits : Limits) (file : File) :
    ((∃ config, load rules limits file = .ok (config, []) ∧ file.Describes rules config) ∨
      (∃ log, load rules limits file = .ok ({}, log) ∧ (∀ config, ¬ file.Describes rules config) ∧
        (log = [] ↔ file = .missing)) ∨
      ∃ error, load rules limits file = .error error ∧ file.Unloadable rules limits error) ∧
    (∀ bytes, load rules limits (.content bytes) = .error .notText ↔
      String.fromUTF8? bytes = none) ∧
    (∀ (name : String) (n : Nat), name.toList.all isBare = true → name ≠ "" →
      10 ^ Text.maxDigits ≤ n →
      load rules limits (.content (name ++ " = " ++ toString n ++ "\n").toUTF8) =
        .error .tooManyDigits) ∧
    ∀ (name : String) (count : Nat), name.toList.all isBare = true → name ≠ "" →
      limits.reading + 2 ≤ count →
      load rules limits
          (.content (name ++ " = " ++ String.ofList (nestedLists count) ++ "\n").toUTF8) =
        .error .tooDeep := by
  refine ⟨?_, fun bytes => ⟨fun failed => ?_, fun invalid => ?_⟩,
    fun name n bare nonempty large => ?_, fun name count bare nonempty deep => ?_⟩
  · cases result : load rules limits file with
    | error error => exact .inr (.inr ⟨error, rfl, unloadable_of_load result⟩)
    | ok found =>
        rcases describes_of_load result with ⟨describes, noLog⟩ | ⟨usual, none, noted⟩
        · exact .inl ⟨found.1, congrArg _ (Prod.ext rfl noLog), describes⟩
        · exact .inr (.inl ⟨found.2, congrArg _ (Prod.ext usual rfl), none, noted⟩)
  · cases unloadable_of_load failed with
    | notText invalid => exact invalid
  · rw [load, invalid]
  · apply load_toUTF8
    rw [ofText, read_largeNumber bare nonempty large]
  · apply load_toUTF8
    rw [ofText, read_nestedLists bare nonempty deep]

theorem load_fallsBack_usual :
    load .usual .usual (.content ("x" ++ " = " ++ toString (10 ^ Text.maxDigits) ++ "\n").toUTF8) =
        .error .tooManyDigits ∧
      load .usual .usual
          (.content ("x" ++ " = " ++ String.ofList (nestedLists 500) ++ "\n").toUTF8) =
        .error .tooDeep := by
  obtain ⟨_, _, large, deep⟩ := load_fallsBack .usual .usual .missing
  exact ⟨large "x" (10 ^ Text.maxDigits) (by decide) (by decide) (Nat.le_refl _),
    deep "x" 500 (by decide) (by decide) (by decide)⟩

/-- The byte 255 begins no character. -/
theorem load_invalidByte : load .usual .usual (.content ⟨#[255]⟩) = .error .notText := by
  have invalid : String.fromUTF8? ⟨#[255]⟩ = none := by decide
  rw [load, invalid]

/-! ## Well-formed configurations -/

/-- What every configuration that is loaded has. -/
structure WellFormed (rules : Rules) (config : Config) : Prop where
  editor : config.editor.Valid rules
  styles : Assoc.keys Theme.default ⊆ Assoc.keys config.styles
  distinctStyles : (Assoc.keys config.styles).Nodup
  distinctStreams : (Assoc.keys config.streams).Nodup

theorem nodup_default : (Assoc.keys Theme.default).Nodup := by decide

theorem wellFormed_usual (lawful : rules.Lawful) : WellFormed rules {} where
  editor := Settings.valid_usual lawful
  styles := List.Subset.refl _
  distinctStyles := nodup_default
  distinctStreams := List.nodup_nil

theorem valid_of_document (lawful : rules.Lawful) {settings : Settings}
    (checked : documentSettings rules document = .ok settings) : settings.Valid rules := by
  unfold documentSettings at checked
  split at checked
  · exact Settings.valid_of_check lawful (Checked.within_eq_ok checked)
  · cases checked
    exact Settings.valid_usual lawful

theorem styles_of_document {styles : Theme} (shown : documentStyles limits document = .ok styles) :
    ∃ own, styles = Assoc.update Theme.default own := by
  rcases documentStyles_cases limits document with ⟨usual, _⟩ | ⟨given, _, same⟩
  · cases usual.symm.trans shown
    exact ⟨[], rfl⟩
  · obtain ⟨own, _, rfl⟩ := Checked.map_eq_ok (same.symm.trans shown)
    exact ⟨own, rfl⟩

theorem keys_checkStreams {items : List (String × List Value)} {streams : Streams}
    (checked : checkStreams rules items = .ok streams) : Assoc.keys streams = Assoc.keys items := by
  induction items generalizing streams with
  | nil =>
      cases checked
      rfl
  | cons item rest ih =>
      obtain ⟨⟨fields, more⟩, both, rfl⟩ := Checked.map_eq_ok checked
      obtain ⟨_, later⟩ := Checked.both_eq_ok both
      exact congrArg (item.1 :: ·) (ih later)

/-- The streams that are passed over take their names away, and no name is new. -/
theorem keys_streamItems_sublist (streams : Entries) :
    (Assoc.keys (streams.filterMap fun (name, value) =>
      (streamItems? value).map fun items => (name, items))).Sublist (Assoc.keys streams) := by
  induction streams with
  | nil => exact List.Sublist.slnil
  | cons stream rest ih =>
      rw [List.filterMap_cons]
      cases found : streamItems? stream.2 with
      | none =>
          simp only [found]
          exact ih.cons stream.1
      | some items =>
          simp only [found]
          exact ih.cons_cons stream.1

theorem nodup_of_documentStreams {fits : Int → Prop} {streams : Streams}
    (sound : Sound fits (.table document))
    (checked : documentStreams rules document = .ok streams) : (Assoc.keys streams).Nodup := by
  unfold documentStreams at checked
  split at checked
  · rename_i entries found
    rw [keys_checkStreams (Checked.within_eq_ok checked)]
    exact (keys_streamItems_sublist entries).nodup (sound.get? found).distinct
  · cases checked
    exact List.nodup_nil

theorem wellFormed_of_ofDocument (lawful : rules.Lawful) {fits : Int → Prop}
    (sound : Sound fits (.table document))
    (described : ofDocument rules limits document = .ok (.ok config)) :
    config.WellFormed rules := by
  obtain ⟨styles, shown, checked⟩ := Checked.map_eq_ok described
  obtain ⟨⟨editor, streams⟩, both, rfl⟩ := Checked.map_eq_ok checked
  obtain ⟨isEditor, areStreams⟩ := Checked.both_eq_ok both
  obtain ⟨own, rfl⟩ := styles_of_document shown
  exact {
    editor := valid_of_document lawful isEditor
    styles := Assoc.keys_subset_update
    distinctStyles := Assoc.nodup_update nodup_default
    distinctStreams := nodup_of_documentStreams sound areStreams }

theorem wellFormed_of_load (lawful : rules.Lawful)
    (loaded : load rules limits file = .ok (config, log)) : config.WellFormed rules := by
  rcases describes_of_load loaded with ⟨⟨_, _, text, document, _, _, isRead, described⟩, _⟩ |
    ⟨rfl, _⟩
  · exact wellFormed_of_ofDocument lawful (sound_of_read isRead) described
  · exact wellFormed_usual lawful

/-! ## The round trip -/

/-- A configuration that is loaded is well-formed and comes back when it is saved and loaded again,
if its numbers are not too long and its delay is read back as it is written. -/
theorem load_save_load {rules : Rules} (lawful : rules.Lawful) {limits : Limits} {file : File}
    {config : Config} {log : List LogEntry} (loaded : load rules limits file = .ok (config, log)) :
    config.WellFormed rules ∧
      ((toString config.editor.maxSuggestions.natAbs).length ≤ Text.maxDigits →
        (toString config.editor.offloadThreshold.natAbs).length ≤ Text.maxDigits →
        readScalar (writtenFloat config.editor.debounceDelay).toList =
          .ok (.float config.editor.debounceDelay, []) →
        ∀ later : Limits, ∃ text again, config.save = .ok text ∧
          load rules later (.content (String.ofList text).toUTF8) = .ok (again, []) ∧
          again.editor = config.editor ∧
          (∀ name, Assoc.get? name again.styles = Assoc.get? name config.styles) ∧
          (∀ stream, Assoc.get? stream again.streams = Assoc.get? stream config.streams) ∧
          again.agrees (rawSettings config.editor) config.styles config.streams = true) := by
  have wellFormed := wellFormed_of_load lawful loaded
  refine ⟨wellFormed, fun limit threshold delay later => ?_⟩
  obtain ⟨valid, all, distinctStyles, distinctStreams⟩ := wellFormed
  obtain ⟨text, isSaved, isLoaded⟩ :=
    load_saved lawful later valid (writable_of_valid valid limit threshold delay) distinctStyles
      distinctStreams
  have streams := get?_reloaded_streams distinctStreams
  have sameStreams : sameEntries config.reloaded.streams config.streams = true :=
    sameEntries_of_get? (nodup_byName distinctStreams) distinctStreams streams
  refine ⟨text, config.reloaded, isSaved, isLoaded, rfl, ?_, streams, ?_⟩
  · exact get?_reloaded_styles_of_subset distinctStyles all
  · exact agrees_of_sameEntries valid.delay
      (sameEntries_reloaded_styles_of_subset distinctStyles all)
      sameStreams

/-- Lines of which some are passed over and some are read as texts: a section and a stream that are
numbers, a style that is a number, and streams in both shapes. -/
def mixedLines : List (List Char) :=
  ["editor".toList ++ [' ', '=', ' '] ++ ['7'],
   ['['] ++ ("theme".toList ++ '.' :: "styles".toList) ++ [']'],
   "keyword".toList ++ [' ', '=', ' '] ++ ['7'],
   ['['] ++ "streams".toList ++ [']'],
   "count".toList ++ [' ', '=', ' '] ++ ['7'],
   ['['] ++ ("streams".toList ++ '.' :: "events".toList) ++ [']'],
   "fields".toList ++ [' ', '=', ' '] ++ ['[', ']'],
   ['[', '['] ++ ("streams".toList ++ '.' :: "logs".toList) ++ [']', ']'],
   "name".toList ++ [' ', '=', ' '] ++ encode "a".toList,
   "data_type".toList ++ [' ', '=', ' '] ++ encode "b".toList]

/-- The configuration that they describe. -/
def mixed : Config where
  styles := Assoc.put "keyword" "7" Theme.default
  streams := [("events", []), ("logs", [⟨"a", "b"⟩])]

theorem readsLines_mixed : ∃ last, ReadsLines {} mixedLines last ∧
    ofDocument .usual .usual last.entries = .ok (.ok mixed) := by
  have seven : Writes ['7'] (.int 7) := writes_scalar rfl (numberText_of_all rfl)
  have stream {name : String} (bare : name.toList.all isBare = true) (nonempty : name ≠ "") :
      Spells ("streams".toList ++ '.' :: name.toList) ["streams", name] :=
    spells_dotted (by decide) (by decide) (spells_name bare nonempty)
  have styles : Spells ("theme".toList ++ '.' :: "styles".toList) ["theme", "styles"] :=
    spells_dotted (by decide) (by decide) (spells_name (by decide) (by decide))
  refine ⟨_, .cons (readsLine_assign (spells_name (by decide) (by decide)) seven rfl) <|
    .cons (readsLine_table styles rfl) <|
    .cons (readsLine_assign (spells_name (by decide) (by decide)) seven rfl) <|
    .cons (readsLine_table (spells_name (by decide) (by decide)) rfl) <|
    .cons (readsLine_assign (spells_name (by decide) (by decide)) seven rfl) <|
    .cons (readsLine_table (stream (by decide) (by decide)) rfl) <|
    .cons (readsLine_assign (spells_name (by decide) (by decide)) writes_emptyList rfl) <|
    .cons (readsLine_item (stream (by decide) (by decide)) rfl) <|
    .cons (readsLine_assign (spells_name (by decide) (by decide)) (writes_encode "a") rfl) <|
    .cons (readsLine_assign (spells_name (by decide) (by decide)) (writes_encode "b") rfl) <|
      .nil _, ?_⟩
  rfl

theorem load_mixed :
    load .usual .usual (.content (String.ofList (mixedLines.flatMap (· ++ ['\n']))).toUTF8) =
      .ok (mixed, []) := by
  have plain : (mixedLines.all fun line => line.all (· ≠ '\r')) = true := by decide
  have noReturn : ∀ line ∈ mixedLines, '\r' ∉ line := fun line isLine member => by
    have visible := List.all_eq_true.mp (List.all_eq_true.mp plain line isLine) '\r' member
    simp at visible
  obtain ⟨last, reads, described⟩ := readsLines_mixed
  exact load_text (read_lines reads noReturn _) described

theorem load_save_load_mixed :
    Rules.usual.Lawful ∧
      load .usual .usual (.content (String.ofList (mixedLines.flatMap (· ++ ['\n']))).toUTF8) =
        .ok (mixed, []) ∧
      mixed.WellFormed .usual ∧
      readScalar (writtenFloat mixed.editor.debounceDelay).toList =
        .ok (.float mixed.editor.debounceDelay, []) ∧
      ∃ text again, mixed.save = .ok text ∧
        load .usual .usual (.content (String.ofList text).toUTF8) = .ok (again, []) ∧
        again.agrees (rawSettings mixed.editor) mixed.styles mixed.streams = true := by
  have delay : readScalar (writtenFloat mixed.editor.debounceDelay).toList =
      .ok (.float mixed.editor.debounceDelay, []) := rfl
  obtain ⟨wellFormed, comesBack⟩ := load_save_load Rules.lawful_usual load_mixed
  obtain ⟨text, again, isSaved, isLoaded, _, _, _, agrees⟩ :=
    comesBack (by decide) (by decide) delay .usual
  exact ⟨Rules.lawful_usual, load_mixed, wellFormed, delay, text, again, isSaved, isLoaded, agrees⟩

end Config

end SqlAssist
