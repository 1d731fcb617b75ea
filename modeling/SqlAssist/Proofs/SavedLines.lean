import SqlAssist.Config
import SqlAssist.Proofs.CheckedSettings
import SqlAssist.Proofs.TomlDocuments

/-!
# The lines of a saved configuration

The saved lines read back as `savedDocument`: a table of the settings, a table of the styles in the
theme, and the streams.

* **numbers** — what is written for a number is a `NumberText`, and reads back as the number;
* **lines** — `readsLines_settings`, `readsLines_styles` and `readsLines_streams` follow the draft
  of the document through the lines;
* **document** — no line holds a control character (`plain_savedLines`), so `read_saved` reads all
  of them at once.
-/
namespace SqlAssist

open Toml

/-! ## Numbers -/

theorem isNumberChar_of_isDigit {c : Char} (digit : c.isDigit = true) : isNumberChar c = true := by
  rw [isNumberChar, digit, Bool.true_or]

/-- A text of the characters of written numbers. -/
def NumberText (text : List Char) : Prop := ∀ c ∈ text, isNumberChar c = true

theorem NumberText.append {left right : List Char} (isLeft : NumberText left)
    (isRight : NumberText right) : NumberText (left ++ right) :=
  List.forall_mem_append.mpr ⟨isLeft, isRight⟩

theorem NumberText.sublist {text part : List Char} (isText : NumberText text)
    (isPart : part.Sublist text) : NumberText part :=
  fun c member => isText c (isPart.subset member)

theorem numberText_of_all {text : List Char}
    (all : text.all isNumberChar = true) : NumberText text :=
  List.all_eq_true.mp all

theorem numberText_toDigits (n : Nat) : NumberText (Nat.toDigits 10 n) :=
  fun d member => isNumberChar_of_isDigit (isDigit_of_mem_toDigits n d member)

theorem numberText_zeros (n : Nat) : NumberText (List.replicate n '0') := by
  intro c member
  rw [List.eq_of_mem_replicate member]
  rfl

theorem numberText_padded (length n : Nat) : NumberText (Decimal.padded length n).toList := by
  rw [Decimal.padded, String.toList_append, String.toList_ofList, toList_toString]
  exact (numberText_zeros _).append (numberText_toDigits n)

theorem numberText_written (d : Decimal) : NumberText d.written.toList := by
  have digits := numberText_padded d.count d.digits
  simp only [Decimal.written]
  generalize (Decimal.padded d.count d.digits).toList = ds at digits
  split
  · split
    · rw [String.toList_ofList]
      exact ((numberText_of_all rfl).append (numberText_zeros _)).append digits
    · split
      · rw [String.toList_ofList]
        exact (digits.append (numberText_zeros _)).append (numberText_of_all rfl)
      · rw [String.toList_ofList, ← List.singleton_append]
        exact (digits.sublist (List.take_sublist _ _)).append
          ((numberText_of_all rfl).append (digits.sublist (List.drop_sublist _ _)))
  · rw [String.toList_append, String.toList_append, String.toList_ofList]
    refine (NumberText.append ?_ ?_).append (numberText_padded 2 _)
    · split
      · exact digits
      · exact digits
      · rename_i c rest _
        have first : NumberText [c] := digits.sublist (by simp)
        have others : NumberText rest := digits.sublist (List.sublist_cons_self c rest)
        have point : NumberText ['.'] := numberText_of_all rfl
        exact first.append (point.append others)
    · split <;> exact numberText_of_all (by decide)

theorem numberText_writtenFloat (x : Float) : NumberText (writtenFloat x).toList := by
  unfold writtenFloat
  split
  · exact numberText_of_all (by decide)
  · split <;> exact numberText_of_all (by decide)
  · rename_i negative m e _
    have magnitude : NumberText (if m = 0 then "0.0"
        else (Decimal.shortest (x.toBits.toNat % twoTo 63) m e).written).toList := by
      split
      · exact numberText_of_all (by decide)
      · exact numberText_written _
    cases negative with
    | true =>
        simp only [if_true, String.toList_append]
        exact (numberText_of_all (by decide)).append magnitude
    | false => exact magnitude

/-! ## Plain texts -/

/-- A text without control characters. -/
def Plain (text : List Char) : Prop := ∀ c ∈ text, isControl c = false

theorem Plain.append {left right : List Char} (isLeft : Plain left) (isRight : Plain right) :
    Plain (left ++ right) :=
  List.forall_mem_append.mpr ⟨isLeft, isRight⟩

theorem plain_of_all {text : List Char} (all : (text.all fun c => !isControl c) = true) :
    Plain text := by
  intro c member
  simpa using List.all_eq_true.mp all c member

theorem isControl_of_isNumberChar {c : Char}
    (number : isNumberChar c = true) : isControl c = false := by
  rcases Bool.or_eq_true_iff.mp number with digit | other
  · simp only [Char.isDigit, Bool.and_eq_true, decide_eq_true_eq] at digit
    have low : 48 ≤ c.toNat := digit.1
    have high : c.toNat ≤ 57 := digit.2
    simp only [isControl, Bool.or_eq_false_iff, decide_eq_false_iff_not, beq_eq_false_iff_ne]
    omega
  · have listed : Plain ['+', '-', '.', 'e', 'i', 'n', 'f', 'a'] := plain_of_all (by decide)
    exact listed c (List.contains_iff_mem.mp other)

theorem NumberText.plain {text : List Char} (isNumber : NumberText text) : Plain text :=
  fun c member => isControl_of_isNumberChar (isNumber c member)

/-! ## Lines of the settings -/

namespace Config

theorem spells_name {name : String} (bare : name.toList.all isBare = true) (nonempty : name ≠ "") :
    Spells name.toList [name] := by
  have spells : Spells name.toList [String.ofList name.toList] :=
    spells_bare (by simpa using nonempty) (List.all_eq_true.mp bare)
  rwa [String.ofList_toList] at spells

theorem spells_dotted {name : String} {text : List Char} {key : Key}
    (bare : name.toList.all isBare = true) (nonempty : name ≠ "") (spells : Spells text key) :
    Spells (name.toList ++ '.' :: text) (name :: key) := by
  have dotted : Spells (name.toList ++ '.' :: text) (String.ofList name.toList :: key) :=
    spells_dot (by simpa using nonempty) (List.all_eq_true.mp bare) spells
  rwa [String.ofList_toList] at dotted

/-- The lines of settings, each with the entry that it stands for. -/
def settingItems (settings : Settings) : List (List Char × String × Value) :=
  [("max_suggestions".toList ++ [' ', '=', ' '] ++ Nat.toDigits 10 settings.maxSuggestions.natAbs,
    "max_suggestions", .int settings.maxSuggestions),
   ("debounce_delay".toList ++ [' ', '=', ' '] ++ (writtenFloat settings.debounceDelay).toList,
    "debounce_delay", .float settings.debounceDelay),
   ("offload_threshold".toList ++ [' ', '=', ' '] ++
     Nat.toDigits 10 settings.offloadThreshold.natAbs,
    "offload_threshold", .int settings.offloadThreshold),
   ("dialect".toList ++ [' ', '=', ' '] ++ encoded settings.dialect,
    "dialect", .string settings.dialect)]

/-- A whole number is written in digits alone, and not in too many of them. -/
structure WritableInt (n : Int) : Prop where
  natural : 0 ≤ n
  short : (toString n.natAbs).length ≤ Text.maxDigits

/-- The numbers of settings can be written and read back. -/
structure Writable (settings : Settings) : Prop where
  limit : WritableInt settings.maxSuggestions
  threshold : WritableInt settings.offloadThreshold
  delay : readScalar (writtenFloat settings.debounceDelay).toList =
    .ok (.float settings.debounceDelay, [])

theorem writes_int {n : Int} (writable : WritableInt n) :
    Writes (Nat.toDigits 10 n.natAbs) (.int n) := by
  have short : (Nat.toDigits 10 n.natAbs).length ≤ Text.maxDigits := by
    rw [← toList_toString, String.length_toList]
    exact writable.short
  have read := readScalar_toDigits n.natAbs short
  rw [Int.natAbs_of_nonneg writable.natural] at read
  exact writes_scalar read (numberText_toDigits _)

theorem shown?_int {n : Int} (writable : WritableInt n) :
    (Value.int n).shown? = some (toString n.natAbs) := by
  have notNegative : ¬ n < 0 := Int.not_lt.mpr writable.natural
  simp only [Value.shown?, Value.described?, Value.shownInt?, Nat.not_lt.mpr writable.short,
    notNegative, if_false]

variable {settings : Settings}

theorem settingLines_eq (writable : Writable settings) :
    settingLines (rawSettings settings) =
      .ok ("[editor]".toList :: (settingItems settings).map (·.1)) := by
  have limit := shown?_int writable.limit
  have threshold := shown?_int writable.threshold
  have delay : (Value.float settings.debounceDelay).shown? =
      some (writtenFloat settings.debounceDelay) := by
    simp [Value.shown?, Value.described?]
  simp only [settingLines, rawSettings, settingLine, limit, threshold, delay, dialectLine,
    String.toList_append, toList_toString]
  rfl

theorem assigns_settings (writable : Writable settings) :
    ∀ item ∈ settingItems settings, Assigns item.1 item.2.1 item.2.2 := by
  have limit := writes_int writable.limit
  have threshold := writes_int writable.threshold
  have delay := writes_scalar writable.delay (numberText_writtenFloat _)
  intro item member
  rcases List.mem_cons.mp member with rfl | member
  · exact ⟨_, _, rfl, spells_name (by decide) (by decide), limit, rfl⟩
  rcases List.mem_cons.mp member with rfl | member
  · exact ⟨_, _, rfl, spells_name (by decide) (by decide), delay, rfl⟩
  rcases List.mem_cons.mp member with rfl | member
  · exact ⟨_, _, rfl, spells_name (by decide) (by decide), threshold, rfl⟩
  rcases List.mem_cons.mp member with rfl | member
  · exact ⟨_, _, rfl, spells_name (by decide) (by decide), writes_encode _, rfl⟩
  cases member

/-- The draft after the lines of settings. -/
def settingsDraft (settings : Settings) : Draft :=
  ⟨[("editor", .table settings.saved)], { opened := [["editor"]] }, ["editor"]⟩

theorem readsLines_settings (writable : Writable settings) :
    ReadsLines {} ("[editor]".toList :: (settingItems settings).map (·.1))
      (settingsDraft settings) := by
  have opened : ({} : Draft).openTable ["editor"] =
      .ok ⟨[("editor", .table [])], { opened := [["editor"]] }, ["editor"]⟩ := rfl
  refine .cons (readsLine_table (spells_name (by decide) (by decide)) opened) ?_
  have leads : Leads ["editor"] fun inner => [] ++ [("editor", .table (id inner))] :=
    leads_table List.not_mem_nil leads_nil
  have distinct : (Assoc.keys ([] ++ (settingItems settings).map (·.2))).Nodup := by
    show ["max_suggestions", "debounce_delay", "offload_threshold", "dialect"].Nodup
    decide
  exact readsLines_entries ⟨[("editor", .table [])], { opened := [["editor"]] }, ["editor"]⟩
    (assigns_settings writable) leads rfl rfl distinct

/-! ## Lines of the styles -/

/-- The entry of a style. -/
def styleEntry (style : String × String) : String × Value := (style.1, .string style.2)

/-- The document before the streams. -/
def savedHead (settings : Settings) (styles : Theme) : Entries :=
  [("editor", .table settings.saved)] ++
    [("theme", .table ([] ++ [("styles", .table (styles.map styleEntry))]))]

/-- The draft after the lines of settings and styles. -/
def stylesDraft (settings : Settings) (styles : Theme) : Draft :=
  ⟨savedHead settings styles, { opened := [["theme", "styles"], ["editor"]] }, ["theme", "styles"]⟩

theorem readsLines_styles {styles : Theme} (distinct : (Assoc.keys styles).Nodup) :
    ReadsLines (settingsDraft settings)
      ("[theme.styles]".toList ::
        styles.map fun (name, look) => encoded name ++ " = ".toList ++ encoded look)
      (stylesDraft settings styles) := by
  have absent : "theme" ∉ Assoc.keys [("editor", Value.table settings.saved)] := by
    show "theme" ∉ ["editor"]
    decide
  have leads : Leads ["theme", "styles"] fun inner => [("editor", .table settings.saved)] ++
      [("theme", .table ([] ++ [("styles", .table (id inner))]))] :=
    leads_table absent (leads_table List.not_mem_nil leads_nil)
  have changed : changeAt true some ["theme", "styles"] [("editor", .table settings.saved)] =
      some (savedHead settings []) := by
    rw [changeAt_new absent, changeAt_new List.not_mem_nil]
    rfl
  have opened := openTable_new (settingsDraft settings) ["theme", "styles"] rfl rfl rfl changed
  have spells : Spells ("theme".toList ++ '.' :: "styles".toList) ["theme", "styles"] :=
    spells_dotted (by decide) (by decide) (spells_name (by decide) (by decide))
  refine .cons (readsLine_table spells opened) ?_
  have assigns : ∀ style ∈ styles, Assigns (encoded style.1 ++ [' ', '=', ' '] ++ encoded style.2)
      (styleEntry style).1 (styleEntry style).2 :=
    fun style _ => ⟨_, _, rfl, spells_encode _, writes_encode _, rfl⟩
  have keys : (Assoc.keys ([] ++ styles.map styleEntry)).Nodup := by
    simpa [Assoc.keys, styleEntry, Function.comp_def] using distinct
  exact readsLines_entries (stylesDraft settings []) assigns leads rfl rfl keys

/-! ## Lines of the streams -/

/-- What a field is saved as. -/
def fieldTable (field : SchemaField) : Value :=
  .table [("name", .string field.name), ("data_type", .string field.dataType)]

/-- What the fields of a stream are saved as. -/
def streamValue : List SchemaField → Value
  | [] => .table [("fields", .list [])]
  | fields => .list (fields.map fieldTable)

/-- A document with the streams that have been written. -/
def withStreams (head : Entries) : Entries → Entries
  | [] => head
  | done => head ++ [("streams", .table done)]

/-- The marks leave room for streams other than those that have been written. -/
structure Room (marks : Marks) (written : List String) : Prop where
  noPending : marks.pending = []
  closed : ∀ key ∈ marks.closed, 2 < key.length
  opened : ∀ stream, ["streams", stream] ∈ marks.opened → stream ∈ written

theorem Room.mono {marks : Marks} {written more : List String} (room : Room marks written)
    (all : written ⊆ more) : Room marks more :=
  ⟨room.noPending, room.closed, fun stream isOpened => all (room.opened stream isOpened)⟩

section

variable {head : Entries} (absent : "streams" ∉ Assoc.keys head)

theorem withStreams_concat (done : Entries) (entry : String × Value) :
    withStreams head (done ++ [entry]) = head ++ [("streams", .table (done ++ [entry]))] := by
  cases done <;> rfl

include absent in
theorem changeAt_streams (change : Entries → Option Entries) (key : Key) (done : Entries) :
    changeAt true change ("streams" :: key) (withStreams head done) =
      (changeAt true change key done).map fun inner => head ++ [("streams", .table inner)] := by
  cases done with
  | nil => exact changeAt_new absent change key
  | cons entry done => exact changeAt_last absent change key (entry :: done)

theorem spells_stream (stream : String) :
    Spells ("streams".toList ++ '.' :: encoded stream) ["streams", stream] :=
  spells_dotted (by decide) (by decide) (spells_encode stream)

theorem Room.isClosed_stream {marks : Marks} {written : List String} (room : Room marks written)
    (stream : String) : marks.isClosed ["streams", stream] = false :=
  isClosed_eq_false room.closed

variable {draft : Draft} {done : Entries} {stream : String}

include absent in
/-- The lines of a stream without fields. -/
theorem readsLines_emptyStream (room : Room draft.marks (Assoc.keys done))
    (entries : draft.entries = withStreams head done) (isNew : stream ∉ Assoc.keys done) :
    ∃ draft', ReadsLines draft (streamLines (stream, [])) draft' ∧
      Room draft'.marks (Assoc.keys (done ++ [(stream, streamValue [])])) ∧
      draft'.entries = withStreams head (done ++ [(stream, streamValue [])]) := by
  have changed : changeAt true some ["streams", stream] draft.entries =
      some (head ++ [("streams", .table (done ++ [(stream, .table [])]))]) := by
    rw [entries, changeAt_streams absent, changeAt_new isNew]
    rfl
  have notOpened : draft.marks.isOpened ["streams", stream] = false := by
    rw [Marks.isOpened, ← Bool.not_eq_true, List.contains_iff_mem]
    exact fun member => isNew (room.opened stream member)
  have opened := openTable_new draft ["streams", stream] room.noPending notOpened
    (room.isClosed_stream stream) changed
  have leads : Leads ["streams", stream] fun inner =>
      head ++ [("streams", .table (done ++ [(stream, .table (id inner))]))] :=
    leads_table absent (leads_table isNew leads_nil)
  have noFields : "fields" ∉ Assoc.keys ([] : Entries) := List.not_mem_nil
  have assigned := assign_new ⟨head ++ [("streams", .table (done ++ [(stream, .table [])]))],
    { draft.marks with opened := ["streams", stream] :: draft.marks.opened }, ["streams", stream]⟩
    (.list []) leads rfl (room.isClosed_stream stream) noFields
  refine ⟨_, .cons .blank (.cons (readsLine_table (spells_stream stream) opened) (.cons
    (readsLine_assign (spells_name (by decide) (by decide)) writes_emptyList assigned) (.nil _))),
    ⟨room.noPending, ?_, ?_⟩, ?_⟩
  · intro key member
    rcases List.mem_cons.mp member with rfl | isOld
    · exact Nat.lt_succ_self 2
    · exact room.closed key isOld
  · intro other member
    rw [Assoc.keys, List.map_append]
    rcases List.mem_cons.mp member with same | isOld
    · obtain rfl : other = stream := by simpa using same
      exact List.mem_append_right _ (List.mem_singleton_self other)
    · exact List.mem_append_left _ (room.opened other isOld)
  · rw [withStreams_concat]
    rfl

include absent in
/-- The lines of a field: they append a table to the list of a stream. -/
theorem readsLines_field {base : Entries} {items : List Value} {written : List String}
    (field : SchemaField) (room : Room draft.marks written)
    (entries : draft.entries = withStreams head base)
    (appended : appendTable stream base = some (done ++ [(stream, .list (items ++ [.table []]))]))
    (isNew : stream ∉ Assoc.keys done) (isWritten : stream ∈ written) :
    ∃ draft', ReadsLines draft (fieldLines stream field) draft' ∧ Room draft'.marks written ∧
      draft'.entries = withStreams head
        (done ++ [(stream, .list (items ++ [fieldTable field]))]) := by
  have changed : changeAt true (appendTable stream) ["streams"] draft.entries =
      some (head ++ [("streams", .table (done ++ [(stream, .list (items ++ [.table []]))]))]) := by
    rw [entries, changeAt_streams absent, changeAt, appended]
    rfl
  have opened := openItem_new draft ["streams", stream] room.noPending (room.isClosed_stream stream)
    changed
  have leads : Leads ["streams", stream] fun inner =>
      head ++ [("streams", .table (done ++ [(stream, .list (items ++ [.table inner]))]))] :=
    leads_table absent (leads_item isNew items)
  have room' : Room ⟨(draft.marks.release ["streams", stream]).closed,
      ["streams", stream] :: (draft.marks.release ["streams", stream]).opened,
      (draft.marks.release ["streams", stream]).pending⟩ written := by
    refine ⟨room.noPending, ?_, ?_⟩
    · intro key member
      exact room.closed key (List.mem_filter.mp member).1
    · intro other member
      rcases List.mem_cons.mp member with same | isOld
      · obtain rfl : other = stream := by simpa using same
        exact isWritten
      · exact room.opened other (List.mem_filter.mp isOld).1
  have assigns : ∀ item ∈ [("name", field.name), ("data_type", field.dataType)],
      Assigns (item.1.toList ++ [' ', '=', ' '] ++ encoded item.2) (styleEntry item).1
        (styleEntry item).2 := by
    have name : Spells "name".toList ["name"] := spells_name (by decide) (by decide)
    have dataType : Spells "data_type".toList ["data_type"] := spells_name (by decide) (by decide)
    intro item member
    rcases List.mem_cons.mp member with rfl | member
    · exact ⟨_, _, rfl, name, writes_encode _, rfl⟩
    · rw [List.mem_singleton.mp member]
      exact ⟨_, _, rfl, dataType, writes_encode _, rfl⟩
  have distinct : (Assoc.keys ([] ++ [("name", field.name), ("data_type", field.dataType)].map
      styleEntry)).Nodup := by
    show ["name", "data_type"].Nodup
    decide
  have lines := readsLines_entries ⟨_, _, ["streams", stream]⟩ assigns leads rfl
    (room'.isClosed_stream stream) distinct
  have spelled : fieldLines stream field =
      (['[', '['] ++ ("streams".toList ++ '.' :: encoded stream) ++ [']', ']']) ::
        [("name", field.name), ("data_type", field.dataType)].map
          fun item => item.1.toList ++ [' ', '=', ' '] ++ encoded item.2 := by
    simp [fieldLines]
  rw [spelled]
  refine ⟨_, .cons (readsLine_item (spells_stream stream) opened) lines, room', ?_⟩
  rw [withStreams_concat]
  rfl

include absent in
/-- The lines of more fields of the stream that was written last. -/
theorem readsLines_fields {items : List Value} {written : List String} (fields : List SchemaField)
    (room : Room draft.marks written)
    (entries : draft.entries = withStreams head (done ++ [(stream, .list items)]))
    (isNew : stream ∉ Assoc.keys done) (isWritten : stream ∈ written) :
    ∃ draft', ReadsLines draft (fields.flatMap (fieldLines stream)) draft' ∧
      Room draft'.marks written ∧
      draft'.entries = withStreams head (done ++
        [(stream, .list (items ++ fields.map fieldTable))]) := by
  induction fields generalizing draft items with
  | nil => exact ⟨draft, .nil draft, room, by simpa using entries⟩
  | cons field fields ih =>
      obtain ⟨next, first, room', entries'⟩ := readsLines_field absent field room entries
        (appendTable_last isNew items) isNew isWritten
      obtain ⟨last, others, room'', entries''⟩ := ih room' entries'
      refine ⟨last, first.append others, room'', ?_⟩
      rw [entries'', List.append_assoc]
      rfl

include absent in
/-- The lines of a stream. -/
theorem readsLines_stream (fields : List SchemaField) (room : Room draft.marks (Assoc.keys done))
    (entries : draft.entries = withStreams head done) (isNew : stream ∉ Assoc.keys done) :
    ∃ draft', ReadsLines draft (streamLines (stream, fields)) draft' ∧
      Room draft'.marks (Assoc.keys (done ++ [(stream, streamValue fields)])) ∧
      draft'.entries = withStreams head (done ++ [(stream, streamValue fields)]) := by
  cases fields with
  | nil => exact readsLines_emptyStream absent room entries isNew
  | cons field fields =>
      have keys : Assoc.keys (done ++ [(stream, streamValue (field :: fields))]) =
          Assoc.keys done ++ [stream] := List.map_append
      rw [keys]
      have isWritten : stream ∈ Assoc.keys done ++ [stream] := List.mem_concat_self
      -- the first field makes the list of the stream, and the others find it there
      obtain ⟨next, first, room', entries'⟩ := readsLines_field absent field
        (room.mono (List.subset_append_left _ [stream])) entries
          (appendTable_new isNew) isNew isWritten
      obtain ⟨last, others, room'', entries''⟩ :=
        readsLines_fields absent fields room' entries' isNew isWritten
      exact ⟨last, .cons .blank (first.append others), room'', entries''⟩

/-- The entry of a stream. -/
def streamEntry (stream : String × List SchemaField) : String × Value :=
  (stream.1, streamValue stream.2)

include absent in
theorem readsLines_streams {streams : Streams} (draft : Draft) (done : Entries)
    (room : Room draft.marks (Assoc.keys done))
    (entries : draft.entries = withStreams head done)
    (distinct : (Assoc.keys done ++ Assoc.keys streams).Nodup) :
    ∃ draft', ReadsLines draft (streams.flatMap streamLines) draft' ∧
      draft'.entries = withStreams head (done ++ streams.map streamEntry) := by
  induction streams generalizing draft done with
  | nil => exact ⟨draft, .nil draft, by simpa using entries⟩
  | cons stream streams ih =>
      have isNew : stream.1 ∉ Assoc.keys done := fun member =>
        (List.nodup_append.mp distinct).2.2 _ member _ List.mem_cons_self rfl
      obtain ⟨next, first, room', entries'⟩ := readsLines_stream absent stream.2 room entries isNew
      have others : (Assoc.keys (done ++ [streamEntry stream]) ++ Assoc.keys streams).Nodup := by
        simpa [Assoc.keys, streamEntry] using distinct
      obtain ⟨last, reads, entries''⟩ := ih next _ room' entries' others
      refine ⟨last, first.append reads, ?_⟩
      rw [entries'', List.append_assoc]
      rfl

end

/-! ## The document -/

/-- The lines of settings, styles and streams. -/
def savedLines (settings : Settings) (styles : Theme) (streams : Streams) : List (List Char) :=
  ("[editor]".toList :: (settingItems settings).map (·.1)) ++ [[]] ++
    ("[theme.styles]".toList ::
      styles.map fun (name, look) => encoded name ++ " = ".toList ++ encoded look) ++
    streams.flatMap streamLines

/-- The document of settings, styles and streams. -/
def savedDocument (settings : Settings) (styles : Theme) (streams : Streams) : Entries :=
  withStreams (savedHead settings styles) (streams.map streamEntry)

theorem readsLines_saved {styles : Theme} {streams : Streams} (writable : Writable settings)
    (distinctStyles : (Assoc.keys styles).Nodup) (distinctStreams : (Assoc.keys streams).Nodup) :
    ∃ draft, ReadsLines {} (savedLines settings styles streams) draft ∧
      draft.entries = savedDocument settings styles streams := by
  have absent : "streams" ∉ Assoc.keys (savedHead settings styles) := by
    show "streams" ∉ ["editor", "theme"]
    decide
  have room : Room (stylesDraft settings styles).marks [] := by
    refine ⟨rfl, fun _ member => (List.not_mem_nil member).elim, fun stream member => ?_⟩
    simp [stylesDraft] at member
  obtain ⟨draft, streamsRead, entries⟩ :=
    readsLines_streams absent (stylesDraft settings styles) [] room rfl distinctStreams
  have settingsRead := (readsLines_settings writable).append (.cons .blank (.nil _))
  exact ⟨draft, (settingsRead.append (readsLines_styles distinctStyles)).append streamsRead,
    entries⟩

theorem plain_encoded (s : String) : Plain (encoded s) :=
  fun _ member => isControl_of_mem_encode member

theorem plain_settingItems : ∀ item ∈ settingItems settings, Plain item.1 := by
  intro item member
  rcases List.mem_cons.mp member with rfl | member
  · exact (plain_of_all (by decide)).append (numberText_toDigits _).plain
  rcases List.mem_cons.mp member with rfl | member
  · exact (plain_of_all (by decide)).append (numberText_writtenFloat _).plain
  rcases List.mem_cons.mp member with rfl | member
  · exact (plain_of_all (by decide)).append (numberText_toDigits _).plain
  rcases List.mem_cons.mp member with rfl | member
  · exact (plain_of_all (by decide)).append (plain_encoded _)
  cases member

theorem plain_fieldLines (stream : String) (field : SchemaField) :
    ∀ line ∈ fieldLines stream field, Plain line := by
  intro line member
  rcases List.mem_cons.mp member with rfl | member
  · exact ((plain_of_all (by decide)).append (plain_encoded _)).append (plain_of_all (by decide))
  rcases List.mem_cons.mp member with rfl | member
  · exact (plain_of_all (by decide)).append (plain_encoded _)
  rcases List.mem_cons.mp member with rfl | member
  · exact (plain_of_all (by decide)).append (plain_encoded _)
  cases member

theorem plain_streamLines (stream : String × List SchemaField) :
    ∀ line ∈ streamLines stream, Plain line := by
  obtain ⟨name, fields⟩ := stream
  have blank : Plain [] := plain_of_all rfl
  cases fields with
  | nil =>
      intro line member
      rcases List.mem_cons.mp member with rfl | member
      · exact blank
      rcases List.mem_cons.mp member with rfl | member
      · exact ((plain_of_all (by decide)).append (plain_encoded _)).append
          (plain_of_all (by decide))
      rw [List.mem_singleton.mp member]
      exact plain_of_all (by decide)
  | cons field fields =>
      intro line member
      rcases List.mem_cons.mp member with rfl | member
      · exact blank
      · obtain ⟨other, _, inField⟩ := List.mem_flatMap.mp member
        exact plain_fieldLines name other line inField

theorem plain_savedLines (settings : Settings) (styles : Theme) (streams : Streams) :
    ∀ line ∈ savedLines settings styles streams, Plain line := by
  intro line member
  rcases List.mem_append.mp member with member | inStreams
  · rcases List.mem_append.mp member with member | inStyles
    · rcases List.mem_append.mp member with inSettings | isBlank
      · rcases List.mem_cons.mp inSettings with rfl | inSettings
        · exact plain_of_all (by decide)
        · obtain ⟨item, isItem, rfl⟩ := List.mem_map.mp inSettings
          exact plain_settingItems item isItem
      · rw [List.mem_singleton.mp isBlank]
        exact plain_of_all rfl
    · rcases List.mem_cons.mp inStyles with rfl | inStyles
      · exact plain_of_all (by decide)
      · obtain ⟨style, _, rfl⟩ := List.mem_map.mp inStyles
        exact ((plain_encoded _).append (plain_of_all (by decide))).append (plain_encoded _)
  · obtain ⟨stream, _, inStream⟩ := List.mem_flatMap.mp inStreams
    exact plain_streamLines stream line inStream

theorem read_saved {styles : Theme} {streams : Streams} (writable : Writable settings)
    (distinctStyles : (Assoc.keys styles).Nodup) (distinctStreams : (Assoc.keys streams).Nodup)
    (depth : Nat) :
    Toml.read depth ((savedLines settings styles streams).flatMap (· ++ ['\n'])) =
      .ok (savedDocument settings styles streams) := by
  obtain ⟨draft, reads, entries⟩ := readsLines_saved writable distinctStyles distinctStreams
  rw [← entries]
  -- Line ends are made plain before a document is read; here there is nothing to do.
  refine read_lines reads (fun line isLine isReturn => ?_) depth
  have notControl := plain_savedLines _ _ _ line isLine _ isReturn
  exact absurd notControl (by decide)

/-- The pairs of an association list, sorted by their names. -/
def byName {α : Type} (pairs : List (String × α)) : List (String × α) :=
  pairs.mergeSort fun a b => decide (a.1 ≤ b.1)

theorem byName_perm {α : Type} (pairs : List (String × α)) : (byName pairs).Perm pairs :=
  List.mergeSort_perm pairs _

theorem nodup_byName {α : Type} {pairs : List (String × α)} (distinct : (Assoc.keys pairs).Nodup) :
    (Assoc.keys (byName pairs)).Nodup :=
  ((byName_perm pairs).map _).nodup_iff.mpr distinct

theorem save_eq {config : Config} (writable : Writable config.editor) :
    config.save =
      .ok ((savedLines config.editor (byName config.styles) (byName config.streams)).flatMap
      (· ++ ['\n'])) := by
  rw [save, saveRaw, settingLines_eq writable]
  rfl

end Config

end SqlAssist
