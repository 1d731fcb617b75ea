import SqlAssist.Proofs.DecimalText
import SqlAssist.Proofs.EditorAnswers
import SqlAssist.Proofs.NarrowedSuggestions
import SqlAssist.Proofs.WordInProgress

/-!
# An analysis and the suggestions agree about the cursor

An editor looks at the cursor twice: an analysis tells what is expected there, and the suggestions
offer it. Both see one word before the cursor, the suggestions are for the range of that word, and
they are of the kinds that the slot of the analysis allows (`analysis_agrees`).

The slot is that of the text in front of the word. It is also that of the text up to the cursor,
since the characters of the word are word characters and a word in progress does not count. This
holds where the text in front ends in the middle of a lexeme too: behind a letter outside of ASCII,
or in a string or a comment that is still open.
-/
namespace SqlAssist

theorem isWordChar_of_isTypedChar {c : Char} (typed : isTypedChar c = true) :
    Text.isWordChar c = true := by
  rw [isTypedChar, Bool.or_eq_true] at typed
  rw [Text.isWordChar, Bool.or_eq_true]
  refine typed.imp_left fun letter => ?_
  rw [Char.isAlphanum, Bool.or_eq_true] at letter
  have ascii : c.val < 128 := by
    rcases letter with alpha | digit
    · have either : c.isUpper = true ∨ c.isLower = true := (Bool.or_eq_true ..).mp alpha
      rcases either with upper | lower
      · have high : c.val ≤ 'Z'.val := (of_decide_eq_true upper).2
        exact UInt32.lt_of_le_of_lt high (by decide)
      · have high : c.val ≤ 'z'.val := of_decide_eq_true ((Bool.and_eq_true ..).mp lower).2
        exact UInt32.lt_of_le_of_lt high (by decide)
    · exact Text.ascii_of_isDigit digit
  simp only [Text.isAlphanumeric, Text.isLetter, Text.isDigit, if_pos ascii, Bool.or_eq_true]
  exact .inl letter

/-! ## What is suggested inside of a text -/

section Inside

variable {text : List Char} {cursor : Nat} (positive : 1 ≤ cursor) (within : cursor ≤ text.length)
  (sources : Suggestions.Sources)

include positive within

/-- Inside of a text the suggestions are for the word before the cursor, also where it is empty.
They are candidates for the slot of the text in front of it. -/
theorem suggestions_inside :
    let typed := typedWord (text.take cursor)
    let found := suggestions text cursor sources
    found.typed = typed ∧ found.range = ⟨cursor - typed.length, cursor⟩ ∧
      ∀ item ∈ found.items, item ∈
        Suggestions.candidates sources (Slot.after (text.take (cursor - typed.length))) typed := by
  intro typed found
  have inside : ¬ ((cursor : Int) ≤ 0 ∨ (text.length : Int) < cursor) := by omega
  have length : (text.take cursor).length = cursor := by
    rw [List.length_take, Nat.min_eq_left within]
  have front : (text.take cursor).take (cursor - typed.length) =
      text.take (cursor - typed.length) := by
    rw [List.take_take, Nat.min_eq_left (Nat.sub_le ..)]
  have opened : found = suggestions text cursor sources := rfl
  simp only [suggestions, if_neg inside, Int.toNat_natCast, length] at opened
  by_cases empty : typed = []
  · have noWord : typedWord (text.take cursor) = [] := empty
    simp only [noWord, List.isEmpty_nil, if_true] at opened
    rw [opened, empty]
    exact ⟨rfl, rfl, List.forall_mem_nil _⟩
  · have word : (typedWord (text.take cursor)).isEmpty = false :=
      List.isEmpty_eq_false_iff.mpr empty
    simp only [word, Bool.false_eq_true, if_false] at opened
    rw [opened, ← front]
    split
    · exact ⟨rfl, rfl, List.forall_mem_nil _⟩
    · exact ⟨rfl, rfl, fun _ member => member⟩

end Inside

theorem Editor.mem_of_mem_limited {α : Type} {limit : Int} {items : List α} {item : α}
    (member : item ∈ limited limit items) : item ∈ items := by
  unfold limited at member
  split at member
  · exact member
  · split at member
    · exact List.mem_of_mem_take member
    · exact List.mem_of_mem_take member

theorem exists_of_map_eq_ok {α β ε : Type} {result : Except ε α} {f : α → β} {b : β}
    (isOk : result.map f = .ok b) : ∃ a, f a = b := by
  cases result with
  | error => cases isOk
  | ok a =>
      cases isOk
      exact ⟨a, rfl⟩

/-- An analysis and the suggestions agree about a cursor inside of the text. Where both have an
answer, they see the same word, which is all that is typed before the cursor, and the suggestions
are for its range. The slot of the analysis is that of the text in front of the word and also that
of the text up to the cursor, and every suggestion is of a kind that the slot offers. -/
theorem analysis_agrees (editor : Editor) {text : List Char} {cursor : Nat} (positive : 1 ≤ cursor)
    (within : cursor ≤ text.length) {analysis : TextAnalysis} {found : Suggestions}
    {notes others : List Note}
    (analysed : ((editor.analyse text cursor).run.run notes).1 = .ok analysis)
    (suggested : ((editor.suggest text cursor).run.run others).1 = .ok found) :
    analysis.typed = found.typed ∧
    found.range = ⟨cursor - found.typed.length, cursor⟩ ∧
    analysis.slot = Slot.after (text.take cursor) ∧
    (∃ before, text.take cursor = before ++ analysis.typed ∧
      (∀ c ∈ analysis.typed, isTypedChar c = true) ∧
      (∀ c ∈ before.getLast?, isTypedChar c = false) ∧ analysis.slot = Slot.after before) ∧
    ∀ item ∈ found.items, item.kind ∈ Suggestions.kinds analysis.slot := by
  rw [editor.answers_analyse text cursor notes] at analysed
  rw [editor.answers_suggest text cursor others] at suggested
  obtain ⟨told, rfl⟩ := exists_of_map_eq_ok analysed
  obtain ⟨told', rfl⟩ := exists_of_map_eq_ok suggested
  have place : (max 0 (min (cursor : Int) text.length)).toNat = cursor := by omega
  obtain ⟨typed, range, offered⟩ := suggestions_inside positive within
    { tables := editor.catalog.streamNames, fields := editor.catalog.fieldsFor told'.1 }
  obtain ⟨before, split, inside, whole⟩ := exists_before_typedWord (text.take cursor)
  have front : text.take (cursor - (typedWord (text.take cursor)).length) = before := by
    have length := congrArg List.length split
    rw [List.length_take, List.length_append, Nat.min_eq_left within] at length
    have shorter : cursor - (typedWord (text.take cursor)).length = before.length := by omega
    have cut : text.take before.length = (text.take cursor).take before.length := by
      rw [List.take_take, Nat.min_eq_left (by omega)]
    rw [shorter, cut, split, List.take_left]
  -- The word is made of word characters, so to the slot it is still in progress.
  have slot : Slot.after before = Slot.after (text.take cursor) := by
    have goesOn := Slot.after_append_word before fun c member =>
      isWordChar_of_isTypedChar (inside c member)
    rw [← goesOn, ← split]
  rw [front] at offered
  rw [place, Editor.analysisFor, Editor.suggestionsFor, front]
  refine ⟨typed.symm, ?_, slot, ⟨before, split, inside, whole, rfl⟩, ?_⟩
  · rw [typed]
    exact range
  · intro item member
    exact Suggestions.kind_mem_kinds (offered item (Editor.mem_of_mem_limited member))

/-- A word behind a letter outside of ASCII, in a text that the parser refuses. -/
theorem analysis_agrees_letter :
    let editor : Editor :=
      { catalog := .ofStreams [("tags", []), ("users", [])], parser := fun _ _ => .refused "no" }
    let text := "SELECT a FROM éta, b".toList
    let analysis : TextAnalysis := ⟨17, .tableRef, "ta".toList, [], some ⟨7, 8⟩, ["no"]⟩
    let found := editor.suggestionsFor text [] 17
    1 ≤ 17 ∧ 17 ≤ text.length ∧ ((editor.analyse text 17).run.run []).1 = .ok analysis ∧
    ((editor.suggest text 17).run.run []).1 = .ok found ∧
    analysis.typed = found.typed ∧
    found.range = ⟨17 - found.typed.length, 17⟩ ∧
    analysis.slot = Slot.after (text.take 17) ∧
    (∃ before, text.take 17 = before ++ analysis.typed ∧
      (∀ c ∈ analysis.typed, isTypedChar c = true) ∧
      (∀ c ∈ before.getLast?, isTypedChar c = false) ∧ analysis.slot = Slot.after before) ∧
    ∀ item ∈ found.items, item.kind ∈ [SuggestionKind.table] := by
  intro editor text analysis found
  have told : editor.tables text = .ok ([], ["no"]) := by decide +kernel
  have analysed : ((editor.analyse text 17).run.run []).1 = .ok analysis := by
    rw [editor.answers_analyse text 17 [], told]
    decide +kernel
  have suggested : ((editor.suggest text 17).run.run []).1 = .ok found := by
    rw [editor.answers_suggest text 17 [], told]
    rfl
  exact ⟨by decide, by decide, analysed, suggested,
    analysis_agrees editor (by decide) (by decide) analysed suggested⟩

end SqlAssist
