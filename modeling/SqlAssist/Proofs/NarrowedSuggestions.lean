import SqlAssist.Proofs.Scanners
import SqlAssist.Proofs.UpperCase
import SqlAssist.Suggestion

/-!
# Typing narrows the suggestions

The word before the cursor decides which candidates are suggested, and the text before that word
decides where they come from (`TypedAt`, `suggestions_eq`). A slot offers its candidates in an order
that does not depend on the word (`pools`), and the suggestions are those that start with it
(`candidates_eq`). With one more character fewer candidates start with the word, so what is
suggested for the longer word is among what was suggested for the shorter one
(`suggestions_narrow`).

One rule goes the other way: a suggestion that only repeats the word is hidden, and a longer word
might bring it back. It cannot, since a candidate shows at least the characters it is compared by
(`Candidate.shown`), and a hidden one shows no more than the shorter word.
-/
namespace SqlAssist

open Lexer

/-! ## The word before the cursor -/

/-- The word before the cursor is `typed`, and `before` is the text in front of it. -/
structure TypedAt (text : List Char) (cursor : Nat) (before typed : List Char) : Prop where
  within : cursor ≤ text.length
  split : text.take cursor = before ++ typed
  inhabited : typed ≠ []
  isTyped : ∀ c ∈ typed, isTypedChar c = true
  whole : ∀ c ∈ before.getLast?, isTypedChar c = false

theorem typedWord_append {before typed : List Char} (isTyped : ∀ c ∈ typed, isTypedChar c = true)
    (whole : ∀ c ∈ before.getLast?, isTypedChar c = false) :
    typedWord (before ++ typed) = typed := by
  have stops : Stops isTypedChar before.reverse := by
    rw [Stops, List.head?_reverse]
    cases last : before.getLast? with
    | none => rfl
    | some c => exact whole c last
  have inside : ∀ c ∈ typed.reverse, isTypedChar c = true := by
    intro c member
    exact isTyped c (List.mem_reverse.mp member)
  rw [typedWord, List.reverse_append, takeWhile_run inside stops, List.reverse_reverse]

namespace TypedAt

variable {text before typed : List Char} {cursor : Nat}

theorem length_eq (place : TypedAt text cursor before typed) :
    before.length + typed.length = cursor := by
  have length := congrArg List.length place.split
  rw [List.length_take, List.length_append, Nat.min_eq_left place.within] at length
  exact length.symm

/-- The word goes on with the next character that is typed. -/
theorem type (place : TypedAt text cursor before typed) {c : Char} (isTyped : isTypedChar c = true)
    (rest : List Char) :
    TypedAt (text.take cursor ++ c :: rest) (cursor + 1) before (typed ++ [c]) where
  within := by
    have := place.within
    simp only [List.length_append, List.length_take, List.length_cons]
    omega
  split := by
    have length : (text.take cursor).length = cursor := by
      rw [List.length_take, Nat.min_eq_left place.within]
    rw [List.take_append, length, List.take_of_length_le (by omega), place.split]
    simp
  inhabited := by simp
  isTyped := by
    intro d member
    rcases List.mem_append.mp member with earlier | new
    · exact place.isTyped d earlier
    · rw [List.mem_singleton.mp new]
      exact isTyped
  whole := place.whole

end TypedAt

/-- The word that ends a text reaches back to the last character that is not typed. -/
theorem exists_before_typedWord (text : List Char) :
    ∃ before, text = before ++ typedWord text ∧ (∀ c ∈ typedWord text, isTypedChar c = true) ∧
      ∀ c ∈ before.getLast?, isTypedChar c = false := by
  have parts := List.takeWhile_append_dropWhile (p := isTypedChar) (l := text.reverse)
  refine ⟨(text.reverse.dropWhile isTypedChar).reverse, ?_, ?_, ?_⟩
  · rw [typedWord, ← List.reverse_append, parts, List.reverse_reverse]
  · intro c member
    exact all_takeWhile c (List.mem_reverse.mp member)
  · intro c isBefore
    rw [List.getLast?_reverse] at isBefore
    have stops := stops_dropWhile isTypedChar text.reverse
    rw [Stops, isBefore] at stops
    exact stops

/-- Behind a character of a word there is a word. -/
theorem exists_typedAt {text : List Char} {cursor : Nat} {last : Char} (positive : 1 ≤ cursor)
    (isLast : text[cursor - 1]? = some last) (isTyped : isTypedChar last = true) :
    ∃ before typed, TypedAt text cursor before typed := by
  have within : cursor ≤ text.length := by
    have := (List.getElem?_eq_some_iff.mp isLast).1
    omega
  have ending : (text.take cursor).reverse.head? = some last := by
    rw [List.head?_reverse, List.getLast?_take, if_neg (by omega), isLast]
    rfl
  obtain ⟨front, backwards⟩ := List.head?_eq_some_iff.mp ending
  have inhabited : typedWord (text.take cursor) ≠ [] := by
    rw [typedWord, backwards, List.takeWhile_cons_of_pos isTyped]
    simp
  obtain ⟨before, split, inside, whole⟩ := exists_before_typedWord (text.take cursor)
  exact ⟨before, _, within, split, inhabited, inside, whole⟩

theorem suggestions_eq {text before typed : List Char} {cursor : Nat}
    (place : TypedAt text cursor before typed) (sources : Suggestions.Sources) :
    suggestions text cursor sources =
      let items := Suggestions.candidates sources (Slot.after before) typed
      ⟨if Suggestions.repeatsTyped items typed then [] else items, typed,
        ⟨before.length, cursor⟩⟩ := by
  have length := place.length_eq
  have inhabited := List.length_pos_iff.mpr place.inhabited
  have inside : ¬ ((cursor : Int) ≤ 0 ∨ (text.length : Int) < cursor) := by
    have := place.within
    omega
  have word : typedWord (text.take cursor) = typed := by
    rw [place.split, typedWord_append place.isTyped place.whole]
  have front : (text.take cursor).take ((text.take cursor).length - typed.length) = before := by
    rw [place.split, List.length_append, Nat.add_sub_cancel, List.take_left]
  have start : (cursor : Int) - typed.length = before.length := by omega
  have notEmpty : typed.isEmpty = false := by
    rw [List.isEmpty_eq_false_iff]
    exact place.inhabited
  unfold suggestions
  simp only [if_neg inside, Int.toNat_natCast, word, front, start, notEmpty, Bool.false_eq_true,
    if_false]
  split
  · rfl
  · rfl

namespace Suggestions

/-! ## Candidates -/

/-- What can be suggested: a name, the characters that the typed ones are compared with, and the
suggestion, which shows at least as many. -/
structure Candidate where
  name : String
  key : List Char
  item : Suggestion
  shown : key.length ≤ (Text.upper item.display.toList).length

namespace Candidate

/-- A word of a vocabulary, which is compared as it is. -/
def ofWord (kind : SuggestionKind) (word : String) : Candidate :=
  ⟨word, word.toList, .ofWord kind word, Text.length_le_length_upper _⟩

theorem length_upper_le_quoted (name : List Char) :
    (Text.upper name).length ≤ (Text.upper (quoted name)).length := by
  have doubled : (Text.upper name).length ≤
      (Text.upper (name.flatMap fun c => if c = '"' then ['"', '"'] else [c])).length := by
    induction name with
    | nil => exact Nat.le_refl _
    | cons c name ih =>
        rw [List.flatMap_cons, Text.upper_append]
        split
        · rename_i isQuote
          subst isQuote
          simp only [Text.upper_cons, Text.upper_nil, List.length_append]
          omega
        · simp only [Text.upper_cons, Text.upper_nil, List.length_append, List.append_nil]
          omega
  rw [quoted, Text.upper_append, Text.upper_cons]
  simp only [List.length_append]
  omega

/-- A table, which is compared by its name in upper case and shown in quotes. -/
def ofTable (name : String) : Candidate :=
  ⟨name, Text.upper name.toList, .ofTable name, by
    have shown := length_upper_le_quoted name.toList
    rwa [← String.toList_ofList (l := quoted name.toList)] at shown⟩

/-- A field, which is compared by its name in upper case. -/
def ofField (field : SchemaField) : Candidate :=
  ⟨field.name, Text.upper field.name.toList, .ofField field, Nat.le_refl _⟩

/-- Whether the candidate goes on with what is typed. -/
def startsWith (typed : List Char) (candidate : Candidate) : Bool :=
  (Text.upper typed).isPrefixOf candidate.key

end Candidate

/-- The candidates of a slot: source by source, in the order in which the sources are listed. -/
def pools (sources : Sources) : Slot → List (List Candidate)
  | .tableRef => [sources.tables.map .ofTable]
  | .columnRef =>
    [sources.fields.map .ofField, sources.functions.words.map (.ofWord .function)]
  | .afterOrder | .afterGroup => [[.ofWord .keyword "BY"]]
  | .general =>
    [sources.keywords.words.map (.ofWord .keyword), sources.functions.words.map (.ofWord .function),
     sources.tables.map .ofTable, sources.fields.map .ofField]

/-- The sources with their tables and fields sorted by name. -/
def Sources.sorted (sources : Sources) : Sources :=
  { sources with
    tables := sources.tables.mergeSort fun a b => decide (a ≤ b)
    fields := sources.fields.mergeSort fun a b => decide (a.name ≤ b.name) }

/-- What is suggested for a slot: of its candidates, in order, those that start with the word. -/
theorem candidates_eq (sources : Sources) (slot : Slot) (typed : List Char) :
    candidates sources slot typed =
      ((pools sources.sorted slot).flatten.filter (·.startsWith typed)).map (·.item) := by
  have words : ∀ (kind : SuggestionKind) (vocabulary : Vocabulary),
      ((vocabulary.words.map (Candidate.ofWord kind)).filter (·.startsWith typed)).map (·.item) =
        wordItems kind vocabulary typed := by
    intro kind vocabulary
    rw [List.filter_map, List.map_map]
    rfl
  have tables : ((sources.sorted.tables.map Candidate.ofTable).filter (·.startsWith typed)).map
      (·.item) = tableItems sources.tables typed := by
    rw [List.filter_map, List.map_map]
    rfl
  have fields : ((sources.sorted.fields.map Candidate.ofField).filter (·.startsWith typed)).map
      (·.item) = fieldItems sources.fields typed := by
    rw [List.filter_map, List.map_map]
    rfl
  have keyword : ([Candidate.ofWord .keyword "BY"].filter (·.startsWith typed)).map (·.item) =
      if (Text.upper typed).isPrefixOf "BY".toList then [Suggestion.ofWord .keyword "BY"]
      else [] := by
    rw [List.filter_cons, List.filter_nil]
    show (if (Text.upper typed).isPrefixOf "BY".toList then _ else _ : List Candidate).map _ = _
    split <;> rfl
  cases slot with
  | tableRef =>
      simp only [candidates, pools, List.flatten_cons, List.flatten_nil, List.append_nil, tables]
  | columnRef =>
      simp only [candidates, pools, List.flatten_cons, List.flatten_nil, List.append_nil,
        List.filter_append, List.map_append, fields]
      rw [← words]
      rfl
  | afterOrder => exact keyword.symm
  | afterGroup => exact keyword.symm
  | general =>
      simp only [candidates, pools, List.flatten_cons, List.flatten_nil, List.append_nil,
        List.filter_append, List.map_append, fields, tables, List.append_assoc]
      rw [← words, ← words]
      rfl

/-! ## Kinds -/

/-- The kinds of what can be suggested for a slot. -/
def kinds : Slot → List SuggestionKind
  | .tableRef => [.table]
  | .columnRef => [.column, .function]
  | .afterOrder | .afterGroup => [.keyword]
  | .general => [.keyword, .function, .table, .column]

theorem kind_of_mem_tableItems {tables : List String} {typed : List Char} {item : Suggestion}
    (member : item ∈ tableItems tables typed) : item.kind = .table := by
  obtain ⟨name, _, rfl⟩ := List.mem_map.mp member
  rfl

theorem kind_of_mem_fieldItems {fields : List SchemaField} {typed : List Char} {item : Suggestion}
    (member : item ∈ fieldItems fields typed) : item.kind = .column := by
  obtain ⟨field, _, rfl⟩ := List.mem_map.mp member
  rfl

theorem kind_of_mem_wordItems {kind : SuggestionKind} {vocabulary : Vocabulary} {typed : List Char}
    {item : Suggestion} (member : item ∈ wordItems kind vocabulary typed) : item.kind = kind := by
  obtain ⟨word, _, rfl⟩ := List.mem_map.mp member
  rfl

theorem kind_mem_kinds {sources : Sources} {slot : Slot} {typed : List Char} {item : Suggestion}
    (member : item ∈ candidates sources slot typed) : item.kind ∈ kinds slot := by
  have keyword : item ∈ (if (Text.upper typed).isPrefixOf "BY".toList then
      [Suggestion.ofWord .keyword "BY"] else []) → item.kind = .keyword := by
    intro member
    split at member
    · rw [List.mem_singleton.mp member]
      rfl
    · cases member
  cases slot with
  | tableRef => simp [kinds, kind_of_mem_tableItems member]
  | columnRef =>
      rcases List.mem_append.mp member with isField | isFunction
      · simp [kinds, kind_of_mem_fieldItems isField]
      · simp [kinds, kind_of_mem_wordItems isFunction]
  | afterOrder | afterGroup => simp [kinds, keyword member]
  | general =>
      simp only [candidates, List.mem_append] at member
      rcases member with ((isKeyword | isFunction) | isTable) | isField
      · simp [kinds, kind_of_mem_wordItems isKeyword]
      · simp [kinds, kind_of_mem_wordItems isFunction]
      · simp [kinds, kind_of_mem_tableItems isTable]
      · simp [kinds, kind_of_mem_fieldItems isField]

/-! ## One more character -/

theorem candidates_sublist (sources : Sources) (slot : Slot) (typed : List Char) (c : Char) :
    (candidates sources slot (typed ++ [c])).Sublist (candidates sources slot typed) := by
  rw [candidates_eq, candidates_eq]
  apply List.Sublist.map
  have stronger : ∀ candidate : Candidate, candidate.startsWith (typed ++ [c]) = true →
      candidate.startsWith typed = true := by
    intro candidate starts
    rw [Candidate.startsWith, List.isPrefixOf_iff_prefix] at starts ⊢
    rw [Text.upper_append] at starts
    exact (List.prefix_append _ _).trans starts
  have again : ∀ list : List Candidate, list.filter (·.startsWith (typed ++ [c])) =
      (list.filter (·.startsWith typed)).filter (·.startsWith (typed ++ [c])) := by
    intro list
    rw [List.filter_filter]
    apply List.filter_congr
    intro candidate _
    cases starts : candidate.startsWith (typed ++ [c]) with
    | false => rfl
    | true => rw [stronger candidate starts, Bool.and_self]
  rw [again]
  exact List.filter_sublist

/-- What is suggested shows at least what is typed. -/
theorem length_le_of_mem_candidates {sources : Sources} {slot : Slot} {typed : List Char}
    {item : Suggestion} (member : item ∈ candidates sources slot typed) :
    (Text.upper typed).length ≤ (Text.upper item.display.toList).length := by
  rw [candidates_eq] at member
  obtain ⟨candidate, isCandidate, rfl⟩ := List.mem_map.mp member
  have starts := (List.mem_filter.mp isCandidate).2
  rw [Candidate.startsWith, List.isPrefixOf_iff_prefix] at starts
  exact Nat.le_trans starts.length_le candidate.shown

theorem exists_of_repeatsTyped {items : List Suggestion} {typed : List Char}
    (repeats : repeatsTyped items typed = true) :
    ∃ item, items = [item] ∧ Text.upper item.display.toList = Text.upper typed := by
  unfold repeatsTyped at repeats
  split at repeats
  · exact ⟨_, rfl, beq_iff_eq.mp repeats⟩
  · cases repeats

/-- A candidate that is hidden because it repeats the word is no candidate for a longer word. -/
theorem candidates_eq_nil_of_repeatsTyped {sources : Sources} {slot : Slot} {typed : List Char}
    (repeats : repeatsTyped (candidates sources slot typed) typed = true) (c : Char) :
    candidates sources slot (typed ++ [c]) = [] := by
  obtain ⟨item, single, shown⟩ := exists_of_repeatsTyped repeats
  rw [List.eq_nil_iff_forall_not_mem]
  intro other member
  have isItem : other = item := by
    have inShorter := (candidates_sublist sources slot typed c).subset member
    rw [single] at inShorter
    exact List.mem_singleton.mp inShorter
  have length := length_le_of_mem_candidates member
  have longer := List.length_pos_iff.mpr (Text.upperChar_ne_nil c)
  rw [isItem, shown, Text.upper_append, Text.upper_cons, List.length_append, List.length_append]
    at length
  omega

end Suggestions

/-- Typing narrows the suggestions. Where the cursor is behind a character of a word, the
suggestions for the word with one more character are among those for the word as it is, in the same
order, whatever follows and whatever the sources are. And no suggestion depends on the text behind
the cursor. -/
theorem suggestions_narrow (text : List Char) (sources : Suggestions.Sources) :
    (∀ (cursor : Nat) (last c : Char) (rest : List Char), 1 ≤ cursor → cursor ≤ text.length →
      text[cursor - 1]? = some last → isTypedChar last = true → isTypedChar c = true →
      (suggestions (text.take cursor ++ c :: rest) (cursor + 1 : Nat) sources).items.Sublist
        (suggestions text cursor sources).items) ∧
    ∀ (cursor : Nat) (rest : List Char), cursor ≤ text.length →
      suggestions (text.take cursor ++ rest) cursor sources = suggestions text cursor sources := by
  constructor
  · intro cursor last c rest positive _ isLast isTyped nextTyped
    obtain ⟨before, typed, place⟩ := exists_typedAt positive isLast isTyped
    rw [suggestions_eq place, suggestions_eq (place.type nextTyped rest)]
    dsimp only
    split
    · exact List.nil_sublist _
    split
    · rename_i repeats
      exact List.sublist_nil.mpr (Suggestions.candidates_eq_nil_of_repeatsTyped repeats c)
    · exact Suggestions.candidates_sublist sources _ typed c
  · intro cursor rest within
    have front : (text.take cursor ++ rest).take cursor = text.take cursor := by
      have length : (text.take cursor).length = cursor := by
        rw [List.length_take, Nat.min_eq_left within]
      rw [List.take_append_of_le_length (by omega), List.take_of_length_le (by omega)]
    have inside :
        ((text.take cursor ++ rest).length : Int) < cursor ↔ (text.length : Int) < cursor := by
      simp only [List.length_append, List.length_take]
      omega
    simp only [suggestions, Int.toNat_natCast, front, inside]

/-- The word `ma` of a list of columns goes on with `x`, with a function and two fields that start
like it. -/
theorem suggestions_narrow_max :
    let text := "SELECT ma, b FROM t".toList
    let sources : Suggestions.Sources :=
      ⟨["t"], [⟨"max", "INT64"⟩, ⟨"Maß", "UTF8"⟩], .keywords, .functions⟩
    text[8]? = some 'a' ∧ isTypedChar 'a' = true ∧ isTypedChar 'x' = true ∧
    (suggestions ("SELECT ma".toList ++ 'x' :: " FROM u".toList) 10 sources).items.Sublist
      (suggestions text 9 sources).items ∧
    suggestions ("SELECT ma".toList ++ " -- later".toList) 9 sources =
      suggestions text 9 sources := by
  intro text sources
  have narrow := suggestions_narrow text sources
  refine ⟨by decide, by decide, by decide, ?_, ?_⟩
  · exact narrow.1 9 'a' 'x' " FROM u".toList (by decide) (by decide) (by decide) (by decide)
      (by decide)
  · exact narrow.2 9 " -- later".toList (by decide)

end SqlAssist
