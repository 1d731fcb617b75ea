import SqlAssist.Proofs.WordLookup
import SqlAssist.StyledText

/-!
# Looks of rendered spans

A span says where its characters stand in the text it was found in. The rendered text lacks the
control characters of that text, so the characters may stand further to the left there
(`shownRange`), but looks are given to the range as it is. `render_inPlace_iff` says when both come
to the same: no control character stands before the span, and none inside of it unless all that
follows is control characters. `render_secondLine_displaced` is the case of a text with two lines,
the first of which ends in a carriage return and a line feed: the look of a word in the second line
starts one character too late.
-/
namespace SqlAssist

/-! ## Texts without control characters -/

theorem terminalText_append (left right : List Char) :
    terminalText (left ++ right) = terminalText left ++ terminalText right := List.filter_append ..

theorem length_terminalText_le (text : List Char) : (terminalText text).length ≤ text.length :=
  List.length_filter_le ..

theorem length_terminalText_eq_iff {text : List Char} : (terminalText text).length = text.length ↔
    ∀ c ∈ text, isTerminalControl c = false := by
  simp only [terminalText, List.length_filter_eq_length_iff, Bool.not_eq_true']

theorem terminalText_eq_nil_iff {text : List Char} : terminalText text = [] ↔
    ∀ c ∈ text, isTerminalControl c = true := by
  simp only [terminalText, List.filter_eq_nil_iff, Bool.not_eq_true', Bool.not_eq_false]

/-! ## Where characters are shown -/

/-- The place in the rendered text of what stands at an offset. -/
def shownPlace (text : List Char) (offset : Int) : Int :=
  (terminalText (text.take offset.toNat)).length

/-- The range in the rendered text of the characters of a range. -/
def shownRange (text : List Char) (range : TextRange) : TextRange :=
  ⟨shownPlace text range.start, shownPlace text range.stop⟩

/-- No control character stands before the range, and none inside of it unless all that follows the
range is control characters. -/
structure InPlace (text : List Char) (range : TextRange) : Prop where
  before : ∀ c ∈ text.take range.start.toNat, isTerminalControl c = false
  inside : (∀ c ∈ range.slice text, isTerminalControl c = false) ∨
    ∀ c ∈ text.drop range.stop.toNat, isTerminalControl c = true

section

variable {text : List Char} {start stop : Nat}

theorem take_eq_append_slice (ordered : start ≤ stop) :
    text.take stop = text.take start ++ (text.take stop).drop start := by
  have split := List.take_append_drop start (text.take stop)
  rw [List.take_take, Nat.min_eq_left ordered] at split
  exact split.symm

theorem shownRange_natCast (ordered : start ≤ stop) : shownRange text ⟨start, stop⟩ =
    ⟨(terminalText (text.take start)).length, ((terminalText (text.take start)).length +
      (terminalText ((text.take stop).drop start)).length : Nat)⟩ := by
  rw [← List.length_append, ← terminalText_append, ← take_eq_append_slice ordered]
  rfl

theorem terminalText_eq_append (text : List Char) (ordered : start ≤ stop) : terminalText text =
    terminalText (text.take start) ++ terminalText ((text.take stop).drop start) ++
      terminalText (text.drop stop) := by
  rw [← terminalText_append, ← take_eq_append_slice ordered, ← terminalText_append,
    List.take_append_drop]

/-- The shown range of a range has its characters, but for the control characters among them. -/
theorem slice_shownRange (ordered : start ≤ stop) :
    (shownRange text ⟨start, stop⟩).slice (terminalText text) =
      terminalText (TextRange.slice ⟨start, stop⟩ text) := by
  rw [shownRange_natCast ordered, terminalText_eq_append text ordered, TextRange.slice_middle,
    TextRange.slice_natCast]

theorem inPlace_iff_length (ordered : start ≤ stop) (bound : stop ≤ text.length) :
    InPlace text ⟨start, stop⟩ ↔ (terminalText (text.take start)).length = start ∧
      ((terminalText ((text.take stop).drop start)).length = stop - start ∨
        (terminalText (text.drop stop)).length = 0) := by
  have front : (text.take start).length = start := by
    rw [List.length_take]
    omega
  have middle : ((text.take stop).drop start).length = stop - start := by
    rw [List.length_drop, List.length_take]
    omega
  have before := @length_terminalText_eq_iff (text.take start)
  have inside := @length_terminalText_eq_iff ((text.take stop).drop start)
  rw [front] at before
  rw [middle] at inside
  rw [before, inside, List.length_eq_zero_iff, terminalText_eq_nil_iff, ← TextRange.slice_natCast]
  constructor
  · intro inPlace
    exact ⟨inPlace.before, inPlace.inside⟩
  · rintro ⟨before, inside⟩
    exact ⟨before, inside⟩

end

namespace StyledText

/-! ## Rendering span by span -/

/-- The text has a range with the given look and characters. -/
def Shows (styled : StyledText) (look : String) (characters : List Char) : Prop :=
  ∃ range, (range, look) ∈ styled.spans ∧ range.slice styled.plain = characters

variable {theme : Theme} {text : List Char} {span : StyledSpan} {look : String}

theorem stylize_eq (styled : StyledText) (look : String) (range : TextRange) :
    styled.stylize look range =
      ⟨styled.plain, styled.spans ++ (stylize ⟨styled.plain, []⟩ look range).spans⟩ := by
  simp only [stylize]
  split_ifs <;> simp

/-- What a span adds depends on the text alone and comes behind what is there. -/
theorem addSpan_eq (theme : Theme) (styled : StyledText) (span : StyledSpan) :
    addSpan theme styled span =
      ⟨styled.plain, styled.spans ++ (addSpan theme ⟨styled.plain, []⟩ span).spans⟩ := by
  simp only [addSpan]
  split
  · split
    · simp
    · exact stylize_eq styled _ span.range
  · simp

theorem foldl_addSpan (spans : List StyledSpan) (styled : StyledText) :
    spans.foldl (addSpan theme) styled = ⟨styled.plain, styled.spans ++
      spans.flatMap fun span => (addSpan theme ⟨styled.plain, []⟩ span).spans⟩ := by
  induction spans generalizing styled with
  | nil => simp
  | cons span spans ih =>
      rw [List.foldl_cons, ih, addSpan_eq, List.flatMap_cons, List.append_assoc]

/-- Rendering puts together what each span gives by itself. -/
theorem render_eq (text : List Char) (spans : List StyledSpan) (theme : Theme) :
    render text spans theme =
      ⟨terminalText text, spans.flatMap fun span => (render text [span] theme).spans⟩ :=
  foldl_addSpan spans (ofText text)

/-- A span by itself gives its range as it is, up to the end of the rendered text. -/
theorem spans_render_singleton {start stop : Nat} (range : span.range = ⟨start, stop⟩)
    (isLook : Assoc.get? span.style.name theme = some look) (inhabited : look ≠ "") :
    (render text [span] theme).spans =
      if (terminalText text).length ≤ start ∨ stop ≤ start then []
      else [(⟨start, min (terminalText text).length stop⟩, look)] := by
  have named : look.isEmpty = false := by
    rw [← Bool.not_eq_true, String.isEmpty_iff]
    exact inhabited
  have forward : ¬ (start : Int) < 0 ∧ ¬ (stop : Int) < 0 := by omega
  simp only [render, List.foldl_cons, List.foldl_nil, addSpan, isLook, named, stylize, ofText,
    range, Bool.false_eq_true, if_false, if_neg forward.1, if_neg forward.2, Int.ofNat_le]
  split <;> rfl

/-- The span by itself is shown on its characters exactly if they are in place. -/
theorem render_singleton_iff {start stop : Nat} (range : span.range = ⟨start, stop⟩)
    (ordered : start < stop) (bound : stop ≤ text.length)
    (isLook : Assoc.get? span.style.name theme = some look) (inhabited : look ≠ "")
    (visible : terminalText (span.range.slice text) ≠ []) :
    (render text [span] theme).spans = [(shownRange text span.range, look)] ↔
      InPlace text span.range := by
  rw [spans_render_singleton range isLook inhabited]
  rw [range, TextRange.slice_natCast, ← List.length_pos_iff] at visible
  rw [range, shownRange_natCast (Nat.le_of_lt ordered),
    inPlace_iff_length (Nat.le_of_lt ordered) bound]
  -- With the lengths of what is shown before, of and behind the span, the rest is arithmetic.
  have total := congrArg List.length (terminalText_eq_append text (Nat.le_of_lt ordered))
  have front := length_terminalText_le (text.take start)
  have middle := length_terminalText_le ((text.take stop).drop start)
  rw [List.length_take, Nat.min_eq_left (by omega)] at front
  rw [List.length_drop, List.length_take, Nat.min_eq_left bound] at middle
  rw [List.length_append, List.length_append] at total
  constructor
  · intro shown
    split at shown
    · cases shown
    · simp only [List.cons.injEq, Prod.mk.injEq, TextRange.mk.injEq, and_true] at shown
      omega
  · rintro ⟨starts, inside⟩
    rw [if_neg (by omega)]
    simp only [List.cons.injEq, Prod.mk.injEq, TextRange.mk.injEq, and_true]
    omega

end StyledText

namespace Highlight

variable {text : List Char} {span : StyledSpan}

/-! ## Highlighted spans are within their text -/

theorem exists_range_of_mem_found {β : Type} {rules : List (β × Pattern)} {style : Found β → Style}
    (member : span ∈ (Found.all rules text).map fun found => ⟨found.range, style found⟩) :
    ∃ start stop : Nat, span.range = ⟨start, stop⟩ ∧ start < stop ∧ stop ≤ text.length := by
  obtain ⟨found, isFound, rfl⟩ := List.mem_map.mp member
  obtain ⟨_, _, occurs⟩ := exists_occurs isFound
  exact ⟨_, _, rfl, occurs.inhabited, occurs.inside⟩

theorem exists_range_of_mem_combined {spans : List StyledSpan} {rules : List (Style × Pattern)}
    (within : ∀ span ∈ spans, ∃ start stop : Nat, span.range = ⟨start, stop⟩ ∧ start < stop ∧
      stop ≤ text.length) (member : span ∈ combined spans rules text) :
    ∃ start stop : Nat, span.range = ⟨start, stop⟩ ∧ start < stop ∧ stop ≤ text.length := by
  rcases List.mem_append.mp ((sorted_perm _).mem_iff.mp member) with isProtected | isFound
  · exact within span isProtected
  · obtain ⟨rule, _, isFound⟩ := List.mem_flatMap.mp isFound
    obtain ⟨start, stop, range, occurs, _⟩ := exists_of_mem_unprotected isFound
    exact ⟨start, stop, range, occurs.inhabited, occurs.inside⟩

theorem exists_range_of_mem {spans : List StyledSpan}
    (highlighted : spans = highlightSql text ∨ spans = highlightJson text) (member : span ∈ spans) :
    ∃ start stop : Nat, span.range = ⟨start, stop⟩ ∧ start < stop ∧ stop ≤ text.length := by
  rcases highlighted with rfl | rfl
  · exact exists_range_of_mem_combined (fun _ => exists_range_of_mem_found) member
  · exact exists_range_of_mem_combined (fun _ => exists_range_of_mem_found) member

/-- A text of two lines, the first of which ends in a carriage return and a line feed. -/
theorem highlightSql_twoLines : highlightSql "SELECT a\r\nFROM t".toList =
    [⟨⟨0, 6⟩, .keyword⟩, ⟨⟨10, 14⟩, .keyword⟩] := by
  rw [← highlightSqlWith_congr (fun _ => Vocabulary.Listing.keywords.mem_iff.symm)
    (fun _ => Vocabulary.Listing.functions.mem_iff.symm)]
  have unquoted : (Found.all protectedRules "SELECT a\r\nFROM t".toList).map Highlight.span =
      [] := by
    decide +kernel
  have words : (rulesWith Vocabulary.Listing.keywords.words
      Vocabulary.Listing.functions.words).flatMap (unprotected [] "SELECT a\r\nFROM t".toList) =
        [⟨⟨0, 6⟩, .keyword⟩, ⟨⟨10, 14⟩, .keyword⟩] := by
    decide +kernel
  -- The words are found in the order of the text, so there is nothing to sort.
  rw [highlightSqlWith, combined, unquoted, List.map_nil, List.nil_append, words, sorted_eq,
    List.mergeSort_of_pairwise (by decide)]

end Highlight

open StyledText

/-- Looks stand on the characters they were found for as long as these are in place. Let a span of a
highlighting have a look in the theme, and some character that is shown. Its characters are in the
rendered text, and the span by itself is rendered on them exactly if they are in place. In that case
the rendered text has them in that look. -/
theorem render_inPlace_iff {text : List Char} {spans : List StyledSpan}
    (highlighted : spans = highlightSql text ∨ spans = highlightJson text) {span : StyledSpan}
    (member : span ∈ spans) {theme : Theme} {look : String}
    (isLook : Assoc.get? span.style.name theme = some look) (inhabited : look ≠ "")
    (visible : terminalText (span.range.slice text) ≠ []) :
    (shownRange text span.range).slice (render text spans theme).plain =
      terminalText (span.range.slice text) ∧
    ((render text [span] theme).spans = [(shownRange text span.range, look)] ↔
      InPlace text span.range) ∧
    (InPlace text span.range →
      (render text spans theme).Shows look (terminalText (span.range.slice text))) := by
  obtain ⟨start, stop, range, ordered, bound⟩ := Highlight.exists_range_of_mem highlighted member
  have alone := render_singleton_iff range ordered bound isLook inhabited visible
  have shown : (shownRange text span.range).slice (render text spans theme).plain =
      terminalText (span.range.slice text) := by
    rw [render_eq, range]
    exact slice_shownRange (Nat.le_of_lt ordered)
  refine ⟨shown, alone, fun inPlace => ⟨shownRange text span.range, ?_, shown⟩⟩
  rw [render_eq, List.mem_flatMap]
  refine ⟨span, member, ?_⟩
  rw [alone.mpr inPlace]
  exact List.mem_singleton_self _

/-- The first line is in place, and its keyword is shown in its look. -/
theorem render_inPlace_firstLine :
    ⟨⟨0, 6⟩, .keyword⟩ ∈ highlightSql "SELECT a\r\nFROM t".toList ∧
    InPlace "SELECT a\r\nFROM t".toList ⟨0, 6⟩ ∧
    (render "SELECT a\r\nFROM t".toList (highlightSql "SELECT a\r\nFROM t".toList)
      Theme.default).Shows "bold blue" (terminalText "SELECT".toList) := by
  have member : ⟨⟨0, 6⟩, .keyword⟩ ∈ highlightSql "SELECT a\r\nFROM t".toList := by
    rw [Highlight.highlightSql_twoLines]
    exact List.mem_cons_self
  have inPlace : InPlace "SELECT a\r\nFROM t".toList ⟨0, 6⟩ :=
    ⟨length_terminalText_eq_iff.mp (by decide), .inl (length_terminalText_eq_iff.mp (by decide))⟩
  have isLook : Assoc.get? Style.keyword.name Theme.default = some "bold blue" := by decide
  have shown := render_inPlace_iff (.inl rfl) member isLook (by decide) (by decide)
  exact ⟨member, inPlace, shown.2.2 inPlace⟩

/-- The second line is not in place: the carriage return is not shown, but the look of its keyword
starts as far from the start as if it were. No range in that look has the characters of the
keyword. -/
theorem render_secondLine_displaced :
    ⟨⟨10, 14⟩, .keyword⟩ ∈ highlightSql "SELECT a\r\nFROM t".toList ∧
    Assoc.get? Style.keyword.name Theme.default = some "bold blue" ∧
    terminalText (TextRange.slice ⟨10, 14⟩ "SELECT a\r\nFROM t".toList) = "FROM".toList ∧
    ¬ (render "SELECT a\r\nFROM t".toList (highlightSql "SELECT a\r\nFROM t".toList)
      Theme.default).Shows "bold blue" "FROM".toList := by
  rw [Highlight.highlightSql_twoLines]
  refine ⟨by decide, by decide, by decide, ?_⟩
  have rendered : render "SELECT a\r\nFROM t".toList [⟨⟨0, 6⟩, .keyword⟩, ⟨⟨10, 14⟩, .keyword⟩]
      Theme.default =
        ⟨"SELECT a\nFROM t".toList, [(⟨0, 6⟩, "bold blue"), (⟨10, 14⟩, "bold blue")]⟩ := by
    decide +kernel
  rw [rendered]
  rintro ⟨range, isShown, characters⟩
  simp only [List.mem_cons, Prod.mk.injEq, and_true, List.not_mem_nil, or_false] at isShown
  rcases isShown with rfl | rfl
  · exact absurd characters (by decide)
  · exact absurd characters (by decide)

end SqlAssist
