import SqlAssist.Proofs.AssociationLists
import SqlAssist.Proofs.LongNumbers
import SqlAssist.Proofs.TomlDocuments

/-!
# What the readers of TOML promise

Every reader of a part of a document keeps one promise (`Outcome`): what it reads is sound, what it
leaves is an end of the text, and it gives up for too many digits only where the text has a long
number, and for the depth only where the text opens more brackets than that. The promise goes
through binding (`Outcome.bind`), so there is one lemma for each reader, in the order in which the
readers are built on each other. The readers of lists and tables keep it for every reader of values
that does.

A value is `Sound` if each table in it has each key once and each whole number in it can be shown,
unless the text has a long number. Changes of a document keep that (`Sound.changeAt`), whatever
their keys are. `read_outcome` is the promise of the reader of documents.
-/
namespace SqlAssist.Toml

/-! ## Outcomes -/

/-- How a reader can end: with something that `holds`, since the text is malformed, for too many
digits if there is something `long` in the text, or too deep if there is something `deep` in it. -/
inductive Outcome {α : Type} (long deep : Prop) (holds : α → Prop) : Except Error α → Prop
  | ok {a : α} (good : holds a) : Outcome long deep holds (.ok a)
  | malformed : Outcome long deep holds (.error .malformed)
  | tooManyDigits (isLong : long) : Outcome long deep holds (.error .tooManyDigits)
  | tooDeep (isDeep : deep) : Outcome long deep holds (.error .tooDeep)

namespace Outcome

variable {α β : Type} {long deep : Prop} {holds : α → Prop} {holds' : β → Prop}
  {result : Except Error α}

theorem bind {next : α → Except Error β} (first : Outcome long deep holds result)
    (later : ∀ a, holds a → Outcome long deep holds' (next a)) :
    Outcome long deep holds' (result >>= next) := by
  cases first with
  | ok good => exact later _ good
  | malformed => exact .malformed
  | tooManyDigits isLong => exact .tooManyDigits isLong
  | tooDeep isDeep => exact .tooDeep isDeep

theorem map {f : α → β} (first : Outcome long deep holds result)
    (later : ∀ a, holds a → holds' (f a)) : Outcome long deep holds' (result.map f) := by
  cases first with
  | ok good => exact .ok (later _ good)
  | malformed => exact .malformed
  | tooManyDigits isLong => exact .tooManyDigits isLong
  | tooDeep isDeep => exact .tooDeep isDeep

theorem mono {long' deep' : Prop} {weaker : α → Prop} (first : Outcome long deep holds result)
    (isLong : long → long') (isDeep : deep → deep') (later : ∀ a, holds a → weaker a) :
    Outcome long' deep' weaker result := by
  cases first with
  | ok good => exact .ok (later _ good)
  | malformed => exact .malformed
  | tooManyDigits here => exact .tooManyDigits (isLong here)
  | tooDeep here => exact .tooDeep (isDeep here)

theorem orMalformed {found : Option α} (good : ∀ a, found = some a → holds a) :
    Outcome long deep holds (orMalformed found) := by
  cases found with
  | none => exact .malformed
  | some a => exact .ok (good a rfl)

end Outcome

/-- What was read holds, and an end of the text is left. -/
def Part {α : Type} (text : List Char) (holds : α → Prop) (found : α × List Char) : Prop :=
  holds found.1 ∧ found.2 <:+ text

theorem Part.within {α : Type} {text whole : List Char} {holds : α → Prop} {found : α × List Char}
    (part : Part text holds found) (isPart : text <:+ whole) : Part whole holds found :=
  ⟨part.1, part.2.trans isPart⟩

/-! ## Sound values -/

/-- Each table in the value has each key once, and each whole number in it fits. -/
inductive Sound (fits : Int → Prop) : Value → Prop
  | simple {value : Value} (noContainer : isContainer value = false)
      (number : ∀ n, value = .int n → fits n) : Sound fits value
  | list {items : List Value} (each : ∀ item ∈ items, Sound fits item) : Sound fits (.list items)
  | table {entries : Entries} (distinct : (Assoc.keys entries).Nodup)
      (each : ∀ entry ∈ entries, Sound fits entry.2) : Sound fits (.table entries)

namespace Sound

variable {fits : Int → Prop} {entries changed : Entries} {value : Value} {name : String}

theorem string (s : String) : Sound fits (.string s) := .simple rfl (by simp)

theorem int {n : Int} (number : fits n) : Sound fits (.int n) := by
  refine .simple rfl ?_
  rintro _ ⟨⟩
  exact number

theorem items {items : List Value} (sound : Sound fits (.list items)) :
    ∀ item ∈ items, Sound fits item := by
  cases sound with
  | simple noContainer => cases noContainer
  | list each => exact each

theorem distinct (sound : Sound fits (.table entries)) : (Assoc.keys entries).Nodup := by
  cases sound with
  | simple noContainer => cases noContainer
  | table distinct _ => exact distinct

theorem each (sound : Sound fits (.table entries)) : ∀ entry ∈ entries, Sound fits entry.2 := by
  cases sound with
  | simple noContainer => cases noContainer
  | table _ each => exact each

theorem mono {weaker : Int → Prop} (sound : Sound fits value) (weakens : ∀ n, fits n → weaker n) :
    Sound weaker value := by
  induction sound with
  | simple noContainer number =>
      exact .simple noContainer fun n isNumber => weakens n (number n isNumber)
  | list _ ih => exact .list ih
  | table distinct _ ih => exact .table distinct ih

theorem emptyTable : Sound fits (.table []) := .table List.nodup_nil (List.forall_mem_nil _)

theorem get? (sound : Sound fits (.table entries)) (found : Assoc.get? name entries = some value) :
    Sound fits value :=
  sound.each _ (Assoc.mem_of_get? found)

theorem put (sound : Sound fits (.table entries)) (new : Sound fits value) :
    Sound fits (.table (Assoc.put name value entries)) := by
  refine .table (Assoc.nodup_put sound.distinct value) ?_
  intro entry member
  rcases Assoc.mem_put member with rfl | old
  · exact new
  · exact sound.each entry old

theorem addEntry (sound : Sound fits (.table entries)) (new : Sound fits value)
    (added : addEntry name value entries = some changed) : Sound fits (.table changed) := by
  unfold Toml.addEntry at added
  split at added
  · cases added
    exact sound.put new
  · cases added

theorem appendTable (sound : Sound fits (.table entries))
    (added : appendTable name entries = some changed) : Sound fits (.table changed) := by
  unfold Toml.appendTable at added
  split at added
  · cases added
    refine sound.put (.list ?_)
    rintro item member
    rw [List.mem_singleton.mp member]
    exact emptyTable
  · rename_i items found
    cases added
    refine sound.put (.list ?_)
    intro item member
    rcases List.mem_append.mp member with old | new
    · exact (sound.get? found).items item old
    · rw [List.mem_singleton.mp new]
      exact emptyTable
  · cases added

/-- A change of sound tables keeps the document around them sound. -/
theorem changeAt {throughLists : Bool} {change : Entries → Option Entries} {key : Key}
    (keeps : ∀ {entries changed}, Sound fits (.table entries) → change entries = some changed →
      Sound fits (.table changed))
    (sound : Sound fits (.table entries))
    (isChanged : changeAt throughLists change key entries = some changed) :
    Sound fits (.table changed) := by
  fun_induction Toml.changeAt throughLists change key entries generalizing changed with
  | case1 entries => exact keeps sound isChanged
  | case2 name key entries missing ih =>
      obtain ⟨inner, changedInner, rfl⟩ := Option.map_eq_some_iff.mp isChanged
      exact sound.put (ih emptyTable changedInner)
  | case3 name key entries inner found ih =>
      obtain ⟨inner', changedInner, rfl⟩ := Option.map_eq_some_iff.mp isChanged
      exact sound.put (ih (sound.get? found) changedInner)
  | case4 name key entries items found inner last through ih =>
      subst through
      obtain ⟨inner', changedInner, rfl⟩ := Option.map_eq_some_iff.mp isChanged
      have items := (sound.get? found).items
      refine sound.put (.list ?_)
      intro item member
      rcases List.mem_append.mp member with old | new
      · exact items item ((List.dropLast_sublist _).subset old)
      · rw [List.mem_singleton.mp new]
        exact ih (items _ (List.mem_of_getLast? last)) changedInner
  | case5 | case6 => cases isChanged

theorem changeAt_outcome {long deep : Prop} {throughLists : Bool}
    {change : Entries → Option Entries} {key : Key} (sound : Sound fits (.table entries))
    (keeps : ∀ {entries changed}, Sound fits (.table entries) → change entries = some changed →
      Sound fits (.table changed)) :
    Outcome long deep (fun changed => Sound fits (.table changed))
      (orMalformed (Toml.changeAt throughLists change key entries)) :=
  .orMalformed fun _ isChanged => sound.changeAt keeps isChanged

end Sound

/-! ## Blanks, comments and texts -/

section

variable {long deep : Prop} {text : List Char}

theorem skipBlanks_suffix (text : List Char) : skipBlanks text <:+ text := List.dropWhile_suffix _

theorem skipComment_outcome (text : List Char) :
    Outcome long deep (· <:+ text) (skipComment text) := by
  unfold skipComment
  split
  · rename_i rest
    split
    · exact .malformed
    · exact .ok ((List.dropWhile_suffix _).trans (List.suffix_cons '#' rest))
  · exact .ok List.suffix_rfl

theorem skipLines_outcome (inComment : Bool) (text : List Char) :
    Outcome long deep (· <:+ text) (skipLines inComment text) := by
  induction text generalizing inComment with
  | nil => exact .ok List.suffix_rfl
  | cons c rest ih =>
      have further : ∀ inComment, Outcome long deep (· <:+ c :: rest) (skipLines inComment rest) :=
        fun inComment => (ih inComment).mono id id fun _ left =>
          left.trans (List.suffix_cons c rest)
      rw [skipLines]
      split
      · split
        · exact further false
        · split
          · exact .malformed
          · exact further true
      · split
        · exact further false
        · split
          · exact further true
          · exact .ok List.suffix_rfl

theorem skipEquals_outcome (text : List Char) :
    Outcome long deep (· <:+ text) (skipEquals text) := by
  unfold skipEquals
  split
  · rename_i rest
    exact .ok ((skipBlanks_suffix rest).trans (List.suffix_cons '=' rest))
  · exact .malformed

theorem escape?_suffix {multiline : Bool} {chars rest : List Char}
    (found : escape? multiline text = some (chars, rest)) : rest <:+ text := by
  cases text with
  | nil => cases found
  | cons c more =>
      have behind := List.suffix_cons c more
      have codePoint : ∀ {count}, codePoint? count more = some (chars, rest) →
          rest <:+ c :: more := by
        intro count isCode
        rw [codePoint?] at isCode
        split at isCode
        · obtain ⟨_, rfl⟩ := Prod.mk.inj (Option.some.inj isCode)
          exact (List.drop_suffix count more).trans behind
        · cases isCode
      rw [escape?] at found
      split at found
      · unfold joinedLine? at found
        split at found
        · obtain ⟨_, rfl⟩ := Prod.mk.inj (Option.some.inj found)
          exact List.nil_suffix
        · rename_i tail isLine
          obtain ⟨_, rfl⟩ := Prod.mk.inj (Option.some.inj found)
          have line : '\n' :: tail <:+ c :: more := isLine ▸ List.dropWhile_suffix _
          exact (List.dropWhile_suffix _).trans ((List.suffix_cons '\n' tail).trans line)
        · cases found
      · split at found
        · exact codePoint found
        · split at found
          · exact codePoint found
          · obtain ⟨_, _, same⟩ := Option.map_eq_some_iff.mp found
            obtain ⟨_, rfl⟩ := Prod.mk.inj same
            exact behind

theorem readBasic_outcome (multiline : Bool) (text : List Char) :
    Outcome long deep (Part text fun _ => True) (readBasic multiline text) := by
  fun_induction readBasic multiline text with
  | case1 => exact .malformed
  | case2 c rest closes =>
      exact .ok ⟨trivial, (List.drop_suffix _ rest).trans (List.suffix_cons c rest)⟩
  | case3 rest chars after found shorter notClosed ih =>
      refine ih.map fun read part => ⟨trivial, ?_⟩
      exact part.2.trans ((escape?_suffix found).trans (List.suffix_cons _ rest))
  | case4 | case5 => exact .malformed
  | case6 c rest notClosed notEscape allowed ih =>
      exact ih.map fun read part => ⟨trivial, part.2.trans (List.suffix_cons c rest)⟩

theorem readLiteral_outcome (multiline : Bool) (text : List Char) :
    Outcome long deep (Part text fun _ => True) (readLiteral multiline text) := by
  fun_induction readLiteral multiline text with
  | case1 => exact .malformed
  | case2 c rest closes =>
      exact .ok ⟨trivial, (List.drop_suffix _ rest).trans (List.suffix_cons c rest)⟩
  | case3 => exact .malformed
  | case4 c rest notClosed allowed ih =>
      exact ih.map fun read part => ⟨trivial, part.2.trans (List.suffix_cons c rest)⟩

theorem skipLineEnd_suffix (text : List Char) : skipLineEnd text <:+ text := by
  unfold skipLineEnd
  split
  · exact List.suffix_cons _ _
  · exact List.suffix_rfl

theorem readText_outcome (quote : Char) (text : List Char) :
    Outcome long deep (Part text fun _ => True) (readText quote text) := by
  have read : ∀ multiline part, part <:+ text → Outcome long deep (Part text fun _ => True)
      (if quote == '"' then readBasic multiline part else readLiteral multiline part) := by
    intro multiline part isPart
    split
    · exact (readBasic_outcome multiline part).mono id id fun _ found => found.within isPart
    · exact (readLiteral_outcome multiline part).mono id id fun _ found => found.within isPart
  by_cases triple : closes quote true text = true
  · have behind := (skipLineEnd_suffix (text.drop 3)).trans (List.drop_suffix 3 text)
    simp only [readText, triple, if_true]
    refine (read true _ behind).map fun found part => ⟨trivial, ?_⟩
    exact (List.drop_suffix _ found.2).trans part.2
  · simp only [readText, triple]
    exact read false _ (List.drop_suffix 1 text)

/-! ## Keys -/

theorem readKeyPart_outcome (text : List Char) :
    Outcome long deep (Part text fun _ => True) (readKeyPart text) := by
  unfold readKeyPart
  split
  · rename_i rest
    refine (readBasic_outcome false rest).map fun found part => ⟨trivial, ?_⟩
    exact part.2.trans (List.suffix_cons _ rest)
  · rename_i rest
    refine (readLiteral_outcome false rest).map fun found part => ⟨trivial, ?_⟩
    exact part.2.trans (List.suffix_cons _ rest)
  · dsimp only
    split
    · exact .malformed
    · exact .ok ⟨trivial, List.drop_suffix _ text⟩

theorem readKey_outcome (fuel : Nat) (text : List Char) :
    Outcome long deep (Part text fun _ => True) (readKey fuel text) := by
  induction fuel generalizing text with
  | zero => exact .malformed
  | succ fuel ih =>
      rw [readKey]
      refine (readKeyPart_outcome text).bind fun found part => ?_
      have left := (skipBlanks_suffix found.2).trans part.2
      dsimp only
      split
      · rename_i rest isDot
        rw [isDot] at left
        have behind := (skipBlanks_suffix rest).trans ((List.suffix_cons '.' rest).trans left)
        exact (ih (skipBlanks rest)).bind fun _ later => .ok ⟨trivial, later.2.trans behind⟩
      · exact .ok ⟨trivial, left⟩

end

/-! ## Dates, times and numbers -/

/-- The reader leaves an end of the text. -/
def LeavesEnd {α : Type} (read : List Char → Option (α × List Char)) : Prop :=
  ∀ text found, read text = some found → found.2 <:+ text

theorem LeavesEnd.bind {α β : Type} {read : List Char → Option (α × List Char)}
    {next : α → List Char → Option (β × List Char)} (first : LeavesEnd read)
    (second : ∀ a, LeavesEnd (next a)) :
    LeavesEnd fun text => (read text).bind fun found => next found.1 found.2 := by
  intro text found isFound
  obtain ⟨middle, isMiddle, later⟩ := Option.bind_eq_some_iff.mp isFound
  exact (second _ _ _ later).trans (first _ _ isMiddle)

theorem mark?_suffix {c : Char} {text rest : List Char} (found : mark? c text = some rest) :
    rest <:+ text := by
  cases text with
  | nil => cases found
  | cons d more =>
      rw [mark?] at found
      split at found
      · cases found
        exact List.suffix_cons d _
      · cases found

theorem LeavesEnd.mark {α : Type} {read : List Char → Option (α × List Char)} {c : Char}
    (leaves : LeavesEnd read) : LeavesEnd fun text => (mark? c text).bind read := by
  intro text found isFound
  obtain ⟨rest, isMark, later⟩ := Option.bind_eq_some_iff.mp isFound
  exact (leaves _ _ later).trans (mark?_suffix isMark)

theorem leavesEnd_some {α : Type} (a : α) : LeavesEnd fun text => some (a, text) := by
  rintro text _ ⟨⟩
  exact List.suffix_rfl

theorem leavesEnd_fixed (count low high : Nat) : LeavesEnd (fixed? count low high) := by
  intro text found isFound
  rw [fixed?] at isFound
  split at isFound
  · cases isFound
    exact List.drop_suffix count text
  · cases isFound

theorem fraction_suffix (text : List Char) : (fraction text).2 <:+ text := by
  unfold fraction
  split
  · dsimp only
    split
    · exact List.suffix_rfl
    · exact (List.drop_suffix _ _).trans (List.suffix_cons _ _)
  · exact List.suffix_rfl

theorem leavesEnd_time : LeavesEnd time? := by
  have fraction (hour minute second : Nat) : LeavesEnd fun text =>
      some ((⟨hour, minute, second, (fraction text).1⟩ : TimeOfDay), (fraction text).2) := by
    rintro text _ ⟨⟩
    exact fraction_suffix text
  exact (leavesEnd_fixed 2 0 23).bind fun hour =>
    .mark <| (leavesEnd_fixed 2 0 59).bind fun minute =>
    .mark <| (leavesEnd_fixed 2 0 59).bind fun second => fraction hour minute second

theorem leavesEnd_date : LeavesEnd date? :=
  (leavesEnd_fixed 4 0 9999).bind fun year => .mark <| (leavesEnd_fixed 2 1 12).bind fun month =>
    .mark <| (leavesEnd_fixed 2 1 31).bind fun day => leavesEnd_some (⟨year, month, day⟩ : Date)

theorem leavesEnd_timeAfterDate : LeavesEnd timeAfterDate? := by
  intro text found isFound
  cases text with
  | nil => cases isFound
  | cons c rest =>
      rw [timeAfterDate?] at isFound
      split at isFound
      · exact (leavesEnd_time _ _ isFound).trans (List.suffix_cons c rest)
      · cases isFound

theorem leavesEnd_hoursAndMinutes : LeavesEnd hoursAndMinutes? :=
  (leavesEnd_fixed 2 0 23).bind fun hours => .mark <| (leavesEnd_fixed 2 0 59).bind fun minutes =>
    leavesEnd_some (60 * hours + minutes : Int)

theorem offset_suffix (text : List Char) : (offset text).2 <:+ text := by
  cases text with
  | nil => exact List.suffix_rfl
  | cons c rest =>
      have behind := List.suffix_cons c rest
      have signed : ∀ sign : Int, (((hoursAndMinutes? rest).map fun found : Int × List Char =>
          (some (sign * found.1), found.2)).getD (none, c :: rest)).2 <:+ c :: rest := by
        intro sign
        cases found : hoursAndMinutes? rest with
        | none => exact List.suffix_rfl
        | some minutes => exact (leavesEnd_hoursAndMinutes _ _ found).trans behind
      rw [offset]
      split
      · exact behind
      · split
        · exact signed 1
        · split
          · exact signed (-1)
          · exact List.suffix_rfl

section

variable {long deep : Prop} {text : List Char}

theorem dateTime?_outcome {read : Read Moment} (found : dateTime? text = some read) :
    Outcome long deep (Part text fun _ => True) read := by
  obtain ⟨⟨date, rest⟩, isDate, rfl⟩ := Option.map_eq_some_iff.mp found
  have behind : rest <:+ text := leavesEnd_date _ _ isDate
  dsimp only
  split
  · exact .malformed
  · split
    · exact .ok ⟨trivial, behind⟩
    · rename_i time after isTime
      have later : after <:+ rest := leavesEnd_timeAfterDate _ _ isTime
      exact .ok ⟨trivial, (offset_suffix after).trans (later.trans behind)⟩

theorem signPart_suffix (text : List Char) : (signPart text).2 <:+ text := by
  unfold signPart
  split
  · exact List.suffix_cons _ _
  · exact List.suffix_cons _ _
  · exact List.suffix_rfl

theorem fractionPart?_suffix {digits rest : List Char}
    (found : fractionPart? text = some (digits, rest)) : rest <:+ text := by
  obtain ⟨after, isMark, isDigits⟩ := Option.bind_eq_some_iff.mp found
  exact (takesRun_digits? rfl isDigits).suffix.trans (mark?_suffix isMark)

theorem exponentPart?_suffix {exponent : Int} {rest : List Char}
    (found : exponentPart? text = some (exponent, rest)) : rest <:+ text := by
  cases text with
  | nil => cases found
  | cons c more =>
      rw [exponentPart?_cons] at found
      split at found
      · obtain ⟨⟨digits, after⟩, isDigits, same⟩ := Option.map_eq_some_iff.mp found
        obtain ⟨_, rfl⟩ := Prod.mk.inj same
        exact (takesRun_digits? rfl isDigits).suffix.trans
          ((signPart_suffix more).trans (List.suffix_cons c more))
      · cases found

theorem sound_float (fits : Int → Prop) (x : Float) : Sound fits (.float x) := .simple rfl (by simp)

/-- A decimal number is refused only if its run of digits is too long, and else it can be shown. -/
theorem decimal?_outcome {read : Read Value} (found : decimal? text = some read) :
    Outcome (HasLongNumber text) deep (Part text (Sound (Fits text))) read := by
  obtain ⟨⟨whole, rest⟩, isWhole, rfl⟩ := Option.map_eq_some_iff.mp found
  have takes := takesRun_wholePart? isWhole
  have signed := signPart_suffix text
  have behind : ((fractionPart? rest).getD ([], rest)).2 <:+ text := by
    refine List.IsSuffix.trans ?_ (takes.suffix.trans signed)
    cases isFraction : fractionPart? rest with
    | none => exact List.suffix_rfl
    | some fraction => exact fractionPart?_suffix isFraction
  dsimp only
  split
  · rename_i exponent after isExponent
    exact .ok ⟨sound_float _ _, (exponentPart?_suffix isExponent).trans behind⟩
  · split
    · exact .ok ⟨sound_float _ _, behind⟩
    · split
      · rename_i many
        obtain ⟨run, isPrefix, isLong⟩ := takes.exists_long many
        exact .tooManyDigits (.inl ⟨run, isPrefix.isInfix.trans signed.isInfix, isLong⟩)
      · have fits : Fits text (Text.digitsValue whole : Nat) :=
          (takes.fits (fun _ => digitValue_lt) (fun _ => id) (by decide) (by decide)).mono
            signed.isInfix
        have either : ∀ negative : Bool, Fits text (if negative = true
            then -(Text.digitsValue whole : Int) else (Text.digitsValue whole : Int)) := by
          intro negative
          split
          · exact fits.neg
          · exact fits
        exact .ok ⟨.int (either _), behind⟩

theorem special?_suffix {value : Value} {rest : List Char}
    (found : special? text = some (value, rest)) : (∃ x, value = .float x) ∧ rest <:+ text := by
  simp only [special?] at found
  split at found
  · obtain ⟨x, _, same⟩ := Option.map_eq_some_iff.mp found
    obtain ⟨rfl, rfl⟩ := Prod.mk.inj same
    exact ⟨⟨x, rfl⟩, (List.drop_suffix 3 _).trans (signPart_suffix text)⟩
  · cases found

theorem readScalar_outcome (text : List Char) :
    Outcome (HasLongNumber text) deep (Part text (Sound (Fits text))) (readScalar text) := by
  have moment : ∀ m, Sound (Fits text) (.moment m) := fun m => .simple rfl (by simp)
  unfold readScalar
  split
  · rename_i read found
    exact (dateTime?_outcome found).map fun _ part => ⟨moment _, part.2⟩
  · split
    · rename_i time rest found
      exact .ok ⟨moment _, leavesEnd_time _ _ found⟩
    · split
      · rename_i n rest found
        obtain ⟨fits, left⟩ := baseNumber?_fits found
        exact .ok ⟨.int fits, left⟩
      · split
        · rename_i read found
          exact decimal?_outcome found
        · split
          · rename_i value found
            obtain ⟨⟨x, isFloat⟩, left⟩ := special?_suffix found
            exact .ok ⟨isFloat ▸ sound_float _ x, left⟩
          · exact .malformed

end

/-! ## Values -/

/-- The brackets that lists and tables begin with. -/
def isOpening (c : Char) : Bool := c == '[' || c == '{'

/-- How many brackets are opened in a text. -/
def brackets (text : List Char) : Nat := text.countP isOpening

theorem brackets_le {part text : List Char} (isEnd : part <:+ text) :
    brackets part ≤ brackets text :=
  isEnd.sublist.countP_le

theorem brackets_cons {c : Char} (rest : List Char) (opens : isOpening c = true) :
    brackets (c :: rest) = brackets rest + 1 :=
  List.countP_cons_of_pos opens

/-- How reading an end of a text can end, in terms of the whole text. -/
abbrev Promise {α : Type} (whole : List Char) (deep : Prop) (holds : α → Prop) : Read α → Prop :=
  Outcome (HasLongNumber whole) deep (Part whole holds)

theorem Outcome.within {α : Type} {part whole : List Char} {deep deep' : Prop}
    {holds holds' : α → Prop} {result : Read α} (promise : Promise part deep holds result)
    (isEnd : part <:+ whole) (isDeep : deep → deep') (later : ∀ a, holds a → holds' a) :
    Promise whole deep' holds' result := by
  refine promise.mono (·.mono isEnd.isInfix) isDeep ?_
  intro found here
  exact ⟨later _ here.1, here.2.trans isEnd⟩

theorem Sound.widen {part whole : List Char} {value : Value} (sound : Sound (Fits part) value)
    (isEnd : part <:+ whole) : Sound (Fits whole) value :=
  sound.mono fun _ fits => fits.mono isEnd.isInfix

/-- The reader gives sound values on each end of the text. -/
def ReadsValues (whole : List Char) (deep : Prop) (inner : List Char → Read Value) : Prop :=
  ∀ text, text <:+ whole → Promise whole deep (Sound (Fits whole)) (inner text)

namespace ReadsValues

variable {whole text : List Char} {deep : Prop} {inner : List Char → Read Value}

theorem items (reads : ReadsValues whole deep inner) (fuel : Nat) (isEnd : text <:+ whole) :
    Promise whole deep (fun items => Sound (Fits whole) (.list items))
      (readItems inner fuel text) := by
  induction fuel generalizing text with
  | zero => exact .malformed
  | succ fuel ih =>
      rw [readItems]
      refine (skipLines_outcome false text).bind fun rest isRest => ?_
      have left := isRest.trans isEnd
      split
      · exact .ok ⟨.list (List.forall_mem_nil _), (List.suffix_cons ']' _).trans left⟩
      · refine (reads _ left).bind fun found part => ?_
        refine (skipLines_outcome false found.2).bind fun rest isRest => ?_
        have left := isRest.trans part.2
        split
        · refine .ok ⟨.list (List.forall_mem_singleton.mpr part.1), ?_⟩
          exact (List.suffix_cons ']' _).trans left
        · refine (ih ((List.suffix_cons ',' _).trans left)).bind fun more later => ?_
          exact .ok ⟨.list (List.forall_mem_cons.mpr ⟨part.1, later.1.items⟩), later.2⟩
        · exact .malformed

theorem entries (reads : ReadsValues whole deep inner) (fuel : Nat) (closed : List Key)
    {entries : Entries} (isEnd : text <:+ whole) (soFar : Sound (Fits whole) (.table entries)) :
    Promise whole deep (fun entries => Sound (Fits whole) (.table entries))
      (readEntries inner fuel closed entries text) := by
  induction fuel generalizing closed entries text with
  | zero => exact .malformed
  | succ fuel ih =>
      rw [readEntries]
      refine (readKey_outcome text.length text).bind fun key isKey => ?_
      refine (skipEquals_outcome key.2).bind fun behind isBehind => ?_
      refine (reads _ (isBehind.trans (isKey.2.trans isEnd))).bind fun value isValue => ?_
      dsimp only
      split
      · exact .malformed
      · refine (soFar.changeAt_outcome fun before => before.addEntry isValue.1).bind
          fun entries isSound => ?_
        have left := (skipBlanks_suffix value.2).trans isValue.2
        split
        · rename_i after isBrace
          rw [isBrace] at left
          exact .ok ⟨isSound, (List.suffix_cons '}' after).trans left⟩
        · rename_i after isComma
          rw [isComma] at left
          have behind := (skipBlanks_suffix after).trans ((List.suffix_cons ',' after).trans left)
          exact ih _ behind isSound
        · exact .malformed

end ReadsValues

/-- A value is sound if those inside of it are: they stand behind the bracket that it begins
with. -/
theorem readValueWith_outcome {text : List Char} {deep : Prop} {inner : List Char → Read Value}
    (reads : ∀ c rest, text = c :: rest → isOpening c = true → ReadsValues rest deep inner) :
    Promise text deep (Sound (Fits text)) (readValueWith inner text) := by
  have quoted : ∀ quote, Promise text deep (Sound (Fits text))
      ((readText quote text).map fun found => (Value.string (String.ofList found.1), found.2)) := by
    intro quote
    exact (readText_outcome quote text).map fun _ part => ⟨.string _, part.2⟩
  unfold readValueWith
  split
  · exact quoted '"'
  · exact quoted '\''
  · exact .ok ⟨.simple rfl (by simp), List.suffix_append ['t', 'r', 'u', 'e'] _⟩
  · exact .ok ⟨.simple rfl (by simp), List.suffix_append ['f', 'a', 'l', 's', 'e'] _⟩
  · rename_i rest
    have behind := List.suffix_cons '[' rest
    have items := (reads '[' rest rfl rfl).items (rest.length + 1) List.suffix_rfl
    exact (items.within behind id fun _ sound => sound.widen behind).map fun _ part => part
  · rename_i rest
    have behind := List.suffix_cons '{' rest
    have left := skipBlanks_suffix rest
    split
    · rename_i after isBrace
      rw [isBrace] at left
      exact .ok ⟨Sound.emptyTable, (List.suffix_cons '}' after).trans (left.trans behind)⟩
    · have entries := (reads '{' rest rfl rfl).entries ((skipBlanks rest).length + 1) []
        left Sound.emptyTable
      exact (entries.within behind id fun _ sound => sound.widen behind).map fun _ part => part
  · exact readScalar_outcome text

/-- Reading a value fails for its depth only if the text opens more brackets than that. -/
theorem readValue_outcome (depth : Nat) (text : List Char) :
    Promise text (depth < brackets text) (Sound (Fits text)) (readValue depth text) := by
  induction depth generalizing text with
  | zero =>
      refine readValueWith_outcome fun c rest isText opens part _ => .tooDeep ?_
      rw [isText, brackets_cons rest opens]
      exact Nat.succ_pos _
  | succ depth ih =>
      refine readValueWith_outcome fun c rest isText opens part isEnd => ?_
      refine (ih part).within isEnd (fun deep => ?_) fun _ sound => sound.widen isEnd
      rw [isText, brackets_cons rest opens]
      exact Nat.succ_lt_succ (Nat.lt_of_lt_of_le deep (brackets_le isEnd))

/-- A value at the end of a text, with the causes of failure in terms of the whole text. -/
theorem readValue_end {part whole : List Char} (depth : Nat) (isEnd : part <:+ whole) :
    Outcome (HasLongNumber whole) (depth < brackets whole) (Part part (Sound (Fits whole)))
      (readValue depth part) := by
  refine (readValue_outcome depth part).mono (·.mono isEnd.isInfix) (fun deep => ?_) ?_
  · exact Nat.lt_of_lt_of_le deep (brackets_le isEnd)
  · intro found here
    exact ⟨here.1.widen isEnd, here.2⟩

/-! ## Statements -/

/-- What has been read so far is sound. -/
def SoundDraft (fits : Int → Prop) (draft : Draft) : Prop := Sound fits (.table draft.entries)

namespace SoundDraft

variable {fits : Int → Prop} {long deep : Prop} {draft : Draft} {value : Value}
  {whole text : List Char}

theorem openTable (sound : SoundDraft fits draft) (key : Key) :
    Outcome long deep (SoundDraft fits) (draft.openTable key) := by
  simp only [Draft.openTable]
  split
  · exact .malformed
  · refine (sound.changeAt_outcome fun before same => ?_).bind fun entries isSound => .ok isSound
    cases same
    exact before

theorem openItem (sound : SoundDraft fits draft) (key : Key) :
    Outcome long deep (SoundDraft fits) (draft.openItem key) := by
  simp only [Draft.openItem]
  split
  · exact .malformed
  · exact (sound.changeAt_outcome fun before => before.appendTable).bind fun entries isSound =>
      .ok isSound

theorem assign (sound : SoundDraft fits draft) (key : Key) (new : Sound fits value) :
    Outcome long deep (SoundDraft fits) (draft.assign key value) := by
  simp only [Draft.assign]
  split
  · exact .malformed
  · split
    · exact .malformed
    · exact (sound.changeAt_outcome fun before => before.addEntry new).bind fun entries isSound =>
        .ok isSound

theorem readStatement (depth : Nat) (sound : SoundDraft (Fits whole) draft)
    (isEnd : text <:+ whole) :
    Outcome (HasLongNumber whole) (depth < brackets whole) (Part text (SoundDraft (Fits whole)))
      (readStatement depth draft text) := by
  unfold Toml.readStatement
  split
  · rename_i rest
    have behind := (skipBlanks_suffix rest).trans (List.suffix_append ['[', '['] rest)
    refine (readKey_outcome rest.length (skipBlanks rest)).bind fun key isKey => ?_
    refine (sound.openItem key.1).bind fun opened isSound => ?_
    have left := isKey.2.trans behind
    split
    · rename_i after isBracket
      rw [isBracket] at left
      exact .ok ⟨isSound, (List.suffix_append [']', ']'] after).trans left⟩
    · exact .malformed
  · rename_i rest _
    have behind := (skipBlanks_suffix rest).trans (List.suffix_cons '[' rest)
    refine (readKey_outcome rest.length (skipBlanks rest)).bind fun key isKey => ?_
    refine (sound.openTable key.1).bind fun opened isSound => ?_
    have left := isKey.2.trans behind
    split
    · rename_i after isBracket
      rw [isBracket] at left
      exact .ok ⟨isSound, (List.suffix_cons ']' after).trans left⟩
    · exact .malformed
  · exact .ok ⟨sound, List.suffix_rfl⟩
  · refine (readKey_outcome text.length text).bind fun key isKey => ?_
    refine (skipEquals_outcome key.2).bind fun behind isBehind => ?_
    have left := isBehind.trans isKey.2
    refine (readValue_end depth (left.trans isEnd)).bind fun value isValue => ?_
    exact (sound.assign key.1 isValue.1).bind fun assigned isSound =>
      .ok ⟨isSound, isValue.2.trans left⟩

theorem readStatements (depth : Nat) (sound : SoundDraft (Fits whole) draft) (fuel : Nat)
    (isEnd : text <:+ whole) :
    Outcome (HasLongNumber whole) (depth < brackets whole) (SoundDraft (Fits whole))
      (readStatements depth fuel draft text) := by
  induction fuel generalizing draft text with
  | zero => exact .malformed
  | succ fuel ih =>
      have left := (skipBlanks_suffix text).trans isEnd
      unfold Toml.readStatements
      split
      · exact .ok sound
      · rename_i rest isLine
        rw [isLine] at left
        exact ih sound ((List.suffix_cons '\n' rest).trans left)
      · refine (sound.readStatement depth left).bind fun found part => ?_
        have after := (skipBlanks_suffix found.2).trans (part.2.trans left)
        refine (skipComment_outcome (skipBlanks found.2)).bind fun line isLine => ?_
        have left := isLine.trans after
        split
        · exact .ok part.1
        · exact ih part.1 ((List.suffix_cons '\n' _).trans left)
        · exact .malformed

end SoundDraft

/-! ## Documents -/

theorem prefix_of_prefix_plainLines {run text : List Char} (noEnd : '\n' ∉ run)
    (atStart : run <+: plainLines text) : run <+: text := by
  fun_induction plainLines text generalizing run with
  | case1 rest ih =>
      cases run with
      | nil => exact List.nil_prefix
      | cons c more =>
          obtain ⟨rfl, _⟩ := List.cons_prefix_cons.mp atStart
          exact absurd List.mem_cons_self noEnd
  | case2 c rest _ ih =>
      cases run with
      | nil => exact List.nil_prefix
      | cons d more =>
          obtain ⟨rfl, later⟩ := List.cons_prefix_cons.mp atStart
          have noEnd' : '\n' ∉ more := fun member => noEnd (List.mem_cons_of_mem _ member)
          exact List.cons_prefix_cons.mpr ⟨rfl, ih noEnd' later⟩
  | case3 => exact atStart

theorem infix_of_infix_plainLines {run text : List Char} (noEnd : '\n' ∉ run)
    (inside : run <:+: plainLines text) : run <:+: text := by
  fun_induction plainLines text with
  | case1 rest ih =>
      rcases List.infix_cons_iff.mp inside with atStart | later
      · have atStart : run <+: plainLines ('\r' :: '\n' :: rest) := atStart
        exact (prefix_of_prefix_plainLines noEnd atStart).isInfix
      · exact (ih later).trans (List.suffix_append ['\r', '\n'] rest).isInfix
  | case2 c rest noReturn ih =>
      rcases List.infix_cons_iff.mp inside with atStart | later
      · rw [← plainLines.eq_2 c rest noReturn] at atStart
        exact (prefix_of_prefix_plainLines noEnd atStart).isInfix
      · exact (ih later).trans (List.suffix_cons c rest).isInfix
  | case3 => exact inside

theorem not_mem_of_longRun {isDigit : Char → Bool} {limit : Nat} {run : List Char}
    (isLong : LongRun isDigit limit run) (noDigit : isDigit '\n' = false) : '\n' ∉ run := by
  intro member
  rcases isLong.1 '\n' member with digit | underscore
  · rw [noDigit] at digit
    cases digit
  · exact absurd underscore (by decide)

/-- The ends of lines are nothing to a long number: it is one before they are made plain. -/
theorem hasLongNumber_of_plainLines {text : List Char} (long : HasLongNumber (plainLines text)) :
    HasLongNumber text := by
  rcases long with ⟨run, inside, isLong⟩ | ⟨run, inside, isLong⟩
  · exact .inl ⟨run, infix_of_infix_plainLines (not_mem_of_longRun isLong rfl) inside, isLong⟩
  · refine .inr ⟨run, infix_of_infix_plainLines ?_ inside, isLong⟩
    simp [not_mem_of_longRun isLong rfl]

theorem brackets_plainLines (text : List Char) : brackets (plainLines text) = brackets text := by
  fun_induction plainLines text with
  | case1 rest ih => simpa [brackets, List.countP_cons, isOpening] using ih
  | case2 c rest _ ih => simpa [brackets, List.countP_cons] using ih
  | case3 => rfl

/-- Reading gives a sound document, or the text is malformed, or there is a long number in it, or it
opens more brackets than the depth allows. -/
theorem read_outcome (depth : Nat) (text : List Char) :
    Outcome (HasLongNumber text) (depth < brackets text)
      (fun document => Sound (Fits text) (.table document)) (read depth text) := by
  have empty : SoundDraft (Fits (plainLines text)) {} := Sound.emptyTable
  have statements := empty.readStatements depth ((plainLines text).length + 1) List.suffix_rfl
  rw [brackets_plainLines] at statements
  refine (statements.mono hasLongNumber_of_plainLines id fun _ => id).map fun draft sound => ?_
  exact Sound.mono sound fun n fits => fits.imp_left hasLongNumber_of_plainLines

end SqlAssist.Toml
