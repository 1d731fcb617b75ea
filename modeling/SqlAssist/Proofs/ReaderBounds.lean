import SqlAssist.Proofs.TomlReaders

/-!
# The bounds of the reader

Two numbers bound the reader of documents.

* **fuel** — the loops of the reader never use up their fuel: every turn takes a dot, a comma or a
  line end from the text. With more of it keys (`readKey_fuel`), lists and tables (`readValue_fuel`)
  and documents (`read_fuel`) are read in the same way. So a text is malformed for what stands in
  it, and never for fuel.
* **depth** — the depth of the values decides whether they are too deep, and nothing else: what is
  read with less room is too deep, or the same as with more (`read_narrows`). Brackets in brackets
  are too deep as soon as there are more of them than the depth allows (`readValue_replicate`).
-/
namespace SqlAssist.Toml

/-! ## Fuel -/

/-- What follows a reader matters only for what the reader can give. -/
theorem Outcome.bind_congr {α β : Type} {long deep : Prop} {holds : α → Prop}
    {result : Except Error α} {next next' : α → Except Error β}
    (outcome : Outcome long deep holds result) (same : ∀ a, holds a → next a = next' a) :
    result >>= next = result >>= next' := by
  cases outcome with
  | ok good => exact same _ good
  | malformed | tooManyDigits | tooDeep => rfl

theorem readKey_fuel {text : List Char} {fuel more : Nat} (enough : text.length ≤ fuel)
    (isMore : fuel ≤ more) : readKey more text = readKey fuel text := by
  induction fuel generalizing text more with
  | zero =>
      rw [List.length_eq_zero_iff.mp (Nat.le_zero.mp enough)]
      cases more <;> rfl
  | succ fuel ih =>
      obtain ⟨more, rfl⟩ := Nat.exists_eq_add_of_le' (Nat.zero_lt_of_lt isMore)
      have part : Outcome True True _ _ := readKeyPart_outcome text
      rw [readKey, readKey]
      refine part.bind_congr fun found here => ?_
      have left := ((skipBlanks_suffix found.2).trans here.2).length_le
      dsimp only
      split
      · rename_i rest isDot
        have shorter := (skipBlanks_suffix rest).length_le
        rw [isDot, List.length_cons] at left
        rw [ih (by omega) (by omega)]
      · rfl

/-- The reader leaves an end of the text, if it reads something. -/
def LeavesPart {α : Type} (read : List Char → Read α) : Prop :=
  ∀ text, Outcome True True (Part text fun _ => True) (read text)

theorem leavesPart_readValue (depth : Nat) : LeavesPart (readValue depth) := by
  intro text
  refine (readValue_outcome depth text).mono (fun _ => trivial) (fun _ => trivial) ?_
  intro found part
  exact ⟨trivial, part.2⟩

section

variable {inner : List Char → Read Value} (leaves : LeavesPart inner)

include leaves in
theorem readItems_fuel {text : List Char} {fuel more : Nat} (enough : text.length < fuel)
    (isMore : fuel ≤ more) : readItems inner more text = readItems inner fuel text := by
  induction fuel generalizing text more with
  | zero => cases enough
  | succ fuel ih =>
      obtain ⟨more, rfl⟩ := Nat.exists_eq_add_of_le' (Nat.zero_lt_of_lt isMore)
      have lines : ∀ text, Outcome True True (· <:+ text) (skipLines false text) :=
        skipLines_outcome false
      rw [readItems, readItems]
      refine (lines text).bind_congr fun start isStart => ?_
      split
      · rfl
      · refine (leaves start).bind_congr fun found here => ?_
        refine (lines found.2).bind_congr fun rest isRest => ?_
        have left := ((isRest.trans here.2).trans isStart).length_le
        dsimp only
        split
        · rfl
        · rw [List.length_cons] at left
          rw [ih (by omega) (by omega)]
        · rfl

include leaves in
theorem readEntries_fuel {text : List Char} {closed : List Key} {entries : Entries}
    {fuel more : Nat} (enough : text.length < fuel) (isMore : fuel ≤ more) :
    readEntries inner more closed entries text = readEntries inner fuel closed entries text := by
  induction fuel generalizing text closed entries more with
  | zero => cases enough
  | succ fuel ih =>
      obtain ⟨more, rfl⟩ := Nat.exists_eq_add_of_le' (Nat.zero_lt_of_lt isMore)
      have isKey : Outcome True True _ _ := readKey_outcome text.length text
      rw [readEntries, readEntries]
      refine isKey.bind_congr fun key here => ?_
      have isEquals : Outcome True True _ _ := skipEquals_outcome key.2
      refine isEquals.bind_congr fun behind isBehind => ?_
      refine (leaves behind).bind_congr fun value isValue => ?_
      dsimp only
      split
      · rfl
      · refine congrArg (_ >>= ·) (funext fun entries => ?_)
        have left := (skipBlanks_suffix value.2).trans (isValue.2.trans (isBehind.trans here.2))
        split
        · rfl
        · rename_i rest isComma
          have shorter := (skipBlanks_suffix rest).length_le
          have left := left.length_le
          rw [isComma, List.length_cons] at left
          exact ih (by omega) (by omega)
        · rfl

end

theorem readStatements_fuel {whole text : List Char} {draft : Draft} {fuel more : Nat} (depth : Nat)
    (sound : SoundDraft (Fits whole) draft) (isEnd : text <:+ whole) (enough : text.length < fuel)
    (isMore : fuel ≤ more) :
    readStatements depth more draft text = readStatements depth fuel draft text := by
  induction fuel generalizing text draft more with
  | zero => cases enough
  | succ fuel ih =>
      obtain ⟨more, rfl⟩ := Nat.exists_eq_add_of_le' (Nat.zero_lt_of_lt isMore)
      have start := skipBlanks_suffix text
      -- Both loops go on with the same draft, behind the line end that the turn has taken.
      have goOn : ∀ {rest : List Char} {next : Draft}, '\n' :: rest <:+ text →
          SoundDraft (Fits whole) next →
          readStatements depth more next rest = readStatements depth fuel next rest := by
        intro rest next left isSound
        have shorter := left.length_le
        rw [List.length_cons] at shorter
        exact ih isSound ((List.suffix_cons '\n' rest).trans (left.trans isEnd)) (by omega)
          (by omega)
      unfold readStatements
      split
      · rfl
      · rename_i rest isLine
        exact goOn (isLine ▸ start) sound
      · refine (sound.readStatement depth (start.trans isEnd)).bind_congr fun found here => ?_
        have isComment : Outcome True True _ _ := skipComment_outcome (skipBlanks found.2)
        refine isComment.bind_congr fun line isLine => ?_
        have left := (isLine.trans (skipBlanks_suffix found.2)).trans (here.2.trans start)
        split
        · rfl
        · exact goOn left here.1
        · rfl

/-- A list and a table are read in the same way with any fuel above the length of the text. -/
theorem readValue_fuel (depth : Nat) {text : List Char} {fuel : Nat} (enough : text.length < fuel) :
    readItems (readValue depth) fuel text = readItems (readValue depth) (text.length + 1) text ∧
      ∀ closed entries, readEntries (readValue depth) fuel closed entries text =
        readEntries (readValue depth) (text.length + 1) closed entries text := by
  have leaves := leavesPart_readValue depth
  refine ⟨readItems_fuel leaves (Nat.lt_succ_self _) enough, fun closed entries => ?_⟩
  exact readEntries_fuel leaves (Nat.lt_succ_self _) enough

/-- A document is read in the same way with any fuel above its length. -/
theorem read_fuel (depth : Nat) {text : List Char} {fuel : Nat}
    (enough : (plainLines text).length < fuel) :
    (readStatements depth fuel {} (plainLines text)).map (·.entries) = read depth text := by
  have empty : SoundDraft (Fits (plainLines text)) {} := Sound.emptyTable
  exact congrArg (Except.map (·.entries))
    (readStatements_fuel depth empty List.suffix_rfl (Nat.lt_succ_self _) enough)

/-! ## Depth -/

/-- What is read with less room is too deep, or the same as with more. -/
def Narrows {α : Type} (narrow wide : Except Error α) : Prop :=
  narrow = .error .tooDeep ∨ narrow = wide

namespace Narrows

variable {α β : Type} {narrow wide : Except Error α}

theorem refl (result : Except Error α) : Narrows result result := .inr rfl

theorem bind {next next' : α → Except Error β} (first : Narrows narrow wide)
    (later : ∀ a, Narrows (next a) (next' a)) : Narrows (narrow >>= next) (wide >>= next') := by
  rcases first with rfl | rfl
  · exact .inl rfl
  · cases narrow with
    | error reason => exact .inr rfl
    | ok a => exact later a

theorem map {f : α → β} (first : Narrows narrow wide) : Narrows (narrow.map f) (wide.map f) := by
  rcases first with rfl | rfl
  · exact .inl rfl
  · exact .refl _

end Narrows

section

variable {inner inner' : List Char → Read Value}
  (narrows : ∀ text, Narrows (inner text) (inner' text))

include narrows in
theorem readItems_narrows (fuel : Nat) (text : List Char) :
    Narrows (readItems inner fuel text) (readItems inner' fuel text) := by
  induction fuel generalizing text with
  | zero => exact .refl _
  | succ fuel ih =>
      rw [readItems, readItems]
      refine (Narrows.refl _).bind fun start => ?_
      split
      · exact .refl _
      · refine (narrows start).bind fun found => ?_
        refine (Narrows.refl _).bind fun rest => ?_
        split
        · exact .refl _
        · exact (ih _).bind fun _ => .refl _
        · exact .refl _

include narrows in
theorem readEntries_narrows (fuel : Nat) (closed : List Key) (entries : Entries)
    (text : List Char) :
    Narrows (readEntries inner fuel closed entries text)
      (readEntries inner' fuel closed entries text) := by
  induction fuel generalizing closed entries text with
  | zero => exact .refl _
  | succ fuel ih =>
      rw [readEntries, readEntries]
      refine (Narrows.refl _).bind fun key => ?_
      refine (Narrows.refl _).bind fun behind => ?_
      refine (narrows behind).bind fun value => ?_
      dsimp only
      split
      · exact .refl _
      · refine (Narrows.refl _).bind fun entries => ?_
        split
        · exact .refl _
        · exact ih _ _ _
        · exact .refl _

include narrows in
theorem readValueWith_narrows (text : List Char) :
    Narrows (readValueWith inner text) (readValueWith inner' text) := by
  unfold readValueWith
  split
  · exact .refl _
  · exact .refl _
  · exact .refl _
  · exact .refl _
  · exact (readItems_narrows narrows _ _).map
  · split
    · exact .refl _
    · exact (readEntries_narrows narrows _ _ _ _).map
  · exact .refl _

end

theorem readValue_narrows {depth wider : Nat} (atMost : depth ≤ wider) (text : List Char) :
    Narrows (readValue depth text) (readValue wider text) := by
  induction depth generalizing wider text with
  | zero =>
      obtain ⟨inner, isInner⟩ := exists_readValueWith wider
      rw [isInner]
      exact readValueWith_narrows (fun _ => .inl rfl) text
  | succ depth ih =>
      obtain ⟨wider, rfl⟩ := Nat.exists_eq_add_of_le' (Nat.zero_lt_of_lt atMost)
      exact readValueWith_narrows (ih (Nat.le_of_succ_le_succ atMost)) text

theorem readStatement_narrows {depth wider : Nat} (atMost : depth ≤ wider) (draft : Draft)
    (text : List Char) :
    Narrows (readStatement depth draft text) (readStatement wider draft text) := by
  unfold readStatement
  split
  · exact .refl _
  · exact .refl _
  · exact .refl _
  · refine (Narrows.refl _).bind fun key => ?_
    refine (Narrows.refl _).bind fun behind => ?_
    exact (readValue_narrows atMost behind).bind fun value => .refl _

theorem readStatements_narrows {depth wider : Nat} (atMost : depth ≤ wider) (fuel : Nat)
    (draft : Draft) (text : List Char) :
    Narrows (readStatements depth fuel draft text) (readStatements wider fuel draft text) := by
  induction fuel generalizing draft text with
  | zero => exact .refl _
  | succ fuel ih =>
      unfold readStatements
      split
      · exact .refl _
      · exact ih _ _
      · refine (readStatement_narrows atMost draft _).bind fun found => ?_
        refine (Narrows.refl _).bind fun line => ?_
        split
        · exact .refl _
        · exact ih _ _
        · exact .refl _

theorem read_narrows {depth wider : Nat} (atMost : depth ≤ wider) (text : List Char) :
    Narrows (read depth text) (read wider text) :=
  (readStatements_narrows atMost _ _ _).map

/-- A document is the same at all depths at which it is read. -/
theorem read_unique {depth other : Nat} {text : List Char} {result result' : Except Error Entries}
    (isRead : read depth text = result) (isRead' : read other text = result')
    (fits : result ≠ .error .tooDeep) (fits' : result' ≠ .error .tooDeep) : result = result' := by
  subst isRead isRead'
  rcases Nat.le_total depth other with atMost | atMost
  · exact (read_narrows atMost text).resolve_left fits
  · exact ((read_narrows atMost text).resolve_left fits').symm

/-! ## Brackets in brackets -/

theorem readValueWith_brackets {inner : List Char → Read Value} {rest : List Char} {error : Error}
    (failed : inner ('[' :: rest) = .error error) :
    readValueWith inner ('[' :: '[' :: rest) = .error error := by
  have start : skipLines false ('[' :: rest) = .ok ('[' :: rest) := rfl
  have items : ∀ fuel, readItems inner (fuel + 1) ('[' :: rest) = .error error := by
    intro fuel
    simp only [readItems, start, bind, Except.bind]
    split
    · rename_i same
      cases same
    · rw [failed]
  rw [readValueWith, items]
  rfl

/-- A value that begins with more brackets than the depth allows is too deep, whatever follows. -/
theorem readValue_replicate (depth : Nat) (rest : List Char) :
    readValue depth (List.replicate (depth + 2) '[' ++ rest) = .error .tooDeep := by
  induction depth with
  | zero =>
      rw [readValue]
      exact readValueWith_brackets rfl
  | succ depth ih =>
      rw [readValue]
      exact readValueWith_brackets ih

end SqlAssist.Toml
