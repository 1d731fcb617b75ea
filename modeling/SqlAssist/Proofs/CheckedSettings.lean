import SqlAssist.Schema
import SqlAssist.Settings
import SqlAssist.UsualRules

/-!
# Checked settings

`Settings.Valid` is what settings that passed their check are (`Settings.valid_of_check`), and valid
settings pass it again as the entries that they are saved as (`Settings.check_saved`).

All that is asked of the rules of the checks is that they are `Rules.Lawful`: they leave a value of
the kind that they look for as it is, and the usual dialect is one that they know.
-/
namespace SqlAssist

/-- Rules that take a number or a text as it is, and that know the usual dialect. -/
structure Rules.Lawful (rules : Rules) : Prop where
  int : ∀ n, rules.int (.int n) = .ok n
  float : ∀ x, rules.float (.float x) = .ok x
  string : ∀ s, rules.string (.string s) = .ok s
  dialect : rules.dialect ({} : Settings).dialect = .accepted

theorem Rules.lawful_usual : Rules.usual.Lawful where
  int _ := rfl
  float _ := rfl
  string _ := rfl
  dialect := by decide +kernel

namespace Checked

variable {α β : Type}

theorem both_eq_ok {a : Checked α} {b : Checked β} {x : α} {y : β} (both : both a b = .ok (x, y)) :
    a = .ok x ∧ b = .ok y := by
  cases a with
  | error => cases b <;> cases both
  | ok => cases b with
    | error => cases both
    | ok =>
        cases both
        exact ⟨rfl, rfl⟩

theorem within_eq_ok {step : PathStep} {a : Checked α} {x : α} (isOk : within step a = .ok x) :
    a = .ok x := by
  cases a with
  | error => cases isOk
  | ok =>
      cases isOk
      rfl

theorem map_eq_ok {ε : Type} {a : Except ε α} {f : α → β} {y : β} (isOk : a.map f = .ok y) :
    ∃ x, a = .ok x ∧ f x = y := by
  cases a with
  | error => cases isOk
  | ok x =>
      cases isOk
      exact ⟨x, rfl, rfl⟩

theorem field_eq_ok {entries : List (String × Value)} {key : String} {check : Value → Checked α}
    {absent : Checked α} {x : α} (isOk : field entries key check absent = .ok x) :
    absent = .ok x ∨ ∃ value, check value = .ok x := by
  have inside := within_eq_ok isOk
  cases found : Assoc.get? key entries with
  | none =>
      rw [found] at inside
      exact .inl inside
  | some value =>
      rw [found] at inside
      exact .inr ⟨value, inside⟩

theorem bind_if_eq_ok {a : Checked α} {p : α → Prop} [DecidablePred p] {fault : Fault} {x : α}
    (isOk : (a.bind fun y => if p y then .ok y else fail fault) = .ok x) : p x := by
  cases a with
  | error => cases isOk
  | ok y =>
      simp only [Except.bind] at isOk
      split at isOk
      · cases isOk
        assumption
      · cases isOk

/-! ### Checks that break off -/

theorem both_eq_brokenOff {a : Checked α} {b : Checked β} (broken : both a b = .error .brokenOff) :
    a = .error .brokenOff ∨ b = .error .brokenOff := by
  cases a with
  | ok x => cases b with
    | ok y => cases broken
    | error more =>
        cases broken
        exact .inr rfl
  | error first => cases b with
    | ok y =>
        cases broken
        exact .inl rfl
    | error more => cases first with
      | brokenOff => exact .inl rfl
      | problems found => cases more with
        | brokenOff => exact .inr rfl
        | problems others => cases broken

theorem within_eq_brokenOff {step : PathStep} {a : Checked α}
    (broken : within step a = .error .brokenOff) : a = .error .brokenOff := by
  cases a with
  | ok x => cases broken
  | error rejection => cases rejection with
    | problems found => cases broken
    | brokenOff => rfl

theorem map_eq_brokenOff {a : Checked α} {f : α → β} (broken : a.map f = .error .brokenOff) :
    a = .error .brokenOff := by
  cases a with
  | ok x => cases broken
  | error rejection =>
      cases broken
      rfl

theorem field_eq_brokenOff {entries : List (String × Value)} {key : String}
    {check : Value → Checked α} {absent : Checked α}
    (broken : field entries key check absent = .error .brokenOff) :
    absent = .error .brokenOff ∨
      ∃ value, Assoc.get? key entries = some value ∧ check value = .error .brokenOff := by
  have inside := within_eq_brokenOff broken
  cases found : Assoc.get? key entries with
  | none =>
      rw [found] at inside
      exact .inl inside
  | some value =>
      rw [found] at inside
      exact .inr ⟨value, rfl, inside⟩

theorem field_ne_brokenOff {entries : List (String × Value)} {key : String}
    {check : Value → Checked α} {absent : Checked α} (steady : absent ≠ .error .brokenOff)
    (never : ∀ value, check value ≠ .error .brokenOff) :
    field entries key check absent ≠ .error .brokenOff := by
  intro broken
  rcases field_eq_brokenOff broken with same | ⟨value, _, same⟩
  · exact steady same
  · exact never value same

theorem ok_ne_brokenOff {a : α} : (.ok a : Checked α) ≠ .error .brokenOff := by
  intro same
  cases same

theorem items_eq_brokenOff {check : Value → Checked α} {first : Nat} {values : List Value}
    (broken : items check first values = .error .brokenOff) :
    ∃ value, check value = .error .brokenOff := by
  induction values generalizing first with
  | nil => cases broken
  | cons value values ih =>
      rcases both_eq_brokenOff (map_eq_brokenOff broken) with here | later
      · exact ⟨value, within_eq_brokenOff here⟩
      · exact ih later

theorem byRule_ne_brokenOff (taken : Except Fault α) : byRule taken ≠ .error .brokenOff := by
  intro broken
  cases taken <;> cases broken

theorem bind_if_ne_brokenOff (taken : Except Fault α) {p : α → Prop} [DecidablePred p]
    {fault : Fault} :
    ((byRule taken).bind fun y => if p y then .ok y else fail fault) ≠ .error .brokenOff := by
  intro broken
  cases taken with
  | error => cases broken
  | ok y =>
      simp only [byRule, Except.bind] at broken
      split at broken <;> cases broken

/-- A field with a bound is checked to its end. -/
theorem field_bind_if_ne_brokenOff {entries : List (String × Value)} {key : String}
    {rule : Value → Except Fault α} {p : α → Prop} [DecidablePred p] {fault : Fault} {usual : α} :
    field entries key
        (fun value => (byRule (rule value)).bind fun y => if p y then .ok y else fail fault)
        (.ok usual) ≠
      .error .brokenOff :=
  field_ne_brokenOff ok_ne_brokenOff fun value => bind_if_ne_brokenOff (rule value)

end Checked

namespace Settings

variable {rules : Rules} {settings : Settings}

/-- The settings that a check lets through. -/
structure Valid (rules : Rules) (settings : Settings) : Prop where
  limit : 1 ≤ settings.maxSuggestions
  delay : isDuration settings.debounceDelay = true
  threshold : 0 ≤ settings.offloadThreshold
  dialect : rules.dialect settings.dialect = .accepted

theorem valid_usual (lawful : rules.Lawful) : Valid rules {} where
  limit := by decide
  delay := by decide +kernel
  threshold := by decide
  dialect := lawful.dialect

theorem checkDialect_cases (rules : Rules) (value : Value) :
    (∃ fault, checkDialect rules value = Checked.fail fault) ∨
      ∃ name, rules.string value = .ok name ∧
        (rules.dialect name = .accepted ∧ checkDialect rules value = .ok name ∨
          rules.dialect name = .brokenOff ∧ checkDialect rules value = .error .brokenOff) := by
  cases taken : rules.string value with
  | error fault =>
      rw [checkDialect, taken]
      exact .inl ⟨fault, rfl⟩
  | ok name =>
      rw [checkDialect, taken]
      simp only [Checked.byRule, Except.bind]
      split
      · exact .inr ⟨name, rfl, .inl ⟨by assumption, rfl⟩⟩
      · exact .inl ⟨.refused, rfl⟩
      · exact .inr ⟨name, rfl, .inr ⟨by assumption, rfl⟩⟩

theorem accepted_of_checkDialect {value : Value} {name : String}
    (isOk : checkDialect rules value = .ok name) : rules.dialect name = .accepted := by
  rcases checkDialect_cases rules value with ⟨_, same⟩ | ⟨_, _, ⟨accepted, same⟩ | ⟨_, same⟩⟩
  · cases same.symm.trans isOk
  · cases same.symm.trans isOk
    exact accepted
  · cases same.symm.trans isOk

theorem valid_of_check (lawful : rules.Lawful) {value : Value}
    (isOk : check rules value = .ok settings) : settings.Valid rules := by
  have usual := valid_usual lawful
  cases value with
  | table entries =>
      obtain ⟨⟨limit, delay, threshold, dialect⟩, parts, rfl⟩ := Checked.map_eq_ok isOk
      obtain ⟨isLimit, parts⟩ := Checked.both_eq_ok parts
      obtain ⟨isDelay, parts⟩ := Checked.both_eq_ok parts
      obtain ⟨isThreshold, isDialect⟩ := Checked.both_eq_ok parts
      refine ⟨?_, ?_, ?_, ?_⟩
      · rcases Checked.field_eq_ok isLimit with ⟨⟨⟩⟩ | ⟨_, read⟩
        · exact usual.limit
        · exact Checked.bind_if_eq_ok read
      · rcases Checked.field_eq_ok isDelay with ⟨⟨⟩⟩ | ⟨_, read⟩
        · exact usual.delay
        · exact Checked.bind_if_eq_ok (p := fun x => isDuration x = true) read
      · rcases Checked.field_eq_ok isThreshold with ⟨⟨⟩⟩ | ⟨_, read⟩
        · exact usual.threshold
        · exact Checked.bind_if_eq_ok read
      · rcases Checked.field_eq_ok isDialect with ⟨⟨⟩⟩ | ⟨_, read⟩
        · exact usual.dialect
        · exact accepted_of_checkDialect read
  | null | bool | int | float | string | moment | list => cases isOk

/-- Only the rule on dialects can break off a check of settings. -/
theorem exists_dialect_of_brokenOff {entries : List (String × Value)}
    (broken : check rules (.table entries) = .error .brokenOff) :
    ∃ value name, Assoc.get? "dialect" entries = some value ∧ rules.string value = .ok name ∧
      rules.dialect name = .brokenOff := by
  have behindLimit := (Checked.both_eq_brokenOff (Checked.map_eq_brokenOff broken)).resolve_left
    Checked.field_bind_if_ne_brokenOff
  have behindDelay := (Checked.both_eq_brokenOff behindLimit).resolve_left
    Checked.field_bind_if_ne_brokenOff
  have atDialect := (Checked.both_eq_brokenOff behindDelay).resolve_left
    Checked.field_bind_if_ne_brokenOff
  obtain ⟨value, isGiven, isBroken⟩ :=
    (Checked.field_eq_brokenOff atDialect).resolve_left Checked.ok_ne_brokenOff
  rcases checkDialect_cases rules value with ⟨_, same⟩ | ⟨name, taken, ⟨_, same⟩ | ⟨broke, _⟩⟩
  · cases same.symm.trans isBroken
  · cases same.symm.trans isBroken
  · exact ⟨value, name, isGiven, taken, broke⟩

/-- The entries that settings are saved as. -/
def saved (settings : Settings) : List (String × Value) :=
  [("max_suggestions", .int settings.maxSuggestions),
   ("debounce_delay", .float settings.debounceDelay),
   ("offload_threshold", .int settings.offloadThreshold), ("dialect", .string settings.dialect)]

theorem check_saved (lawful : rules.Lawful) (valid : settings.Valid rules) :
    check rules (.table settings.saved) = .ok settings := by
  have limit : checkAtLeast rules 1 (.int settings.maxSuggestions) =
      .ok settings.maxSuggestions := by
    rw [checkAtLeast, lawful.int]
    exact if_pos valid.limit
  have delay : checkDuration rules (.float settings.debounceDelay) =
      .ok settings.debounceDelay := by
    rw [checkDuration, lawful.float]
    exact if_pos valid.delay
  have threshold :
      checkAtLeast rules 0 (.int settings.offloadThreshold) = .ok settings.offloadThreshold := by
    rw [checkAtLeast, lawful.int]
    exact if_pos valid.threshold
  have dialect : checkDialect rules (.string settings.dialect) = .ok settings.dialect := by
    rw [checkDialect, lawful.string]
    simp only [Checked.byRule, Except.bind, valid.dialect]
  simp [check, Checked.table, Checked.field, saved, Assoc.get?, limit, delay, threshold, dialect,
    Checked.within, Checked.both, Except.map]

end Settings

theorem SchemaField.check_ne_brokenOff (rules : Rules) (value : Value) :
    SchemaField.check rules value ≠ .error .brokenOff := by
  intro broken
  cases value with
  | table entries =>
      have name : ∀ value, checkName rules value ≠ .error .brokenOff :=
        fun value => Checked.byRule_ne_brokenOff _
      have dataType : ∀ value, checkType rules value ≠ .error .brokenOff := by
        intro value same
        unfold checkType at same
        split at same
        · exact Checked.byRule_ne_brokenOff _ same
        · cases same
      have missing : (Checked.fail .missing : Checked String) ≠ .error .brokenOff := by
        intro same
        cases same
      rcases Checked.both_eq_brokenOff (Checked.map_eq_brokenOff broken) with here | here
      · exact Checked.field_ne_brokenOff missing name here
      · exact Checked.field_ne_brokenOff Checked.ok_ne_brokenOff dataType here
  | null | bool | int | float | string | moment | list => cases broken

end SqlAssist
