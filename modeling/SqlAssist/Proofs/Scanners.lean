import SqlAssist.Lexer

/-!
# What the scanners of the lexer read

A lexeme is scanned by a run of a class of characters, as a quoted run, as a block comment or as a
number with an exponent. For each of the last three there are two kinds of statements:

* **forms** — whatever text is scanned, what is read has one of a few forms, and the text behind it
  does not go on with it (`quotedRest_forms`, `commentRest_forms`, `exponent_forms`);
* **reading back** — a text of such a form is read as it is (`quotedRest_closed`,
  `quotedRest_open`, `commentRest_closed`, `commentRest_open`, `Exponent.read`).
-/
namespace SqlAssist.Lexer

/-! ## Runs of characters -/

/-- The text does not go on with a character of the class. -/
def Stops (p : Char → Bool) (rest : List Char) : Prop := rest.head?.any p = false

@[simp] theorem stops_nil (p : Char → Bool) : Stops p [] := rfl

@[simp] theorem stops_cons (p : Char → Bool) (c : Char) (rest : List Char) :
    Stops p (c :: rest) ↔ p c = false := Iff.rfl

theorem stops_dropWhile (p : Char → Bool) (cs : List Char) : Stops p (cs.dropWhile p) := by
  induction cs with
  | nil => rfl
  | cons c rest ih =>
      rw [List.dropWhile_cons]
      split
      · exact ih
      · rename_i outside
        simpa using outside

theorem all_takeWhile {p : Char → Bool} {cs : List Char} : ∀ c ∈ cs.takeWhile p, p c = true := by
  intro c member
  exact List.all_eq_true.mp List.all_takeWhile c member

theorem takeWhile_run {p : Char → Bool} {run rest : List Char} (inside : ∀ c ∈ run, p c = true)
    (stops : Stops p rest) : (run ++ rest).takeWhile p = run := by
  rw [List.takeWhile_append_of_pos inside]
  cases rest with
  | nil => rw [List.takeWhile_nil, List.append_nil]
  | cons c tail =>
      have outside : ¬ p c = true := by simpa using stops
      rw [List.takeWhile_cons_of_neg outside, List.append_nil]

theorem dropWhile_run {p : Char → Bool} {run rest : List Char} (inside : ∀ c ∈ run, p c = true)
    (stops : Stops p rest) : (run ++ rest).dropWhile p = rest := by
  rw [List.dropWhile_append_of_pos inside]
  cases rest with
  | nil => rfl
  | cons c tail =>
      have outside : ¬ p c = true := by simpa using stops
      rw [List.dropWhile_cons_of_neg outside]

/-! ## Quoted runs -/

/-- The text with each quote in it written twice. -/
def doubled (quote : Char) (name : List Char) : List Char :=
  name.flatMap fun c => if c = quote then [quote, quote] else [c]

@[simp] theorem doubled_nil (quote : Char) : doubled quote [] = [] := rfl

@[simp] theorem doubled_cons_quote (quote : Char) (name : List Char) :
    doubled quote (quote :: name) = quote :: quote :: doubled quote name := by
  simp [doubled]

theorem doubled_cons_of_ne {quote c : Char} (other : c ≠ quote) (name : List Char) :
    doubled quote (c :: name) = c :: doubled quote name := by
  simp [doubled, other]

theorem doubled_append (quote : Char) (name more : List Char) :
    doubled quote (name ++ more) = doubled quote name ++ doubled quote more :=
  List.flatMap_append

theorem doubled_of_not_mem {quote : Char} {name : List Char} (plain : quote ∉ name) :
    doubled quote name = name := by
  induction name with
  | nil => rfl
  | cons c name ih =>
      simp only [List.mem_cons, not_or] at plain
      rw [doubled_cons_of_ne (Ne.symm plain.1), ih plain.2]

theorem quotedRest_cons_of_ne {quote c : Char} (other : c ≠ quote) (cs : List Char) :
    quotedRest quote (c :: cs) = (c :: (quotedRest quote cs).1, (quotedRest quote cs).2) := by
  cases cs with
  | nil => rfl
  | cons d rest => rw [quotedRest, if_neg other]

/-- A name with its quotes doubled is read up to the closing quote. -/
theorem quotedRest_closed {quote : Char} {rest : List Char} (stops : Stops (· == quote) rest)
    (name : List Char) :
    quotedRest quote (doubled quote name ++ quote :: rest) =
      (doubled quote name ++ [quote], rest) := by
  induction name with
  | nil =>
      cases rest with
      | nil => rfl
      | cons d tail =>
          have other : d ≠ quote := by simpa using stops
          rw [doubled_nil, List.nil_append, quotedRest, if_pos rfl, if_neg other]
          rfl
  | cons c name ih =>
      by_cases isQuote : c = quote
      · subst isQuote
        rw [doubled_cons_quote, List.cons_append, List.cons_append, quotedRest, if_pos rfl,
          if_pos rfl, ih]
        rfl
      · rw [doubled_cons_of_ne isQuote, List.cons_append, quotedRest_cons_of_ne isQuote, ih]
        rfl

/-- Without a closing quote all of the text is read. -/
theorem quotedRest_open (quote : Char) (name : List Char) :
    quotedRest quote (doubled quote name) = (doubled quote name, []) := by
  induction name with
  | nil => rfl
  | cons c name ih =>
      by_cases isQuote : c = quote
      · subst isQuote
        rw [doubled_cons_quote, quotedRest, if_pos rfl, if_pos rfl, ih]
      · rw [doubled_cons_of_ne isQuote, quotedRest_cons_of_ne isQuote, ih]

/-- Every text is of one of the two forms behind an opening quote. -/
theorem quotedRest_forms (quote : Char) (cs : List Char) :
    (∃ name, (quotedRest quote cs).1 = doubled quote name ++ [quote] ∧
      Stops (· == quote) (quotedRest quote cs).2) ∨
    (∃ name, quotedRest quote cs = (doubled quote name, [])) := by
  fun_induction quotedRest quote cs with
  | case1 => exact .inr ⟨[], rfl⟩
  | case2 c =>
      by_cases isQuote : c = quote
      · subst isQuote
        exact .inl ⟨[], rfl, rfl⟩
      · exact .inr ⟨[c], by rw [doubled_cons_of_ne isQuote, doubled_nil]⟩
  | case3 rest body after parts ih =>
      -- A doubled quote: one quote of the name.
      rw [parts] at ih
      rcases ih with ⟨name, hbody, stops⟩ | ⟨name, hall⟩
      · refine .inl ⟨quote :: name, ?_, stops⟩
        simp only at hbody
        rw [doubled_cons_quote, hbody]
        rfl
      · obtain ⟨rfl, rfl⟩ := Prod.mk.inj hall
        exact .inr ⟨quote :: name, by rw [doubled_cons_quote]⟩
  | case4 d rest notQuote =>
      -- A quote by itself: the run ends here.
      refine .inl ⟨[], rfl, ?_⟩
      simpa using notQuote
  | case5 c d rest notQuote body after parts ih =>
      rw [parts] at ih
      rcases ih with ⟨name, hbody, stops⟩ | ⟨name, hall⟩
      · refine .inl ⟨c :: name, ?_, stops⟩
        simp only at hbody
        rw [doubled_cons_of_ne notQuote, hbody]
        rfl
      · obtain ⟨rfl, rfl⟩ := Prod.mk.inj hall
        exact .inr ⟨c :: name, by rw [doubled_cons_of_ne notQuote]⟩

/-! ## Block comments -/

/-- What ends a block comment. -/
def commentEnd : List Char := ['*', '/']

theorem commentEnd_infix_cons {c : Char} {cs : List Char} :
    commentEnd <:+: c :: cs ↔ (c = '*' ∧ cs.head? = some '/') ∨ commentEnd <:+: cs := by
  rw [List.infix_cons_iff]
  apply or_congr_left
  cases cs with
  | nil => simp [commentEnd]
  | cons d rest => simp [commentEnd, List.cons_prefix_cons, eq_comm]

theorem commentRest_cons {c : Char} {cs : List Char} (inside : ¬ (c = '*' ∧ cs.head? = some '/')) :
    commentRest (c :: cs) = (c :: (commentRest cs).1, (commentRest cs).2) := by
  cases cs with
  | nil => rfl
  | cons d rest =>
      rw [List.head?_cons, Option.some.injEq] at inside
      rw [commentRest, if_neg inside]

/-- A comment is read up to the first `*/`: none stands in it, not even one that shares its star
with the end. -/
theorem commentRest_closed (rest : List Char) {inner : List Char}
    (inside : ¬ commentEnd <:+: inner ++ ['*']) :
    commentRest (inner ++ '*' :: '/' :: rest) = (inner ++ commentEnd, rest) := by
  induction inner with
  | nil => rw [List.nil_append, commentRest, if_pos ⟨rfl, rfl⟩]; rfl
  | cons c inner ih =>
      rw [List.cons_append, commentEnd_infix_cons, not_or] at inside
      have sameHead : (inner ++ '*' :: '/' :: rest).head? = (inner ++ ['*']).head? := by
        cases inner <;> rfl
      rw [List.cons_append, commentRest_cons (by rw [sameHead]; exact inside.1), ih inside.2]
      rfl

/-- Without a `*/` all of the text is read. -/
theorem commentRest_open {cs : List Char} (inside : ¬ commentEnd <:+: cs) :
    commentRest cs = (cs, []) := by
  induction cs with
  | nil => rfl
  | cons c cs ih =>
      rw [commentEnd_infix_cons, not_or] at inside
      rw [commentRest_cons inside.1, ih inside.2]

/-- Every text is of one of the two forms behind the opening of a comment. -/
theorem commentRest_forms (cs : List Char) :
    (∃ inner, (commentRest cs).1 = inner ++ commentEnd ∧ ¬ commentEnd <:+: inner ++ ['*']) ∨
    (commentRest cs = (cs, []) ∧ ¬ commentEnd <:+: cs) := by
  fun_induction commentRest cs with
  | case1 => exact .inr ⟨rfl, by decide⟩
  | case2 c =>
      refine .inr ⟨rfl, ?_⟩
      rw [commentEnd_infix_cons]
      simp [commentEnd]
  | case3 c d rest ends =>
      obtain ⟨rfl, rfl⟩ := ends
      exact .inl ⟨[], rfl, by decide⟩
  | case4 c d rest inside body after parts ih =>
      have notHere : ¬ (c = '*' ∧ (d :: rest).head? = some '/') := by simpa using inside
      rw [parts] at ih
      rcases ih with ⟨inner, hbody, clean⟩ | ⟨hall, clean⟩
      · simp only at hbody
        refine .inl ⟨c :: inner, by rw [hbody]; rfl, ?_⟩
        -- The head of what is read is the head of the text, whatever is read of it.
        have whole := commentRest_append (d :: rest)
        rw [parts, hbody] at whole
        have sameHead : (inner ++ ['*']).head? = (d :: rest).head? := by
          rw [← whole]
          cases inner <;> rfl
        rw [List.cons_append, commentEnd_infix_cons, sameHead, not_or]
        exact ⟨notHere, clean⟩
      · obtain ⟨rfl, rfl⟩ := Prod.mk.inj hall
        refine .inr ⟨rfl, ?_⟩
        rw [commentEnd_infix_cons, not_or]
        exact ⟨notHere, clean⟩

/-! ## Numbers -/

/-- The letter that an exponent starts with. -/
def isExponentMark (c : Char) : Bool := c == 'e' || c == 'E'

/-- The sign of an exponent. -/
def isSign (c : Char) : Bool := c == '+' || c == '-'

/-- The part of a number behind its digits and points, and the characters it would go on with. -/
inductive Exponent : List Char → (Char → Bool) → Prop where
  | none : Exponent [] (fun c => isMantissa c || isExponentMark c)
  | mark {e : Char} : isExponentMark e = true → Exponent [e] (fun c => Text.isDigit c || isSign c)
  | digits {e d : Char} {run : List Char} : isExponentMark e = true → Text.isDigit d = true →
      (∀ c ∈ run, Text.isDigit c = true) → Exponent (e :: d :: run) Text.isDigit
  | signed {e s : Char} {run : List Char} : isExponentMark e = true → isSign s = true →
      (∀ c ∈ run, Text.isDigit c = true) → Exponent (e :: s :: run) Text.isDigit

theorem isExponentMark_iff {c : Char} : isExponentMark c = true ↔ c = 'e' ∨ c = 'E' := by
  simp [isExponentMark]

theorem isSign_iff {c : Char} : isSign c = true ↔ c = '+' ∨ c = '-' := by
  simp [isSign]

theorem isMantissa_of_isExponentMark {e : Char} (mark : isExponentMark e = true) :
    isMantissa e = false := by
  rcases isExponentMark_iff.mp mark with rfl | rfl <;> decide

theorem isDigit_of_isSign {s : Char} (sign : isSign s = true) : Text.isDigit s = false := by
  rcases isSign_iff.mp sign with rfl | rfl <;> decide

theorem isSign_of_isDigit {d : Char} (digit : Text.isDigit d = true) : isSign d = false := by
  cases sign : isSign d with
  | false => rfl
  | true => rw [isDigit_of_isSign sign] at digit; cases digit

theorem sign_cons {s : Char} (isSign : isSign s = true) (cs : List Char) :
    sign (s :: cs) = ([s], cs) := by
  rw [sign, if_pos (isSign_iff.mp isSign)]

theorem sign_of_stops {cs : List Char} (stops : Stops isSign cs) : sign cs = ([], cs) := by
  cases cs with
  | nil => rfl
  | cons c rest =>
      have unsigned : ¬ (c = '+' ∨ c = '-') := by
        rw [← isSign_iff, Bool.not_eq_true]
        exact stops
      rw [sign, if_neg unsigned]

theorem exponent_mark {e : Char} (mark : isExponentMark e = true) (cs : List Char) :
    exponent (e :: cs) = (e :: (sign cs).1 ++ (sign cs).2.takeWhile Text.isDigit,
      (sign cs).2.dropWhile Text.isDigit) := by
  rw [exponent, if_pos (isExponentMark_iff.mp mark)]

theorem exponent_of_stops {cs : List Char} (stops : Stops isExponentMark cs) :
    exponent cs = ([], cs) := by
  cases cs with
  | nil => rfl
  | cons c rest =>
      have noMark : ¬ (c = 'e' ∨ c = 'E') := by
        rw [← isExponentMark_iff, Bool.not_eq_true]
        exact stops
      rw [exponent, if_neg noMark]

/-- The form of an exponent is read as it is, and no digit or point of the number is lost to it. -/
theorem Exponent.read {tail rest : List Char} {p : Char → Bool} (form : Exponent tail p)
    (stops : Stops p rest) :
    exponent (tail ++ rest) = (tail, rest) ∧ Stops isMantissa (tail ++ rest) := by
  cases form with
  | none =>
      have both : Stops isMantissa rest ∧ Stops isExponentMark rest := by
        cases rest with
        | nil => exact ⟨rfl, rfl⟩
        | cons c more => simpa using stops
      exact ⟨exponent_of_stops both.2, both.1⟩
  | mark isMark =>
      refine ⟨?_, isMantissa_of_isExponentMark isMark⟩
      have both : Stops Text.isDigit rest ∧ Stops isSign rest := by
        cases rest with
        | nil => exact ⟨rfl, rfl⟩
        | cons c more => simpa using stops
      rw [List.singleton_append, exponent_mark isMark, sign_of_stops both.2]
      have noDigits := takeWhile_run (List.forall_mem_nil _) both.1
      have allLeft := dropWhile_run (List.forall_mem_nil _) both.1
      rw [List.nil_append] at noDigits allLeft
      simp only [noDigits, allLeft, List.append_nil]
  | digits isMark digit inside =>
      refine ⟨?_, isMantissa_of_isExponentMark isMark⟩
      rename_i e d run
      have unsigned : Stops isSign (d :: run ++ rest) := isSign_of_isDigit digit
      have digits : ∀ c ∈ d :: run, Text.isDigit c = true := by
        intro c member
        rcases List.mem_cons.mp member with rfl | later
        · exact digit
        · exact inside c later
      rw [List.cons_append, exponent_mark isMark, sign_of_stops unsigned]
      simp only [takeWhile_run digits stops, dropWhile_run digits stops, List.singleton_append]
  | signed isMark isSign inside =>
      refine ⟨?_, isMantissa_of_isExponentMark isMark⟩
      rename_i e s run
      rw [List.cons_append, List.cons_append, exponent_mark isMark, sign_cons isSign]
      simp only [takeWhile_run inside stops, dropWhile_run inside stops]
      rfl

/-- Whatever stands behind the digits and points of a number, what is read of it has the form of an
exponent and ends where it has to. -/
theorem exponent_forms {cs : List Char} (stops : Stops isMantissa cs) :
    ∃ p, Exponent (exponent cs).1 p ∧ Stops p (exponent cs).2 := by
  cases cs with
  | nil => exact ⟨_, .none, rfl⟩
  | cons e more =>
      cases isMark : isExponentMark e with
      | false =>
          rw [exponent_of_stops ((stops_cons ..).mpr isMark)]
          refine ⟨_, .none, ?_⟩
          have noMantissa : isMantissa e = false := stops
          rw [stops_cons, noMantissa, isMark]
          rfl
      | true =>
          rw [exponent_mark isMark]
          cases more with
          | nil => exact ⟨_, .mark isMark, rfl⟩
          | cons d run =>
              cases signed : isSign d with
              | true =>
                  rw [sign_cons signed]
                  exact ⟨_, .signed isMark signed all_takeWhile, stops_dropWhile _ _⟩
              | false =>
                  rw [sign_of_stops ((stops_cons ..).mpr signed)]
                  cases digit : Text.isDigit d with
                  | true =>
                      rw [List.takeWhile_cons_of_pos digit]
                      exact ⟨_, .digits isMark digit all_takeWhile, stops_dropWhile _ _⟩
                  | false =>
                      have notDigit : ¬ Text.isDigit d = true := by
                        rw [digit]
                        exact Bool.false_ne_true
                      rw [List.takeWhile_cons_of_neg notDigit, List.dropWhile_cons_of_neg notDigit]
                      refine ⟨_, .mark isMark, ?_⟩
                      rw [stops_cons, digit, signed]
                      rfl

end SqlAssist.Lexer
