import SqlAssist.Proofs.TakenRuns
import SqlAssist.Highlight

/-!
# Spellings of the words of a vocabulary

The words of both vocabularies are made of capitals and underscores. The pattern of a word takes
each letter in one of its `spellings`, and a character spells one letter only, so a run of
characters spells at most one word (`Spells.unique`). As the vocabularies have no word in common, no
run is a keyword and a function (`not_keyword_and_function`).
-/
namespace SqlAssist

/-- The letters of the words of a vocabulary. -/
def capitals : List Char :=
  ['A', 'B', 'C', 'D', 'E', 'F', 'G', 'H', 'I', 'J', 'K', 'L', 'M', 'N', 'O', 'P', 'Q', 'R', 'S',
   'T', 'U', 'V', 'W', 'X', 'Y', 'Z', '_']

/-- Whether the word is made of capitals. -/
def isCapital (word : String) : Bool := word.toList.all capitals.contains

theorem mem_capitals {word : String} (capital : isCapital word = true) :
    ∀ c ∈ word.toList, c ∈ capitals :=
  fun c member => List.contains_iff_mem.mp (List.all_eq_true.mp capital c member)

theorem upper_capitals {cs : List Char} (inside : ∀ c ∈ cs, c ∈ capitals) : Text.upper cs = cs := by
  have same : (capitals.all fun c => Text.upperChar c == [c]) = true := by decide
  induction cs with
  | nil => rfl
  | cons c cs ih =>
      obtain ⟨here, later⟩ := List.forall_mem_cons.mp inside
      have rest : cs.flatMap Text.upperChar = cs := ih later
      have single := beq_iff_eq.mp (List.all_eq_true.mp same c here)
      rw [Text.upper, List.flatMap_cons, single, rest, List.singleton_append]

theorem upperName_of_isCapital {word : String} (capital : isCapital word = true) :
    Text.upperName word = word := by
  rw [Text.upperName, upper_capitals (mem_capitals capital), String.ofList_toList]

namespace Vocabulary

theorem mem_ofWords {words : List String} (capital : ∀ word ∈ words, isCapital word = true)
    {word : String} : word ∈ (ofWords words).words ↔ word ∈ words := by
  rw [mem_ofWords_iff]
  constructor
  · rintro ⟨spelling, member, rfl⟩
    rwa [upperName_of_isCapital (capital spelling member)]
  · intro member
    exact ⟨word, member, upperName_of_isCapital (capital word member)⟩

/-- The words that a vocabulary is made of, all of them of capitals. A vocabulary is sorted, so it
does not compute, but its listing does. -/
structure Listing (vocabulary : Vocabulary) where
  words : List String
  made : vocabulary = ofWords words
  capital : ∀ word ∈ words, isCapital word = true

namespace Listing

variable {vocabulary : Vocabulary} (listing : vocabulary.Listing) {word : String}

include listing

theorem mem_iff : word ∈ vocabulary.words ↔ word ∈ listing.words := by
  have same : vocabulary.words = (ofWords listing.words).words :=
    congrArg Vocabulary.words listing.made
  rw [same, mem_ofWords listing.capital]

theorem isCapital_of_mem (word : String) (member : word ∈ vocabulary.words) :
    isCapital word = true :=
  listing.capital word (listing.mem_iff.mp member)

end Listing

def Listing.keywords : Listing Vocabulary.keywords :=
  ⟨_, rfl, List.all_eq_true.mp (by decide +kernel)⟩

def Listing.functions : Listing Vocabulary.functions :=
  ⟨_, rfl, List.all_eq_true.mp (by decide +kernel)⟩

end Vocabulary

/-- Words of capitals, without a word in common. -/
structure SeparateWords (words others : List String) : Prop where
  left : ∀ word ∈ words, isCapital word = true
  right : ∀ word ∈ others, isCapital word = true
  disjoint : ∀ word ∈ words, word ∉ others

/-- Vocabularies are separate if the words they are made of are. -/
theorem separateWords_of_listings {vocabulary other : Vocabulary} (left : vocabulary.Listing)
    (right : other.Listing)
    (disjoint : (left.words.all fun word => !right.words.contains word) = true) :
    SeparateWords vocabulary.words other.words := by
  rw [List.all_eq_true] at disjoint
  refine ⟨left.isCapital_of_mem, right.isCapital_of_mem, ?_⟩
  intro word member isOther
  have absent := disjoint word (left.mem_iff.mp member)
  rw [List.contains_iff_mem.mpr (right.mem_iff.mp isOther)] at absent
  cases absent

theorem separateWords_vocabularies :
    SeparateWords Vocabulary.keywords.words Vocabulary.functions.words :=
  separateWords_of_listings .keywords .functions (by decide +kernel)

namespace Highlight

/-! ## Letters and the characters that spell them -/

/-- The characters that stand for a letter. -/
def spellings (letter : Char) : List Char :=
  letter :: letter.toLower ::
    if letter = 'S' then ['ſ'] else if letter = 'K' then ['\u212a']
    else if letter = 'I' then ['İ', 'ı'] else []

theorem mem_spellings {letter c : Char} (spells : matchesLetter letter c = true) :
    c ∈ spellings letter := by
  simp only [matchesLetter, Bool.or_eq_true, Bool.and_eq_true, beq_iff_eq] at spells
  rcases spells with (((rfl | rfl) | ⟨rfl, rfl⟩) | ⟨rfl, rfl⟩) | ⟨rfl, rfl | rfl⟩
  · exact List.mem_cons_self
  · exact List.mem_cons_of_mem _ List.mem_cons_self
  all_goals decide

theorem matchesLetter_unique {letter other c : Char} (isLetter : letter ∈ capitals)
    (isOther : other ∈ capitals) (spells : matchesLetter letter c = true)
    (spells' : matchesLetter other c = true) : letter = other := by
  have unique : (capitals.all fun letter => (spellings letter).all fun c =>
      capitals.all fun other => !matchesLetter other c || letter == other) = true := by
    decide +kernel
  have here := List.all_eq_true.mp (List.all_eq_true.mp
    (List.all_eq_true.mp unique letter isLetter) c (mem_spellings spells)) other isOther
  rw [spells', Bool.not_true, Bool.false_or] at here
  exact beq_iff_eq.mp here

/-- The characters that spell a letter of a vocabulary. -/
def letterSpellings : List Char := capitals.flatMap spellings

/-- The run spells the word, letter by letter. -/
def Spells (word run : List Char) : Prop :=
  List.Forall₂ (fun letter c => matchesLetter letter c = true) word run

theorem Spells.unique {word other run : List Char} (capital : ∀ c ∈ word, c ∈ capitals)
    (capital' : ∀ c ∈ other, c ∈ capitals) (spells : Spells word run) (spells' : Spells other run) :
    word = other := by
  induction spells generalizing other with
  | nil =>
      cases spells'
      rfl
  | cons here _ ih =>
      cases spells' with
      | cons here' later' =>
          obtain ⟨isLetter, capital⟩ := List.forall_mem_cons.mp capital
          obtain ⟨isOther, capital'⟩ := List.forall_mem_cons.mp capital'
          rw [matchesLetter_unique isLetter isOther here here', ih capital capital' later']

/-! ## Words -/

/-- The words of a vocabulary, in any case. -/
def spelledWord (vocabulary : Vocabulary) : Pattern :=
  .any (vocabulary.words.map fun w => .all (w.toList.map fun letter => .one (matchesLetter letter)))

theorem wordPattern_eq (vocabulary : Vocabulary) :
    wordPattern vocabulary = .all [.edge, spelledWord vocabulary, .edge] := rfl

theorem exists_spells {vocabulary : Vocabulary} {before : Option Char} {run rest : List Char}
    (takes : (spelledWord vocabulary).Takes before run rest) :
    ∃ word ∈ vocabulary.words, Spells word.toList run := by
  obtain ⟨pattern, member, takes⟩ := Pattern.Takes.of_any takes
  obtain ⟨word, isWord, rfl⟩ := List.mem_map.mp member
  exact ⟨word, isWord, takes.of_ones⟩

theorem mem_letterSpellings {vocabulary : Vocabulary}
    (capital : ∀ word ∈ vocabulary.words, isCapital word = true) {c : Char}
    (allowed : (spelledWord vocabulary).allows c = true) : c ∈ letterSpellings := by
  simp only [spelledWord, Pattern.allows_any, Pattern.allows_all, List.any_map, List.any_eq_true,
    Function.comp] at allowed
  obtain ⟨word, isWord, letter, isLetter, spells⟩ := allowed
  exact List.mem_flatMap.mpr
    ⟨letter, mem_capitals (capital word isWord) letter isLetter, mem_spellings spells⟩

/-- No run of characters is a keyword and a function. -/
theorem not_keyword_and_function {before : Option Char} {run rest : List Char}
    (keyword : (spelledWord Vocabulary.keywords).Takes before run rest) :
    ¬ (spelledWord Vocabulary.functions).Takes before run rest := by
  intro function
  obtain ⟨left, right, disjoint⟩ := separateWords_vocabularies
  obtain ⟨word, isWord, spells⟩ := exists_spells keyword
  obtain ⟨other, isOther, spells'⟩ := exists_spells function
  have same := Spells.unique (mem_capitals (left word isWord)) (mem_capitals (right other isOther))
    spells spells'
  obtain rfl := String.toList_inj.mp same
  exact disjoint word isWord isOther

end Highlight

end SqlAssist
