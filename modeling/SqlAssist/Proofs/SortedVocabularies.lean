import Mathlib.Data.List.Sort
import Mathlib.Data.String.Basic
import SqlAssist.Proofs.ScopedSuggestions
import SqlAssist.Proofs.SuggestedBlocks

/-!
# Vocabularies are sorted

A vocabulary is made of words in any case and any order, with repetitions. Its words are the upper
cases of these, each of them once, in the order of their code points.

* **words** — `mem_ofWords_iff` says which words there are and `increasing_ofWords` how they stand.
  This determines them, so that a vocabulary made of its own words is the same again
  (`ofWords_words`);
* **segments** — between two words with one beginning every word has it (`isPrefix_of_between`), so
  the words with a given beginning stand side by side (`startingWith_isInfix`).
-/
namespace SqlAssist

/-! ## Segments of a sorted list -/

section Segments

variable {α : Type} {before : α → α → Prop} {test : α → Bool}

/-- A test that holds of an item between two items if it holds of both. -/
def HoldsBetween (before : α → α → Prop) (test : α → Bool) : Prop :=
  ∀ a b c, before a b → before b c → test a = true → test c = true → test b = true

theorem HoldsBetween.filter_isPrefix (between : HoldsBetween before test) {first : α}
    {items : List α} (sorted : (first :: items).Pairwise before) (holds : test first = true) :
    items.filter test <+: items := by
  induction items with
  | nil => exact List.nil_prefix
  | cons item rest ih =>
      obtain ⟨behindFirst, behind⟩ := List.pairwise_cons.mp sorted
      by_cases here : test item = true
      · rw [List.filter_cons_of_pos here, List.cons_prefix_cons]
        exact ⟨rfl, ih (sorted.sublist ((List.sublist_cons_self item rest).cons_cons first))⟩
      · -- What passes the test behind this item would make the item pass it.
        have none : rest.filter test = [] := by
          rw [List.filter_eq_nil_iff]
          intro later member passes
          exact here (between first item later (behindFirst item List.mem_cons_self)
            ((List.pairwise_cons.mp behind).1 later member) holds passes)
        rw [List.filter_cons_of_neg here, none]
        exact List.nil_prefix

/-- The items of a sorted list that pass such a test stand side by side. -/
theorem HoldsBetween.filter_isInfix (between : HoldsBetween before test) {items : List α}
    (sorted : items.Pairwise before) : items.filter test <:+: items := by
  induction items with
  | nil => exact List.nil_infix
  | cons item rest ih =>
      by_cases here : test item = true
      · rw [List.filter_cons_of_pos here]
        exact (List.cons_prefix_cons.mpr ⟨rfl, between.filter_isPrefix sorted here⟩).isInfix
      · rw [List.filter_cons_of_neg here]
        exact List.infix_cons (ih (List.pairwise_cons.mp sorted).2)

end Segments

/-- A text between two texts with one beginning has it as well. -/
theorem isPrefix_of_between {start a b c : List Char} (ab : a < b) (bc : b < c)
    (first : start <+: a) (last : start <+: c) : start <+: b := by
  induction start generalizing a b c with
  | nil => exact List.nil_prefix
  | cons d start ih =>
      obtain ⟨a, rfl⟩ := first
      obtain ⟨c, rfl⟩ := last
      cases b with
      | nil => exact absurd ab (List.not_lt_nil _)
      | cons e b =>
          -- Both ends start with `d`, so there is no room for another first character.
          rw [List.cons_append, List.cons_lt_cons_iff] at ab bc
          rcases ab with below | ⟨rfl, ab⟩
          · rcases bc with above | ⟨rfl, _⟩
            · exact absurd above (Char.lt_asymm below)
            · exact absurd below (Char.lt_irrefl _)
          · rcases bc with above | ⟨_, bc⟩
            · exact absurd above (Char.lt_irrefl _)
            · have later := ih ab bc (List.prefix_append _ _) (List.prefix_append _ _)
              exact List.cons_prefix_cons.mpr ⟨rfl, later⟩

namespace Vocabulary

/-! ## Words -/

variable (words : List String)

theorem nodup_ofWords : (ofWords words).words.Nodup := by
  have distinct : (words.map Text.upperName).eraseDups.Nodup := by
    have firsts := nodup_firsts id (words.map Text.upperName)
    rwa [List.map_id] at firsts
  exact (List.mergeSort_perm _ _).nodup_iff.mpr distinct

theorem increasing_ofWords : (ofWords words).words.Pairwise (· < ·) := by
  refine ((sorted_ofWords words).and (nodup_ofWords words)).imp ?_
  rintro a b ⟨notAbove, other⟩
  exact Std.lt_of_le_of_ne notAbove other

theorem upperName_of_mem {word : String} (member : word ∈ (ofWords words).words) :
    Text.upperName word = word := by
  rw [Text.upperName, upper_of_mem_ofWords member, String.ofList_toList]

/-- A vocabulary made of its own words is the same again. -/
theorem ofWords_words : ofWords (ofWords words).words = ofWords words := by
  have same : (ofWords (ofWords words).words).words = (ofWords words).words := by
    -- Both lists are increasing, so it is enough that they have the same words.
    apply (increasing_ofWords _).eq_of_mem_iff (increasing_ofWords words)
    intro word
    rw [mem_ofWords_iff]
    constructor
    · rintro ⟨other, member, rfl⟩
      rwa [upperName_of_mem words member]
    · intro member
      exact ⟨word, member, upperName_of_mem words member⟩
  exact congrArg Vocabulary.mk same

theorem contains_ofWords_iff {word : String} : (ofWords words).contains word = true ↔
    ∃ spelling ∈ words, Text.upperName spelling = Text.upperName word := by
  rw [contains, List.contains_iff_mem, mem_ofWords_iff]

/-! ## Words with a given beginning -/

variable (typed : List Char)

theorem mem_startingWith_iff {vocabulary : Vocabulary} {word : String} :
    word ∈ vocabulary.startingWith typed ↔
      word ∈ vocabulary.words ∧ Text.upper typed <+: word.toList := by
  rw [startingWith, List.mem_filter, List.isPrefixOf_iff_prefix]

theorem startingWith_isInfix :
    (ofWords words).startingWith typed <:+: (ofWords words).words := by
  have between : HoldsBetween (· < ·) fun word : String =>
      (Text.upper typed).isPrefixOf word.toList := by
    intro a b c ab bc first last
    rw [List.isPrefixOf_iff_prefix] at *
    exact isPrefix_of_between ab bc first last
  exact between.filter_isInfix (increasing_ofWords words)

end Vocabulary

open Vocabulary in
/-- What a vocabulary is, whatever words it is made of: its words are strictly increasing by code
points and are exactly the upper cases of the given ones; made of its own words it is the same
again; it contains what has the upper case of a given word; and the words with a given beginning are
a segment of it, in any case of the beginning. -/
theorem ofWords_representation (words : List String) :
    (ofWords words).words.Pairwise (· < ·) ∧
    (∀ word, word ∈ (ofWords words).words ↔ ∃ spelling ∈ words, Text.upperName spelling = word) ∧
    ofWords (ofWords words).words = ofWords words ∧
    (∀ word, (ofWords words).contains word = true ↔
      ∃ spelling ∈ words, Text.upperName spelling = Text.upperName word) ∧
    ∀ typed, (ofWords words).startingWith typed <:+: (ofWords words).words ∧
      ∀ word, word ∈ (ofWords words).startingWith typed ↔
        word ∈ (ofWords words).words ∧ Text.upper typed <+: word.toList :=
  ⟨increasing_ofWords words, fun _ => mem_ofWords_iff, ofWords_words words,
    fun _ => contains_ofWords_iff words,
    fun typed => ⟨startingWith_isInfix words typed, fun _ => mem_startingWith_iff typed⟩⟩

end SqlAssist
