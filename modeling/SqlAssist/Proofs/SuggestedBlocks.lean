import Mathlib.Data.List.Forall2
import SqlAssist.Proofs.NarrowedSuggestions

/-!
# The blocks of the suggestions

The suggestions for a word come in blocks, one for each source of the slot. A block holds every
candidate of its source whose name goes on with the word, as often as the source has it, and no
other; it is sorted by name, and candidates of one name stand as they do in the source (`Lists`).
This determines the block (`eq_of_sorted`), so that it does not matter in which order tables are
known, nor fields, as long as fields of one name keep theirs (`Reordered`).

Words of a vocabulary are compared as they are, tables and fields by their names in upper case. That
is one rule, since a word in upper case is its own upper case (`keyed_of_mem_pools`).
-/
namespace SqlAssist

namespace Vocabulary

theorem sorted_ofWords (words : List String) : (ofWords words).words.Pairwise (· ≤ ·) := by
  have sorted : (ofWords words).words.Pairwise fun a b => decide (a ≤ b) = true := by
    apply List.pairwise_mergeSort
    · intro a b c ab bc
      rw [decide_eq_true_eq] at *
      exact String.le_trans ab bc
    · intro a b
      rw [Bool.or_eq_true, decide_eq_true_eq, decide_eq_true_eq]
      exact String.le_total a b
  exact sorted.imp of_decide_eq_true

theorem upper_of_mem_ofWords {words : List String} {word : String}
    (member : word ∈ (ofWords words).words) : Text.upper word.toList = word.toList := by
  obtain ⟨spelling, _, rfl⟩ := mem_ofWords_iff.mp member
  rw [Text.upperName, String.toList_ofList, Text.upper_upper]

end Vocabulary

namespace Suggestions

/-! ## Sorting by name -/

/-- The order of the candidates of a block. -/
def byName (a b : Candidate) : Bool := decide (a.name ≤ b.name)

theorem byName_trans (a b c : Candidate) (ab : byName a b = true) (bc : byName b c = true) :
    byName a c = true := by
  rw [byName, decide_eq_true_eq] at *
  exact String.le_trans ab bc

theorem byName_total (a b : Candidate) : (byName a b || byName b a) = true := by
  rw [Bool.or_eq_true, byName, byName, decide_eq_true_eq, decide_eq_true_eq]
  exact String.le_total a.name b.name

theorem sorted_mergeSort (pool : List Candidate) :
    (pool.mergeSort byName).Pairwise (·.name ≤ ·.name) :=
  (List.pairwise_mergeSort byName_trans byName_total pool).imp of_decide_eq_true

/-- Candidates of one name keep their order when they are sorted. -/
theorem filter_mergeSort (pool : List Candidate) (name : String) :
    (pool.mergeSort byName).filter (·.name = name) = pool.filter (·.name = name) := by
  have alike : (pool.filter (·.name = name)).Pairwise (byName · · = true) := by
    apply List.pairwise_of_forall_mem_list
    intro a isA b isB
    have nameA := of_decide_eq_true (List.mem_filter.mp isA).2
    have nameB := of_decide_eq_true (List.mem_filter.mp isB).2
    exact decide_eq_true (nameA.trans nameB.symm ▸ String.le_refl a.name)
  have inside := List.sublist_mergeSort byName_trans byName_total alike List.filter_sublist
  have kept := inside.filter (·.name = name)
  rw [List.filter_filter] at kept
  simp only [Bool.and_self] at kept
  exact (kept.eq_of_length ((List.mergeSort_perm pool byName).filter _).length_eq.symm).symm

/-- A candidate is found among those of its name. -/
theorem mem_of_filter_eq {list other : List Candidate}
    (same : ∀ name, list.filter (·.name = name) = other.filter (·.name = name))
    {candidate : Candidate} (member : candidate ∈ list) : candidate ∈ other := by
  have named : candidate ∈ list.filter (·.name = candidate.name) := by simp [member]
  rw [same] at named
  exact (List.mem_filter.mp named).1

theorem name_le_of_sorted {first candidate : Candidate} {rest : List Candidate}
    (sorted : (first :: rest).Pairwise (·.name ≤ ·.name)) (member : candidate ∈ first :: rest) :
    first.name ≤ candidate.name := by
  rcases List.mem_cons.mp member with rfl | later
  · exact String.le_refl _
  · exact (List.pairwise_cons.mp sorted).1 candidate later

/-- A sorted list is determined by its candidates of each name. -/
theorem eq_of_sorted {list other : List Candidate} (sorted : list.Pairwise (·.name ≤ ·.name))
    (otherSorted : other.Pairwise (·.name ≤ ·.name))
    (same : ∀ name, list.filter (·.name = name) = other.filter (·.name = name)) :
    list = other := by
  induction list generalizing other with
  | nil =>
      symm
      rw [List.eq_nil_iff_forall_not_mem]
      intro candidate member
      cases mem_of_filter_eq (fun name => (same name).symm) member
  | cons a rest ih =>
      cases other with
      | nil => cases mem_of_filter_eq same List.mem_cons_self
      | cons b others =>
          -- Each of the two first candidates is in the other list, so neither name is smaller.
          have sameName : a.name = b.name := by
            have isListed := mem_of_filter_eq (fun name => (same name).symm)
              (List.mem_cons_self (a := b) (l := others))
            have isOther := mem_of_filter_eq same (List.mem_cons_self (a := a) (l := rest))
            apply String.le_antisymm
            · exact name_le_of_sorted sorted isListed
            · exact name_le_of_sorted otherSorted isOther
          have first := same a.name
          rw [List.filter_cons_of_pos (by simp), List.filter_cons_of_pos (by simp [sameName])]
            at first
          obtain ⟨rfl, _⟩ := List.cons.inj first
          have tails : ∀ name, rest.filter (·.name = name) = others.filter (·.name = name) := by
            intro name
            have both := same name
            rw [List.filter_cons, List.filter_cons] at both
            split at both
            · exact (List.cons.inj both).2
            · exact both
          rw [ih (List.pairwise_cons.mp sorted).2 (List.pairwise_cons.mp otherSorted).2 tails]

theorem mergeSort_congr {pool other : List Candidate}
    (same : ∀ name, pool.filter (·.name = name) = other.filter (·.name = name)) :
    pool.mergeSort byName = other.mergeSort byName := by
  apply eq_of_sorted (sorted_mergeSort pool) (sorted_mergeSort other)
  intro name
  rw [filter_mergeSort, filter_mergeSort, same]

/-! ## Blocks -/

/-- The name of the candidate starts with what is typed, both in upper case. -/
def Candidate.Fits (typed : List Char) (candidate : Candidate) : Prop :=
  Text.upper typed <+: Text.upper candidate.name.toList

instance (typed : List Char) (candidate : Candidate) : Decidable (candidate.Fits typed) :=
  inferInstanceAs (Decidable (_ <+: _))

/-- A block lists the candidates of a pool that fit: each as often as the pool has it, sorted by
name, and those of one name in the order of the pool. -/
structure Lists (typed : List Char) (pool block : List Candidate) : Prop where
  perm : block.Perm (pool.filter (·.Fits typed))
  sorted : block.Pairwise (·.name ≤ ·.name)
  stable : ∀ name, block.filter (·.name = name) =
    (pool.filter (·.Fits typed)).filter (·.name = name)

/-- What is suggested from one pool. -/
def block (typed : List Char) (pool : List Candidate) : List Candidate :=
  (pool.mergeSort byName).filter (·.startsWith typed)

/-- A pool whose candidates are compared by their names in upper case. -/
def Keyed (pool : List Candidate) : Prop :=
  ∀ candidate ∈ pool, candidate.key = Text.upper candidate.name.toList

theorem startsWith_eq_decide_fits {candidate : Candidate} (typed : List Char)
    (keyed : candidate.key = Text.upper candidate.name.toList) :
    candidate.startsWith typed = decide (candidate.Fits typed) := by
  rw [Bool.eq_iff_iff, decide_eq_true_eq, Candidate.startsWith, List.isPrefixOf_iff_prefix, keyed]
  rfl

theorem lists_block {pool : List Candidate} (keyed : Keyed pool) (typed : List Char) :
    Lists typed pool (block typed pool) := by
  have fits : block typed pool = (pool.mergeSort byName).filter (·.Fits typed) := by
    apply List.filter_congr
    intro candidate member
    exact startsWith_eq_decide_fits typed (keyed candidate (List.mem_mergeSort.mp member))
  refine ⟨?_, (sorted_mergeSort pool).filter _, ?_⟩
  · rw [fits]
    exact (List.mergeSort_perm pool byName).filter _
  · intro name
    rw [fits, List.filter_comm, filter_mergeSort, List.filter_comm]

/-! ## The pools of a slot -/

/-- Tables, fields and the vocabularies of two lists of words. -/
def Sources.ofWords (tables : List String) (fields : List SchemaField)
    (keywords functions : List String) : Sources :=
  ⟨tables, fields, .ofWords keywords, .ofWords functions⟩

section OfWords

variable (tables : List String) (fields : List SchemaField) (keywords functions : List String)

theorem keyed_words (kind : SuggestionKind) (words : List String) :
    Keyed ((Vocabulary.ofWords words).words.map (Candidate.ofWord kind)) := by
  intro candidate member
  obtain ⟨word, isWord, rfl⟩ := List.mem_map.mp member
  exact (Vocabulary.upper_of_mem_ofWords isWord).symm

theorem keyed_of_mem_pools (slot : Slot) :
    ∀ pool ∈ pools (.ofWords tables fields keywords functions) slot, Keyed pool := by
  have ofTables : Keyed (tables.map Candidate.ofTable) := List.forall_mem_map.mpr fun _ _ => rfl
  have ofFields : Keyed (fields.map Candidate.ofField) := List.forall_mem_map.mpr fun _ _ => rfl
  have keyword : Keyed [Candidate.ofWord .keyword "BY"] := by
    intro candidate member
    rw [List.mem_singleton.mp member]
    decide
  intro pool member
  cases slot <;> simp only [pools, Sources.ofWords, List.mem_cons, List.not_mem_nil, or_false]
    at member
  case tableRef =>
    subst member
    exact ofTables
  case columnRef =>
    rcases member with rfl | rfl
    · exact ofFields
    · exact keyed_words .function functions
  case afterOrder =>
    subst member
    exact keyword
  case afterGroup =>
    subst member
    exact keyword
  case general =>
    rcases member with rfl | rfl | rfl | rfl
    · exact keyed_words .keyword keywords
    · exact keyed_words .function functions
    · exact ofTables
    · exact ofFields

theorem mergeSort_words (kind : SuggestionKind) (words : List String) :
    ((Vocabulary.ofWords words).words.map (Candidate.ofWord kind)).mergeSort byName =
      (Vocabulary.ofWords words).words.map (Candidate.ofWord kind) := by
  apply List.mergeSort_of_pairwise
  rw [List.pairwise_map]
  exact (Vocabulary.sorted_ofWords words).imp decide_eq_true

/-- Sorting tables and fields by name sorts every pool, as vocabularies are sorted already. -/
theorem pools_sorted (slot : Slot) :
    pools (Sources.ofWords tables fields keywords functions).sorted slot =
      (pools (.ofWords tables fields keywords functions) slot).map (·.mergeSort byName) := by
  have sortedTables : (tables.mergeSort fun a b => decide (a ≤ b)).map Candidate.ofTable =
      (tables.map Candidate.ofTable).mergeSort byName :=
    List.map_mergeSort fun _ _ _ _ => rfl
  have sortedFields :
      (fields.mergeSort fun a b => decide (a.name ≤ b.name)).map Candidate.ofField =
        (fields.map Candidate.ofField).mergeSort byName :=
    List.map_mergeSort fun _ _ _ _ => rfl
  cases slot <;> simp only [pools, Sources.sorted, Sources.ofWords, List.map_cons, List.map_nil,
    sortedTables, sortedFields, mergeSort_words, List.mergeSort_singleton]

theorem candidates_eq_blocks (slot : Slot) (typed : List Char) :
    candidates (.ofWords tables fields keywords functions) slot typed =
      ((pools (.ofWords tables fields keywords functions) slot).map (block typed)).flatten.map
        (·.item) := by
  rw [candidates_eq, pools_sorted, List.filter_flatten, List.map_map]
  rfl

end OfWords

/-! ## The order of tables and fields -/

/-- The same fields, where those of one name stand in the same order. -/
structure Reordered (fields others : List SchemaField) : Prop where
  perm : others.Perm fields
  kept : ∀ name, others.filter (·.name = name) = fields.filter (·.name = name)

theorem mergeSort_tables_congr {tables others : List String} (perm : others.Perm tables) :
    (others.map Candidate.ofTable).mergeSort byName =
      (tables.map Candidate.ofTable).mergeSort byName := by
  apply mergeSort_congr
  intro name
  have named : ∀ list : List String,
      (list.map Candidate.ofTable).filter (·.name = name) =
        (List.replicate (list.count name) name).map Candidate.ofTable := by
    intro list
    rw [List.filter_map, ← List.filter_eq]
    rfl
  rw [named, named, perm.count_eq]

theorem mergeSort_fields_congr {fields others : List SchemaField}
    (reordered : Reordered fields others) :
    (others.map Candidate.ofField).mergeSort byName =
      (fields.map Candidate.ofField).mergeSort byName := by
  apply mergeSort_congr
  intro name
  have named : ∀ list : List SchemaField,
      (list.map Candidate.ofField).filter (·.name = name) =
        (list.filter (·.name = name)).map Candidate.ofField := by
    intro list
    rw [List.filter_map]
    rfl
  rw [named, named, reordered.kept]

theorem candidates_reordered {tables others : List String} {fields otherFields : List SchemaField}
    (perm : others.Perm tables) (reordered : Reordered fields otherFields)
    (keywords functions : List String) (slot : Slot) (typed : List Char) :
    candidates (.ofWords others otherFields keywords functions) slot typed =
      candidates (.ofWords tables fields keywords functions) slot typed := by
  have sameTables := mergeSort_tables_congr perm
  have sameFields := mergeSort_fields_congr reordered
  rw [candidates_eq, candidates_eq, pools_sorted, pools_sorted]
  cases slot <;> simp only [pools, Sources.ofWords, List.map_cons, List.map_nil, sameTables,
    sameFields]

/-! ## What is shown -/

/-- All that is listed is shown, except for a single suggestion that repeats what is typed. -/
structure Shows (typed : List Char) (listed items : List Suggestion) : Prop where
  hidden : ∀ item, listed = [item] → Text.upper item.display.toList = Text.upper typed → items = []
  whole : (∀ item, listed = [item] → Text.upper item.display.toList ≠ Text.upper typed) →
    items = listed

theorem shows_of_repeatsTyped (typed : List Char) (listed : List Suggestion) :
    Shows typed listed (if repeatsTyped listed typed then [] else listed) where
  hidden := by
    intro item single shown
    have repeats : repeatsTyped listed typed = true := by
      rw [single, repeatsTyped, shown, beq_self_eq_true]
    rw [if_pos repeats]
  whole := by
    intro differs
    have notRepeated : ¬ repeatsTyped listed typed = true := by
      intro repeats
      obtain ⟨item, single, shown⟩ := exists_of_repeatsTyped repeats
      exact differs item single shown
    rw [if_neg notRepeated]

end Suggestions

open Suggestions in
/-- The suggestions for a word are the blocks of its slot, one after the other: of each source every
candidate whose name starts with the word in any case, as often as it is there and nothing else,
sorted by name. Only a single suggestion that repeats the word is hidden. The order in which tables
are known does not matter, nor that of fields of different names. -/
theorem suggestions_blocks {text before typed : List Char} {cursor : Nat}
    (place : TypedAt text cursor before typed) (tables : List String) (fields : List SchemaField)
    (keywords functions : List String) :
    (∃ blocks,
      List.Forall₂ (Lists typed) (pools (.ofWords tables fields keywords functions)
        (Slot.after before)) blocks ∧
      Shows typed (blocks.flatten.map (·.item))
        (suggestions text cursor (.ofWords tables fields keywords functions)).items) ∧
    ∀ others otherFields, others.Perm tables → Reordered fields otherFields →
      suggestions text cursor (.ofWords others otherFields keywords functions) =
        suggestions text cursor (.ofWords tables fields keywords functions) := by
  constructor
  · refine ⟨(pools (.ofWords tables fields keywords functions) (Slot.after before)).map
      (block typed), ?_, ?_⟩
    · rw [List.forall₂_map_right_iff, List.forall₂_same]
      intro pool member
      exact lists_block (keyed_of_mem_pools tables fields keywords functions _ pool member) typed
    · rw [suggestions_eq place, ← candidates_eq_blocks]
      exact shows_of_repeatsTyped typed _
  · intro others otherFields perm reordered
    rw [suggestions_eq place, suggestions_eq place, candidates_reordered perm reordered]

open Suggestions in
/-- The word `na` of a list of columns, with two fields of one name, where a third field and the
tables change places. -/
theorem suggestions_blocks_fields :
    let text := "SELECT na FROM t".toList
    let fields : List SchemaField := [⟨"name", "UTF8"⟩, ⟨"Nase", "UTF8"⟩, ⟨"name", "INT64"⟩]
    let others : List SchemaField := [⟨"Nase", "UTF8"⟩, ⟨"name", "UTF8"⟩, ⟨"name", "INT64"⟩]
    let sources := Sources.ofWords ["t", "u"] fields ["select"] ["now", "Nanvl"]
    TypedAt text 9 "SELECT ".toList "na".toList ∧ ["u", "t"].Perm ["t", "u"] ∧
    Reordered fields others ∧
    (∃ blocks,
      List.Forall₂ (Lists "na".toList) (pools sources (Slot.after "SELECT ".toList)) blocks ∧
      Shows "na".toList (blocks.flatten.map (·.item)) (suggestions text 9 sources).items) ∧
    suggestions text 9 (.ofWords ["u", "t"] others ["select"] ["now", "Nanvl"]) =
      suggestions text 9 sources := by
  intro text fields others sources
  have blank : "SELECT ".toList.getLast? = some ' ' := by decide
  have place : TypedAt text 9 "SELECT ".toList "na".toList := by
    refine ⟨by decide, by decide, by decide, List.all_eq_true.mp (by decide), ?_⟩
    intro c isLast
    rw [blank] at isLast
    cases isLast
    rfl
  have perm : ["u", "t"].Perm ["t", "u"] := List.Perm.swap _ _ _
  have reordered : Reordered fields others := by
    refine ⟨List.Perm.swap _ _ _, ?_⟩
    intro name
    by_cases isName : "name" = name
    · subst isName
      rfl
    · simp [fields, others, List.filter_cons, isName]
  have blocks := suggestions_blocks place ["t", "u"] fields ["select"] ["now", "Nanvl"]
  exact ⟨place, perm, reordered, blocks.1, blocks.2 _ _ perm reordered⟩

end SqlAssist
