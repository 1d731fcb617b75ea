import Mathlib.Data.List.Find
import SqlAssist.Proofs.LetterCase
import SqlAssist.Proofs.ScopedSuggestions

/-!
# Looking up the fields of streams

A look-up passes three times over what is the same: streams are filed under normalised names, names
that mean one stream count once, and of the fields with one name one is kept. What comes out is told
here without any of these passes:

* **filing** — of the streams that share a normalised name the last one is in the catalog, in the
  place of the first one (`streams_ofStreams`);
* **fields** — a field is kept if it is the first with its name in the first stream in scope that
  has one (`mem_fieldsFor_iff`);
* **spelling** — a name counts by its normalised form (`fieldsFor_congr`), which double quotes and
  the case of ASCII letters do not change (`normalise_congr`).
-/
namespace SqlAssist

section Firsts

variable {α κ : Type} [DecidableEq κ] (key : α → κ)

/-- An item is the first of its kind if a search for its key ends at it. -/
theorem mem_firsts_iff {item : α} (items : List α) :
    item ∈ firsts key items ↔ items.find? (key · = key item) = some item := by
  match items with
  | [] => simp [firsts]
  | first :: rest =>
      rw [firsts_cons, List.mem_cons, mem_firsts_iff (rest.filter _), List.find?_filter]
      by_cases same : key first = key item
      · rw [List.find?_cons_of_pos (by simpa using same), Option.some.injEq]
        constructor
        · rintro (rfl | later)
          · rfl
          · -- Behind the first item only other keys are left to search.
            have other := List.find?_some later
            simp [same] at other
        · rintro rfl
          exact .inl rfl
      · have passed : (rest.find? fun other => decide (decide (key other ≠ key first) = true ∧
            decide (key other = key item) = true)) = rest.find? (key · = key item) := by
          apply List.find?_congr
          intro other _
          by_cases found : key other = key item
          · simp [found, Ne.symm same]
          · simp [found]
        rw [List.find?_cons_of_neg (by simpa using same), passed]
        constructor
        · rintro (rfl | later)
          · exact absurd rfl same
          · exact later
        · exact .inr
termination_by items.length
decreasing_by exact Nat.lt_succ_of_le (List.length_filter_le _ _)

/-- No key is lost. -/
theorem mem_map_firsts_iff {k : κ} (items : List α) :
    k ∈ (firsts key items).map key ↔ k ∈ items.map key := by
  constructor
  · intro member
    exact ((firsts_sublist key items).map key).subset member
  · intro member
    obtain ⟨item, isItem, rfl⟩ := List.mem_map.mp member
    have some : (items.find? (key · = key item)).isSome = true :=
      List.find?_isSome.mpr ⟨item, isItem, by simp⟩
    obtain ⟨first, found⟩ := Option.isSome_iff_exists.mp some
    have same : key first = key item := by simpa using List.find?_some found
    rw [← same] at found ⊢
    exact List.mem_map_of_mem ((mem_firsts_iff key items).mpr found)

end Firsts

/-! ## Filing -/

namespace Assoc

variable {κ α : Type} [DecidableEq κ]

/-- New keys go to the end, each in its first place. -/
theorem keys_update (pairs more : List (κ × α)) :
    keys (update pairs more) = keys pairs ++ firsts id ((keys more).filter (· ∉ keys pairs)) := by
  induction more generalizing pairs with
  | nil => simp [update, keys, firsts]
  | cons pair rest ih =>
      have first := firsts_unseen_cons id (keys pairs) pair.1 (keys rest)
      simp only [id] at first
      rw [update_cons, ih]
      show _ = keys pairs ++ firsts id ((pair.1 :: keys rest).filter (· ∉ keys pairs))
      rw [first]
      -- A known key keeps its place, and a new one is passed over from then on.
      by_cases known : pair.1 ∈ keys pairs
      · rw [if_pos known, keys_put_known known]
      · rw [if_neg known, keys_put_new known, List.append_assoc, List.singleton_append]
        congr 3
        apply List.filter_congr
        intro other _
        simp [or_comm]

end Assoc

namespace StreamCatalog

/-- The streams that a catalog has: under each normalised name, in the place of the first stream
with that name, the last one. -/
def lastStreams (given : Streams) : List Entry :=
  (firsts id (given.map (normalise ·.1))).filterMap fun name =>
    (given.reverse.find? (normalise ·.1 = name)).map fun stream => ⟨stream.1, stream.2⟩

theorem streams_ofStreams (given : Streams) : (ofStreams given).streams = lastStreams given := by
  have filed : (ofStreams given).entries =
      Assoc.update [] (given.map fun stream => (normalise stream.1, ⟨stream.1, stream.2⟩)) := rfl
  have keys : Assoc.keys (ofStreams given).entries = firsts id (given.map (normalise ·.1)) := by
    rw [filed, Assoc.keys_update]
    simp [Assoc.keys, Function.comp_def]
  rw [streams, Assoc.map_snd_eq (filed_ofStreams given).distinct, keys, lastStreams]
  apply List.filterMap_congr
  intro name _
  rw [filed, Assoc.get?_update_last, ← List.map_reverse, List.find?_map, Option.map_map]
  exact Option.or_none

theorem nodup_streamNames (given : Streams) :
    ((ofStreams given).streamNames.map normalise).Nodup := by
  have filed := filed_ofStreams given
  have own : (ofStreams given).streamNames.map normalise =
      Assoc.keys (ofStreams given).entries := by
    rw [streamNames, List.map_map, Assoc.keys]
    apply List.map_congr_left
    intro entry member
    exact (filed.own entry member).symm
  rw [own]
  exact filed.distinct

end StreamCatalog

/-! ## Spelling -/

namespace Text

theorem caseless_lowerChar : Caseless lowerChar := caseless_of_capitals (by decide)

theorem caseless_isCased : Caseless isCased := caseless_of_capitals (by decide)

theorem caseless_isIgnorable : Caseless isIgnorable := caseless_of_capitals (by decide)

theorem meetsCased_lowered (cs : List Char) : meetsCased (lowered cs) = meetsCased cs := by
  have passed : (lowered cs).dropWhile isIgnorable = lowered (cs.dropWhile isIgnorable) := by
    rw [lowered, List.dropWhile_map, caseless_isIgnorable.comp_toLower]
    rfl
  rw [meetsCased, passed, caseless_isCased.head?_any, meetsCased]

/-- What stands around a sigma has case or not whatever its case is. -/
theorem lowerAfter_lowered (before cs : List Char) :
    lowerAfter (lowered before) (lowered cs) = lowerAfter before cs := by
  have sigma : Caseless (· == 'Σ') := caseless_of_capitals (by decide)
  induction cs generalizing before with
  | nil => rfl
  | cons c cs ih =>
      rw [lowered_cons, lowerAfter, lowerAfter, meetsCased_lowered, meetsCased_lowered,
        caseless_lowerChar c, ← lowered_cons, ih]
      simp only [sigma.eq_iff]

theorem lower_lowered (cs : List Char) : lower (lowered cs) = lower cs := lowerAfter_lowered [] cs

end Text

namespace StreamCatalog

/-- The names differ at most in double quotes and in the case of ASCII letters. -/
def SpelledAlike (name other : String) : Prop :=
  lowered (name.toList.filter (· != '"')) = lowered (other.toList.filter (· != '"'))

instance (name other : String) : Decidable (SpelledAlike name other) :=
  inferInstanceAs (Decidable (_ = _))

theorem normalise_congr {name other : String} (alike : SpelledAlike name other) :
    normalise name = normalise other := by
  rw [normalise, normalise, ← Text.lower_lowered, alike, Text.lower_lowered]

theorem map_normalise_congr {names others : List String}
    (alike : List.Forall₂ SpelledAlike names others) :
    names.map normalise = others.map normalise := by
  induction alike with
  | nil => rfl
  | cons here later ih => rw [List.map_cons, List.map_cons, normalise_congr here, ih]

/-- The streams that are meant are all that matters about names. -/
theorem fieldsFor_of_matched {catalog : StreamCatalog} {names others : List String}
    (same : catalog.matched names = catalog.matched others) :
    catalog.fieldsFor names = catalog.fieldsFor others := by
  rw [fieldsFor, fieldsFor, same]

theorem fieldsFor_congr (catalog : StreamCatalog) {names others : List String}
    (same : names.map normalise = others.map normalise) :
    catalog.fieldsFor names = catalog.fieldsFor others := by
  have byNormalised (list : List String) : catalog.matched list =
      ((list.map normalise).filterMap (Assoc.get? · catalog.entries)).eraseDups := by
    rw [List.filterMap_map]
    rfl
  apply fieldsFor_of_matched
  rw [byNormalised, byNormalised, same]

/-- What gives the same as something in front of it adds nothing. -/
theorem eraseDups_filterMap_repeated {α β : Type} [DecidableEq β] {f : α → Option β}
    {front : List α} {earlier item : α} (member : earlier ∈ front) (same : f earlier = f item)
    (back : List α) :
    ((front ++ item :: back).filterMap f).eraseDups = ((front ++ back).filterMap f).eraseDups := by
  rw [List.filterMap_append, List.filterMap_append]
  cases found : f item with
  | none => rw [List.filterMap_cons_none found]
  | some value =>
      have known : value ∈ front.filterMap f :=
        List.mem_filterMap.mpr ⟨earlier, member, same.trans found⟩
      rw [List.filterMap_cons_some found, List.eraseDups_append, List.eraseDups_append,
        List.removeAll, List.filter_cons_of_neg (by simpa using known)]
      rfl

theorem fieldsFor_repeated (catalog : StreamCatalog) {front : List String} {earlier name : String}
    (member : earlier ∈ front) (same : normalise earlier = normalise name) (back : List String) :
    catalog.fieldsFor (front ++ name :: back) = catalog.fieldsFor (front ++ back) := by
  apply fieldsFor_of_matched
  exact eraseDups_filterMap_repeated member (by rw [same]) back

/-! ## Fields -/

/-- A field is kept if it is the first with its name in the first stream in scope that has one. -/
theorem mem_fieldsFor_iff {given : Streams} {names : List String} {field : SchemaField} :
    field ∈ (ofStreams given).fieldsFor names ↔
      ∃ front stream back, (ofStreams given).scope names = front ++ stream :: back ∧
        stream.fields.find? (·.name = field.name) = some field ∧
        ∀ other ∈ front, field.name ∉ other.fields.map (·.name) := by
  rw [(filed_ofStreams given).fieldsFor_eq, scopedFields, mem_firsts_iff, List.find?_flatMap,
    List.findSome?_eq_some_iff]
  have absent (stream : Entry) : stream.fields.find? (·.name = field.name) = none ↔
      field.name ∉ stream.fields.map (·.name) := by
    simp [List.find?_eq_none]
  simp only [absent]

theorem mem_names_fieldsFor_iff {given : Streams} {names : List String} {name : String} :
    name ∈ ((ofStreams given).fieldsFor names).map (·.name) ↔
      ∃ stream ∈ (ofStreams given).scope names, name ∈ stream.fields.map (·.name) := by
  rw [(filed_ofStreams given).fieldsFor_eq, scopedFields, mem_map_firsts_iff, List.map_flatMap,
    List.mem_flatMap]

/-- The fields of streams have different names, and the first of each name counts. In a catalog no
two streams share a normalised name: the last of them is in the place of the first. For names that
are asked for, the fields are those of the streams that are meant, or of all streams if none is; of
several fields with one name the first counts, in the first stream that has it. Double quotes, the
case of ASCII letters, and names that were asked for before make no difference. -/
theorem fieldsFor_firstWins (given : Streams) (names : List String) :
    let catalog := ofStreams given
    let fields := catalog.fieldsFor names
    catalog.streams = lastStreams given ∧
    (catalog.streamNames.map normalise).Nodup ∧
    (fields.map (·.name)).Nodup ∧
    (∀ name, name ∈ fields.map (·.name) ↔
      ∃ stream ∈ catalog.scope names, name ∈ stream.fields.map (·.name)) ∧
    (∀ field, field ∈ fields ↔
      ∃ front stream back, catalog.scope names = front ++ stream :: back ∧
        stream.fields.find? (·.name = field.name) = some field ∧
        ∀ other ∈ front, field.name ∉ other.fields.map (·.name)) ∧
    (∀ others, List.Forall₂ SpelledAlike names others → catalog.fieldsFor others = fields) ∧
    (∀ front back name, names = front ++ back → (∃ earlier ∈ front, SpelledAlike earlier name) →
      catalog.fieldsFor (front ++ name :: back) = fields) := by
  intro catalog fields
  refine ⟨streams_ofStreams given, nodup_streamNames given, ?_, fun name => mem_names_fieldsFor_iff,
    fun field => mem_fieldsFor_iff, ?_, ?_⟩
  · show ((catalog.fieldsFor names).map (·.name)).Nodup
    rw [(filed_ofStreams given).fieldsFor_eq]
    exact nodup_firsts _ _
  · intro others alike
    exact catalog.fieldsFor_congr (map_normalise_congr alike).symm
  · rintro front back name rfl ⟨earlier, member, alike⟩
    exact catalog.fieldsFor_repeated member (normalise_congr alike) back

/-- Two spellings of a stream, of which the second counts, and a stream that shares a field with it;
asked for in other spellings, and the first of them twice. -/
theorem fieldsFor_firstWins_spellings :
    let given : Streams :=
      [("Orders", [⟨"id", "INT64"⟩]), ("users", [⟨"name", "INT64"⟩, ⟨"id", "UTF8"⟩]),
        ("\"ORDERS\"", [⟨"name", "UTF8"⟩, ⟨"name", "BOOL"⟩])]
    let catalog := ofStreams given
    List.Forall₂ SpelledAlike ["orders", "users"] ["O\"rders\"", "USERS"] ∧
    SpelledAlike "orders" "\"ORDERS" ∧
    catalog.streamNames = ["\"ORDERS\"", "users"] ∧
    catalog.fieldsFor ["orders", "users"] = [⟨"name", "UTF8"⟩, ⟨"id", "UTF8"⟩] ∧
    catalog.fieldsFor ["O\"rders\"", "USERS"] = catalog.fieldsFor ["orders", "users"] ∧
    catalog.fieldsFor ["orders", "\"ORDERS", "users"] = catalog.fieldsFor ["orders", "users"] := by
  intro given catalog
  have alike : List.Forall₂ SpelledAlike ["orders", "users"] ["O\"rders\"", "USERS"] :=
    .cons (by decide +kernel) (.cons (by decide +kernel) .nil)
  have again : SpelledAlike "orders" "\"ORDERS" := by decide +kernel
  obtain ⟨_, _, _, _, _, spelled, repeated⟩ := fieldsFor_firstWins given ["orders", "users"]
  exact ⟨alike, again, by decide +kernel, by decide +kernel, spelled _ alike,
    repeated ["orders"] ["users"] _ rfl ⟨_, List.mem_cons_self, again⟩⟩

end StreamCatalog

end SqlAssist
