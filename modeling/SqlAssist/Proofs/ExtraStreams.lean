import SqlAssist.CommandLine.Command
import SqlAssist.Proofs.AssociationLists

/-!
# Streams beside those of the configuration

The command for suggestions takes names of more streams, which have no fields. Two ideas of what is
the same stream meet there:

* **adding** — a name is added unless exactly that name is in the configuration (`exists_added`);
* **filing** — the catalog files a stream in lower case and without double quotes, and the later of
  two that share a normalised name counts (`get?_catalog`).

So another spelling of a configured stream is added and then filed in its place.
`fieldsFor_extraStreams` says that this is the only way for a stream to lose its fields.
-/
namespace SqlAssist

namespace Invocation

open StreamCatalog (normalise)

/-- Among the names is another spelling of the stream: one that means it, and that the configuration
does not have. -/
def Respelled (streams : Streams) (names : List String) (stream : String) : Prop :=
  ∃ name ∈ names, name ∉ Assoc.keys streams ∧ normalise name = normalise stream

instance (streams : Streams) (names : List String) (stream : String) :
    Decidable (Respelled streams names stream) :=
  inferInstanceAs (Decidable (∃ name ∈ names, _))

/-! ## Adding -/

theorem withExtraStreams_cons (streams : Streams) (name : String) (names : List String) :
    withExtraStreams streams (name :: names) =
      withExtraStreams (if name ∈ Assoc.keys streams then streams else streams ++ [(name, [])])
        names := by
  by_cases known : name ∈ Assoc.keys streams
  · have found : (Assoc.get? name streams).isSome = true :=
      Option.isSome_iff_ne_none.mpr (Assoc.get?_ne_none known)
    simp [withExtraStreams, found, known]
  · simp [withExtraStreams, Assoc.get?_eq_none known, known]

/-- The streams of the configuration stay as they are. Behind them come the names that are not among
them, without fields. -/
theorem exists_added (streams : Streams) (names : List String) :
    ∃ added : Streams, withExtraStreams streams names = streams ++ added ∧
      (∀ stream ∈ added, stream.2 = []) ∧
      ∀ name, name ∈ Assoc.keys added ↔ name ∈ names ∧ name ∉ Assoc.keys streams := by
  induction names generalizing streams with
  | nil => exact ⟨[], (List.append_nil _).symm, by simp, by simp [Assoc.keys]⟩
  | cons first rest ih =>
      rw [withExtraStreams_cons]
      by_cases known : first ∈ Assoc.keys streams
      · -- A name that is known is passed over, here and in the list of what is added.
        obtain ⟨added, whole, noFields, isAdded⟩ := ih streams
        refine ⟨added, by rw [if_pos known, whole], noFields, ?_⟩
        intro name
        rw [isAdded, List.mem_cons]
        constructor
        · rintro ⟨later, new⟩
          exact ⟨.inr later, new⟩
        · rintro ⟨rfl | later, new⟩
          · exact absurd known new
          · exact ⟨later, new⟩
      · obtain ⟨added, whole, noFields, isAdded⟩ := ih (streams ++ [(first, [])])
        refine ⟨(first, []) :: added, ?_, ?_, ?_⟩
        · rw [if_neg known, whole, List.append_assoc]
          rfl
        · exact List.forall_mem_cons.mpr ⟨rfl, noFields⟩
        · intro name
          have keys : Assoc.keys (streams ++ [(first, [])]) = Assoc.keys streams ++ [first] := by
            simp [Assoc.keys]
          have cons : name ∈ Assoc.keys ((first, ([] : List SchemaField)) :: added) ↔
              name = first ∨ name ∈ Assoc.keys added := List.mem_cons
          rw [cons, isAdded, keys, List.mem_append, List.mem_singleton, List.mem_cons]
          by_cases same : name = first
          · subst same
            simp [known]
          · simp [same]

/-! ## Filing -/

/-- A stream with the name that it is filed under. -/
def filedStream (stream : String × List SchemaField) : String × StreamCatalog.Entry :=
  (normalise stream.1, ⟨stream.1, stream.2⟩)

/-- Behind other streams, the added ones are filed over them: a name means the stream that it meant
before, or one of those that were added. -/
theorem get?_catalog (streams added : Streams) (name : String) :
    ((∀ stream ∈ added, normalise stream.1 ≠ normalise name) ∧
      Assoc.get? (normalise name) (StreamCatalog.ofStreams (streams ++ added)).entries =
        Assoc.get? (normalise name) (StreamCatalog.ofStreams streams).entries) ∨
    ∃ stream ∈ added, normalise stream.1 = normalise name ∧
      Assoc.get? (normalise name) (StreamCatalog.ofStreams (streams ++ added)).entries =
        some ⟨stream.1, stream.2⟩ := by
  have filed : (StreamCatalog.ofStreams (streams ++ added)).entries =
      Assoc.update (StreamCatalog.ofStreams streams).entries (added.map filedStream) := by
    unfold StreamCatalog.ofStreams Assoc.ofPairs Assoc.update
    rw [List.map_append, List.foldl_append]
    rfl
  rw [filed]
  rcases Assoc.get?_update_cases (normalise name) (StreamCatalog.ofStreams streams).entries
    (added.map filedStream) with ⟨absent, same⟩ | ⟨entry, member, found⟩
  · refine .inl ⟨?_, same⟩
    intro stream isAdded means
    have isKey : normalise stream.1 ∈ Assoc.keys (added.map filedStream) :=
      Assoc.mem_keys (List.mem_map_of_mem isAdded)
    exact absent (means ▸ isKey)
  · obtain ⟨stream, isAdded, pair⟩ := List.mem_map.mp member
    obtain ⟨means, rfl⟩ := Prod.mk.inj pair
    exact .inr ⟨stream, isAdded, means, found⟩

theorem exists_entry {streams : Streams} {stream : String} (known : stream ∈ Assoc.keys streams) :
    ∃ entry, Assoc.get? (normalise stream) (StreamCatalog.ofStreams streams).entries =
      some entry := by
  obtain ⟨pair, member, rfl⟩ := List.mem_map.mp known
  rcases get?_catalog [] streams pair.1 with ⟨absent, _⟩ | ⟨other, _, _, found⟩
  · exact absurd rfl (absent pair member)
  · exact ⟨_, found⟩

theorem fieldsFor_singleton {catalog : StreamCatalog} {name : String} {entry : StreamCatalog.Entry}
    (found : Assoc.get? (normalise name) catalog.entries = some entry) :
    catalog.fieldsFor [name] = StreamCatalog.distinctFields [] entry.fields := by
  have matched : catalog.matched [name] = [entry] := by
    simp [StreamCatalog.matched, found, List.eraseDups_cons]
  simp [StreamCatalog.fieldsFor, matched]

/-! ## The fields of a configured stream -/

/-- More streams leave a configured stream its fields, unless one of them is another spelling of its
name. Such a spelling takes all of them away. -/
theorem fieldsFor_extraStreams (config : Config) (names : List String) (parser : Parser)
    {stream : String} (configured : stream ∈ Assoc.keys config.streams) :
    let fields (names : List String) := (editorFor config names parser).catalog.fieldsFor [stream]
    (fields names = fields [] ↔ ¬ Respelled config.streams names stream ∨ fields [] = []) ∧
      (Respelled config.streams names stream → fields names = []) := by
  intro fields
  obtain ⟨added, whole, noFields, isAdded⟩ := exists_added config.streams names
  have respelled : Respelled config.streams names stream ↔
      ∃ other ∈ added, normalise other.1 = normalise stream := by
    constructor
    · rintro ⟨name, isExtra, new, means⟩
      obtain ⟨other, member, rfl⟩ := List.mem_map.mp ((isAdded name).mpr ⟨isExtra, new⟩)
      exact ⟨other, member, means⟩
    · rintro ⟨other, member, means⟩
      obtain ⟨isExtra, new⟩ := (isAdded other.1).mp (Assoc.mem_keys member)
      exact ⟨other.1, isExtra, new, means⟩
  have catalog : (editorFor config names parser).catalog = .ofStreams (config.streams ++ added) :=
    congrArg StreamCatalog.ofStreams whole
  have kept : ¬ Respelled config.streams names stream → fields names = fields [] := by
    intro plain
    obtain ⟨entry, found⟩ := exists_entry configured
    rcases get?_catalog config.streams added stream with ⟨_, same⟩ | ⟨other, member, means, _⟩
    · show (editorFor config names parser).catalog.fieldsFor [stream] = _
      rw [catalog, fieldsFor_singleton (same.trans found)]
      exact (fieldsFor_singleton found).symm
    · exact absurd (respelled.mpr ⟨other, member, means⟩) plain
  have taken : Respelled config.streams names stream → fields names = [] := by
    intro spelled
    obtain ⟨other, member, means⟩ := respelled.mp spelled
    rcases get?_catalog config.streams added stream with ⟨absent, _⟩ | ⟨last, isLast, _, found⟩
    · exact absurd means (absent other member)
    · show (editorFor config names parser).catalog.fieldsFor [stream] = _
      rw [catalog, fieldsFor_singleton found, noFields last isLast]
      rfl
  refine ⟨?_, taken⟩
  constructor
  · intro same
    by_cases spelled : Respelled config.streams names stream
    · exact .inr (same ▸ taken spelled)
    · exact .inl spelled
  · rintro (plain | nothing)
    · exact kept plain
    · by_cases spelled : Respelled config.streams names stream
      · rw [taken spelled, nothing]
      · exact kept spelled

/-- A stream with two fields, and one whose fields are not known yet. -/
def twoStreams : Streams :=
  [("Access_Logs", [⟨"host", "Utf8"⟩, ⟨"level", "Utf8"⟩]), ("metrics", [])]

/-- An editor with these streams and more of them. -/
def twoStreamEditor (names : List String) : Editor :=
  editorFor { streams := twoStreams } names fun _ _ => .tables []

/-- The stream in the spelling of the configuration, a new stream, and another spelling of the other
stream: the fields stay. -/
theorem fieldsFor_extraStreams_kept :
    "Access_Logs" ∈ Assoc.keys twoStreams ∧
      ¬ Respelled twoStreams ["Access_Logs", "zoo", "METRICS"] "Access_Logs" ∧
      (twoStreamEditor ["Access_Logs", "zoo", "METRICS"]).catalog.fieldsFor ["Access_Logs"] =
        (twoStreamEditor []).catalog.fieldsFor ["Access_Logs"] := by
  have configured : "Access_Logs" ∈ Assoc.keys twoStreams := by decide
  have plain : ¬ Respelled twoStreams ["Access_Logs", "zoo", "METRICS"] "Access_Logs" := by
    decide +kernel
  have fields := fieldsFor_extraStreams { streams := twoStreams } ["Access_Logs", "zoo", "METRICS"]
    (fun _ _ => .tables []) configured
  exact ⟨configured, plain, fields.1.mpr (.inl plain)⟩

/-- Another spelling of the stream takes both of its fields away. -/
theorem fieldsFor_extraStreams_taken :
    (twoStreamEditor []).catalog.fieldsFor ["Access_Logs"] = [⟨"host", "Utf8"⟩, ⟨"level", "Utf8"⟩] ∧
      (twoStreamEditor ["access_logs"]).catalog.fieldsFor ["Access_Logs"] = [] := by
  decide +kernel

end Invocation

end SqlAssist
