import Mathlib.Data.List.Perm.Subperm
import RequestLayer.Proofs.Settings.Readers
import RequestLayer.Settings.Writer

set_option autoImplicit false

namespace RequestLayer

namespace Json

variable {ρ : Type} {names : List String} {set : ρ → String → Json → Option ρ}

structure Declared (names : List String) (fields : Fields) : Prop where
  unique : (fields.map Prod.fst).Nodup
  known : fields.map Prod.fst ⊆ names

-- By induction on the fields: they are new names of the structure, each not seen before.
theorem fields_set (entries : Fields) (record : ρ) (seen : List String)
    (unique : (entries.map Prod.fst).Nodup)
    (fresh : ∀ name ∈ entries.map Prod.fst, name ∈ names ∧ name ∉ seen) :
    (entries.foldlM (withField? names set) (record, seen)).map Prod.fst =
      entries.foldlM (fun record entry => set record entry.1 entry.2) record := by
  induction entries generalizing record seen with
  | nil => rfl
  | cons entry rest ih =>
      obtain ⟨absent, unique⟩ := List.nodup_cons.mp unique
      obtain ⟨first, fresh⟩ := List.forall_mem_cons.mp fresh
      rw [List.foldlM_cons, List.foldlM_cons, withField?, if_pos first]
      cases set record entry.1 entry.2 with
      | none => rfl
      | some after =>
          refine ih after (entry.1 :: seen) unique fun name member => ⟨(fresh name member).1, ?_⟩
          intro old
          rcases List.mem_cons.mp old with rfl | old
          · exact absent member
          · exact (fresh name member).2 old

theorem fields_read (entries : Fields) (record : ρ) (seen : List String) (state : ρ × List String)
    (read : entries.foldlM (withField? names set) (record, seen) = some state) :
    (entries.map Prod.fst).Nodup ∧ ∀ entry ∈ entries, entry.1 ∈ names ∧ entry.1 ∉ seen ∧
      ∃ before after, set before entry.1 entry.2 = some after := by
  induction entries generalizing record seen with
  | nil => exact ⟨List.nodup_nil, fun _ => nofun⟩
  | cons entry rest ih =>
      rw [List.foldlM_cons, withField?] at read
      obtain ⟨next, step, read⟩ := Option.bind_eq_some_iff.mp read
      split at step
      · rename_i first
        obtain ⟨after, found, rfl⟩ := Option.map_eq_some_iff.mp step
        obtain ⟨unique, others⟩ := ih after (entry.1 :: seen) read
        refine ⟨List.nodup_cons.mpr ⟨?_, unique⟩, List.forall_mem_cons.mpr ⟨?_, ?_⟩⟩
        · intro repeated
          obtain ⟨other, member, same⟩ := List.mem_map.mp repeated
          exact (others other member).2.1 (same ▸ List.mem_cons_self)
        · exact ⟨first.1, first.2, record, after, found⟩
        · intro other member
          obtain ⟨declared, new, change⟩ := others other member
          exact ⟨declared, fun old => new (List.mem_cons_of_mem _ old), change⟩
      · cases step

theorem record_read (entries : Fields) (start record : ρ)
    (read : record? names set start (.object entries) = some record) :
    Declared names entries ∧
      ∀ entry ∈ entries, ∃ before after, set before entry.1 entry.2 = some after := by
  obtain ⟨state, read, _⟩ := Option.map_eq_some_iff.mp read
  obtain ⟨unique, each⟩ := fields_read entries start [] state read
  exact ⟨⟨unique, List.forall_mem_map.mpr fun entry member => (each entry member).1⟩,
    fun entry member => (each entry member).2.2⟩

-- What fields make of a structure one after another, when `overlay` tells what they make of it
-- together.
theorem entries_overlay (overlay : ρ → Fields → ρ) (entries : Fields) (record : ρ)
    (none : ∀ record, overlay record [] = record)
    (one : ∀ record, ∀ entry ∈ entries, ∀ rest, ∃ after, set record entry.1 entry.2 = some after ∧
      overlay after rest = overlay record (entry :: rest)) :
    entries.foldlM (fun record entry => set record entry.1 entry.2) record =
      some (overlay record entries) := by
  induction entries generalizing record with
  | nil => rw [none]; rfl
  | cons entry rest ih =>
      obtain ⟨after, found, same⟩ := one record entry List.mem_cons_self rest
      rw [List.foldlM_cons, found, ← same]
      exact ih after fun record entry member => one record entry (List.mem_cons_of_mem _ member)

theorem record_overlay (overlay : ρ → Fields → ρ) (entries : Fields) (start : ρ)
    (none : ∀ record, overlay record [] = record)
    (one : ∀ record, ∀ entry ∈ entries, ∀ rest, ∃ after, set record entry.1 entry.2 = some after ∧
      overlay after rest = overlay record (entry :: rest))
    (declared : Declared names entries) :
    record? names set start (.object entries) = some (overlay start entries) := by
  have fresh : ∀ name ∈ entries.map Prod.fst, name ∈ names ∧ name ∉ ([] : List String) :=
    fun name member => ⟨declared.known member, nofun⟩
  rw [record?, fields_set entries start [] declared.unique fresh]
  exact entries_overlay overlay entries start none one

theorem below_of (limit value : Nat) (small : value < limit) :
    below? limit (.ofNat value) = some value :=
  (Reader.below_iff limit value _).mpr ⟨rfl, small⟩

theorem texts_of (names : List String) : texts? (.ofNames names) = some names := by
  change (names.map Json.string).mapM string? = some names
  induction names with
  | nil => rfl
  | cons name rest ih =>
      rw [List.map_cons, List.mapM_cons, ih]
      rfl

theorem nullable_of {α : Type} (decode : Json → Option α) (write : α → Json) (value : Option α)
    (reads : ∀ found ∈ value, decode (write found) = some found)
    (solid : ∀ found, (write found).isNull = false) :
    nullable? decode (.ofOption (value.map write)) = some value := by
  cases value with
  | none => rfl
  | some found =>
      have read := reads found rfl
      have plain := solid found
      change nullable? decode (write found) = some (some found)
      unfold nullable?
      split
      · rename_i null
        rw [null] at plain
        cases plain
      · rw [read]
        rfl

theorem has_cons (entry : String × Json) (rest : Fields) (name : String) :
    Fields.has (entry :: rest) name = (name == entry.1 || rest.has name) := by
  unfold Fields.has
  rw [List.lookup_cons]
  cases name == entry.1 with
  | false => rfl
  | true => rfl

theorem subperm_declared (written fields : Fields) (kept : written.Subperm fields)
    (declared : Declared names fields) : Declared names written := by
  obtain ⟨some, ordered, sublist⟩ := kept
  have reordered := ordered.map Prod.fst
  have among := sublist.map Prod.fst
  exact ⟨reordered.nodup_iff.mp (declared.unique.sublist among),
    fun name member => declared.known (among.subset (reordered.mem_iff.mpr member))⟩

end Json

open Json

namespace RetrySettings

def names : List String := ["retries", "backoff_ms", "method_allowlist"]

def set (record : RetrySettings) (name : String) (value : Json) : Option RetrySettings :=
  match name with
  | "retries" => (below? (Nat.pow 2 32) value).map fun retries => { record with retries }
  | "backoff_ms" => (below? (Nat.pow 2 64) value).map fun backoffMilliseconds =>
      { record with backoffMilliseconds }
  | "method_allowlist" => (nullable? texts? value).map fun methods => { record with methods }
  | _ => none

theorem reader_reads : Reader.Reads reader (record? names set {}) := by
  refine Reader.structured_reads _ _ _ _ ?_
  simp only [List.forall_mem_cons]
  refine ⟨?_, ?_, ?_, fun _ => nofun⟩
  · exact Reader.field_reads _ _ _ _ (Reader.natural_reads _ _ (by decide))
  · exact Reader.field_reads _ _ _ _ (Reader.natural_reads _ _ (by decide))
  · exact Reader.field_reads _ _ _ _ (Reader.optional_reads _ _ Reader.texts_reads)

def fields (settings : RetrySettings) : Fields :=
  [("backoff_ms", .ofNat settings.backoffMilliseconds),
    ("method_allowlist", .ofOption (settings.methods.map .ofNames)),
    ("retries", .ofNat settings.retries)]

structure Fits (settings : RetrySettings) : Prop where
  retries : settings.retries < Nat.pow 2 32
  backoff : settings.backoffMilliseconds < Nat.pow 2 64

-- The settings in the fields that are written, and the base in those left out.
def overlay (settings base : RetrySettings) (written : Fields) : RetrySettings where
  retries := if written.has "retries" then settings.retries else base.retries
  backoffMilliseconds :=
    if written.has "backoff_ms" then settings.backoffMilliseconds else base.backoffMilliseconds
  methods := if written.has "method_allowlist" then settings.methods else base.methods

def standard : RetrySettings where
  retries := 5
  backoffMilliseconds := 125
  methods := none

theorem field_set (settings : RetrySettings) (fits : settings.Fits) (record : RetrySettings)
    (entry : String × Json) (member : entry ∈ settings.fields) (rest : Fields) :
    ∃ after, set record entry.1 entry.2 = some after ∧
      settings.overlay after rest = settings.overlay record (entry :: rest) := by
  simp only [fields, List.mem_cons, List.not_mem_nil, or_false] at member
  rcases member with rfl | rfl | rfl
  · refine ⟨{ record with backoffMilliseconds := settings.backoffMilliseconds }, ?_, ?_⟩
    · rw [set, below_of _ _ fits.backoff]
      rfl
    · simp [overlay, has_cons]
  · refine ⟨{ record with methods := settings.methods }, ?_, ?_⟩
    · rw [set, nullable_of _ _ _ (fun names _ => texts_of names) fun _ => rfl]
      rfl
    · simp [overlay, has_cons]
  · refine ⟨{ record with retries := settings.retries }, ?_, ?_⟩
    · rw [set, below_of _ _ fits.retries]
      rfl
    · simp [overlay, has_cons]

theorem overlay_nothing (settings base : RetrySettings) : settings.overlay base [] = base := rfl

theorem overlay_everything (settings base : RetrySettings) :
    settings.overlay base settings.fields = settings := by
  simp [overlay, fields, has_cons]

theorem overlay_fits (settings : RetrySettings) (fits : settings.Fits) (written : Fields) :
    (settings.overlay standard written).Fits where
  retries := by
    change (if written.has "retries" then settings.retries else 5) < Nat.pow 2 32
    split
    · exact fits.retries
    · decide
  backoff := by
    change (if written.has "backoff_ms" then settings.backoffMilliseconds else 125) < Nat.pow 2 64
    split
    · exact fits.backoff
    · decide

theorem fields_declared (settings : RetrySettings) : Declared names settings.fields where
  unique := show ["backoff_ms", "method_allowlist", "retries"].Nodup by decide
  known := show ["backoff_ms", "method_allowlist", "retries"] ⊆ names by decide

theorem fields_overlay (settings : RetrySettings) (fits : settings.Fits) (written : Fields)
    (kept : written.Subperm settings.fields) :
    record? names set {} (.object written) = some (settings.overlay standard written) :=
  record_overlay settings.overlay written standard settings.overlay_nothing
    (fun record entry member rest => settings.field_set fits record entry (kept.subset member) rest)
    (subperm_declared written settings.fields kept settings.fields_declared)

end RetrySettings

namespace Settings

def names : List String :=
  ["cache_enabled", "cache_capacity", "validation_threshold", "cacheable_methods",
    "cache_allow_list", "retry", "stale_check_delay_secs"]

def set (record : Settings) (name : String) (value : Json) : Option Settings :=
  match name with
  | "cache_enabled" => value.bool?.map fun cacheEnabled => { record with cacheEnabled }
  | "cache_capacity" => (nullable? (below? (Nat.pow 2 64)) value).map fun cacheCapacity =>
      { record with cacheCapacity }
  | "validation_threshold" =>
      (nullable? (named? [("finalized", Freshness.Threshold.finalized), ("safe", .safe)])
        value).map fun threshold => { record with threshold }
  | "cacheable_methods" => (nullable? texts? value).map fun cacheable => { record with cacheable }
  | "cache_allow_list" => value.texts?.map fun allowed => { record with allowed }
  | "retry" => (record? RetrySettings.names RetrySettings.set {} value).map fun retry =>
      { record with retry }
  | "stale_check_delay_secs" => (nullable? (below? (Nat.pow 2 64)) value).map fun staleAfter =>
      { record with staleAfter }
  | _ => none

theorem reader_reads : Reader.Reads reader (record? names set {}) := by
  refine Reader.structured_reads _ _ _ _ ?_
  simp only [List.forall_mem_cons]
  refine ⟨?_, ?_, ?_, ?_, ?_, ?_, ?_, fun _ => nofun⟩
  · exact Reader.field_reads _ _ _ _ Reader.boolean_reads
  · exact Reader.field_reads _ _ _ _
      (Reader.optional_reads _ _ (Reader.natural_reads _ _ (by decide)))
  · exact Reader.field_reads _ _ _ _ (Reader.optional_reads _ _ (Reader.choice_reads _))
  · exact Reader.field_reads _ _ _ _ (Reader.optional_reads _ _ Reader.texts_reads)
  · exact Reader.field_reads _ _ _ _ Reader.texts_reads
  · exact Reader.field_reads _ _ _ _ RetrySettings.reader_reads
  · exact Reader.field_reads _ _ _ _
      (Reader.optional_reads _ _ (Reader.natural_reads _ _ (by decide)))

def fields (settings : Settings) (retry : Json) : Fields :=
  [("cache_allow_list", .ofNames settings.allowed),
    ("cache_capacity", .ofOption (settings.cacheCapacity.map .ofNat)),
    ("cache_enabled", .bool settings.cacheEnabled),
    ("cacheable_methods", .ofOption (settings.cacheable.map .ofNames)),
    ("retry", retry),
    ("stale_check_delay_secs", .ofOption (settings.staleAfter.map .ofNat)),
    ("validation_threshold",
      .ofOption (settings.threshold.map fun threshold => .string threshold.name))]

structure Fits (settings : Settings) : Prop where
  capacity : ∀ size ∈ settings.cacheCapacity, size < Nat.pow 2 64
  staleAfter : ∀ seconds ∈ settings.staleAfter, seconds < Nat.pow 2 64
  retry : settings.retry.Fits

def overlay (settings base : Settings) (written : Fields) : Settings where
  cacheEnabled :=
    if written.has "cache_enabled" then settings.cacheEnabled else base.cacheEnabled
  cacheCapacity :=
    if written.has "cache_capacity" then settings.cacheCapacity else base.cacheCapacity
  threshold := if written.has "validation_threshold" then settings.threshold else base.threshold
  cacheable := if written.has "cacheable_methods" then settings.cacheable else base.cacheable
  allowed := if written.has "cache_allow_list" then settings.allowed else base.allowed
  retry := if written.has "retry" then settings.retry else base.retry
  staleAfter :=
    if written.has "stale_check_delay_secs" then settings.staleAfter else base.staleAfter

def standard : Settings where
  cacheEnabled := false
  cacheCapacity := none
  threshold := some .finalized
  cacheable := none
  allowed := []
  retry := .standard
  staleAfter := none

theorem threshold_of (threshold : Freshness.Threshold) :
    named? [("finalized", Freshness.Threshold.finalized), ("safe", .safe)]
      (.string threshold.name) = some threshold := by
  cases threshold with
  | finalized => rfl
  | safe => rfl

theorem field_set (settings : Settings) (fits : settings.Fits) (retry : Json)
    (nested : record? RetrySettings.names RetrySettings.set {} retry = some settings.retry)
    (record : Settings) (entry : String × Json) (member : entry ∈ settings.fields retry)
    (rest : Fields) :
    ∃ after, set record entry.1 entry.2 = some after ∧
      settings.overlay after rest = settings.overlay record (entry :: rest) := by
  simp only [fields, List.mem_cons, List.not_mem_nil, or_false] at member
  rcases member with rfl | rfl | rfl | rfl | rfl | rfl | rfl
  · refine ⟨{ record with allowed := settings.allowed }, ?_, ?_⟩
    · rw [set, texts_of]
      rfl
    · simp [overlay, has_cons]
  · refine ⟨{ record with cacheCapacity := settings.cacheCapacity }, ?_, ?_⟩
    · rw [set, nullable_of _ _ _ (fun size member => below_of _ _ (fits.capacity size member))
        fun _ => rfl]
      rfl
    · simp [overlay, has_cons]
  · refine ⟨{ record with cacheEnabled := settings.cacheEnabled }, rfl, ?_⟩
    simp [overlay, has_cons]
  · refine ⟨{ record with cacheable := settings.cacheable }, ?_, ?_⟩
    · rw [set, nullable_of _ _ _ (fun names _ => texts_of names) fun _ => rfl]
      rfl
    · simp [overlay, has_cons]
  · refine ⟨{ record with retry := settings.retry }, ?_, ?_⟩
    · rw [set, nested]
      rfl
    · simp [overlay, has_cons]
  · refine ⟨{ record with staleAfter := settings.staleAfter }, ?_, ?_⟩
    · rw [set, nullable_of _ _ _
        (fun seconds member => below_of _ _ (fits.staleAfter seconds member)) fun _ => rfl]
      rfl
    · simp [overlay, has_cons]
  · refine ⟨{ record with threshold := settings.threshold }, ?_, ?_⟩
    · rw [set, nullable_of _ _ _ (fun threshold _ => threshold_of threshold) fun _ => rfl]
      rfl
    · simp [overlay, has_cons]

theorem overlay_nothing (settings base : Settings) : settings.overlay base [] = base := rfl

theorem overlay_everything (settings base : Settings) (retry : Json) :
    settings.overlay base (settings.fields retry) = settings := by
  simp [overlay, fields, has_cons]

def keys : List String :=
  ["cache_allow_list", "cache_capacity", "cache_enabled", "cacheable_methods", "retry",
    "stale_check_delay_secs", "validation_threshold"]

theorem fields_declared (settings : Settings) (retry : Json) :
    Declared names (settings.fields retry) where
  unique := show keys.Nodup by decide
  known := show keys ⊆ names by decide

theorem fields_overlay (settings : Settings) (fits : settings.Fits) (inner written : Fields)
    (nested : inner.Subperm settings.retry.fields)
    (kept : written.Subperm (settings.fields (.object inner))) :
    record? names set {} (.object written) =
      some ({ settings with retry := settings.retry.overlay .standard inner }.overlay standard
        written) := by
  have retry := settings.retry.fields_overlay fits.retry inner nested
  have merged : Fits { settings with retry := settings.retry.overlay .standard inner } :=
    ⟨fits.capacity, fits.staleAfter, settings.retry.overlay_fits fits.retry inner⟩
  exact record_overlay _ written standard (overlay_nothing _)
    (fun record entry member rest =>
      field_set _ merged (.object inner) retry record entry (kept.subset member) rest)
    (subperm_declared written _ kept (settings.fields_declared (.object inner)))

theorem fields_known (written : Fields) (settings : Settings)
    (read : record? names set {} (.object written) = some settings) :
    Declared names written ∧
      ∀ inner, ("retry", .object inner) ∈ written → Declared RetrySettings.names inner := by
  obtain ⟨declared, each⟩ := record_read written _ settings read
  refine ⟨declared, fun inner member => ?_⟩
  obtain ⟨before, after, nested⟩ := each _ member
  obtain ⟨retry, nested, _⟩ := Option.map_eq_some_iff.mp nested
  exact (record_read inner _ retry nested).1

theorem read_found (value : Json) (text : String) (spaced : Spaced value.parts text.toList)
    (settings : Settings) (found : record? names set {} value = some settings) :
    read text = .ok settings := by
  have given := Reader.whole_reads reader _ reader_reads value text spaced
  rw [found] at given
  exact given

theorem read_unknown (written : Fields) (text : String)
    (spaced : Spaced (Json.object written).parts text.toList)
    (odd : ¬ (Declared names written ∧
      ∀ inner, ("retry", .object inner) ∈ written → Declared RetrySettings.names inner)) :
    ∃ fault, read text = .error fault := by
  have given := Reader.whole_reads reader _ reader_reads (.object written) text spaced
  cases found : record? names set {} (.object written) with
  | none =>
      rw [found] at given
      exact given
  | some settings => exact absurd (fields_known written settings found) odd

theorem settings_read_back :
    (∀ value : Json, Spaced value.parts value.compact.toList ∧
      Spaced value.parts value.indented.toList) ∧
    (∀ (settings : Settings) (text : String), settings.Fits →
      Spaced settings.toJson.parts text.toList → read text = .ok settings) ∧
    (∀ (settings : Settings) (inner written : Fields) (text : String), settings.Fits →
      inner.Subperm settings.retry.fields → written.Subperm (settings.fields (.object inner)) →
      Spaced (Json.object written).parts text.toList →
      read text = .ok
        ({ settings with retry := settings.retry.overlay .standard inner }.overlay standard
          written)) ∧
    (∀ (written : Fields) (text : String), Spaced (Json.object written).parts text.toList →
      (¬ (written.map Prod.fst).Nodup ∨ ∃ field ∈ written, field.1 ∉ names) →
      ∃ fault, read text = .error fault) ∧
    (∀ (written inner : Fields) (text : String), Spaced (Json.object written).parts text.toList →
      ("retry", .object inner) ∈ written →
      (¬ (inner.map Prod.fst).Nodup ∨ ∃ field ∈ inner, field.1 ∉ RetrySettings.names) →
      ∃ fault, read text = .error fault) := by
  refine ⟨fun value => ⟨compact_spaced value, indented_spaced value⟩, ?_, ?_, ?_, ?_⟩
  · intro settings text fits spaced
    have found := settings.fields_overlay fits settings.retry.fields
      (settings.fields settings.retry.toJson) (.refl _) (.refl _)
    rw [RetrySettings.overlay_everything, overlay_everything] at found
    exact read_found settings.toJson text spaced settings found
  · intro settings inner written text fits nested kept spaced
    exact read_found _ text spaced _ (settings.fields_overlay fits inner written nested kept)
  · intro written text spaced odd
    refine read_unknown written text spaced fun ⟨declared, _⟩ => ?_
    rcases odd with repeated | ⟨field, member, unknown⟩
    · exact repeated declared.unique
    · exact unknown (declared.known (List.mem_map_of_mem member))
  · intro written inner text spaced nested odd
    refine read_unknown written text spaced fun ⟨_, declared⟩ => ?_
    rcases odd with repeated | ⟨field, member, unknown⟩
    · exact repeated (declared inner nested).unique
    · exact unknown ((declared inner nested).known (List.mem_map_of_mem member))

theorem settings_read_back_unchecked :
    ({ threshold := none } : Settings).Fits ∧
      read ({ threshold := none } : Settings).toJson.compact = .ok { threshold := none } ∧
      ∃ fault, read (Json.object [("retry", .object [("delay", .null)])]).compact =
        .error fault := by
  have fits : ({ threshold := none } : Settings).Fits :=
    ⟨fun _ => nofun, fun _ => nofun, ⟨by decide, by decide⟩⟩
  obtain ⟨written, whole, _, _, nested⟩ := settings_read_back
  exact ⟨fits, whole _ _ fits (written _).1, nested _ _ _ (written _).1 (List.mem_singleton.mpr rfl)
    (.inr ⟨_, List.mem_singleton.mpr rfl, by decide⟩)⟩

end Settings

end RequestLayer
