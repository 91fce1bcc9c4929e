import DirtSim.Evolution.Deduplication
import DirtSim.Evolution.GenomeDatabase
import DirtSim.Foundation.Representatives

/-! # Loading the genomes from the database

The database mirrors a repository (`PersistentRepository.Synchronized`) when each genome stands in
one row, in a form that loading keeps. Loading the rows in any order restores it
(`PersistentRepository.Synchronized.loadFromDb`).
-/

namespace DirtSim

open Foundation

section

/-! ## Records that loading leaves unchanged -/

variable {F : Type} [Double F]
variable {metadata : GenomeMetadata F}

open Double

/-- The numbers of a record that are written as JSON are finite. -/
def GenomeMetadata.Finite (metadata : GenomeMetadata F) : Prop :=
  isFinite metadata.fitness ∧ isFinite metadata.robustFitness ∧
    ∀ sample ∈ metadata.robustFitnessSamples, isFinite sample

/-- The samples fit the window and agree with the robust fitness and with the count. -/
structure Sampled (metadata : GenomeMetadata F) : Prop where
  window : metadata.robustFitnessSamples.length ≤ robustFitnessSampleWindow
  median : metadata.robustFitnessSamples ≠ [] →
    metadata.robustFitness = computeMedian metadata.robustFitnessSamples
  counted : (metadata.robustFitnessSamples.length : ℤ) ≤ metadata.robustEvalCount

theorem Sampled.normal (sampled : Sampled metadata)
    (usable : metadata.robustFitnessSamples = [] → 0 < metadata.robustEvalCount →
      isFinite metadata.robustFitness ∨ metadata.robustFitness = metadata.fitness) :
    normalizeRobustMetadata metadata = metadata := by
  have count : max metadata.robustEvalCount 0 = metadata.robustEvalCount :=
    max_eq_left ((Int.natCast_nonneg _).trans sampled.counted)
  have whole := Nat.sub_eq_zero_of_le sampled.window
  rw [normalizeRobustMetadata]
  simp only [count, whole, List.drop_zero, max_eq_left sampled.counted]
  split
  · rename_i nonempty
    rw [← sampled.median nonempty]
  · rename_i none
    have empty : metadata.robustFitnessSamples = [] := not_not.mp none
    split
    · rename_i positive
      split
      · rfl
      · rename_i unusable
        have same := (usable empty positive).resolve_left unusable
        cases metadata
        cases same
        rfl
    · rfl

theorem normalizeRobustMetadata_sampled (input : GenomeMetadata F) :
    Sampled (normalizeRobustMetadata input) ∧
      ((normalizeRobustMetadata input).robustFitnessSamples = [] →
        0 < (normalizeRobustMetadata input).robustEvalCount →
          isFinite (normalizeRobustMetadata input).robustFitness ∨
            (normalizeRobustMetadata input).robustFitness =
              (normalizeRobustMetadata input).fitness) := by
  rw [normalizeRobustMetadata]
  dsimp only
  split
  · refine ⟨⟨?_, fun _ => rfl, le_max_right _ _⟩, ?_⟩
    · simp only [List.length_drop]
      omega
    · intro empty
      exfalso
      rename_i nonempty
      have length := congrArg List.length empty
      have positive := List.length_pos_of_ne_nil nonempty
      simp only [List.length_drop, List.length_nil, robustFitnessSampleWindow] at length
      omega
  · rename_i none
    have empty : input.robustFitnessSamples = [] := not_not.mp none
    have plain : ∀ fitness : F, Sampled { input with
        robustEvalCount := max input.robustEvalCount 0, robustFitness := fitness } := by
      intro fitness
      refine ⟨?_, fun nonempty => absurd empty nonempty, ?_⟩
      · simp [empty]
      · simp [empty]
    split
    · split
      · rename_i usable
        exact ⟨plain input.robustFitness, fun _ _ => Or.inl usable⟩
      · exact ⟨plain input.fitness, fun _ _ => Or.inr rfl⟩
    · rename_i zero
      exact ⟨plain input.robustFitness, fun _ positive => absurd positive zero⟩

theorem normalizeRobustMetadata_idem (input : GenomeMetadata F) :
    normalizeRobustMetadata (normalizeRobustMetadata input) = normalizeRobustMetadata input :=
  (normalizeRobustMetadata_sampled input).1.normal (normalizeRobustMetadata_sampled input).2

theorem Sampled.append (sampled : Sampled metadata) (sample : F) :
    Sampled (appendRobustSample metadata sample) := by
  have counted := sampled.counted
  have window := sampled.window
  rw [robustFitnessSampleWindow] at window
  rw [appendRobustSample]
  split
  · exact sampled
  · refine ⟨?_, fun _ => rfl, ?_⟩
    · dsimp only
      split
      · simp only [List.length_drop, List.length_append, List.length_singleton,
          robustFitnessSampleWindow]
        omega
      · rename_i short
        exact Nat.le_of_not_lt short
    · have grown : (metadata.robustFitnessSamples ++ [sample]).length =
          metadata.robustFitnessSamples.length + 1 := by
        rw [List.length_append, List.length_singleton]
      dsimp only
      split
      · rw [List.length_drop, grown]
        omega
      · rw [grown]
        omega

theorem Sampled.foldl (sampled : Sampled metadata) (samples : List F) :
    Sampled (samples.foldl appendRobustSample metadata) := by
  induction samples generalizing metadata with
  | nil => exact sampled
  | cons sample samples ih => exact ih (sampled.append sample)

theorem Sampled.fillFrom {existing : GenomeMetadata F} (sampled : Sampled existing)
    (incoming : GenomeMetadata F) : Sampled (fillFrom existing incoming) := by
  have counted := sampled.counted
  refine ⟨sampled.window, ?_, ?_⟩
  · intro nonempty
    have some : existing.robustFitnessSamples.isEmpty = false := by
      rw [List.isEmpty_eq_false_iff]
      exact nonempty
    simp [DirtSim.fillFrom, some]
  · simp only [DirtSim.fillFrom, effectiveRobustEvalCount]
    split
    · exact counted
    · exact le_rfl

theorem normalizeRobustMetadata_mergeMetadata {existing incoming : GenomeMetadata F}
    (finite : (mergeMetadata existing incoming).Finite) :
    normalizeRobustMetadata (mergeMetadata existing incoming) = mergeMetadata existing incoming := by
  have sampled := ((normalizeRobustMetadata_sampled existing).1.fillFrom
    (normalizeRobustMetadata incoming)).foldl (normalizeRobustMetadata incoming).robustFitnessSamples
  have usable := finite.2.1
  generalize merges : mergeMetadata existing incoming = merged at usable ⊢
  rw [mergeMetadata] at merges
  dsimp only at merges
  have more : (0 : ℤ) ≤ max 0 (effectiveRobustEvalCount (normalizeRobustMetadata incoming) -
      ((normalizeRobustMetadata incoming).robustFitnessSamples.length : ℤ)) := le_max_left _ _
  split at merges
  · rw [← merges]
    exact normalizeRobustMetadata_idem _
  · split at merges
    · rename_i empty
      rw [← merges] at usable ⊢
      refine Sampled.normal ⟨sampled.window, ?_, ?_⟩ fun _ _ => Or.inl usable
      · intro nonempty
        exact absurd (List.isEmpty_iff.mp empty) nonempty
      · exact sampled.counted.trans (le_add_of_nonneg_right more)
    · rw [← merges] at usable ⊢
      exact Sampled.normal ⟨sampled.window, sampled.median,
        sampled.counted.trans (le_add_of_nonneg_right more)⟩ fun _ _ => Or.inl usable

end

/-- Every record with finite numbers is read back as it was written. -/
def MetadataJson.Lossless {F Text : Type} [Double F] (json : MetadataJson F Text) : Prop :=
  ∀ metadata : GenomeMetadata F, metadata.Finite →
    ∃ text, json.dump metadata = some text ∧ json.parse text = some metadata

def GenomeDatabase.row {Text : Type} (database : GenomeDatabase Text) (id : GenomeId) :
    Option (GenomeRow Text) :=
  database.genomes.lookup id.toString

namespace PersistentRepository

variable {F Text : Type}
variable {id : GenomeId}

section

/-! ## The repository and its rows -/

variable [Double F] (json : MetadataJson F Text)

def hashOf (row : GenomeId → Option (GenomeRow Text)) (id : GenomeId) : Option ContentHash :=
  (row id).map GenomeRow.contentHash

/-- The row is read back, and loading leaves its record as it is. -/
def Readable (row : GenomeRow Text) : Prop :=
  row.contentHash ≠ [] ∧
    ∃ metadata, json.parse row.metadataJson = some metadata ∧
      normalizeRobustMetadata metadata = metadata

/-- The repository in memory holds what the rows say. -/
structure Mirrors (memory : GenomeRepository F) (row : GenomeId → Option (GenomeRow Text)) :
    Prop where
  genome : ∀ id, memory.genomes.lookup id = (row id).map fun row => ⟨row.weights⟩
  metadata : ∀ id, memory.metadata.lookup id = (row id).bind fun row => json.parse row.metadataJson
  readable : ∀ id stored, row id = some stored → Readable json stored
  invalid : row invalidGenomeId = none
  index : Represents (hashOf row) memory.hashToId.lookup memory.idToHash.lookup

/-- What holds between calls. -/
structure Synchronized (repository : PersistentRepository F Text) : Prop extends
    Mirrors json repository.memory repository.database.row where
  keyed : ∀ key, (repository.database.genomes.lookup key).isSome →
    ∃ id : GenomeId, id.toString = key
  best : repository.database.bestId.getD [] = GenomeDatabase.bestIdText repository.memory.bestId
  known : ∀ id, repository.memory.bestId = some id →
    (repository.memory.genomes.lookup id).isSome

def Complete (repository : PersistentRepository F Text) : Prop :=
  CoversExcept [] (hashOf repository.database.row) repository.memory.hashToId.lookup

/-- Two repositories hold the same genomes, metadata and best identifier. -/
structure SameRecords (first second : GenomeRepository F) : Prop where
  genomes : ∀ id, first.genomes.lookup id = second.genomes.lookup id
  metadata : ∀ id, first.metadata.lookup id = second.metadata.lookup id
  bestId : first.bestId = second.bestId

/-- Two repositories deduplicate against the same content hashes. -/
def SameHashes (first second : GenomeRepository F) : Prop :=
  ∀ hash, (first.hashToId.lookup hash).isSome = (second.hashToId.lookup hash).isSome

end

section

variable (database : GenomeDatabase Text)

/-! ## Writing and deleting a row -/

theorem row_eq_comp : database.row = database.genomes.lookup ∘ UUID.toString := rfl

theorem row_persistGenome {json : MetadataJson F Text} (id : GenomeId) (genome : Genome)
    {metadata : GenomeMetadata F} (hash : ContentHash) {text : Text}
    (dumped : json.dump metadata = some text) :
    (database.persistGenome json id genome metadata hash).row = Function.update database.row id
      (some { weights := genome.weights, metadataJson := text, contentHash := hash }) := by
  rw [GenomeDatabase.persistGenome, dumped, row_eq_comp, row_eq_comp, Dict.lookup_insert_eq_update]
  exact Function.update_comp_eq_of_injective _ UUID.toString_injective id _

theorem row_deleteGenome (id : GenomeId) :
    (database.deleteGenome id).row = Function.update database.row id none := by
  rw [GenomeDatabase.deleteGenome, row_eq_comp, row_eq_comp, Dict.lookup_erase_eq_update]
  exact Function.update_comp_eq_of_injective _ UUID.toString_injective id _

theorem hashOf_update (row : GenomeId → Option (GenomeRow Text)) (id : GenomeId)
    (stored : Option (GenomeRow Text)) :
    hashOf (Function.update row id stored) =
      Function.update (hashOf row) id (stored.map GenomeRow.contentHash) := by
  funext other
  rw [hashOf, Function.update_apply, Function.update_apply]
  split <;> rfl

theorem computeContentHash_ne_nil (genome : Genome) (metadata : GenomeMetadata F) :
    computeContentHash genome metadata ≠ [] := by
  intro empty
  have length := congrArg List.length empty
  simp only [computeContentHash, toHexString, List.length_append, List.length_replicate,
    List.length_nil] at length
  omega

variable [Double F] {json : MetadataJson F Text} {memory : GenomeRepository F}
  {row : GenomeId → Option (GenomeRow Text)}

theorem Mirrors.write (mirrors : Mirrors json memory row) {changed : GenomeRepository F}
    {genome : Genome} {metadata : GenomeMetadata F} {stored : GenomeRow Text}
    (named : id ≠ invalidGenomeId) (genomes : changed.genomes = memory.genomes.insert id genome)
    (records : changed.metadata = memory.metadata.insert id metadata)
    (weights : stored.weights = genome.weights)
    (parsed : json.parse stored.metadataJson = some metadata)
    (normal : normalizeRobustMetadata metadata = metadata) (hashed : stored.contentHash ≠ [])
    (index : Represents (Function.update (hashOf row) id (some stored.contentHash))
      changed.hashToId.lookup changed.idToHash.lookup) :
    Mirrors json changed (Function.update row id (some stored)) where
  genome other := by
    rw [genomes, Dict.lookup_insert, Function.update_apply]
    split
    · rw [Option.map_some, weights]
    · exact mirrors.genome other
  metadata other := by
    rw [records, Dict.lookup_insert, Function.update_apply]
    split
    · rw [Option.bind_some, parsed]
    · exact mirrors.metadata other
  readable other kept found := by
    rw [Function.update_apply] at found
    split at found
    · cases found
      exact ⟨hashed, metadata, parsed, normal⟩
    · exact mirrors.readable other kept found
  invalid := by
    rw [Function.update_of_ne named.symm]
    exact mirrors.invalid
  index := by
    rw [hashOf_update]
    exact index

theorem Mirrors.erase (mirrors : Mirrors json memory row) (id : GenomeId) :
    Mirrors json (memory.removeNoLock id) (Function.update row id none) where
  genome other := by
    rw [GenomeRepository.removeNoLock, Dict.lookup_erase, Function.update_apply]
    split
    · rfl
    · exact mirrors.genome other
  metadata other := by
    rw [GenomeRepository.removeNoLock, Dict.lookup_erase, Function.update_apply]
    split
    · rfl
    · exact mirrors.metadata other
  readable other kept found := by
    rw [Function.update_apply] at found
    split at found
    · cases found
    · exact mirrors.readable other kept found
  invalid := by
    rw [Function.update_apply, mirrors.invalid, ite_self]
  index := by
    have unled : ∀ hash, (memory.removeNoLock id).hashToId.lookup hash ≠ some id := by
      intro hash leads
      rw [GenomeRepository.lookup_hashToId_removeNoLock] at leads
      split at leads
      · cases leads
      · rename_i stays
        exact stays ⟨mirrors.index.leads hash id leads, leads⟩
    have fewer : ∀ hash other, (memory.removeNoLock id).hashToId.lookup hash = some other →
        memory.hashToId.lookup hash = some other := by
      intro hash other leads
      rw [GenomeRepository.lookup_hashToId_removeNoLock] at leads
      split at leads
      · cases leads
      · exact leads
    rw [hashOf_update]
    have removed := (mirrors.index.drop fewer).remove unled
    rw [← Dict.lookup_erase_eq_update] at removed
    exact removed

end

section

/-! ## Loading the rows -/

variable [Double F] {json : MetadataJson F Text}

theorem indexLoaded_represents {memory : GenomeRepository F} {label : GenomeId → Option ContentHash}
    (index : Represents label memory.hashToId.lookup memory.idToHash.lookup)
    (covers : CoversExcept [] label memory.hashToId.lookup) (fresh : label id = none)
    (metadata : GenomeMetadata F) (hash : ContentHash) :
    Represents (Function.update label id (some hash))
        (indexLoaded memory id metadata hash).hashToId.lookup
        (indexLoaded memory id metadata hash).idToHash.lookup ∧
      CoversExcept [] (Function.update label id (some hash))
        (indexLoaded memory id metadata hash).hashToId.lookup := by
  have unrecorded : memory.idToHash.lookup id = none := by
    cases known : memory.idToHash.lookup id with
    | none => rfl
    | some other =>
        have carried := index.recorded id other known
        rw [fresh] at carried
        cases carried
  have unled : ∀ other, memory.hashToId.lookup other ≠ some id := by
    intro other leads
    rw [index.leads other id leads] at unrecorded
    cases unrecorded
  have claims : CoversExcept [] (Function.update label id (some hash))
      (Function.update memory.hashToId.lookup hash (some id)) :=
    covers.claim fun other _ kept => Or.inl kept
  rw [indexLoaded]
  split
  · dsimp only
    rw [Dict.lookup_insert_eq_update, Dict.lookup_insert_eq_update]
    exact ⟨index.claim fun other leads => absurd leads (unled other), claims⟩
  · rename_i existingId leads
    have displaced : Represents (Function.update label id (some hash))
        (memory.hashToId.insert hash id).lookup
        ((memory.idToHash.erase existingId).insert id hash).lookup := by
      have dropped : ∀ name other, (Function.update memory.hashToId.lookup hash none) name =
          some other → memory.hashToId.lookup name = some other := by
        intro name other entry
        rw [Function.update_apply] at entry
        split at entry
        · cases entry
        · exact entry
      -- the entry to the displaced genome was the only one
      have gone : ∀ name, (Function.update memory.hashToId.lookup hash none) name ≠
          some existingId := by
        intro name entry
        have same := (index.carries (dropped name existingId entry)).symm.trans (index.carries leads)
        rw [Option.some.inj same, Function.update_self] at entry
        cases entry
      have claimed : Represents (Function.update label id (some hash))
          (Function.update (Function.update memory.hashToId.lookup hash none) hash (some id))
          (Function.update (Function.update memory.idToHash.lookup existingId none) id
            (some hash)) :=
        ((index.drop dropped).unrecord gone).claim
          fun other entry => absurd (dropped other id entry) (unled other)
      rw [Function.update_idem] at claimed
      rw [Dict.lookup_insert_eq_update, Dict.lookup_insert_eq_update, Dict.lookup_erase_eq_update]
      exact claimed
    have kept : Represents (Function.update label id (some hash)) memory.hashToId.lookup
        memory.idToHash.lookup := index.relabel unrecorded (some hash)
    have keptCovers : CoversExcept [] (Function.update label id (some hash))
        memory.hashToId.lookup := by
      intro carrier name carried
      have entry := (claims carrier name carried).resolve_right List.not_mem_nil
      refine Or.inl (show (memory.hashToId.lookup name).isSome from ?_)
      rw [Function.update_apply] at entry
      split at entry
      · rename_i same
        rw [same, leads]
        rfl
      · exact entry
    have takes : CoversExcept [] (Function.update label id (some hash))
        (memory.hashToId.insert hash id).lookup := by
      rw [Dict.lookup_insert_eq_update]
      exact claims
    split
    · exact ⟨displaced, takes⟩
    · split
      · exact ⟨displaced, takes⟩
      · exact ⟨kept, keptCovers⟩

theorem loadRow_mirrors {loaded : PersistentRepository F Text}
    {row : GenomeId → Option (GenomeRow Text)} (mirrors : Mirrors json loaded.memory row)
    (covers : CoversExcept [] (hashOf row) loaded.memory.hashToId.lookup) (fresh : row id = none)
    (named : id ≠ invalidGenomeId) {stored : GenomeRow Text} (readable : Readable json stored) :
    ∃ next, loadRow json loaded id.toString stored = some next ∧
      next.database = loaded.database ∧ next.memory.bestId = loaded.memory.bestId ∧
      Mirrors json next.memory (Function.update row id (some stored)) ∧
      CoversExcept [] (hashOf (Function.update row id (some stored)))
        next.memory.hashToId.lookup := by
  obtain ⟨hashed, metadata, parsed, normal⟩ := readable
  have present : stored.contentHash.isEmpty = false := List.isEmpty_eq_false_iff.mpr hashed
  have unlabelled : hashOf row id = none := by rw [hashOf, fresh, Option.map_none]
  let extended : GenomeRepository F := { loaded.memory with
    genomes := loaded.memory.genomes.insert id ⟨stored.weights⟩
    metadata := loaded.memory.metadata.insert id metadata }
  have agrees : Represents (hashOf row) extended.hashToId.lookup extended.idToHash.lookup :=
    mirrors.index
  obtain ⟨index, complete⟩ := indexLoaded_represents agrees covers unlabelled metadata
    stored.contentHash
  have untouched : (indexLoaded extended id metadata stored.contentHash).genomes =
        extended.genomes ∧
      (indexLoaded extended id metadata stored.contentHash).metadata = extended.metadata ∧
      (indexLoaded extended id metadata stored.contentHash).bestId = extended.bestId := by
    rw [indexLoaded]
    split
    · exact ⟨rfl, rfl, rfl⟩
    · split
      · exact ⟨rfl, rfl, rfl⟩
      · split <;> exact ⟨rfl, rfl, rfl⟩
  refine ⟨⟨indexLoaded extended id metadata stored.contentHash, loaded.database⟩, ?_, rfl,
    untouched.2.2, ?_, ?_⟩
  · simp only [loadRow, UUID.fromString_toString, Option.map_some, named, ↓reduceIte, parsed,
      present, Bool.false_eq_true, normal]
    rfl
  · exact mirrors.write named untouched.1 untouched.2.1 rfl parsed normal hashed index
  · rw [hashOf_update]
    exact complete

def rowsOf (entries : List (Σ _ : IdText, GenomeRow Text)) (id : GenomeId) :
    Option (GenomeRow Text) :=
  entries.dlookup id.toString

omit [Double F] in
theorem rowsOf_snoc (entries : List (Σ _ : IdText, GenomeRow Text)) (stored : GenomeRow Text)
    (fresh : rowsOf entries id = none) :
    rowsOf (entries ++ [⟨id.toString, stored⟩]) = Function.update (rowsOf entries) id (some stored) := by
  funext other
  rw [rowsOf, List.dlookup_append, Function.update_apply]
  by_cases same : other = id
  · subst same
    rw [if_pos rfl, ← rowsOf, fresh, Option.none_or, List.dlookup_cons_eq]
  · have apart : other.toString ≠ id.toString := fun equal => same (UUID.toString_injective equal)
    rw [if_neg same, List.dlookup_cons_ne _ _ apart, List.dlookup_nil, Option.or_none, ← rowsOf]

/-- What loading the first rows of a database has achieved. -/
structure LoadedSoFar (json : MetadataJson F Text) (database : GenomeDatabase Text)
    (done : List (Σ _ : IdText, GenomeRow Text)) (loaded : PersistentRepository F Text) : Prop where
  mirrors : Mirrors json loaded.memory (rowsOf done)
  complete : CoversExcept [] (hashOf (rowsOf done)) loaded.memory.hashToId.lookup
  bestId : loaded.memory.bestId = none
  database : loaded.database = database

theorem loadedSoFar_nil (json : MetadataJson F Text) (database : GenomeDatabase Text) :
    LoadedSoFar json database [] ({ database := database } : PersistentRepository F Text) where
  mirrors := {
    genome := fun _ => rfl
    metadata := fun _ => rfl
    readable := fun _ _ found => by cases found
    invalid := rfl
    index := Represents.empty }
  complete _ _ carried := by cases carried
  bestId := rfl
  database := rfl

/-- Each row is keyed by an identifier that is not nil, and can be read. -/
def RowsReadable (json : MetadataJson F Text) (entries : List (Σ _ : IdText, GenomeRow Text)) :
    Prop :=
  ∀ entry ∈ entries, ∃ id : GenomeId, id.toString = entry.1 ∧ id ≠ invalidGenomeId ∧
    Readable json entry.2

theorem foldlM_loadRow {database : GenomeDatabase Text}
    {done rest : List (Σ _ : IdText, GenomeRow Text)} {loaded : PersistentRepository F Text}
    (soFar : LoadedSoFar json database done loaded) (distinct : (done ++ rest).NodupKeys)
    (readable : RowsReadable json rest) :
    ∃ final, rest.foldlM (fun loaded row => loadRow json loaded row.1 row.2) loaded = some final ∧
      LoadedSoFar json database (done ++ rest) final := by
  induction rest generalizing done loaded with
  | nil => exact ⟨loaded, rfl, by rw [List.append_nil]; exact soFar⟩
  | cons entry rest ih =>
      obtain ⟨key, stored⟩ := entry
      obtain ⟨id, text, named, read⟩ := readable _ List.mem_cons_self
      have text : id.toString = key := text
      subst text
      have fresh : rowsOf done id = none := by
        rw [rowsOf, List.dlookup_eq_none]
        intro present
        rw [List.NodupKeys, List.keys, List.map_append, List.map_cons, List.nodup_append]
          at distinct
        exact distinct.2.2 _ present _ List.mem_cons_self rfl
      obtain ⟨next, loads, kept, noBest, mirrors, complete⟩ :=
        loadRow_mirrors soFar.mirrors soFar.complete fresh named read
      rw [← rowsOf_snoc done stored fresh] at mirrors complete
      have further : LoadedSoFar json database (done ++ [⟨id.toString, stored⟩]) next :=
        ⟨mirrors, complete, noBest.trans soFar.bestId, kept.trans soFar.database⟩
      rw [List.append_cons] at distinct ⊢
      obtain ⟨final, rests, finished⟩ := ih further distinct
        fun entry later => readable entry (List.mem_cons_of_mem _ later)
      refine ⟨final, ?_, finished⟩
      rw [List.foldlM_cons, loads]
      exact rests

omit [Double F] in
theorem toString_ne_nil (id : GenomeId) : id.toString ≠ [] := by
  intro empty
  have read := UUID.fromString_toString id
  rw [empty] at read
  cases read

omit [Double F] in
theorem loadBestId_eq {written : Option IdText} {bestId : Option GenomeId}
    (best : written.getD [] = GenomeDatabase.bestIdText bestId) {loaded : GenomeRepository F}
    (noBest : loaded.bestId = none)
    (known : ∀ id, bestId = some id → id ≠ invalidGenomeId ∧ (loaded.genomes.lookup id).isSome) :
    loadBestId loaded written = some { loaded with bestId := bestId } := by
  cases bestId with
  | none =>
      have same : { loaded with bestId := none } = loaded := by rw [← noBest]
      rw [same]
      cases written with
      | none => rfl
      | some text =>
          have empty : text = [] := best
          rw [empty, loadBestId]
  | some id =>
      have full : written = some id.toString := by
        cases written with
        | none => exact absurd best.symm (toString_ne_nil id)
        | some text => exact congrArg some best
      rw [full, loadBestId]
      · rw [UUID.fromString_toString, Option.map_some, if_pos (known id rfl)]
      · exact toString_ne_nil id

/-- **Loading.** Whatever the order of the rows, a repository opened on a synchronized database is
synchronized with it, and its forward map is complete. -/
theorem Synchronized.loadFromDb {repository : PersistentRepository F Text}
    (synchronized : repository.Synchronized json) {rows : Dict IdText (GenomeRow Text)}
    (same : repository.database.genomes.SameEntries rows) :
    ∃ loaded, PersistentRepository.loadFromDb json repository.database rows = some loaded ∧
      loaded.database = repository.database ∧ loaded.Synchronized json ∧ loaded.Complete := by
  have presented : rowsOf rows.entries = repository.database.row := by
    funext id
    exact (same.lookup id.toString).symm
  have readable : RowsReadable json rows.entries := by
    rintro ⟨key, stored⟩ member
    have found : repository.database.genomes.lookup key = some stored := by
      rw [same.lookup]
      exact (List.mem_dlookup_iff rows.nodupKeys).mpr member
    obtain ⟨id, text⟩ := synchronized.keyed key (by rw [found]; rfl)
    subst text
    refine ⟨id, rfl, ?_, synchronized.readable id stored found⟩
    intro nil
    have absent := synchronized.invalid
    rw [← nil] at absent
    have clash := absent.symm.trans found
    cases clash
  obtain ⟨final, loads, finished⟩ := foldlM_loadRow (loadedSoFar_nil json repository.database)
    rows.nodupKeys readable
  rw [List.nil_append] at finished
  obtain ⟨mirrors, complete, noBest, kept⟩ := finished
  rw [presented, ← kept] at mirrors complete
  have known : ∀ id, repository.memory.bestId = some id →
      id ≠ invalidGenomeId ∧ (final.memory.genomes.lookup id).isSome := by
    intro id best
    have stored := synchronized.known id best
    rw [synchronized.genome, ← kept, ← mirrors.genome] at stored
    refine ⟨?_, stored⟩
    intro nil
    rw [mirrors.genome, nil, mirrors.invalid] at stored
    cases stored
  refine ⟨⟨{ final.memory with bestId := repository.memory.bestId }, final.database⟩, ?_, kept, ?_,
    complete⟩
  · rw [PersistentRepository.loadFromDb, loads, Option.bind_some,
      loadBestId_eq synchronized.best noBest known, Option.map_some]
  · exact {
      genome := mirrors.genome
      metadata := mirrors.metadata
      readable := mirrors.readable
      invalid := mirrors.invalid
      index := mirrors.index
      keyed := fun key present => synchronized.keyed key (kept ▸ present)
      best := by rw [kept]; exact synchronized.best
      known := fun id best => (known id best).2 }

theorem Synchronized.sameRecords {first second : PersistentRepository F Text}
    (synchronized : first.Synchronized json) (other : second.Synchronized json)
    (shared : second.database = first.database) : SameRecords first.memory second.memory where
  genomes id := by rw [synchronized.genome, other.genome, shared]
  metadata id := by rw [synchronized.metadata, other.metadata, shared]
  bestId := by
    have texts := synchronized.best.symm.trans (shared ▸ other.best)
    cases mine : first.memory.bestId with
    | none =>
        cases theirs : second.memory.bestId with
        | none => rfl
        | some id =>
            rw [mine, theirs] at texts
            exact absurd texts.symm (toString_ne_nil id)
    | some id =>
        cases theirs : second.memory.bestId with
        | none =>
            rw [mine, theirs] at texts
            exact absurd texts (toString_ne_nil id)
        | some otherId =>
            rw [mine, theirs] at texts
            rw [UUID.toString_injective texts]

theorem Synchronized.knows_iff {repository : PersistentRepository F Text}
    (synchronized : repository.Synchronized json) (complete : repository.Complete)
    (hash : ContentHash) :
    (repository.memory.hashToId.lookup hash).isSome ↔
      ∃ id, hashOf repository.database.row id = some hash := by
  constructor
  · intro known
    obtain ⟨id, leads⟩ := Option.isSome_iff_exists.mp known
    exact ⟨id, synchronized.index.carries leads⟩
  · rintro ⟨id, carried⟩
    exact (complete id hash carried).resolve_right List.not_mem_nil

theorem Synchronized.sameHashes {first second : PersistentRepository F Text}
    (synchronized : first.Synchronized json) (complete : first.Complete)
    (other : second.Synchronized json) (otherComplete : second.Complete)
    (shared : second.database = first.database) : SameHashes first.memory second.memory := by
  intro hash
  rw [Bool.eq_iff_iff, synchronized.knows_iff complete, other.knows_iff otherComplete, shared]

end

end PersistentRepository

end DirtSim
