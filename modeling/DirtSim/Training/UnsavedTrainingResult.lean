import DirtSim.Evolution.Pruning
import DirtSim.Server.UserSettings

/-! # Saving the candidates of a finished training

A finished training waits until the user saves some of its candidates. Those of one content share an
identifier, and the prune may take genomes that have just been stored
(`UnsavedTrainingResult.saving_spec`).
-/

namespace DirtSim

open Foundation

def UUID.toShortString (uuid : UUID) : List Char :=
  (List.range 4).flatMap fun i => UUID.byteToHex (uuid.bytes.toList.getD i 0)

/-- One candidate in the record of a training. -/
structure TrainingResultCandidate (F : Type) where
  id : GenomeId
  fitness : F
  brainKind : ByteString
  brainVariant : Option ByteString
  generation : ℤ

structure TrainingResult (F Summary : Type) where
  summary : Summary
  candidates : List (TrainingResultCandidate F)

namespace UnsavedTrainingResult

structure Candidate (F : Type) where
  id : GenomeId
  genome : Genome
  metadata : GenomeMetadata F
  brainKind : ByteString
  brainVariant : Option ByteString
  fitness : F
  generation : ℤ

/-- The command; no identifiers ask for all candidates. -/
structure TrainingResultSave where
  ids : List GenomeId
  restart : Bool

structure Okay where
  savedCount : ℤ
  discardedCount : ℤ
  savedIds : List GenomeId

inductive Response
  | okay (okay : Okay)
  | error (message : List Char)

/-- The state that the server goes on in. -/
inductive NextState
  | unsavedTrainingResult
  | idle
  | evolution
deriving DecidableEq

/-- What handling a command leaves; no next state when an assertion fails after the reply. -/
structure Outcome (F Summary : Type) where
  repository : GenomeRepository F
  response : Response
  trainingResult : Option (TrainingResult F Summary)
  nextState : Option NextState

/-- The orders in which the hash containers present their entries. -/
structure HashOrder (F : Type) where
  ids : List GenomeId → List GenomeId
  ids_perm : ∀ unique, (ids unique).Perm unique
  metadata : Dict GenomeId (GenomeMetadata F) → Dict GenomeId (GenomeMetadata F)
  metadata_same : ∀ stored : Dict GenomeId (GenomeMetadata F),
    stored.SameEntries (metadata stored)

end UnsavedTrainingResult

open UnsavedTrainingResult

structure UnsavedTrainingResult (F Summary : Type) where
  summary : Summary
  candidates : List (Candidate F)
  genomeArchiveMaxSize : ℤ
  populationSize : ℤ
  population : List PopulationSpec

namespace UnsavedTrainingResult

variable {F Summary : Type}

def candidateLookup (candidates : List (Candidate F)) : Dict GenomeId (Candidate F) :=
  candidates.foldl (fun lookup candidate => Dict.emplace candidate.id candidate lookup) ∅

def notFoundMessage (id : GenomeId) : List Char :=
  "TrainingResultSave id not found: ".toList ++ id.toShortString

/-- The requested identifiers without repeats, or the message about one that is unknown. -/
def collectIds (lookup : Dict GenomeId (Candidate F)) :
    List GenomeId → List GenomeId → Except (List Char) (List GenomeId)
  | [], uniqueIds => .ok uniqueIds
  | id :: ids, uniqueIds =>
      if id ∈ uniqueIds then collectIds lookup ids uniqueIds
      else if (lookup.lookup id).isNone then .error (notFoundMessage id)
      else collectIds lookup ids (uniqueIds ++ [id])

section

variable [Double F]

/-- Stores candidates one after another; `none` when one has no entry or no identifier. -/
def storeCandidates (lookup : Dict GenomeId (Candidate F)) (draws : GenomeId → List Draw) :
    List GenomeId → GenomeRepository F × List GenomeId →
      Option (GenomeRepository F × List GenomeId)
  | [], state => some state
  | id :: ids, (repository, savedIds) =>
      (lookup.lookup id).bind fun candidate =>
        (repository.storeOrUpdateByHash candidate.genome candidate.metadata (some candidate.id)
          (draws id)).bind fun result =>
            storeCandidates lookup draws ids (result.1, savedIds ++ [result.2.id])

def pruneArchive (order : HashOrder F) (genomeArchiveMaxSize : ℤ) (stored : GenomeRepository F) :
    Option (GenomeRepository F) :=
  if genomeArchiveMaxSize > 0 then
    ((stored.presenting (order.metadata stored.metadata)).pruneManagedByFitness
      genomeArchiveMaxSize.toNat).map Prod.fst
  else some stored

def trainingResult (state : UnsavedTrainingResult F Summary) : TrainingResult F Summary where
  summary := state.summary
  candidates := state.candidates.map fun candidate =>
    { id := candidate.id
      fitness := candidate.fitness
      brainKind := candidate.brainKind
      brainVariant := candidate.brainVariant
      generation := candidate.generation }

def nextState (state : UnsavedTrainingResult F Summary) (restartRequested : Bool) :
    Option NextState :=
  if !restartRequested then some .idle
  else if state.population ≠ [] ∧ state.populationSize > 0 then some .evolution
  else none

def requestedIds (state : UnsavedTrainingResult F Summary) (command : TrainingResultSave) :
    List GenomeId :=
  if command.ids.isEmpty then state.candidates.map Candidate.id else command.ids

def onTrainingResultSave (state : UnsavedTrainingResult F Summary) (command : TrainingResultSave)
    (repository : GenomeRepository F) (order : HashOrder F) (draws : GenomeId → List Draw) :
    Option (Outcome F Summary) :=
  let lookup := candidateLookup state.candidates
  match collectIds lookup (state.requestedIds command) [] with
  | .error message => some
      { repository
        response := .error message
        trainingResult := none
        nextState := some .unsavedTrainingResult }
  | .ok uniqueIds =>
      (storeCandidates lookup draws (order.ids uniqueIds) (repository, [])).bind fun stored =>
        (pruneArchive order state.genomeArchiveMaxSize stored.1).map fun pruned =>
          let savedCount : ℤ := stored.2.length
          { repository := pruned
            response := .okay
              { savedCount
                discardedCount := state.candidates.length - savedCount
                savedIds := stored.2 }
            trainingResult := some state.trainingResult
            nextState := state.nextState command.restart }

end

section

/-! ## What is requested -/

theorem lookup_candidateLookup (candidates : List (Candidate F)) (id : GenomeId) :
    (candidateLookup candidates).lookup id =
      candidates.find? fun candidate => candidate.id = id := by
  have scan (candidates : List (Candidate F)) (lookup : Dict GenomeId (Candidate F)) :
      (candidates.foldl (fun lookup candidate => Dict.emplace candidate.id candidate lookup)
          lookup).lookup id =
        (lookup.lookup id).or (candidates.find? fun candidate => candidate.id = id) := by
    induction candidates generalizing lookup with
    | nil => exact Option.or_none.symm
    | cons candidate candidates ih =>
        rw [List.foldl_cons, ih, List.find?_cons]
        by_cases same : candidate.id = id
        · rw [decide_eq_true same]
          cases known : lookup.lookup id with
          | none =>
              rw [Dict.lookup_emplace_of_absent candidate (same ▸ known), if_pos same.symm]
              rfl
          | some first =>
              rw [Dict.emplace, same, known, Option.isSome_some, if_pos rfl, known]
              rfl
        · rw [decide_eq_false same, Dict.emplace]
          split
          · rfl
          · rw [AList.lookup_insert_ne (Ne.symm same)]
  exact (scan candidates ∅).trans rfl

theorem mem_of_lookup {candidates : List (Candidate F)} {id : GenomeId} {candidate : Candidate F}
    (found : (candidateLookup candidates).lookup id = some candidate) :
    candidate ∈ candidates ∧ candidate.id = id := by
  rw [lookup_candidateLookup] at found
  have named := List.find?_some found
  exact ⟨List.mem_of_find?_eq_some found, of_decide_eq_true named⟩

theorem candidates_of_lookups {candidates saved : List (Candidate F)} {ids : List GenomeId}
    (looked : List.Forall₂ (fun id candidate =>
      (candidateLookup candidates).lookup id = some candidate) ids saved) :
    saved.map Candidate.id = ids ∧ ∀ candidate ∈ saved, candidate ∈ candidates := by
  induction looked with
  | nil => exact ⟨rfl, fun _ none => absurd none List.not_mem_nil⟩
  | cons found _ ih =>
      obtain ⟨member, named⟩ := mem_of_lookup found
      exact ⟨by rw [List.map_cons, ih.1, named], List.forall_mem_cons.mpr ⟨member, ih.2⟩⟩

theorem isSome_lookup_iff {candidates : List (Candidate F)} {id : GenomeId} :
    ((candidateLookup candidates).lookup id).isSome = true ↔
      id ∈ candidates.map Candidate.id := by
  rw [lookup_candidateLookup, List.find?_isSome, List.mem_map]
  simp

variable {lookup : Dict GenomeId (Candidate F)}

theorem collectIds_known {ids uniqueIds : List GenomeId} (distinct : uniqueIds.Nodup)
    (known : ∀ id ∈ ids, (lookup.lookup id).isSome = true) :
    ∃ collected, collectIds lookup ids uniqueIds = .ok collected ∧ collected.Nodup ∧
      ∀ id, id ∈ collected ↔ id ∈ uniqueIds ∨ id ∈ ids := by
  induction ids generalizing uniqueIds with
  | nil => exact ⟨uniqueIds, rfl, distinct, fun id => by simp⟩
  | cons id ids ih =>
      have later := fun other listed => known other (List.mem_cons_of_mem _ listed)
      rw [collectIds]
      by_cases seen : id ∈ uniqueIds
      · rw [if_pos seen]
        obtain ⟨collected, result, distinct, members⟩ := ih distinct later
        refine ⟨collected, result, distinct, fun other => ?_⟩
        rw [members, List.mem_cons]
        constructor
        · exact Or.imp_right Or.inr
        · rintro (before | rfl | listed)
          · exact Or.inl before
          · exact Or.inl seen
          · exact Or.inr listed
      · have found : (lookup.lookup id).isNone = false := by
          rw [Option.isNone_eq_false_iff]
          exact known id List.mem_cons_self
        rw [if_neg seen, found, if_neg Bool.false_ne_true]
        have fresh : (uniqueIds ++ [id]).Nodup :=
          List.nodup_append.mpr ⟨distinct, List.nodup_singleton _, fun first listed second last =>
            by rintro rfl; exact seen (List.mem_singleton.mp last ▸ listed)⟩
        obtain ⟨collected, result, distinct, members⟩ := ih fresh later
        refine ⟨collected, result, distinct, fun other => ?_⟩
        rw [members, List.mem_append, List.mem_singleton, List.mem_cons, or_assoc]

theorem collectIds_unknown {ids uniqueIds : List GenomeId}
    (known : ∀ id ∈ uniqueIds, (lookup.lookup id).isSome = true)
    (unknown : ∃ id ∈ ids, lookup.lookup id = none) :
    ∃ id ∈ ids, lookup.lookup id = none ∧
      collectIds lookup ids uniqueIds = .error (notFoundMessage id) := by
  induction ids generalizing uniqueIds with
  | nil =>
      obtain ⟨id, listed, _⟩ := unknown
      cases listed
  | cons id ids ih =>
      rw [collectIds]
      by_cases absent : lookup.lookup id = none
      · refine ⟨id, List.mem_cons_self, absent, ?_⟩
        have unseen : id ∉ uniqueIds := by
          intro seen
          have present := known id seen
          rw [absent] at present
          cases present
        rw [if_neg unseen, absent, Option.isNone_none, if_pos rfl]
      · have later : ∃ other ∈ ids, lookup.lookup other = none := by
          obtain ⟨other, listed, missing⟩ := unknown
          rcases List.mem_cons.mp listed with rfl | later
          · exact absurd missing absent
          · exact ⟨other, later, missing⟩
        have present : (lookup.lookup id).isSome = true := Option.isSome_iff_ne_none.mpr absent
        have found : (lookup.lookup id).isNone = false := by
          rwa [Option.isNone_eq_false_iff]
        by_cases seen : id ∈ uniqueIds
        · rw [if_pos seen]
          obtain ⟨other, listed, missing, reported⟩ := ih known later
          exact ⟨other, List.mem_cons_of_mem _ listed, missing, reported⟩
        · rw [if_neg seen, found, if_neg Bool.false_ne_true]
          obtain ⟨other, listed, missing, reported⟩ := @ih (uniqueIds ++ [id]) (by
            intro first among
            rcases List.mem_append.mp among with before | last
            · exact known first before
            · rwa [List.mem_singleton.mp last]) later
          exact ⟨other, List.mem_cons_of_mem _ listed, missing, reported⟩

end

section

variable {repository : GenomeRepository F} {saved : List (Candidate F)} {savedIds : List GenomeId}

/-! ## What is stored -/

def Candidate.contentHash (candidate : Candidate F) : ContentHash :=
  computeContentHash candidate.genome candidate.metadata

/-- The identifiers to which the hashes of candidates lead, each with the genome of a candidate of
that content. -/
structure Stored (repository : GenomeRepository F) (saved : List (Candidate F))
    (savedIds : List GenomeId) : Prop where
  led : repository.Led
  leads : List.Forall₂ (fun candidate id =>
    repository.hashToId.lookup candidate.contentHash = some id) saved savedIds
  weights : ∀ candidate ∈ saved, ∀ id,
    repository.hashToId.lookup candidate.contentHash = some id →
      ∃ owner ∈ saved, owner.contentHash = candidate.contentHash ∧
        repository.genomes.lookup id = some owner.genome

theorem Stored.nodup_iff (stored : Stored repository saved savedIds) :
    savedIds.Nodup ↔ (saved.map Candidate.contentHash).Nodup := by
  have leads : List.Forall₂ (fun hash id => repository.hashToId.lookup hash = some id)
      (saved.map Candidate.contentHash) savedIds := List.forall₂_map_left_iff.mpr stored.leads
  have unique : Relator.BiUnique fun hash id => repository.hashToId.lookup hash = some id := by
    refine ⟨fun _ _ _ first second => stored.led.injective first second, ?_⟩
    intro hash id other first second
    exact Option.some.inj (first.symm.trans second)
  exact (List.rel_nodup unique leads).symm

variable [Double F] {lookup : Dict GenomeId (Candidate F)} {draws : GenomeId → List Draw}

/-- **One candidate** is stored. -/
theorem Stored.step (stored : Stored repository saved savedIds) {candidate : Candidate F}
    {preferredId : Option GenomeId} {draws : List Draw}
    {result : GenomeRepository F × StoreByHashResult}
    (kept : repository.storeOrUpdateByHash candidate.genome candidate.metadata preferredId draws =
      some result) : Stored result.1 (saved ++ [candidate]) (savedIds ++ [result.2.id]) := by
  have led := stored.led.storeOrUpdateByHash kept
  obtain ⟨genomes, _, _, forward⟩ := GenomeRepository.storeOrUpdateByHash_writes kept
  rw [GenomeRepository.computeContentHash_normalizeRobustMetadata] at forward
  change repository.hashToId.lookup candidate.contentHash = _ ∧ _ ∨
    repository.hashToId.lookup candidate.contentHash = _ ∧ _ ∧
      result.1.hashToId = repository.hashToId.insert candidate.contentHash _ at forward
  have own : result.1.hashToId.lookup candidate.contentHash = some result.2.id := by
    rcases forward with ⟨leads, same⟩ | ⟨_, _, inserted⟩
    · rw [same, leads]
    · rw [inserted, AList.lookup_insert]
  -- Entries stay as they are; a new hash only gets one.
  have others {hash : ContentHash} (apart : hash ≠ candidate.contentHash) :
      result.1.hashToId.lookup hash = repository.hashToId.lookup hash := by
    rcases forward with ⟨_, same⟩ | ⟨_, _, inserted⟩
    · rw [same]
    · rw [inserted, AList.lookup_insert_ne apart]
  have stays {hash : ContentHash} {id : GenomeId}
      (leads : repository.hashToId.lookup hash = some id) :
      result.1.hashToId.lookup hash = some id := by
    by_cases same : hash = candidate.contentHash
    · rcases forward with ⟨_, unchanged⟩ | ⟨unknown, _⟩
      · rw [unchanged, leads]
      · rw [same, unknown] at leads
        cases leads
    · rw [others same, leads]
  refine ⟨led, ?_, ?_⟩
  · exact List.rel_append (stored.leads.imp fun _ _ leads => stays leads) (.cons own .nil)
  · intro other listed id leads
    have member : candidate ∈ saved ++ [candidate] :=
      List.mem_append_right _ List.mem_cons_self
    by_cases same : other.contentHash = candidate.contentHash
    · rw [same, own] at leads
      refine ⟨candidate, member, same.symm, ?_⟩
      rw [genomes, ← Option.some.inj leads, AList.lookup_insert]
    · have before : other ∈ saved := by
        rcases List.mem_append.mp listed with before | last
        · exact before
        · exact absurd (List.mem_singleton.mp last ▸ rfl) same
      have elsewhere : id ≠ result.2.id := by
        rintro rfl
        exact same (led.injective leads own)
      rw [others same] at leads
      obtain ⟨owner, owned, content, genome⟩ := stored.weights other before id leads
      refine ⟨owner, List.mem_append_left _ owned, content, ?_⟩
      rw [genomes, AList.lookup_insert_ne elsewhere, genome]

/-- **The candidates** are stored one after another. -/
theorem storeCandidates_spec {ids : List GenomeId} (stored : Stored repository saved savedIds)
    {result : GenomeRepository F × List GenomeId}
    (kept : storeCandidates lookup draws ids (repository, savedIds) = some result) :
    ∃ more : List (Candidate F), List.Forall₂ (fun id candidate =>
        lookup.lookup id = some candidate) ids more ∧
      Stored result.1 (saved ++ more) result.2 := by
  induction ids generalizing repository saved savedIds with
  | nil =>
      cases kept
      exact ⟨[], .nil, by rwa [List.append_nil]⟩
  | cons id ids ih =>
      rw [storeCandidates] at kept
      obtain ⟨candidate, found, kept⟩ := Option.bind_eq_some_iff.mp kept
      obtain ⟨next, first, rest⟩ := Option.bind_eq_some_iff.mp kept
      obtain ⟨more, looked, all⟩ := ih (stored.step first) rest
      exact ⟨candidate :: more, .cons found looked, by rwa [List.append_assoc] at all⟩

end

section

variable [Double F]

/-- What an answered command has done. The saved candidates are those requested, each once;
every reported identifier leads to the weights of one of its content, unless the prune of the
archive has taken it. -/
structure Saves (state : UnsavedTrainingResult F Summary) (command : TrainingResultSave)
    (repository : GenomeRepository F) (order : HashOrder F) (draws : GenomeId → List Draw)
    (after : GenomeRepository F) (okay : Okay) (saved : List (Candidate F)) : Prop where
  distinct : (saved.map Candidate.id).Nodup
  requested : ∀ id, id ∈ saved.map Candidate.id ↔ id ∈ state.requestedIds command
  candidates : ∀ candidate ∈ saved, candidate ∈ state.candidates
  savedCount : okay.savedCount = saved.length
  total : okay.savedCount + okay.discardedCount = state.candidates.length
  nodup : okay.savedIds.Nodup ↔ (saved.map Candidate.contentHash).Nodup
  kept : ∃ stored,
    storeCandidates (candidateLookup state.candidates) draws (saved.map Candidate.id)
        (repository, []) = some (stored, okay.savedIds) ∧
      List.Forall₂ (fun candidate id => ∃ owner ∈ saved,
        owner.contentHash = candidate.contentHash ∧
          stored.genomes.lookup id = some owner.genome ∧
          (after.genomes.lookup id = some owner.genome ∨
            (after.genomes.lookup id = none ∧ 0 < state.genomeArchiveMaxSize ∧
              id ∈ (stored.presenting (order.metadata stored.metadata)).pruneVictims
                state.genomeArchiveMaxSize.toNat))) saved okay.savedIds

theorem lookup_pruneArchive {order : HashOrder F} {genomeArchiveMaxSize : ℤ}
    {stored pruned : GenomeRepository F}
    (returned : pruneArchive order genomeArchiveMaxSize stored = some pruned) (id : GenomeId) :
    pruned.genomes.lookup id = stored.genomes.lookup id ∨
      (pruned.genomes.lookup id = none ∧ 0 < genomeArchiveMaxSize ∧
        id ∈ (stored.presenting (order.metadata stored.metadata)).pruneVictims
          genomeArchiveMaxSize.toNat) := by
  rw [pruneArchive] at returned
  split at returned
  · rename_i limited
    obtain ⟨result, prune, rfl⟩ := Option.map_eq_some_iff.mp returned
    rw [GenomeRepository.lookup_genomes_pruneManagedByFitness prune]
    split
    · rename_i victim
      exact Or.inr ⟨rfl, limited, victim⟩
    · exact Or.inl rfl
  · cases returned
    exact Or.inl rfl

variable (state : UnsavedTrainingResult F Summary) (command : TrainingResultSave)
  {repository : GenomeRepository F} (order : HashOrder F) (draws : GenomeId → List Draw)

theorem onTrainingResultSave_unknown
    (unknown : ∃ id ∈ state.requestedIds command, id ∉ state.candidates.map Candidate.id) :
    ∃ id ∈ state.requestedIds command, id ∉ state.candidates.map Candidate.id ∧
      state.onTrainingResultSave command repository order draws = some
        { repository
          response := .error (notFoundMessage id)
          trainingResult := none
          nextState := some .unsavedTrainingResult } := by
  have absent {id : GenomeId} : (candidateLookup state.candidates).lookup id = none ↔
      id ∉ state.candidates.map Candidate.id := by
    rw [← isSome_lookup_iff, Option.not_isSome_iff_eq_none]
  obtain ⟨unknown, asked, missing⟩ := unknown
  obtain ⟨id, listed, gone, reported⟩ := collectIds_unknown
    (fun _ none => absurd none List.not_mem_nil) ⟨unknown, asked, absent.mpr missing⟩
  refine ⟨id, listed, absent.mp gone, ?_⟩
  rw [onTrainingResultSave, reported]

theorem onTrainingResultSave_known (led : repository.Led)
    (known : ∀ id ∈ state.requestedIds command, id ∈ state.candidates.map Candidate.id)
    {outcome : Outcome F Summary}
    (handled : state.onTrainingResultSave command repository order draws = some outcome) :
    ∃ okay saved, outcome.response = .okay okay ∧
      state.Saves command repository order draws outcome.repository okay saved := by
  obtain ⟨uniqueIds, collected, distinct, members⟩ := collectIds_known List.nodup_nil
    fun id asked => isSome_lookup_iff.mpr (known id asked)
  rw [onTrainingResultSave, collected] at handled
  obtain ⟨⟨stored, savedIds⟩, kept, handled⟩ := Option.bind_eq_some_iff.mp handled
  obtain ⟨pruned, returned, rfl⟩ := Option.map_eq_some_iff.mp handled
  have start : Stored repository [] [] := ⟨led, .nil, fun _ none => absurd none List.not_mem_nil⟩
  obtain ⟨saved, looked, all⟩ := storeCandidates_spec start kept
  rw [List.nil_append] at all
  have order_perm := order.ids_perm uniqueIds
  obtain ⟨ids, listed⟩ := candidates_of_lookups looked
  refine ⟨_, saved, rfl, ?_, ?_, listed, ?_, ?_, all.nodup_iff, stored, ids ▸ kept, ?_⟩
  · rw [ids]
    exact order_perm.nodup_iff.mpr distinct
  · intro id
    rw [ids, order_perm.mem_iff, members]
    simp
  · exact congrArg _ all.leads.length_eq.symm
  · exact add_sub_cancel _ _
  · have weights := (List.forall₂_and_left _ _).mpr ⟨fun candidate member => member, all.leads⟩
    refine weights.imp fun candidate id both => ?_
    obtain ⟨owner, owned, content, genome⟩ := all.weights candidate both.1 id both.2
    refine ⟨owner, owned, content, genome, ?_⟩
    rw [← genome]
    exact lookup_pruneArchive returned id

/-- **Saving** is all or nothing: nothing changes when an identifier is no candidate's. Otherwise
the reply lists one identifier for each requested candidate, and they are distinct exactly when
the contents are. -/
theorem saving_spec (led : repository.Led) :
    ((∃ id ∈ state.requestedIds command, id ∉ state.candidates.map Candidate.id) →
      ∃ id ∈ state.requestedIds command, id ∉ state.candidates.map Candidate.id ∧
        state.onTrainingResultSave command repository order draws = some
          { repository
            response := .error (notFoundMessage id)
            trainingResult := none
            nextState := some .unsavedTrainingResult }) ∧
    ((∀ id ∈ state.requestedIds command, id ∈ state.candidates.map Candidate.id) →
      ∀ outcome, state.onTrainingResultSave command repository order draws = some outcome →
        ∃ okay saved, outcome.response = .okay okay ∧
          state.Saves command repository order draws outcome.repository okay saved) :=
  ⟨state.onTrainingResultSave_unknown command order draws,
    fun known _ handled => state.onTrainingResultSave_known command order draws led known handled⟩

end

section

/-! ## Clones, and a full archive -/

open GenomeRepository

theorem sameEntries_id {F : Type} (stored : Dict GenomeId (GenomeMetadata F)) :
    stored.SameEntries (id stored) :=
  List.Perm.refl stored.entries

def inOrder : HashOrder ℚ where
  ids := id
  ids_perm := List.Perm.refl
  metadata := id
  metadata_same := sameEntries_id

def duckCandidate (id : GenomeId) : Candidate ℚ where
  id := id
  genome := duckGenome
  metadata := trainedMetadata
  brainKind := [78, 110]
  brainVariant := none
  fitness := 1
  generation := 0

def clones : UnsavedTrainingResult ℚ Unit where
  summary := ()
  candidates := [duckCandidate firstId, duckCandidate secondId]
  genomeArchiveMaxSize := 0
  populationSize := 2
  population := []

def Response.savedIds : Response → List GenomeId
  | .okay reply => reply.savedIds
  | .error _ => []

theorem clones_share : ∃ outcome,
    clones.onTrainingResultSave ⟨[], false⟩ {} inOrder (fun _ => []) = some outcome ∧
      outcome.response.savedIds = [firstId, firstId] := by
  have saved : (clones.onTrainingResultSave ⟨[], false⟩ {} inOrder (fun _ => [])).map
      (fun outcome => outcome.response.savedIds) = some [firstId, firstId] := by decide +kernel
  exact Option.map_eq_some_iff.mp saved

def challenger : UnsavedTrainingResult ℚ Unit :=
  { clones with
    candidates := [duckCandidate firstId]
    genomeArchiveMaxSize := 1 }

/-- A repository that holds a fitter genome of the same bucket. -/
def incumbent : GenomeRepository ℚ :=
  ({} : GenomeRepository ℚ).store secondId ⟨[0]⟩ { trainedMetadata with fitness := 2 } (0, 0)

theorem challenger_stored : ∃ stored first second,
    storeCandidates (candidateLookup challenger.candidates) (fun _ => []) [firstId]
        (incumbent, []) = some (stored, [firstId]) ∧
      stored.bestId = none ∧ stored.metadata.lookup firstId = some first ∧
      stored.metadata.lookup secondId = some second ∧
      first.trainingSessionId.isSome = true ∧ second.trainingSessionId.isSome = true ∧
      bucketKey second = bucketKey first ∧ lessFit (firstId, first) (secondId, second) = true := by
  have facts : (storeCandidates (candidateLookup challenger.candidates) (fun _ => []) [firstId]
      (incumbent, [])).elim false (fun state => state.2 == [firstId] && state.1.bestId == none &&
        (state.1.metadata.lookup firstId).elim false fun first =>
          (state.1.metadata.lookup secondId).elim false fun second =>
            first.trainingSessionId.isSome && second.trainingSessionId.isSome &&
              decide (bucketKey second = bucketKey first) &&
              lessFit (firstId, first) (secondId, second)) = true := by decide +kernel
  cases kept : storeCandidates (candidateLookup challenger.candidates) (fun _ => []) [firstId]
      (incumbent, []) with
  | none => rw [kept] at facts; cases facts
  | some state =>
      obtain ⟨stored, savedIds⟩ := state
      cases first : stored.metadata.lookup firstId with
      | none => simp [kept, first] at facts
      | some record =>
          cases second : stored.metadata.lookup secondId with
          | none => simp [kept, first, second] at facts
          | some other =>
              simp only [kept, first, second, Option.elim_some, Bool.and_eq_true, beq_iff_eq,
                decide_eq_true_eq] at facts
              obtain ⟨⟨rfl, best⟩, ⟨⟨managed, managed'⟩, same⟩, worse⟩ := facts
              exact ⟨stored, record, other, rfl, best, first, second, managed, managed', same, worse⟩

theorem challenger_pruned : ∃ outcome,
    challenger.onTrainingResultSave ⟨[], false⟩ incumbent inOrder (fun _ => []) = some outcome ∧
      outcome.response.savedIds = [firstId] ∧
      outcome.repository.genomes.lookup firstId = none := by
  obtain ⟨stored, first, second, kept, best, found, found', managed, managed', same, worse⟩ :=
    challenger_stored
  obtain ⟨result, pruned⟩ :=
    Option.isSome_iff_exists.mp (stored.pruneManagedByFitness_isSome 1)
  have gone := (prunesWorst Nat.one_pos pruned).outdone
    (fun _ _ metadata _ => decide_eq_true rfl) (by decide)
    (mem_bucketMembers_iff.mpr ⟨first, found, managed, rfl⟩)
    (mem_bucketMembers_iff.mpr ⟨second, found', managed', same⟩)
    (by rw [best]; exact (Option.some_ne_none _).symm) found found' (lessFit_iff.mp worse)
  have archived : pruneArchive inOrder 1 stored = some result.1 := by
    rw [pruneArchive, if_pos Int.one_pos]
    exact congrArg (Option.map Prod.fst) pruned
  have collected : collectIds (candidateLookup challenger.candidates)
      (challenger.requestedIds ⟨[], false⟩) [] = .ok [firstId] := by rfl
  refine ⟨{
      repository := result.1
      response := .okay ⟨1, 0, [firstId]⟩
      trainingResult := some challenger.trainingResult
      nextState := some .idle }, ?_, rfl, gone⟩
  rw [onTrainingResultSave, collected]
  change (storeCandidates _ _ [firstId] (incumbent, [])).bind _ = _
  rw [kept, Option.bind_some]
  change (pruneArchive inOrder 1 stored).map _ = _
  rw [archived]
  rfl

theorem incumbent_reachable : (machine ℚ).Reachable incumbent :=
  reachable_call ⟨{}, [], rfl, .nil _⟩
    (.store secondId ⟨[0]⟩ { trainedMetadata with fitness := 2 } (0, 0)) rfl

/-- The identifiers that a reply lists need not be distinct, nor lead to anything. -/
theorem not_savedTruly :
    (¬ ∀ (state : UnsavedTrainingResult ℚ Unit) (command : TrainingResultSave)
      (repository : GenomeRepository ℚ) (order : HashOrder ℚ) (draws : GenomeId → List Draw)
      (outcome : Outcome ℚ Unit), (machine ℚ).Reachable repository →
        state.onTrainingResultSave command repository order draws = some outcome →
          outcome.response.savedIds.Nodup) ∧
    ¬ ∀ (state : UnsavedTrainingResult ℚ Unit) (command : TrainingResultSave)
      (repository : GenomeRepository ℚ) (order : HashOrder ℚ) (draws : GenomeId → List Draw)
      (outcome : Outcome ℚ Unit), (machine ℚ).Reachable repository →
        state.onTrainingResultSave command repository order draws = some outcome →
          ∀ id ∈ outcome.response.savedIds,
            (outcome.repository.genomes.lookup id).isSome = true := by
  constructor
  · intro distinct
    obtain ⟨outcome, handled, listed⟩ := clones_share
    have nodup := distinct _ _ _ _ _ outcome ⟨{}, [], rfl, .nil _⟩ handled
    rw [listed] at nodup
    exact absurd nodup (by decide)
  · intro present
    obtain ⟨outcome, handled, listed, gone⟩ := challenger_pruned
    have kept := present _ _ _ _ _ outcome incumbent_reachable handled firstId
      (listed ▸ List.mem_cons_self)
    rw [gone] at kept
    cases kept

theorem saving_spec_clones :
    (∃ id ∈ [secondId, invalidGenomeId], id ∉ clones.candidates.map Candidate.id ∧
      clones.onTrainingResultSave ⟨[secondId, invalidGenomeId], false⟩ {} inOrder (fun _ => []) =
        some
          { repository := {}
            response := .error (notFoundMessage id)
            trainingResult := none
            nextState := some .unsavedTrainingResult }) ∧
    ∃ outcome okay saved,
      clones.onTrainingResultSave ⟨[], false⟩ {} inOrder (fun _ => []) = some outcome ∧
        outcome.response = .okay okay ∧
        clones.Saves ⟨[], false⟩ {} inOrder (fun _ => []) outcome.repository okay saved := by
  constructor
  · exact (saving_spec clones ⟨[secondId, invalidGenomeId], false⟩ inOrder (fun _ => [])
      led_empty).1 ⟨invalidGenomeId, by decide, by decide⟩
  · obtain ⟨outcome, handled, _⟩ := clones_share
    obtain ⟨okay, saved, answered, saves⟩ := (saving_spec clones ⟨[], false⟩ inOrder (fun _ => [])
      led_empty).2 (by decide) outcome handled
    exact ⟨outcome, okay, saved, handled, answered, saves⟩

end

end UnsavedTrainingResult

end DirtSim
