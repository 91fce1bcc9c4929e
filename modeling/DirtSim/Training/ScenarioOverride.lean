import DirtSim.Training.EvolutionState

/-! # Changing the scenario configuration of a running executor

A changed configuration goes to the queue first and to the active visible evaluation afterwards,
which may refuse it. By then the queue has changed (`ConfiguredExecutor.rejectsCleanly_iff`). What
builds a tokenizer and what a runner answers are parameters.
-/

namespace DirtSim

structure EvaluationIndividual where
  brainKind : ByteString
  brainVariant : Option ByteString := none
  scenarioId : ScenarioId
  genome : Option Genome := none

def requiresNesTileTokenizer (individual : EvaluationIndividual) : Bool :=
  individual.brainKind = text "NesTileRecurrent"

/-- An evaluation in the queue with what it will run under. -/
structure ConfiguredEvaluation (Config Tokenizer : Type) where
  request : EvaluationRequest
  individual : EvaluationIndividual
  nesTileTokenizer : Option Tokenizer := none
  scenarioConfigOverride : Option Config := none

/-- The evaluation that is shown; its runner is there while a pass runs. -/
structure VisibleEvaluationHandle (Config Tokenizer Runner : Type) where
  queued : ConfiguredEvaluation Config Tokenizer
  runner : Option Runner := none

/-- What the thread of the state machine changes of the executor; the tokenizer is that of its
configuration. -/
structure ConfiguredExecutor (Config Tokenizer Runner : Type) where
  taskQueue : List (ConfiguredEvaluation Config Tokenizer)
  nesTileTokenizer : Option Tokenizer
  activeHandle : Option (VisibleEvaluationHandle Config Tokenizer Runner)

/-- The tokenizer bootstrap and the runners, which answer with an error message or without. -/
structure OverrideEnvironment (Config Tokenizer Runner : Type) where
  build : ScenarioId → Option Config → Except (List Char) Tokenizer
  setScenarioConfig : Runner → Config → Runner × Option (List Char)

def ConfiguredEvaluation.reconfigure {Config Tokenizer : Type}
    (queued : ConfiguredEvaluation Config Tokenizer) (scenarioConfigOverride : Option Config)
    (sharedNesTileTokenizer : Option Tokenizer) : ConfiguredEvaluation Config Tokenizer :=
  { queued with
    scenarioConfigOverride
    nesTileTokenizer :=
      if requiresNesTileTokenizer queued.individual then sharedNesTileTokenizer else none }

def activeNesTileMessage : List Char :=
  "EvaluationExecutor: Active NES tile evaluations cannot change scenario config".toList

namespace ConfiguredExecutor

variable {Config Tokenizer Runner : Type}

section

variable (environment : OverrideEnvironment Config Tokenizer Runner)
  (executor : ConfiguredExecutor Config Tokenizer Runner)
  (scenarioConfigOverride : Option Config) (scenarioId : ScenarioId)

def needsNesTileTokenizer : Bool :=
  executor.taskQueue.any fun queued =>
    queued.individual.scenarioId = scenarioId && requiresNesTileTokenizer queued.individual

/-- The evaluations of the scenario that wait in the queue get the configuration. -/
def reconfigureQueue (sharedNesTileTokenizer : Option Tokenizer) :
    List (ConfiguredEvaluation Config Tokenizer) :=
  executor.taskQueue.map fun queued =>
    if queued.individual.scenarioId = scenarioId then
      queued.reconfigure scenarioConfigOverride sharedNesTileTokenizer
    else queued

/-- The executor with the configuration in its queue. -/
def reconfigured (nesTileTokenizer sharedNesTileTokenizer : Option Tokenizer) :
    ConfiguredExecutor Config Tokenizer Runner :=
  { executor with
    nesTileTokenizer
    taskQueue :=
      executor.reconfigureQueue scenarioConfigOverride scenarioId sharedNesTileTokenizer }

def queueOverrideSet : Except (List Char) (ConfiguredExecutor Config Tokenizer Runner) :=
  if executor.needsNesTileTokenizer scenarioId then
    match environment.build scenarioId scenarioConfigOverride with
    | .error message => .error message
    | .ok tokenizer => .ok
        (executor.reconfigured scenarioConfigOverride scenarioId (some tokenizer) (some tokenizer))
  else .ok
    (executor.reconfigured scenarioConfigOverride scenarioId executor.nesTileTokenizer none)

def activeOverrideSet :
    ConfiguredExecutor Config Tokenizer Runner × Option (List Char) :=
  match executor.activeHandle with
  | none => (executor, none)
  | some handle =>
      if handle.queued.individual.scenarioId ≠ scenarioId then (executor, none)
      else if requiresNesTileTokenizer handle.queued.individual then
        (executor, some activeNesTileMessage)
      else
        let changed := { handle with
          queued := { handle.queued with scenarioConfigOverride } }
        match scenarioConfigOverride, handle.runner with
        | some config, some runner =>
            let answer := environment.setScenarioConfig runner config
            ({ executor with activeHandle := some { changed with runner := some answer.1 } },
              answer.2)
        | _, _ => ({ executor with activeHandle := some changed }, none)

def scenarioConfigOverrideSet :
    ConfiguredExecutor Config Tokenizer Runner × Option (List Char) :=
  match executor.queueOverrideSet environment scenarioConfigOverride scenarioId with
  | .error message => (executor, some message)
  | .ok queued => queued.activeOverrideSet environment scenarioConfigOverride scenarioId

end

/-- The overrides and tokenizers that a change may touch. -/
structure SameConfiguration (before after : ConfiguredExecutor Config Tokenizer Runner) :
    Prop where
  queue : after.taskQueue.map (fun queued =>
      (queued.scenarioConfigOverride, queued.nesTileTokenizer)) =
    before.taskQueue.map fun queued => (queued.scenarioConfigOverride, queued.nesTileTokenizer)
  tokenizer : after.nesTileTokenizer = before.nesTileTokenizer
  active : after.activeHandle.map (fun handle => handle.queued.scenarioConfigOverride) =
    before.activeHandle.map fun handle => handle.queued.scenarioConfigOverride

section

variable (environment : OverrideEnvironment Config Tokenizer Runner)
  (executor : ConfiguredExecutor Config Tokenizer Runner)
  (scenarioConfigOverride : Option Config) (scenarioId : ScenarioId)

def RejectsCleanly : Prop :=
  (executor.scenarioConfigOverrideSet environment scenarioConfigOverride scenarioId).2 ≠ none →
    executor.SameConfiguration
      (executor.scenarioConfigOverrideSet environment scenarioConfigOverride scenarioId).1

/-- No tokenizer can be built, but some evaluation in the queue needs one. -/
def TokenizerFails : Prop :=
  executor.needsNesTileTokenizer scenarioId = true ∧
    ∃ message, environment.build scenarioId scenarioConfigOverride = .error message

/-- The active evaluation does not take the configuration. -/
def ActiveRefuses : Prop :=
  ∃ handle, executor.activeHandle = some handle ∧
    handle.queued.individual.scenarioId = scenarioId ∧
    (requiresNesTileTokenizer handle.queued.individual = true ∨
      ∃ config runner, scenarioConfigOverride = some config ∧ handle.runner = some runner ∧
        (environment.setScenarioConfig runner config).2 ≠ none)

def sharedNesTileTokenizer : Option Tokenizer :=
  if executor.needsNesTileTokenizer scenarioId then
    (environment.build scenarioId scenarioConfigOverride).toOption
  else none

/-- Everything already is as the change would make it. -/
structure AlreadySet : Prop where
  queue : ∀ queued ∈ executor.taskQueue, queued.individual.scenarioId = scenarioId →
    queued.scenarioConfigOverride = scenarioConfigOverride ∧
      queued.nesTileTokenizer =
        if requiresNesTileTokenizer queued.individual then
          executor.sharedNesTileTokenizer environment scenarioConfigOverride scenarioId
        else none
  tokenizer : executor.needsNesTileTokenizer scenarioId = true →
    executor.nesTileTokenizer =
      executor.sharedNesTileTokenizer environment scenarioConfigOverride scenarioId
  active : ∀ handle, executor.activeHandle = some handle →
    requiresNesTileTokenizer handle.queued.individual = false →
      handle.queued.scenarioConfigOverride = scenarioConfigOverride

variable {environment executor scenarioConfigOverride scenarioId}

theorem reconfigureQueue_same_iff {tokenizer : Option Tokenizer} :
    (executor.reconfigureQueue scenarioConfigOverride scenarioId tokenizer).map (fun queued =>
        (queued.scenarioConfigOverride, queued.nesTileTokenizer)) =
      executor.taskQueue.map (fun queued =>
        (queued.scenarioConfigOverride, queued.nesTileTokenizer)) ↔
    ∀ queued ∈ executor.taskQueue, queued.individual.scenarioId = scenarioId →
      queued.scenarioConfigOverride = scenarioConfigOverride ∧
        queued.nesTileTokenizer =
          if requiresNesTileTokenizer queued.individual then tokenizer else none := by
  rw [reconfigureQueue, List.map_map, List.map_inj_left]
  refine forall₂_congr fun queued _ => ?_
  rw [Function.comp_apply]
  by_cases mine : queued.individual.scenarioId = scenarioId
  · rw [if_pos mine, ConfiguredEvaluation.reconfigure, Prod.mk.injEq]
    constructor
    · rintro ⟨override, tokenizer⟩ _
      exact ⟨override.symm, tokenizer.symm⟩
    · intro agrees
      exact ⟨(agrees mine).1.symm, (agrees mine).2.symm⟩
  · rw [if_neg mine]
    exact iff_of_true rfl fun same => absurd same mine

theorem queue_activeOverrideSet :
    let after := (executor.activeOverrideSet environment scenarioConfigOverride scenarioId).1
    after.taskQueue = executor.taskQueue ∧ after.nesTileTokenizer = executor.nesTileTokenizer := by
  unfold activeOverrideSet
  split
  · exact ⟨rfl, rfl⟩
  · split
    · exact ⟨rfl, rfl⟩
    · split
      · exact ⟨rfl, rfl⟩
      · dsimp only
        split <;> exact ⟨rfl, rfl⟩

theorem activeRefuses_of_error
    (error : (executor.activeOverrideSet environment scenarioConfigOverride scenarioId).2 ≠ none) :
    executor.ActiveRefuses environment scenarioConfigOverride scenarioId := by
  unfold activeOverrideSet at error
  split at error
  · exact absurd rfl error
  · rename_i handle active
    split at error
    · exact absurd rfl error
    · rename_i mine
      refine ⟨handle, active, not_not.mp mine, ?_⟩
      split at error
      · rename_i tiled
        exact Or.inl tiled
      · cases wanted : scenarioConfigOverride with
        | none =>
            rw [wanted] at error
            exact absurd rfl error
        | some config =>
            cases running : handle.runner with
            | none =>
                rw [wanted, running] at error
                exact absurd rfl error
            | some runner =>
                rw [wanted, running] at error
                exact Or.inr ⟨config, runner, rfl, rfl, error⟩

/-- **A refusal** comes after the override has been set, unless the evaluation has a tile brain. -/
theorem ActiveRefuses.result
    (refuses : executor.ActiveRefuses environment scenarioConfigOverride scenarioId) :
    (executor.activeOverrideSet environment scenarioConfigOverride scenarioId).2 ≠ none ∧
      ((executor.activeOverrideSet environment scenarioConfigOverride scenarioId).1.activeHandle.map
          (fun handle => handle.queued.scenarioConfigOverride) =
          executor.activeHandle.map (fun handle => handle.queued.scenarioConfigOverride) ↔
        ∀ handle, executor.activeHandle = some handle →
          requiresNesTileTokenizer handle.queued.individual = false →
            handle.queued.scenarioConfigOverride = scenarioConfigOverride) := by
  obtain ⟨handle, active, mine, refuses⟩ := refuses
  simp only [activeOverrideSet, active, Option.some.injEq, forall_eq']
  rw [if_neg (not_not_intro mine)]
  cases tiled : requiresNesTileTokenizer handle.queued.individual with
  | true =>
      rw [if_pos rfl, active]
      exact ⟨Option.some_ne_none _, iff_of_true rfl fun untiled => absurd untiled Bool.noConfusion⟩
  | false =>
      rw [tiled] at refuses
      obtain ⟨config, runner, rfl, running, error⟩ := refuses.resolve_left Bool.false_ne_true
      rw [if_neg Bool.false_ne_true, running]
      refine ⟨error, ?_⟩
      rw [Option.map_some, Option.map_some, Option.some.injEq]
      exact eq_comm.trans ⟨fun same _ => same, fun same => same rfl⟩

theorem reconfigured_clean_iff {tokenizer shared : Option Tokenizer}
    (hands : executor.sharedNesTileTokenizer environment scenarioConfigOverride scenarioId = shared)
    (keeps : tokenizer = executor.nesTileTokenizer ↔
      (executor.needsNesTileTokenizer scenarioId = true → executor.nesTileTokenizer = shared)) :
    (((executor.reconfigured scenarioConfigOverride scenarioId tokenizer shared).activeOverrideSet
        environment scenarioConfigOverride scenarioId).2 ≠ none →
      executor.SameConfiguration
        ((executor.reconfigured scenarioConfigOverride scenarioId tokenizer
          shared).activeOverrideSet environment scenarioConfigOverride scenarioId).1) ↔
      ¬ executor.ActiveRefuses environment scenarioConfigOverride scenarioId ∨
        executor.AlreadySet environment scenarioConfigOverride scenarioId := by
  set queued := executor.reconfigured scenarioConfigOverride scenarioId tokenizer shared
  obtain ⟨queue, kept⟩ := @queue_activeOverrideSet Config Tokenizer Runner environment queued
    scenarioConfigOverride scenarioId
  by_cases refuses : executor.ActiveRefuses environment scenarioConfigOverride scenarioId
  · have refuses' : queued.ActiveRefuses environment scenarioConfigOverride scenarioId := refuses
    obtain ⟨error, active⟩ := refuses'.result
    rw [imp_iff_right error, or_iff_right (not_not_intro refuses)]
    constructor
    · rintro ⟨sameQueue, sameTokenizer, sameActive⟩
      rw [queue] at sameQueue
      rw [kept] at sameTokenizer
      exact ⟨hands ▸ reconfigureQueue_same_iff.mp sameQueue, hands ▸ keeps.mp sameTokenizer,
        active.mp sameActive⟩
    · rintro ⟨already, same, set⟩
      rw [hands] at already same
      refine ⟨?_, ?_, active.mpr set⟩
      · rw [queue]
        exact reconfigureQueue_same_iff.mpr already
      · rw [kept]
        exact keeps.mpr same
  · refine iff_of_true (fun error => ?_) (Or.inl refuses)
    exact absurd (activeRefuses_of_error error) refuses

/-- **A rejected change** leaves the executor as it was exactly when it is rejected for lack of a
tokenizer, is not rejected at all, or would change nothing. -/
theorem rejectsCleanly_iff :
    executor.RejectsCleanly environment scenarioConfigOverride scenarioId ↔
      executor.TokenizerFails environment scenarioConfigOverride scenarioId ∨
        ¬ executor.ActiveRefuses environment scenarioConfigOverride scenarioId ∨
        executor.AlreadySet environment scenarioConfigOverride scenarioId := by
  unfold RejectsCleanly scenarioConfigOverrideSet queueOverrideSet TokenizerFails
  cases needs : executor.needsNesTileTokenizer scenarioId with
  | false =>
      have hands : executor.sharedNesTileTokenizer environment scenarioConfigOverride scenarioId =
          none := by rw [sharedNesTileTokenizer, needs, if_neg Bool.false_ne_true]
      rw [if_neg Bool.false_ne_true, or_iff_right fun fails => absurd fails.1 Bool.false_ne_true]
      apply reconfigured_clean_iff hands
      exact iff_of_true rfl fun needed => absurd (needs.symm.trans needed) Bool.false_ne_true
  | true =>
      rw [if_pos rfl]
      cases built : environment.build scenarioId scenarioConfigOverride with
      | error message =>
          exact iff_of_true (fun _ => ⟨rfl, rfl, rfl⟩) (Or.inl ⟨rfl, message, rfl⟩)
      | ok tokenizer =>
          have hands : executor.sharedNesTileTokenizer environment scenarioConfigOverride
              scenarioId = some tokenizer := by
            rw [sharedNesTileTokenizer, needs, if_pos rfl, built]
            rfl
          have succeeds : ¬ (true = true ∧ ∃ message,
              (Except.ok tokenizer : Except (List Char) Tokenizer) = .error message) := by
            rintro ⟨_, message, absurd⟩
            cases absurd
          rw [or_iff_right succeeds]
          apply reconfigured_clean_iff hands
          rw [imp_iff_right needs]
          exact eq_comm

end

section

/-! ## A configuration for two tile brains -/

/-- An evaluation of Flappy Paratroopa with a tile brain; configurations are named by numbers. -/
def tileEvaluation : ConfiguredEvaluation ℕ ℕ where
  request := { taskType := .generationEval, index := 0 }
  individual := { brainKind := text "NesTileRecurrent", scenarioId := ⟨9⟩ }
  nesTileTokenizer := some 0

/-- Tokenizers are named by the configuration for which they were built. -/
def plainEnvironment : OverrideEnvironment ℕ ℕ Unit where
  build _ config := .ok (config.getD 0)
  setScenarioConfig runner _ := (runner, none)

/-- One tile brain is active while another one waits. -/
def tilePair : ConfiguredExecutor ℕ ℕ Unit where
  taskQueue := [tileEvaluation]
  nesTileTokenizer := some 0
  activeHandle := some { queued := tileEvaluation, runner := some () }

/-- The change is rejected, but the evaluation in the queue has been given it. -/
theorem not_rejectsCleanly :
    ¬ ∀ (environment : OverrideEnvironment ℕ ℕ Unit) (executor : ConfiguredExecutor ℕ ℕ Unit)
      (scenarioConfigOverride : Option ℕ) (scenarioId : ScenarioId),
      executor.RejectsCleanly environment scenarioConfigOverride scenarioId := by
  intro always
  have same := always plainEnvironment tilePair (some 1) ⟨9⟩ (by decide +kernel)
  exact absurd same.queue (by decide +kernel)

end

end ConfiguredExecutor

end DirtSim
