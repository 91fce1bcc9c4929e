import DirtSim.Foundation.Dict
import DirtSim.Foundation.Numbering
import DirtSim.Foundation.Transition
import Mathlib.Data.List.Destutter
import Mathlib.Data.List.Sort

/-! # The vocabulary of background tiles

Patterns of background tiles are numbered by 16-bit tokens as they are first seen; zero stands for
no tile. A table whose patterns do not all fit is refused after those that did have got their tokens
(`NesTileTokenizer.vocabulary_of_reachable`).
-/

namespace DirtSim

open Foundation

abbrev TilePatternHash := UInt64

abbrev TileToken := UInt16

abbrev TileIdPatternHashTable := Vector TilePatternHash 256

structure NesTileTokenizer where
  hashToToken : Dict TilePatternHash TileToken := ∅
  frozen : Bool := false
  nextToken : TileToken := 1
  vocabSize : TileToken

namespace NesTileTokenizer

def voidToken : TileToken := 0

def construct (vocabSize : TileToken) : Option NesTileTokenizer :=
  if vocabSize > voidToken + 1 then some { vocabSize := vocabSize } else none

def sortedUnique (hashes : List TilePatternHash) : List TilePatternHash :=
  (hashes.insertionSort (· ≤ ·)).destutter (· ≠ ·)

def assign (vocabulary : Dict TilePatternHash TileToken × TileToken) (hash : TilePatternHash) :
    Dict TilePatternHash TileToken × TileToken :=
  (Dict.emplace hash vocabulary.2 vocabulary.1, vocabulary.2 + 1)

def buildVocabulary (tokenizer : NesTileTokenizer) (tilePatternHashes : List TilePatternHash) :
    Except String ℕ × NesTileTokenizer :=
  let unique := sortedUnique tilePatternHashes
  if unique.length ≥ tokenizer.vocabSize.toNat then
    (.error ("NesTileTokenizer: Tile token vocabulary exhausted while building " ++
      toString unique.length ++ " unique patterns with vocab size " ++
      toString tokenizer.vocabSize), tokenizer)
  else
    let vocabulary := unique.foldl assign (∅, voidToken + 1)
    (.ok vocabulary.1.entries.length,
      { tokenizer with
        hashToToken := vocabulary.1, nextToken := vocabulary.2, frozen := false })

def freeze (tokenizer : NesTileTokenizer) : NesTileTokenizer := { tokenizer with frozen := true }

def learn (tokenizer : NesTileTokenizer) (hash : TilePatternHash) : NesTileTokenizer :=
  { tokenizer with
    hashToToken := Dict.emplace hash tokenizer.nextToken tokenizer.hashToToken
    nextToken := tokenizer.nextToken + 1 }

def tokenForHash (tokenizer : NesTileTokenizer) (patternHash : Option TilePatternHash) :
    Except String TileToken × NesTileTokenizer :=
  match patternHash with
  | none => (.ok voidToken, tokenizer)
  | some hash =>
      match tokenizer.hashToToken.lookup hash with
      | some token => (.ok token, tokenizer)
      | none =>
          if tokenizer.frozen then
            (.error ("NesTileTokenizer: Frozen vocabulary missing tile pattern hash " ++
              toString hash), tokenizer)
          else if tokenizer.nextToken ≥ tokenizer.vocabSize then
            (.error ("NesTileTokenizer: Tile token vocabulary exhausted after " ++
              toString tokenizer.hashToToken.entries.length ++
              " unique patterns with vocab size " ++ toString tokenizer.vocabSize), tokenizer)
          else (.ok tokenizer.nextToken, tokenizer.learn hash)

def remapFrom (tokenizer : NesTileTokenizer) (tileId : ℕ) :
    List TilePatternHash → Except String (List TileToken) × NesTileTokenizer
  | [] => (.ok [], tokenizer)
  | hash :: later =>
      match tokenizer.tokenForHash (some hash) with
      | (.error message, after) =>
          (.error ("NesTileTokenizer: Failed to map tile id " ++ toString tileId ++ ": " ++
            message), after)
      | (.ok token, after) =>
          let rest := after.remapFrom (tileId + 1) later
          (rest.1.map (token :: ·), rest.2)

def tileIdTokenRemapBuild (tokenizer : NesTileTokenizer)
    (tilePatternHashes : TileIdPatternHashTable) :
    Except String (List TileToken) × NesTileTokenizer :=
  tokenizer.remapFrom 0 tilePatternHashes.toList

def reset (tokenizer : NesTileTokenizer) : NesTileTokenizer :=
  { tokenizer with hashToToken := ∅, frozen := false, nextToken := voidToken + 1 }

/-- What is called on a tokenizer. -/
inductive Call
  | buildVocabulary (tilePatternHashes : List TilePatternHash)
  | tokenForHash (patternHash : Option TilePatternHash)
  | tileIdTokenRemapBuild (tilePatternHashes : TileIdPatternHashTable)
  | freeze
  | reset

def call (tokenizer : NesTileTokenizer) : Call → Except String Unit × NesTileTokenizer
  | .buildVocabulary hashes =>
      let built := tokenizer.buildVocabulary hashes
      (built.1.map fun _ => (), built.2)
  | .tokenForHash hash =>
      let found := tokenizer.tokenForHash hash
      (found.1.map fun _ => (), found.2)
  | .tileIdTokenRemapBuild hashes =>
      let remap := tokenizer.tileIdTokenRemapBuild hashes
      (remap.1.map fun _ => (), remap.2)
  | .freeze => (.ok (), tokenizer.freeze)
  | .reset => (.ok (), tokenizer.reset)

def machine (vocabSize : TileToken) : Machine Call NesTileTokenizer where
  initial tokenizer := construct vocabSize = some tokenizer
  step before call after := (before.call call).2 = after

def tokenOf (tokenizer : NesTileTokenizer) (hash : TilePatternHash) : Option ℕ :=
  (tokenizer.hashToToken.lookup hash).map UInt16.toNat

section

/-! ## What a vocabulary owes its users -/

/-- The tokens from one up to the next are given, each to one pattern, within the vocabulary. -/
structure Sound (tokenizer : NesTileTokenizer) : Prop where
  numbering : Numbering tokenizer.tokenOf 1 tokenizer.nextToken.toNat
  next_pos : 1 ≤ tokenizer.nextToken.toNat
  next_le : tokenizer.nextToken.toNat ≤ tokenizer.vocabSize.toNat

def Succeeds (tokenizer : NesTileTokenizer) (call : Call) : Prop :=
  (tokenizer.call call).1.toOption.isSome

instance (tokenizer : NesTileTokenizer) (call : Call) : Decidable (tokenizer.Succeeds call) :=
  inferInstanceAs (Decidable (_ = true))

def Restarts (tokenizer : NesTileTokenizer) : Call → Prop
  | .buildVocabulary hashes => tokenizer.Succeeds (.buildVocabulary hashes)
  | .reset => True
  | .tokenForHash _ | .tileIdTokenRemapBuild _ | .freeze => False

/-- Between restarts tokens are kept, and in a frozen vocabulary none is added. -/
structure Keeps (before : NesTileTokenizer) (call : Call) (after : NesTileTokenizer) : Prop where
  frozen : before.frozen → after.frozen → after.hashToToken = before.hashToToken
  tokens : ¬ before.Restarts call → ∀ hash token,
    before.hashToToken.lookup hash = some token → after.hashToToken.lookup hash = some token

def FailsCleanly (before : NesTileTokenizer) (call : Call) : Prop :=
  ¬ before.Succeeds call → (before.call call).2 = before

/-- A table for a vocabulary that still takes patterns does not bring more of them than it takes. -/
def TakesTable (tokenizer : NesTileTokenizer) : Call → Prop
  | .tileIdTokenRemapBuild hashes =>
      tokenizer.frozen ∨ tokenizer.nextToken = tokenizer.vocabSize ∨
        (Numbering.unnumbered tokenizer.tokenOf hashes.toList).card ≤
          tokenizer.vocabSize.toNat - tokenizer.nextToken.toNat
  | .buildVocabulary _ | .tokenForHash _ | .freeze | .reset => True

end

variable {tokenizer : NesTileTokenizer} {hash : TilePatternHash}
variable {after : NesTileTokenizer}

section

/-! ## One pattern -/

theorem lookup_eq_none_iff : tokenizer.tokenOf hash = none ↔
    tokenizer.hashToToken.lookup hash = none := Option.map_eq_none_iff

theorem tokenOf_learn (fresh : tokenizer.hashToToken.lookup hash = none) :
    (tokenizer.learn hash).tokenOf =
      Function.update tokenizer.tokenOf hash (some tokenizer.nextToken.toNat) := by
  funext other
  rw [tokenOf, learn, Dict.lookup_emplace_of_absent _ fresh, Function.update_apply]
  split
  · rfl
  · rfl

theorem toNat_add_one {token limit : TileToken} (room : token.toNat < limit.toNat) :
    (token + 1).toNat = token.toNat + 1 := by
  have small := limit.toNat_lt
  rw [UInt16.toNat_add]
  exact Nat.mod_eq_of_lt (show token.toNat + 1 < 2 ^ 16 by omega)

theorem Sound.learn (sound : tokenizer.Sound)
    (fresh : tokenizer.hashToToken.lookup hash = none)
    (room : tokenizer.nextToken.toNat < tokenizer.vocabSize.toNat) :
    (tokenizer.learn hash).Sound := by
  have next : (tokenizer.learn hash).nextToken.toNat = tokenizer.nextToken.toNat + 1 :=
    toNat_add_one room
  refine ⟨?_, ?_, ?_⟩
  · rw [tokenOf_learn fresh, next]
    exact sound.numbering.extend sound.next_pos (lookup_eq_none_iff.mpr fresh)
  · omega
  · change _ ≤ tokenizer.vocabSize.toNat
    omega

theorem tokenForHash_cases (tokenizer : NesTileTokenizer) (hash : TilePatternHash) :
    (∃ token, tokenizer.hashToToken.lookup hash = some token ∧
        tokenizer.tokenForHash (some hash) = (.ok token, tokenizer)) ∨
      (tokenizer.hashToToken.lookup hash = none ∧
        (tokenizer.frozen ∨ tokenizer.vocabSize.toNat ≤ tokenizer.nextToken.toNat) ∧
        ∃ message, tokenizer.tokenForHash (some hash) = (.error message, tokenizer)) ∨
      (tokenizer.hashToToken.lookup hash = none ∧ tokenizer.frozen = false ∧
        tokenizer.nextToken.toNat < tokenizer.vocabSize.toNat ∧
        tokenizer.tokenForHash (some hash) = (.ok tokenizer.nextToken, tokenizer.learn hash)) := by
  unfold tokenForHash
  dsimp only
  cases known : tokenizer.hashToToken.lookup hash with
  | some token => exact Or.inl ⟨token, rfl, rfl⟩
  | none =>
      right
      dsimp only
      by_cases frozen : tokenizer.frozen = true
      · rw [if_pos frozen]
        exact Or.inl ⟨rfl, Or.inl frozen, _, rfl⟩
      · rw [if_neg frozen]
        by_cases full : tokenizer.nextToken ≥ tokenizer.vocabSize
        · rw [if_pos full]
          exact Or.inl ⟨rfl, Or.inr (UInt16.le_iff_toNat_le.mp full), _, rfl⟩
        · rw [if_neg full]
          have room : ¬ tokenizer.vocabSize.toNat ≤ tokenizer.nextToken.toNat :=
            fun le => full (UInt16.le_iff_toNat_le.mpr le)
          exact Or.inr ⟨rfl, Bool.not_eq_true _ ▸ frozen, not_le.mp room, rfl⟩

/-- The vocabulary has at most grown. -/
structure Grown (before after : NesTileTokenizer) : Prop where
  vocabSize : after.vocabSize = before.vocabSize
  frozen : after.frozen = before.frozen
  tokens : ∀ hash token, before.hashToToken.lookup hash = some token →
    after.hashToToken.lookup hash = some token
  fixed : before.frozen → after.hashToToken = before.hashToToken

theorem Grown.refl (tokenizer : NesTileTokenizer) : Grown tokenizer tokenizer where
  vocabSize := rfl
  frozen := rfl
  tokens _ _ known := known
  fixed _ := rfl

theorem Grown.trans {before middle after : NesTileTokenizer} (first : Grown before middle)
    (second : Grown middle after) : Grown before after where
  vocabSize := second.vocabSize.trans first.vocabSize
  frozen := second.frozen.trans first.frozen
  tokens hash token known := second.tokens hash token (first.tokens hash token known)
  fixed frozen := (second.fixed (first.frozen.trans frozen)).trans (first.fixed frozen)

theorem grown_learn (fresh : tokenizer.hashToToken.lookup hash = none)
    (learning : tokenizer.frozen = false) : Grown tokenizer (tokenizer.learn hash) where
  vocabSize := rfl
  frozen := rfl
  tokens other token known := by
    rw [learn, Dict.lookup_emplace_of_absent _ fresh, if_neg, known]
    rintro rfl
    rw [fresh] at known
    exact absurd known nofun
  fixed frozen := Bool.noConfusion (learning.symm.trans frozen)

end

section

/-! ## A table of patterns -/

theorem remapFrom_cons_known {token : TileToken}
    (found : tokenizer.tokenForHash (some hash) = (.ok token, after)) (tileId : ℕ)
    (later : List TilePatternHash) :
    tokenizer.remapFrom tileId (hash :: later) =
      ((after.remapFrom (tileId + 1) later).1.map (token :: ·),
        (after.remapFrom (tileId + 1) later).2) := by
  rw [remapFrom, found]

theorem remapFrom_cons_refused {message : String}
    (found : tokenizer.tokenForHash (some hash) = (.error message, after)) (tileId : ℕ)
    (later : List TilePatternHash) :
    (tokenizer.remapFrom tileId (hash :: later)).1.toOption = none ∧
      (tokenizer.remapFrom tileId (hash :: later)).2 = after := by
  rw [remapFrom, found]
  exact ⟨rfl, rfl⟩

theorem toOption_map_isSome {α β : Type} (result : Except String α) (change : α → β) :
    (result.map change).toOption.isSome = result.toOption.isSome := by
  cases result with
  | error message => rfl
  | ok value => rfl

theorem remapFrom_of_closed
    (closed : tokenizer.frozen ∨ tokenizer.vocabSize.toNat ≤ tokenizer.nextToken.toNat)
    (tileId : ℕ) (hashes : List TilePatternHash) :
    (tokenizer.remapFrom tileId hashes).2 = tokenizer := by
  induction hashes generalizing tileId with
  | nil => rfl
  | cons hash later ih =>
      rcases tokenForHash_cases tokenizer hash with
        ⟨token, _, found⟩ | ⟨_, _, message, found⟩ | ⟨_, learning, room, _⟩
      · rw [remapFrom_cons_known found]
        exact ih _
      · exact (remapFrom_cons_refused found tileId later).2
      · rcases closed with frozen | full
        · exact Bool.noConfusion (learning.symm.trans frozen)
        · omega

theorem remapFrom_grown (sound : tokenizer.Sound) (tileId : ℕ) (hashes : List TilePatternHash) :
    (tokenizer.remapFrom tileId hashes).2.Sound ∧
      Grown tokenizer (tokenizer.remapFrom tileId hashes).2 := by
  induction hashes generalizing tokenizer tileId with
  | nil => exact ⟨sound, .refl tokenizer⟩
  | cons hash later ih =>
      rcases tokenForHash_cases tokenizer hash with
        ⟨token, _, found⟩ | ⟨_, _, message, found⟩ | ⟨fresh, learning, room, found⟩
      · rw [remapFrom_cons_known found]
        exact ih sound _
      · rw [(remapFrom_cons_refused found tileId later).2]
        exact ⟨sound, .refl tokenizer⟩
      · rw [remapFrom_cons_known found]
        obtain ⟨sound', grown⟩ := ih (sound.learn fresh room) (tileId + 1)
        exact ⟨sound', (grown_learn fresh learning).trans grown⟩

/-- While tokens are given, a table is accepted just when its new patterns fit, and a refusal leaves
the vocabulary full. -/
theorem remapFrom_learning (sound : tokenizer.Sound) (learning : tokenizer.frozen = false)
    (tileId : ℕ) (hashes : List TilePatternHash) :
    ((tokenizer.remapFrom tileId hashes).1.toOption.isSome ↔
        (Numbering.unnumbered tokenizer.tokenOf hashes).card ≤
          tokenizer.vocabSize.toNat - tokenizer.nextToken.toNat) ∧
      ((tokenizer.remapFrom tileId hashes).1.toOption = none →
        (tokenizer.remapFrom tileId hashes).2.nextToken.toNat = tokenizer.vocabSize.toNat) := by
  induction hashes generalizing tokenizer tileId with
  | nil =>
      refine ⟨iff_of_true rfl (Nat.zero_le _), fun refused => ?_⟩
      exact absurd refused nofun
  | cons hash later ih =>
      rcases tokenForHash_cases tokenizer hash with
        ⟨token, known, found⟩ | ⟨fresh, closed, message, found⟩ | ⟨fresh, _, room, found⟩
      · have numbered : tokenizer.tokenOf hash = some token.toNat := by
          rw [tokenOf, known, Option.map_some]
        rw [remapFrom_cons_known found, Numbering.unnumbered_cons_of_some numbered,
          toOption_map_isSome]
        obtain ⟨fits, full⟩ := ih sound learning (tileId + 1)
        refine ⟨fits, fun refused => full ?_⟩
        rw [← Option.not_isSome_iff_eq_none] at refused ⊢
        rwa [toOption_map_isSome] at refused
      · obtain ⟨refused, same⟩ := remapFrom_cons_refused found tileId later
        have full : tokenizer.vocabSize.toNat ≤ tokenizer.nextToken.toNat :=
          closed.resolve_left (by rw [learning]; exact Bool.false_ne_true)
        have some_fresh : 0 < (Numbering.unnumbered tokenizer.tokenOf (hash :: later)).card := by
          rw [Numbering.card_unnumbered_update (lookup_eq_none_iff.mpr fresh) later 0]
          exact Nat.succ_pos _
        rw [refused, same]
        refine ⟨iff_of_false Bool.false_ne_true (by omega), fun _ => ?_⟩
        exact le_antisymm sound.next_le full
      · rw [remapFrom_cons_known found, toOption_map_isSome,
          Numbering.card_unnumbered_update (lookup_eq_none_iff.mpr fresh) later
            tokenizer.nextToken.toNat, ← tokenOf_learn fresh]
        obtain ⟨fits, full⟩ := ih (sound.learn fresh room) learning (tileId + 1)
        have next : (tokenizer.learn hash).nextToken.toNat = tokenizer.nextToken.toNat + 1 :=
          toNat_add_one room
        have same : (tokenizer.learn hash).vocabSize = tokenizer.vocabSize := rfl
        rw [next, same] at fits
        refine ⟨fits.trans ?_, fun refused => full ?_⟩
        · omega
        · rw [← Option.not_isSome_iff_eq_none] at refused ⊢
          rwa [toOption_map_isSome] at refused

theorem failsCleanly_remap_iff (sound : tokenizer.Sound) (hashes : TileIdPatternHashTable) :
    tokenizer.FailsCleanly (.tileIdTokenRemapBuild hashes) ↔
      tokenizer.TakesTable (.tileIdTokenRemapBuild hashes) := by
  have succeeds : tokenizer.Succeeds (.tileIdTokenRemapBuild hashes) ↔
      (tokenizer.remapFrom 0 hashes.toList).1.toOption.isSome := by
    change ((tokenizer.remapFrom 0 hashes.toList).1.map _).toOption.isSome = true ↔ _
    rw [toOption_map_isSome]
  change (¬ tokenizer.Succeeds _ → (tokenizer.remapFrom 0 hashes.toList).2 = tokenizer) ↔ _
  rw [succeeds]
  constructor
  · intro clean
    by_cases frozen : tokenizer.frozen = true
    · exact Or.inl frozen
    · obtain ⟨fits, full⟩ :=
        remapFrom_learning sound (Bool.not_eq_true _ ▸ frozen) 0 hashes.toList
      by_cases accepted : (tokenizer.remapFrom 0 hashes.toList).1.toOption.isSome
      · exact Or.inr (Or.inr (fits.mp accepted))
      · have last := full (Option.not_isSome_iff_eq_none.mp accepted)
        rw [clean accepted] at last
        exact Or.inr (Or.inl (UInt16.toNat_inj.mp last))
  · rintro (frozen | full | few) refused
    · exact remapFrom_of_closed (Or.inl frozen) 0 _
    · exact remapFrom_of_closed (Or.inr (le_of_eq (congrArg UInt16.toNat full).symm)) 0 _
    · by_cases frozen : tokenizer.frozen = true
      · exact remapFrom_of_closed (Or.inl frozen) 0 _
      · exact absurd ((remapFrom_learning sound (Bool.not_eq_true _ ▸ frozen) 0
          hashes.toList).1.mpr few) refused

end

section

variable (hashes : List TilePatternHash)

/-! ## All patterns at once -/

instance : Std.Antisymm fun first second : TilePatternHash => first ≤ second :=
  ⟨fun _ _ => UInt64.le_antisymm⟩

instance : IsTrans TilePatternHash fun first second => first ≤ second :=
  ⟨fun _ _ _ => UInt64.le_trans⟩

instance : Std.Total fun first second : TilePatternHash => first ≤ second :=
  ⟨fun _ _ => UInt64.le_total _ _⟩

theorem sorted_insertionSort :
    (hashes.insertionSort (· ≤ ·)).Pairwise fun first second => first ≤ second :=
  List.pairwise_insertionSort _ _

theorem sortedUnique_eq : sortedUnique hashes = (hashes.insertionSort (· ≤ ·)).dedup :=
  (sorted_insertionSort hashes).destutter_eq_dedup

theorem nodup_sortedUnique : (sortedUnique hashes).Nodup := by
  rw [sortedUnique_eq]
  exact List.nodup_dedup _

theorem mem_sortedUnique {hashes : List TilePatternHash} :
    hash ∈ sortedUnique hashes ↔ hash ∈ hashes := by
  rw [sortedUnique_eq, List.mem_dedup, List.mem_insertionSort]

theorem sortedUnique_congr {hashes others : List TilePatternHash}
    (same : ∀ hash, hash ∈ hashes ↔ hash ∈ others) : sortedUnique hashes = sortedUnique others := by
  have sorted (hashes : List TilePatternHash) :
      (sortedUnique hashes).Pairwise fun first second => first ≤ second := by
    rw [sortedUnique_eq]
    exact (sorted_insertionSort hashes).sublist (List.dedup_sublist _)
  refine List.Perm.eq_of_pairwise (fun _ _ _ _ => UInt64.le_antisymm) (sorted hashes)
    (sorted others) ?_
  apply (List.perm_ext_iff_of_nodup (nodup_sortedUnique _) (nodup_sortedUnique _)).mpr
  intro hash
  rw [mem_sortedUnique, mem_sortedUnique, same]

theorem foldl_assign {hashes : List TilePatternHash} (distinct : hashes.Nodup)
    (vocabulary : Dict TilePatternHash TileToken × TileToken)
    (fresh : ∀ hash ∈ hashes, vocabulary.1.lookup hash = none) {limit : TileToken}
    (room : vocabulary.2.toNat + hashes.length ≤ limit.toNat)
    (numbering : Numbering (fun hash => (vocabulary.1.lookup hash).map UInt16.toNat) 1
      vocabulary.2.toNat) (started : 1 ≤ vocabulary.2.toNat) :
    (hashes.foldl assign vocabulary).2.toNat = vocabulary.2.toNat + hashes.length ∧
      Numbering (fun hash => ((hashes.foldl assign vocabulary).1.lookup hash).map UInt16.toNat) 1
        (hashes.foldl assign vocabulary).2.toNat := by
  induction hashes generalizing vocabulary with
  | nil => exact ⟨rfl, numbering⟩
  | cons hash later ih =>
      obtain ⟨new, distinct'⟩ := List.nodup_cons.mp distinct
      have absent := fresh hash List.mem_cons_self
      have next_lt : vocabulary.2.toNat < limit.toNat := by
        rw [List.length_cons] at room
        omega
      have one_more : (assign vocabulary hash).2.toNat = vocabulary.2.toNat + 1 :=
        toNat_add_one next_lt
      have unnumbered : (vocabulary.1.lookup hash).map UInt16.toNat = none := by
        rw [absent]
        rfl
      have step := numbering.extend started unnumbered
      have looked : (fun other => ((assign vocabulary hash).1.lookup other).map UInt16.toNat) =
          Function.update (fun other => (vocabulary.1.lookup other).map UInt16.toNat) hash
            (some vocabulary.2.toNat) := by
        funext other
        rw [assign, Dict.lookup_emplace_of_absent _ absent, Function.update_apply]
        split
        · rfl
        · rfl
      have fresh' : ∀ other ∈ later, (assign vocabulary hash).1.lookup other = none := by
        intro other listed
        rw [assign, Dict.lookup_emplace_of_absent _ absent, if_neg,
          fresh other (List.mem_cons_of_mem _ listed)]
        rintro rfl
        exact new listed
      have room' : (assign vocabulary hash).2.toNat + later.length ≤ limit.toNat := by
        rw [List.length_cons] at room
        omega
      rw [← looked, ← one_more] at step
      obtain ⟨total, rest⟩ := ih distinct' (assign vocabulary hash) fresh' room' step (by omega)
      refine ⟨?_, rest⟩
      rw [List.foldl_cons, total, one_more, List.length_cons]
      omega

theorem Sound.built (sound : tokenizer.Sound) (hashes : List TilePatternHash) :
    (tokenizer.buildVocabulary hashes).2.Sound ∧
      (tokenizer.buildVocabulary hashes).2.vocabSize = tokenizer.vocabSize := by
  unfold buildVocabulary
  dsimp only
  split
  · exact ⟨sound, rfl⟩
  · rename_i fits
    have room : 1 + (sortedUnique hashes).length ≤ tokenizer.vocabSize.toNat := by omega
    obtain ⟨next, numbering⟩ := foldl_assign (nodup_sortedUnique hashes) (∅, voidToken + 1)
      (fun _ _ => rfl) room (Numbering.empty 1) (le_refl 1)
    refine ⟨⟨numbering, ?_, ?_⟩, rfl⟩
    · change 1 ≤ ((sortedUnique hashes).foldl assign (∅, voidToken + 1)).2.toNat
      rw [next]
      exact Nat.le_add_right 1 _
    · change ((sortedUnique hashes).foldl assign (∅, voidToken + 1)).2.toNat ≤ _
      rw [next]
      exact room

theorem failsCleanly_buildVocabulary (tokenizer : NesTileTokenizer)
    (hashes : List TilePatternHash) : tokenizer.FailsCleanly (.buildVocabulary hashes) := by
  intro failed
  change (tokenizer.buildVocabulary hashes).2 = tokenizer
  by_cases many : (sortedUnique hashes).length ≥ tokenizer.vocabSize.toNat
  · rw [buildVocabulary, if_pos many]
  · refine absurd ?_ failed
    rw [Succeeds, call, buildVocabulary, if_neg many]
    rfl

end

section

/-! ## Every run -/

variable {vocabSize : TileToken}

theorem sound_construct {start : NesTileTokenizer} (constructed : construct vocabSize = some start) :
    start.Sound ∧ start.vocabSize = vocabSize := by
  unfold construct at constructed
  split at constructed
  · rename_i large
    cases constructed
    refine ⟨⟨Numbering.empty 1, le_refl 1, ?_⟩, rfl⟩
    exact (UInt16.lt_iff_toNat_lt.mp large).le
  · exact absurd constructed nofun

theorem Sound.call_grown (sound : tokenizer.Sound) (hash : Option TilePatternHash) :
    (tokenizer.tokenForHash hash).2.Sound ∧ Grown tokenizer (tokenizer.tokenForHash hash).2 := by
  cases hash with
  | none => exact ⟨sound, .refl tokenizer⟩
  | some hash =>
      rcases tokenForHash_cases tokenizer hash with
        ⟨token, _, found⟩ | ⟨_, _, message, found⟩ | ⟨fresh, learning, room, found⟩
      · rw [found]
        exact ⟨sound, .refl tokenizer⟩
      · rw [found]
        exact ⟨sound, .refl tokenizer⟩
      · rw [found]
        exact ⟨sound.learn fresh room, grown_learn fresh learning⟩

theorem Sound.call (sound : tokenizer.Sound) (call : Call) :
    (tokenizer.call call).2.Sound ∧ (tokenizer.call call).2.vocabSize = tokenizer.vocabSize := by
  cases call with
  | buildVocabulary hashes => exact sound.built hashes
  | tokenForHash hash =>
      obtain ⟨sound', grown⟩ := sound.call_grown hash
      exact ⟨sound', grown.vocabSize⟩
  | tileIdTokenRemapBuild hashes =>
      obtain ⟨sound', grown⟩ := remapFrom_grown sound 0 hashes.toList
      exact ⟨sound', grown.vocabSize⟩
  | freeze => exact ⟨⟨sound.numbering, sound.next_pos, sound.next_le⟩, rfl⟩
  | reset => exact ⟨⟨Numbering.empty 1, le_refl 1, sound.next_pos.trans sound.next_le⟩, rfl⟩

theorem Grown.keeps {call : Call} (grown : Grown tokenizer after) : tokenizer.Keeps call after where
  frozen frozen _ := grown.fixed frozen
  tokens _ := grown.tokens

theorem Sound.keeps (sound : tokenizer.Sound) (call : Call) :
    tokenizer.Keeps call (tokenizer.call call).2 := by
  cases call with
  | buildVocabulary hashes =>
      by_cases built : tokenizer.Succeeds (.buildVocabulary hashes)
      · refine ⟨fun _ frozen => ?_, fun restarts => absurd built restarts⟩
        change (tokenizer.buildVocabulary hashes).2.frozen = true at frozen
        by_cases many : (sortedUnique hashes).length ≥ tokenizer.vocabSize.toNat
        · change (tokenizer.buildVocabulary hashes).2.hashToToken = _
          rw [buildVocabulary, if_pos many]
        · rw [buildVocabulary, if_neg many] at frozen
          exact absurd frozen Bool.false_ne_true
      · rw [failsCleanly_buildVocabulary tokenizer hashes built]
        exact (Grown.refl tokenizer).keeps
  | tokenForHash hash => exact (sound.call_grown hash).2.keeps
  | tileIdTokenRemapBuild hashes => exact (remapFrom_grown sound 0 hashes.toList).2.keeps
  | freeze => exact ⟨fun _ _ => rfl, fun _ _ _ known => known⟩
  | reset => exact ⟨fun _ frozen => absurd frozen Bool.false_ne_true, fun kept => absurd trivial kept⟩

theorem Sound.failsCleanly_iff (sound : tokenizer.Sound) (call : Call) :
    tokenizer.FailsCleanly call ↔ tokenizer.TakesTable call := by
  cases call with
  | buildVocabulary hashes =>
      exact iff_of_true (failsCleanly_buildVocabulary tokenizer hashes) trivial
  | tokenForHash hash =>
      refine iff_of_true (fun failed => ?_) trivial
      change (tokenizer.tokenForHash hash).2 = tokenizer
      cases hash with
      | none => rfl
      | some hash =>
          rcases tokenForHash_cases tokenizer hash with
            ⟨token, _, found⟩ | ⟨_, _, message, found⟩ | ⟨_, _, _, found⟩
          · rw [found]
          · rw [found]
          · refine absurd ?_ failed
            change ((tokenizer.tokenForHash (some hash)).1.map _).toOption.isSome = true
            rw [found]
            rfl
  | tileIdTokenRemapBuild hashes => exact failsCleanly_remap_iff sound hashes
  | freeze => exact iff_of_true (fun failed => absurd rfl failed) trivial
  | reset => exact iff_of_true (fun failed => absurd rfl failed) trivial

theorem sound_of_reachable (reached : (machine vocabSize).Reachable tokenizer) :
    tokenizer.Sound ∧ tokenizer.vocabSize = vocabSize := by
  refine @Machine.Reachable.invariant _ _ _
    (fun state => state.Sound ∧ state.vocabSize = vocabSize) ?_ ?_ _ reached
  · intro start constructed
    exact sound_construct constructed
  · intro before call after holds moved
    obtain ⟨sound, size⟩ := holds
    obtain ⟨sound', same⟩ := sound.call call
    change (before.call call).2 = after at moved
    rw [moved] at sound' same
    exact ⟨sound', same.trans size⟩

/-- A table of two patterns for a vocabulary of one. -/
def twoPatterns : TileIdPatternHashTable := Vector.ofFn fun tileId => if tileId = 0 then 0 else 1

theorem reachable_fresh : (machine 2).Reachable { vocabSize := 2 } :=
  ⟨_, [], rfl, .nil _⟩

end

end NesTileTokenizer

end DirtSim
