import Mathlib.Data.List.Induction
import Mathlib.Data.List.Nodup
import Mathlib.Tactic.Common

/-! # Greedy choices

Three loops that choose entries of a list. A scan keeps the entry that it has found to beat the
one before (`leader`); repeated, with the choices so far in view, it fills a number of slots
(`greedy`); and going down a list fills what room is left (`fillUp`). A list that is sorted
first only needs an order of its own entries.
-/

namespace DirtSim.Foundation

variable {α β : Type*}

theorem pairwise_mergeSort_of_mem {entries : List α} {notAfter : α → α → Bool}
    (trans : ∀ first ∈ entries, ∀ second ∈ entries, ∀ third ∈ entries,
      notAfter first second = true → notAfter second third = true → notAfter first third = true)
    (total : ∀ first ∈ entries, ∀ second ∈ entries,
      (notAfter first second || notAfter second first) = true) :
    (entries.mergeSort notAfter).Pairwise fun first second => notAfter first second = true := by
  let order (first second : { entry // entry ∈ entries }) : Bool := notAfter first second
  have sorted : (entries.attach.mergeSort order).Pairwise fun first second =>
      order first second = true := by
    refine List.pairwise_mergeSort (fun first second third => ?_) (fun first second => ?_) _
    · exact trans _ first.2 _ second.2 _ third.2
    · exact total _ first.2 _ second.2
  have same : (entries.attach.mergeSort order).map Subtype.val = entries.mergeSort notAfter := by
    rw [List.map_mergeSort (s := notAfter) fun _ _ _ _ => rfl, List.attach_map_subtype_val]
  rw [← same]
  exact List.pairwise_map.mpr sorted

section

variable (beats : β → β → Bool) (score : α → Option β)

/-- One entry of a scan, which may take the place of the one that leads. -/
def challenge (best : Option (α × β)) (entry : α) : Option (α × β) :=
  match score entry with
  | none => best
  | some value =>
      match best with
      | none => some (entry, value)
      | some incumbent => if beats value incumbent.2 then some (entry, value) else some incumbent

def leader (entries : List α) : Option (α × β) := entries.foldl (challenge beats score) none

/-- Who beats the one that leads is beaten by nobody that could not beat it. -/
structure Steady : Prop where
  irrefl : ∀ value, beats value value = false
  keeps : ∀ old new other, beats new old = true → beats other old = false → beats other new = false

variable {beats score}

/-- What holds of the one that leads after some entries. -/
def Unbeaten (beats : β → β → Bool) (score : α → Option β) (seen : List α) (best : Option (α × β)) :
    Prop :=
  match best with
  | none => ∀ entry ∈ seen, score entry = none
  | some (entry, value) => entry ∈ seen ∧ score entry = some value ∧
      ∀ other ∈ seen, ∀ otherValue, score other = some otherValue → beats otherValue value = false

theorem Unbeaten.challenge (steady : Steady beats) {seen : List α} {best : Option (α × β)}
    (holds : Unbeaten beats score seen best) (entry : α) :
    Unbeaten beats score (seen ++ [entry]) (challenge beats score best entry) := by
  have extend {good : α → Prop} (before : ∀ other ∈ seen, good other) (here : good entry) :
      ∀ other ∈ seen ++ [entry], good other := fun other member =>
    (List.mem_append.mp member).elim (before other) fun last => List.mem_singleton.mp last ▸ here
  unfold Foundation.challenge
  cases scored : score entry with
  | none =>
      cases best with
      | none => exact extend holds scored
      | some incumbent =>
          obtain ⟨member, value, unbeaten⟩ := holds
          refine ⟨List.mem_append_left _ member, value, extend unbeaten ?_⟩
          intro _ some
          rw [scored] at some
          cases some
  | some value =>
      have own : entry ∈ seen ++ [entry] := List.mem_append_right _ List.mem_cons_self
      have alone : ∀ otherValue, score entry = some otherValue → beats otherValue value = false := by
        intro otherValue same
        rw [scored] at same
        cases same
        exact steady.irrefl value
      cases best with
      | none =>
          refine ⟨own, scored, extend (fun other member otherValue some => ?_) alone⟩
          rw [holds other member] at some
          cases some
      | some incumbent =>
          obtain ⟨member, kept, unbeaten⟩ := holds
          dsimp only
          split
          case isTrue wins =>
              exact ⟨own, scored, extend (fun other earlier otherValue some =>
                steady.keeps _ _ _ wins (unbeaten other earlier otherValue some)) alone⟩
          case isFalse loses =>
              refine ⟨List.mem_append_left _ member, kept, extend unbeaten ?_⟩
              intro otherValue same
              rw [scored] at same
              cases same
              exact Bool.eq_false_iff.mpr loses

theorem unbeaten_foldl (steady : Steady beats) (entries : List α) {seen : List α}
    {best : Option (α × β)} (holds : Unbeaten beats score seen best) :
    Unbeaten beats score (seen ++ entries) (entries.foldl (challenge beats score) best) := by
  induction entries generalizing seen best with
  | nil => rwa [List.append_nil]
  | cons entry entries ih =>
      have rest := ih (holds.challenge steady entry)
      rwa [List.append_assoc] at rest

/-- **The leader of a scan** is beaten by nobody. -/
theorem unbeaten_leader (steady : Steady beats) (entries : List α) :
    Unbeaten beats score entries (leader beats score entries) := by
  have nothing : Unbeaten beats score [] none := fun _ none => absurd none List.not_mem_nil
  exact unbeaten_foldl steady entries nothing

theorem leader_snoc (entries : List α) (entry : α) :
    leader beats score (entries ++ [entry]) =
      challenge beats score (leader beats score entries) entry := List.foldl_append

theorem leader_congr {score' : α → Option β} {entries : List α}
    (same : ∀ entry ∈ entries, score entry = score' entry) :
    leader beats score entries = leader beats score' entries := by
  refine List.foldl_ext _ _ none fun best entry member => ?_
  rw [challenge, challenge, same entry member]

theorem leader_mem {entries : List α} {entry : α} {value : β}
    (leads : leader beats score entries = some (entry, value)) :
    entry ∈ entries ∧ score entry = some value := by
  induction entries using List.reverseRecOn with
  | nil => cases leads
  | append_singleton entries last ih =>
      have kept (earlier : leader beats score entries = some (entry, value)) :
          entry ∈ entries ++ [last] ∧ score entry = some value :=
        ⟨List.mem_append_left _ (ih earlier).1, (ih earlier).2⟩
      rw [leader_snoc, challenge] at leads
      cases scored : score last with
      | none =>
          rw [scored] at leads
          exact kept leads
      | some lastValue =>
          have here : last ∈ entries ++ [last] := List.mem_append_right _ List.mem_cons_self
          rw [scored] at leads
          cases before : leader beats score entries with
          | none =>
              rw [before] at leads
              cases leads
              exact ⟨here, scored⟩
          | some incumbent =>
              rw [before] at leads
              dsimp only at leads
              split at leads
              case isTrue wins =>
                  cases leads
                  exact ⟨here, scored⟩
              case isFalse loses => exact kept (before.trans leads)

/-- The leader has beaten one that nobody before it could beat. -/
theorem leader_first (steady : Steady beats) {entries : List α} {entry : α} {value : β}
    (leads : leader beats score entries = some (entry, value)) :
    ∃ before after, entries = before ++ entry :: after ∧
      ∀ other ∈ before, ∀ otherValue, score other = some otherValue →
        ∃ old, beats value old = true ∧ beats otherValue old = false := by
  induction entries using List.reverseRecOn with
  | nil => cases leads
  | append_singleton entries last ih =>
      have kept (earlier : leader beats score entries = some (entry, value)) :
          ∃ before after, entries ++ [last] = before ++ entry :: after ∧
            ∀ other ∈ before, ∀ otherValue, score other = some otherValue →
              ∃ old, beats value old = true ∧ beats otherValue old = false := by
        obtain ⟨before, after, split, weaker⟩ := ih earlier
        refine ⟨before, after ++ [last], ?_, weaker⟩
        rw [split, List.append_assoc, List.cons_append]
      have unbeaten : Unbeaten beats score entries (leader beats score entries) :=
        unbeaten_leader steady entries
      rw [leader_snoc, challenge] at leads
      cases scored : score last with
      | none =>
          rw [scored] at leads
          exact kept leads
      | some lastValue =>
          rw [scored] at leads
          cases before : leader beats score entries with
          | none =>
              rw [before] at leads unbeaten
              cases leads
              refine ⟨entries, [], rfl, fun other member otherValue some => ?_⟩
              rw [unbeaten other member] at some
              cases some
          | some incumbent =>
              rw [before] at leads unbeaten
              dsimp only at leads
              split at leads
              case isTrue wins =>
                  cases leads
                  exact ⟨entries, [], rfl, fun other member otherValue some =>
                    ⟨incumbent.2, wins, unbeaten.2.2 other member otherValue some⟩⟩
              case isFalse loses =>
                  exact kept (before.trans leads)

end

section

/-- Fills some slots one after another, for as long as there is a next choice. -/
def greedy (next : List α → Option α) : ℕ → List α → List α
  | 0, chosen => chosen
  | slots + 1, chosen =>
      match next chosen with
      | none => chosen
      | some entry => greedy next slots (chosen ++ [entry])

variable (next : List α → Option α)

/-- **Greedy choices.** The first ones stay, no more than the slots are filled, and each entry is
the next choice after those before it. -/
theorem greedy_spec (slots : ℕ) (chosen : List α) :
    ∃ added, greedy next slots chosen = chosen ++ added ∧ added.length ≤ slots ∧
      ∀ before entry after, added = before ++ entry :: after →
        next (chosen ++ before) = some entry := by
  induction slots generalizing chosen with
  | zero =>
      refine ⟨[], (List.append_nil _).symm, Nat.le_refl _, fun before entry after none => ?_⟩
      exact absurd none.symm (List.append_ne_nil_of_right_ne_nil _ (List.cons_ne_nil _ _))
  | succ slots ih =>
      unfold greedy
      cases chose : next chosen with
      | none =>
          refine ⟨[], (List.append_nil _).symm, Nat.zero_le _, fun before entry after none => ?_⟩
          exact absurd none.symm (List.append_ne_nil_of_right_ne_nil _ (List.cons_ne_nil _ _))
      | some entry =>
          obtain ⟨added, rest, few, each⟩ := ih (chosen ++ [entry])
          refine ⟨entry :: added, ?_, Nat.succ_le_succ few, fun before other after split => ?_⟩
          · exact rest.trans (List.append_assoc _ _ _)
          · cases before with
            | nil =>
                rw [List.append_nil]
                rw [List.nil_append, List.cons.injEq] at split
                exact split.1 ▸ chose
            | cons first before =>
                rw [List.cons_append, List.cons.injEq] at split
                obtain ⟨rfl, split⟩ := split
                have later := each before other after split
                rwa [List.append_assoc, List.singleton_append] at later

theorem nodup_greedy {slots : ℕ} {chosen : List α} (distinct : chosen.Nodup)
    (fresh : ∀ chosen entry, next chosen = some entry → entry ∉ chosen) :
    (greedy next slots chosen).Nodup := by
  induction slots generalizing chosen with
  | zero => exact distinct
  | succ slots ih =>
      unfold greedy
      cases chose : next chosen with
      | none => exact distinct
      | some entry =>
          exact ih (List.nodup_append.mpr ⟨distinct, List.nodup_singleton _,
            fun old member new here same =>
              fresh chosen entry chose (List.mem_singleton.mp here ▸ same ▸ member)⟩)

end

section

variable [DecidableEq α]

/-- Takes entries that are not there yet while there is room. -/
def fillUp (room : ℕ) (kept : List α) (entries : List α) : List α :=
  entries.foldl
    (fun kept entry => if room ≤ kept.length ∨ entry ∈ kept then kept else kept ++ [entry]) kept

variable {room : ℕ}

theorem fillUp_append (kept first second : List α) :
    fillUp room kept (first ++ second) = fillUp room (fillUp room kept first) second :=
  List.foldl_append

theorem fillUp_fresh {kept entries : List α} (distinct : (kept ++ entries).Nodup)
    (fits : (kept ++ entries).length ≤ room) : fillUp room kept entries = kept ++ entries := by
  induction entries generalizing kept with
  | nil => exact (List.append_nil kept).symm
  | cons entry entries ih =>
      have split : kept ++ entry :: entries = kept ++ [entry] ++ entries := by
        rw [List.append_assoc, List.singleton_append]
      have fresh : entry ∉ kept := fun inside =>
        (List.nodup_append.mp distinct).2.2 entry inside entry List.mem_cons_self rfl
      have some_room : ¬ room ≤ kept.length := by
        rw [List.length_append, List.length_cons] at fits
        omega
      rw [split] at distinct fits ⊢
      rw [fillUp, List.foldl_cons, if_neg (not_or.mpr ⟨some_room, fresh⟩)]
      exact ih distinct fits

/-- **Filling up.** What is added was not there before, there is no more than the room, and every
entry is kept or comes after all that were added, once the room is full. -/
theorem fillUp_spec {kept : List α} (distinct : kept.Nodup) (fits : kept.length ≤ room)
    {entries : List α} {before : α → α → Prop} (ordered : entries.Pairwise before) :
    ∃ added, fillUp room kept entries = kept ++ added ∧ (kept ++ added).Nodup ∧
      (kept ++ added).length ≤ room ∧ (∀ entry ∈ added, entry ∈ entries) ∧
      ∀ left ∈ entries, left ∉ kept ++ added →
        (kept ++ added).length = room ∧ ∀ entry ∈ added, before entry left := by
  induction entries generalizing kept with
  | nil =>
      refine ⟨[], (List.append_nil _).symm, ?_, ?_, fun _ none => none, fun _ none => ?_⟩
      · rwa [List.append_nil]
      · rwa [List.append_nil]
      · cases none
  | cons entry entries ih =>
      obtain ⟨first, ordered'⟩ := List.pairwise_cons.mp ordered
      by_cases skipped : room ≤ kept.length ∨ entry ∈ kept
      · obtain ⟨added, filled, distinct', fits', known, left⟩ := ih distinct fits ordered'
        refine ⟨added, ?_, distinct', fits', fun other member =>
          List.mem_cons_of_mem _ (known other member), fun other member out => ?_⟩
        · rw [fillUp, List.foldl_cons, if_pos skipped]
          exact filled
        · rcases List.mem_cons.mp member with rfl | later
          · have full : room ≤ kept.length := skipped.resolve_right fun inside =>
              out (List.mem_append_left _ inside)
            have nothing : added = [] := by
              rw [List.length_append] at fits'
              exact List.length_eq_zero_iff.mp (by omega)
            subst nothing
            rw [List.append_nil] at fits' ⊢
            exact ⟨Nat.le_antisymm fits' full, fun _ none => absurd none List.not_mem_nil⟩
          · exact left other later out
      · obtain ⟨some_room, fresh⟩ := not_or.mp skipped
        have distinct₁ : (kept ++ [entry]).Nodup := List.nodup_append.mpr
          ⟨distinct, List.nodup_singleton _, fun old member new here same =>
            fresh (List.mem_singleton.mp here ▸ same ▸ member)⟩
        have fits₁ : (kept ++ [entry]).length ≤ room := by
          rw [List.length_append, List.length_singleton]
          omega
        obtain ⟨added, filled, distinct', fits', known, left⟩ := ih distinct₁ fits₁ ordered'
        rw [List.append_assoc, List.singleton_append] at filled distinct' fits' left
        refine ⟨entry :: added, ?_, distinct', fits', fun other member => ?_,
          fun other member out => ?_⟩
        · rw [fillUp, List.foldl_cons, if_neg skipped]
          exact filled
        · exact (List.mem_cons.mp member).elim (fun same => same ▸ List.mem_cons_self)
            fun later => List.mem_cons_of_mem _ (known other later)
        · rcases List.mem_cons.mp member with rfl | later
          · exact absurd (List.mem_append_right _ List.mem_cons_self) out
          · obtain ⟨full, ahead⟩ := left other later out
            refine ⟨full, fun some_entry member => ?_⟩
            rcases List.mem_cons.mp member with rfl | behind
            · exact first other later
            · exact ahead some_entry behind

end

end DirtSim.Foundation
