import FeedArchive.Program.Stage
import FeedArchive.Proofs.Lists
import FeedArchive.Proofs.Program.Run
import FeedArchive.Search.Store
import Mathlib.Data.List.Perm.Subperm

/-!
# Looking candidates up

What a check for existence asks of a store and what it makes of the answer, whatever the store
answers: keys that it was not asked for, keys more than once, a failure, or an answer that comes too
late. `Marks` says which map is the right one for an answer, in terms of the candidates and the keys
alone, and `Store.runIn_lookUp_recorded` that it is returned after a single question, or that the
failure is.
-/

namespace FeedArchive

open Attempt (runIn)

/-- The map has an entry for each candidate that is among the keys, with the value `true`, and no
other one. -/
structure Marks (candidates found : List String) (map : ExistenceMap) : Prop where
  nodup : (map.map Prod.fst).Nodup
  mem_iff : ∀ entry, entry ∈ map ↔ entry.1 ∈ candidates ∧ entry.1 ∈ found ∧ entry.2 = true

namespace Marks

variable {candidates found : List String} {map : ExistenceMap}

/-- There are no more entries than there are different candidates. -/
theorem length_le (h : Marks candidates found map) :
    map.length ≤ (distinct candidates).length := by
  have hsub : map.map Prod.fst ⊆ distinct candidates := by
    intro u hu
    obtain ⟨entry, hentry, rfl⟩ := List.mem_map.mp hu
    exact mem_distinct.mpr ((h.mem_iff entry).mp hentry).1
  have hle := (List.subperm_of_subset h.nodup hsub).length_le
  rwa [List.length_map] at hle

/-- The map that is made of the keys found. -/
theorem existing (candidates found : List String) :
    Marks candidates found (existing candidates found) := by
  have hmem : ∀ u, u ∈ distinct (found.filter candidates.contains) ↔
      u ∈ candidates ∧ u ∈ found := by
    intro u
    rw [mem_distinct, List.mem_filter, List.contains_iff_mem, and_comm]
  constructor
  · have hkeys : (FeedArchive.existing candidates found).map Prod.fst
        = distinct (found.filter candidates.contains) := by
      rw [FeedArchive.existing, List.map_map]
      exact List.map_id _
    rw [hkeys]
    exact nodup_distinct _
  · rintro ⟨u, b⟩
    rw [FeedArchive.existing, List.mem_map]
    constructor
    · rintro ⟨v, hv, heq⟩
      obtain ⟨rfl, rfl⟩ := Prod.mk.inj heq
      exact ⟨((hmem v).mp hv).1, ((hmem v).mp hv).2, rfl⟩
    · rintro ⟨hcandidate, hfound, htrue⟩
      exact ⟨u, (hmem u).mpr ⟨hcandidate, hfound⟩, Prod.ext rfl htrue.symm⟩

/-- It does not matter how often a candidate is given. -/
theorem of_distinct (h : Marks (distinct candidates) found map) : Marks candidates found map := by
  refine ⟨h.nodup, fun entry => ?_⟩
  rw [h.mem_iff, mem_distinct]

/-- Nor does it matter in which order candidates and keys are given, or how often: the entries of
the map are the same. -/
theorem perm {candidates' found' : List String} {map' : ExistenceMap}
    (h : Marks candidates found map) (h' : Marks candidates' found' map')
    (hcandidates : ∀ u, u ∈ candidates' ↔ u ∈ candidates) (hfound : ∀ u, u ∈ found' ↔ u ∈ found) :
    map'.Perm map := by
  rw [List.perm_ext_iff_of_nodup h'.nodup.of_map h.nodup.of_map]
  intro entry
  rw [h'.mem_iff, h.mem_iff, hcandidates, hfound]

/-- A candidate exists if it has been found. -/
theorem isSome_lookup (h : Marks candidates found map) {u : String} :
    (map.lookup u).isSome = true ↔ u ∈ candidates ∧ u ∈ found := by
  rw [List.lookup_isSome_iff]
  constructor
  · rintro ⟨entry, hentry, heq⟩
    obtain rfl := eq_of_beq heq
    exact ⟨((h.mem_iff entry).mp hentry).1, ((h.mem_iff entry).mp hentry).2.1⟩
  · rintro ⟨hcandidate, hfound⟩
    exact ⟨(u, true), (h.mem_iff _).mpr ⟨hcandidate, hfound, rfl⟩, beq_self_eq_true u⟩

end Marks

/-- If keys are looked up for all members of a list, a member is not found if its key has not been
returned. -/
theorem filter_isNone_lookup_existing {α : Type} (key : α → String) (as : List α)
    (found : List String) :
    as.filter (fun a => ((existing (distinct (as.map key)) found).lookup (key a)).isNone)
      = as.filter fun a => key a ∉ found := by
  apply List.filter_congr
  intro a ha
  have hcandidate : key a ∈ distinct (as.map key) := mem_distinct.mpr (List.mem_map_of_mem ha)
  rw [Bool.eq_iff_iff, decide_eq_true_iff, Option.isNone_iff_eq_none,
    ← Option.not_isSome_iff_eq_none, (Marks.existing _ _).isSome_lookup]
  exact not_congr (and_iff_right hcandidate)

namespace Store

variable {σ : Type} (world : World σ) (s : σ)

/-- The store is asked about candidates if there are any, and waited for only so long. -/
theorem runIn_lookUp {candidates : List String} (hne : candidates ≠ []) (timeout : Span) :
    let unique := distinct candidates
    let answered := world.answer (.members unique) s
    runIn world s (Store.provided.lookUp candidates timeout)
      = if timeout.nanos < answered.1.latency.nanos then
          (.error (.storage (.timeout "URL一括存在確認" timeout)),
            (world.answer (.log (.storeTimedOut "URL一括存在確認" timeout)) answered.2).2)
        else match answered.1.outcome with
          | .error cause => (.error (.storage cause), answered.2)
          | .ok found =>
            (.ok (existing unique found), (world.answer (.log (.lookedUp candidates.length
              unique.length (existing unique found).length)) answered.2).2) := by
  intro unique answered
  have hempty : ¬ candidates.isEmpty = true := fun h => hne (List.isEmpty_iff.mp h)
  rw [lookUp, if_neg hempty, Attempt.runIn_bind, Attempt.runIn_mapError,
    Attempt.runIn_withDeadline, run_provided_members]
  by_cases hlate : timeout.nanos < answered.1.latency.nanos
  · rw [if_pos hlate, if_pos hlate]
    rfl
  · rw [if_neg hlate, if_neg hlate]
    cases houtcome : answered.1.outcome with
    | error cause => rfl
    | ok found => rfl

/-- Candidates are looked up with one question, for the different ones in the order in which they
first appear, and with none if there are no candidates. The result is the map that the answer marks;
a failure and an answer that comes too late leave no map. -/
theorem runIn_lookUp_recorded (candidates : List String) (timeout : Span) :
    let run := runIn world.recorded (s, []) (Store.provided.lookUp candidates timeout)
    if candidates = [] then run.1 = .ok [] ∧ run.2.2 = []
    else ∃ unique, run.2.2.filterMap Request.keys? = [unique] ∧
      FirstAppearances candidates unique ∧
      let answer := (world.answer (.members unique) s).1
      if timeout.nanos < answer.latency.nanos then
        run.1 = .error (.storage (.timeout "URL一括存在確認" timeout))
      else match answer.outcome with
        | .error cause => run.1 = .error (.storage cause)
        | .ok found =>
          ∃ map, run.1 = .ok map ∧ Marks candidates found map ∧ map.length ≤ unique.length := by
  intro run
  by_cases hnil : candidates = []
  · subst hnil
    exact ⟨rfl, rfl⟩
  rw [if_neg hnil]
  have hrun : run = _ := runIn_lookUp world.recorded (s, []) hnil timeout
  refine ⟨distinct candidates, ?_, firstAppearances_distinct candidates, ?_⟩
  · rw [hrun]
    split
    · rfl
    · split
      · rfl
      · rfl
  -- lateness is seen before anything else of the answer
  · intro answer
    by_cases hlate : timeout.nanos < answer.latency.nanos
    · rw [if_pos hlate]
      exact congrArg Prod.fst (hrun.trans (if_pos hlate))
    · rw [if_neg hlate]
      replace hrun := hrun.trans (if_neg hlate)
      have houtcome : (world.recorded.answer (.members (distinct candidates)) (s, [])).1.outcome
          = answer.outcome := rfl
      rw [houtcome] at hrun
      cases hanswer : answer.outcome with
      | error cause =>
        rw [hanswer] at hrun
        exact congrArg Prod.fst hrun
      | ok found =>
        rw [hanswer] at hrun
        have hmarks := (Marks.existing (distinct candidates) found).of_distinct
        exact ⟨_, congrArg Prod.fst hrun, hmarks, hmarks.length_le⟩

end Store

end FeedArchive
