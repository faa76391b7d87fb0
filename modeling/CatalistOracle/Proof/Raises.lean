import CatalistOracle.Proof.KeySets

/-!
# When the reports raise

The service indexes its per-operator dicts with `[...]`, so a missing key is a `KeyError` that
ends the report. The reads are lazy: `sum_stuck_validators`, `validator_requested_to_exit` and
`validator_recently_requested_to_exit` read an operator's last requested index or recent indexes
only while running over that operator's validators, so an operator with no validator needs
neither. `get_operators_with_last_exited_validator_indexes` zips each module's operator ids with
the exit bus's answer, and silently drops the operators past the end of a short answer.

* `newlyStuckValidators_isSome_iff`: with distinct module ids and distinct operator ids within a
  module, `get_catalist_newly_stuck_validators` returns exactly when the grouping of validators
  returns and every operator with a validator has a last requested index;
* `recentlyRequestedButNotExitedValidators_isSome_iff`:
  `get_recently_requested_but_not_exited_validators` returns exactly when the grouping returns,
  every event of the delayed window names an operator of the validators' dict, and every operator
  with a validator has a last requested index.
-/

namespace CatalistOracle

/-- With distinct module ids and distinct operator ids within a module, the stuck report raises
exactly when the grouping of validators raises, or an operator with at least one validator has no
last requested index (its module's answer from the exit bus stops before it). -/
theorem newlyStuckValidators_isSome_iff {s : Snapshot}
    (hm : (s.stakingModules.map StakingModule.id).Nodup)
    (hr : ∀ m ∈ s.stakingModules,
      ((s.getAllNodeOperatorReports m.id).map NodeOperatorReport.id).Nodup) :
    s.newlyStuckValidators.isSome ↔ ∃ V, s.validatorsByNodeOperators = some V ∧
      ∀ g vs, V.get? g = some vs → vs ≠ [] → g ∈ s.lastExitedValidatorIndexes.keys := by
  have hn := nodup_getLidoNodeOperators hm hr
  simp only [Snapshot.newlyStuckValidators, Option.bind_eq_bind]
  cases hV : s.validatorsByNodeOperators with
  | none => simp
  | some V =>
    simp only [Option.some_bind, Option.some.injEq, exists_eq_left',
      getCatalistNewlyStuckValidators, Option.bind_eq_bind]
    have hloop := @stuckValidatorsByNodeOperator_isSome s.lastExitedValidatorIndexes
      (getLastRequestedToExitPubkeys s.delinquentWindowEvents) s.delinquentTimeoutInSlots
      s.blockstamp s.chainConfig V
    rw [Dict.forall_mem_items (P := fun g vs => vs = [] ∨ g ∈ s.lastExitedValidatorIndexes.keys)]
      at hloop
    cases hres : stuckValidatorsByNodeOperator V s.lastExitedValidatorIndexes
        (getLastRequestedToExitPubkeys s.delinquentWindowEvents) s.delinquentTimeoutInSlots
        s.blockstamp s.chainConfig with
    | none =>
      rw [hres] at hloop
      simpa [or_iff_not_imp_left] using hloop
    | some result =>
      rw [hres] at hloop
      -- the closing loop finds every operator: they are the keys of the validators' dict
      obtain ⟨r, hfind, -⟩ :=
        @findOnlyUpdatedStates_spec (·.stuckValidatorsCount) s.nodeOperators _ hn fun op hop => (mem_keys_stuckValidatorsByNodeOperator hres _).2
          ((mem_keys_getLidoValidatorsByNodeOperators hV _).2 (List.mem_map_of_mem _ hop))
      simp only [Option.some_bind, hfind, Option.isSome_some, true_iff]
      exact fun g vs hg hne => (hloop.1 rfl g vs hg).resolve_left hne

/-- `oneModuleSnapshot` with no key, and an exit bus that answers no index: its operator has no
validator, and no last requested index. -/
def shortAnswerSnapshot : Snapshot :=
  { oneModuleSnapshot with keys := [], getLastRequestedValidatorIndices := fun _ _ => [] }

theorem newlyStuckValidators_isSome_iff_example :
    (shortAnswerSnapshot.stakingModules.map StakingModule.id).Nodup ∧
    (∀ m ∈ shortAnswerSnapshot.stakingModules,
      ((shortAnswerSnapshot.getAllNodeOperatorReports m.id).map NodeOperatorReport.id).Nodup) ∧
    (shortAnswerSnapshot.newlyStuckValidators.isSome ↔
      ∃ V, shortAnswerSnapshot.validatorsByNodeOperators = some V ∧
        ∀ g vs, V.get? g = some vs → vs ≠ [] →
          g ∈ shortAnswerSnapshot.lastExitedValidatorIndexes.keys) :=
  ⟨by decide, by decide, newlyStuckValidators_isSome_iff (by decide) (by decide)⟩

/-- The recently requested validators raise exactly when the grouping of validators raises, an event
of the delayed window names an operator with no validators' list, or an operator with at least one
validator has no last requested index. -/
theorem recentlyRequestedButNotExitedValidators_isSome_iff (s : Snapshot) :
    s.recentlyRequestedButNotExitedValidators.isSome ↔ ∃ V, s.validatorsByNodeOperators = some V ∧
      (∀ e ∈ s.delayedWindowEvents, (e.stakingModuleId, e.nodeOperatorId) ∈ V.keys) ∧
      ∀ g vs, V.get? g = some vs → vs ≠ [] → g ∈ s.lastExitedValidatorIndexes.keys := by
  simp only [Snapshot.recentlyRequestedButNotExitedValidators, Option.bind_eq_bind]
  cases hV : s.validatorsByNodeOperators with
  | none => simp
  | some V =>
    simp only [Option.some_bind, Option.some.injEq, exists_eq_left']
    cases hR : getRecentlyRequestsToExitIndexesByOperators s.delayedWindowEvents V.keys with
    | none =>
      have := getRecentlyRequestsToExitIndexesByOperators_isSome.not.1 (by rw [hR]; simp)
      simp [this]
    | some R =>
      have hk := (getRecentlyRequestsToExitIndexesByOperators_of_eq_some hR).1
      rw [Option.some_bind, getRecentlyRequestedButNotExitedValidators_isSome_iff,
        Dict.forall_mem_items (P := fun g vs => (recentlyRequestedButNotExitedOf
          s.lastExitedValidatorIndexes R s.delayedTimeoutInSlots s.blockstamp s.chainConfig g
            vs).isSome),
        and_iff_right (getRecentlyRequestsToExitIndexesByOperators_isSome.1 (by rw [hR]; rfl))]
      refine forall₂_congr fun g vs => forall_congr' fun hg => ?_
      obtain ⟨rs, hrs⟩ := Dict.mem_keys.1 ((hk g).2 (Dict.mem_keys.2 ⟨vs, hg⟩))
      rw [recentlyRequestedButNotExitedOf_isSome hrs, or_iff_not_imp_left]

end CatalistOracle
