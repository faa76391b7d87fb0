import CatalistOracle.Impl.LidoValidators

/-!
# `CatalistValidatorStateService`

`src/services/validator_state.py`. Each method reads its providers and the chain at the reference
block; here those reads are arguments (`Snapshot.lean` makes them all at one block):
`catalistValidatorsByNo` is `get_catalist_validators_by_node_operators`, `nodeOperators` is
`get_catalist_node_operators`, `ejectedIndex` is `get_operators_with_last_exited_validator_indexes`,
the timeouts are the daemon config's `VALIDATOR_DELINQUENT_TIMEOUT_IN_SLOTS` and
`VALIDATOR_DELAYED_TIMEOUT_IN_SLOTS`, and each list of `ValidatorExitRequest` events is what
`get_events_in_past` returns for a window. `none` is a raised `KeyError`.

Logs and metrics are left out, but for the delayed-validators gauge of
`get_recently_requested_but_not_exited_validators`, which it returns beside its list: the
stuck and exited gauges only show a dict's values before the deletions.
-/

namespace CatalistOracle

/-! ## Stuck and exited validators -/

/-- `sum_stuck_validators`, the reducer of `get_catalist_newly_stuck_validators` over the validators
of operator `globalNoIndex`: it reads `ejected_index[global_no_index]` first. -/
def sumStuckValidators (ejectedIndex : Dict NodeOperatorGlobalIndex Int)
    (recentlyRequestedToExitPubkeys : List HexStr) (delinquentTimeoutInSlots : Nat)
    (blockstamp : ReferenceBlockStamp) (chainConfig : ChainConfig)
    (globalNoIndex : NodeOperatorGlobalIndex) (total : Nat) (validator : LidoValidator) :
    Option Nat := do
  let ejected ← ejectedIndex.get? globalNoIndex
  let validatorAvailableToExitEpoch := validator.validator.activationEpoch + SHARD_COMMITTEE_PERIOD
  let lastSlotToExit :=
    validatorAvailableToExitEpoch * chainConfig.slotsPerEpoch + delinquentTimeoutInSlots
  pure <|
    if (validator.index : Int) > ejected then total
    else if validator.validator.exitEpoch ≠ FAR_FUTURE_EPOCH then total
    else if validator.lidoId.key ∈ recentlyRequestedToExitPubkeys then total
    else if blockstamp.refSlot ≤ lastSlotToExit then total
    else total + 1

/-- The first loop of `get_catalist_newly_stuck_validators`: `result[global_no_index]` is the
reduction of `sum_stuck_validators` over the operator's validators. -/
def stuckValidatorsByNodeOperator
    (catalistValidatorsByNo : Dict NodeOperatorGlobalIndex (List LidoValidator))
    (ejectedIndex : Dict NodeOperatorGlobalIndex Int) (recentlyRequestedToExitPubkeys : List HexStr)
    (delinquentTimeoutInSlots : Nat) (blockstamp : ReferenceBlockStamp) (chainConfig : ChainConfig) :
    Option (Dict NodeOperatorGlobalIndex Nat) :=
  catalistValidatorsByNo.items.foldlM (fun result p => do
    let total ← p.2.foldlM (sumStuckValidators ejectedIndex recentlyRequestedToExitPubkeys
      delinquentTimeoutInSlots blockstamp chainConfig p.1) 0
    pure (result.set p.1 total)) Dict.empty

/-- The loop both `get_catalist_newly_stuck_validators` and `get_catalist_newly_exited_validators`
end with ("Find only updated states for Node Operator"): read each operator's count
(`result[global_index]`, set on its gauge) and delete it when it equals the count the router
records for the operator (`recorded`). -/
def findOnlyUpdatedStates (recorded : NodeOperator → Nat) (nodeOperators : List NodeOperator)
    (result : Dict NodeOperatorGlobalIndex Nat) : Option (Dict NodeOperatorGlobalIndex Nat) :=
  nodeOperators.foldlM (fun result operator => do
    let count ← result.get? operator.globalIndex
    if count = recorded operator then result.erase? operator.globalIndex else pure result) result

/-- `get_catalist_newly_stuck_validators`. -/
def getCatalistNewlyStuckValidators
    (catalistValidatorsByNo : Dict NodeOperatorGlobalIndex (List LidoValidator))
    (ejectedIndex : Dict NodeOperatorGlobalIndex Int) (recentlyRequestedToExitPubkeys : List HexStr)
    (nodeOperators : List NodeOperator) (delinquentTimeoutInSlots : Nat)
    (blockstamp : ReferenceBlockStamp) (chainConfig : ChainConfig) :
    Option (Dict NodeOperatorGlobalIndex Nat) := do
  let result ← stuckValidatorsByNodeOperator catalistValidatorsByNo ejectedIndex
    recentlyRequestedToExitPubkeys delinquentTimeoutInSlots blockstamp chainConfig
  findOnlyUpdatedStates (·.stuckValidatorsCount) nodeOperators result

/-- `get_last_requested_to_exit_pubkeys`, from the events of the delinquent window: the set of
their pubkeys (only its membership is read). -/
def getLastRequestedToExitPubkeys (events : List ValidatorExitRequest) : List HexStr :=
  events.map (·.validatorPubkey)

/-- `get_operators_with_last_exited_validator_indexes`: module by module, one
`getLastRequestedValidatorIndices(module.id, ids)` call for the ids of the module's operators,
zipped with its answer. -/
def getOperatorsWithLastExitedValidatorIndexes (nodeOperators : List NodeOperator)
    (stakingModules : List StakingModule)
    (getLastRequestedValidatorIndices : StakingModuleId → List NodeOperatorId → List Int) :
    Dict NodeOperatorGlobalIndex Int :=
  stakingModules.foldl (fun result module =>
    let nodeOperatorsIdsInModule :=
      (nodeOperators.filter (·.stakingModule.id = module.id)).map (·.id)
    let lastRequestedValidators := getLastRequestedValidatorIndices module.id nodeOperatorsIdsInModule
    (nodeOperatorsIdsInModule.zip lastRequestedValidators).foldl
      (fun result p => result.set (module.id, p.1) p.2) result) Dict.empty

/-- `get_exited_catalist_validators`: for each operator, the number of its validators
`is_exited_validator` at the reference epoch. -/
def getExitedCatalistValidators
    (catalistValidators : Dict NodeOperatorGlobalIndex (List LidoValidator))
    (blockstamp : ReferenceBlockStamp) : Dict NodeOperatorGlobalIndex Nat :=
  catalistValidators.items.foldl (fun result p =>
    result.set p.1 (p.2.foldl (fun total validator =>
      total + (isExitedValidator validator.toValidator blockstamp.refEpoch).toNat) 0)) Dict.empty

/-- `get_catalist_newly_exited_validators`. -/
def getCatalistNewlyExitedValidators
    (catalistValidatorsByNo : Dict NodeOperatorGlobalIndex (List LidoValidator))
    (nodeOperators : List NodeOperator) (blockstamp : ReferenceBlockStamp) :
    Option (Dict NodeOperatorGlobalIndex Nat) :=
  findOnlyUpdatedStates (·.totalExitedValidators) nodeOperators
    (getExitedCatalistValidators catalistValidatorsByNo blockstamp)

/-! ## Recently requested validators -/

/-- The loop body of `get_recently_requests_to_exit_indexes_by_operators`:
`global_indexes[operator_global_index].add(event['args']['validatorIndex'])`, a `KeyError` for an
operator with no set. -/
def addExitRequest (globalIndexes : Dict NodeOperatorGlobalIndex (List Nat))
    (event : ValidatorExitRequest) : Option (Dict NodeOperatorGlobalIndex (List Nat)) := do
  let operatorGlobalIndex := (event.stakingModuleId, event.nodeOperatorId)
  let indexes ← globalIndexes.get? operatorGlobalIndex
  pure (globalIndexes.set operatorGlobalIndex (indexes.insert event.validatorIndex))

/-- `get_recently_requests_to_exit_indexes_by_operators`, from the events of the delayed window:
an empty set for every operator given, then each event's validator index added to the set of its
operator. -/
def getRecentlyRequestsToExitIndexesByOperators (events : List ValidatorExitRequest)
    (operatorGlobalIndexes : List NodeOperatorGlobalIndex) :
    Option (Dict NodeOperatorGlobalIndex (List Nat)) :=
  events.foldlM addExitRequest (Dict.ofList (operatorGlobalIndexes.map (·, [])))

/-- `validator_requested_to_exit`: `int(validator.index) <= ejected_indexes[global_index]`. -/
def validatorRequestedToExit (ejectedIndexes : Dict NodeOperatorGlobalIndex Int)
    (globalIndex : NodeOperatorGlobalIndex) (validator : LidoValidator) : Option Bool :=
  (ejectedIndexes.get? globalIndex).map fun ejected => (validator.index : Int) ≤ ejected

/-- `validator_recently_requested_to_exit`: `int(validator.index) in recent_indexes[global_index]`. -/
def validatorRecentlyRequestedToExit (recentIndexes : Dict NodeOperatorGlobalIndex (List Nat))
    (globalIndex : NodeOperatorGlobalIndex) (validator : LidoValidator) : Option Bool :=
  (recentIndexes.get? globalIndex).map fun recent => validator.index ∈ recent

/-- `validator_eligible_to_exit`: eligible at `ref_epoch - delayed_timeout_in_slots //
slots_per_epoch`. -/
def validatorEligibleToExit (delayedTimeoutInSlots : Nat) (blockstamp : ReferenceBlockStamp)
    (chainConfig : ChainConfig) (validator : LidoValidator) : Bool :=
  let delayedTimeoutInEpoch := delayedTimeoutInSlots / chainConfig.slotsPerEpoch
  isValidatorEligibleToExit validator.toValidator (blockstamp.refEpoch - delayedTimeoutInEpoch)

/-- `is_validator_recently_requested_but_not_exited`: requested, not on exit, and recently
requested or not yet eligible. -/
def isValidatorRecentlyRequestedButNotExited (ejectedIndexes : Dict NodeOperatorGlobalIndex Int)
    (recentIndexes : Dict NodeOperatorGlobalIndex (List Nat)) (delayedTimeoutInSlots : Nat)
    (blockstamp : ReferenceBlockStamp) (chainConfig : ChainConfig)
    (globalIndex : NodeOperatorGlobalIndex) (validator : LidoValidator) : Option Bool := do
  if !(← validatorRequestedToExit ejectedIndexes globalIndex validator) then pure false
  else if isOnExit validator.toValidator then pure false
  else if (← validatorRecentlyRequestedToExit recentIndexes globalIndex validator) then pure true
  else pure !validatorEligibleToExit delayedTimeoutInSlots blockstamp chainConfig validator

/-- `is_validator_delayed`: `requested and not is_on_exit and not recently_requested`, evaluated
left to right. -/
def isValidatorDelayed (ejectedIndexes : Dict NodeOperatorGlobalIndex Int)
    (recentIndexes : Dict NodeOperatorGlobalIndex (List Nat)) (globalIndex : NodeOperatorGlobalIndex)
    (validator : LidoValidator) : Option Bool := do
  if !(← validatorRequestedToExit ejectedIndexes globalIndex validator) then pure false
  else if isOnExit validator.toValidator then pure false
  else pure !(← validatorRecentlyRequestedToExit recentIndexes globalIndex validator)

/-- One operator's pass of the loop of `get_recently_requested_but_not_exited_validators`: the
validators it adds to the result, and `delayed_validators_count`, set on its gauge. -/
def recentlyRequestedButNotExitedOf (ejectedIndexes : Dict NodeOperatorGlobalIndex Int)
    (recentIndexes : Dict NodeOperatorGlobalIndex (List Nat)) (delayedTimeoutInSlots : Nat)
    (blockstamp : ReferenceBlockStamp) (chainConfig : ChainConfig)
    (globalIndex : NodeOperatorGlobalIndex) (validators : List LidoValidator) :
    Option (List LidoValidator × Nat) := do
  let recentlyRequested ← pyFilter (isValidatorRecentlyRequestedButNotExited ejectedIndexes
    recentIndexes delayedTimeoutInSlots blockstamp chainConfig globalIndex) validators
  let delayed ← pyFilter (isValidatorDelayed ejectedIndexes recentIndexes globalIndex) validators
  pure (recentlyRequested, delayed.length)

/-- `get_recently_requested_but_not_exited_validators`: the validators of every operator in turn,
and the gauge writes `(global_index, delayed_validators_count)` in the order they are made. -/
def getRecentlyRequestedButNotExitedValidators
    (catalistValidatorsByOperator : Dict NodeOperatorGlobalIndex (List LidoValidator))
    (ejectedIndexes : Dict NodeOperatorGlobalIndex Int)
    (recentIndexes : Dict NodeOperatorGlobalIndex (List Nat)) (delayedTimeoutInSlots : Nat)
    (blockstamp : ReferenceBlockStamp) (chainConfig : ChainConfig) :
    Option (List LidoValidator × List (NodeOperatorGlobalIndex × Nat)) :=
  catalistValidatorsByOperator.items.foldlM (fun acc p => do
    let r ← recentlyRequestedButNotExitedOf ejectedIndexes recentIndexes delayedTimeoutInSlots
      blockstamp chainConfig p.1 p.2
    pure (acc.1 ++ r.1, acc.2 ++ [(p.1, r.2)])) ([], [])

end CatalistOracle
