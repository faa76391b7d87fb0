import CatalistOracle.Impl.ValidatorState

/-!
# One reference block

`Snapshot` is what the providers read at one reference block: the staking router's modules and
operator reports, the keys API's keys, the consensus layer's registry, the exit bus's
`getLastRequestedValidatorIndices` and `ValidatorExitRequest` events, and the daemon config's
timeouts. The service's methods as the oracle runs them read everything from one snapshot, as the
Python methods read `self.w3` and their own cached helpers at one blockstamp.
-/

namespace CatalistOracle

/-- The chain as the providers read it at one reference block. -/
structure Snapshot where
  blockstamp : ReferenceBlockStamp
  chainConfig : ChainConfig
  stakingModules : List StakingModule
  getAllNodeOperatorReports : StakingModuleId → List NodeOperatorReport
  keys : List LidoKey
  validators : List Validator
  getLastRequestedValidatorIndices : StakingModuleId → List NodeOperatorId → List Int
  delinquentTimeoutInSlots : Nat
  delayedTimeoutInSlots : Nat
  /-- The events of the last `delinquentTimeoutInSlots` slots. -/
  delinquentWindowEvents : List ValidatorExitRequest
  /-- The events of the last `delayedTimeoutInSlots` slots. -/
  delayedWindowEvents : List ValidatorExitRequest

namespace Snapshot

/-- `get_lido_node_operators` at the block. -/
def nodeOperators (s : Snapshot) : List NodeOperator :=
  getLidoNodeOperators s.stakingModules s.getAllNodeOperatorReports

/-- `get_lido_validators_by_node_operators` at the block. -/
def validatorsByNodeOperators (s : Snapshot) :
    Option (Dict NodeOperatorGlobalIndex (List LidoValidator)) :=
  getLidoValidatorsByNodeOperators s.keys s.validators s.nodeOperators

/-- `get_operators_with_last_exited_validator_indexes` at the block. -/
def lastExitedValidatorIndexes (s : Snapshot) : Dict NodeOperatorGlobalIndex Int :=
  getOperatorsWithLastExitedValidatorIndexes s.nodeOperators s.stakingModules
    s.getLastRequestedValidatorIndices

/-- `get_catalist_newly_stuck_validators` at the block. -/
def newlyStuckValidators (s : Snapshot) : Option (Dict NodeOperatorGlobalIndex Nat) := do
  let byNo ← s.validatorsByNodeOperators
  getCatalistNewlyStuckValidators byNo s.lastExitedValidatorIndexes
    (getLastRequestedToExitPubkeys s.delinquentWindowEvents) s.nodeOperators
    s.delinquentTimeoutInSlots s.blockstamp s.chainConfig

/-- `get_exited_catalist_validators` at the block. -/
def exitedValidators (s : Snapshot) : Option (Dict NodeOperatorGlobalIndex Nat) :=
  s.validatorsByNodeOperators.map (getExitedCatalistValidators · s.blockstamp)

/-- `get_catalist_newly_exited_validators` at the block. -/
def newlyExitedValidators (s : Snapshot) : Option (Dict NodeOperatorGlobalIndex Nat) := do
  let byNo ← s.validatorsByNodeOperators
  getCatalistNewlyExitedValidators byNo s.nodeOperators s.blockstamp

/-- `get_recently_requested_but_not_exited_validators` at the block, with
`get_recently_requests_to_exit_indexes_by_operators` over the keys of the validators' dict. -/
def recentlyRequestedButNotExitedValidators (s : Snapshot) :
    Option (List LidoValidator × List (NodeOperatorGlobalIndex × Nat)) := do
  let byOperator ← s.validatorsByNodeOperators
  let recentIndexes ← getRecentlyRequestsToExitIndexesByOperators s.delayedWindowEvents byOperator.keys
  getRecentlyRequestedButNotExitedValidators byOperator s.lastExitedValidatorIndexes recentIndexes
    s.delayedTimeoutInSlots s.blockstamp s.chainConfig

end Snapshot

end CatalistOracle
