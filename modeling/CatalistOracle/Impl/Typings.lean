import CatalistOracle.Impl.Python

/-!
# The records the oracle reads

The consensus layer's validators, the keys API's keys, the staking router's modules and operator
reports, and the exit bus's `ValidatorExitRequest` events, with the fields the modelled functions
read. No function here reads the others, which are left out: a validator's `balance` and `status`,
and its state's `effective_balance`, `slashed`, `withdrawal_credentials`,
`activation_eligibility_epoch` and `withdrawable_epoch`; a module's fees, `target_share`, `status`,
`name`, last deposit and `exited_validators_count`; an operator's `is_active`, target limit,
refunded and deposit counts and stuck penalty. Every number the code reads with `int(...)` is
already parsed here: the service's `int(validator.index)` is `Validator.index`.

The predicates of `src/utils/validator_state.py` and the constants of `src/constants.py` are not in
the sources: they are modelled from the spec (§3, §4.1) and from the tests that pin them
(`test_is_exited_validator`, `test_is_validator_eligible_to_exit`).
-/

namespace CatalistOracle

/-- `HexStr`: a validator's public key. -/
abbrev HexStr := String
/-- `HexAddress`: a staking module's address. -/
abbrev HexAddress := String
/-- `StakingModuleId`. -/
abbrev StakingModuleId := Nat
/-- `NodeOperatorId`: an operator's id within its module. -/
abbrev NodeOperatorId := Nat
/-- `NodeOperatorGlobalIndex = Tuple[StakingModuleId, NodeOperatorId]`. -/
abbrev NodeOperatorGlobalIndex := StakingModuleId × NodeOperatorId
/-- `EpochNumber`: a Python `int`, so a difference of epochs may be negative. -/
abbrev EpochNumber := Int

/-- Modelled from the spec: `FAR_FUTURE_EPOCH` (`src/constants.py`, not in the sources), the
sentinel `2⁶⁴ − 1` of an exit epoch meaning no exit is scheduled. -/
def FAR_FUTURE_EPOCH : Nat := 18446744073709551615

/-- Modelled from the spec: `SHARD_COMMITTEE_PERIOD` (`src/constants.py`, not in the sources), in
epochs: 256, as `test_is_validator_eligible_to_exit` pins it (eligible at 170256, not at 170255,
for activation epoch 170000). -/
def SHARD_COMMITTEE_PERIOD : Nat := 256

/-! ## Records -/

/-- `ValidatorState`: the part of a registry record the oracle reads. -/
structure ValidatorState where
  pubkey : HexStr
  activationEpoch : Nat
  exitEpoch : Nat
deriving DecidableEq, Repr

/-- `Validator`: an entry of the consensus layer's registry. -/
structure Validator where
  index : Nat
  validator : ValidatorState
deriving DecidableEq, Repr

/-- `LidoKey`: a key the keys API serves, with the module and the operator it names. -/
structure LidoKey where
  key : HexStr
  moduleAddress : HexAddress
  operatorIndex : NodeOperatorId
deriving DecidableEq, Repr

/-- `LidoValidator(Validator)`: a registry validator with the key that names it (the service's
`CatalistValidator`, whose `catalist_id` is this `lido_id`). -/
structure LidoValidator extends Validator where
  lidoId : LidoKey
deriving DecidableEq, Repr

/-- `StakingModule`. -/
structure StakingModule where
  id : StakingModuleId
  stakingModuleAddress : HexAddress
deriving DecidableEq, Repr

/-- An item of the staking router's `getAllNodeOperatorReports(module_id)`: the operator's id, its
`stuckValidatorsCount`, and the `totalExited` of its summary. -/
structure NodeOperatorReport where
  id : NodeOperatorId
  stuckValidatorsCount : Nat
  totalExited : Nat
deriving DecidableEq, Repr

/-- `NodeOperator`. -/
structure NodeOperator where
  id : NodeOperatorId
  stuckValidatorsCount : Nat
  totalExitedValidators : Nat
  stakingModule : StakingModule
deriving DecidableEq, Repr

/-- `(operator.staking_module.id, operator.id)`: the operator's key in every per-operator dict. -/
def NodeOperator.globalIndex (op : NodeOperator) : NodeOperatorGlobalIndex :=
  (op.stakingModule.id, op.id)

/-- The `args` of a `ValidatorExitRequest` event of the validators exit bus oracle. -/
structure ValidatorExitRequest where
  stakingModuleId : StakingModuleId
  nodeOperatorId : NodeOperatorId
  validatorIndex : Nat
  validatorPubkey : HexStr
deriving DecidableEq, Repr

/-- `ReferenceBlockStamp`: the slot and epoch every computation is pinned to. -/
structure ReferenceBlockStamp where
  refSlot : Nat
  refEpoch : Nat
deriving DecidableEq, Repr

/-- `ChainConfig`; the chain's `slots_per_epoch` is positive, so `// slots_per_epoch` never
raises. -/
structure ChainConfig where
  slotsPerEpoch : Nat
  slotsPerEpoch_pos : 0 < slotsPerEpoch

/-! ## Validator predicates -/

/-- Modelled from the spec: `is_active_validator` (`src/utils/validator_state.py`, not in the
sources), `activation_epoch ≤ epoch < exit_epoch`. -/
def isActiveValidator (v : Validator) (epoch : EpochNumber) : Bool :=
  v.validator.activationEpoch ≤ epoch ∧ epoch < v.validator.exitEpoch

/-- Modelled from the spec: `is_exited_validator` (`src/utils/validator_state.py`, not in the
sources), `exit_epoch ≤ epoch` and `exit_epoch ≠ FAR_FUTURE_EPOCH`. -/
def isExitedValidator (v : Validator) (epoch : EpochNumber) : Bool :=
  v.validator.exitEpoch ≤ epoch ∧ v.validator.exitEpoch ≠ FAR_FUTURE_EPOCH

/-- Modelled from the spec: `is_on_exit` (`src/utils/validator_state.py`, not in the sources),
`exit_epoch ≠ FAR_FUTURE_EPOCH`. -/
def isOnExit (v : Validator) : Bool :=
  v.validator.exitEpoch ≠ FAR_FUTURE_EPOCH

/-- Modelled from the spec: `is_validator_eligible_to_exit` (`src/utils/validator_state.py`, not in
the sources): active at `epoch`, no exit scheduled, and `activation_epoch + SHARD_COMMITTEE_PERIOD ≤
epoch`, the condition `test_is_validator_eligible_to_exit` pins beyond §4.1's words. -/
def isValidatorEligibleToExit (v : Validator) (epoch : EpochNumber) : Bool :=
  isActiveValidator v epoch ∧ ¬isOnExit v ∧ v.validator.activationEpoch + SHARD_COMMITTEE_PERIOD ≤ epoch

/-- An exited validator has an exit scheduled. -/
theorem isOnExit_of_isExitedValidator {v : Validator} {epoch : EpochNumber}
    (h : isExitedValidator v epoch) : isOnExit v := by
  simp_all [isExitedValidator, isOnExit]

/-- Exited stays exited at every later epoch. -/
theorem isExitedValidator_mono {v : Validator} {e e' : EpochNumber} (he : e ≤ e')
    (h : isExitedValidator v e) : isExitedValidator v e' := by
  simp only [isExitedValidator, decide_eq_true_eq] at h ⊢
  exact ⟨h.1.trans he, h.2⟩

end CatalistOracle
