import CatalistOracle.Impl.Typings

/-!
# `LidoValidatorsProvider`

`src/web3py/extensions/lido_validators.py`, with the chain reads (`kac.get_all_lido_keys`,
`cc.get_validators`, the staking router's `getStakingModules` and `getAllNodeOperatorReports`) as
arguments. The service of `validator_state.py` reads the same provider under the name
`catalist_validators`.

`get_lido_validators_by_node_operators` is the one function here that can raise: its loop looks
the module id of each merged validator up in `staking_module_address` with `[...]`, a `KeyError`
(`none`) for a key whose `moduleAddress` is no operator's module's; a pair the router does not know
is only logged and skipped.
-/

namespace CatalistOracle

/-- `merge_validators_with_keys(keys, validators)`: one `LidoValidator` per key whose pubkey is in
the registry, in the order of `keys`, carrying the validator `validators_keys_dict` keeps for that
pubkey (the last one). -/
def mergeValidatorsWithKeys (keys : List LidoKey) (validators : List Validator) :
    List LidoValidator :=
  let validatorsKeysDict := Dict.ofList (validators.map fun v => (v.validator.pubkey, v))
  keys.filterMap fun key => (validatorsKeysDict.get? key.key).map fun v => ⟨v, key⟩

/-- `get_lido_node_operators`: the operators of each module of `getStakingModules()` in turn, as
`getAllNodeOperatorReports(module.id)` lists them. -/
def getLidoNodeOperators (stakingModules : List StakingModule)
    (getAllNodeOperatorReports : StakingModuleId → List NodeOperatorReport) : List NodeOperator :=
  stakingModules.flatMap fun module => (getAllNodeOperatorReports module.id).map fun r =>
    { id := r.id, stuckValidatorsCount := r.stuckValidatorsCount,
      totalExitedValidators := r.totalExited, stakingModule := module }

/-- `staking_module_address`: `{operator.staking_module.staking_module_address:
operator.staking_module.id for operator in no_operators}`. -/
def stakingModuleAddress (noOperators : List NodeOperator) : Dict HexAddress StakingModuleId :=
  Dict.ofList (noOperators.map fun op => (op.stakingModule.stakingModuleAddress, op.stakingModule.id))

/-- `global_no_id` of a key: `(staking_module_address[key.moduleAddress], key.operatorIndex)`;
`none` is the `KeyError` of an address no operator's module has. -/
def globalNoId (stakingModuleAddress : Dict HexAddress StakingModuleId) (key : LidoKey) :
    Option NodeOperatorGlobalIndex :=
  (stakingModuleAddress.get? key.moduleAddress).map (·, key.operatorIndex)

/-- One pass of the loop of `get_lido_validators_by_node_operators`: append the validator to the
list of the operator its key names, or log that the router has no such operator. -/
def groupValidator (stakingModuleAddress : Dict HexAddress StakingModuleId)
    (noValidators : Dict NodeOperatorGlobalIndex (List LidoValidator)) (validator : LidoValidator) :
    Option (Dict NodeOperatorGlobalIndex (List LidoValidator)) := do
  let globalNoId ← globalNoId stakingModuleAddress validator.lidoId
  match noValidators.get? globalNoId with
  | some l => pure (noValidators.set globalNoId (l ++ [validator]))
  | none => pure noValidators

/-- `get_lido_validators_by_node_operators`: an empty list for every operator, then each merged
validator in its key's operator's list. -/
def getLidoValidatorsByNodeOperators (keys : List LidoKey) (validators : List Validator)
    (noOperators : List NodeOperator) :
    Option (Dict NodeOperatorGlobalIndex (List LidoValidator)) :=
  let noValidators := Dict.ofList (noOperators.map fun op => (op.globalIndex, []))
  (mergeValidatorsWithKeys keys validators).foldlM (groupValidator (stakingModuleAddress noOperators))
    noValidators

/-- A merged validator carries its key and the registry entry with that key's pubkey. -/
theorem mem_mergeValidatorsWithKeys {keys : List LidoKey} {validators : List Validator}
    {lv : LidoValidator} :
    lv ∈ mergeValidatorsWithKeys keys validators ↔ lv.lidoId ∈ keys ∧
      (Dict.ofList (validators.map fun v => (v.validator.pubkey, v))).get? lv.lidoId.key =
        some lv.toValidator := by
  simp only [mergeValidatorsWithKeys, List.mem_filterMap, Option.map_eq_some']
  constructor
  · rintro ⟨k, hk, v, hv, rfl⟩; exact ⟨hk, hv⟩
  · rintro ⟨hk, hv⟩; exact ⟨_, hk, _, hv, rfl⟩

end CatalistOracle
