import CatalistOracle.Impl.LidoValidators

/-!
# The earlier `LidoValidatorsProvider`

`src/web3_extentions/lido_validators.py` is the provider the current one replaces. It merges the
keys API's keys with the registry as the current one does, but takes its operators from the keys
API's `get_operators`, each with its module's address and its index, and keys its dict by that
pair, `NodeOperatorIndex = Tuple[Address, int]`; a merged validator whose pair no operator has is a
`KeyError`. Its `LidoValidator` is the `TypedDict` `{key, validator}`, the same data as the current
`LidoValidator`.
-/

namespace CatalistOracle

namespace Legacy

/-- `NodeOperatorIndex = Tuple[Address, int]`: a module's address and an operator's index. -/
abbrev NodeOperatorIndex := HexAddress × NodeOperatorId

/-- An item of the keys API's `get_operators`: `module['module']['stakingModuleAddress']`, and the
indexes of `module['operators']`. -/
structure OperatorResponse where
  stakingModuleAddress : HexAddress
  operators : List NodeOperatorId
deriving DecidableEq, Repr

/-- `OperatorExpanded`: an operator's index with its module's address. -/
structure OperatorExpanded where
  stakingModuleAddress : HexAddress
  index : NodeOperatorId
deriving DecidableEq, Repr

/-- `_merge_validators`: one `LidoValidator(key=key, validator=validators_keys_dict[key['key']])`
per key whose pubkey is in the registry, the merge of `merge_validators_with_keys`. -/
def mergeValidators (keys : List LidoKey) (validators : List Validator) : List LidoValidator :=
  mergeValidatorsWithKeys keys validators

/-- `get_lido_node_operators`: every module's operators, each with its module's address. -/
def getLidoNodeOperators (operatorsByModules : List OperatorResponse) : List OperatorExpanded :=
  operatorsByModules.flatMap fun module =>
    module.operators.map fun index => ⟨module.stakingModuleAddress, index⟩

/-- One pass of the loop of `get_lido_validators_by_node_operators`:
`no_validators[(moduleAddress, operatorIndex)].append(validator)`, a `KeyError` for a pair with no
list. -/
def appendValidator (noValidators : Dict NodeOperatorIndex (List LidoValidator))
    (validator : LidoValidator) : Option (Dict NodeOperatorIndex (List LidoValidator)) := do
  let index := (validator.lidoId.moduleAddress, validator.lidoId.operatorIndex)
  let l ← noValidators.get? index
  pure (noValidators.set index (l ++ [validator]))

/-- `get_lido_validators_by_node_operators`: an empty list for every operator's pair, then each
merged validator appended to the list of its key's pair. -/
def getLidoValidatorsByNodeOperators (keys : List LidoKey) (validators : List Validator)
    (noOperators : List OperatorExpanded) : Option (Dict NodeOperatorIndex (List LidoValidator)) :=
  (mergeValidators keys validators).foldlM appendValidator
    (Dict.ofList (noOperators.map fun operator => ((operator.stakingModuleAddress, operator.index), [])))

end Legacy

end CatalistOracle
