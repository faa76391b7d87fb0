import CatalistOracle.Impl.Snapshot
import CatalistOracle.Proof.Grouping
import CatalistOracle.Proof.Recent

/-!
# The operators' dicts agree

Each per-operator dict the service reads is keyed by the operators' global indexes: the grouping of
validators (`mem_keys_getLidoValidatorsByNodeOperators`), the last requested indexes when the exit bus
answers one index per operator id (`mem_keys_getOperatorsWithLastExitedValidatorIndexes`; each holds
the answer at the operator's position, `get?_getOperatorsWithLastExitedValidatorIndexes`), and the
recent indexes when every event names an operator (`foldlM_addExitRequest`); and the global indexes
are distinct when the module ids are, and the operator ids within each module
(`nodup_getLidoNodeOperators`). Each report is computed once the dicts it reads hold every operator
of the validators' dict (`getCatalistNewlyStuckValidators_isSome`,
`getCatalistNewlyExitedValidators_isSome`, `getRecentlyRequestedButNotExitedValidators_isSome`).

* `snapshot_operator_dicts_agree`: in such a snapshot the validators' dict and the last requested
  indexes have exactly the operators' global indexes as keys, each operator's last requested index
  is the exit bus's answer at its position among its module's operator ids, and the stuck, exited
  and recently requested validators are computed with no `KeyError`.
-/

namespace CatalistOracle

/-! ## The router's operators -/

section Operators

variable {modules : List StakingModule} {reports : StakingModuleId → List NodeOperatorReport}

theorem map_globalIndex_getLidoNodeOperators :
    (getLidoNodeOperators modules reports).map NodeOperator.globalIndex =
      modules.flatMap fun m => (reports m.id).map fun r => (m.id, r.id) := by
  induction modules with
  | nil => rfl
  | cons m ms ih =>
    simp only [getLidoNodeOperators, List.flatMap_cons, List.map_append, List.map_map] at ih ⊢
    rw [ih]; rfl

theorem stakingModule_mem_of_mem_getLidoNodeOperators {op : NodeOperator}
    (h : op ∈ getLidoNodeOperators modules reports) : op.stakingModule ∈ modules := by
  obtain ⟨m, hm, r, -, rfl⟩ := by simpa [getLidoNodeOperators] using h
  exact hm

/-- Distinct module ids, and distinct operator ids within each module, give distinct global
indexes. -/
theorem nodup_getLidoNodeOperators (hm : (modules.map StakingModule.id).Nodup)
    (hr : ∀ m ∈ modules, ((reports m.id).map NodeOperatorReport.id).Nodup) :
    ((getLidoNodeOperators modules reports).map NodeOperator.globalIndex).Nodup := by
  rw [map_globalIndex_getLidoNodeOperators, List.nodup_flatMap]
  refine ⟨fun m hm' => ?_, (List.pairwise_map.1 hm).imp fun hne => ?_⟩
  · have := (hr m hm').map (Prod.mk.inj_left m.id)
    rwa [List.map_map] at this
  · simp only [List.disjoint_left, List.mem_map]
    rintro _ ⟨_, -, rfl⟩ ⟨_, -, h⟩
    exact hne (Prod.ext_iff.1 h).1.symm

end Operators

/-! ## The last requested indexes -/

/-- `zip` keeps the first list when the second is no shorter. -/
theorem map_zip_fst {α β γ : Type} (f : α → γ) {xs : List α} {ys : List β}
    (h : xs.length ≤ ys.length) : (xs.zip ys).map (fun p => f p.1) = xs.map f := by
  show (xs.zip ys).map (f ∘ Prod.fst) = _
  rw [← List.map_map, List.map_fst_zip _ _ h]

/-- The keys one module's pass writes: the global indexes of its operators. -/
theorem mem_map_operatorIds {ops : List NodeOperator} {a : StakingModuleId}
    {g : NodeOperatorGlobalIndex} :
    g ∈ ((ops.filter (·.stakingModule.id = a)).map (·.id)).map (a, ·) ↔
      ∃ op ∈ ops, op.stakingModule.id = a ∧ op.globalIndex = g := by
  simp only [List.map_map, List.mem_map, List.mem_filter, decide_eq_true_eq, Function.comp_def,
    NodeOperator.globalIndex, and_assoc]
  constructor <;> rintro ⟨op, hop, rfl, rfl⟩ <;> exact ⟨op, hop, rfl, rfl⟩

/-- The items `get_operators_with_last_exited_validator_indexes` writes, module by module: each
operator id of the module, with the exit bus's answer at its position. -/
def lastRequestedItems (ops : List NodeOperator) (modules : List StakingModule)
    (f : StakingModuleId → List NodeOperatorId → List Int) :
    List (NodeOperatorGlobalIndex × Int) :=
  modules.flatMap fun module =>
    let ids := (ops.filter (·.stakingModule.id = module.id)).map (·.id)
    (ids.zip (f module.id ids)).map fun p => ((module.id, p.1), p.2)

section LastRequested

variable {ops : List NodeOperator} {modules : List StakingModule}
  {f : StakingModuleId → List NodeOperatorId → List Int}

/-- The operator ids one module's pass sends the exit bus are distinct when the operators' global
indexes are: they are the global indexes of a filter of the operators, all in one module. -/
theorem nodup_operatorIds (hn : (ops.map NodeOperator.globalIndex).Nodup) (a : StakingModuleId) :
    ((ops.filter (·.stakingModule.id = a)).map (·.id)).Nodup := by
  have e : (ops.filter (·.stakingModule.id = a)).map NodeOperator.globalIndex =
      ((ops.filter (·.stakingModule.id = a)).map (·.id)).map (a, ·) := by
    rw [List.map_map]
    exact List.map_congr_left fun op hop => by
      simp [NodeOperator.globalIndex, of_decide_eq_true (List.mem_filter.1 hop).2]
  refine List.Nodup.of_map (a, ·) ?_
  rw [← e]
  exact hn.sublist ((List.filter_sublist ops).map _)

/-- The two loops write the items of `lastRequestedItems` in turn. -/
theorem getOperatorsWithLastExitedValidatorIndexes_eq :
    getOperatorsWithLastExitedValidatorIndexes ops modules f =
      Dict.ofList (lastRequestedItems ops modules f) := by
  unfold getOperatorsWithLastExitedValidatorIndexes Dict.ofList lastRequestedItems
  generalize Dict.empty = d
  induction modules generalizing d with
  | nil => rfl
  | cons m ms ih =>
    simp only [List.foldl_cons, List.flatMap_cons, List.foldl_append, List.foldl_map, ih]

/-- When the exit bus answers at least one index per operator id it is passed, the last requested
indexes are keyed by the operators of the modules listed. -/
theorem mem_keys_getOperatorsWithLastExitedValidatorIndexes
    (hl : ∀ m ∈ modules, ∀ ids, ids.length ≤ (f m.id ids).length) (g : NodeOperatorGlobalIndex) :
    g ∈ (getOperatorsWithLastExitedValidatorIndexes ops modules f).keys ↔
      ∃ op ∈ ops, op.stakingModule.id ∈ modules.map StakingModule.id ∧ op.globalIndex = g := by
  rw [getOperatorsWithLastExitedValidatorIndexes_eq, Dict.mem_keys_ofList, lastRequestedItems,
    List.map_flatMap, List.mem_flatMap]
  simp only [List.map_map, Function.comp_def]
  constructor
  · rintro ⟨m, hm, hg⟩
    rw [map_zip_fst (m.id, ·) (hl m hm _), mem_map_operatorIds] at hg
    obtain ⟨op, hop, e, rfl⟩ := hg
    exact ⟨op, hop, e ▸ List.mem_map_of_mem _ hm, rfl⟩
  · rintro ⟨op, hop, hsm, rfl⟩
    obtain ⟨m, hm, e⟩ := List.mem_map.1 hsm
    refine ⟨m, hm, ?_⟩
    rw [map_zip_fst (m.id, ·) (hl m hm _), mem_map_operatorIds]
    exact ⟨op, hop, e.symm, rfl⟩

/-- With distinct module ids and distinct operator ids within each module, and one answer per id,
an operator's last requested index is the exit bus's answer at its position among its module's
operator ids. -/
theorem get?_getOperatorsWithLastExitedValidatorIndexes
    (hm : (modules.map StakingModule.id).Nodup)
    (hids : ∀ m ∈ modules, ((ops.filter (·.stakingModule.id = m.id)).map (·.id)).Nodup)
    (hl : ∀ m ∈ modules, ∀ ids, ids.length ≤ (f m.id ids).length) {m : StakingModule}
    (hmem : m ∈ modules) (id : NodeOperatorId) (w : Int) :
    (getOperatorsWithLastExitedValidatorIndexes ops modules f).get? (m.id, id) = some w ↔
      (id, w) ∈ ((ops.filter (·.stakingModule.id = m.id)).map (·.id)).zip
        (f m.id ((ops.filter (·.stakingModule.id = m.id)).map (·.id))) := by
  -- an item of key `(m.id, id)` is written by `m`'s pass
  have hitem : ∀ q ∈ lastRequestedItems ops modules f, q.1 = (m.id, id) →
      (id, q.2) ∈ ((ops.filter (·.stakingModule.id = m.id)).map (·.id)).zip
        (f m.id ((ops.filter (·.stakingModule.id = m.id)).map (·.id))) := by
    intro q hq e
    obtain ⟨m', hm', hin⟩ := List.mem_flatMap.1 hq
    obtain ⟨p, hp, rfl⟩ := List.mem_map.1 hin
    simp only [Prod.mk.injEq] at e
    obtain rfl := List.inj_on_of_nodup_map hm hm' hmem e.1
    rwa [← e.2]
  rw [getOperatorsWithLastExitedValidatorIndexes_eq]
  constructor
  · exact fun h => hitem _ (Dict.mem_of_get?_ofList h) rfl
  · intro h
    refine Dict.get?_ofList_of_forall (List.mem_map.2 ⟨((m.id, id), w),
      List.mem_flatMap.2 ⟨m, hmem, List.mem_map.2 ⟨(id, w), h, rfl⟩⟩, rfl⟩) fun q hq e => ?_
    have hz : ((((ops.filter (·.stakingModule.id = m.id)).map (·.id)).zip
        (f m.id ((ops.filter (·.stakingModule.id = m.id)).map (·.id)))).map Prod.fst).Nodup := by
      rw [List.map_fst_zip _ _ (hl m hmem _)]; exact hids m hmem
    exact (Prod.ext_iff.1 (List.inj_on_of_nodup_map hz (hitem q hq e) h rfl)).2

end LastRequested

/-! ## The recent indexes -/

section Recent

variable {d : Dict NodeOperatorGlobalIndex (List Nat)} {e : ValidatorExitRequest}

theorem addExitRequest_of_get? {rs : List Nat}
    (h : d.get? (e.stakingModuleId, e.nodeOperatorId) = some rs) :
    addExitRequest d e =
      some (d.set (e.stakingModuleId, e.nodeOperatorId) (rs.insert e.validatorIndex)) := by
  simp [addExitRequest, h]

/-- Over events that each name an operator with a set, the loop returns, with the same keys, and
each operator's set holds what it held and the validator index of each event naming it. -/
theorem foldlM_addExitRequest {events : List ValidatorExitRequest}
    (he : ∀ e ∈ events, (e.stakingModuleId, e.nodeOperatorId) ∈ d.keys) :
    ∃ R, events.foldlM addExitRequest d = some R ∧ (∀ g, g ∈ R.keys ↔ g ∈ d.keys) ∧
      ∀ g rs', R.get? g = some rs' → ∃ rs, d.get? g = some rs ∧ ∀ i, i ∈ rs' ↔ i ∈ rs ∨
        ∃ e ∈ events, (e.stakingModuleId, e.nodeOperatorId) = g ∧ e.validatorIndex = i := by
  induction events generalizing d with
  | nil => exact ⟨d, rfl, fun _ => Iff.rfl, fun g rs' h => ⟨rs', h, by simp⟩⟩
  | cons e events ih =>
    obtain ⟨rs, hrs⟩ := Dict.mem_keys.1 (he e (List.mem_cons_self _ _))
    have hkeys := Dict.mem_keys_set_of_mem (he e (List.mem_cons_self _ _)) (rs.insert e.validatorIndex)
    obtain ⟨R, hR, hk, hv⟩ :=
      ih fun e' he' => (hkeys _).2 (he e' (List.mem_cons_of_mem _ he'))
    refine ⟨R, by rw [List.foldlM_cons, addExitRequest_of_get? hrs]; exact hR,
      fun g => (hk g).trans (hkeys g), fun g rs' h => ?_⟩
    obtain ⟨rs₁, h₁, hi⟩ := hv g rs' h
    rw [Dict.get?_set] at h₁
    split at h₁
    · subst g
      cases h₁
      exact ⟨rs, hrs, fun i => by
        simp only [hi, List.mem_insert_iff, List.mem_cons, or_and_right, exists_or, exists_eq_left,
          true_and]
        rw [or_assoc, or_left_comm, @eq_comm _ i]⟩
    · rename_i hne
      exact ⟨rs₁, h₁, fun i => by simp [hi, Ne.symm hne]⟩

/-- `get_recently_requests_to_exit_indexes_by_operators` returns when every event names an operator
given: the operators given are its keys, and each one's set is the validator indexes of the events
naming it. -/
theorem getRecentlyRequestsToExitIndexesByOperators_spec {events : List ValidatorExitRequest}
    {gs : List NodeOperatorGlobalIndex}
    (he : ∀ e ∈ events, (e.stakingModuleId, e.nodeOperatorId) ∈ gs) :
    ∃ R, getRecentlyRequestsToExitIndexesByOperators events gs = some R ∧
      (∀ g, g ∈ R.keys ↔ g ∈ gs) ∧ ∀ g rs, R.get? g = some rs → ∀ i, i ∈ rs ↔
        ∃ e ∈ events, (e.stakingModuleId, e.nodeOperatorId) = g ∧ e.validatorIndex = i := by
  have hkeys : ∀ g, g ∈ (Dict.ofList (gs.map (·, ([] : List Nat)))).keys ↔ g ∈ gs := fun g => by
    simp [Dict.mem_keys_ofList]
  obtain ⟨R, hR, hk, hv⟩ := foldlM_addExitRequest fun e h => (hkeys _).2 (he e h)
  refine ⟨R, hR, fun g => (hk g).trans (hkeys g), fun g rs h i => ?_⟩
  obtain ⟨rs₀, h₀, hi⟩ := hv g rs h
  obtain ⟨_, -, ⟨⟩⟩ := List.mem_map.1 (Dict.mem_of_get?_ofList h₀)
  simpa using hi i

/-- The loop raises exactly when some event names an operator with no set: a write keeps the keys,
so every event is looked up among the keys the loop started with. -/
theorem foldlM_addExitRequest_isSome {events : List ValidatorExitRequest} :
    (events.foldlM addExitRequest d).isSome ↔
      ∀ e ∈ events, (e.stakingModuleId, e.nodeOperatorId) ∈ d.keys := by
  induction events generalizing d with
  | nil => simp
  | cons e events ih =>
    rw [List.foldlM_cons, List.forall_mem_cons]
    by_cases hk : (e.stakingModuleId, e.nodeOperatorId) ∈ d.keys
    · obtain ⟨rs, hrs⟩ := Dict.mem_keys.1 hk
      rw [addExitRequest_of_get? hrs]
      simp only [Option.bind_eq_bind, Option.some_bind, ih, Dict.mem_keys_set_of_mem hk, hk,
        true_and]
    · simp [addExitRequest, Dict.get?_eq_none.2 hk, hk]

/-- `get_recently_requests_to_exit_indexes_by_operators` raises exactly when some event names an
operator not given. -/
theorem getRecentlyRequestsToExitIndexesByOperators_isSome {events : List ValidatorExitRequest}
    {gs : List NodeOperatorGlobalIndex} :
    (getRecentlyRequestsToExitIndexesByOperators events gs).isSome ↔
      ∀ e ∈ events, (e.stakingModuleId, e.nodeOperatorId) ∈ gs := by
  rw [getRecentlyRequestsToExitIndexesByOperators, foldlM_addExitRequest_isSome]
  simp [Dict.mem_keys_ofList]

/-- What `get_recently_requests_to_exit_indexes_by_operators` returned: a set for each operator
given, holding the validator indexes of the events naming it. -/
theorem getRecentlyRequestsToExitIndexesByOperators_of_eq_some
    {events : List ValidatorExitRequest} {gs : List NodeOperatorGlobalIndex}
    {R : Dict NodeOperatorGlobalIndex (List Nat)}
    (h : getRecentlyRequestsToExitIndexesByOperators events gs = some R) :
    (∀ g, g ∈ R.keys ↔ g ∈ gs) ∧ ∀ g rs, R.get? g = some rs → ∀ i, i ∈ rs ↔
      ∃ e ∈ events, (e.stakingModuleId, e.nodeOperatorId) = g ∧ e.validatorIndex = i := by
  obtain ⟨R', hR', hk, hv⟩ := getRecentlyRequestsToExitIndexesByOperators_spec
    (getRecentlyRequestsToExitIndexesByOperators_isSome.1 (by rw [h]; rfl))
  obtain rfl := Option.some.inj (h.symm.trans hR')
  exact ⟨hk, hv⟩

end Recent

/-! ## The reports return -/

section Reports

variable {V : Dict NodeOperatorGlobalIndex (List LidoValidator)} {ops : List NodeOperator}
  {bs : ReferenceBlockStamp}

/-- The stuck validators are computed when every operator with validators has a last requested
index and the operators, with distinct global indexes, all have validators' lists. -/
theorem getCatalistNewlyStuckValidators_isSome {X : Dict NodeOperatorGlobalIndex Int}
    {K : List HexStr} {T : Nat} {cc : ChainConfig} (hn : (ops.map NodeOperator.globalIndex).Nodup)
    (hop : ∀ op ∈ ops, op.globalIndex ∈ V.keys) (hX : ∀ g ∈ V.keys, g ∈ X.keys) :
    (getCatalistNewlyStuckValidators V X K ops T bs cc).isSome := by
  have hs : (stuckValidatorsByNodeOperator V X K T bs cc).isSome :=
    stuckValidatorsByNodeOperator_isSome.2 fun p hp => .inr (hX _ (List.mem_map_of_mem Prod.fst hp))
  obtain ⟨r, hr⟩ := Option.isSome_iff_exists.1 hs
  obtain ⟨r', hr', -⟩ := @findOnlyUpdatedStates_spec (·.stuckValidatorsCount) _ _ hn fun op h =>
    (mem_keys_stuckValidatorsByNodeOperator hr _).2 (hop op h)
  simp [getCatalistNewlyStuckValidators, hr, hr']

/-- The exited validators are computed when the operators, with distinct global indexes, all have
validators' lists. -/
theorem getCatalistNewlyExitedValidators_isSome (hn : (ops.map NodeOperator.globalIndex).Nodup)
    (hop : ∀ op ∈ ops, op.globalIndex ∈ V.keys) :
    (getCatalistNewlyExitedValidators V ops bs).isSome := by
  obtain ⟨r, hr, -⟩ := @findOnlyUpdatedStates_spec (·.totalExitedValidators) _
    (getExitedCatalistValidators V bs) hn fun op h => by
      obtain ⟨vs, hvs⟩ := Dict.mem_keys.1 (hop op h)
      simp [Dict.mem_keys, get?_getExitedCatalistValidators, hvs]
  simp [getCatalistNewlyExitedValidators, hr]

/-- The recently requested validators are computed when every operator with validators has a last
requested index and a set of recent indexes. -/
theorem getRecentlyRequestedButNotExitedValidators_isSome {X : Dict NodeOperatorGlobalIndex Int}
    {R : Dict NodeOperatorGlobalIndex (List Nat)} {T : Nat} {cc : ChainConfig}
    (hX : ∀ g ∈ V.keys, g ∈ X.keys) (hR : ∀ g ∈ V.keys, g ∈ R.keys) :
    (getRecentlyRequestedButNotExitedValidators V X R T bs cc).isSome := by
  rw [getRecentlyRequestedButNotExitedValidators_eq_some
    (F := fun p => (recentlyRequestedButNotExitedOf X R T bs cc p.1 p.2).getD ([], 0)) fun p hp => ?_]
  · rfl
  · have hg : p.1 ∈ V.keys := List.mem_map_of_mem Prod.fst hp
    obtain ⟨x, hx⟩ := Dict.mem_keys.1 (hX _ hg)
    obtain ⟨rs, hrs⟩ := Dict.mem_keys.1 (hR _ hg)
    simp [recentlyRequestedButNotExitedOf_of_get? hx hrs]

end Reports

/-! ## One snapshot -/

/-- When the exit bus answers one index per operator id, the last requested indexes are keyed by
the router's operators. -/
theorem Snapshot.mem_keys_lastExitedValidatorIndexes {s : Snapshot}
    (hl : ∀ m ∈ s.stakingModules, ∀ ids,
      (s.getLastRequestedValidatorIndices m.id ids).length = ids.length)
    (g : NodeOperatorGlobalIndex) :
    g ∈ s.lastExitedValidatorIndexes.keys ↔ g ∈ s.nodeOperators.map NodeOperator.globalIndex := by
  rw [Snapshot.lastExitedValidatorIndexes,
    mem_keys_getOperatorsWithLastExitedValidatorIndexes fun m hm ids => (hl m hm ids).ge,
    List.mem_map]
  exact exists_congr fun op => and_congr_right fun hop => and_iff_right
    (List.mem_map_of_mem _ (stakingModule_mem_of_mem_getLidoNodeOperators hop))

/-- For a snapshot whose modules have distinct ids, whose modules' operators have distinct ids,
whose exit bus answers one index per operator id, and whose delayed window's events name operators
of the router, and on which the grouping of validators returns: the operators' global indexes are
distinct and are the keys of the validators' dict and of the last requested indexes, each operator's
last requested index is the answer at its position among the operator ids its module's pass sends,
and the stuck, exited and recently requested validators are all computed. -/
theorem snapshot_operator_dicts_agree {s : Snapshot}
    (hm : (s.stakingModules.map StakingModule.id).Nodup)
    (hr : ∀ m ∈ s.stakingModules,
      ((s.getAllNodeOperatorReports m.id).map NodeOperatorReport.id).Nodup)
    (hl : ∀ m ∈ s.stakingModules, ∀ ids,
      (s.getLastRequestedValidatorIndices m.id ids).length = ids.length)
    (he : ∀ e ∈ s.delayedWindowEvents,
      (e.stakingModuleId, e.nodeOperatorId) ∈ s.nodeOperators.map NodeOperator.globalIndex)
    (hV : s.validatorsByNodeOperators.isSome) :
    (s.nodeOperators.map NodeOperator.globalIndex).Nodup ∧
    ∃ V, s.validatorsByNodeOperators = some V ∧
      (∀ g, g ∈ V.keys ↔ g ∈ s.nodeOperators.map NodeOperator.globalIndex) ∧
      (∀ g, g ∈ s.lastExitedValidatorIndexes.keys ↔
        g ∈ s.nodeOperators.map NodeOperator.globalIndex) ∧
      (∀ m ∈ s.stakingModules, ∀ id w, s.lastExitedValidatorIndexes.get? (m.id, id) = some w ↔
        (id, w) ∈ ((s.nodeOperators.filter (·.stakingModule.id = m.id)).map (·.id)).zip
          (s.getLastRequestedValidatorIndices m.id
            ((s.nodeOperators.filter (·.stakingModule.id = m.id)).map (·.id)))) ∧
      s.newlyStuckValidators.isSome ∧ s.newlyExitedValidators.isSome ∧
      s.recentlyRequestedButNotExitedValidators.isSome := by
  have hn : (s.nodeOperators.map NodeOperator.globalIndex).Nodup := nodup_getLidoNodeOperators hm hr
  obtain ⟨V, hV⟩ := Option.isSome_iff_exists.1 hV
  have hVk := mem_keys_getLidoValidatorsByNodeOperators hV
  have hXk := Snapshot.mem_keys_lastExitedValidatorIndexes hl
  have hop : ∀ op ∈ s.nodeOperators, op.globalIndex ∈ V.keys := fun op hop =>
    (hVk _).2 (List.mem_map_of_mem _ hop)
  have hX : ∀ g ∈ V.keys, g ∈ s.lastExitedValidatorIndexes.keys := fun g hg =>
    (hXk g).2 ((hVk g).1 hg)
  obtain ⟨R, hR, hRk, -⟩ := getRecentlyRequestsToExitIndexesByOperators_spec fun e h =>
    (hVk _).2 (he e h)
  refine ⟨hn, V, hV, hVk, hXk, fun m hmem id w =>
    get?_getOperatorsWithLastExitedValidatorIndexes hm (fun m _ => nodup_operatorIds hn m.id)
      (fun m hm ids => (hl m hm ids).ge) hmem id w, ?_, ?_, ?_⟩
  · simpa [Snapshot.newlyStuckValidators, hV] using getCatalistNewlyStuckValidators_isSome hn hop hX
  · simpa [Snapshot.newlyExitedValidators, hV] using getCatalistNewlyExitedValidators_isSome hn hop
  · simpa [Snapshot.recentlyRequestedButNotExitedValidators, hV, hR] using
      getRecentlyRequestedButNotExitedValidators_isSome hX fun g hg => (hRk g).2 hg

/-- One module at `0x0a` with operator 0, one key and its validator, the exit bus answering index 0
for every operator, and one exit request for that validator in the delayed window. -/
def oneModuleSnapshot : Snapshot where
  blockstamp := ⟨10000, 312⟩
  chainConfig := slotsPerEpoch32
  stakingModules := [⟨1, "0x0a"⟩]
  getAllNodeOperatorReports := fun _ => [⟨0, 0, 0⟩]
  keys := [⟨"0x01", "0x0a", 0⟩]
  validators := [⟨0, ⟨"0x01", 0, FAR_FUTURE_EPOCH⟩⟩]
  getLastRequestedValidatorIndices := fun _ ids => ids.map fun _ => 0
  delinquentTimeoutInSlots := 0
  delayedTimeoutInSlots := 0
  delinquentWindowEvents := []
  delayedWindowEvents := [⟨1, 0, 0, "0x01"⟩]

theorem snapshot_operator_dicts_agree_example :
    (oneModuleSnapshot.nodeOperators.map NodeOperator.globalIndex).Nodup ∧
    ∃ V, oneModuleSnapshot.validatorsByNodeOperators = some V ∧
      (∀ g, g ∈ V.keys ↔ g ∈ oneModuleSnapshot.nodeOperators.map NodeOperator.globalIndex) ∧
      (∀ g, g ∈ oneModuleSnapshot.lastExitedValidatorIndexes.keys ↔
        g ∈ oneModuleSnapshot.nodeOperators.map NodeOperator.globalIndex) ∧
      (∀ m ∈ oneModuleSnapshot.stakingModules, ∀ id w,
        oneModuleSnapshot.lastExitedValidatorIndexes.get? (m.id, id) = some w ↔
          (id, w) ∈ ((oneModuleSnapshot.nodeOperators.filter (·.stakingModule.id = m.id)).map
            (·.id)).zip (oneModuleSnapshot.getLastRequestedValidatorIndices m.id
              ((oneModuleSnapshot.nodeOperators.filter (·.stakingModule.id = m.id)).map (·.id)))) ∧
      oneModuleSnapshot.newlyStuckValidators.isSome ∧
      oneModuleSnapshot.newlyExitedValidators.isSome ∧
      oneModuleSnapshot.recentlyRequestedButNotExitedValidators.isSome :=
  snapshot_operator_dicts_agree (by decide) (by decide) (by simp [oneModuleSnapshot]) (by decide)
    (by decide)

end CatalistOracle
