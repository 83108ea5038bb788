import VisionForge.PairSecurity.Generations
import VisionForge.PairSecurity.Lineage
import Mathlib.Data.List.Range

/-! # Runs of allocations

The high-water mark of a pair is the number of its allocations: advancing it and
inserting the allocation are one unit of work, and no other request touches either. An
allocation stays, so a retry finds it and changes nothing.
-/

namespace VisionForge.PairSecurity

open Lib.Ascii Lib.Run Lib.Table Lib.Transaction Server UsageRepository

/-! ## What requests leave of the high-water marks -/

def highWaters (s : SecuredDatabase) : List (Bytes × Nat) :=
  s.pairs.map (fun row => (row.pairId, row.generationHighWater))

/-- The marks are as before, and new pairs start at zero. -/
def Extends (waters : List (Bytes × Nat)) (s : SecuredDatabase) : Prop :=
  ∃ added : List Bytes, highWaters s = waters ++ added.map (fun pairId => (pairId, 0))

section

variable {waters : List (Bytes × Nat)} {now : Nat} {prims : ServicePrimitives}

theorem Extends.refl (s : SecuredDatabase) : Extends (highWaters s) s := ⟨[], by simp⟩

theorem Extends.of_same {s t : SecuredDatabase} (h : Extends waters s)
    (same : highWaters t = highWaters s) : Extends waters t := by
  obtain ⟨added, line⟩ := h
  exact ⟨added, same.trans line⟩

theorem updatePairs_extends (cond : PairSecurityRow → Bool)
    {change : PairSecurityRow → PairSecurityRow}
    (keeps : ∀ row, (change row).pairId = row.pairId ∧
      (change row).generationHighWater = row.generationHighWater) :
    Preserves (Extends waters) (updatePairs cond change) := by
  intro s count t h holds
  obtain ⟨-, pairs, -⟩ := updatePairs_eq_ok h
  apply holds.of_same
  rw [highWaters, pairs]
  exact map_update fun row _ _ => Prod.ext (keeps row).1 (keeps row).2

theorem onTables_extends {α : Type} (body : Statement α) :
    Preserves (Extends waters) (onTables body) := by
  intro s value t h holds
  obtain ⟨tables, -, rfl⟩ := onTables_eq_ok.mp h
  exact holds

theorem requiredState_extends (pairId : Bytes) :
    Preserves (Extends waters) (requiredState pairId) := by
  intro s row t h holds
  obtain ⟨rfl, -, -⟩ := requiredState_eq_ok h
  exact holds

theorem transitionState_extends (state : PairSecurityRow) (target : AssuranceState) :
    Preserves (Extends waters) (transitionState state target now) :=
  (updatePairs_extends _ (by intro _; exact ⟨rfl, rfl⟩)).bind fun _ =>
    (Preserves.require _ _).bind fun _ => requiredState_extends _

theorem unblock_extends (state : PairSecurityRow) :
    Preserves (Extends waters) (unblock state now) := by
  unfold unblock
  split
  · exact transitionState_extends state _
  · exact .pure state

theorem activateExistingState_extends (state : PairSecurityRow) :
    Preserves (Extends waters) (activateExistingState state now) := by
  unfold activateExistingState
  split
  · exact .pure state
  · exact (unblock_extends state).bind fun _ => (Preserves.require _ _).bind fun _ =>
      transitionState_extends _ _

theorem transitionToRecovery_extends (state : PairSecurityRow) :
    Preserves (Extends waters) (transitionToRecovery state now) := by
  unfold transitionToRecovery
  split
  · exact .pure state
  · exact (Preserves.require _ _).bind fun _ => transitionState_extends _ _

theorem rotateOut_extends (predecessor : Option PairSecurityRow) :
    Preserves (Extends waters) (rotateOut predecessor now) := by
  cases predecessor with
  | none => exact .pure _
  | some state =>
    refine Preserves.map ?_
    unfold rotatePredecessor
    split
    · exact .pure state
    · exact (unblock_extends state).bind fun _ => (Preserves.require _ _).bind fun _ =>
        transitionState_extends _ _

theorem commitReactivation_extends (cur : Option PairSecurityRow) (live : LiveBinding) :
    Preserves (Extends waters) (commitReactivation cur live now) := by
  refine (Preserves.unwrap _ _).bind fun state => ?_
  refine (Preserves.require _ _).bind fun _ => (Preserves.require _ _).bind fun _ => ?_
  refine (transitionToRecovery_extends state).bind fun recovery => ?_
  exact (updatePairs_extends _ (by intro _; exact ⟨rfl, rfl⟩)).bind fun _ =>
    (Preserves.require _ _).bind fun _ => requiredState_extends _

theorem requireLiveBinding_extends (identity : PairIdentity) :
    Preserves (Extends waters) (requireLiveBinding identity) := by
  intro s _ t h holds
  obtain rfl := requireLiveBinding_eq_ok h
  exact holds

theorem registerPending_extends (identity : PairIdentity) (predecessorPairId : Option Bytes) :
    Preserves (Extends waters) (registerPending identity predecessorPairId now) := by
  intro s row t h holds
  replace h := read_ok h rfl
  split at h
  · rw [require_ok] at h
    exact ((requireLiveBinding_extends identity).bind fun _ => .pure _) _ _ _ h.2 holds
  · rw [bind_ok] at h
    obtain ⟨⟨⟩, _, requiring, h⟩ := h
    obtain rfl := requireLiveBinding_eq_ok requiring
    rw [get_ok] at h
    rw [require_ok, bind_ok] at h
    obtain ⟨-, ⟨⟩, u, writing, reading⟩ := h
    obtain ⟨-, pairs⟩ := writePairs_eq_ok (recast_eq_ok.mp writing)
    obtain ⟨rfl, -, -⟩ := requiredState_eq_ok reading
    obtain ⟨added, line⟩ := holds
    refine ⟨added ++ [identity.pairId], ?_⟩
    rw [highWaters, pairs, List.map_append, ← highWaters, line]
    simp

theorem predecessorForNewBinding_extends (activationMode : ActivationMode)
    (states : List PairSecurityRow) :
    Preserves (Extends waters) (predecessorForNewBinding activationMode states) := by
  unfold predecessorForNewBinding
  split
  · exact .pure _
  · exact .raise _
  · exact .pure _
  · exact .raise _
  · exact .raise _

theorem commitVerifiedBinding_extends (proof : VerifiedActivationBindingProof)
    (entId : Bytes) :
    Preserves (Extends waters) (commitVerifiedBinding proof entId now) := by
  refine (Preserves.require _ _).bind fun _ => (Preserves.require _ _).bind fun _ => ?_
  refine Preserves.bind ?_ fun live => (Preserves.require _ _).bind fun _ =>
    Preserves.get.bind fun db => ?_
  · intro s live t h holds
    obtain rfl := (liveBinding_eq_ok h).1
    exact holds
  dsimp only
  split
  · exact commitReactivation_extends _ live
  split
  · exact (Preserves.require _ _).bind fun _ => activateExistingState_extends _
  · refine (predecessorForNewBinding_extends _ _).bind fun predecessor => ?_
    refine (rotateOut_extends predecessor).bind fun _ => (Preserves.require _ _).bind fun _ => ?_
    exact (registerPending_extends _ _).bind fun _ => activateExistingState_extends _

theorem confirmActivation_extends {settings : DualMachineSettings} {seen : Database}
    {cmd : ConfirmCommand} {ids : ActivationIds} :
    Preserves (Extends waters) (confirmActivation settings prims seen cmd ids now) :=
  confirmActivation_preserves onTables_extends commitVerifiedBinding_extends

theorem revokeEntitlement_extends (entId : Bytes) :
    Preserves (Extends waters) (revokeEntitlement entId now) := by
  refine (onTables_extends _).bind fun row => ?_
  split
  · refine (onTables_extends _).bind fun _ => Preserves.bind ?_ fun _ => onTables_extends _
    exact (updatePairs_extends _ (by intro _; exact ⟨rfl, rfl⟩)).bind fun _ => .require _ _
  · exact onTables_extends _

theorem unbindEntitlementDevice_extends (entId bindingId pairId : Bytes) :
    Preserves (Extends waters) (unbindEntitlementDevice entId bindingId pairId now) := by
  refine (onTables_extends _).bind fun _ => Preserves.bind ?_ fun _ => onTables_extends _
  refine Preserves.get.bind fun _ => (Preserves.unwrap _ _).bind fun state => ?_
  split
  · exact (updatePairs_extends _ (by intro _; exact ⟨rfl, rfl⟩)).bind fun _ => .require _ _
  · exact .require _ _

theorem securedBody_extends {service : UsageService} (op : ServerOp) :
    Preserves (Extends waters) (securedBody service prims op) := by
  cases op with
  | confirmActivation seen cmd ids outcome now => exact confirmActivation_extends.map
  | revokeEntitlement entId outcome now => exact (revokeEntitlement_extends _).map
  | unbindEntitlementDevice entId bindingId pairId outcome now =>
    exact (unbindEntitlementDevice_extends _ _ _).map
  | _ => exact onTables_extends _

/-- A request of the service leaves the marks of pairs. -/
theorem securedStep_extends {service : UsageService} (s : SecuredDatabase) (op : ServerOp) :
    Extends (highWaters s) (securedStep service prims s op).1 := by
  by_cases plain : changesPairs op = false
  · rw [securedStep_plain plain]
    exact .refl s
  · cases op with
    | confirmActivation => exact (securedBody_extends _).atomically (.refl s)
    | revokeEntitlement => exact (securedBody_extends _).atomically (.refl s)
    | unbindEntitlementDevice => exact (securedBody_extends _).atomically (.refl s)
    | _ => exact absurd rfl plain

end

/-! ## Statements -/

section

variable {s t : GenerationDatabase}

theorem onPairs_eq_ok {α : Type} {body : SecuredStatement α} {value : α} :
    (onPairs body).run s = .ok (value, t) ↔
      ∃ secured, body.run s.secured = .ok (value, secured) ∧ t = { s with secured := secured } :=
  onPart_eq_ok

/-- A challenge keeps its content, and once it is settled it stays as it is. -/
structure LaterChallenge (old new : PairGenerationChallenge) : Prop where
  challengeId : new.challengeId = old.challengeId
  consumed : old.status = .consumed → new.status = .consumed

theorem LaterChallenge.refl (row : PairGenerationChallenge) : LaterChallenge row row := ⟨rfl, id⟩

theorem laterChallenge_of_accepted {old new : PairGenerationChallenge}
    (ok : challengeUpdateAccepted old new = true) : LaterChallenge old new := by
  simp only [challengeUpdateAccepted, PairGenerationChallenge.isIssued, Bool.and_eq_true,
    Bool.or_eq_true, beq_iff_eq, decide_eq_true_eq] at ok
  obtain ⟨⟨⟨⟨⟨⟨⟨⟨sameId, -⟩, -⟩, -⟩, -⟩, -⟩, -⟩, -⟩, settled⟩ := ok
  refine ⟨sameId, ?_⟩
  intro used
  cases settled with
  | inl issued => simp [used] at issued
  | inr kept => exact kept.1.trans used

theorem writeGenerationChallenges_eq_ok {rows : List PairGenerationChallenge}
    (h : (writeGenerationChallenges rows).run s = .ok ((), t)) :
    t.secured = s.secured ∧ t.allocations = s.allocations ∧ t.challenges = rows := by
  unfold writeGenerationChallenges at h
  split at h
  · cases h
    exact ⟨rfl, rfl, rfl⟩
  · cases h

theorem updateGenerationChallenges_eq_ok {cond : PairGenerationChallenge → Bool}
    {change : PairGenerationChallenge → PairGenerationChallenge} {count : Nat}
    (h : (updateGenerationChallenges cond change).run s = .ok (count, t)) :
    t.secured = s.secured ∧ t.allocations = s.allocations ∧
      List.Forall₂ LaterChallenge s.challenges t.challenges := by
  unfold updateGenerationChallenges at h
  rw [get_ok, require_ok, bind_ok] at h
  obtain ⟨accepted, ⟨⟩, u, writing, last⟩ := h
  cases last
  obtain ⟨secured, allocations, challenges⟩ := writeGenerationChallenges_eq_ok writing
  refine ⟨secured, allocations, ?_⟩
  rw [challenges]
  exact forall₂_update .refl fun row mem sel =>
    laterChallenge_of_accepted (accepted row mem sel)

def KeepsConsumed (s t : GenerationDatabase) : Prop :=
  ∀ old ∈ s.challenges, old.status = .consumed →
    ∃ new ∈ t.challenges, new.challengeId = old.challengeId ∧ new.status = .consumed

theorem KeepsConsumed.of_later (later : List.Forall₂ LaterChallenge s.challenges t.challenges) :
    KeepsConsumed s t := by
  intro old mem used
  obtain ⟨new, hrow, follows⟩ := exists_of_mem_before later mem
  exact ⟨new, hrow, follows.challengeId, follows.consumed used⟩

variable {row : PairGenerationAllocation}

theorem createAllocation_eq_ok (h : (createAllocation row).run s = .ok ((), t)) :
    t.secured = s.secured ∧ t.challenges = s.challenges ∧
      t.allocations = s.allocations ++ [row] ∧ allocationAuthorized s row = true := by
  unfold createAllocation at h
  rw [get_ok, require_ok] at h
  obtain ⟨authorized, h⟩ := h
  split at h
  · cases h
    exact ⟨rfl, rfl, rfl, authorized⟩
  · cases h

/-! ## Checks -/

/-- What identifies a pair to the repository is well formed. -/
def ExpectedPair.Normalized (want : ExpectedPair) : Prop :=
  isNonzeroLowerHex want.hostKeySha256 64 = true ∧
    isNonzeroLowerHex want.androidKeySha256 64 = true ∧
    want.hostKeySha256 ≠ want.androidKeySha256 ∧ isIdentifier want.pairId = true ∧
    isIdentifier want.bindingId = true ∧
    ((false = true ∨ 1 ≤ want.bindingRevision) ∧
      fitsInteger want.bindingRevision = true) ∧
    (false = true ∨ 1 ≤ want.revocationVersion) ∧
      fitsInteger want.revocationVersion = true

variable {want : ExpectedPair}

theorem ExpectedPair.normalize_eq_ok :
    want.normalize.run s = .ok ((), t) ↔ want.Normalized ∧ t = s := by
  unfold ExpectedPair.normalize requireSha256 requireIdentifier requireSigned64
  rw [require_ok, require_ok, require_ok, require_ok,
    require_ok, require_ok, ← bind_pure (require _ _), require_ok,
    pure_eq_ok, ExpectedPair.Normalized]
  simp only [and_assoc, Prod.mk.injEq, true_and]

/-- The content of an allocation request is well formed. -/
def AllocationProposal.Normalized (proposal : AllocationProposal) : Prop :=
  isIdentifier proposal.allocationRequestId = true ∧
    isNonzeroLowerHex proposal.requestPayloadSha256 64 = true ∧
    isIdentifier proposal.challengeId = true ∧
    ((false = true ∨ 1 ≤ proposal.connectionId) ∧ fitsInteger proposal.connectionId = true) ∧
    isNonzeroLowerHex proposal.transcriptProposalSha256 64 = true ∧
    (true = true ∨ 1 ≤ proposal.nowEpoch) ∧ fitsInteger proposal.nowEpoch = true

variable {proposal : AllocationProposal}

theorem AllocationProposal.normalize_eq_ok :
    proposal.normalize.run s = .ok ((), t) ↔ proposal.Normalized ∧ t = s := by
  unfold AllocationProposal.normalize requireSha256 requireIdentifier requireSigned64
  rw [require_ok, require_ok, require_ok, require_ok,
    require_ok, ← bind_pure (require _ _), require_ok, pure_eq_ok,
    AllocationProposal.Normalized]
  simp only [and_assoc, Prod.mk.injEq, true_and]

/-- The live context of a pair is the one that a request names. -/
structure PairContextRow.Matches (row : PairContextRow) (expected : ExpectedPair) : Prop where
  bindingId : row.state.bindingId = expected.bindingId
  bindingRevision : row.state.bindingRevision = expected.bindingRevision
  revocationVersion : row.state.revocationVersion = expected.revocationVersion ∧
    row.entitlement.revocationVersion = expected.revocationVersion
  entitled : row.entitlement.status = .active
  current : row.binding.isCurrent = true
  pairId : row.binding.pairId = expected.pairId
  identity : row.state.hostKeySha256 = row.binding.hostKeySha256 ∧
    row.state.androidKeySha256 = row.binding.androidKeySha256 ∧
    row.state.hostKeySha256 = expected.hostKeySha256 ∧
    row.state.androidKeySha256 = expected.androidKeySha256
  active : row.state.assuranceState = .active

/-- The pair of a request is active as the request names it. -/
def ActiveContext (want : ExpectedPair) (s : SecuredDatabase) : Prop :=
  ∃ row, pairContextRow s want.pairId = some row ∧ row.Matches want

theorem requireActivePairContext_eq_ok {state : PairSecurityRow} :
    (requireActivePairContext want).run s = .ok (state, t) ↔
      ∃ row, pairContextRow s.secured want.pairId = some row ∧ row.Matches want ∧
        state = row.state ∧ t = s := by
  unfold requireActivePairContext checkStateRow
  rw [get_ok, unwrap_ok]
  simp only [bind_assoc, require_ok, pure_eq_ok, Prod.mk.injEq]
  constructor
  · rintro ⟨row, found, a, b, c, d, e, f, g, h, same, same'⟩
    exact ⟨row, found, ⟨a, b, c, d, e, f, g, h⟩, same, same'⟩
  · rintro ⟨row, found, ⟨a, b, c, d, e, f, g, h⟩, same, same'⟩
    exact ⟨row, found, a, b, c, d, e, f, g, h, same, same'⟩

theorem pairContextRow_state {s : SecuredDatabase} {pairId : Bytes} {row : PairContextRow}
    (found : pairContextRow s pairId = some row) :
    row.state ∈ s.pairs ∧ row.state.pairId = pairId := by
  unfold pairContextRow at found
  simp only [Option.bind_eq_bind, Option.bind_eq_some_iff] at found
  obtain ⟨state, isState, ent, -, binding, -, same⟩ := found
  cases same
  exact lookup_key isState

/-! ## Allocating -/

def advanced (now : Nat) (row : PairSecurityRow) : PairSecurityRow :=
  { row with generationHighWater := row.generationHighWater + 1, updatedAtEpoch := now }

structure Advances (context : PairSecurityRow) (now : Nat) (s t : SecuredDatabase) : Prop where
  member : context ∈ s.pairs
  tables : t.tables = s.tables
  pairs : t.pairs = update (fun row => decide (row = context)) (advanced now) s.pairs

variable {context : PairSecurityRow}

theorem advanceGenerationHighWater_eq_ok {now gen : Nat} (mem : context ∈ s.secured.pairs)
    (on : context.assuranceState = .active)
    (h : (advanceGenerationHighWater context now).run s = .ok (gen, t)) :
    gen = context.generationHighWater + 1 ∧ t.challenges = s.challenges ∧
      t.allocations = s.allocations ∧ Advances context now s.secured t.secured := by
  unfold advanceGenerationHighWater at h
  rw [require_ok, bind_ok] at h
  obtain ⟨-, count, u, updating, h⟩ := h
  obtain ⟨secured, inner, rfl⟩ := onPairs_eq_ok.mp updating
  obtain ⟨tables, pairs, -⟩ := updatePairs_eq_ok inner
  rw [require_ok] at h
  cases h.2
  refine ⟨rfl, rfl, rfl, mem, tables, pairs.trans ?_⟩
  apply update_congr
  intro row hrow
  -- the key alone selects the row
  by_cases same : row = context
  · simp [same, on]
  · have other : ¬row.pairId = context.pairId := fun key => same (pair_unique mem hrow key)
    simp [same, other]

theorem allocationRow_ok {α : Type} {requestId : Bytes} {result : α × GenerationDatabase}
    {next : Option PairGenerationAllocation → GenerationStatement α} :
    (allocationRow requestId >>= next).run s = .ok result ↔
      (next (lookup PairGenerationAllocation.allocationRequestId requestId s.allocations)).run s =
        .ok result := by
  unfold allocationRow
  rw [bind_assoc, get_ok, pure_bind]

variable {chal : PairGenerationChallenge}

theorem requireIssuedChallenge_eq_ok
    (h : (requireIssuedChallenge want proposal).run s = .ok (chal, t)) : t = s := by
  unfold requireIssuedChallenge at h
  rw [get_ok, unwrap_ok] at h
  simp only [require_ok, pure_eq_ok, Prod.mk.injEq] at h
  obtain ⟨_, -, -, -, -, -, -, same⟩ := h
  exact same

theorem consumeGenerationChallenge_eq_ok {now : Nat}
    (h : (consumeGenerationChallenge chal now).run s = .ok ((), t)) :
    t.secured = s.secured ∧ t.allocations = s.allocations ∧
      List.Forall₂ LaterChallenge s.challenges t.challenges := by
  obtain ⟨count, u, updating, h⟩ := bind_ok.mp h
  rw [← bind_pure (require _ _), require_ok] at h
  cases h.2
  exact updateGenerationChallenges_eq_ok updating

def allocated (want : ExpectedPair) (proposal : AllocationProposal) (generation : Nat) :
    PairGenerationAllocation where
  allocationRequestId := proposal.allocationRequestId
  requestPayloadSha256 := proposal.requestPayloadSha256
  challengeId := proposal.challengeId
  pairId := want.pairId
  bindingRevision := want.bindingRevision
  generation := generation
  connectionId := proposal.connectionId
  transcriptProposalSha256 := proposal.transcriptProposalSha256
  allocatedAtEpoch := proposal.nowEpoch

theorem insertAllocation_eq_ok {gen : Nat}
    (h : (insertAllocation want proposal gen).run s = .ok ((), t)) :
    t.secured = s.secured ∧ t.challenges = s.challenges ∧
      t.allocations = s.allocations ++ [allocated want proposal gen] ∧
      allocationAuthorized s (allocated want proposal gen) = true :=
  createAllocation_eq_ok (recast_eq_ok.mp h)

/-- A challenge gives a pair its next generation. -/
structure Allocates (expected : ExpectedPair) (proposal : AllocationProposal)
    (context : PairSecurityRow) (s t : GenerationDatabase) : Prop where
  pairId : context.pairId = expected.pairId
  advances : Advances context proposal.nowEpoch s.secured t.secured
  allocations : t.allocations = s.allocations ++
    [allocated expected proposal (context.generationHighWater + 1)]
  challenges : KeepsConsumed s t
  consumed : ∃ challenge ∈ t.challenges, challenge.challengeId = proposal.challengeId ∧
    challenge.status = .consumed

/-- The allocation is the one that a request asks for. -/
structure AnswersRequest (expected : ExpectedPair) (proposal : AllocationProposal)
    (row : PairGenerationAllocation) : Prop where
  requestId : row.allocationRequestId = proposal.allocationRequestId
  exact : exactAllocationRetry row expected proposal = true

theorem answersRequest_allocated (want : ExpectedPair) (proposal : AllocationProposal)
    (gen : Nat) :
    AnswersRequest want proposal (allocated want proposal gen) :=
  ⟨rfl, by simp [exactAllocationRetry, allocated]⟩

/-- A request finds its allocation or makes it. -/
theorem allocate_eq_ok (h : (allocate want proposal).run s = .ok (row, t)) :
    ActiveContext want s.secured ∧ AnswersRequest want proposal row ∧
      row ∈ t.allocations ∧
      (t = s ∨ ∃ context, Allocates want proposal context s t) := by
  unfold allocate at h
  rw [allocationRow_ok, bind_ok] at h
  obtain ⟨context, _, requiring, h⟩ := h
  obtain ⟨live, found, isLive, rfl, unchanged⟩ := requireActivePairContext_eq_ok.mp requiring
  obtain rfl := unchanged.symm
  refine ⟨⟨live, found, isLive⟩, ?_⟩
  split at h
  · rename_i existing isExisting
    obtain ⟨member, key⟩ := lookup_key isExisting
    rw [require_ok] at h
    cases h.2
    exact ⟨⟨key, h.1⟩, member, .inl rfl⟩
  · rename_i isNew
    obtain ⟨member, pairId⟩ := pairContextRow_state found
    obtain ⟨chal, _, issued, h⟩ := bind_ok.mp h
    obtain rfl := (requireIssuedChallenge_eq_ok issued).symm
    obtain ⟨gen, u, advancing, h⟩ := bind_ok.mp h
    obtain ⟨rfl, challenges, allocations, advances⟩ :=
      advanceGenerationHighWater_eq_ok member isLive.active advancing
    obtain ⟨⟨⟩, v, consuming, h⟩ := bind_ok.mp h
    obtain ⟨secured, allocations', later⟩ := consumeGenerationChallenge_eq_ok consuming
    obtain ⟨⟨⟩, w, inserting, h⟩ := bind_ok.mp h
    obtain ⟨secured', challenges', table, authorized⟩ := insertAllocation_eq_ok inserting
    rw [allocationRow_ok, ← bind_pure (unwrap _ _), unwrap_ok] at h
    obtain ⟨read, isRead, last⟩ := h
    cases last
    rw [allocations', allocations] at table
    rw [challenges] at later
    -- the row that was inserted is read back
    have fresh := @lookup_append _ _ _ PairGenerationAllocation.allocationRequestId s.allocations
      (allocated want proposal (live.state.generationHighWater + 1)) isNew
    rw [← table] at fresh
    cases fresh.symm.trans isRead
    simp only [allocationAuthorized, List.any_eq_true, Bool.and_eq_true, beq_iff_eq,
      decide_eq_true_eq] at authorized
    obtain ⟨settled, inChallenges, ⟨⟨⟨⟨⟨sameId, -⟩, -⟩, -⟩, used⟩, -⟩, -⟩ := authorized
    refine ⟨answersRequest_allocated _ _ _, by simp [table], .inr ⟨live.state, ?_⟩⟩
    constructor
    · exact pairId
    · rw [secured', secured]
      exact advances
    · exact table
    · rw [← challenges'] at later
      exact .of_later later
    · rw [challenges']
      exact ⟨settled, inChallenges, sameId, used⟩

/-! ## Issuing challenges -/

structure Issues (s t : GenerationDatabase) : Prop where
  secured : t.secured = s.secured
  allocations : t.allocations = s.allocations
  challenges : KeepsConsumed s t

theorem Issues.refl (s : GenerationDatabase) : Issues s s :=
  ⟨rfl, rfl, fun old mem used => ⟨old, mem, rfl, used⟩⟩

theorem challengeRetry_eq_ok {stable : Bool} {row : PairGenerationChallenge}
    {proposal : ChallengeProposal}
    (h : (challengeRetry stable row want proposal).run s = .ok (chal, t)) : t = s := by
  unfold challengeRetry at h
  simp only [require_ok, pure_eq_ok, Prod.mk.injEq] at h
  obtain ⟨-, -, -, -, same⟩ := h
  exact same

theorem issueChallenge_eq_ok {proposal : ChallengeProposal}
    (h : (issueChallenge want proposal).run s = .ok (chal, t)) : Issues s t := by
  unfold issueChallenge at h
  rw [get_ok] at h
  split at h
  · obtain rfl := (challengeRetry_eq_ok h).symm
    exact .refl s
  · obtain ⟨count, u, expiring, h⟩ := bind_ok.mp h
    obtain ⟨secured, allocations, later⟩ := updateGenerationChallenges_eq_ok expiring
    rw [get_ok, bind_ok] at h
    obtain ⟨⟨⟩, v, writing, h⟩ := h
    obtain ⟨secured', allocations', challenges⟩ :=
      writeGenerationChallenges_eq_ok (recast_eq_ok.mp writing)
    unfold requiredChallenge at h
    rw [get_ok, ← bind_pure (unwrap _ _), unwrap_ok] at h
    obtain ⟨read, -, last⟩ := h
    cases last
    refine ⟨secured'.trans secured, allocations'.trans allocations, ?_⟩
    intro old mem used
    obtain ⟨new, hrow, sameId, settled⟩ := KeepsConsumed.of_later later old mem used
    refine ⟨new, ?_, sameId, settled⟩
    rw [challenges]
    exact List.mem_append_left _ hrow

theorem besides_eq_ok {outcome : Option ServerException} :
    (besides outcome).run s = .ok ((), t) ↔ outcome = none ∧ t = s := by
  cases outcome with
  | none =>
    rw [besides, pure_eq_ok, Prod.mk.injEq]
    simp
  | some error => simp [besides, raise_eq_ok]

theorem ChallengeProposal.normalize_eq_ok {proposal : ChallengeProposal}
    (h : proposal.normalize.run s = .ok ((), t)) : t = s := by
  have reads : Preserves (fun u => u = s) proposal.normalize :=
    (Preserves.require _ _).bind fun _ => (Preserves.require _ _).bind fun _ =>
      (Preserves.require _ _).bind fun _ => (Preserves.require _ _).bind fun _ =>
        (Preserves.require _ _).bind fun _ => (Preserves.require _ _).bind fun _ => .require _ _
  exact reads _ _ _ h rfl

theorem issueGenerationChallenge_eq_ok {proposal : ChallengeProposal}
    {outcome : Option ServerException}
    (h : (issueGenerationChallenge want proposal outcome).run s = .ok (chal, t)) :
    Issues s t := by
  obtain ⟨⟨⟩, _, normalizing, h⟩ := bind_ok.mp h
  obtain rfl := (ExpectedPair.normalize_eq_ok.mp normalizing).2.symm
  obtain ⟨⟨⟩, _, normalizing', h⟩ := bind_ok.mp h
  obtain rfl := (ChallengeProposal.normalize_eq_ok normalizing').symm
  obtain ⟨context, _, requiring, h⟩ := bind_ok.mp h
  obtain ⟨_, -, -, -, unchanged⟩ := requireActivePairContext_eq_ok.mp requiring
  obtain rfl := unchanged.symm
  obtain ⟨issued, u, issuing, h⟩ := bind_ok.mp h
  obtain ⟨⟨⟩, _, finishing, last⟩ := bind_ok.mp h
  obtain rfl := (besides_eq_ok.mp finishing).2.symm
  cases last
  exact issueChallenge_eq_ok issuing

theorem issueOrReplayGenerationChallenge_eq_ok {proposal : ChallengeProposal}
    {challengeTtlSeconds : Nat}
    (h : (issueOrReplayGenerationChallenge want proposal challengeTtlSeconds).run s =
      .ok (chal, t)) : Issues s t := by
  unfold issueOrReplayGenerationChallenge requireSigned64 at h
  rw [bind_ok] at h
  obtain ⟨⟨⟩, _, normalizing, h⟩ := h
  obtain rfl := (ExpectedPair.normalize_eq_ok.mp normalizing).2.symm
  rw [require_ok, require_ok] at h
  rw [bind_ok] at h
  obtain ⟨-, -, ⟨⟩, _, normalizing', h⟩ := h
  obtain rfl := (ChallengeProposal.normalize_eq_ok normalizing').symm
  rw [bind_ok] at h
  obtain ⟨context, _, requiring, h⟩ := h
  obtain ⟨_, -, -, -, unchanged⟩ := requireActivePairContext_eq_ok.mp requiring
  obtain rfl := unchanged.symm
  rw [get_ok] at h
  split at h
  · obtain rfl := (challengeRetry_eq_ok h).symm
    exact .refl s
  · exact issueChallenge_eq_ok h

/-- Without a failure besides, the request is well formed and its pair gets the allocation. -/
theorem allocateGeneration_eq_ok {outcome : Option ServerException} :
    (allocateGeneration want proposal outcome).run s = .ok (row, t) ↔
      want.Normalized ∧ proposal.Normalized ∧ outcome = none ∧
        (allocate want proposal).run s = .ok (row, t) := by
  unfold allocateGeneration
  rw [bind_ok]
  constructor
  · rintro ⟨⟨⟩, _, normalizing, h⟩
    obtain ⟨wellFormed, unchanged⟩ := ExpectedPair.normalize_eq_ok.mp normalizing
    obtain rfl := unchanged.symm
    obtain ⟨⟨⟩, _, normalizing', h⟩ := bind_ok.mp h
    obtain ⟨wellFormed', unchanged'⟩ := AllocationProposal.normalize_eq_ok.mp normalizing'
    obtain rfl := unchanged'.symm
    obtain ⟨value, u, allocating, h⟩ := bind_ok.mp h
    obtain ⟨⟨⟩, _, finishing, last⟩ := bind_ok.mp h
    obtain ⟨fine, unchanged''⟩ := besides_eq_ok.mp finishing
    obtain rfl := unchanged''.symm
    cases last
    exact ⟨wellFormed, wellFormed', fine, allocating⟩
  · rintro ⟨wellFormed, wellFormed', fine, allocating⟩
    refine ⟨(), s, ExpectedPair.normalize_eq_ok.mpr ⟨wellFormed, rfl⟩, ?_⟩
    rw [bind_ok]
    refine ⟨(), s, AllocationProposal.normalize_eq_ok.mpr ⟨wellFormed', rfl⟩, ?_⟩
    rw [bind_ok]
    refine ⟨row, t, allocating, ?_⟩
    rw [bind_ok]
    exact ⟨(), t, besides_eq_ok.mpr ⟨fine, rfl⟩, rfl⟩

/-! ## The invariant -/

def generationsOf (pairId : Bytes) (rows : List PairGenerationAllocation) : List Nat :=
  (rows.filter (fun row => row.pairId == pairId)).map PairGenerationAllocation.generation

/-- The generations of a pair are those up to its high-water mark. -/
structure Consecutive (s : GenerationDatabase) : Prop where
  generations : ∀ entry ∈ highWaters s.secured,
    generationsOf entry.1 s.allocations = List.range' 1 entry.2
  owned : ∀ row ∈ s.allocations, row.pairId ∈ (highWaters s.secured).map Prod.fst
  consumed : ∀ row ∈ s.allocations, ∃ challenge ∈ s.challenges,
    challenge.challengeId = row.challengeId ∧ challenge.status = .consumed

theorem consecutive_empty : Consecutive {} := by
  constructor
  · intro entry mem
    cases mem
  · intro row mem
    cases mem
  · intro row mem
    cases mem

theorem highWaters_keys (s : SecuredDatabase) : ((highWaters s).map Prod.fst).Nodup := by
  rw [highWaters, List.map_map]
  exact s.pairKeys

theorem Consecutive.service {secured : SecuredDatabase} (inv : Consecutive s)
    (h : Extends (highWaters s.secured) secured) : Consecutive { s with secured := secured } := by
  obtain ⟨added, line⟩ := h
  have keys := highWaters_keys secured
  rw [line, List.map_append] at keys
  constructor
  · intro entry mem
    rw [line] at mem
    cases List.mem_append.mp mem with
    | inl old => exact inv.generations entry old
    | inr new =>
      obtain ⟨pairId, isAdded, rfl⟩ := List.mem_map.mp new
      have none : s.allocations.filter (fun row => row.pairId == pairId) = [] := by
        rw [List.filter_eq_nil_iff]
        intro row hrow owned
        rw [beq_iff_eq] at owned
        have old := inv.owned row hrow
        rw [owned] at old
        exact (List.nodup_append.mp keys).2.2 pairId old pairId
          (List.mem_map.mpr ⟨_, new, rfl⟩) rfl
      simp [generationsOf, none]
  · intro row mem
    rw [line, List.map_append]
    exact List.mem_append_left _ (inv.owned row mem)
  · exact inv.consumed

theorem Consecutive.issues (inv : Consecutive s) (h : Issues s t) : Consecutive t := by
  constructor
  · rw [h.secured, h.allocations]
    exact inv.generations
  · rw [h.secured, h.allocations]
    exact inv.owned
  · intro row mem
    rw [h.allocations] at mem
    obtain ⟨chal, hrow, sameId, settled⟩ := inv.consumed row mem
    obtain ⟨new, inRows', sameId', settled'⟩ := h.challenges chal hrow settled
    exact ⟨new, inRows', sameId'.trans sameId, settled'⟩

theorem Advances.keys {now : Nat} {s t : SecuredDatabase} (h : Advances context now s t) :
    (highWaters t).map Prod.fst = (highWaters s).map Prod.fst := by
  rw [highWaters, highWaters, List.map_map, List.map_map, h.pairs]
  apply map_update
  intro row _ _
  rfl

/-- The next generation of a pair is its high-water mark, and other pairs keep theirs. -/
theorem Consecutive.allocates (inv : Consecutive s) (h : Allocates want proposal context s t) :
    Consecutive t := by
  constructor
  · intro entry mem
    obtain ⟨row, hrow, rfl⟩ := List.mem_map.mp mem
    rw [h.advances.pairs] at hrow
    rw [generationsOf, h.allocations, List.filter_append, List.map_append, ← generationsOf]
    cases mem_update hrow with
    | inl kept =>
      have other : row.pairId ≠ want.pairId := by
        rw [← h.pairId]
        intro key
        simp [pair_unique h.advances.member kept.1 key] at kept
      have others : [allocated want proposal (context.generationHighWater + 1)].filter
          (fun allocation => allocation.pairId == row.pairId) = [] := by
        simp [allocated, other.symm]
      rw [others, List.map_nil, List.append_nil]
      exact inv.generations _ (List.mem_map_of_mem kept.1)
    | inr replaced =>
      obtain ⟨old, inOld, sel, rfl⟩ := replaced
      obtain rfl := of_decide_eq_true sel
      have own : [allocated want proposal (old.generationHighWater + 1)].filter
          (fun allocation => allocation.pairId == old.pairId) =
            [allocated want proposal (old.generationHighWater + 1)] := by
        simp [allocated, h.pairId]
      have pre := inv.generations _ (List.mem_map_of_mem inOld)
      dsimp only [advanced] at pre ⊢
      rw [own, pre, List.range'_1_concat, List.map_singleton, Nat.add_comm 1]
      rfl
  · intro row mem
    rw [h.advances.keys]
    rw [h.allocations] at mem
    cases List.mem_append.mp mem with
    | inl old => exact inv.owned row old
    | inr new =>
      rw [List.mem_singleton.mp new]
      exact List.mem_map.mpr ⟨_, List.mem_map_of_mem h.advances.member, h.pairId⟩
  · intro row mem
    rw [h.allocations] at mem
    cases List.mem_append.mp mem with
    | inl old =>
      obtain ⟨chal, hrow, sameId, settled⟩ := inv.consumed row old
      obtain ⟨new, inRows', sameId', settled'⟩ := h.challenges chal hrow settled
      exact ⟨new, inRows', sameId'.trans sameId, settled'⟩
    | inr new =>
      rw [List.mem_singleton.mp new]
      exact h.consumed

end

/-! ## Runs -/

section

variable {service : UsageService} {prims : ServicePrimitives} {s : GenerationDatabase}

/-- What a request does: the service leaves the allocations, issuing leaves them and the pairs,
    and allocating does nothing or gives a pair its next generation. -/
inductive GenerationMove (s t : GenerationDatabase) : GenerationOp → Prop where
  | service {op : ServerOp} {secured : SecuredDatabase} : Extends (highWaters s.secured) secured →
      t = { s with secured := secured } → GenerationMove s t (.service op)
  | issues {op : GenerationOp} : Issues s t → GenerationMove s t op
  | allocates {expected expected' : ExpectedPair} {proposal proposal' : AllocationProposal}
      {outcome : Option ServerException} {context : PairSecurityRow} :
      Allocates expected proposal context s t →
      GenerationMove s t (.allocateGeneration expected' proposal' outcome)

theorem generationStep_move (s : GenerationDatabase) (op : GenerationOp) :
    GenerationMove s (generationStep service prims s op).1 op := by
  cases op with
  | service op => exact .service (securedStep_extends s.secured op) rfl
  | issueGenerationChallenge want proposal outcome =>
    refine .issues (atomically_map_invariant (.refl s) ?_)
    intro chal t ran
    exact issueGenerationChallenge_eq_ok ran
  | issueOrReplayGenerationChallenge want proposal challengeTtlSeconds =>
    refine .issues (atomically_map_invariant (.refl s) ?_)
    intro chal t ran
    exact issueOrReplayGenerationChallenge_eq_ok ran
  | allocateGeneration want proposal outcome =>
    apply atomically_map_invariant (P := fun t => GenerationMove s t
      (.allocateGeneration want proposal outcome)) (.issues (.refl s))
    intro row t ran
    obtain ⟨-, -, -, allocating⟩ := allocateGeneration_eq_ok.mp ran
    obtain ⟨-, -, -, done⟩ := allocate_eq_ok allocating
    cases done with
    | inl unchanged =>
      rw [unchanged]
      exact .issues (.refl s)
    | inr made =>
      obtain ⟨context, allocates⟩ := made
      exact .allocates allocates

theorem Consecutive.move {s t : GenerationDatabase} {op : GenerationOp} (inv : Consecutive s)
    (h : GenerationMove s t op) : Consecutive t := by
  cases h with
  | service marks same =>
    rw [same]
    exact inv.service marks
  | issues issues => exact inv.issues issues
  | allocates allocates => exact inv.allocates allocates

theorem GenerationMove.allocations {s t : GenerationDatabase} {op : GenerationOp}
    (h : GenerationMove s t op) (mem : row ∈ s.allocations) : row ∈ t.allocations := by
  cases h with
  | service _ same =>
    rw [same]
    exact mem
  | issues issues =>
    rw [issues.allocations]
    exact mem
  | allocates allocates =>
    rw [allocates.allocations]
    exact List.mem_append_left _ mem

/-! ## Retries -/

theorem ActiveContext.advances {now : Nat} {s t : SecuredDatabase}
    (on : ActiveContext want s) (h : Advances context now s t) :
    ActiveContext want t := by
  obtain ⟨live, found, isLive⟩ := on
  unfold pairContextRow at found
  simp only [Option.bind_eq_bind, Option.bind_eq_some_iff] at found
  obtain ⟨state, isState, ent, isEntitlement, binding, isBinding, same⟩ := found
  cases same
  have isLater : ∃ later, lookup PairSecurityRow.pairId want.pairId t.pairs = some later ∧
      (later = state ∨ later = advanced now state) := by
    rw [h.pairs, lookup_update (by intro _; rfl), isState]
    refine ⟨_, rfl, ?_⟩
    dsimp only
    split
    · exact .inr rfl
    · exact .inl rfl
  have read {later : PairSecurityRow}
      (isRow : lookup PairSecurityRow.pairId want.pairId t.pairs = some later)
      (owner : later.entitlementId = state.entitlementId)
      (bound : later.bindingId = state.bindingId) :
      pairContextRow t want.pairId = some ⟨later, ent, binding⟩ := by
    unfold pairContextRow
    rw [isRow, h.tables]
    simp [owner, bound, isEntitlement, isBinding]
  obtain ⟨later, isRow, same | same⟩ := isLater
  · subst same
    exact ⟨_, read isRow rfl rfl, isLive⟩
  · subst same
    exact ⟨_, read isRow rfl rfl, isLive.bindingId, isLive.bindingRevision,
      isLive.revocationVersion, isLive.entitled, isLive.current, isLive.pairId, isLive.identity,
      isLive.active⟩

theorem GenerationMove.active {s t : GenerationDatabase} {op : GenerationOp}
    (h : GenerationMove s t op) (apart : ∀ req, op ≠ .service req)
    (on : ActiveContext want s.secured) : ActiveContext want t.secured := by
  cases h with
  | service => exact absurd rfl (apart _)
  | issues issues =>
    rw [issues.secured]
    exact on
  | allocates allocates => exact on.advances allocates.advances

/-- A request for an allocation that is there reads it, or is refused. -/
theorem allocateGeneration_retry {want : ExpectedPair} {proposal : AllocationProposal}
    {outcome : Option ServerException} {row : PairGenerationAllocation}
    (mem : row ∈ s.allocations) (answers : AnswersRequest want proposal row) :
    let retry := generationStep service prims s
      (.allocateGeneration want proposal outcome)
    retry.1 = s ∧ (∀ reply, retry.2 = .ok reply → reply = .allocation row) ∧
      (retry.2 = .ok (.allocation row) ↔ want.Normalized ∧ proposal.Normalized ∧
        outcome = none ∧ ActiveContext want s.secured) := by
  have isExisting : lookup PairGenerationAllocation.allocationRequestId
      proposal.allocationRequestId s.allocations = some row := by
    rw [← answers.requestId]
    exact lookup_of_mem s.allocationKeys.requestIds mem
  have read {value : PairGenerationAllocation} {t : GenerationDatabase} :
      (allocate want proposal).run s = .ok (value, t) ↔
        ActiveContext want s.secured ∧ value = row ∧ t = s := by
    unfold allocate
    rw [allocationRow_ok, bind_ok]
    simp only [isExisting]
    constructor
    · rintro ⟨context, _, requiring, h⟩
      obtain ⟨live, found, isLive, -, unchanged⟩ := requireActivePairContext_eq_ok.mp requiring
      obtain rfl := unchanged.symm
      rw [require_ok] at h
      cases h.2
      exact ⟨⟨live, found, isLive⟩, rfl, rfl⟩
    · rintro ⟨⟨live, found, isLive⟩, rfl, rfl⟩
      refine ⟨live.state, _, requireActivePairContext_eq_ok.mpr ⟨live, found, isLive, rfl, rfl⟩, ?_⟩
      rw [require_ok]
      exact ⟨answers.exact, rfl⟩
  have ans {value : PairGenerationAllocation} {t : GenerationDatabase} :
      (allocateGeneration want proposal outcome).run s = .ok (value, t) ↔
        (want.Normalized ∧ proposal.Normalized ∧ outcome = none ∧
          ActiveContext want s.secured) ∧ value = row ∧ t = s := by
    rw [allocateGeneration_eq_ok, read]
    simp only [and_assoc]
  dsimp only [generationStep]
  cases atomically_map_cases (f := GenerationReply.allocation)
    (allocateGeneration want proposal outcome) s with
  | inl done =>
    obtain ⟨value, t, ran, same⟩ := done
    rw [same]
    obtain ⟨conditions, rfl, rfl⟩ := ans.mp ran
    refine ⟨rfl, ?_, ⟨fun _ => conditions, fun _ => rfl⟩⟩
    rintro reply ⟨⟩
    rfl
  | inr failed =>
    obtain ⟨refused, error, same⟩ := failed
    rw [same]
    refine ⟨rfl, ?_, ⟨?_, ?_⟩⟩
    · rintro reply ⟨⟩
    · rintro ⟨⟩
    · intro conditions
      exact absurd (ans.mpr ⟨conditions, rfl, rfl⟩) (refused _)

def generated (service : UsageService) (prims : ServicePrimitives) (ops : List GenerationOp) :
    GenerationDatabase := exec (generationStep service prims) {} ops

theorem generated_consecutive (ops : List GenerationOp) :
    Consecutive (generated service prims ops) := by
  apply exec_invariant (P := Consecutive) (generationStep service prims) consecutive_empty
  intro s op inv
  exact inv.move (generationStep_move s op)

theorem exec_allocations (mem : row ∈ s.allocations) (later : List GenerationOp) :
    row ∈ (exec (generationStep service prims) s later).allocations := by
  apply exec_invariant (P := fun t => row ∈ t.allocations) (generationStep service prims) mem
  intro t op kept
  exact (generationStep_move t op).allocations kept

theorem exec_active (on : ActiveContext want s.secured) {later : List GenerationOp}
    (apart : ∀ op ∈ later, ∀ req, op ≠ .service req) :
    ActiveContext want (exec (generationStep service prims) s later).secured := by
  induction later using List.reverseRecOn with
  | nil => exact on
  | append_singleton later op ih =>
    rw [exec_append]
    exact (generationStep_move _ op).active (apart op (by simp))
      (ih fun other mem => apart other (List.mem_append_left _ mem))

/-- The allocations of a pair have the generations up to its high-water mark, each once, with
    distinct connections; a challenge is consumed by one allocation at most. A retry of a request
    reads its allocation and changes nothing, as long as the service leaves the pair active. -/
theorem generations_are_consecutive (service : UsageService) (prims : ServicePrimitives)
    (ops : List GenerationOp) :
    let step := generationStep service prims
    let db := generated service prims ops
    (∀ pair ∈ db.secured.pairs,
      let own := db.allocations.filter (fun row => row.pairId == pair.pairId)
      own.map PairGenerationAllocation.generation = List.range' 1 pair.generationHighWater ∧
        (own.map PairGenerationAllocation.connectionId).Nodup) ∧
      (∀ row ∈ db.allocations, ∃ pair ∈ db.secured.pairs, pair.pairId = row.pairId) ∧
      (∀ row ∈ db.allocations, ∃ chal ∈ db.challenges,
        chal.challengeId = row.challengeId ∧ chal.status = .consumed) ∧
      (db.allocations.map PairGenerationAllocation.challengeId).Nodup ∧
      ∀ want proposal outcome row,
        (step db (.allocateGeneration want proposal outcome)).2 = .ok (.allocation row) →
        ∀ later now outcome',
          let database' :=
            exec step (step db (.allocateGeneration want proposal outcome)).1 later
          let retry := step database'
            (.allocateGeneration want { proposal with nowEpoch := now } outcome')
          retry.1 = database' ∧ (∀ reply, retry.2 = .ok reply → reply = .allocation row) ∧
            (retry.2 = .ok (.allocation row) ↔ fitsInteger now = true ∧ outcome' = none ∧
              ActiveContext want database'.secured) ∧
            ((∀ op ∈ later, ∀ request, op ≠ .service request) →
              ActiveContext want database'.secured) := by
  intro step db
  have inv := @generated_consecutive service prims ops
  refine ⟨?_, ?_, inv.consumed, db.allocationKeys.challengeIds, ?_⟩
  · intro pair member own
    refine ⟨inv.generations _ (List.mem_map_of_mem member), ?_⟩
    have distinct : (own.map (fun row => (row.pairId, row.connectionId))).Nodup :=
      db.allocationKeys.connectionIds.sublist (List.filter_sublist.map _)
    have paired : own.map (fun row => (row.pairId, row.connectionId)) =
        (own.map PairGenerationAllocation.connectionId).map (fun id => (pair.pairId, id)) := by
      rw [List.map_map]
      apply List.map_congr_left
      intro row inOwn
      rw [beq_iff_eq.mp (List.mem_filter.mp inOwn).2]
      rfl
    rw [paired] at distinct
    exact List.Nodup.of_map _ distinct
  · intro row member
    obtain ⟨entry, inWaters, key⟩ := List.mem_map.mp (inv.owned row member)
    obtain ⟨pair, inRows, rfl⟩ := List.mem_map.mp inWaters
    exact ⟨pair, inRows, key⟩
  · intro want proposal outcome row answered later now outcome' database' retry
    obtain ⟨value, sameReply, ran⟩ := atomically_map_eq_ok answered
    cases sameReply
    obtain ⟨wellFormed, wellFormed', -, allocating⟩ := allocateGeneration_eq_ok.mp ran
    obtain ⟨active, answers, member, -⟩ := allocate_eq_ok allocating
    have kept : row ∈ database'.allocations := exec_allocations member later
    obtain ⟨unchanged, same, answers_iff⟩ := @allocateGeneration_retry service prims database'
      want { proposal with nowEpoch := now } outcome' row kept ⟨answers.requestId, answers.exact⟩
    refine ⟨unchanged, same, ?_, ?_⟩
    · rw [answers_iff]
      obtain ⟨a, b, c, d, e, f, -⟩ := wellFormed'
      constructor
      · rintro ⟨-, ⟨-, -, -, -, -, -, fits⟩, rest⟩
        exact ⟨fits, rest⟩
      · rintro ⟨fits, rest⟩
        exact ⟨wellFormed, ⟨a, b, c, d, e, .inl rfl, fits⟩, rest⟩
    · intro apart
      apply exec_active _ apart
      exact (generationStep_move db _).active (fun request => GenerationOp.noConfusion) active

end

end VisionForge.PairSecurity
