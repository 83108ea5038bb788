import VisionForge.PairSecurity.Runs

/-! # The line of an entitlement's pairs

The triggers keep the identity of a row and its predecessor, so requests only add rows to
the line of an entitlement, each after the latest one. No request leaves two pairs of an
entitlement that can still be revoked.
-/

namespace VisionForge.PairSecurity

open Lib.Ascii Lib.Run Lib.Table Lib.Transaction Server LicenseRepository UsageRepository

/-- The place of a pair among those of its entitlement. -/
structure Lineage where
  pairId : Bytes
  entitlementId : Bytes
  bindingRevision : Nat
  predecessorPairId : Option Bytes

def lineage (row : PairSecurityRow) : Lineage :=
  ⟨row.pairId, row.entitlementId, row.bindingRevision, row.predecessorPairId⟩

def lineages (s : SecuredDatabase) : List Lineage := s.pairs.map lineage

/-- A pair comes after its predecessor, which is of the same entitlement. -/
def Follows (line : List Lineage) (later : Lineage) : Prop :=
  ∀ pairId, later.predecessorPairId = some pairId → ∃ earlier ∈ line, earlier.pairId = pairId ∧
    earlier.entitlementId = later.entitlementId ∧
      earlier.bindingRevision < later.bindingRevision

/-- Every pair comes after its predecessor. -/
def Chained (line : List Lineage) : Prop := ∀ later ∈ line, Follows line later

theorem Chained.append {line : List Lineage} {last : Lineage} (chained : Chained line)
    (follows : Follows line last) : Chained (line ++ [last]) := by
  have earlier {later : Lineage} (h : Follows line later) : Follows (line ++ [last]) later := by
    intro pairId isPredecessor
    obtain ⟨entry, mem, rest⟩ := h pairId isPredecessor
    exact ⟨entry, List.mem_append_left _ mem, rest⟩
  intro later mem
  cases List.mem_append.mp mem with
  | inl old => exact earlier (chained later old)
  | inr new =>
    rw [List.mem_singleton.mp new]
    exact earlier follows

section

variable {line : List Lineage} {now : Nat}

abbrev HasLine (line : List Lineage) (s : SecuredDatabase) : Prop := lineages s = line

theorem lineage_of_accepted {old new : PairSecurityRow} (ok : updateAccepted old new = true) :
    lineage new = lineage old := by
  simp only [updateAccepted, identityKept, Bool.and_eq_true, beq_iff_eq, decide_eq_true_eq]
    at ok
  simp only [lineage, ok]

theorem updatePairs_line (cond : PairSecurityRow → Bool)
    (change : PairSecurityRow → PairSecurityRow) :
    Preserves (HasLine line) (updatePairs cond change) := by
  intro s count t h holds
  obtain ⟨-, pairs, -⟩ := updatePairs_eq_ok h
  have ok := updatePairs_accepted h
  rw [HasLine, lineages, pairs, ← holds]
  apply map_update
  intro row mem sel
  exact lineage_of_accepted (ok row mem sel)

theorem onTables_line {α : Type} (body : Statement α) : Preserves (HasLine line) (onTables body) := by
  intro s value t h holds
  obtain ⟨tables, -, rfl⟩ := onTables_eq_ok.mp h
  exact holds

theorem requiredState_line (pairId : Bytes) : Preserves (HasLine line) (requiredState pairId) := by
  intro s row t h holds
  obtain ⟨rfl, -, -⟩ := requiredState_eq_ok h
  exact holds

theorem transitionState_line (state : PairSecurityRow) (target : AssuranceState) :
    Preserves (HasLine line) (transitionState state target now) :=
  (updatePairs_line _ _).bind fun _ => (Preserves.require _ _).bind fun _ => requiredState_line _

theorem unblock_line (state : PairSecurityRow) : Preserves (HasLine line) (unblock state now) := by
  unfold unblock
  split
  · exact transitionState_line state _
  · exact .pure state

theorem activateExistingState_line (state : PairSecurityRow) :
    Preserves (HasLine line) (activateExistingState state now) := by
  unfold activateExistingState
  split
  · exact .pure state
  · exact (unblock_line state).bind fun _ => (Preserves.require _ _).bind fun _ =>
      transitionState_line _ _

theorem transitionToRecovery_line (state : PairSecurityRow) :
    Preserves (HasLine line) (transitionToRecovery state now) := by
  unfold transitionToRecovery
  split
  · exact .pure state
  · exact (Preserves.require _ _).bind fun _ => transitionState_line _ _

theorem rotatePredecessor_line (state : PairSecurityRow) :
    Preserves (HasLine line) (rotatePredecessor state now) := by
  unfold rotatePredecessor
  split
  · exact .pure state
  · exact (unblock_line state).bind fun _ => (Preserves.require _ _).bind fun _ =>
      transitionState_line _ _

theorem rotateOut_line (predecessor : Option PairSecurityRow) :
    Preserves (HasLine line) (rotateOut predecessor now) := by
  cases predecessor with
  | none => exact .pure _
  | some state => exact (rotatePredecessor_line state).map

theorem commitReactivation_line (cur : Option PairSecurityRow) (live : LiveBinding) :
    Preserves (HasLine line) (commitReactivation cur live now) := by
  refine (Preserves.unwrap _ _).bind fun state => ?_
  refine (Preserves.require _ _).bind fun _ => (Preserves.require _ _).bind fun _ => ?_
  refine (transitionToRecovery_line state).bind fun recovery => ?_
  exact (updatePairs_line _ _).bind fun _ => (Preserves.require _ _).bind fun _ =>
    requiredState_line _

theorem revokePair_line (entId pairId : Bytes) :
    Preserves (HasLine line) (revokePair entId pairId now) :=
  (updatePairs_line _ _).bind fun _ => .require _ _

theorem suspendPair_line (entId bindingId : Bytes) :
    Preserves (HasLine line) (suspendPair entId bindingId now) := by
  refine Preserves.get.bind fun _ => (Preserves.unwrap _ _).bind fun state => ?_
  split
  · exact (updatePairs_line _ _).bind fun _ => .require _ _
  · exact .require _ _

theorem revokeEntitlement_line (entId : Bytes) :
    Preserves (HasLine line) (revokeEntitlement entId now) := by
  refine (onTables_line _).bind fun row => ?_
  split
  · exact (onTables_line _).bind fun _ => (revokePair_line _ _).bind fun _ => onTables_line _
  · exact onTables_line _

theorem unbindEntitlementDevice_line (entId bindingId pairId : Bytes) :
    Preserves (HasLine line) (unbindEntitlementDevice entId bindingId pairId now) :=
  (onTables_line _).bind fun _ => (suspendPair_line _ _).bind fun _ => onTables_line _

variable {s : SecuredDatabase}

/-- The pair of an identity is the last of the line, unless it was there before. -/
theorem registerPending_line {identity : PairIdentity} {predecessorPairId : Option Bytes}
    {row : PairSecurityRow} {t : SecuredDatabase}
    (h : (registerPending identity predecessorPairId now).run s = .ok (row, t)) :
    lineages t = lineages s ∨ lineages t = lineages s ++
      [⟨identity.pairId, identity.entitlementId,
        highestBindingRevision s identity.entitlementId + 1, predecessorPairId⟩] := by
  replace h := read_ok h rfl
  split at h
  · rw [require_ok, bind_ok] at h
    obtain ⟨-, ⟨⟩, _, requiring, last⟩ := h
    obtain rfl := requireLiveBinding_eq_ok requiring
    cases last
    exact .inl rfl
  · rw [bind_ok] at h
    obtain ⟨⟨⟩, _, requiring, h⟩ := h
    obtain rfl := requireLiveBinding_eq_ok requiring
    rw [get_ok] at h
    rw [require_ok, bind_ok] at h
    obtain ⟨-, ⟨⟩, u, writing, reading⟩ := h
    obtain ⟨-, pairs⟩ := writePairs_eq_ok (recast_eq_ok.mp writing)
    obtain ⟨rfl, -, -⟩ := requiredState_eq_ok reading
    right
    rw [lineages, pairs, List.map_append, List.map_singleton]
    rfl

variable {entId : Bytes}

theorem predecessorForNewBinding_eq_ok {activationMode : ActivationMode} {t : SecuredDatabase}
    {predecessor : Option PairSecurityRow}
    (h : (predecessorForNewBinding activationMode (entitlementStates s entId)).run s =
      .ok (predecessor, t)) :
    t = s ∧ ∀ state, predecessor = some state →
      state ∈ s.pairs ∧ state.entitlementId = entId := by
  unfold predecessorForNewBinding at h
  split at h
  · cases h
    exact ⟨rfl, fun state no => nomatch no⟩
  · cases h
  · rename_i latest old states
    cases h
    refine ⟨rfl, ?_⟩
    rintro state ⟨⟩
    exact mem_entitlementStates.mp (states ▸ List.mem_cons_self)
  · cases h
  · cases h

theorem exists_of_mem_lineages {entry : Lineage} (mem : entry ∈ lineages s) :
    ∃ row ∈ s.pairs, lineage row = entry := List.mem_map.mp mem

theorem commitNewBinding_line {proof : VerifiedActivationBindingProof} {live : LiveBinding}
    {row : PairSecurityRow} {t : SecuredDatabase}
    (h : (commitNewBinding proof live entId (entitlementStates s entId) now).run s =
      .ok (row, t)) (chained : Chained (lineages s)) : Chained (lineages t) := by
  obtain ⟨predecessor, _, choosing, h⟩ := bind_ok.mp h
  obtain ⟨same, latest⟩ := predecessorForNewBinding_eq_ok choosing
  obtain rfl := same.symm
  obtain ⟨⟨⟩, s1, rotating, h⟩ := bind_ok.mp h
  have rotated : lineages s1 = lineages s := rotateOut_line predecessor _ _ _ rotating rfl
  rw [require_ok, bind_ok] at h
  obtain ⟨-, pend, s2, registering, activating⟩ := h
  have activated : lineages t = lineages s2 :=
    activateExistingState_line pend _ _ _ activating rfl
  rw [activated]
  cases registerPending_line registering with
  | inl same =>
    rw [same, rotated]
    exact chained
  | inr added =>
    rw [added, rotated]
    apply chained.append
    intro pairId isPredecessor
    obtain ⟨state, isState, rfl⟩ := Option.map_eq_some_iff.mp isPredecessor
    obtain ⟨member, owner⟩ := latest state isState
    have inLine : lineage state ∈ lineages s := List.mem_map_of_mem member
    refine ⟨lineage state, inLine, rfl, owner, ?_⟩
    -- the row of the predecessor is still there after its rotation
    rw [← rotated] at inLine
    obtain ⟨kept, hrow, same⟩ := exists_of_mem_lineages inLine
    have le := le_highestBindingRevision hrow
    have owner' : kept.entitlementId = entId :=
      (congrArg Lineage.entitlementId same).trans owner
    have revision : kept.bindingRevision = state.bindingRevision :=
      congrArg Lineage.bindingRevision same
    rw [owner', revision] at le
    exact Nat.lt_succ_of_le le

theorem liveBinding_reads {live : LiveBinding} {t : SecuredDatabase}
    (h : (liveBinding entId).run s = .ok (live, t)) : t = s := (liveBinding_eq_ok h).1

theorem commitVerifiedBinding_line {proof : VerifiedActivationBindingProof} :
    Preserves (fun s => Chained (lineages s)) (commitVerifiedBinding proof entId now) := by
  intro s row t h chained
  unfold commitVerifiedBinding at h
  rw [require_ok, require_ok, bind_ok] at h
  obtain ⟨-, -, live, _, reading, h⟩ := h
  obtain rfl := (liveBinding_reads reading).symm
  unfold requireProofMatchesLiveBinding at h
  rw [require_ok, get_ok] at h
  obtain ⟨-, h⟩ := h
  dsimp only at h
  split at h
  · have same : lineages t = lineages s := commitReactivation_line _ live _ _ _ h rfl
    rw [same]
    exact chained
  split at h
  · rename_i state isFound
    unfold requireStateMatchesLive at h
    rw [require_ok] at h
    have same : lineages t = lineages s := activateExistingState_line state _ _ _ h.2 rfl
    rw [same]
    exact chained
  · exact commitNewBinding_line h chained

end

section

variable {service : UsageService} {prims : ServicePrimitives}

theorem Preserves.chained {α : Type} {body : SecuredStatement α}
    (keeps : ∀ line, Preserves (HasLine line) body) :
    Preserves (fun s => Chained (lineages s)) body := by
  intro s value t h chained
  have same : lineages t = lineages s := keeps (lineages s) s value t h rfl
  rw [same]
  exact chained

theorem onTables_chained {α : Type} (body : Statement α) :
    Preserves (fun s => Chained (lineages s)) (onTables body) :=
  Preserves.chained fun _ => onTables_line body

theorem confirmActivation_chained {settings : DualMachineSettings} {seen : Database}
    {cmd : ConfirmCommand} {ids : ActivationIds} {now : Nat} :
    Preserves (fun s => Chained (lineages s))
      (confirmActivation settings prims seen cmd ids now) :=
  confirmActivation_preserves onTables_chained fun _ _ => commitVerifiedBinding_line

theorem securedBody_chained (op : ServerOp) :
    Preserves (fun s => Chained (lineages s)) (securedBody service prims op) := by
  cases op with
  | confirmActivation seen cmd ids outcome now => exact confirmActivation_chained.map
  | revokeEntitlement entId outcome now =>
    exact (Preserves.chained fun _ => revokeEntitlement_line entId).map
  | unbindEntitlementDevice entId bindingId pairId outcome now =>
    exact (Preserves.chained fun _ => unbindEntitlementDevice_line entId bindingId pairId).map
  | _ => exact onTables_chained _

theorem securedStep_chained (chained : Chained (lineages s)) (op : ServerOp) :
    Chained (lineages (securedStep service prims s op).1) := by
  by_cases plain : changesPairs op = false
  · rw [securedStep_plain plain]
    exact chained
  · cases op with
    | confirmActivation => exact (securedBody_chained _).atomically chained
    | revokeEntitlement => exact (securedBody_chained _).atomically chained
    | unbindEntitlementDevice => exact (securedBody_chained _).atomically chained
    | _ => exact absurd rfl plain

end

end VisionForge.PairSecurity
