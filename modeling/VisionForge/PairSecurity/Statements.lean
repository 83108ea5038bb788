import VisionForge.PairSecurity.Service

/-! # What the statements on pairs do

A statement that succeeds replaces the row of one pair, or adds a row.
-/

namespace VisionForge.PairSecurity

open Lib.Ascii Lib.Table Lib.Transaction Server UsageRepository

section

variable {s t u : SecuredDatabase} {α β : Type}

theorem onTables_bind {body : Statement α} {next : α → SecuredStatement β}
    {result : β × SecuredDatabase} :
    (onTables body >>= next).run s = .ok result ↔
      ∃ value tables, body.run s.tables = .ok (value, tables) ∧
        (next value).run { s with tables := tables } = .ok result := by
  rw [bind_ok]
  constructor
  · rintro ⟨value, middle, ran, last⟩
    obtain ⟨tables, inner, same⟩ := onPart_eq_ok.mp ran
    cases same
    exact ⟨value, tables, inner, last⟩
  · rintro ⟨value, tables, inner, last⟩
    exact ⟨value, _, onPart_eq_ok.mpr ⟨tables, inner, rfl⟩, last⟩

theorem onTables_eq_ok {body : Statement α} {value : α} :
    (onTables body).run s = .ok (value, t) ↔
      ∃ tables, body.run s.tables = .ok (value, tables) ∧ t = { s with tables := tables } :=
  onPart_eq_ok

theorem writePairs_eq_ok {rows : List PairSecurityRow}
    (h : (writePairs rows).run s = .ok ((), t)) : t.tables = s.tables ∧ t.pairs = rows := by
  unfold writePairs at h
  split at h
  · cases h
    exact ⟨rfl, rfl⟩
  · cases h

variable {cond : PairSecurityRow → Bool} {change : PairSecurityRow → PairSecurityRow}

theorem updatePairs_eq_ok {count : Nat} (h : (updatePairs cond change).run s = .ok (count, t)) :
    t.tables = s.tables ∧ t.pairs = update cond change s.pairs ∧
      count = rowcount cond s.pairs := by
  unfold updatePairs at h
  rw [get_ok, require_ok, bind_ok] at h
  obtain ⟨-, ⟨⟩, u, writing, last⟩ := h
  cases last
  obtain ⟨tables, pairs⟩ := writePairs_eq_ok writing
  exact ⟨tables, pairs, rfl⟩

variable {row : PairSecurityRow}

theorem pair_unique {other : PairSecurityRow} (hrow : row ∈ s.pairs) (inRows' : other ∈ s.pairs)
    (same : other.pairId = row.pairId) : other = row :=
  List.inj_on_of_nodup_map s.pairKeys inRows' hrow same

theorem revision_unique {other : PairSecurityRow} (hrow : row ∈ s.pairs)
    (inRows' : other ∈ s.pairs) (owner : other.entitlementId = row.entitlementId)
    (same : other.bindingRevision = row.bindingRevision) : other = row :=
  List.inj_on_of_nodup_map s.bindingRevisions inRows' hrow (Prod.ext owner same)

structure SamePair (old new : PairSecurityRow) : Prop where
  pairId : new.pairId = old.pairId
  entitlementId : new.entitlementId = old.entitlementId
  bindingId : new.bindingId = old.bindingId
  bindingRevision : new.bindingRevision = old.bindingRevision

/-- One row becomes another version of itself. -/
structure Replaces (old new : PairSecurityRow) (s t : SecuredDatabase) : Prop where
  tables : t.tables = s.tables
  member : old ∈ s.pairs
  same : SamePair old new
  pairs : ∀ row, row ∈ t.pairs ↔ row = new ∨ (row ∈ s.pairs ∧ row.pairId ≠ old.pairId)

theorem Replaces.refl (mem : row ∈ s.pairs) : Replaces row row s s := by
  refine ⟨rfl, mem, ⟨rfl, rfl, rfl, rfl⟩, ?_⟩
  intro other
  constructor
  · intro hrow
    by_cases same : other.pairId = row.pairId
    · exact .inl (pair_unique mem hrow same)
    · exact .inr ⟨hrow, same⟩
  · rintro (rfl | kept)
    · exact mem
    · exact kept.1

variable {old new : PairSecurityRow}

theorem Replaces.new_member (h : Replaces old new s t) :
    new ∈ t.pairs := (h.pairs new).mpr (.inl rfl)

theorem Replaces.trans {first snd third : PairSecurityRow} (h : Replaces first snd s t)
    (h' : Replaces snd third t u) : Replaces first third s u := by
  refine ⟨h'.tables.trans h.tables, h.member, ⟨?_, ?_, ?_, ?_⟩, ?_⟩
  · exact h'.same.pairId.trans h.same.pairId
  · exact h'.same.entitlementId.trans h.same.entitlementId
  · exact h'.same.bindingId.trans h.same.bindingId
  · exact h'.same.bindingRevision.trans h.same.bindingRevision
  · intro row
    rw [h'.pairs, h.pairs, h.same.pairId]
    constructor
    · rintro (isNew | ⟨isMiddle | kept, other⟩)
      · exact .inl isNew
      · subst isMiddle
        exact absurd h.same.pairId other
      · exact .inr kept
    · rintro (isNew | kept)
      · exact .inl isNew
      · exact .inr ⟨.inr kept, kept.2⟩

theorem updatePairs_replaces {count : Nat} {state : PairSecurityRow} (mem : state ∈ s.pairs)
    (holds : cond state = true)
    (only : ∀ row, cond row = true → row.pairId = state.pairId)
    (same : SamePair state (change state))
    (h : (updatePairs cond change).run s = .ok (count, t)) :
    Replaces state (change state) s t := by
  obtain ⟨tables, pairs, -⟩ := updatePairs_eq_ok h
  refine ⟨tables, mem, same, ?_⟩
  intro row
  rw [pairs]
  constructor
  · intro hrow
    cases mem_update hrow with
    | inl kept =>
      refine .inr ⟨kept.1, ?_⟩
      intro isPair
      rw [pair_unique mem kept.1 isPair, holds] at kept
      exact absurd kept.2 (by decide)
    | inr replaced =>
      obtain ⟨old, inOld, sel, rfl⟩ := replaced
      rw [pair_unique mem inOld (only old sel)]
      exact .inl rfl
  · rintro (rfl | ⟨hrow, other⟩)
    · exact List.mem_map.mpr ⟨state, mem, if_pos holds⟩
    · refine List.mem_map.mpr ⟨row, hrow, if_neg ?_⟩
      intro sel
      exact other (only row sel)

theorem requiredState_eq_ok {pairId : Bytes} (h : (requiredState pairId).run s = .ok (row, t)) :
    t = s ∧ row ∈ s.pairs ∧ row.pairId = pairId := by
  replace h := read_ok h rfl
  rw [← bind_pure (unwrap _ _), unwrap_ok] at h
  obtain ⟨given, isGiven, last⟩ := h
  cases last
  exact ⟨rfl, lookup_key isGiven⟩

theorem Replaces.requiredState {t' : SecuredDatabase} (h : Replaces old new s t)
    (read : (requiredState old.pairId).run t = .ok (row, t')) : t' = t ∧ row = new := by
  obtain ⟨rfl, hrow, key⟩ := requiredState_eq_ok read
  refine ⟨rfl, pair_unique h.new_member hrow ?_⟩
  rw [key, h.same.pairId]

/-- The row after a transition. -/
def moved (state : PairSecurityRow) (target : AssuranceState) (now : Nat) : PairSecurityRow :=
  { state with assuranceState := target, updatedAtEpoch := max now state.updatedAtEpoch }

theorem asRead_self (state : PairSecurityRow) : asRead state state = true := by simp [asRead]

variable {now : Nat}

theorem transitionState_replaces {state : PairSecurityRow} {target : AssuranceState}
    (mem : state ∈ s.pairs) (h : (transitionState state target now).run s = .ok (row, t)) :
    row = moved state target now ∧ Replaces state row s t := by
  obtain ⟨count, u, updating, h⟩ := bind_ok.mp h
  rw [require_ok] at h
  have replaces : Replaces state (moved state target now) s u := by
    refine updatePairs_replaces mem (asRead_self state) ?_ ⟨rfl, rfl, rfl, rfl⟩ updating
    intro row sel
    simp only [asRead, Bool.and_eq_true, beq_iff_eq] at sel
    exact sel.1.1.1.1
  obtain ⟨rfl, rfl⟩ := replaces.requiredState h.2
  exact ⟨rfl, replaces⟩

/-- Rows of a pair in which the clock and the version may be newer. -/
structure Evolves (now : Nat) (old new : PairSecurityRow) : Prop extends SamePair old new where
  revocationVersion : new.revocationVersion = old.revocationVersion
  updatedAtEpoch : new.updatedAtEpoch ≤ max now old.updatedAtEpoch

theorem Evolves.refl (now : Nat) (row : PairSecurityRow) : Evolves now row row :=
  ⟨⟨rfl, rfl, rfl, rfl⟩, rfl, le_max_right _ _⟩

theorem evolves_moved (state : PairSecurityRow) (target : AssuranceState) (now : Nat) :
    Evolves now state (moved state target now) := ⟨⟨rfl, rfl, rfl, rfl⟩, rfl, le_rfl⟩

theorem Evolves.moved (h : Evolves now old new) (target : AssuranceState) :
    Evolves now old (PairSecurity.moved new target now) := by
  refine ⟨⟨h.pairId, h.entitlementId, h.bindingId, h.bindingRevision⟩, h.revocationVersion, ?_⟩
  exact max_le (le_max_left _ _) h.updatedAtEpoch

theorem unblock_replaces {state row : PairSecurityRow} {now : Nat} (mem : state ∈ s.pairs)
    (h : (unblock state now).run s = .ok (row, t)) :
    Evolves now state row ∧ Replaces state row s t := by
  unfold unblock at h
  split at h
  · obtain ⟨rfl, replaces⟩ := transitionState_replaces mem h
    exact ⟨evolves_moved _ _ _, replaces⟩
  · cases h
    exact ⟨.refl now state, .refl mem⟩

theorem activateExistingState_replaces {state row : PairSecurityRow} {now : Nat}
    (mem : state ∈ s.pairs) (h : (activateExistingState state now).run s = .ok (row, t)) :
    Evolves now state row ∧ row.assuranceState = .active ∧ Replaces state row s t := by
  unfold activateExistingState at h
  split at h
  · rename_i hact
    cases h
    exact ⟨.refl now state, hact, .refl mem⟩
  · obtain ⟨current, u, unblocking, h⟩ := bind_ok.mp h
    obtain ⟨evolves, first⟩ := unblock_replaces mem unblocking
    rw [require_ok] at h
    obtain ⟨rfl, snd⟩ := transitionState_replaces first.new_member h.2
    exact ⟨evolves.moved _, rfl, first.trans snd⟩

theorem transitionToRecovery_replaces {state row : PairSecurityRow} {now : Nat}
    (mem : state ∈ s.pairs) (h : (transitionToRecovery state now).run s = .ok (row, t)) :
    state.assuranceState.isRevocable = true ∧ Evolves now state row ∧ Replaces state row s t := by
  unfold transitionToRecovery at h
  split at h
  · rename_i suspended
    cases h
    exact ⟨by rw [suspended]; rfl, .refl now state, .refl mem⟩
  · rw [require_ok] at h
    obtain ⟨rfl, replaces⟩ := transitionState_replaces mem h.2
    refine ⟨?_, evolves_moved _ _ _, replaces⟩
    cases h.1 with
    | inl hact =>
      rw [hact]
      rfl
    | inr blocked =>
      rw [blocked]
      rfl

theorem rotatePredecessor_replaces {state row : PairSecurityRow} {now : Nat}
    (mem : state ∈ s.pairs) (h : (rotatePredecessor state now).run s = .ok (row, t)) :
    Evolves now state row ∧ row.assuranceState.isRevocable = false ∧ Replaces state row s t := by
  unfold rotatePredecessor at h
  split at h
  · rename_i isOver
    cases h
    refine ⟨.refl now state, ?_, .refl mem⟩
    cases isOver with
    | inl rotated =>
      rw [rotated]
      rfl
    | inr revoked =>
      rw [revoked]
      rfl
  · obtain ⟨current, u, unblocking, h⟩ := bind_ok.mp h
    obtain ⟨evolves, first⟩ := unblock_replaces mem unblocking
    rw [require_ok] at h
    obtain ⟨rfl, snd⟩ := transitionState_replaces first.new_member h.2
    exact ⟨evolves.moved _, rfl, first.trans snd⟩

/-- The devices that an entitlement is bound to, and no others. -/
structure IsLive (database : Database) (entitlementId : Bytes) (live : LiveBinding) : Prop where
  entitlement : live.entitlement ∈ database.entitlements
  owner : live.entitlement.entitlementId = entitlementId
  active : live.entitlement.status = .active
  binding : live.binding ∈ database.deviceBindings
  bound : live.binding.entitlementId = entitlementId
  current : live.binding.isCurrent = true
  only : ∀ binding ∈ database.deviceBindings, binding.entitlementId = entitlementId →
    binding.isCurrent = true → binding = live.binding

variable {entId : Bytes}

theorem mem_liveBindings {db : Database} {live : LiveBinding} :
    live ∈ liveBindings db entId ↔
      live.entitlement ∈ db.entitlements ∧ live.entitlement.entitlementId = entId ∧
      live.binding ∈ db.deviceBindings ∧ live.binding.entitlementId = entId ∧
      live.binding.isCurrent = true := by
  obtain ⟨ent, binding⟩ := live
  simp only [liveBindings, List.mem_flatMap, List.mem_filter, List.mem_map, beq_iff_eq,
    Bool.and_eq_true, LiveBinding.mk.injEq]
  constructor
  · rintro ⟨row, ⟨hrow, owner⟩, other, ⟨inBindings, bound, cur⟩, rfl, rfl⟩
    exact ⟨hrow, owner, inBindings, bound, cur⟩
  · rintro ⟨hrow, owner, inBindings, bound, cur⟩
    exact ⟨ent, ⟨hrow, owner⟩, binding, ⟨inBindings, bound, cur⟩, rfl, rfl⟩

theorem liveBinding_eq_ok {live : LiveBinding}
    (h : (liveBinding entId).run s = .ok (live, t)) :
    t = s ∧ IsLive s.tables entId live := by
  unfold liveBinding at h
  rw [get_ok] at h
  split at h
  · rename_i found isFound
    rw [require_ok] at h
    cases h.2
    have single (other : LiveBinding) : other ∈ liveBindings s.tables entId ↔ other = live := by
      rw [isFound, List.mem_singleton]
    obtain ⟨inRows, owner, inBindings, bound, cur⟩ :=
      mem_liveBindings.mp ((single live).mpr rfl)
    refine ⟨rfl, inRows, owner, h.1, inBindings, bound, cur, ?_⟩
    intro binding mem isBound isCurrent
    have same : (⟨live.entitlement, binding⟩ : LiveBinding) = live :=
      (single _).mp (mem_liveBindings.mpr ⟨inRows, owner, mem, isBound, isCurrent⟩)
    rw [← same]
  · cases h

/-- A row is added. -/
structure Adds (new : PairSecurityRow) (s t : SecuredDatabase) : Prop where
  tables : t.tables = s.tables
  pairs : ∀ row, row ∈ t.pairs ↔ row = new ∨ row ∈ s.pairs

theorem le_highestBindingRevision (mem : row ∈ s.pairs) :
    row.bindingRevision ≤ highestBindingRevision s row.entitlementId := by
  unfold highestBindingRevision
  have inRevisions : row.bindingRevision ∈ (s.pairs.filter (fun other =>
      other.entitlementId == row.entitlementId)).map PairSecurityRow.bindingRevision :=
    List.mem_map_of_mem (List.mem_filter.mpr ⟨mem, beq_self_eq_true _⟩)
  generalize (s.pairs.filter (fun other => other.entitlementId == row.entitlementId)).map
    PairSecurityRow.bindingRevision = revisions at inRevisions
  induction revisions with
  | nil => cases inRevisions
  | cons revision revisions ih =>
    cases List.mem_cons.mp inRevisions with
    | inl same =>
      rw [same]
      exact le_max_left _ _
    | inr later => exact (ih later).trans (le_max_right _ _)

theorem requireLiveBinding_eq_ok {identity : PairIdentity}
    (h : (requireLiveBinding identity).run s = .ok ((), t)) : t = s := by
  unfold requireLiveBinding at h
  rw [get_ok, ← bind_pure (require _ _), require_ok] at h
  cases h.2
  rfl

/-- The pair gets a row after all others of its entitlement. -/
theorem registerPending_adds {identity : PairIdentity} {predecessorPairId : Option Bytes}
    (fresh : ∀ other ∈ s.pairs, other.entitlementId = identity.entitlementId →
      other.pairId ≠ identity.pairId)
    (h : (registerPending identity predecessorPairId now).run s = .ok (row, t)) :
    Adds row s t ∧ row.pairId = identity.pairId ∧ row.entitlementId = identity.entitlementId ∧
      row.bindingId = identity.bindingId ∧
      row.revocationVersion = identity.revocationVersion ∧ row.updatedAtEpoch = now ∧
      ∀ other ∈ s.pairs, other.entitlementId = identity.entitlementId →
        other.bindingRevision < row.bindingRevision := by
  replace h := read_ok h rfl
  split at h
  · rename_i existing isFound
    rw [require_ok] at h
    obtain ⟨inRows, key⟩ := lookup_key isFound
    have owner : existing.entitlementId = identity.entitlementId := by
      have exact := h.1
      simp only [exactPendingRetry, Bool.and_eq_true, beq_iff_eq] at exact
      exact exact.1.1.1.1.1.1
    exact absurd key (fresh existing inRows owner)
  · obtain ⟨⟨⟩, _, requiring, h⟩ := bind_ok.mp h
    obtain rfl := (requireLiveBinding_eq_ok requiring).symm
    rw [get_ok] at h
    rw [require_ok, bind_ok] at h
    obtain ⟨-, ⟨⟩, u, writing, reading⟩ := h
    obtain ⟨tables, pairs⟩ := writePairs_eq_ok (recast_eq_ok.mp writing)
    obtain ⟨rfl, inRows, key⟩ := requiredState_eq_ok reading
    have last : row = { pairId := identity.pairId
                        entitlementId := identity.entitlementId
                        bindingId := identity.bindingId
                        bindingRevision := highestBindingRevision s identity.entitlementId + 1
                        revocationVersion := identity.revocationVersion
                        hostKeySha256 := identity.hostKeySha256
                        androidKeySha256 := identity.androidKeySha256
                        predecessorPairId := predecessorPairId
                        createdAtEpoch := now
                        updatedAtEpoch := now } := by
      refine pair_unique (s := t) ?_ inRows key
      rw [pairs]
      exact List.mem_append_right _ List.mem_cons_self
    subst last
    refine ⟨⟨tables, ?_⟩, rfl, rfl, rfl, rfl, rfl, ?_⟩
    · intro other
      rw [pairs, List.mem_append, List.mem_singleton]
      exact or_comm
    · intro other mem owner
      have le := le_highestBindingRevision mem
      rw [owner] at le
      exact Nat.lt_succ_of_le le

/-- Of the pairs of an entitlement only the latest can still be revoked. -/
def NewestFirst (pairs : List PairSecurityRow) (entId : Bytes) : Prop :=
  ∀ row ∈ pairs, row.entitlementId = entId → row.assuranceState.isRevocable = true →
    ∀ other ∈ pairs, other.entitlementId = entId →
      other.bindingRevision ≤ row.bindingRevision

/-- The pair of an entitlement's devices becomes the one that is active. -/
structure Activates (entitlementId : Bytes) (live : LiveBinding) (now : Nat) (row : PairSecurityRow)
    (s t : SecuredDatabase) : Prop where
  tables : t.tables = s.tables
  others : ∀ other, other.entitlementId ≠ entitlementId → (other ∈ t.pairs ↔ other ∈ s.pairs)
  member : row ∈ t.pairs
  active : row.assuranceState = .active
  owner : row.entitlementId = entitlementId
  pairId : row.pairId = live.entitlement.pairId
  bindingId : row.bindingId = live.binding.bindingId
  revocationVersion : row.revocationVersion = live.entitlement.revocationVersion
  updatedAtEpoch : row.updatedAtEpoch ≤ now ∨ ∃ old ∈ s.pairs, row.updatedAtEpoch ≤ old.updatedAtEpoch
  rest : ∀ other ∈ t.pairs, other.entitlementId = entitlementId → other ≠ row →
    other.assuranceState.isRevocable = false ∧ other.bindingRevision ≤ row.bindingRevision ∧
      ∃ old ∈ s.pairs, Evolves now old other

theorem Replaces.others (h : Replaces old new s t) (other : row.entitlementId ≠ old.entitlementId) :
    row ∈ t.pairs ↔ row ∈ s.pairs := by
  rw [h.pairs]
  constructor
  · rintro (rfl | kept)
    · exact absurd h.same.entitlementId other
    · exact kept.1
  · intro mem
    refine .inr ⟨mem, ?_⟩
    intro same
    rw [pair_unique h.member mem same] at other
    exact other rfl

theorem commitReactivation_activates {cur : Option PairSecurityRow} {live : LiveBinding}
    (newest : NewestFirst s.pairs entId)
    (found : ∀ state, cur = some state → state ∈ s.pairs ∧
      state.entitlementId = entId ∧ state.pairId = live.entitlement.pairId)
    (h : (commitReactivation cur live now).run s = .ok (row, t)) :
    Activates entId live now row s t := by
  obtain ⟨state, isState, h⟩ := unwrap_ok.mp h
  obtain ⟨member, owner, key⟩ := found state isState
  rw [require_ok, require_ok, bind_ok] at h
  obtain ⟨⟨binding, -, -⟩, -, recovery, u, suspending, h⟩ := h
  obtain ⟨revocable, evolves, first⟩ := transitionToRecovery_replaces member suspending
  obtain ⟨count, v, updating, h⟩ := bind_ok.mp h
  obtain ⟨counted, reading⟩ := require_ok.mp h
  -- the one row that is counted is the row that was suspended
  have sel : decide (recovery.assuranceState = .recoveryPending) = true := by
    have pos : 0 < count := by omega
    rw [(updatePairs_eq_ok updating).2.2, rowcount, List.countP_pos_iff] at pos
    obtain ⟨other, hrow, holds⟩ := pos
    simp only [Bool.and_eq_true, beq_iff_eq] at holds
    have same := pair_unique first.new_member hrow holds.1.1.1
    rw [same] at holds
    exact holds.1.1.2
  have snd := updatePairs_replaces first.new_member (by simpa using sel)
    (fun other holds => by
      simp only [Bool.and_eq_true, beq_iff_eq] at holds
      exact holds.1.1.1) ⟨rfl, rfl, rfl, rfl⟩ updating
  obtain ⟨rfl, rfl⟩ := snd.requiredState reading
  have whole := first.trans snd
  refine ⟨whole.tables, ?_, whole.new_member, rfl, ?_, ?_, ?_, rfl, ?_, ?_⟩
  · intro other out
    exact whole.others (by rw [owner]; exact out)
  · exact whole.same.entitlementId.trans owner
  · exact whole.same.pairId.trans key
  · exact whole.same.bindingId.trans binding
  · have le : max now recovery.updatedAtEpoch ≤ max now state.updatedAtEpoch :=
      max_le (le_max_left _ _) evolves.updatedAtEpoch
    cases le_max_iff.mp le with
    | inl early => exact .inl early
    | inr late => exact .inr ⟨state, member, late⟩
  · intro other hrow isOwner different
    obtain ⟨kept, apart⟩ := ((whole.pairs other).mp hrow).resolve_left different
    refine ⟨?_, ?_, other, kept, .refl now other⟩
    · by_contra isRevocable
      rw [Bool.not_eq_false] at isRevocable
      have le := newest other kept isOwner isRevocable state member owner
      have ge := newest state member owner revocable other kept isOwner
      exact apart (congrArg PairSecurityRow.pairId
        (revision_unique member kept (isOwner.trans owner.symm) (ge.antisymm le)))
    · have le := newest state member owner revocable other kept isOwner
      rw [← whole.same.bindingRevision] at le
      exact le

theorem mem_entitlementStates :
    row ∈ entitlementStates s entId ↔ row ∈ s.pairs ∧ row.entitlementId = entId := by
  unfold entitlementStates
  rw [List.mem_insertionSort, List.mem_filter, beq_iff_eq]

theorem entitlementStates_head {latest : PairSecurityRow} {old : List PairSecurityRow}
    (states : entitlementStates s entId = latest :: old) (mem : row ∈ s.pairs)
    (owner : row.entitlementId = entId) : row.bindingRevision ≤ latest.bindingRevision := by
  have sorted : (entitlementStates s entId).Pairwise (fun first second =>
      second.bindingRevision ≤ first.bindingRevision) := List.pairwise_insertionSort _ _
  have inStates := mem_entitlementStates.mpr ⟨mem, owner⟩
  rw [states] at sorted inStates
  cases List.mem_cons.mp inStates with
  | inl same => rw [same]
  | inr later => exact (List.pairwise_cons.mp sorted).1 row later

/-- No pair of an entitlement can be revoked any more; the others are untouched. -/
structure Retires (entitlementId : Bytes) (now : Nat) (s t : SecuredDatabase) : Prop where
  tables : t.tables = s.tables
  others : ∀ other, other.entitlementId ≠ entitlementId → (other ∈ t.pairs ↔ other ∈ s.pairs)
  rest : ∀ other ∈ t.pairs, other.entitlementId = entitlementId →
    other.assuranceState.isRevocable = false ∧ ∃ old ∈ s.pairs, Evolves now old other

theorem retirePredecessor {activationMode : ActivationMode} {predecessor : Option PairSecurityRow}
    (newest : NewestFirst s.pairs entId)
    (choosing : (predecessorForNewBinding activationMode (entitlementStates s entId)).run s =
      .ok (predecessor, t)) (rotating : (rotateOut predecessor now).run t = .ok ((), u)) :
    Retires entId now s u := by
  unfold predecessorForNewBinding at choosing
  split at choosing
  · rename_i states
    cases choosing
    cases rotating
    refine ⟨rfl, fun _ _ => Iff.rfl, ?_⟩
    intro other member owner
    have inStates := mem_entitlementStates.mpr ⟨member, owner⟩
    rw [states] at inStates
    cases inStates
  · cases choosing
  · rename_i latest old states
    cases choosing
    obtain ⟨row, v, inner, res⟩ := map_eq_ok.mp rotating
    cases res
    obtain ⟨member, owner⟩ := mem_entitlementStates.mp
      (states ▸ List.mem_cons_self : latest ∈ entitlementStates s entId)
    obtain ⟨evolves, retired, replaces⟩ := rotatePredecessor_replaces member inner
    refine ⟨replaces.tables, ?_, ?_⟩
    · intro other out
      exact replaces.others (by rw [owner]; exact out)
    · intro other hrow isOwner
      cases (replaces.pairs other).mp hrow with
      | inl isRow =>
        subst isRow
        exact ⟨retired, latest, member, evolves⟩
      | inr kept =>
        refine ⟨?_, other, kept.1, .refl now other⟩
        by_contra isRevocable
        rw [Bool.not_eq_false] at isRevocable
        have le := entitlementStates_head states kept.1 isOwner
        have ge := newest other kept.1 isOwner isRevocable latest member owner
        exact kept.2 (congrArg PairSecurityRow.pairId
          (revision_unique member kept.1 (isOwner.trans owner.symm) (le.antisymm ge)))
  · cases choosing
  · cases choosing

theorem commitNewBinding_activates {proof : VerifiedActivationBindingProof} {live : LiveBinding}
    (newest : NewestFirst s.pairs entId) (pair : live.entitlement.pairId = proof.pairId)
    (fresh : ∀ other ∈ s.pairs, other.entitlementId = entId →
      other.pairId ≠ proof.pairId)
    (h : (commitNewBinding proof live entId (entitlementStates s entId) now).run s =
      .ok (row, t)) : Activates entId live now row s t := by
  obtain ⟨predecessor, s1, choosing, h⟩ := bind_ok.mp h
  obtain ⟨⟨⟩, s2, rotating, h⟩ := bind_ok.mp h
  have retires := retirePredecessor newest choosing rotating
  rw [require_ok, bind_ok] at h
  obtain ⟨-, pend, s3, registering, activating⟩ := h
  have freshNow : ∀ other ∈ s2.pairs, other.entitlementId = entId →
      other.pairId ≠ proof.pairId := by
    intro other hrow owner
    obtain ⟨-, old, inOld, evolves⟩ := retires.rest other hrow owner
    rw [evolves.pairId]
    exact fresh old inOld (evolves.entitlementId.symm.trans owner)
  obtain ⟨adds, key, owner, binding, version, stamp, latest⟩ := registerPending_adds freshNow registering
  obtain ⟨evolves, on, replaces⟩ :=
    activateExistingState_replaces ((adds.pairs pend).mpr (.inl rfl)) activating
  refine ⟨?_, ?_, replaces.new_member, on, ?_, ?_, ?_, ?_, ?_, ?_⟩
  · exact (replaces.tables.trans adds.tables).trans retires.tables
  · intro other out
    rw [replaces.others (by rw [owner]; exact out), adds.pairs, retires.others other out]
    refine or_iff_right ?_
    rintro rfl
    exact out owner
  · exact evolves.entitlementId.trans owner
  · exact (evolves.pairId.trans key).trans pair.symm
  · exact evolves.bindingId.trans binding
  · exact evolves.revocationVersion.trans version
  · have le := evolves.updatedAtEpoch
    rw [stamp, max_self] at le
    exact .inl le
  · intro other hrow isOwner different
    obtain ⟨kept, apart⟩ := ((replaces.pairs other).mp hrow).resolve_left different
    have pre : other ∈ s2.pairs := by
      refine ((adds.pairs other).mp kept).resolve_left ?_
      rintro rfl
      exact apart rfl
    obtain ⟨retired, old⟩ := retires.rest other pre isOwner
    refine ⟨retired, ?_, old⟩
    rw [evolves.bindingRevision]
    exact (latest other pre isOwner).le

/-- Nothing is secured but the pair of the devices an entitlement is bound to. -/
theorem commitVerifiedBinding_activates {proof : VerifiedActivationBindingProof}
    (newest : NewestFirst s.pairs entId)
    (stale : proof.activationMode ≠ .reactivate → ∀ other ∈ s.pairs,
      other.entitlementId = entId → ∀ ent ∈ s.tables.entitlements,
        ent.entitlementId = entId →
          other.revocationVersion ≠ ent.revocationVersion)
    (h : (commitVerifiedBinding proof entId now).run s = .ok (row, t)) :
    ∃ live, IsLive s.tables entId live ∧ live.entitlement.pairId = proof.pairId ∧
      live.binding.pairId = proof.pairId ∧ Activates entId live now row s t := by
  unfold commitVerifiedBinding at h
  rw [require_ok, require_ok, bind_ok] at h
  obtain ⟨-, -, live, _, reading, h⟩ := h
  obtain ⟨same, isLive⟩ := liveBinding_eq_ok reading
  obtain rfl := same.symm
  unfold requireProofMatchesLiveBinding at h
  rw [require_ok, get_ok] at h
  obtain ⟨⟨pair, bindingPair, -, -⟩, h⟩ := h
  refine ⟨live, isLive, pair, bindingPair, ?_⟩
  dsimp only at h
  have read (state : PairSecurityRow)
      (isFound : (entitlementStates s entId).find? (fun state =>
        state.pairId == proof.pairId) = some state) :
      state ∈ s.pairs ∧ state.entitlementId = entId ∧ state.pairId = proof.pairId := by
    obtain ⟨member, owner⟩ := mem_entitlementStates.mp (List.mem_of_find?_eq_some isFound)
    exact ⟨member, owner, by simpa using List.find?_some isFound⟩
  split at h
  · refine commitReactivation_activates newest ?_ h
    intro state isFound
    rw [pair]
    exact read state isFound
  · rename_i notAgain
    split at h
    · rename_i state isFound
      obtain ⟨member, owner, -⟩ := read state isFound
      unfold requireStateMatchesLive at h
      rw [require_ok] at h
      exact absurd h.1.2.1 (stale notAgain state member owner _ isLive.entitlement isLive.owner)
    · rename_i unknown
      refine commitNewBinding_activates newest pair ?_ h
      intro other member owner same
      have none := List.find?_eq_none.mp unknown other (mem_entitlementStates.mpr ⟨member, owner⟩)
      simp [same] at none

theorem updatePairs_accepted {count : Nat}
    (h : (updatePairs cond change).run s = .ok (count, t)) :
    ∀ row ∈ s.pairs, cond row = true → updateAccepted row (change row) = true := by
  unfold updatePairs at h
  rw [get_ok, require_ok] at h
  exact h.1

/-- The row of a pair that was revoked. -/
def revokedAt (now : Nat) (row : PairSecurityRow) : PairSecurityRow :=
  { row with assuranceState := .revoked, updatedAtEpoch := now }

theorem revokePair_replaces {pairId : Bytes}
    (h : (revokePair entId pairId now).run s = .ok ((), t)) :
    ∃ row ∈ s.pairs, row.entitlementId = entId ∧ row.pairId = pairId ∧
      row.assuranceState.isRevocable = true ∧ row.updatedAtEpoch ≤ now ∧
      fitsInteger now = true ∧ Replaces row (revokedAt now row) s t := by
  obtain ⟨count, u, updating, h⟩ := bind_ok.mp h
  rw [← bind_pure (require _ _), require_ok] at h
  obtain ⟨counted, last⟩ := h
  cases last
  have pos : 0 < count := by omega
  rw [(updatePairs_eq_ok updating).2.2, rowcount, List.countP_pos_iff] at pos
  obtain ⟨row, mem, holds⟩ := pos
  have ok := updatePairs_accepted updating row mem holds
  have replaces := updatePairs_replaces mem holds (by
    intro other sel
    simp only [Bool.and_eq_true, beq_iff_eq] at sel holds
    exact sel.1.2.trans holds.1.2.symm) ⟨rfl, rfl, rfl, rfl⟩ updating
  simp only [Bool.and_eq_true, beq_iff_eq] at holds
  refine ⟨row, mem, holds.1.1, holds.1.2, holds.2, ?_, ?_, replaces⟩
  · simp only [updateAccepted, notRolledBack, Bool.and_eq_true, decide_eq_true_eq] at ok
    exact ok.1.2.1.2
  · exact (t.pairChecks _ replaces.new_member).integers.2.2.2.2

theorem updateAccepted_revokedAt (revocable : row.assuranceState.isRevocable = true)
    (order : row.updatedAtEpoch ≤ now) : updateAccepted row (revokedAt now row) = true := by
  have valid : transitionValid row.assuranceState .revoked = true := by
    cases state : row.assuranceState <;> rw [state] at revocable <;>
      first
      | rfl
      | cases revocable
  simp [updateAccepted, identityKept, notRolledBack, revokedAt, order, valid]

theorem updatePairs_succeeds {cond : PairSecurityRow → Bool}
    {change : PairSecurityRow → PairSecurityRow}
    (ok : ∀ row ∈ s.pairs, cond row = true → updateAccepted row (change row) = true)
    (hc : ∀ row ∈ s.pairs, cond row = true → (change row).Checks) :
    ∃ t, (updatePairs cond change).run s = .ok (rowcount cond s.pairs, t) := by
  have identity (row : PairSecurityRow) (mem : row ∈ s.pairs) (sel : cond row = true) :
      SamePair row (change row) := by
    have kept := ok row mem sel
    simp only [updateAccepted, identityKept, Bool.and_eq_true, beq_iff_eq] at kept
    obtain ⟨⟨⟨⟨⟨⟨⟨⟨⟨⟨pairId, entId⟩, bindingId⟩, revision⟩, -⟩, -⟩, -⟩, -⟩, -⟩, -⟩, -⟩ := kept
    exact ⟨pairId, entId, bindingId, revision⟩
  have holds : (∀ row ∈ update cond change s.pairs, row.Checks) ∧
      ((update cond change s.pairs).map PairSecurityRow.pairId).Nodup ∧
      ((update cond change s.pairs).map (fun row =>
        (row.entitlementId, row.bindingRevision))).Nodup := by
    refine ⟨?_, ?_, ?_⟩
    · intro row mem
      cases mem_update mem with
      | inl kept => exact s.pairChecks row kept.1
      | inr replaced =>
        obtain ⟨old, inOld, sel, rfl⟩ := replaced
        exact hc old inOld sel
    · rw [map_update (fun row mem sel => (identity row mem sel).pairId)]
      exact s.pairKeys
    · rw [map_update (fun row mem sel => Prod.ext
        (identity row mem sel).entitlementId (identity row mem sel).bindingRevision)]
      exact s.bindingRevisions
  refine ⟨⟨s.tables, _, holds.1, holds.2.1, holds.2.2⟩, ?_⟩
  unfold updatePairs writePairs
  rw [get_ok, require_ok, bind_ok]
  refine ⟨ok, (), _, ?_, rfl⟩
  rw [get_ok, dif_pos holds]
  rfl

theorem revokePair_succeeds {now : Nat} {row : PairSecurityRow} (mem : row ∈ s.pairs)
    (revocable : row.assuranceState.isRevocable = true) (order : row.updatedAtEpoch ≤ now)
    (fits : fitsInteger now = true) :
    ∃ t, (revokePair row.entitlementId row.pairId now).run s = .ok ((), t) := by
  have only : ∀ other ∈ s.pairs, (other.entitlementId == row.entitlementId &&
      other.pairId == row.pairId && other.assuranceState.isRevocable) = true → other = row := by
    intro other hrow sel
    simp only [Bool.and_eq_true, beq_iff_eq] at sel
    exact pair_unique mem hrow sel.1.2
  obtain ⟨t, updated⟩ := @updatePairs_succeeds s (fun other =>
      other.entitlementId == row.entitlementId && other.pairId == row.pairId &&
        other.assuranceState.isRevocable) (revokedAt now)
    (fun other hrow sel => by
      rw [only other hrow sel]
      exact updateAccepted_revokedAt revocable order)
    (fun other hrow sel => by
      have hc := s.pairChecks other hrow
      exact ⟨hc.pairId, hc.revisions, hc.hashes, hc.predecessor,
        hc.integers.1, hc.integers.2.1, hc.integers.2.2.1, hc.integers.2.2.2.1,
        fits⟩)
  refine ⟨t, ?_⟩
  unfold revokePair
  rw [bind_ok]
  refine ⟨_, t, updated, ?_⟩
  rw [← bind_pure (require _ _), require_ok]
  exact ⟨countP_eq_one (List.Nodup.of_map _ s.pairKeys) mem (by simp [revocable]) only, rfl⟩

theorem suspendPair_replaces {bindingId : Bytes}
    (h : (suspendPair entId bindingId now).run s = .ok ((), t)) :
    ∃ state new, state.entitlementId = entId ∧ state.bindingId = bindingId ∧
      Replaces state new s t ∧ Evolves now state new ∧ new.assuranceState ≠ .active ∧
      (new.assuranceState.isRevocable = true → state.assuranceState.isRevocable = true) := by
  unfold suspendPair at h
  rw [get_ok, unwrap_ok] at h
  obtain ⟨state, isFound, h⟩ := h
  have mem := List.mem_of_find?_eq_some isFound
  have keys := List.find?_some isFound
  simp only [Bool.and_eq_true, beq_iff_eq] at keys
  split at h
  · rename_i isBound
    obtain ⟨count, u, updating, h⟩ := bind_ok.mp h
    rw [← bind_pure (require _ _), require_ok] at h
    cases h.2
    have replaces := updatePairs_replaces mem (by simp) (fun other sel => by
      simp only [Bool.and_eq_true, beq_iff_eq] at sel
      exact sel.1) ⟨rfl, rfl, rfl, rfl⟩ updating
    refine ⟨state, _, keys.1, keys.2, replaces, evolves_moved state _ now, ?_, ?_⟩
    · exact AssuranceState.noConfusion
    intro _
    cases isBound with
    | inl hact =>
      rw [hact]
      rfl
    | inr blocked =>
      rw [blocked]
      rfl
  · rename_i notBound
    rw [← bind_pure (require _ _), require_ok] at h
    cases h.2
    rw [not_or] at notBound
    exact ⟨state, state, keys.1, keys.2, .refl mem, .refl now state, notBound.1, id⟩

end

end VisionForge.PairSecurity
