import VisionForge.PairSecurity.InstalledRuns
import VisionForge.Server.SignedStarts
import VisionForge.Lib.Histories

/-! # Restored entitlements

Taking a revocation back asks for the devices to be bound again with their card, but it
leaves them in place. An entitlement whose devices were unbound before it is restored stays
shut until a confirmation for it commits; one that its devices still hold does not.
-/

namespace VisionForge.PairSecurity

open Lib.Ascii Lib.Histories Lib.Run Lib.Table Lib.Transaction Agreement Server LicenseRepository
  UsageLease UsageRepository UsageService

def Vacant (database : Database) (row : EntitlementRow) : Prop :=
  row.hostIdentityPublicKeyB64 = [] ∧ ∀ binding ∈ database.deviceBindings,
    binding.entitlementId = row.entitlementId → binding.isCurrent = false

/-- An entitlement that is not active or that no devices hold. -/
def Unclaimed (database : Database) (entId : Bytes) : Prop :=
  ∀ row ∈ database.entitlements, row.entitlementId = entId → row.status = .active →
    Vacant database row

structure Shut (database : Database) (entitlementId : Bytes) : Prop where
  idle : Idle database entitlementId
  vacant : Unclaimed database entitlementId

/-- The pair of an entitlement has an active state. -/
def PairActive (s : SecuredDatabase) (entId : Bytes) : Prop :=
  ∃ row ∈ s.tables.entitlements, row.entitlementId = entId ∧
    ∃ pair ∈ s.pairs, pair.entitlementId = entId ∧ pair.pairId = row.pairId ∧
      pair.assuranceState = .active

/-- A restoration that gives an entitlement back to devices that hold it. -/
def Reopens (database : Database) : ServerOp → Prop
  | .restoreEntitlement entId => ∃ row ∈ database.entitlements,
      row.entitlementId = entId ∧ row.status = .revoked ∧
      AdminService.sourceAvailable database row = true ∧
      (AdminService.restored row).status = .active ∧ ¬Vacant database row
  | _ => False

section

variable {s : Database} {row : EntitlementRow} {entId : Bytes}

theorem Vacant.withBinding (vacant : Vacant s row) : UsageRepository.withBinding s row = row := by
  have none : currentBinding s row.entitlementId = none := by
    apply List.find?_eq_none.mpr
    intro binding mem holds
    simp only [decide_eq_true_eq] at holds
    rw [vacant.2 binding mem holds.1] at holds
    cases holds.2
  unfold UsageRepository.withBinding
  rw [none]

/-- What a start reads of an entitlement that is shut. -/
theorem Shut.hostKey (shut : Shut s entId) (held : entitlementIn s entId = some row)
    (on : row.status = .active) : row.hostIdentityPublicKeyB64 = [] := by
  obtain ⟨base, found, same⟩ := Option.map_eq_some_iff.mp held
  obtain ⟨member, key⟩ := lookup_key found
  have status := status_of_entitlementIn held member key
  have vacant := shut.vacant base member key (status.trans on)
  rw [vacant.withBinding] at same
  subst same
  exact vacant.1

end

/-- Whoever signs has a key. -/
def RejectsEmptyKeys (prims : Primitives) : Prop :=
  ∀ signature payload, prims.p256SignatureValid [] signature payload = false

/-- An entitlement keeps its host and does not become active. -/
structure Stays (restores : Prop) (before after : EntitlementRow) : Prop where
  entitlementId : after.entitlementId = before.entitlementId
  hostKey : after.hostIdentityPublicKeyB64 = before.hostIdentityPublicKeyB64
  active : after.status = .active → before.status = .active ∨ restores

theorem versions_stays (restores : Prop) : Versions restores (Stays restores) where
  refl := fun _ => ⟨rfl, rfl, .inl⟩
  trans := fun _ _ _ first snd => ⟨snd.entitlementId.trans first.entitlementId,
    snd.hostKey.trans first.hostKey,
    fun on => (snd.active on).elim first.active .inr⟩
  debited := by
    intro entId hchg row sel
    refine ⟨rfl, rfl, fun _ => .inl ?_⟩
    simp only [canDebit, Bool.and_eq_true, decide_eq_true_eq] at sel
    exact sel.1.2
  revoked := by
    intro row
    refine ⟨rfl, rfl, ?_⟩
    intro no
    cases no
  restored := fun isBack _ => ⟨rfl, rfl, fun _ => .inr isBack⟩

section

variable {service : UsageService} {prims : ServicePrimitives} {s t : SecuredDatabase}
  {entId : Bytes}

theorem Shut.serverStep_idle {db : Database} (shut : Shut db entId)
    (rejects : RejectsEmptyKeys prims.toPrimitives) (inv : Orderly db) (op : ServerOp) :
    Idle (serverStep service prims db op).1 entId := by
  by_contra busy
  obtain ⟨cmd, row, -, held, on, signed⟩ := serverStep_opens inv shut.idle busy
  rw [shut.hostKey held on, rejects] at signed
  cases signed

theorem Shut.securedStep_idle (shut : Shut s.tables entId)
    (rejects : RejectsEmptyKeys prims.toPrimitives) (ord : Orderly s.tables)
    (inv : Secured s) (op : ServerOp) :
    Idle (securedStep service prims s op).1.tables entId := by
  cases (@securedStep_spec service prims s ord inv op).1 with
  | inl failed =>
    obtain ⟨error, same⟩ := failed
    rw [same]
    exact shut.idle
  | inr done =>
    have tables : (securedStep service prims s op).1.tables = _ := congrArg Prod.fst done
    rw [tables]
    exact shut.serverStep_idle rejects ord _

theorem restoreEntitlement_eq_ok {tables tables' : Database}
    {resp : AdminService.RestoreResponse}
    (h : (AdminService.restoreEntitlement entId).run tables = .ok (resp, tables')) :
    tables'.deviceBindings = tables.deviceBindings ∧
      tables'.entitlements = update (fun row => row.entitlementId == entId)
        AdminService.restored tables.entitlements ∧
      ∃ row ∈ tables.entitlements, row.entitlementId = entId ∧ row.status = .revoked ∧
        AdminService.sourceAvailable tables row = true := by
  unfold AdminService.restoreEntitlement at h
  rw [bind_ok] at h
  obtain ⟨row, _, requiring, h⟩ := h
  obtain ⟨rfl, mem, key⟩ := requireEntitlement_eq_ok requiring
  rw [get_ok, require_ok, require_ok, bind_ok] at h
  obtain ⟨isOver, available, ⟨⟩, u, updating, h⟩ := h
  obtain ⟨-, bindings, entitlements⟩ := updateEntitlement_eq_ok updating
  rw [bind_ok] at h
  obtain ⟨updated, _, reading, last⟩ := h
  obtain ⟨rfl, -, -⟩ := requireEntitlement_eq_ok reading
  cases last
  exact ⟨bindings, entitlements, row, mem, key, isOver, available⟩

theorem restoreEntitlement_vacant {tables tables' : Database}
    {resp : AdminService.RestoreResponse}
    (h : (AdminService.restoreEntitlement entId).run tables = .ok (resp, tables'))
    (closed : ¬Reopens tables (.restoreEntitlement entId)) {row : EntitlementRow}
    (mem : row ∈ tables'.entitlements) (on : row.status = .active) :
    (row.entitlementId ≠ entId ∧ row ∈ tables.entitlements) ∨ Vacant tables' row := by
  obtain ⟨bindings, entitlements, pre, hrow, owner, isOver, available⟩ :=
    restoreEntitlement_eq_ok h
  rw [entitlements] at mem
  cases mem_update mem with
  | inl kept => exact .inl ⟨by simpa using kept.2, kept.1⟩
  | inr replaced =>
    obtain ⟨old, inOld, sel, rfl⟩ := replaced
    right
    have same := entitlement_unique hrow inOld
      ((beq_iff_eq.mp sel).trans owner.symm)
    subst same
    have vacant : Vacant tables old := by
      by_contra held
      exact closed ⟨old, inOld, owner, isOver, available, on, held⟩
    refine ⟨vacant.1, ?_⟩
    rw [bindings]
    exact vacant.2

variable {op : ServerOp}

theorem Shut.plain (shut : Shut s.tables entId)
    (rejects : RejectsEmptyKeys prims.toPrimitives) (ord : Orderly s.tables)
    (plain : changesPairs op = false) (closed : ¬Reopens s.tables op) :
    Shut (serverStep service prims s.tables op).1 entId := by
  refine ⟨shut.serverStep_idle rejects ord op, ?_⟩
  by_cases lasting : restores op = true
  · cases op with
    | restoreEntitlement restored =>
      refine atomically_map_invariant (P := fun tables => Unclaimed tables entId)
        shut.vacant ?_
      intro resp tables ran row mem owner on
      cases restoreEntitlement_vacant ran closed mem on with
      | inr vacant => exact vacant
      | inl other =>
        have vacant := shut.vacant row other.2 owner on
        refine ⟨vacant.1, ?_⟩
        rw [(restoreEntitlement_eq_ok ran).1]
        exact vacant.2
    | _ => cases lasting
  · have tracks := @serverStep_tracks service prims s.tables _ ord op plain
      (versions_stays _)
    intro row mem owner on
    obtain ⟨old, inOld, stays⟩ := exists_of_mem_after tracks.entitlements mem
    have vacant := shut.vacant old inOld (stays.entitlementId.symm.trans owner)
      ((stays.active on).resolve_right lasting)
    refine ⟨stays.hostKey.trans vacant.1, ?_⟩
    rw [tracks.deviceBindings, stays.entitlementId]
    exact vacant.2

theorem Changes.vacant {owner : Bytes} (changes : Changes owner s t)
    (shut : Shut s.tables entId) (other : entId ≠ owner) :
    Unclaimed t.tables entId := by
  intro row mem isRow on
  have apart : row.entitlementId ≠ owner := by
    rw [isRow]
    exact other
  have vacant := shut.vacant row ((changes.entitlements.others row apart).mp mem) isRow on
  refine ⟨vacant.1, ?_⟩
  intro binding inBindings owned
  refine vacant.2 binding ((changes.bindings.others binding ?_).mp inBindings) owned
  rw [owned]
  exact apart

theorem Changes.pairActive {owner : Bytes} (changes : Changes owner s t)
    (on : PairActive s entId) (other : entId ≠ owner) :
    PairActive t entId := by
  obtain ⟨row, mem, isRow, pair, inPairs, held, samePair, hact⟩ := on
  refine ⟨row, (changes.entitlements.others row ?_).mpr mem, isRow, pair,
    (changes.others pair ?_).mpr inPairs, held, samePair, hact⟩
  · rw [isRow]
    exact other
  · rw [held]
    exact other

theorem Secures.pairActive {owner : Bytes} {now : Nat} (h : Secures owner now s t)
    {row : EntitlementRow} (mem : row ∈ t.tables.entitlements)
    (isOwner : row.entitlementId = owner) : PairActive t owner := by
  obtain ⟨pair, inPairs, on, holder, key⟩ := h.row
  exact ⟨row, mem, isOwner, pair, inPairs, holder, (key row mem isOwner).symm, on⟩

theorem Revokes.vacant {row : EntitlementRow} {now : Nat} {pair : PairSecurityRow}
    (h : Revokes s t row now pair) : ∀ after ∈ t.tables.entitlements,
      after.entitlementId = row.entitlementId → after.status = .revoked := by
  intro after mem owner
  rw [h.entitlements] at mem
  cases mem_update mem with
  | inl kept => simp [owner] at kept
  | inr replaced =>
    obtain ⟨old, -, -, rfl⟩ := replaced
    rfl

/-- Nothing holds an entitlement whose devices were unbound. -/
theorem unbindEntitlementDevice_shuts {bindingId pairId : Bytes} {now : Nat}
    {resp : AdminService.RevokeResponse} (inv : Secured s)
    (h : (unbindEntitlementDevice entId bindingId pairId now).run s = .ok (resp, t)) :
    Shut t.tables entId := by
  have plain := (unbindEntitlementDevice_changes inv h).1
  refine ⟨(unbindEntitlementDevice_touches plain).2, ?_⟩
  rw [unbindEntitlementDevice_parts, bind_ok] at plain
  obtain ⟨⟨⟩, u, clearing, recording⟩ := plain
  obtain ⟨-, -, table, cur, inBindings, holds, isBinding, isCurrent⟩ :=
    clearDevices_eq_ok clearing
  obtain ⟨-, bindings, changed⟩ := recordUnbinding_eq_ok recording
  intro row mem owner _
  rw [changed] at mem
  cases mem_update mem with
  | inl kept => simp [owner] at kept
  | inr replaced =>
    obtain ⟨old, -, -, rfl⟩ := replaced
    refine ⟨rfl, ?_⟩
    intro binding htab owned
    rw [bindings, table] at htab
    rw [owner] at owned
    cases mem_update htab with
    | inr cleared =>
      obtain ⟨before, -, -, rfl⟩ := cleared
      rfl
    | inl kept =>
      -- the binding that was cleared was the only cur one
      by_contra held
      rw [Bool.not_eq_false] at held
      have same := inv.oneCurrent entId binding kept.1 cur inBindings owned holds
        held isCurrent
      subst same
      simp [holds, isBinding] at kept

end

section

variable (service : UsageService) (prims : ServicePrimitives)

/-- A request that is answered with a lease for an entitlement. -/
def IssuesLease (s : SecuredDatabase) (op : ServerOp) (entId : Bytes) : Prop :=
  op.leased = some entId ∧ leaseOf (securedStep service prims s op).2 ≠ none

/-- A confirmation of an issued challenge that binds the devices of an entitlement again, or that
    credits it again. -/
def CommitsBinding (s : SecuredDatabase) (op : ServerOp) (entId : Bytes) : Prop :=
  ∃ seen command ids outcome now challenge response,
    op = .confirmActivation seen command ids outcome now ∧
    challengeIn s.tables command.challengeId = some challenge ∧ challenge.status = .issued ∧
    challenge.activationMode ≠ .activate ∧ challenge.targetEntitlementId = entId ∧
    (securedStep service prims s op).2 = .ok (.activation response)

def Restores (s : SecuredDatabase) (entId : Bytes) : Prop :=
  ∃ response, (securedStep service prims s (.restoreEntitlement entId)).2 = .ok (.restored response)

/-- Every entitlement has an active pair or cannot be started. -/
def Backed (s : SecuredDatabase) : Prop :=
  ∀ row ∈ s.tables.entitlements, PairActive s row.entitlementId ∨ Shut s.tables row.entitlementId

/-- An entitlement that exists and cannot be started. -/
def Locked (s : SecuredDatabase) (entId : Bytes) : Prop :=
  (∃ row ∈ s.tables.entitlements, row.entitlementId = entId) ∧ Shut s.tables entId

variable {service prims} {s t : SecuredDatabase} {entId : Bytes}

theorem IssuesLease.session (h : IssuesLease service prims s op entId) :
    ∃ row ∈ (securedStep service prims s op).1.tables.usageSessions,
      row.entitlementId = entId ∧ row.status = .active := by
  obtain ⟨asked, leased⟩ := h
  have plain : changesPairs op = false := by
    cases op with
    | confirmActivation => cases asked
    | revokeEntitlement => cases asked
    | unbindEntitlementDevice => cases asked
    | _ => rfl
  rw [securedStep_plain plain] at leased ⊢
  obtain ⟨lease, given⟩ := Option.ne_none_iff_exists'.mp leased
  obtain ⟨row, found, owner, on⟩ := serverStep_leased asked given
  exact ⟨row, (lookup_key found).1, owner, on⟩

theorem SecuredMove.persists (h : SecuredMove s t op) {row : EntitlementRow}
    (mem : row ∈ s.tables.entitlements) :
    ∃ new ∈ t.tables.entitlements, new.entitlementId = row.entitlementId := by
  have kept {owner : Bytes} (changes : Changes owner s t) :
      ∃ new ∈ t.tables.entitlements, new.entitlementId = row.entitlementId := by
    obtain ⟨new, inNew, same, -⟩ := changes.entitlements.kept row mem
    exact ⟨new, inNew, same⟩
  cases h with
  | keeps tables pairs =>
    obtain ⟨new, inNew, same⟩ := exists_of_mem_before tables.entitlements mem
    exact ⟨new, inNew, same.entitlementId⟩
  | secures secures => exact kept secures.changes
  | revokes _ revokes => exact kept revokes.changes
  | unbinds changes => exact kept changes

/-- An entitlement that is shut stays shut until a confirmation for it commits. -/
theorem Locked.step (rejects : RejectsEmptyKeys prims.toPrimitives)
    (ord : Orderly s.tables) (inv : Secured s) (locked : Locked s entId)
    (closed : ¬Reopens s.tables op)
    (unbound : ¬CommitsBinding service prims s op entId) :
    Locked (securedStep service prims s op).1 entId := by
  obtain ⟨⟨row, mem, isRow⟩, shut⟩ := locked
  have move := (@securedStep_spec service prims s ord inv op).2
  obtain ⟨new, inNew, same⟩ := move.persists mem
  refine ⟨⟨new, inNew, same.trans isRow⟩, ?_⟩
  by_cases plain : changesPairs op = false
  · rw [securedStep_plain plain]
    exact shut.plain rejects ord plain closed
  · refine ⟨shut.securedStep_idle rejects ord inv op, ?_⟩
    cases op with
    | confirmActivation seen cmd ids outcome now =>
      cases atomically_map_cases (f := ServerReply.activation)
          (confirmActivation service.settings prims seen cmd ids now) s with
      | inr failed =>
        obtain ⟨-, error, same⟩ := failed
        have ans : securedStep service prims s
            (.confirmActivation seen cmd ids outcome now) = (s, .error error) := same
        rw [ans]
        exact shut.vacant
      | inl done =>
        obtain ⟨resp, u, ran, same⟩ := done
        have ans : securedStep service prims s
            (.confirmActivation seen cmd ids outcome now) =
            (u, .ok (.activation resp)) := same
        rw [ans]
        obtain rfl | ⟨chal, owner, found, issued, isFor, secures⟩ :=
          (confirmActivation_secures_for inv ran).2
        · exact shut.vacant
        · refine secures.changes.vacant shut ?_
          rintro rfl
          cases isFor with
          | inl fresh => exact fresh row mem isRow
          | inr target =>
            exact unbound ⟨seen, cmd, ids, outcome, now, chal, resp, rfl, found,
              issued, target.1, target.2.symm, congrArg Prod.snd ans⟩
    | revokeEntitlement owner outcome now =>
      refine atomically_map_invariant (P := fun t : SecuredDatabase =>
        Unclaimed t.tables entId) shut.vacant ?_
      intro resp u ran
      obtain ⟨-, revoked, -, -, again | ⟨-, pair, revokes⟩⟩ := revokeEntitlement_revokes inv ran
      · unfold Unclaimed Vacant
        rw [again.2.1.entitlements, again.2.1.deviceBindings]
        exact shut.vacant
      · by_cases other : entId = revoked.entitlementId
        · intro after htab owned on
          rw [revokes.vacant after htab (owned.trans other)] at on
          cases on
        · exact revokes.changes.vacant shut other
    | unbindEntitlementDevice owner bindingId pairId outcome now =>
      refine atomically_map_invariant (P := fun t : SecuredDatabase =>
        Unclaimed t.tables entId) shut.vacant ?_
      intro resp u ran
      by_cases other : entId = owner
      · rw [other]
        exact (unbindEntitlementDevice_shuts inv ran).vacant
      · exact (unbindEntitlementDevice_changes inv ran).2.vacant shut other
    | _ => exact absurd rfl plain

theorem Backed.empty : Backed {} := by
  intro row mem
  cases mem

theorem Backed.changes {owner : Bytes} (backed : Backed s) (changes : Changes owner s t)
    (idle : ∀ entId, Shut s.tables entId → Idle t.tables entId)
    (own : ∀ row ∈ t.tables.entitlements, row.entitlementId = owner →
      PairActive t owner ∨ Shut t.tables owner) : Backed t := by
  intro row mem
  by_cases isOwner : row.entitlementId = owner
  · rw [isOwner]
    exact own row mem isOwner
  · cases backed row ((changes.entitlements.others row isOwner).mp mem) with
    | inl on => exact .inl (changes.pairActive on isOwner)
    | inr shut => exact .inr ⟨idle _ shut, changes.vacant shut isOwner⟩

theorem Backed.keeps {restores : Prop} (backed : Backed s) (tables : Keeps restores s.tables t.tables)
    (pairs : t.pairs = s.pairs)
    (shut : ∀ entId, Shut s.tables entId → Shut t.tables entId) :
    Backed t := by
  intro row mem
  obtain ⟨old, inOld, kept⟩ := exists_of_mem_after tables.entitlements mem
  rw [kept.entitlementId]
  cases backed old inOld with
  | inr closed => exact .inr (shut _ closed)
  | inl on =>
    left
    obtain ⟨holder, hrow, isHolder, pair, inPairs, held, samePair, hact⟩ := on
    obtain ⟨new, inNew, stays⟩ := exists_of_mem_before tables.entitlements hrow
    refine ⟨new, inNew, stays.entitlementId.trans isHolder, pair, ?_, held,
      samePair.trans stays.pairId.symm, hact⟩
    rw [pairs]
    exact inPairs

theorem Backed.atomically {α : Type} {wrap : α → ServerReply} {body : SecuredStatement α}
    (backed : Backed s)
    (idle : ∀ entId, Shut s.tables entId →
      Idle (atomically (wrap <$> body) s).1.tables entId)
    (ord : Orderly (atomically (wrap <$> body) s).1.tables)
    (each : ∀ value t, body.run s = .ok (value, t) →
      (∀ entId, Shut s.tables entId → Idle t.tables entId) →
      Orderly t.tables → Backed t) : Backed (atomically (wrap <$> body) s).1 := by
  cases atomically_map_cases (f := wrap) body s with
  | inl done =>
    obtain ⟨value, t, ran, same⟩ := done
    rw [same] at idle ord ⊢
    exact each value t ran idle ord
  | inr failed =>
    obtain ⟨-, error, same⟩ := failed
    rw [same]
    exact backed

theorem Backed.step (rejects : RejectsEmptyKeys prims.toPrimitives)
    (ord : Orderly s.tables) (inv : Secured s) (backed : Backed s)
    (closed : ¬Reopens s.tables op) : Backed (securedStep service prims s op).1 := by
  have idle (entId : Bytes) (shut : Shut s.tables entId) :
      Idle (securedStep service prims s op).1.tables entId :=
    shut.securedStep_idle rejects ord inv op
  have orderly' := @securedStep_orderly service prims s ord inv op
  by_cases plain : changesPairs op = false
  · rw [securedStep_plain plain]
    exact backed.keeps (serverStep_keeps ord plain) rfl
      (fun entId shut => shut.plain rejects ord plain closed)
  · cases op with
    | confirmActivation seen cmd ids outcome now =>
      refine backed.atomically idle orderly' ?_
      intro resp u ran idle _
      obtain rfl | ⟨owner, secures⟩ := (confirmActivation_secures inv ran).2
      · exact backed
      · exact backed.changes secures.changes idle
          (fun row mem isOwner => .inl (secures.pairActive mem isOwner))
    | revokeEntitlement owner outcome now =>
      refine backed.atomically idle orderly' ?_
      intro resp u ran idle orderly'
      obtain ⟨-, row, -, -, again | ⟨-, pair, revokes⟩⟩ := revokeEntitlement_revokes inv ran
      · obtain ⟨-, holders, pairs⟩ := again
        refine backed.keeps (@SameHolders.keeps False _ _ holders) pairs ?_
        intro entId shut
        refine ⟨idle entId shut, ?_⟩
        unfold Unclaimed Vacant
        rw [holders.entitlements, holders.deviceBindings]
        exact shut.vacant
      · refine backed.changes revokes.changes idle ?_
        intro after mem isOwner
        have isOver := revokes.vacant after mem isOwner
        refine .inr ⟨isOwner ▸ orderly'.revoked after mem isOver, ?_⟩
        intro other htab owned on
        rw [revokes.vacant other htab owned] at on
        cases on
    | unbindEntitlementDevice owner bindingId pairId outcome now =>
      refine backed.atomically idle orderly' ?_
      intro resp u ran idle _
      exact backed.changes (unbindEntitlementDevice_changes inv ran).2 idle
        (fun row mem isOwner => .inr (unbindEntitlementDevice_shuts inv ran))
    | _ => exact absurd rfl plain

theorem Restores.locked (h : Restores service prims s entitlementId)
    (ord : Orderly s.tables) (closed : ¬Reopens s.tables (.restoreEntitlement entitlementId)) :
    Locked (securedStep service prims s (.restoreEntitlement entitlementId)).1
      entitlementId := by
  obtain ⟨response, ans⟩ := h
  rw [securedStep_plain rfl] at ans ⊢
  obtain ⟨given, -, ran⟩ := atomically_map_eq_ok ans
  obtain ⟨bindings, entitlements, row, mem, owner, isOver, -⟩ := restoreEntitlement_eq_ok ran
  refine ⟨⟨AdminService.restored row, ?_, owner⟩, (restoreEntitlement_touches ord ran).2, ?_⟩
  · have htab := @mem_update_of_mem _ _ _ (fun row : EntitlementRow =>
      row.entitlementId == entitlementId) AdminService.restored mem
    rw [if_pos (by simpa using owner), ← entitlements] at htab
    exact htab
  · intro after htab isRow on
    cases restoreEntitlement_vacant ran closed htab on with
    | inl other => exact absurd isRow other.1
    | inr vacant => exact vacant

end

section

variable (service : UsageService) (prims : ServicePrimitives)

/-- No lease is issued for a restored entitlement before a confirmation for it commits. -/
def LockedUntilBound (ops : List ServerOp) : Prop :=
  Each (fun before op => ∀ entId,
    IssuesLease service prims (secured service prims before) op entId →
    ∀ earlier middle, before = earlier ++ .restoreEntitlement entId :: middle →
      Restores service prims (secured service prims earlier) entId →
      ∃ first confirms second, middle = first ++ confirms :: second ∧
        CommitsBinding service prims (secured service prims
          (earlier ++ .restoreEntitlement entId :: first)) confirms entId) ops

/-- Leases are issued for entitlements whose pair is active. -/
def LeasesPaired (ops : List ServerOp) : Prop :=
  Each (fun before op => ∀ entId,
    IssuesLease service prims (secured service prims before) op entId →
    PairActive (secured service prims (before ++ [op])) entId) ops

/-- No entitlement is given back to devices that hold it. -/
def NeverReopens (ops : List ServerOp) : Prop :=
  Each (fun before op => ¬Reopens (secured service prims before).tables op) ops

variable {service prims}

theorem secured_plain_pairs (ops : List ServerOp) (plain : changesPairs op = false) :
    (secured service prims (ops ++ [op])).pairs = (secured service prims ops).pairs := by
  rw [secured_concat, securedStep_plain plain]

theorem secured_backed (rejects : RejectsEmptyKeys prims.toPrimitives) {ops : List ServerOp}
    (closed : NeverReopens service prims ops) : Backed (secured service prims ops) := by
  induction ops using List.reverseRecOn with
  | nil => exact Backed.empty
  | append_singleton ops op ih =>
    obtain ⟨before, last⟩ := each_append.mp closed
    rw [secured_concat]
    exact (ih before).step rejects (secured_orderly ops) (secured_spec ops).1 last

theorem secured_locked (rejects : RejectsEmptyKeys prims.toPrimitives) {entitlementId : Bytes}
    {old middle : List ServerOp}
    (restores : Restores service prims (secured service prims old) entitlementId)
    (closed : NeverReopens service prims
      (old ++ .restoreEntitlement entitlementId :: middle))
    (unbound : ∀ first confirms snd, middle = first ++ confirms :: snd →
      ¬CommitsBinding service prims (secured service prims
        (old ++ .restoreEntitlement entitlementId :: first)) confirms entitlementId) :
    Locked (secured service prims (old ++ .restoreEntitlement entitlementId :: middle))
      entitlementId := by
  induction middle using List.reverseRecOn with
  | nil =>
    rw [secured_concat]
    exact restores.locked (secured_orderly old) (each_append.mp closed).2
  | append_singleton middle op ih =>
    rw [← List.cons_append, ← List.append_assoc] at closed ⊢
    obtain ⟨before, last⟩ := each_append.mp closed
    have locked := ih before (fun first confirms snd split =>
      unbound first confirms (snd ++ [op]) (by rw [split, List.append_assoc]; rfl))
    rw [secured_concat]
    exact locked.step rejects (secured_orderly _) (secured_spec _).1 last
      (unbound middle op [] rfl)

theorem NeverReopens.of_append {first snd : List ServerOp}
    (closed : NeverReopens service prims (first ++ snd)) :
    NeverReopens service prims first := Each.of_append closed

/-- As long as no entitlement is given back to devices that hold it, a restored one is locked until
    it is bound or credited again, and every lease belongs to an active pair. -/
theorem restored_stays_locked (service : UsageService) (prims : ServicePrimitives)
    (rejects : RejectsEmptyKeys prims.toPrimitives) (ops : List ServerOp)
    (closed : NeverReopens service prims ops) :
    LockedUntilBound service prims ops ∧ LeasesPaired service prims ops := by
  constructor
  · rintro before op behind rfl entitlementId issues old middle rfl restores
    by_contra none
    have unbound : ∀ first confirms second, middle = first ++ confirms :: second →
        ¬CommitsBinding service prims (secured service prims
          (old ++ .restoreEntitlement entitlementId :: first)) confirms entitlementId :=
      fun first confirms second split commits => none ⟨first, confirms, second, split, commits⟩
    have locked := secured_locked rejects restores closed.of_append unbound
    obtain ⟨row, member, owner, active⟩ := issues.session
    exact locked.2.securedStep_idle rejects (secured_orderly _) (secured_spec _).1 op row member
      owner active
  · rintro before op behind rfl entitlementId issues
    obtain ⟨session, member, owner, active⟩ := issues.session
    rw [← secured_concat] at member
    have backed : Backed (secured service prims (before ++ [op])) := by
      refine secured_backed rejects (@NeverReopens.of_append _ _ _ behind ?_)
      rw [List.append_assoc]
      exact closed
    obtain ⟨-, others, same⟩ := @secured_spec service prims (before ++ [op])
    have conserved := @conserved_served service prims others
    rw [← same] at conserved
    obtain ⟨row, inRows, isRow⟩ := conserved.sessions session member
    rw [owner] at isRow
    cases backed row inRows with
    | inl paired => exact isRow ▸ paired
    | inr shut => exact absurd active (shut.idle session member (owner.trans isRow.symm))

theorem NeverReopens.append_of_all {ops later : List ServerOp}
    (closed : NeverReopens service prims ops) (none : ∀ op ∈ later, restores op = false) :
    NeverReopens service prims (ops ++ later) := by
  induction later using List.reverseRecOn with
  | nil => simpa using closed
  | append_singleton later op ih =>
    rw [← List.append_assoc]
    refine each_append.mpr
      ⟨ih (fun other mem => none other (List.mem_append_left _ mem)), fun reopens => ?_⟩
    have lasting := none op (List.mem_append_right _ List.mem_cons_self)
    cases op with
    | restoreEntitlement => cases lasting
    | _ => exact reopens

end

/-! ## Concrete runs

The card of one day is activated at 950, and its entitlement is revoked at 1000. It is restored
after its devices were unbound, or with its devices in place. -/

instance (database : Database) (row : EntitlementRow) : Decidable (Vacant database row) :=
  inferInstanceAs (Decidable (_ ∧ ∀ binding ∈ database.deviceBindings, _ → _))

def signingPrimitives : ServicePrimitives :=
  { concreteServicePrimitives with
    p256SignatureValid := fun key signature _ =>
      !key.isEmpty && signature == ascii "c2lnbmF0dXJl" }

theorem signingPrimitives_reject : RejectsEmptyKeys signingPrimitives.toPrimitives :=
  fun _ _ => rfl

def dayEntitlementId : Bytes := List.replicate 32 97

def dayRestoration : AdminService.RestoreResponse where
  entitlementId := dayEntitlementId
  status := .active
  revocationVersion := 3
  remainingSeconds := 86400
  totalCreditedSeconds := 86400
  totalConsumedSeconds := 0

def vacatingOps : List ServerOp :=
  revokingOps ++ [.unbindEntitlementDevice dayEntitlementId (List.replicate 32 102)
    (List.replicate 32 101) none 1001]

/-- The unbound entitlement is restored and a start for it refused. The host binds a new phone. -/
def rebindingOps : List ServerOp :=
  vacatingOps ++ [.restoreEntitlement dayEntitlementId] ++
    [.startUsage {} concreteStart (List.replicate 32 99) 1010,
      .createActivationChallenge newKeyRequest 1020]

def rebindingOp : ServerOp :=
  .confirmActivation (secured concreteService signingPrimitives rebindingOps).tables
    newKeyConfirmation newKeyIds none 1030

theorem vacated_stays_locked :
    Restores concreteService signingPrimitives
      (secured concreteService signingPrimitives vacatingOps) dayEntitlementId ∧
    (∃ pair ∈ (secured concreteService signingPrimitives (rebindingOps ++ [rebindingOp])).pairs,
      pair.pairId = newKeyRequest.pairId ∧ pair.assuranceState = .active) ∧
    LockedUntilBound concreteService signingPrimitives (rebindingOps ++ [rebindingOp]) ∧
    LeasesPaired concreteService signingPrimitives (rebindingOps ++ [rebindingOp]) := by
  have facts : (∀ row ∈ (secured concreteService signingPrimitives vacatingOps).tables.entitlements,
      Vacant (secured concreteService signingPrimitives vacatingOps).tables row) ∧
      (securedStep concreteService signingPrimitives
        (secured concreteService signingPrimitives vacatingOps)
        (.restoreEntitlement dayEntitlementId)).2 =
          .ok (.restored { dayRestoration with revocationVersion := 4 }) ∧
      ∃ pair ∈ (secured concreteService signingPrimitives (rebindingOps ++ [rebindingOp])).pairs,
        pair.pairId = newKeyRequest.pairId ∧ pair.assuranceState = .active := by
    decide +kernel
  obtain ⟨vacant, restored, rebound⟩ := facts
  have closed : NeverReopens concreteService signingPrimitives
      (vacatingOps ++ [.restoreEntitlement dayEntitlementId]) := by
    refine each_append.mpr
      ⟨@NeverReopens.append_of_all _ _ [] vacatingOps each_nil (by decide +kernel), ?_⟩
    rintro ⟨row, member, -, -, -, -, held⟩
    exact held (vacant row member)
  refine ⟨⟨_, restored⟩, rebound,
    restored_stays_locked concreteService signingPrimitives signingPrimitives_reject _ ?_⟩
  rw [rebindingOps, List.append_assoc]
  exact closed.append_of_all (by simp [rebindingOp, restores])

/-- The devices with the version of their entitlement after it was restored. -/
def restoredCommon : UsageCommon :=
  { concreteCommon with
    revocationVersion := 3
    revocation := by decide }

def reopeningCommand : StartChallengeCommand :=
  { startingCommand with toUsageCommon := restoredCommon }

def reopeningChallenge : ServerOp :=
  .createStartChallenge (secured concreteService signingPrimitives restoringOps).tables
    reopeningCommand (List.replicate 32 52) 1000

def reopeningStart : ServerOp :=
  .startUsage (secured concreteService signingPrimitives restoringOps).tables
    { concreteStart with
      toUsageCommon := restoredCommon
      startChallengeToken := challengeToken signingPrimitives reopeningCommand
      startChallengeTokenText := startChallengeToken_text concreteService signingPrimitives _ }
    (List.replicate 32 99) 1000

def reopeningOps : List ServerOp := restoringOps ++ [reopeningChallenge]

theorem reopeningStart_issues :
    IssuesLease concreteService signingPrimitives
      (secured concreteService signingPrimitives reopeningOps) reopeningStart dayEntitlementId ∧
    Restores concreteService signingPrimitives
      (secured concreteService signingPrimitives revokingOps) dayEntitlementId ∧
    ∀ pair ∈ (secured concreteService signingPrimitives restoringOps).pairs,
      pair.assuranceState = .revoked := by
  have facts : leaseOf (securedStep concreteService signingPrimitives
      (secured concreteService signingPrimitives reopeningOps) reopeningStart).2 ≠ none ∧
      (securedStep concreteService signingPrimitives
        (secured concreteService signingPrimitives revokingOps)
        (.restoreEntitlement dayEntitlementId)).2 = .ok (.restored dayRestoration) ∧
      ∀ pair ∈ (secured concreteService signingPrimitives restoringOps).pairs,
        pair.assuranceState = .revoked := by decide +kernel
  exact ⟨⟨rfl, facts.1⟩, ⟨_, facts.2.1⟩, facts.2.2⟩

/-- The devices of a revoked entitlement go on with it once it is restored. -/
theorem restored_without_rebinding :
    ¬LockedUntilBound concreteService signingPrimitives (reopeningOps ++ [reopeningStart]) ∧
    ¬LeasesPaired concreteService signingPrimitives (reopeningOps ++ [reopeningStart]) := by
  obtain ⟨issues, restored, revoked⟩ := reopeningStart_issues
  constructor
  · intro locked
    have split : reopeningOps =
        revokingOps ++ .restoreEntitlement dayEntitlementId :: [reopeningChallenge] := by
      simp [reopeningOps, restoringOps, revokingOps, dayEntitlementId]
    obtain ⟨first, confirms, second, inMiddle, commits⟩ := locked reopeningOps reopeningStart []
      rfl dayEntitlementId issues revokingOps _ split restored
    obtain ⟨seen, cmd, ids, outcome, now, chal, resp, isConfirm, -⟩ := commits
    have member : confirms ∈ [reopeningChallenge] := by
      rw [inMiddle]
      simp
    rw [List.mem_singleton.mp member] at isConfirm
    cases isConfirm
  · intro paired
    obtain ⟨-, -, -, pair, inPairs, -, -, active⟩ := paired reopeningOps reopeningStart [] rfl
      dayEntitlementId issues
    -- neither the challenge nor the start touches the pairs
    rw [secured_plain_pairs _ (show changesPairs reopeningStart = false from rfl), reopeningOps,
      secured_plain_pairs _ (show changesPairs reopeningChallenge = false from rfl)] at inPairs
    have isOver := revoked pair inPairs
    rw [active] at isOver
    exact AssuranceState.noConfusion isOver

end VisionForge.PairSecurity
