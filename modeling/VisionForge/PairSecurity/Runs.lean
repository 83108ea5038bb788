import VisionForge.PairSecurity.Steps

/-! # Runs of the service with its pairs

The states of pairs only restrict the service: whatever it does to its other tables, the
service without pair states does too. Every request keeps the invariant of pair security.
-/

namespace VisionForge.PairSecurity

open Lib.Ascii Lib.Run Lib.Table Lib.Transaction Server LicenseRepository UsageRepository
  UsageService

/-- Requests that change the states of pairs. -/
def changesPairs : ServerOp → Bool
  | .confirmActivation .. | .revokeEntitlement .. | .unbindEntitlementDevice .. => true
  | _ => false

/-- Requests that may take a revocation back. -/
def restores : ServerOp → Bool
  | .restoreEntitlement .. => true
  | _ => false

section

variable {service : UsageService} {prims : ServicePrimitives} {s t : Database} {back : Prop}

/-- What holds between an entitlement and its later versions, as long as no card is credited and
    its devices stay. -/
structure Versions (back : Prop) (later : EntitlementRow → EntitlementRow → Prop) : Prop where
  refl : ∀ row, later row row
  trans : ∀ first second third, later first second → later second third → later first third
  debited : ∀ {entitlementId charged row}, canDebit entitlementId charged row = true →
    later row (debit charged row)
  revoked : ∀ row, later row (AdminService.revoked row)
  restored : back → ∀ row, later row (AdminService.restored row)

/-- Entitlements go on in their places, and nothing else of them is changed. -/
structure Tracks (later : EntitlementRow → EntitlementRow → Prop) (s t : Database) : Prop where
  entitlements : List.Forall₂ later s.entitlements t.entitlements
  deviceBindings : t.deviceBindings = s.deviceBindings
  licenseActivations : t.licenseActivations = s.licenseActivations

theorem Keeps.of_calm (h : Calm s t) : Keeps back s t := (sameHolders_of_calm h).keeps

section

variable {later : EntitlementRow → EntitlementRow → Prop}

theorem Tracks.of_same (versions : Versions back later) (entitlements : t.entitlements = s.entitlements)
    (deviceBindings : t.deviceBindings = s.deviceBindings)
    (licenseActivations : t.licenseActivations = s.licenseActivations) : Tracks later s t := by
  refine ⟨?_, deviceBindings, licenseActivations⟩
  rw [entitlements]
  exact List.forall₂_same.mpr (fun row _ => versions.refl row)

theorem Tracks.of_calm (versions : Versions back later) (h : Calm s t) : Tracks later s t :=
  .of_same versions h.entitlements h.deviceBindings h.licenseActivations

theorem Tracks.trans {u : Database} (versions : Versions back later) (first : Tracks later s t)
    (snd : Tracks later t u) : Tracks later s u :=
  ⟨forall₂_trans versions.trans first.entitlements snd.entitlements,
    snd.deviceBindings.trans first.deviceBindings,
    snd.licenseActivations.trans first.licenseActivations⟩

/-- A lease that is given out is paid for, and nothing else is changed. -/
theorem tracks_of_move (versions : Versions back later) {given : Grant}
    (h : Move service prims.toPrimitives s t (some given)) : Tracks later s t := by
  have paid {entId : Bytes} {pre : EntitlementRow} {grant : Grant} {seq hchg : Nat}
      (pays : Pays s t entId pre grant seq hchg) :
      List.Forall₂ later s.entitlements t.entitlements := by
    cases pays with
    | permanent _ same _ =>
      rw [same]
      exact List.forall₂_same.mpr (fun row _ => versions.refl row)
    | metered _ _ _ _ table =>
      rw [table]
      exact forall₂_update versions.refl (fun _ _ sel => versions.debited sel)
  cases h with
  | opened _ _ _ _ _ _ bindings activations _ _ _ _ _ _ pays =>
    exact ⟨paid pays, bindings, activations⟩
  | renewed _ _ _ _ _ _ bindings activations _ _ _ _ pays =>
    exact ⟨paid pays, bindings, activations⟩

theorem tracks_of_updateEntitlement (versions : Versions back later) {entId : Bytes}
    {change : EntitlementRow → EntitlementRow} (changed : ∀ row, later row (change row))
    (h : (AdminService.updateEntitlement entId change).run s = .ok ((), t)) :
    Tracks later s t := by
  unfold AdminService.updateEntitlement at h
  obtain ⟨_, _, rfl⟩ := writeEntitlements_eq_ok h
  exact ⟨forall₂_update versions.refl (fun row _ _ => changed row), rfl, rfl⟩

theorem restoreEntitlement_tracks {entId : Bytes} {resp : AdminService.RestoreResponse}
    (versions : Versions True later)
    (h : (AdminService.restoreEntitlement entId).run s = .ok (resp, t)) :
    Tracks later s t := by
  unfold AdminService.restoreEntitlement at h
  rw [bind_ok] at h
  obtain ⟨row, _, requiring, h⟩ := h
  obtain ⟨rfl, -, -⟩ := requireEntitlement_eq_ok requiring
  rw [get_ok, require_ok, require_ok, bind_ok] at h
  obtain ⟨-, -, ⟨⟩, u, updating, h⟩ := h
  rw [bind_ok] at h
  obtain ⟨updated, _, reading, last⟩ := h
  obtain ⟨rfl, -, -⟩ := requireEntitlement_eq_ok reading
  cases last
  exact tracks_of_updateEntitlement versions (versions.restored trivial) updating

theorem revokeBatchEntitlement_tracks (versions : Versions back later) {row : EntitlementRow}
    {now : Nat} (h : (AdminService.revokeBatchEntitlement now row).run s = .ok ((), t)) :
    Tracks later s t := by
  obtain ⟨s1, s2, s3, expiring, revoking, ending, last⟩ := revokeBatchEntitlement_eq_ok h
  have expired : Tracks later s s1 :=
    .of_calm versions (expireChallengesWhere_quiet expiring).calm
  have revoked : Tracks later s1 s2 := by
    cases revoking with
    | inl updating => exact tracks_of_updateEntitlement versions versions.revoked updating.2
    | inr already =>
      rw [already.2]
      exact .of_calm versions (.refl s1)
  obtain ⟨settled, -⟩ := endSessionsOf_calm (by decide) ending
  exact (expired.trans versions revoked).trans versions
    (.of_calm versions (settled.trans (expireStartChallengesWhere_quiet last).calm))

theorem revokeEach_tracks (versions : Versions back later) {rows : List EntitlementRow} {now : Nat}
    (h : (AdminService.revokeEach now rows).run s = .ok ((), t)) : Tracks later s t := by
  induction rows generalizing s with
  | nil =>
    cases h
    exact .of_calm versions (.refl _)
  | cons row rows ih =>
    obtain ⟨⟨⟩, u, revoking, rest⟩ := bind_ok.mp h
    exact (revokeBatchEntitlement_tracks versions revoking).trans versions (ih rest)

theorem revokeBatch_tracks (versions : Versions back later) {batchId : Nat}
    {revokeActivatedEntitlements : Bool} {now : Nat}
    (h : (AdminService.revokeBatch batchId revokeActivatedEntitlements now).run s = .ok ((), t)) :
    Tracks later s t := by
  unfold AdminService.revokeBatch at h
  rw [get_ok, bind_ok] at h
  obtain ⟨⟨⟩, s1, expiring, h⟩ := h
  have expired := (expireChallengesWhere_quiet expiring).calm
  have started (cards : List LicenseCodeRow) : Tracks later s { s1 with licenseCodes := cards } :=
    .of_same versions expired.entitlements expired.deviceBindings expired.licenseActivations
  rw [get_ok, set_ok] at h
  split at h
  · rw [get_ok, bind_ok] at h
    obtain ⟨⟨⟩, s2, revoking, h⟩ := h
    cases h
    exact ((started _).trans versions (revokeEach_tracks versions revoking)).trans versions
      (.of_same versions rfl rfl rfl)
  · cases h
    exact (started _).trans versions (.of_same versions rfl rfl rfl)

theorem tracks_atomically {α : Type} {wrap : α → ServerReply} {body : Statement α}
    (versions : Versions back later)
    (each : ∀ value t, body.run s = .ok (value, t) → Tracks later s t) :
    Tracks later s (atomically (wrap <$> body) s).1 :=
  atomically_map_invariant (.of_calm versions (.refl s)) each

theorem serverStep_tracks (inv : Orderly s) {op : ServerOp} (plain : changesPairs op = false)
    (versions : Versions (restores op = true) later) :
    Tracks later s (serverStep service prims s op).1 := by
  cases op with
  | createStartChallenge seen cmd challengeId now =>
    exact tracks_atomically versions
      (fun _ _ ran => .of_calm versions (createStartChallenge_calm ran))
  | startUsage seen cmd sid now =>
    apply tracks_atomically versions
    intro resp t ran
    cases requestStart_cases ran with
    | inl calm => exact .of_calm versions calm
    | inr moved =>
      obtain ⟨given, move⟩ := moved
      exact tracks_of_move versions move
  | heartbeatUsage seen cmd now =>
    cases serverStep_heartbeat_cases service prims s seen cmd now with
    | inl done =>
      obtain ⟨resp, ran, -⟩ := done
      cases requestHeartbeat_cases ran with
      | inl calm => exact .of_calm versions calm
      | inr moved =>
        obtain ⟨given, move⟩ := moved
        exact tracks_of_move versions move
    | inr failed => exact .of_calm versions failed.1
  | stopUsage seen cmd now =>
    exact tracks_atomically versions (fun _ _ ran => .of_calm versions (stopUsage_calm ran))
  | cancelStartUsage seen cmd now =>
    apply tracks_atomically versions
    intro resp t ran
    cases cancelStartUsage_eq_ok inv ran with
    | inl repeats =>
      obtain ⟨rfl, -⟩ := repeats
      exact .of_calm versions (.refl _)
    | inr cancels =>
      obtain ⟨change, table, -, same⟩ := cancels.amends.entitlements
      refine .of_same versions ?_ cancels.bindings cancels.amends.activations
      rw [table, List.map_congr_left (fun row mem => same row mem id), List.map_id']
  | entitlementStatus seen cmd now =>
    exact tracks_atomically versions
      (fun _ _ ran => .of_calm versions (entitlementStatus_calm ran))
  | changeCards cards expired =>
    exact tracks_atomically versions (fun _ _ ran => .of_calm versions (administerCards_calm ran))
  | createActivationChallenge row now =>
    exact tracks_atomically versions
      (fun _ _ ran => .of_calm versions (createChallengeTransaction_calm ran))
  | confirmActivation => cases plain
  | revokeEntitlement => cases plain
  | restoreEntitlement entId =>
    apply tracks_atomically versions
    intro resp t ran
    exact restoreEntitlement_tracks ⟨versions.refl, versions.trans, versions.debited,
      versions.revoked, fun _ => versions.restored rfl⟩ ran
  | unbindEntitlementDevice => cases plain
  | revokeBatch batchId revokeActivatedEntitlements now =>
    exact tracks_atomically versions (fun _ _ ran => revokeBatch_tracks versions ran)
  | entitlementSummary entId now =>
    exact tracks_atomically versions
      (fun _ _ ran => .of_calm versions (entitlementSummary_calm ran))

end

theorem versions_kept : Versions back (Kept back) where
  refl := .refl
  trans := fun _ _ _ => Kept.trans
  debited := kept_debit
  revoked := kept_revoked
  restored := kept_restored

theorem serverStep_keeps (inv : Orderly s) {op : ServerOp} (plain : changesPairs op = false) :
    Keeps (restores op = true) s (serverStep service prims s op).1 := by
  have tracks := @serverStep_tracks service prims s _ inv op plain versions_kept
  exact ⟨tracks.entitlements, tracks.deviceBindings⟩

end

/-- The request to a service in which nothing about pairs fails. -/
def unhindered : ServerOp → ServerOp
  | .confirmActivation seen command ids _ now => .confirmActivation seen command ids none now
  | .revokeEntitlement entitlementId _ now => .revokeEntitlement entitlementId none now
  | .unbindEntitlementDevice entitlementId bindingId pairId _ now =>
    .unbindEntitlementDevice entitlementId bindingId pairId none now
  | op => op

/-- What a request does to the holders of entitlements and to their pairs. -/
inductive SecuredMove (s t : SecuredDatabase) : ServerOp → Prop where
  | keeps {op : ServerOp} : Keeps (restores op = true) s.tables t.tables → t.pairs = s.pairs →
      SecuredMove s t op
  | secures {seen : Database} {command : ConfirmCommand} {ids : ActivationIds}
      {outcome : Option ServerException} {now : Nat} {owner : Bytes} : Secures owner now s t →
      SecuredMove s t (.confirmActivation seen command ids outcome now)
  | revokes {entitlementId : Bytes} {outcome : Option ServerException} {now : Nat}
      {row : EntitlementRow} {pair : PairSecurityRow} : row ∈ s.tables.entitlements →
      Revokes s t row now pair → SecuredMove s t (.revokeEntitlement entitlementId outcome now)
  | unbinds {entitlementId bindingId pairId : Bytes} {outcome : Option ServerException} {now : Nat} :
      Changes entitlementId s t →
      SecuredMove s t (.unbindEntitlementDevice entitlementId bindingId pairId outcome now)

section

variable {service : UsageService} {prims : ServicePrimitives} {s t : SecuredDatabase}

theorem atomically_onTables {α : Type} (body : Statement α) : atomically (onTables body) s =
    ({ s with tables := (atomically body s.tables).1 }, (atomically body s.tables).2) :=
  atomically_onPart s rfl body

theorem securedStep_plain {op : ServerOp} (plain : changesPairs op = false) :
    securedStep service prims s op =
      ({ s with tables := (serverStep service prims s.tables op).1 },
        (serverStep service prims s.tables op).2) := by
  cases op with
  | confirmActivation => cases plain
  | revokeEntitlement => cases plain
  | unbindEntitlementDevice => cases plain
  | heartbeatUsage => exact transact_onPart s rfl _
  | changeCards cards expired =>
    exact atomically_onTables (ServerOp.body service prims (.changeCards cards expired))
  | _ => exact atomically_onTables _

/-- A request fails and changes nothing, or does what it does to the other tables. -/
def Refines (service : UsageService) (prims : ServicePrimitives) (s : SecuredDatabase)
    (op : ServerOp) (result : SecuredDatabase × ServerAnswer) : Prop :=
  (∃ error, result = (s, .error error)) ∨
    (result.1.tables, result.2) = serverStep service prims s.tables (unhindered op)

/-- A transaction on the pairs: it refines the one without them and is the move it makes when it
    succeeds. -/
theorem secured_atomically {α : Type} {wrap : α → ServerReply} {body : SecuredStatement α}
    {plain : Statement α} {op : ServerOp}
    (isPlain : serverStep service prims s.tables (unhindered op) =
      atomically (wrap <$> plain) s.tables)
    (each : ∀ value t, body.run s = .ok (value, t) →
      plain.run s.tables = .ok (value, t.tables) ∧ SecuredMove s t op) :
    Refines service prims s op (atomically (wrap <$> body) s) ∧
      SecuredMove s (atomically (wrap <$> body) s).1 op := by
  cases atomically_map_cases (f := wrap) body s with
  | inl done =>
    obtain ⟨value, t, ran, same⟩ := done
    obtain ⟨outer, move⟩ := each value t ran
    rw [same]
    refine ⟨.inr ?_, move⟩
    rw [isPlain, atomically_of_ok (map_eq_ok.mpr ⟨value, t.tables, outer, rfl⟩)]
  | inr failed =>
    obtain ⟨-, error, same⟩ := failed
    rw [same]
    exact ⟨.inl ⟨error, rfl⟩, .keeps (.of_calm (.refl _)) rfl⟩

theorem securedStep_spec (ord : Orderly s.tables) (inv : Secured s) (op : ServerOp) :
    Refines service prims s op (securedStep service prims s op) ∧
      SecuredMove s (securedStep service prims s op).1 op := by
  by_cases plain : changesPairs op = false
  · have alone : unhindered op = op := by
      cases op with
      | confirmActivation => cases plain
      | revokeEntitlement => cases plain
      | unbindEntitlementDevice => cases plain
      | _ => rfl
    rw [securedStep_plain plain]
    refine ⟨.inr ?_, .keeps (serverStep_keeps ord plain) rfl⟩
    rw [alone]
  · cases op with
    | confirmActivation seen cmd ids outcome now =>
      refine secured_atomically rfl ?_
      intro resp t ran
      obtain ⟨outer, done⟩ := confirmActivation_secures inv ran
      refine ⟨outer, ?_⟩
      cases done with
      | inl same =>
        subst same
        exact .keeps (.of_calm (.refl _)) rfl
      | inr secured =>
        obtain ⟨owner, secures⟩ := secured
        exact .secures secures
    | revokeEntitlement entId outcome now =>
      refine secured_atomically rfl ?_
      intro resp t ran
      obtain ⟨outer, row, hrow, owner, done⟩ := revokeEntitlement_revokes inv ran
      refine ⟨outer, ?_⟩
      cases done with
      | inl again => exact .keeps again.2.1.keeps again.2.2
      | inr revoked =>
        obtain ⟨-, pair, revokes⟩ := revoked
        exact .revokes hrow revokes
    | unbindEntitlementDevice entId bindingId pairId outcome now =>
      refine secured_atomically rfl ?_
      intro resp t ran
      obtain ⟨outer, changes⟩ := unbindEntitlementDevice_changes inv ran
      exact ⟨outer, .unbinds changes⟩
    | _ => exact absurd rfl plain

theorem SecuredMove.secured {op : ServerOp} (h : SecuredMove s t op) (inv : Secured s) :
    Secured t := by
  cases h with
  | keeps tables pairs => exact inv.keeps tables pairs
  | secures secures => exact inv.changes secures.changes
  | revokes _ revokes => exact inv.changes revokes.changes
  | unbinds changes => exact inv.changes changes

end

section

variable (service : UsageService) (prims : ServicePrimitives)

/-- The database after requests to a service that begins with empty tables. -/
def secured (ops : List ServerOp) : SecuredDatabase :=
  exec (securedStep service prims) {} ops

variable {service prims}

theorem secured_concat (ops : List ServerOp) (op : ServerOp) :
    secured service prims (ops ++ [op]) =
      (securedStep service prims (secured service prims ops) op).1 :=
  exec_append _ _ ops [op]

/-- A run is a run of the service without pair states, as far as its other tables go, and it keeps
    the invariant. -/
theorem secured_spec (ops : List ServerOp) : Secured (secured service prims ops) ∧
    ∃ others, (secured service prims ops).tables = served service prims others := by
  apply exec_invariant (P := fun s => Secured s ∧ ∃ others, s.tables = served service prims others)
    (securedStep service prims) ⟨Secured.empty, [], rfl⟩
  rintro s op ⟨inv, others, same⟩
  have ord : Orderly s.tables := by
    rw [same]
    exact orderly_served others
  obtain ⟨refines, move⟩ := @securedStep_spec service prims s ord inv op
  refine ⟨move.secured inv, ?_⟩
  cases refines with
  | inl failed =>
    obtain ⟨error, res⟩ := failed
    rw [res]
    exact ⟨others, same⟩
  | inr done =>
    refine ⟨others ++ [unhindered op], ?_⟩
    rw [served_concat, ← same]
    exact congrArg Prod.fst done

theorem secured_orderly (ops : List ServerOp) : Orderly (secured service prims ops).tables := by
  obtain ⟨-, others, same⟩ := @secured_spec service prims ops
  rw [same]
  exact orderly_served others

/-- Requests that change a pair at most at a time, that unbind no devices and that take no
    revocation back. -/
def regular (now : Nat) : ServerOp → Prop
  | .confirmActivation _ _ _ _ time => time ≤ now
  | .revokeEntitlement _ _ time => time ≤ now
  | .unbindEntitlementDevice .. | .restoreEntitlement .. => False
  | _ => True

/-- Every entitlement that is not revoked has a pair that can be. -/
structure Guarded (now : Nat) (s : SecuredDatabase) : Prop where
  clocks : ∀ pair ∈ s.pairs, pair.updatedAtEpoch ≤ now
  paired : ∀ row ∈ s.tables.entitlements, row.status ≠ .revoked →
    ∃ pair, HasRevocablePair s row now pair

theorem Guarded.empty (now : Nat) : Guarded now {} := by
  constructor
  · intro pair mem
    cases mem
  · intro row mem
    cases mem

theorem HasRevocablePair.others {s t : SecuredDatabase} {owner : Bytes} {row : EntitlementRow}
    {now : Nat} {pair : PairSecurityRow} (h : HasRevocablePair s row now pair)
    (changes : Changes owner s t) (other : row.entitlementId ≠ owner) :
    HasRevocablePair t row now pair := by
  refine ⟨?_, h.owner, h.pairId, h.revocable, h.order⟩
  refine (changes.others pair ?_).mpr h.member
  rw [h.owner]
  exact other

theorem Guarded.move {s t : SecuredDatabase} {op : ServerOp} {now : Nat} (guarded : Guarded now s)
    (isRegular : regular now op) (h : SecuredMove s t op) : Guarded now t := by
  cases h with
  | keeps tables pairs =>
    have lasting : restores op ≠ true := by
      cases op with
      | restoreEntitlement => cases isRegular
      | _ => exact Bool.false_ne_true
    constructor
    · rw [pairs]
      exact guarded.clocks
    · intro row mem cur
      obtain ⟨old, inOld, kept⟩ := exists_of_mem_after tables.entitlements mem
      have unrevoked : old.status ≠ .revoked := by
        intro isRevoked
        exact (kept.revoked isRevoked).elim cur lasting
      obtain ⟨pair, found⟩ := guarded.paired old inOld unrevoked
      refine ⟨pair, ?_, found.owner.trans kept.entitlementId.symm,
        found.pairId.trans kept.pairId.symm, found.revocable, found.order⟩
      rw [pairs]
      exact found.member
  | @secures _ _ _ _ time owner secures =>
    have early : time ≤ now := isRegular
    have clocks : ∀ pair ∈ t.pairs, pair.updatedAtEpoch ≤ now := by
      intro pair mem
      cases secures.clocks pair mem with
      | inl soon => exact soon.trans early
      | inr pre =>
        obtain ⟨old, inOld, le⟩ := pre
        exact le.trans (guarded.clocks old inOld)
    refine ⟨clocks, ?_⟩
    intro row mem cur
    by_cases isOwner : row.entitlementId = owner
    · obtain ⟨pair, inPairs, on, holder, key⟩ := secures.row
      refine ⟨pair, inPairs, holder.trans isOwner.symm, (key row mem isOwner).symm, ?_,
        clocks pair inPairs⟩
      rw [on]
      rfl
    · obtain ⟨pair, found⟩ := guarded.paired row
        ((secures.changes.entitlements.others row isOwner).mp mem) cur
      exact ⟨pair, found.others secures.changes isOwner⟩
  | @revokes _ _ time revoked pair hrow revokes =>
    have early : time ≤ now := isRegular
    constructor
    · intro other mem
      cases (revokes.pairs other).mp mem with
      | inl isPair =>
        subst isPair
        exact early
      | inr kept => exact guarded.clocks other kept.1
    · intro row mem cur
      by_cases isOwner : row.entitlementId = revoked.entitlementId
      · rw [revokes.entitlements] at mem
        cases mem_update mem with
        | inl kept => simp [isOwner] at kept
        | inr replaced =>
          obtain ⟨old, -, -, rfl⟩ := replaced
          exact absurd rfl cur
      · obtain ⟨pair, found⟩ := guarded.paired row
          ((revokes.changes.entitlements.others row isOwner).mp mem) cur
        exact ⟨pair, found.others revokes.changes isOwner⟩
  | unbinds => cases isRegular

theorem secured_guarded {ops : List ServerOp} {now : Nat} (h : ∀ op ∈ ops, regular now op) :
    Guarded now (secured service prims ops) := by
  induction ops using List.reverseRecOn with
  | nil => exact .empty now
  | append_singleton ops op ih =>
    rw [secured_concat]
    have guarded := ih (fun other mem => h other (List.mem_append_left _ mem))
    obtain ⟨-, move⟩ := @securedStep_spec service prims _ (secured_orderly ops)
      (secured_spec ops).1 op
    exact guarded.move (h op (List.mem_append_right _ List.mem_cons_self)) move

variable (service prims)

/-- A request fails without a trace, or it answers as the service without pair states does, apart
    from the members that pair security adds, and leaves the same tables; so every run is one of
    that service. -/
theorem secured_service_refines_plain (ops : List ServerOp) (op : ServerOp) :
    let s := secured service prims ops
    Refines service prims s op (securedStep service prims s op) ∧
      ∃ others, s.tables = served service prims others :=
  ⟨(securedStep_spec (secured_orderly ops) (secured_spec ops).1 op).1, (secured_spec ops).2⟩

end

end VisionForge.PairSecurity
