import VisionForge.PairSecurity.DeviceLock
import VisionForge.PairSecurity.Credits
import VisionForge.PairSecurity.Lineage

/-! # Starting the service again

Every start of the service initialises its database. Tables that exist stay, migrations of
older schemas find nothing to rewrite, and products return to their defaults. Entitlements
without current devices are taken for entitlements of an older schema, and are bound to the
hashes that their own row carries.
-/

namespace VisionForge.PairSecurity

open Agreement Lib.Ascii Lib.Run Lib.Table Lib.Transaction Server LicenseRepository UsageRepository

/-- The tables, and whether two of them have constraints of an older schema. The service creates
    them with the present ones. -/
structure Installation where
  database : SecuredDatabase := {}
  /-- The constraint of `dm_activation_challenges` names the mode `reactivate`. -/
  challengeModesCurrent : Bool := true
  /-- Activations that credit nothing are refused. -/
  requiresCredit : Bool := false

abbrev InstallationStatement (α : Type) := Transaction Installation ServerException α

def onDatabase {α : Type} (body : SecuredStatement α) : InstallationStatement α :=
  onPart Installation.database (fun installation database =>
    { installation with database := database }) body

/-- The activations are copied to a table that accepts those that credit nothing. -/
def migrateLicenseActivations : InstallationStatement Unit := do
  let installation ← get
  if installation.requiresCredit then set { installation with requiresCredit := false }

/-- The devices that an entitlement of an older schema is bound to. -/
def bindingOfEntitlement (row : EntitlementRow) (bindingId : Bytes) : DeviceBindingRow where
  entitlementId := row.entitlementId
  pairId := row.pairId
  hostClientVersion := row.hostClientVersion
  hostIdentityPublicKeyB64 := row.hostIdentityPublicKeyB64
  hostKeySha256 := row.hostKeySha256
  androidClientVersion := row.androidClientVersion
  androidIdentityPublicKeyB64 := row.androidIdentityPublicKeyB64
  androidKeySha256 := row.androidKeySha256
  isCurrent := true
  bindingId := bindingId
  androidDeviceProfileJson := ascii "\x7b\x7d"

def withoutBinding (database : Database) : List EntitlementRow :=
  database.entitlements.filter (fun row => (currentBinding database row.entitlementId).isNone)

def freshBindings (bindingIds : Bytes → Bytes) (database : Database) : List DeviceBindingRow :=
  (withoutBinding database).map (fun row =>
    bindingOfEntitlement row (bindingIds row.entitlementId))

/-- Entitlements without current devices are bound; `bindingIds` are drawn at random. -/
def backfillBindings (bindingIds : Bytes → Bytes) : Statement Unit := do
  let database ← get
  let fresh := freshBindings bindingIds database
  require (((database.deviceBindings ++ fresh).map DeviceBindingRow.bindingId).Nodup ∧
      ∀ binding ∈ fresh, database.deviceBindings.all (fun row => !sameDevices binding row) = true)
    .integrityError
  set { database with deviceBindings := database.deviceBindings ++ fresh }

def migrateCardAdminSchema (bindingIds : Bytes → Bytes) : InstallationStatement Unit := do
  migrateLicenseActivations
  onDatabase (onTables (backfillBindings bindingIds))

/-- The pair of devices that were bound before pairs had states. -/
def legacyPair (entitlement : EntitlementRow) (binding : DeviceBindingRow) : PairSecurityRow where
  pairId := binding.pairId
  entitlementId := binding.entitlementId
  bindingId := binding.bindingId
  bindingRevision := 1
  revocationVersion := entitlement.revocationVersion
  hostKeySha256 := binding.hostKeySha256
  androidKeySha256 := binding.androidKeySha256
  assuranceState := .legacyBlocked
  createdAtEpoch := 0
  updatedAtEpoch := 0

/-- Pairs that have no state: their devices are current, and neither they nor their entitlement are
    known. -/
def legacyPairs (database : SecuredDatabase) : List PairSecurityRow :=
  database.tables.deviceBindings.flatMap (fun binding =>
    (database.tables.entitlements.filter (fun row =>
      row.entitlementId == binding.entitlementId && binding.isCurrent &&
        decide (legacyPair row binding).Checks &&
        database.pairs.all (fun state => state.pairId != binding.pairId &&
          state.entitlementId != binding.entitlementId))).map (legacyPair · binding))

def insertOrIgnore (database : SecuredDatabase) (row : PairSecurityRow) : SecuredDatabase :=
  if holds : (∀ state ∈ database.pairs ++ [row], state.Checks) ∧
      ((database.pairs ++ [row]).map PairSecurityRow.pairId).Nodup ∧
      ((database.pairs ++ [row]).map (fun state =>
        (state.entitlementId, state.bindingRevision))).Nodup then
    { database with
      pairs := database.pairs ++ [row]
      pairChecks := holds.1
      pairKeys := holds.2.1
      bindingRevisions := holds.2.2 }
  else database

/-- Pairs from before the states are blocked, not trusted. -/
def migratePairSecuritySchema : SecuredStatement Unit := do
  let database ← get
  set ((legacyPairs database).foldl insertOrIgnore database)

/-- Cards of a term are for sale at every start, those of the older products are not. -/
def TERM_PRODUCT_KEYS : List Bytes := [ascii "day", ascii "week", ascii "month", ascii "permanent"]

def LEGACY_PRODUCT_KEYS : List Bytes :=
  [ascii "1h", ascii "5h", ascii "10h", ascii "50h", ascii "100h"]

def installedProduct (card : LicenseCodeRow) : LicenseCodeRow :=
  { card with
    productEnabled := TERM_PRODUCT_KEYS.contains card.productKey ||
      (card.productEnabled && !LEGACY_PRODUCT_KEYS.contains card.productKey) }

def installProducts : Statement Unit := do
  let database ← get
  set { database with licenseCodes := database.licenseCodes.map installedProduct }

def initializeSchema (bindingIds : Bytes → Bytes) : InstallationStatement Unit := do
  migrateCardAdminSchema bindingIds
  onDatabase migratePairSecuritySchema
  onDatabase (onTables installProducts)

/-- A challenge of an older schema that has a target is one that reactivates. -/
def migratedChallenge (row : ActivationChallengeRow) : ActivationChallengeRow :=
  if row.activationMode = .activate ∧ row.targetEntitlementId ≠ [] then
    { row with activationMode := .reactivate }
  else row

def challengeModeValid (row : ActivationChallengeRow) : Bool :=
  match row.activationMode with
  | .activate => row.targetEntitlementId == []
  | .reactivate | .bindDevice => isNonzeroLowerHex row.targetEntitlementId 32

def replaceActivationChallengeTable : Statement Unit := do
  let database ← get
  let rows := database.activationChallenges.map migratedChallenge
  require (rows.all challengeModeValid = true) .integrityError
  set { database with activationChallenges := rows }

def migrateActivationChallengeModes : InstallationStatement Unit := do
  let installation ← get
  if installation.challengeModesCurrent then return ()
  else
    onDatabase (onTables replaceActivationChallengeTable)
    let migrated ← get
    set { migrated with challengeModesCurrent := true }

/-- The initialisation commits before the modes of challenges are migrated. -/
def initializeDatabase (bindingIds : Bytes → Bytes) (installation : Installation) :
    Installation × Except ServerException Unit :=
  match atomically (initializeSchema bindingIds) installation with
  | (initialized, .ok ()) => atomically migrateActivationChallengeModes initialized
  | failed => failed

inductive ServiceOp where
  | request (op : ServerOp)
  | restart (bindingIds : Bytes → Bytes)

section

variable (service : UsageService) (prims : ServicePrimitives)

def installationStep (installation : Installation) : ServiceOp → Installation × ServerAnswer
  | .request op =>
    let answered := securedStep service prims installation.database op
    ({ installation with database := answered.1 }, answered.2)
  | .restart bindingIds =>
    let initialized := initializeDatabase bindingIds installation
    (initialized.1, initialized.2.map (fun _ => .done))

/-- The tables after requests and starts; the service begins with empty ones. -/
def installed (ops : List ServiceOp) : Installation :=
  exec (installationStep service prims) {} ops

end

def EveryPaired (s : SecuredDatabase) : Prop :=
  ∀ row ∈ s.tables.entitlements, ∃ pair ∈ s.pairs, pair.entitlementId = row.entitlementId

def EveryBound (database : Database) : Prop := ∀ row ∈ database.entitlements,
  ∃ binding ∈ database.deviceBindings, binding.entitlementId = row.entitlementId ∧
    binding.isCurrent = true

section

variable {service : UsageService} {prims : ServicePrimitives} {s t : SecuredDatabase}

theorem exists_of_credits {tables tables' : Database} (same : credits tables' = credits tables)
    {row : EntitlementRow} (mem : row ∈ tables'.entitlements) :
    ∃ old ∈ tables.entitlements, old.entitlementId = row.entitlementId := by
  have inCredits : creditOf row ∈ credits tables' := List.mem_map_of_mem mem
  rw [same] at inCredits
  obtain ⟨old, inOld, isCredit⟩ := List.mem_map.mp inCredits
  exact ⟨old, inOld, congrArg Credit.entitlementId isCredit⟩

theorem EveryPaired.of_same (paired : EveryPaired s)
    (credited : credits t.tables = credits s.tables) (line : lineages t = lineages s) :
    EveryPaired t := by
  intro row mem
  obtain ⟨old, inOld, sameId⟩ := exists_of_credits credited mem
  obtain ⟨pair, inPairs, owner⟩ := paired old inOld
  have inLine : lineage pair ∈ lineages t := by
    rw [line]
    exact List.mem_map_of_mem inPairs
  obtain ⟨new, inNew, isLine⟩ := exists_of_mem_lineages inLine
  exact ⟨new, inNew, (congrArg Lineage.entitlementId isLine).trans (owner.trans sameId)⟩

theorem EveryBound.of_same {tables tables' : Database} (bound : EveryBound tables)
    (credited : credits tables' = credits tables)
    (bindings : tables'.deviceBindings = tables.deviceBindings) : EveryBound tables' := by
  intro row mem
  obtain ⟨old, inOld, sameId⟩ := exists_of_credits credited mem
  rw [bindings, ← sameId]
  exact bound old inOld

theorem Secures.paired {owner : Bytes} {now : Nat} (h : Secures owner now s t)
    (paired : EveryPaired s) : EveryPaired t := by
  intro row mem
  by_cases isOwner : row.entitlementId = owner
  · obtain ⟨pair, inPairs, -, holder, -⟩ := h.row
    exact ⟨pair, inPairs, holder.trans isOwner.symm⟩
  · obtain ⟨pair, inPairs, holder⟩ :=
      paired row ((h.changes.entitlements.others row isOwner).mp mem)
    refine ⟨pair, (h.changes.others pair ?_).mpr inPairs, holder⟩
    rw [holder]
    exact isOwner

theorem Secures.bound {owner : Bytes} {now : Nat} (h : Secures owner now s t) (inv : Secured t)
    (bound : EveryBound s.tables) : EveryBound t.tables := by
  intro row mem
  by_cases isOwner : row.entitlementId = owner
  · obtain ⟨pair, inPairs, on, holder, -⟩ := h.row
    obtain ⟨binding, inBindings, id, owned, -⟩ := (inv.sound pair inPairs).bound
    obtain ⟨-, live, inLive, liveId, isCurrent⟩ := (inv.sound pair inPairs).live on
    have same := List.inj_on_of_nodup_map inv.bindingIds inLive inBindings (liveId.trans id.symm)
    subst same
    exact ⟨live, inLive, (owned.trans holder).trans isOwner.symm, isCurrent⟩
  · obtain ⟨binding, inBindings, holder, isCurrent⟩ :=
      bound row ((h.changes.entitlements.others row isOwner).mp mem)
    refine ⟨binding, (h.changes.bindings.others binding ?_).mpr inBindings, holder, isCurrent⟩
    rw [holder]
    exact isOwner

/-- Bindings belong to entitlements that had some before. -/
def SameOwners (s t : Database) : Prop := ∀ binding ∈ t.deviceBindings,
  ∃ old ∈ s.deviceBindings, old.entitlementId = binding.entitlementId

theorem SameOwners.of_eq {s t : Database} (same : t.deviceBindings = s.deviceBindings) :
    SameOwners s t := by
  intro binding mem
  rw [same] at mem
  exact ⟨binding, mem, rfl⟩

theorem unbindEntitlementDevice_owners {tables tables' : Database}
    {entId bindingId pairId : Bytes} {now : Nat} {resp : AdminService.RevokeResponse}
    (h : (AdminService.unbindEntitlementDevice entId bindingId pairId none now).run tables =
      .ok (resp, tables')) : SameOwners tables tables' := by
  rw [unbindEntitlementDevice_parts, bind_ok] at h
  obtain ⟨⟨⟩, u, clearing, recording⟩ := h
  obtain ⟨-, -, table, -⟩ := clearDevices_eq_ok clearing
  intro binding mem
  rw [(recordUnbinding_eq_ok recording).2.1, table] at mem
  cases mem_update mem with
  | inl kept => exact ⟨binding, kept.1, rfl⟩
  | inr cleared =>
    obtain ⟨old, inOld, -, isCleared⟩ := cleared
    subst isCleared
    exact ⟨old, inOld, rfl⟩

/-- What a request does to those who hold entitlements: it secures a pair, or it adds none. -/
inductive HolderMove (s t : SecuredDatabase) : ServerOp → Prop where
  | secures {seen : Database} {command : ConfirmCommand} {ids : ActivationIds}
      {outcome : Option ServerException} {now : Nat} {owner : Bytes} : Secures owner now s t →
      HolderMove s t (.confirmActivation seen command ids outcome now)
  | same {op : ServerOp} : credits t.tables = credits s.tables → lineages t = lineages s →
      SameOwners s.tables t.tables →
      (unbindsDevices op = false → t.tables.deviceBindings = s.tables.deviceBindings) →
      HolderMove s t op

theorem HolderMove.of_keeps {op : ServerOp} (credited : credits t.tables = credits s.tables)
    (line : lineages t = lineages s)
    (bindings : t.tables.deviceBindings = s.tables.deviceBindings) : HolderMove s t op :=
  .same credited line (.of_eq bindings) (fun _ => bindings)

theorem securedStep_holders (ord : Orderly s.tables) (inv : Secured s) (op : ServerOp) :
    HolderMove s (securedStep service prims s op).1 op := by
  by_cases plain : changesPairs op = false
  · rw [securedStep_plain plain]
    have tracks := @serverStep_tracks service prims _ _ ord op plain (versions_credited _)
    exact .of_keeps (CreditsNothing.of_tracks tracks).credits rfl tracks.deviceBindings
  · cases op with
    | confirmActivation seen cmd ids outcome now =>
      refine atomically_map_invariant (P := fun t => HolderMove s t _) (.of_keeps rfl rfl rfl) ?_
      intro resp t ran
      cases (confirmActivation_secures inv ran).2 with
      | inl same =>
        subst same
        exact .of_keeps rfl rfl rfl
      | inr secured =>
        obtain ⟨owner, secures⟩ := secured
        exact .secures secures
    | revokeEntitlement entId outcome now =>
      refine atomically_map_invariant (P := fun t => HolderMove s t _) (.of_keeps rfl rfl rfl) ?_
      intro resp t ran
      have plain := (revokeEntitlement_revokes inv ran).1
      exact .of_keeps (revokeEntitlement_credits plain).credits
        (revokeEntitlement_line entId s resp t ran rfl)
        (revokeEntitlement_bindings plain)
    | unbindEntitlementDevice entId bindingId pairId outcome now =>
      refine atomically_map_invariant (P := fun t => HolderMove s t _) (.of_keeps rfl rfl rfl) ?_
      intro resp t ran
      have plain := (unbindEntitlementDevice_changes inv ran).1
      refine .same (unbindEntitlementDevice_credits plain).credits
        (unbindEntitlementDevice_line entId bindingId pairId s resp t ran rfl)
        (unbindEntitlementDevice_owners plain) ?_
      intro noUnbind
      cases noUnbind
    | _ => exact absurd rfl plain

theorem HolderMove.owned {op : ServerOp} (h : HolderMove s t op) (inv : Secured t)
    (owned : Owned s.tables) : Owned t.tables := by
  cases h with
  | secures secures => exact secures.owned inv owned
  | same credited _ owners _ =>
    intro binding mem
    obtain ⟨old, inOld, sameOwner⟩ := owners binding mem
    obtain ⟨row, hrow, isOwner⟩ := owned old inOld
    obtain ⟨new, inNew, sameId⟩ := exists_of_credits credited.symm hrow
    exact ⟨new, inNew, sameId.trans (isOwner.trans sameOwner)⟩

theorem HolderMove.paired {op : ServerOp} (h : HolderMove s t op) (paired : EveryPaired s) :
    EveryPaired t := by
  cases h with
  | secures secures => exact secures.paired paired
  | same credited line _ _ => exact paired.of_same credited line

theorem HolderMove.bound {op : ServerOp} (h : HolderMove s t op) (inv : Secured t)
    (noUnbind : unbindsDevices op = false) (bound : EveryBound s.tables) : EveryBound t.tables := by
  cases h with
  | secures secures => exact secures.bound inv bound
  | same credited _ _ bindings => exact bound.of_same credited (bindings noUnbind)

theorem securedStep_orderly (ord : Orderly s.tables) (inv : Secured s) (op : ServerOp) :
    Orderly (securedStep service prims s op).1.tables := by
  cases (@securedStep_spec service prims s ord inv op).1 with
  | inl failed =>
    obtain ⟨error, same⟩ := failed
    rw [same]
    exact ord
  | inr done =>
    obtain ⟨grant, performs, -⟩ :=
      @serverStep_serves service prims s.tables ord (unhindered op)
    have tables : (securedStep service prims s op).1.tables = _ := congrArg Prod.fst done
    rw [tables]
    exact ord.move performs.move

end

/-- Rows other than those of bindings, cards and products are the same. -/
structure SameRows (s t : SecuredDatabase) : Prop where
  entitlements : t.tables.entitlements = s.tables.entitlements
  usageStartChallenges : t.tables.usageStartChallenges = s.tables.usageStartChallenges
  usageSessions : t.tables.usageSessions = s.tables.usageSessions
  usageStartCancellations : t.tables.usageStartCancellations = s.tables.usageStartCancellations
  usageLedger : t.tables.usageLedger = s.tables.usageLedger
  authNonces : t.tables.authNonces = s.tables.authNonces
  activationChallenges : t.tables.activationChallenges = s.tables.activationChallenges
  licenseActivations : t.tables.licenseActivations = s.tables.licenseActivations
  pairs : t.pairs = s.pairs

structure Undisturbed (s t : SecuredDatabase) : Prop extends SameRows s t where
  deviceBindings : t.tables.deviceBindings = s.tables.deviceBindings

/-- What a start does: it binds the entitlements that have no current devices. -/
structure Initializes (bindingIds : Bytes → Bytes) (s t : SecuredDatabase) : Prop
    extends SameRows s t where
  deviceBindings : t.tables.deviceBindings =
    s.tables.deviceBindings ++ freshBindings bindingIds s.tables
  bindingIds : (t.tables.deviceBindings.map DeviceBindingRow.bindingId).Nodup

section

variable {bindingIds : Bytes → Bytes}

theorem backfillBindings_eq_ok {s t : Database}
    (h : (backfillBindings bindingIds).run s = .ok ((), t)) :
    t = { s with deviceBindings := s.deviceBindings ++ freshBindings bindingIds s } ∧
      (t.deviceBindings.map DeviceBindingRow.bindingId).Nodup := by
  unfold backfillBindings at h
  rw [get_ok, require_ok] at h
  obtain ⟨⟨nodup, -⟩, last⟩ := h
  cases last
  exact ⟨rfl, nodup⟩

theorem legacyPairs_eq_nil {s : SecuredDatabase} (paired : EveryPaired s) : legacyPairs s = [] := by
  unfold legacyPairs
  rw [List.flatMap_eq_nil_iff]
  intro binding _
  rw [List.map_eq_nil_iff, List.filter_eq_nil_iff]
  intro row mem sel
  simp only [Bool.and_eq_true, beq_iff_eq, List.all_eq_true, bne_iff_ne] at sel
  obtain ⟨pair, inPairs, owner⟩ := paired row mem
  exact (sel.2 pair inPairs).2 (owner.trans sel.1.1.1)

theorem migratePairSecuritySchema_eq_ok {s t : SecuredDatabase} (paired : EveryPaired s)
    (h : migratePairSecuritySchema.run s = .ok ((), t)) : t = s := by
  unfold migratePairSecuritySchema at h
  rw [get_ok, legacyPairs_eq_nil paired] at h
  cases h
  rfl

theorem migrateLicenseActivations_eq_ok {s t : Installation}
    (h : migrateLicenseActivations.run s = .ok ((), t)) :
    t.database = s.database ∧ t.challengeModesCurrent = s.challengeModesCurrent := by
  unfold migrateLicenseActivations at h
  rw [get_ok] at h
  split at h
  · cases h
    exact ⟨rfl, rfl⟩
  · cases h
    exact ⟨rfl, rfl⟩

theorem migrateCardAdminSchema_eq_ok {s t : Installation}
    (h : (migrateCardAdminSchema bindingIds).run s = .ok ((), t)) :
    Initializes bindingIds s.database t.database ∧
      t.challengeModesCurrent = s.challengeModesCurrent := by
  obtain ⟨⟨⟩, migrated, migrating, h⟩ := bind_ok.mp h
  obtain ⟨db, modes⟩ := migrateLicenseActivations_eq_ok migrating
  obtain ⟨filled, filling, isFilled⟩ := onPart_eq_ok.mp h
  obtain ⟨tables, filling, isTables⟩ := onTables_eq_ok.mp filling
  obtain ⟨bindings, nodup⟩ := backfillBindings_eq_ok filling
  rw [db] at bindings isTables
  subst bindings isTables isFilled
  exact ⟨⟨⟨rfl, rfl, rfl, rfl, rfl, rfl, rfl, rfl, rfl⟩, rfl, nodup⟩, modes⟩

theorem Initializes.paired {s t : SecuredDatabase} (h : Initializes bindingIds s t)
    (paired : EveryPaired s) : EveryPaired t := by
  intro row mem
  rw [h.entitlements] at mem
  rw [h.pairs]
  exact paired row mem

theorem initializeSchema_eq_ok {s t : Installation} (paired : EveryPaired s.database)
    (h : (initializeSchema bindingIds).run s = .ok ((), t)) :
    Initializes bindingIds s.database t.database ∧
      t.challengeModesCurrent = s.challengeModesCurrent := by
  obtain ⟨⟨⟩, migrated, migrating, h⟩ := bind_ok.mp h
  obtain ⟨initializes, modes⟩ := migrateCardAdminSchema_eq_ok migrating
  obtain ⟨⟨⟩, secured, securing, installing⟩ := bind_ok.mp h
  obtain ⟨db, securing, isSecured⟩ := onPart_eq_ok.mp securing
  have same := migratePairSecuritySchema_eq_ok (initializes.paired paired) securing
  obtain ⟨database', installing, isInstalled⟩ := onPart_eq_ok.mp installing
  obtain ⟨tables, installing, isTables⟩ := onTables_eq_ok.mp installing
  cases installing
  subst same isSecured isTables isInstalled
  exact ⟨⟨⟨initializes.entitlements, initializes.usageStartChallenges, initializes.usageSessions,
    initializes.usageStartCancellations, initializes.usageLedger, initializes.authNonces,
    initializes.activationChallenges, initializes.licenseActivations, initializes.pairs⟩,
    initializes.deviceBindings, initializes.bindingIds⟩, modes⟩

theorem withoutBinding_eq_nil {db : Database} : withoutBinding db = [] ↔ EveryBound db := by
  unfold withoutBinding EveryBound currentBinding
  simp only [List.filter_eq_nil_iff, Option.isNone_iff_eq_none, List.find?_eq_none, not_forall,
    not_not, decide_eq_true_eq, exists_prop]

theorem Initializes.undisturbed_iff {s t : SecuredDatabase} (h : Initializes bindingIds s t) :
    Undisturbed s t ↔ EveryBound s.tables := by
  have fresh : freshBindings bindingIds s.tables = [] ↔ EveryBound s.tables := by
    rw [← withoutBinding_eq_nil]
    exact List.map_eq_nil_iff
  rw [← fresh]
  constructor
  · intro same
    have table := h.deviceBindings
    rw [same.deviceBindings] at table
    exact List.self_eq_append_right.mp table
  · intro none
    refine ⟨h.toSameRows, ?_⟩
    rw [h.deviceBindings, none, List.append_nil]

theorem migrateLicenseActivations_succeeds (s : Installation) :
    ∃ t, migrateLicenseActivations.run s = .ok ((), t) := by
  unfold migrateLicenseActivations
  by_cases required : s.requiresCredit = true
  · refine ⟨{ s with requiresCredit := false }, ?_⟩
    rw [get_ok, if_pos required]
    rfl
  · refine ⟨s, ?_⟩
    rw [get_ok, if_neg required]
    rfl

theorem backfillBindings_succeeds {s : Database}
    (nodup : (s.deviceBindings.map DeviceBindingRow.bindingId).Nodup) (bound : EveryBound s) :
    ∃ t, (backfillBindings bindingIds).run s = .ok ((), t) := by
  have none : freshBindings bindingIds s = [] := by
    unfold freshBindings
    rw [withoutBinding_eq_nil.mpr bound, List.map_nil]
  refine ⟨{ s with deviceBindings := s.deviceBindings ++ freshBindings bindingIds s }, ?_⟩
  unfold backfillBindings
  rw [get_ok, require_ok]
  refine ⟨⟨?_, ?_⟩, rfl⟩
  · rw [none, List.append_nil]
    exact nodup
  · intro binding mem
    rw [none] at mem
    cases mem

theorem initializeSchema_succeeds {s : Installation}
    (nodup : (s.database.tables.deviceBindings.map DeviceBindingRow.bindingId).Nodup)
    (bound : EveryBound s.database.tables) :
    ∃ t, (initializeSchema bindingIds).run s = .ok ((), t) := by
  obtain ⟨u, migrating⟩ := migrateLicenseActivations_succeeds s
  obtain ⟨same, -⟩ := migrateLicenseActivations_eq_ok migrating
  rw [← same] at nodup bound
  obtain ⟨tables, filling⟩ := @backfillBindings_succeeds bindingIds _ nodup bound
  let bound : SecuredDatabase := { u.database with tables := tables }
  have filled : (migrateCardAdminSchema bindingIds).run s =
      .ok ((), { u with database := bound }) := by
    unfold migrateCardAdminSchema
    rw [bind_ok]
    exact ⟨(), u, migrating,
      onPart_eq_ok.mpr ⟨bound, onTables_eq_ok.mpr ⟨tables, filling, rfl⟩, rfl⟩⟩
  let blocked := (legacyPairs bound).foldl insertOrIgnore bound
  let products := blocked.tables.licenseCodes.map installedProduct
  refine ⟨{ u with database :=
    { blocked with tables := { blocked.tables with licenseCodes := products } } }, ?_⟩
  unfold initializeSchema
  rw [bind_ok]
  refine ⟨(), _, filled, ?_⟩
  rw [bind_ok]
  exact ⟨(), { u with database := blocked }, rfl, rfl⟩

theorem migrateActivationChallengeModes_current {s : Installation}
    (cur : s.challengeModesCurrent = true) :
    atomically migrateActivationChallengeModes s = (s, .ok ()) := by
  apply atomically_of_ok
  unfold migrateActivationChallengeModes
  rw [get_ok, if_pos cur]
  rfl

theorem initializeDatabase_cases {s : Installation} (paired : EveryPaired s.database)
    (cur : s.challengeModesCurrent = true) :
    (∃ t, initializeDatabase bindingIds s = (t, .ok ()) ∧
      Initializes bindingIds s.database t.database ∧ t.challengeModesCurrent = true) ∨
    ∃ error, initializeDatabase bindingIds s = (s, .error error) := by
  unfold initializeDatabase
  cases atomically_cases (initializeSchema bindingIds) s with
  | inl done =>
    obtain ⟨⟨⟩, t, ran, same⟩ := done
    obtain ⟨initializes, modes⟩ := initializeSchema_eq_ok paired ran
    have current' := modes.trans cur
    rw [same]
    exact .inl ⟨t, migrateActivationChallengeModes_current current', initializes, current'⟩
  | inr failed =>
    obtain ⟨error, same⟩ := failed
    rw [same]
    exact .inr ⟨error, rfl⟩

theorem initializeDatabase_succeeds {s : Installation} (paired : EveryPaired s.database)
    (cur : s.challengeModesCurrent = true)
    (nodup : (s.database.tables.deviceBindings.map DeviceBindingRow.bindingId).Nodup)
    (bound : EveryBound s.database.tables) : (initializeDatabase bindingIds s).2 = .ok () := by
  obtain ⟨t, ran⟩ := @initializeSchema_succeeds bindingIds s nodup bound
  have modes := (initializeSchema_eq_ok paired ran).2
  unfold initializeDatabase
  rw [atomically_of_ok ran]
  exact congrArg Prod.snd (migrateActivationChallengeModes_current (modes.trans cur))

end

structure Sane (s : Installation) : Prop where
  orderly : Orderly s.database.tables
  secured : Secured s.database
  owned : Owned s.database.tables
  paired : EveryPaired s.database
  challengeModesCurrent : s.challengeModesCurrent = true

theorem Sane.empty : Sane {} := by
  refine ⟨Orderly.empty, Secured.empty, ?_, ?_, rfl⟩
  · intro binding mem
    cases mem
  · intro row mem
    cases mem

/-- Starts and requests that unbind no devices. -/
def ServiceOp.keepsDevices : ServiceOp → Bool
  | .request op => !unbindsDevices op
  | .restart _ => true

section

variable {service : UsageService} {prims : ServicePrimitives} {bindingIds : Bytes → Bytes}
  {s t : SecuredDatabase}

variable {binding : DeviceBindingRow}

theorem mem_freshBindings {db : Database} :
    binding ∈ freshBindings bindingIds db ↔
      ∃ row ∈ db.entitlements, currentBinding db row.entitlementId = none ∧
        bindingOfEntitlement row (bindingIds row.entitlementId) = binding := by
  unfold freshBindings withoutBinding
  simp only [List.mem_map, List.mem_filter, Option.isNone_iff_eq_none, and_assoc]

theorem currentBinding_ne_none {db : Database} (mem : binding ∈ db.deviceBindings)
    (isCurrent : binding.isCurrent = true) :
    currentBinding db binding.entitlementId ≠ none := by
  intro isNone
  unfold currentBinding at isNone
  rw [List.find?_eq_none] at isNone
  exact isNone binding mem (by simp [isCurrent])

variable (h : Initializes bindingIds s t)

include h

/-- An entitlement is bound at a start only when it had no current devices, and only once. -/
theorem Initializes.oneCurrent (inv : Secured s) (entId : Bytes) :
    OneCurrent t.tables.deviceBindings entId := by
  intro first inFirst snd inSecond ownsFirst ownsSecond isFirst isSecond
  rw [h.deviceBindings, List.mem_append, mem_freshBindings] at inFirst inSecond
  cases inFirst with
  | inl keptFirst =>
    cases inSecond with
    | inl keptSecond =>
      exact inv.oneCurrent entId first keptFirst snd keptSecond ownsFirst ownsSecond
        isFirst isSecond
    | inr freshSecond =>
      obtain ⟨row, -, isNone, isBinding⟩ := freshSecond
      subst isBinding
      have isOwner : first.entitlementId = row.entitlementId := ownsFirst.trans ownsSecond.symm
      rw [← isOwner] at isNone
      exact absurd isNone (currentBinding_ne_none keptFirst isFirst)
  | inr freshFirst =>
    obtain ⟨row, hrow, isNone, isBinding⟩ := freshFirst
    subst isBinding
    cases inSecond with
    | inl keptSecond =>
      have isOwner : snd.entitlementId = row.entitlementId :=
        ownsSecond.trans ownsFirst.symm
      rw [← isOwner] at isNone
      exact absurd isNone (currentBinding_ne_none keptSecond isSecond)
    | inr freshSecond =>
      obtain ⟨other, inOthers, -, isBinding⟩ := freshSecond
      subst isBinding
      rw [entitlement_unique hrow inOthers (ownsSecond.trans ownsFirst.symm)]

theorem Initializes.kept (mem : binding ∈ s.tables.deviceBindings) :
    binding ∈ t.tables.deviceBindings := by
  rw [h.deviceBindings]
  exact List.mem_append_left _ mem

theorem Initializes.secured (inv : Secured s) : Secured t := by
  refine ⟨?_, h.bindingIds, h.oneCurrent inv, ?_⟩
  · rw [h.entitlements]
    exact inv.distinct
  · intro pair mem
    rw [h.pairs] at mem
    obtain ⟨⟨binding, inBindings, bound⟩, held, newest, live⟩ := inv.sound pair mem
    refine ⟨⟨binding, h.kept inBindings, bound⟩, ?_, ?_, ?_⟩
    · rw [h.entitlements]
      exact held
    · rw [h.pairs]
      exact newest
    · intro on
      obtain ⟨owner, cur, inCurrent, rest⟩ := live on
      rw [h.entitlements]
      exact ⟨owner, cur, h.kept inCurrent, rest⟩

theorem Initializes.orderly (inv : Orderly s.tables) : Orderly t.tables := by
  constructor
  · unfold Idle
    rw [h.entitlements, h.usageSessions]
    exact inv.revoked
  · rw [h.usageSessions]
    exact inv.starts
  · rw [h.usageSessions]
    exact inv.single
  · rw [h.usageSessions]
    exact inv.sessionIds
  · rw [h.usageStartCancellations, h.usageSessions]
    exact inv.buried

theorem Initializes.owned (inv : Owned s.tables) : Owned t.tables := by
  intro binding mem
  rw [h.deviceBindings, List.mem_append, mem_freshBindings] at mem
  rw [h.entitlements]
  cases mem with
  | inl kept => exact inv binding kept
  | inr fresh =>
    obtain ⟨row, hrow, -, isBinding⟩ := fresh
    subst isBinding
    exact ⟨row, hrow, rfl⟩

theorem Initializes.bound (bound : EveryBound s.tables) : EveryBound t.tables := by
  intro row mem
  rw [h.entitlements] at mem
  obtain ⟨binding, inBindings, cur⟩ := bound row mem
  exact ⟨binding, h.kept inBindings, cur⟩

theorem Initializes.currentBinding {entId : Bytes}
    (bound : currentBinding s.tables entId = some binding) :
    UsageRepository.currentBinding t.tables entId = some binding := by
  unfold UsageRepository.currentBinding at bound ⊢
  rw [h.deviceBindings, List.find?_append, bound, Option.some_or]

/-- An entitlement without current devices is bound to the hashes of its own row. -/
theorem Initializes.unbound {row : EntitlementRow} (mem : row ∈ s.tables.entitlements)
    (isNone : UsageRepository.currentBinding s.tables row.entitlementId = none) :
    ∃ binding, UsageRepository.currentBinding t.tables row.entitlementId = some binding ∧
      binding.hostKeySha256 = row.hostKeySha256 := by
  have fresh : bindingOfEntitlement row (bindingIds row.entitlementId) ∈ t.tables.deviceBindings := by
    rw [h.deviceBindings, List.mem_append, mem_freshBindings]
    exact .inr ⟨row, mem, isNone, rfl⟩
  obtain ⟨binding, isCurrent⟩ := Option.ne_none_iff_exists'.mp (currentBinding_ne_none fresh rfl)
  refine ⟨binding, isCurrent, ?_⟩
  have isFresh := List.find?_some isCurrent
  have htab := (currentBinding_owner isCurrent).1
  rw [h.deviceBindings, List.mem_append, mem_freshBindings] at htab
  simp only [decide_eq_true_eq] at isFresh
  cases htab with
  | inl kept =>
    have isBound := currentBinding_ne_none kept isFresh.2
    rw [isFresh.1] at isBound
    exact absurd isNone isBound
  | inr fresh =>
    obtain ⟨other, inOthers, -, isBinding⟩ := fresh
    subst isBinding
    rw [entitlement_unique mem inOthers isFresh.1]
    rfl

omit h

theorem installationStep_restart {s : Installation} (inv : Sane s) (bindingIds : Bytes → Bytes) :
    (∃ t, installationStep service prims s (.restart bindingIds) = (t, .ok .done) ∧
      Initializes bindingIds s.database t.database ∧ t.challengeModesCurrent = true) ∨
    ∃ error, initializeDatabase bindingIds s = (s, .error error) ∧
      installationStep service prims s (.restart bindingIds) = (s, .error error) := by
  have ans : installationStep service prims s (.restart bindingIds) =
      ((initializeDatabase bindingIds s).1,
        (initializeDatabase bindingIds s).2.map (fun _ => .done)) := rfl
  rw [ans]
  cases @initializeDatabase_cases bindingIds s inv.paired inv.challengeModesCurrent with
  | inl done =>
    obtain ⟨t, same, initializes, cur⟩ := done
    rw [same]
    exact .inl ⟨t, rfl, initializes, cur⟩
  | inr failed =>
    obtain ⟨error, same⟩ := failed
    rw [same]
    exact .inr ⟨error, rfl, rfl⟩

/-- What holds of the tables and of their initialisation holds after a start. -/
theorem restart_keeps {s : Installation} (inv : Sane s) {P : SecuredDatabase → Prop}
    (holds : P s.database) (initialized : ∀ t, Initializes bindingIds s.database t → P t) :
    P (installationStep service prims s (.restart bindingIds)).1.database := by
  cases @installationStep_restart service prims s inv bindingIds with
  | inl done =>
    obtain ⟨t, same, initializes, -⟩ := done
    rw [same]
    exact initialized _ initializes
  | inr failed =>
    obtain ⟨error, -, same⟩ := failed
    rw [same]
    exact holds

theorem installationStep_sane {s : Installation} (inv : Sane s) (op : ServiceOp) :
    Sane (installationStep service prims s op).1 := by
  cases op with
  | request op =>
    have inv' : Secured (securedStep service prims s.database op).1 :=
      (securedStep_spec inv.orderly inv.secured op).2.secured inv.secured
    have moved := @securedStep_holders service prims _ inv.orderly inv.secured op
    exact ⟨securedStep_orderly inv.orderly inv.secured op, inv', moved.owned inv' inv.owned,
      moved.paired inv.paired, inv.challengeModesCurrent⟩
  | restart bindingIds =>
    cases @installationStep_restart service prims s inv bindingIds with
    | inl done =>
      obtain ⟨t, same, initializes, cur⟩ := done
      rw [same]
      exact ⟨initializes.orderly inv.orderly, initializes.secured inv.secured,
        initializes.owned inv.owned, initializes.paired inv.paired, cur⟩
    | inr failed =>
      obtain ⟨error, -, same⟩ := failed
      rw [same]
      exact inv

theorem installed_concat (ops : List ServiceOp) (op : ServiceOp) :
    installed service prims (ops ++ [op]) =
      (installationStep service prims (installed service prims ops) op).1 :=
  exec_append _ _ ops [op]

theorem installed_sane (ops : List ServiceOp) : Sane (installed service prims ops) := by
  induction ops using List.reverseRecOn with
  | nil => exact Sane.empty
  | append_singleton ops op ih =>
    rw [installed_concat]
    exact installationStep_sane ih op

theorem installationStep_bound {s : Installation} (inv : Sane s) {op : ServiceOp}
    (keeps : op.keepsDevices = true) (bound : EveryBound s.database.tables) :
    EveryBound (installationStep service prims s op).1.database.tables := by
  have inv' := (@installationStep_sane service prims s inv op).secured
  cases op with
  | request op =>
    have moved := @securedStep_holders service prims _ inv.orderly inv.secured op
    exact moved.bound inv' (by simpa [ServiceOp.keepsDevices] using keeps) bound
  | restart bindingIds =>
    exact restart_keeps inv bound fun t initializes => initializes.bound bound

theorem installationStep_hostKey {s : Installation} (inv : Sane s) {op : ServiceOp}
    (keeps : op.keepsDevices = true) {entId : Bytes} {old : DeviceBindingRow}
    (bound : currentBinding s.database.tables entId = some old) :
    ∃ new, currentBinding (installationStep service prims s op).1.database.tables
      entId = some new ∧ new.hostKeySha256 = old.hostKeySha256 := by
  cases op with
  | request op =>
    exact (securedStep_locks inv.orderly inv.secured inv.owned
      (by simpa [ServiceOp.keepsDevices] using keeps)).hostKey bound
  | restart bindingIds =>
    exact ⟨old, restart_keeps (P := fun t => currentBinding t.tables entId = some old) inv bound
      fun t initializes => initializes.currentBinding bound, rfl⟩

theorem installed_hostKey {ops later : List ServiceOp}
    (keeps : ∀ op ∈ later, op.keepsDevices = true) {entId : Bytes} {first : DeviceBindingRow}
    (bound : currentBinding (installed service prims ops).database.tables entId = some first) :
    ∃ last, currentBinding (installed service prims (ops ++ later)).database.tables
      entId = some last ∧ last.hostKeySha256 = first.hostKeySha256 := by
  induction later using List.reverseRecOn with
  | nil =>
    rw [List.append_nil]
    exact ⟨first, bound, rfl⟩
  | append_singleton later op ih =>
    rw [← List.append_assoc, installed_concat]
    obtain ⟨middle, isMiddle, same⟩ :=
      ih (fun other mem => keeps other (List.mem_append_left _ mem))
    obtain ⟨last, isLast, kept⟩ := installationStep_hostKey (installed_sane (ops ++ later))
      (keeps op (List.mem_append_right _ List.mem_cons_self)) isMiddle
    exact ⟨last, isLast, kept.trans same⟩

theorem installed_bound {ops : List ServiceOp} (keeps : ∀ op ∈ ops, op.keepsDevices = true) :
    EveryBound (installed service prims ops).database.tables := by
  induction ops using List.reverseRecOn with
  | nil =>
    intro row mem
    cases mem
  | append_singleton ops op ih =>
    rw [installed_concat]
    exact installationStep_bound (installed_sane ops)
      (keeps op (List.mem_append_right _ List.mem_cons_self))
      (ih (fun other mem => keeps other (List.mem_append_left _ mem)))

theorem restart_undisturbed_iff {s : Installation} (inv : Sane s) (bindingIds : Bytes → Bytes) :
    (installationStep service prims s (.restart bindingIds)).2 = .ok .done ∧
      Undisturbed s.database
        (installationStep service prims s (.restart bindingIds)).1.database ↔
      EveryBound s.database.tables := by
  cases @installationStep_restart service prims s inv bindingIds with
  | inl done =>
    obtain ⟨t, same, initializes, -⟩ := done
    rw [same, ← initializes.undisturbed_iff]
    exact and_iff_right rfl
  | inr failed =>
    obtain ⟨error, initializing, same⟩ := failed
    constructor
    · intro holds
      rw [same] at holds
      cases holds.1
    · intro bound
      have ran := @initializeDatabase_succeeds bindingIds s inv.paired inv.challengeModesCurrent
        inv.secured.bindingIds bound
      rw [initializing] at ran
      cases ran

/-- A start after a run leaves the rows alone exactly when every entitlement has current devices,
    as it always has while no administrator unbinds any. One that was left without is bound by the
    start to the host hash of its own row, and no later confirmation binds it to another. -/
theorem restart_preserves_rows_iff (service : UsageService) (prims : ServicePrimitives)
    (ops : List ServiceOp) :
    (∀ bindingIds, (installationStep service prims (installed service prims ops)
        (.restart bindingIds)).2 = .ok .done ∧
      Undisturbed (installed service prims ops).database
        (installed service prims (ops ++ [.restart bindingIds])).database ↔
      EveryBound (installed service prims ops).database.tables) ∧
    ((∀ op ∈ ops, op.keepsDevices = true) →
      EveryBound (installed service prims ops).database.tables) ∧
    ∀ row ∈ (installed service prims ops).database.tables.entitlements,
      currentBinding (installed service prims ops).database.tables row.entitlementId = none →
      ∀ bindingIds, (installationStep service prims (installed service prims ops)
        (.restart bindingIds)).2 = .ok .done →
      ∀ later, (∀ op ∈ later, op.keepsDevices = true) →
        ∃ binding, currentBinding (installed service prims
          (ops ++ .restart bindingIds :: later)).database.tables row.entitlementId = some binding ∧
          binding.hostKeySha256 = row.hostKeySha256 := by
  have inv := @installed_sane service prims ops
  refine ⟨?_, installed_bound, ?_⟩
  · intro bindingIds
    rw [installed_concat]
    exact restart_undisturbed_iff inv bindingIds
  · intro row member isNone bindingIds answered later keeps
    rw [List.append_cons]
    have bound : ∃ binding, currentBinding (installed service prims
        (ops ++ [.restart bindingIds])).database.tables row.entitlementId = some binding ∧
        binding.hostKeySha256 = row.hostKeySha256 := by
      rw [installed_concat]
      cases @installationStep_restart service prims _ inv bindingIds with
      | inl done =>
        obtain ⟨t, same, initializes, -⟩ := done
        rw [same]
        exact initializes.unbound member isNone
      | inr failed =>
        obtain ⟨error, -, same⟩ := failed
        rw [same] at answered
        cases answered
    obtain ⟨first, isFirst, hostKey⟩ := bound
    obtain ⟨last, isLast, kept⟩ := installed_hostKey keeps isFirst
    exact ⟨last, isLast, kept.trans hostKey⟩

end

def unboundOps : List ServiceOp := unbindingOps.map .request

/-- An entitlement whose devices were unbound is bound again by the next start. -/
theorem restart_rebinds_unbound :
    (currentBinding (installed concreteService concreteServicePrimitives
      unboundOps).database.tables (List.replicate 32 97) = none ∧
      ∃ binding, currentBinding (installed concreteService concreteServicePrimitives
        (unboundOps ++ [.restart fun _ => List.replicate 32 110])).database.tables
          (List.replicate 32 97) = some binding) ∧
    ¬ ∀ ops bindingIds, Undisturbed
      (installed concreteService concreteServicePrimitives ops).database
      (installed concreteService concreteServicePrimitives
        (ops ++ [.restart bindingIds])).database := by
  have isNone : (currentBinding (installed concreteService concreteServicePrimitives
      unboundOps).database.tables (List.replicate 32 97)).isNone = true := by decide +kernel
  have bound : (currentBinding (installed concreteService concreteServicePrimitives
      (unboundOps ++ [.restart fun _ => List.replicate 32 110])).database.tables
        (List.replicate 32 97)).isSome = true := by decide +kernel
  rw [Option.isNone_iff_eq_none] at isNone
  obtain ⟨binding, isBinding⟩ := Option.isSome_iff_exists.mp bound
  refine ⟨⟨isNone, binding, isBinding⟩, ?_⟩
  intro always
  have same := (always unboundOps (fun _ => List.replicate 32 110)).deviceBindings
  rw [currentBinding_congr same, isNone] at isBinding
  cases isBinding

end VisionForge.PairSecurity
