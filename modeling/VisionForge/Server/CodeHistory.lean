import VisionForge.Server.CodeLifecycle
import VisionForge.Lib.Run

/-! # The history of a card code

A code that was revoked or archived by itself is not put back by its batch, and a batch
puts back what it revoked. What counts is who revoked a code last, which the flag beside
the column records.
-/

namespace VisionForge.Server.CodeLifecycle

open Lib.Ascii Lib.Run Lib.Table Lib.Transaction UsageRepository

/-! ## Statements -/

section

variable {s t : StockDatabase} {α : Type}

theorem writeBatches_eq_ok {rows : List LicenseBatch} (h : (writeBatches rows).run s = .ok ((), t)) :
    t.codes = s.codes ∧ t.batches = rows := by
  unfold writeBatches at h
  split at h
  · cases h
    exact ⟨rfl, rfl⟩
  · cases h

theorem writeCodes_eq_ok {rows : List LicenseCode} (h : (writeCodes rows).run s = .ok ((), t)) :
    t.batches = s.batches ∧ t.codes = rows := by
  unfold writeCodes at h
  split at h
  · cases h
    exact ⟨rfl, rfl⟩
  · cases h

variable {batchId : Nat}

theorem updateBatches_eq_ok {chg : LicenseBatch → LicenseBatch}
    (h : (updateBatches batchId chg).run s = .ok ((), t)) : t.codes = s.codes := by
  unfold updateBatches at h
  exact (writeBatches_eq_ok h).1

variable {chg : LicenseCode → LicenseCode}

theorem updateCodes_eq_ok {cond : LicenseCode → Bool} {count : Nat}
    (h : (updateCodes cond chg).run s = .ok (count, t)) :
    t.batches = s.batches ∧ t.codes = update cond chg s.codes := by
  unfold updateCodes at h
  rw [get_ok, bind_ok] at h
  obtain ⟨⟨⟩, u, writing, last⟩ := h
  cases last
  exact writeCodes_eq_ok writing

theorem invalidate_eq_ok {cond : ActivationChallengeRow → Bool} {count : Nat}
    (h : (invalidateActivationChallenges cond).run s = .ok (count, t)) :
    t.codes = s.codes ∧ t.batches = s.batches := by
  cases h
  exact ⟨rfl, rfl⟩

variable {code : LicenseCode}

theorem code_unique {other : LicenseCode} (hrow : code ∈ s.codes) (inRows' : other ∈ s.codes)
    (same : other.id = code.id) : other = code :=
  List.inj_on_of_nodup_map s.codeKeys inRows' hrow same

variable {codeId : Nat} {result : α × StockDatabase}

theorem codeRow_ok {next : LicenseCode → StockStatement α} :
    (codeRow codeId >>= next).run s = .ok result ↔
      ∃ code ∈ s.codes, code.id = codeId ∧ (next code).run s = .ok result := by
  unfold codeRow
  rw [bind_assoc, get_ok, unwrap_ok]
  constructor
  · rintro ⟨code, found, h⟩
    exact ⟨code, (lookup_key found).1, (lookup_key found).2, h⟩
  · rintro ⟨code, mem, rfl, h⟩
    exact ⟨code, lookup_of_mem s.codeKeys mem, h⟩

theorem batchRow_ok {next : LicenseBatch → StockStatement α} :
    (batchRow batchId >>= next).run s = .ok result ↔
      ∃ batch ∈ s.batches, batch.id = batchId ∧ (next batch).run s = .ok result := by
  unfold batchRow
  rw [bind_assoc, get_ok, unwrap_ok]
  constructor
  · rintro ⟨batch, found, h⟩
    exact ⟨batch, (lookup_key found).1, (lookup_key found).2, h⟩
  · rintro ⟨batch, mem, rfl, h⟩
    exact ⟨batch, lookup_of_mem s.batchKeys mem, h⟩

variable {reason : Str}

theorem safeReason_ok {next : Str → StockStatement α} :
    (safeReason reason >>= next).run s = .ok result ↔
      (2 ≤ (strip reason).length ∧ (strip reason).length ≤ 200) ∧
        (next (strip reason)).run s = .ok result := by
  unfold safeReason
  rw [bind_assoc, require_ok, pure_bind]

theorem safeNote_ok {note : Str} {next : Str → StockStatement α} :
    (safeNote note >>= next).run s = .ok result ↔
      (strip note).length ≤ 500 ∧ (next (strip note)).run s = .ok result := by
  unfold safeNote
  rw [bind_assoc, require_ok, pure_bind]

theorem updateCodes_of_key {count : Nat} {cond : LicenseCode → Bool} (mem : code ∈ s.codes)
    (holds : cond code = true)
    (h : (updateCodes (fun row => row.id == code.id) chg).run s = .ok (count, t)) :
    t.codes = update (fun row => row.id == code.id && cond row) chg s.codes := by
  rw [(updateCodes_eq_ok h).2]
  apply update_congr
  intro row hrow
  by_cases same : row.id = code.id
  · rw [code_unique mem hrow same, holds, Bool.and_true]
  · simp [same]

end

/-! ## What an operation does to a code -/

/-- The codes that an operation rewrites when it succeeds. -/
def StockOp.selects : StockOp → LicenseCode → Bool
  | .issueBatch .. | .changeChallenges .. => fun _ => false
  | .consumeCode codeId now => fun code =>
    code.id == codeId && decide (code.status = .issued) && isUnexpired now code
  | .expireCode codeId => fun code => code.id == codeId && decide (code.status = .issued)
  | .normalizeExpiredCodes batchId now => fun code =>
    decide (code.status = .issued) && code.expiresAtEpoch.any (· ≤ now) &&
      batchId.all (· == code.batchId)
  | .revokeCode codeId .. | .updateCode codeId .. => fun code =>
    code.id == codeId && (code.deletedAt.isNone && decide (code.status ≠ .activated))
  | .restoreCode codeId _ _ => fun code =>
    code.id == codeId && (code.deletedAt.isNone && decide (code.status = .revoked))
  | .deleteCode codeId .. => fun code => code.id == codeId && code.deletedAt.isNone
  | .unarchiveCode codeId _ => fun code => code.id == codeId && code.deletedAt.isSome
  | .updateBatch batchId .. => fun code =>
    code.batchId == batchId && decide (code.status ≠ .activated) && code.deletedAt.isNone
  | .revokeBatch batchId .. => fun code =>
    code.batchId == batchId && decide (code.status = .issued) && code.deletedAt.isNone
  | .restoreBatch batchId _ now => fun code =>
    code.batchId == batchId && decide (code.status = .revoked) && code.revokedByBatch &&
      code.deletedAt.isNone && isUnexpired now code
  | .deleteBatch batchId .. => fun code => code.batchId == batchId && code.deletedAt.isNone
  | .unarchiveBatch batchId _ => fun code => code.batchId == batchId && code.deletedByBatch

def StockOp.changes : StockOp → LicenseCode → LicenseCode
  | .issueBatch .. | .changeChallenges .. => id
  | .consumeCode _ now => fun code =>
    { code with status := .activated, activatedAtEpoch := some now }
  | .expireCode _ | .normalizeExpiredCodes .. => fun code => { code with status := .expired }
  | .revokeCode _ reason now => revoked (strip reason) false now
  | .updateCode _ adminNote expiresAtEpoch _ _ => fun code =>
    { rescheduled expiresAtEpoch code with adminNote := strip adminNote }
  | .restoreCode .. | .restoreBatch .. => restored
  | .deleteCode _ reason now => archived (strip reason) false now
  | .unarchiveCode .. | .unarchiveBatch .. => unarchived
  | .updateBatch _ _ expiresAtEpoch _ _ => rescheduled expiresAtEpoch
  | .revokeBatch _ reason now => revoked (strip reason) true now
  | .deleteBatch _ reason now => archived (strip reason) true now

def StockOp.effect (op : StockOp) (code : LicenseCode) : LicenseCode :=
  if op.selects code = true then op.changes code else code

/-- The code that an operation is about. -/
def StockOp.target : StockOp → Option Nat
  | .revokeCode codeId .. | .updateCode codeId .. | .restoreCode codeId .. |
    .deleteCode codeId .. | .unarchiveCode codeId _ => some codeId
  | _ => none

/-- A code becomes what the operation makes of it; archiving an archived batch makes nothing. -/
def StockOp.MovesTo (op : StockOp) (old new : LicenseCode) : Prop :=
  new = op.effect old ∨ (∃ batchId reason now, op = .deleteBatch batchId reason now) ∧ new = old

/-- The operation moves the codes, the one it is about among them; new codes are as issued. -/
structure Succeeds (op : StockOp) (s t : StockDatabase) : Prop where
  codes : ∃ moved added, t.codes = moved ++ added ∧ List.Forall₂ op.MovesTo s.codes moved ∧
    ∀ code ∈ added, code.status = .issued ∧ code.deletedAt = none
  target : ∀ codeId, op.target = some codeId → ∃ code ∈ s.codes, code.id = codeId ∧
    (op.selects code = true ∨ code.deletedAt.isSome = true ∧
      ∃ reason now, op = .deleteCode codeId reason now)

section

variable {s t : StockDatabase}

theorem movesTo_update {op : StockOp} (codes : List LicenseCode) :
    List.Forall₂ op.MovesTo codes (update op.selects op.changes codes) := by
  unfold update
  rw [List.forall₂_map_right_iff, List.forall₂_same]
  intro code _
  exact .inl rfl

variable {op : StockOp}

theorem Succeeds.of_update (untargeted : op.target = none)
    (codes : t.codes = update op.selects op.changes s.codes) : Succeeds op s t := by
  refine ⟨⟨_, [], by rw [codes, List.append_nil], movesTo_update s.codes, by simp⟩, ?_⟩
  intro codeId isTarget
  rw [untargeted] at isTarget
  cases isTarget

theorem Succeeds.of_target (mem : code ∈ s.codes) (isTarget : op.target = some code.id)
    (sel : op.selects code = true) (codes : t.codes = update op.selects op.changes s.codes) :
    Succeeds op s t := by
  refine ⟨⟨_, [], by rw [codes, List.append_nil], movesTo_update s.codes, by simp⟩, ?_⟩
  intro codeId isTarget'
  rw [isTarget] at isTarget'
  cases isTarget'
  exact ⟨code, mem, rfl, .inl sel⟩

theorem update_none {codes : List LicenseCode} : update (fun _ => false) chg codes = codes := by
  simp [update]

variable {now : Nat} {reply : StockReply}

theorem revokeCode_succeeds (h : (revokeCode codeId reason now).run s = .ok (reply, t)) :
    Succeeds (.revokeCode codeId reason now) s t := by
  unfold revokeCode requirePositiveId requireNotDeleted requireNotActivated at h
  rw [require_ok, safeReason_ok, codeRow_ok] at h
  obtain ⟨-, -, code, mem, rfl, h⟩ := h
  rw [require_ok, require_ok, bind_ok] at h
  obtain ⟨isOpen, unused, count, u, updating, h⟩ := h
  obtain ⟨invalidated, v, invalidating, last⟩ := bind_ok.mp h
  cases last
  have allowed : (code.deletedAt.isNone && decide (code.status ≠ .activated)) = true := by
    simp [isOpen, unused]
  refine .of_target mem rfl (by simpa [StockOp.selects] using allowed) ?_
  rw [(invalidate_eq_ok invalidating).1]
  exact updateCodes_of_key mem allowed updating

theorem updateCode_succeeds {adminNote : Str} {expiresAtEpoch : Option Nat}
    (h : (updateCode codeId adminNote expiresAtEpoch reason now).run s = .ok (reply, t)) :
    Succeeds (.updateCode codeId adminNote expiresAtEpoch reason now) s t := by
  unfold updateCode requirePositiveId requireExpiry requireNotDeleted requireNotActivated at h
  rw [require_ok, safeNote_ok, require_ok, safeReason_ok, codeRow_ok] at h
  obtain ⟨-, -, -, -, code, mem, rfl, h⟩ := h
  rw [require_ok, require_ok, bind_ok] at h
  obtain ⟨isOpen, unused, count, u, updating, h⟩ := h
  obtain ⟨invalidated, v, invalidating, h⟩ := bind_ok.mp h
  rw [codeRow_ok] at h
  obtain ⟨updated, -, -, last⟩ := h
  cases last
  have allowed : (code.deletedAt.isNone && decide (code.status ≠ .activated)) = true := by
    simp [isOpen, unused]
  refine .of_target mem rfl (by simpa [StockOp.selects] using allowed) ?_
  rw [(invalidate_eq_ok invalidating).1]
  exact updateCodes_of_key mem allowed updating

theorem restoreCode_succeeds (h : (restoreCode codeId reason now).run s = .ok (reply, t)) :
    Succeeds (.restoreCode codeId reason now) s t := by
  unfold restoreCode requirePositiveId requireNotDeleted at h
  rw [require_ok, safeReason_ok, codeRow_ok] at h
  obtain ⟨-, -, code, mem, rfl, h⟩ := h
  rw [require_ok, batchRow_ok] at h
  obtain ⟨isOpen, batch, -, -, h⟩ := h
  rw [require_ok, require_ok, require_ok, require_ok, bind_ok] at h
  obtain ⟨-, -, isRevoked, -, count, u, updating, last⟩ := h
  cases last
  have allowed : (code.deletedAt.isNone && decide (code.status = .revoked)) = true := by
    simp [isOpen, isRevoked]
  refine .of_target mem rfl (by simpa [StockOp.selects] using allowed) ?_
  exact updateCodes_of_key mem allowed updating

theorem unarchiveCode_succeeds (h : (unarchiveCode codeId reason).run s = .ok (reply, t)) :
    Succeeds (.unarchiveCode codeId reason) s t := by
  unfold unarchiveCode requirePositiveId at h
  rw [require_ok, safeReason_ok, codeRow_ok] at h
  obtain ⟨-, -, code, mem, rfl, h⟩ := h
  rw [require_ok, batchRow_ok] at h
  obtain ⟨isArchived, batch, -, -, h⟩ := h
  rw [require_ok, bind_ok] at h
  obtain ⟨-, count, u, updating, last⟩ := h
  cases last
  have allowed : code.deletedAt.isSome = true := Option.isSome_iff_ne_none.mpr isArchived
  refine .of_target mem rfl (by simpa [StockOp.selects] using allowed) ?_
  exact updateCodes_of_key mem allowed updating

theorem deleteCode_succeeds (h : (deleteCode codeId reason now).run s = .ok (reply, t)) :
    Succeeds (.deleteCode codeId reason now) s t := by
  unfold deleteCode requirePositiveId at h
  rw [require_ok, safeReason_ok, codeRow_ok] at h
  obtain ⟨-, -, code, mem, rfl, h⟩ := h
  dsimp only at h
  have finished {u : StockDatabase} {rest : StockStatement StockReply}
      (ran : (if code.status ≠ .activated then
          invalidateActivationChallenges (ofCode code.id) >>= fun _ => rest else rest).run u =
        .ok (reply, t)) (keeps : ∀ v, rest.run v = .ok (reply, t) → t.codes = v.codes) :
      t.codes = u.codes := by
    split at ran
    · obtain ⟨count, v, invalidating, last⟩ := bind_ok.mp ran
      rw [keeps v last, (invalidate_eq_ok invalidating).1]
    · exact keeps u ran
  have replies (v : StockDatabase) {value : StockReply}
      (ran : (pure value : StockStatement StockReply).run v = .ok (reply, t)) :
      t.codes = v.codes := by
    cases ran
    rfl
  split at h
  · rename_i isOpen
    obtain ⟨count, u, updating, h⟩ := bind_ok.mp h
    refine .of_target mem rfl (by simp [StockOp.selects, isOpen]) ?_
    rw [finished h (fun v => replies v)]
    exact updateCodes_of_key mem (by simp [isOpen]) updating
  · rename_i isArchived
    -- the code with this key is not sel
    have none : update (StockOp.deleteCode code.id reason now).selects
        (StockOp.deleteCode code.id reason now).changes s.codes =
        update (fun _ => false) (StockOp.deleteCode code.id reason now).changes s.codes := by
      apply update_congr
      intro row hrow
      rw [StockOp.selects, Bool.and_eq_false_iff, beq_eq_false_iff_ne,
        Option.isNone_eq_false_iff, Option.isSome_iff_ne_none]
      by_cases same : row.id = code.id
      · rw [code_unique mem hrow same]
        exact .inr isArchived
      · exact .inl same
    refine ⟨⟨s.codes, [], ?_, ?_, by simp⟩, ?_⟩
    · rw [finished h (fun v => replies v), List.append_nil]
    · have kept := @movesTo_update (.deleteCode code.id reason now) s.codes
      rwa [none, update_none] at kept
    · rintro codeId ⟨⟩
      exact ⟨code, mem, rfl, .inr ⟨Option.isSome_iff_ne_none.mpr isArchived, _, _, rfl⟩⟩

theorem updateBatch_succeeds {note : Str} {expiresAtEpoch : Option Nat}
    (h : (updateBatch batchId note expiresAtEpoch reason now).run s = .ok (reply, t)) :
    Succeeds (.updateBatch batchId note expiresAtEpoch reason now) s t := by
  unfold updateBatch requirePositiveId requireExpiry requireNotDeleted at h
  rw [require_ok, safeNote_ok, require_ok, safeReason_ok, batchRow_ok] at h
  obtain ⟨-, -, -, -, batch, -, -, h⟩ := h
  rw [require_ok, get_ok, require_ok, bind_ok] at h
  obtain ⟨-, -, ⟨⟩, u, batches, h⟩ := h
  obtain ⟨count, v, updating, last⟩ := bind_ok.mp h
  cases last
  refine .of_update rfl ?_
  rw [(updateCodes_eq_ok updating).2, updateBatches_eq_ok batches]
  rfl

theorem revokeBatch_succeeds (h : (revokeBatch batchId reason now).run s = .ok (reply, t)) :
    Succeeds (.revokeBatch batchId reason now) s t := by
  unfold revokeBatch requirePositiveId requireNotDeleted at h
  rw [require_ok, safeReason_ok, batchRow_ok] at h
  obtain ⟨-, -, batch, -, -, h⟩ := h
  rw [require_ok, get_ok, bind_ok] at h
  obtain ⟨-, invalidated, u, invalidating, h⟩ := h
  obtain ⟨count, v, updating, h⟩ := bind_ok.mp h
  obtain ⟨⟨⟩, w, batches, last⟩ := bind_ok.mp h
  cases last
  refine .of_update rfl ?_
  rw [updateBatches_eq_ok batches, (updateCodes_eq_ok updating).2, (invalidate_eq_ok invalidating).1]
  rfl

theorem restoreBatch_succeeds (h : (restoreBatch batchId reason now).run s = .ok (reply, t)) :
    Succeeds (.restoreBatch batchId reason now) s t := by
  unfold restoreBatch requirePositiveId requireNotDeleted at h
  rw [require_ok, safeReason_ok, batchRow_ok] at h
  obtain ⟨-, -, batch, -, -, h⟩ := h
  rw [require_ok, bind_ok] at h
  obtain ⟨-, count, u, updating, h⟩ := h
  obtain ⟨⟨⟩, v, batches, last⟩ := bind_ok.mp h
  cases last
  refine .of_update rfl ?_
  rw [updateBatches_eq_ok batches, (updateCodes_eq_ok updating).2]
  rfl

theorem unarchiveBatch_succeeds (h : (unarchiveBatch batchId reason).run s = .ok (reply, t)) :
    Succeeds (.unarchiveBatch batchId reason) s t := by
  unfold unarchiveBatch requirePositiveId at h
  rw [require_ok, safeReason_ok, batchRow_ok] at h
  obtain ⟨-, -, batch, -, -, h⟩ := h
  rw [require_ok, bind_ok] at h
  obtain ⟨-, count, u, updating, h⟩ := h
  obtain ⟨⟨⟩, v, batches, last⟩ := bind_ok.mp h
  cases last
  refine .of_update rfl ?_
  rw [updateBatches_eq_ok batches, (updateCodes_eq_ok updating).2]
  rfl

theorem deleteBatch_succeeds (h : (deleteBatch batchId reason now).run s = .ok (reply, t)) :
    Succeeds (.deleteBatch batchId reason now) s t := by
  unfold deleteBatch requirePositiveId at h
  rw [require_ok, safeReason_ok, batchRow_ok] at h
  obtain ⟨-, -, batch, -, -, h⟩ := h
  rw [get_ok, bind_ok] at h
  obtain ⟨invalidated, u, invalidating, h⟩ := h
  have same := (invalidate_eq_ok invalidating).1
  split at h
  · obtain ⟨count, v, updating, h⟩ := bind_ok.mp h
    obtain ⟨⟨⟩, w, batches, h⟩ := bind_ok.mp h
    cases h
    refine .of_update rfl ?_
    rw [updateBatches_eq_ok batches, (updateCodes_eq_ok updating).2, same]
    rfl
  · cases h
    refine ⟨⟨s.codes, [], by rw [same, List.append_nil], ?_, by simp⟩, ?_⟩
    · exact List.forall₂_same.mpr fun code _ => .inr ⟨⟨_, _, _, rfl⟩, rfl⟩
    · intro codeId isTarget
      cases isTarget

theorem issueBatch_succeeds {note : Str} {expiresAtEpoch : Option Nat} {quantity : Nat}
    (h : (issueBatch note expiresAtEpoch quantity).run s = .ok (reply, t)) :
    Succeeds (.issueBatch note expiresAtEpoch quantity) s t := by
  unfold issueBatch at h
  rw [get_ok, bind_ok] at h
  obtain ⟨⟨⟩, u, batches, h⟩ := h
  obtain ⟨⟨⟩, v, codes, last⟩ := bind_ok.mp h
  cases last
  refine ⟨⟨_, _, (writeCodes_eq_ok codes).2, ?_, ?_⟩, ?_⟩
  · exact List.forall₂_same.mpr fun code _ => .inl rfl
  · intro code mem
    obtain ⟨ordinal, -, rfl⟩ := List.mem_map.mp mem
    exact ⟨rfl, rfl⟩
  · intro codeId isTarget
    cases isTarget

theorem consumeCode_succeeds (h : (consumeCode codeId now).run s = .ok (reply, t)) :
    Succeeds (.consumeCode codeId now) s t := by
  obtain ⟨count, u, updating, last⟩ := bind_ok.mp h
  cases last
  exact .of_update rfl (updateCodes_eq_ok updating).2

theorem expireCode_succeeds (h : (expireCode codeId).run s = .ok (reply, t)) :
    Succeeds (.expireCode codeId) s t := by
  obtain ⟨count, u, updating, last⟩ := bind_ok.mp h
  cases last
  exact .of_update rfl (updateCodes_eq_ok updating).2

theorem normalizeExpiredCodes_succeeds {batchId : Option Nat}
    (h : (normalizeExpiredCodes batchId now).run s = .ok (reply, t)) :
    Succeeds (.normalizeExpiredCodes batchId now) s t := by
  unfold normalizeExpiredCodes at h
  obtain ⟨count, u, updating, h⟩ := bind_ok.mp h
  rw [get_ok, bind_ok] at h
  obtain ⟨invalidated, v, invalidating, last⟩ := h
  cases last
  refine .of_update rfl ?_
  rw [(invalidate_eq_ok invalidating).1]
  exact (updateCodes_eq_ok updating).2

theorem changeChallenges_succeeds {rows : List ActivationChallengeRow}
    (h : (changeChallenges rows).run s = .ok (reply, t)) :
    Succeeds (.changeChallenges rows) s t := by
  unfold changeChallenges at h
  cases h
  exact .of_update rfl update_none.symm

theorem body_succeeds (h : op.body.run s = .ok (reply, t)) : Succeeds op s t := by
  cases op with
  | issueBatch => exact issueBatch_succeeds h
  | consumeCode => exact consumeCode_succeeds h
  | expireCode => exact expireCode_succeeds h
  | normalizeExpiredCodes => exact normalizeExpiredCodes_succeeds h
  | changeChallenges => exact changeChallenges_succeeds h
  | revokeCode => exact revokeCode_succeeds h
  | updateCode => exact updateCode_succeeds h
  | restoreCode => exact restoreCode_succeeds h
  | deleteCode => exact deleteCode_succeeds h
  | unarchiveCode => exact unarchiveCode_succeeds h
  | updateBatch => exact updateBatch_succeeds h
  | revokeBatch => exact revokeBatch_succeeds h
  | restoreBatch => exact restoreBatch_succeeds h
  | deleteBatch => exact deleteBatch_succeeds h
  | unarchiveBatch => exact unarchiveBatch_succeeds h

theorem stockStep_cases (s : StockDatabase) (op : StockOp) :
    (∃ error, stockStep s op = (s, .error error)) ∨
      ∃ reply t, stockStep s op = (t, .ok reply) ∧ Succeeds op s t := by
  cases atomically_cases op.body s with
  | inl done =>
    obtain ⟨reply, t, ran, same⟩ := done
    exact .inr ⟨reply, t, same, body_succeeds ran⟩
  | inr failed => exact .inl failed

theorem deleteCode_fits (h : stockStep s (.deleteCode codeId reason now) = (t, .ok reply)) :
    2 ≤ (strip reason).length ∧ (strip reason).length ≤ 200 := by
  cases atomically_cases (StockOp.deleteCode codeId reason now).body s with
  | inl done =>
    obtain ⟨_, _, ran, -⟩ := done
    change (deleteCode codeId reason now).run s = _ at ran
    unfold deleteCode requirePositiveId at ran
    rw [require_ok, safeReason_ok] at ran
    exact ran.2.1
  | inr failed =>
    obtain ⟨error, same⟩ := failed
    rw [stockStep, same] at h
    cases h

theorem effect_id (op : StockOp) (code : LicenseCode) : (op.effect code).id = code.id := by
  unfold StockOp.effect
  split
  · cases op with
    | deleteCode | deleteBatch =>
      simp only [StockOp.changes, archived]
      split <;> rfl
    | _ => rfl
  · rfl

theorem StockOp.MovesTo.id {old new : LicenseCode} (h : op.MovesTo old new) : new.id = old.id := by
  cases h with
  | inl same =>
    rw [same]
    exact effect_id op old
  | inr kept => rw [kept.2]

theorem Succeeds.origin (h : Succeeds op s t) {new : LicenseCode} (mem : new ∈ t.codes) :
    (∃ old ∈ s.codes, op.MovesTo old new) ∨
      ((∀ old ∈ s.codes, old.id ≠ new.id) ∧ new.status = .issued ∧ new.deletedAt = none) := by
  obtain ⟨moved, added, table, moves, fresh⟩ := h.codes
  have keys := t.codeKeys
  rw [table, List.map_append, List.nodup_append] at keys
  rw [table] at mem
  cases List.mem_append.mp mem with
  | inl kept => exact .inl (exists_of_mem_after moves kept)
  | inr isNew =>
    refine .inr ⟨?_, fresh new isNew⟩
    intro old inOld same
    obtain ⟨later, inMoved, follows⟩ := exists_of_mem_before moves inOld
    exact keys.2.2 _ (List.mem_map_of_mem inMoved) _ (List.mem_map_of_mem isNew)
      (follows.id.trans same)

theorem Succeeds.moves (h : Succeeds op s t) {old new : LicenseCode} (mem : old ∈ s.codes)
    (member' : new ∈ t.codes) (same : new.id = old.id) : op.MovesTo old new := by
  cases h.origin member' with
  | inl moved =>
    obtain ⟨other, inOld, moves⟩ := moved
    rwa [code_unique mem inOld (moves.id.symm.trans same)] at moves
  | inr isNew => exact absurd same.symm (isNew.1 old mem)

theorem Succeeds.later (h : Succeeds op s t) {old : LicenseCode} (mem : old ∈ s.codes) :
    ∃ new ∈ t.codes, op.MovesTo old new := by
  obtain ⟨moved, added, table, moves, -⟩ := h.codes
  obtain ⟨new, inMoved, follows⟩ := exists_of_mem_before moves mem
  refine ⟨new, ?_, follows⟩
  rw [table]
  exact List.mem_append_left _ inMoved

end

/-! ## What is remembered of a code -/

inductive Revoker where
  | code
  | batch
  deriving DecidableEq

/-- Whether a code is revoked or archived by itself, and who revoked it last. -/
structure History where
  revoked : Bool := false
  archived : Bool := false
  lastRevocation : Option Revoker := none
  deriving DecidableEq

def statusOf (codeId : Nat) (database : StockDatabase) : Option CodeStatus :=
  (lookup LicenseCode.id codeId database.codes).map LicenseCode.status

def becomesRevoked (codeId : Nat) (before after : StockDatabase) : Bool :=
  decide (statusOf codeId before ≠ some .revoked) && decide (statusOf codeId after = some .revoked)

/-- What an operation that succeeds adds to the history of a code. -/
def StockOp.notes (codeId : Nat) (becomes : Bool) (history : History) : StockOp → History
  | .revokeCode id _ _ => if id = codeId then
      { history with revoked := true, lastRevocation := some .code } else history
  | .restoreCode id _ _ => if id = codeId then { history with revoked := false } else history
  | .deleteCode id _ _ => if id = codeId then
      { history with
        archived := true
        lastRevocation := if becomes = true then some .code else history.lastRevocation }
      else history
  | .unarchiveCode id _ => if id = codeId then { history with archived := false } else history
  | .revokeBatch .. | .deleteBatch .. =>
    { history with
      lastRevocation := if becomes = true then some .batch else history.lastRevocation }
  | _ => history

def note (codeId : Nat) (history : History) (before : StockDatabase) (op : StockOp)
    (result : StockDatabase × Except ServerException StockReply) : History :=
  match result.2 with
  | .ok _ => op.notes codeId (becomesRevoked codeId before result.1) history
  | .error _ => history

def stock (ops : List StockOp) : StockDatabase := exec stockStep {} ops

def historyOf (codeId : Nat) (ops : List StockOp) : History :=
  (exec (observed stockStep (note codeId)) ({}, {}) ops).2

/-! ## Who revoked a code -/

section

variable {op : StockOp} {old new : LicenseCode} {history : History} {codeId : Nat} {becomes : Bool}

/-- The columns of a code agree with its history. -/
structure Marked (history : History) (code : LicenseCode) : Prop where
  held : history.revoked = true → code.status = .revoked ∧ code.revokedByBatch = false
  last : code.status = .revoked →
    (history.lastRevocation = some .batch ↔ code.revokedByBatch = true)

theorem Marked.unheld (marked : Marked history code)
    (other : code.status ≠ .revoked ∨ code.revokedByBatch = true) : history.revoked = false := by
  cases held : history.revoked with
  | false => rfl
  | true =>
    obtain ⟨isRevoked, byCode⟩ := marked.held held
    simp [isRevoked, byCode] at other

theorem Marked.same {later : History} (marked : Marked history old)
    (held : later.revoked = history.revoked) (last : later.lastRevocation = history.lastRevocation)
    (status : new.status = old.status) (flag : new.revokedByBatch = old.revokedByBatch) :
    Marked later new := by
  constructor
  · rw [held, status, flag]
    exact marked.held
  · rw [last, status, flag]
    exact marked.last

theorem Marked.released {later : History} (held : later.revoked = false)
    (status : new.status ≠ .revoked) : Marked later new := by
  constructor
  · intro no
    rw [held] at no
    cases no
  · intro no
    exact absurd no status

theorem effect_of_not (unselected : op.selects old = false) : op.effect old = old := by
  simp [StockOp.effect, unselected]

theorem effect_of_selects (sel : op.selects old = true) : op.effect old = op.changes old := by
  simp [StockOp.effect, sel]

theorem notes_of_not (unselected : op.selects old = false)
    (target : op.target = some codeId → op.selects old = true ∨ old.deletedAt.isSome = true ∧
      ∃ reason now, op = .deleteCode codeId reason now) :
    (op.notes codeId false history).revoked = history.revoked ∧
      (op.notes codeId false history).lastRevocation = history.lastRevocation := by
  cases op with
  | revokeCode id | restoreCode id =>
    rw [unselected] at target
    by_cases same : id = codeId
    · simp [StockOp.target, same] at target
    · simp [StockOp.notes, same]
  | deleteCode id | unarchiveCode id =>
    by_cases same : id = codeId
    · simp [StockOp.notes, same]
    · simp [StockOp.notes, same]
  | _ => simp [StockOp.notes]

theorem Marked.rescheduled (marked : Marked history old) (expiresAtEpoch : Option Nat) :
    Marked history (rescheduled expiresAtEpoch old) := by
  by_cases isExpired : old.status = .expired
  · exact .released (marked.unheld (by simp [isExpired]))
      (by simp [CodeLifecycle.rescheduled, isExpired])
  · exact marked.same rfl rfl (by simp [CodeLifecycle.rescheduled, isExpired]) rfl

theorem Marked.archived {later : History} {byBatch : Bool} (marked : Marked history old)
    (held : later.revoked = history.revoked)
    (last : later.lastRevocation = if becomes = true then
      some (if byBatch = true then .batch else .code) else history.lastRevocation)
    (revoking : becomes = true ↔
      old.status ≠ .revoked ∧ (archived reason byBatch now old).status = .revoked) :
    Marked later (archived reason byBatch now old) := by
  by_cases isIssued : old.status = .issued
  · have put : (CodeLifecycle.archived reason byBatch now old).revokedByBatch = byBatch ∧
        (CodeLifecycle.archived reason byBatch now old).status = .revoked := by
      simp [CodeLifecycle.archived, isIssued, revoked]
    rw [put.2] at revoking
    rw [if_pos (revoking.mpr ⟨by simp [isIssued], rfl⟩)] at last
    constructor
    · intro no
      rw [held, marked.unheld (by simp [isIssued])] at no
      cases no
    · intro _
      rw [last, put.1]
      cases byBatch <;> simp
  · have kept : (CodeLifecycle.archived reason byBatch now old).revokedByBatch =
          old.revokedByBatch ∧
        (CodeLifecycle.archived reason byBatch now old).status = old.status := by
      simp [CodeLifecycle.archived, isIssued]
    rw [kept.2] at revoking
    rw [if_neg (fun becomes => (revoking.mp becomes).1 (revoking.mp becomes).2)] at last
    exact marked.same held last kept.2 kept.1

theorem Marked.moves (marked : Marked history old) (isCode : old.id = codeId)
    (moves : op.MovesTo old new)
    (target : op.target = some codeId → op.selects old = true ∨ old.deletedAt.isSome = true ∧
      ∃ reason now, op = .deleteCode codeId reason now)
    (revoking : becomes = true ↔ old.status ≠ .revoked ∧ new.status = .revoked) :
    Marked (op.notes codeId becomes history) new := by
  cases moves with
  | inr kept =>
    obtain ⟨⟨batchId, reason, now, rfl⟩, rfl⟩ := kept
    have unchanged : becomes = false := by
      rw [Bool.eq_false_iff, Ne, revoking]
      simp
    exact marked.same rfl (by simp [StockOp.notes, unchanged]) rfl rfl
  | inl same =>
    subst same
    cases sel : op.selects old with
    | false =>
      rw [effect_of_not sel] at revoking ⊢
      have unchanged : becomes = false := by
        rw [Bool.eq_false_iff, Ne, revoking]
        simp
      subst unchanged
      obtain ⟨held, last⟩ := @notes_of_not op old history codeId sel target
      exact marked.same held last rfl rfl
    | true =>
      rw [effect_of_selects sel] at revoking ⊢
      cases op with
      | issueBatch => cases sel
      | changeChallenges => cases sel
      | consumeCode | expireCode | normalizeExpiredCodes =>
        simp only [StockOp.selects, Bool.and_eq_true, decide_eq_true_eq] at sel
        exact .released (marked.unheld (by simp [sel])) (by simp [StockOp.changes])
      | revokeCode id reason now =>
        simp only [StockOp.selects, Bool.and_eq_true, beq_iff_eq] at sel
        have same : id = codeId := sel.1.symm.trans isCode
        constructor
        · simp [StockOp.changes, revoked]
        · simp [StockOp.changes, revoked, StockOp.notes, same]
      | restoreCode id reason now =>
        simp only [StockOp.selects, Bool.and_eq_true, beq_iff_eq] at sel
        have same : id = codeId := sel.1.symm.trans isCode
        exact .released (by simp [StockOp.notes, same]) (by simp [StockOp.changes, restored])
      | restoreBatch batchId reason now =>
        simp only [StockOp.selects, Bool.and_eq_true, decide_eq_true_eq] at sel
        exact .released (marked.unheld (by simp [sel]))
          (by simp [StockOp.changes, restored])
      | unarchiveCode id reason =>
        refine marked.same ?_ ?_ rfl rfl
        · simp only [StockOp.notes]
          split <;> rfl
        · simp only [StockOp.notes]
          split <;> rfl
      | unarchiveBatch batchId reason => exact marked.same rfl rfl rfl rfl
      | updateCode id adminNote expiresAtEpoch reason now =>
        exact (marked.rescheduled expiresAtEpoch).same rfl rfl rfl rfl
      | updateBatch batchId note expiresAtEpoch reason now =>
        exact marked.rescheduled expiresAtEpoch
      | revokeBatch batchId reason now =>
        simp only [StockOp.selects, Bool.and_eq_true, decide_eq_true_eq] at sel
        have becomesTrue : becomes = true :=
          revoking.mpr ⟨by simp [sel], by simp [StockOp.changes, revoked]⟩
        constructor
        · intro no
          have unheld := marked.unheld (.inl (by simp [sel]))
          simp [StockOp.notes, unheld] at no
        · simp [StockOp.notes, StockOp.changes, revoked, becomesTrue]
      | deleteCode id reason now =>
        simp only [StockOp.selects, Bool.and_eq_true, beq_iff_eq] at sel
        have same : id = codeId := sel.1.symm.trans isCode
        exact marked.archived (by simp [StockOp.notes, same])
          (by simp [StockOp.notes, same]) revoking
      | deleteBatch batchId reason now => exact marked.archived rfl rfl revoking

/-! ## Who archived a code -/

/-- A code that is held archived was not archived by its batch. -/
def Shelved (history : History) (code : LicenseCode) : Prop :=
  history.archived = true → code.deletedAt.isSome = true ∧ code.deletedByBatch = false

/-- The operation does not archive a code that its batch has archived; one whose reason is
    refused archives nothing. -/
def StockOp.Spares (op : StockOp) (code : LicenseCode) : Prop :=
  ∀ reason now, op = .deleteCode code.id reason now →
    (2 ≤ (strip reason).length ∧ (strip reason).length ≤ 200) →
    ¬(code.deletedAt.isSome = true ∧ code.deletedByBatch = true)

theorem changes_archive (op : StockOp) (code : LicenseCode) :
    ((op.changes code).deletedAt = code.deletedAt ∧
        (op.changes code).deletedByBatch = code.deletedByBatch) ∨
      (∃ codeId reason now, op = .deleteCode codeId reason now) ∨
      (∃ codeId reason, op = .unarchiveCode codeId reason) ∨
      (∃ batchId reason now, op = .deleteBatch batchId reason now) ∨
      ∃ batchId reason, op = .unarchiveBatch batchId reason := by
  cases op with
  | deleteCode => exact .inr (.inl ⟨_, _, _, rfl⟩)
  | unarchiveCode => exact .inr (.inr (.inl ⟨_, _, rfl⟩))
  | deleteBatch => exact .inr (.inr (.inr (.inl ⟨_, _, _, rfl⟩)))
  | unarchiveBatch => exact .inr (.inr (.inr (.inr ⟨_, _, rfl⟩)))
  | _ => exact .inl ⟨rfl, rfl⟩

theorem notes_archived (op : StockOp) (held : (op.notes codeId becomes history).archived = true) :
    history.archived = true ∨ ∃ reason now, op = .deleteCode codeId reason now := by
  cases op with
  | deleteCode id reason now =>
    by_cases same : id = codeId
    · subst same
      exact .inr ⟨reason, now, rfl⟩
    · exact .inl (by simpa [StockOp.notes, same] using held)
  | revokeCode id | restoreCode id =>
    refine .inl ?_
    simp only [StockOp.notes] at held
    split at held <;> exact held
  | unarchiveCode id =>
    refine .inl ?_
    simp only [StockOp.notes] at held
    split at held
    · cases held
    · exact held
  | _ => exact .inl held

theorem Shelved.moves (shelved : Shelved history old) (isCode : old.id = codeId)
    (moves : op.MovesTo old new) (spares : ∀ reason now, op = .deleteCode old.id reason now →
      ¬(old.deletedAt.isSome = true ∧ old.deletedByBatch = true)) :
    Shelved (op.notes codeId becomes history) new := by
  intro held
  cases moves with
  | inr kept =>
    obtain ⟨⟨batchId, reason, now, rfl⟩, rfl⟩ := kept
    exact shelved held
  | inl same =>
    subst same
    cases sel : op.selects old with
    | false =>
      rw [effect_of_not sel]
      cases notes_archived op held with
      | inl pre => exact shelved pre
      | inr archiving =>
        obtain ⟨reason, now, rfl⟩ := archiving
        have gone : old.deletedAt.isSome = true := by
          simpa [StockOp.selects, isCode, Option.isSome_iff_ne_none] using sel
        refine ⟨gone, ?_⟩
        rw [← isCode] at spares
        exact Bool.eq_false_iff.mpr fun flag => spares reason now rfl ⟨gone, flag⟩
    | true =>
      rw [effect_of_selects sel]
      rcases changes_archive op old with kept | ⟨id, reason, now, rfl⟩ | ⟨id, reason, rfl⟩ |
        ⟨batchId, reason, now, rfl⟩ | ⟨batchId, reason, rfl⟩
      · rw [kept.1, kept.2]
        cases notes_archived op held with
        | inl pre => exact shelved pre
        | inr archiving =>
          obtain ⟨reason, now, rfl⟩ := archiving
          cases kept.1.trans (Option.isNone_iff_eq_none.mp (by
            simp only [StockOp.selects, Bool.and_eq_true] at sel
            exact sel.2))
      · exact ⟨rfl, rfl⟩
      · simp only [StockOp.selects, Bool.and_eq_true, beq_iff_eq] at sel
        simp [StockOp.notes, sel.1.symm.trans isCode] at held
      · have pre := (shelved held).1
        simp only [StockOp.selects, Bool.and_eq_true] at sel
        simp [Option.isNone_iff_eq_none.mp sel.2] at pre
      · have pre := (shelved held).2
        simp only [StockOp.selects, Bool.and_eq_true] at sel
        simp [sel.2] at pre

/-! ## Activated codes -/

theorem activated_moves (moves : op.MovesTo old new) (activated : old.status = .activated) :
    new.status = .activated := by
  cases moves with
  | inr kept =>
    rw [kept.2]
    exact activated
  | inl same =>
    subst same
    unfold StockOp.effect
    split
    · rename_i sel
      cases op with
      | deleteCode | deleteBatch => simp [StockOp.changes, archived, activated]
      | unarchiveCode | unarchiveBatch => exact activated
      | consumeCode => simp [StockOp.changes]
      | _ => simp [StockOp.selects, activated] at sel
    · exact activated

end

/-! ## Runs -/

section

variable {s t : StockDatabase} {codeId : Nat} {history : History}

theorem statusOf_of_mem (mem : code ∈ s.codes) : statusOf code.id s = some code.status := by
  rw [statusOf, lookup_of_mem s.codeKeys mem]
  rfl

theorem mem_of_statusOf {status : CodeStatus} (h : statusOf codeId s = some status) :
    ∃ code ∈ s.codes, code.id = codeId ∧ code.status = status := by
  obtain ⟨code, found, same⟩ := Option.map_eq_some_iff.mp h
  exact ⟨code, (lookup_key found).1, (lookup_key found).2, same⟩

theorem becomesRevoked_iff {old new : LicenseCode} (mem : old ∈ s.codes) (member' : new ∈ t.codes)
    (same : new.id = old.id) : becomesRevoked old.id s t = true ↔
      old.status ≠ .revoked ∧ new.status = .revoked := by
  have later := statusOf_of_mem member'
  rw [same] at later
  simp [becomesRevoked, statusOf_of_mem mem, later]

/-- What is remembered of a code agrees with its columns. -/
structure Remembers (codeId : Nat) (s : StockDatabase) (history : History) : Prop where
  marked : ∀ code ∈ s.codes, code.id = codeId → Marked history code
  absent : (∀ code ∈ s.codes, code.id ≠ codeId) → history = {}

theorem marked_new (status : code.status = .issued) : Marked {} code :=
  .released rfl (by simp [status])

theorem notes_of_absent (h : Succeeds op s t) (absent : ∀ code ∈ s.codes, code.id ≠ codeId) :
    op.notes codeId (becomesRevoked codeId s t) history = history := by
  have unchanged : becomesRevoked codeId s t = false := by
    rw [Bool.eq_false_iff]
    intro becomes
    simp only [becomesRevoked, Bool.and_eq_true, decide_eq_true_eq] at becomes
    obtain ⟨new, inNew, rfl, status⟩ := mem_of_statusOf becomes.2
    cases h.origin inNew with
    | inl moved =>
      obtain ⟨old, inOld, moves⟩ := moved
      exact absent old inOld moves.id.symm
    | inr fresh => simp [status] at fresh
  rw [unchanged]
  have elsewhere : op.target ≠ some codeId := by
    intro isTarget
    obtain ⟨code, mem, same, -⟩ := h.target codeId isTarget
    exact absent code mem same
  cases op with
  | revokeCode | restoreCode | deleteCode | unarchiveCode =>
    rw [StockOp.target, Ne, Option.some_inj] at elsewhere
    simp [StockOp.notes, elsewhere]
  | _ => simp [StockOp.notes]

theorem Succeeds.target_of_mem (h : Succeeds op s t) (mem : code ∈ s.codes)
    (isTarget : op.target = some code.id) :
    op.selects code = true ∨ code.deletedAt.isSome = true ∧
      ∃ reason now, op = .deleteCode code.id reason now := by
  obtain ⟨other, hrow, same, sel⟩ := h.target code.id isTarget
  rwa [code_unique mem hrow same] at sel

theorem Remembers.succeeds (inv : Remembers codeId s history) (h : Succeeds op s t) :
    Remembers codeId t (op.notes codeId (becomesRevoked codeId s t) history) := by
  constructor
  · intro new mem isCode
    cases h.origin mem with
    | inl moved =>
      obtain ⟨old, inOld, moves⟩ := moved
      have same : old.id = codeId := moves.id.symm.trans isCode
      subst same
      exact (inv.marked old inOld rfl).moves rfl moves (h.target_of_mem inOld)
        (becomesRevoked_iff inOld mem moves.id)
    | inr fresh =>
      have absent : ∀ old ∈ s.codes, old.id ≠ codeId := by
        rw [← isCode]
        exact fresh.1
      rw [notes_of_absent h absent, inv.absent absent]
      exact marked_new fresh.2.1
  · intro gone
    have absent : ∀ old ∈ s.codes, old.id ≠ codeId := by
      intro old mem same
      obtain ⟨new, inNew, moves⟩ := h.later mem
      exact gone new inNew (moves.id.trans same)
    rw [notes_of_absent h absent, inv.absent absent]

theorem remembers_step (inv : Remembers codeId s history) (op : StockOp) :
    Remembers codeId (stockStep s op).1 (note codeId history s op (stockStep s op)) := by
  cases stockStep_cases s op with
  | inl refused =>
    obtain ⟨error, same⟩ := refused
    rw [same]
    exact inv
  | inr done =>
    obtain ⟨reply, t, same, h⟩ := done
    rw [same]
    exact inv.succeeds h

theorem historyOf_concat (ops : List StockOp) (op : StockOp) : historyOf codeId (ops ++ [op]) =
    note codeId (historyOf codeId ops) (stock ops) op (stockStep (stock ops) op) := by
  rw [historyOf, exec_append]
  change note codeId _ (exec (observed stockStep (note codeId)) ({}, {}) ops).1 op _ = _
  rw [exec_observed]
  rfl

theorem stock_concat (ops : List StockOp) (op : StockOp) :
    stock (ops ++ [op]) = (stockStep (stock ops) op).1 := by
  rw [stock, exec_append]
  rfl

theorem stock_remembers (codeId : Nat) (ops : List StockOp) :
    Remembers codeId (stock ops) (historyOf codeId ops) := by
  induction ops using List.reverseRecOn with
  | nil => exact ⟨by simp [stock], fun _ => rfl⟩
  | append_singleton ops op ih =>
    rw [stock_concat, historyOf_concat]
    exact remembers_step ih op

/-- No request archives the code while it is archived with its batch. -/
def SparesArchived (codeId : Nat) (ops : List StockOp) : Prop :=
  ∀ earlier op later, ops = earlier ++ op :: later →
    ∀ code ∈ (stock earlier).codes, code.id = codeId → op.Spares code

theorem SparesArchived.init {ops : List StockOp} (spares : SparesArchived codeId (ops ++ [op])) :
    SparesArchived codeId ops := by
  intro old first later split
  exact spares old first (later ++ [op]) (by rw [split, List.append_assoc, List.cons_append])

theorem stock_shelved {ops : List StockOp} (spares : SparesArchived codeId ops) :
    ∀ code ∈ (stock ops).codes, code.id = codeId → Shelved (historyOf codeId ops) code := by
  induction ops using List.reverseRecOn with
  | nil => simp [stock]
  | append_singleton ops op ih =>
    have pre := ih spares.init
    have spared := spares ops op [] rfl
    rw [stock_concat, historyOf_concat]
    cases stockStep_cases (stock ops) op with
    | inl refused =>
      obtain ⟨error, same⟩ := refused
      rw [same]
      exact pre
    | inr done =>
      obtain ⟨reply, t, ran, h⟩ := done
      rw [ran]
      intro new mem isCode
      cases h.origin mem with
      | inl moved =>
        obtain ⟨old, inOld, moves⟩ := moved
        have same : old.id = codeId := moves.id.symm.trans isCode
        refine (pre old inOld same).moves same moves ?_
        rintro reason now rfl
        exact spared old inOld same reason now rfl (deleteCode_fits ran)
      | inr fresh =>
        have absent : ∀ old ∈ (stock ops).codes, old.id ≠ codeId := by
          rw [← isCode]
          exact fresh.1
        dsimp only [note]
        rw [notes_of_absent h absent, (stock_remembers codeId ops).absent absent]
        intro no
        cases no

theorem activated_stays (mem : code ∈ s.codes) (activated : code.status = .activated)
    (later : List StockOp) :
    ∃ new ∈ (exec stockStep s later).codes, new.id = code.id ∧ new.status = .activated := by
  apply exec_invariant (P := fun t => ∃ new ∈ t.codes, new.id = code.id ∧ new.status = .activated)
    stockStep ⟨code, mem, rfl, activated⟩
  rintro t op ⟨old, inOld, sameId, isActivated⟩
  cases stockStep_cases t op with
  | inl refused =>
    obtain ⟨error, same⟩ := refused
    rw [same]
    exact ⟨old, inOld, sameId, isActivated⟩
  | inr done =>
    obtain ⟨reply, u, same, h⟩ := done
    rw [same]
    obtain ⟨new, inNew, moves⟩ := h.later inOld
    exact ⟨new, inNew, moves.id.trans sameId, activated_moves moves isActivated⟩

/-! ## Restoring a batch -/

theorem updateCodes_succeeds {cond : LicenseCode → Bool} {chg : LicenseCode → LicenseCode}
    (keys : ∀ code, (chg code).id = code.id)
    (hc : ∀ code ∈ s.codes, cond code = true → (chg code).Checks) :
    ∃ t, (updateCodes cond chg).run s = .ok (rowcount cond s.codes, t) := by
  have holds : ((update cond chg s.codes).map LicenseCode.id).Nodup ∧
      ∀ code ∈ update cond chg s.codes, code.Checks := by
    constructor
    · rw [map_update fun code _ _ => keys code]
      exact s.codeKeys
    · intro code mem
      cases mem_update mem with
      | inl kept => exact s.codeChecks code kept.1
      | inr replaced =>
        obtain ⟨old, inOld, sel, rfl⟩ := replaced
        exact hc old inOld sel
  refine ⟨⟨s.batches, _, s.challenges, s.batchKeys, holds.1, holds.2⟩, ?_⟩
  unfold updateCodes writeCodes
  rw [get_ok, bind_ok]
  refine ⟨(), _, ?_, rfl⟩
  rw [get_ok, dif_pos holds]
  rfl

theorem updateBatches_succeeds {batchId : Nat} {chg : LicenseBatch → LicenseBatch}
    (keys : ∀ row, (chg row).id = row.id) :
    ∃ t, (updateBatches batchId chg).run s = .ok ((), t) := by
  have holds : ((update (fun row => row.id == batchId) chg s.batches).map
      LicenseBatch.id).Nodup := by
    rw [map_update fun row _ _ => keys row]
    exact s.batchKeys
  refine ⟨⟨_, s.codes, s.challenges, holds, s.codeKeys, s.codeChecks⟩, ?_⟩
  unfold updateBatches writeBatches
  rw [get_ok, get_ok, dif_pos holds]
  rfl

theorem restoreBatch_succeeds_iff :
    (∃ reply, (stockStep s (.restoreBatch batchId reason now)).2 = .ok reply) ↔
      0 < batchId ∧ (2 ≤ (strip reason).length ∧ (strip reason).length ≤ 200) ∧
        ∃ batch ∈ s.batches, batch.id = batchId ∧ batch.deletedAt = none := by
  constructor
  · rintro ⟨reply, ans⟩
    cases atomically_cases (StockOp.restoreBatch batchId reason now).body s with
    | inl done =>
      obtain ⟨_, t, h, -⟩ := done
      change (restoreBatch batchId reason now).run s = _ at h
      unfold restoreBatch requirePositiveId requireNotDeleted at h
      rw [require_ok, safeReason_ok, batchRow_ok] at h
      obtain ⟨positive, fits, batch, mem, key, h⟩ := h
      rw [require_ok] at h
      exact ⟨positive, fits, batch, mem, key, h.1⟩
    | inr failed =>
      obtain ⟨error, same⟩ := failed
      rw [stockStep, same] at ans
      cases ans
  · rintro ⟨positive, fits, batch, mem, key, isOpen⟩
    let selects := (StockOp.restoreBatch batchId reason now).selects
    obtain ⟨u, updating⟩ := @updateCodes_succeeds s selects restored (fun _ => rfl) (by
      intro code inRows sel
      have checks := s.codeChecks code inRows
      simp only [selects, StockOp.selects, Bool.and_eq_true, decide_eq_true_eq] at sel
      simp only [LicenseCode.Checks, restored, sel] at checks ⊢
      simpa using checks)
    obtain ⟨v, batches⟩ := @updateBatches_succeeds u batchId (fun row => { row with
      status := .active
      revokedAt := none
      revokeReason := [] }) (fun _ => rfl)
    have ran : (restoreBatch batchId reason now).run s = .ok (.restoredBatch batchId
        (decide (batch.status ≠ .active) || rowcount selects s.codes != 0)
        (rowcount selects s.codes), v) := by
      unfold restoreBatch requirePositiveId requireNotDeleted
      rw [require_ok, safeReason_ok, batchRow_ok]
      refine ⟨positive, fits, batch, mem, key, ?_⟩
      rw [require_ok, bind_ok]
      refine ⟨isOpen, _, u, updating, ?_⟩
      rw [bind_ok]
      exact ⟨(), v, batches, rfl⟩
    exact ⟨_, congrArg Prod.snd (atomically_of_ok ran)⟩

/-- Restoring a batch puts back the codes it selects. -/
theorem restoreBatch_restores
    (ans : (stockStep s (.restoreBatch batchId reason now)).2 = .ok reply)
    (mem : code ∈ s.codes) :
    (code.status ≠ .issued ∧ ∃ new ∈ (stockStep s (.restoreBatch batchId reason now)).1.codes,
        new.id = code.id ∧ new.status = .issued) ↔
      code.batchId = batchId ∧ code.status = .revoked ∧ code.revokedByBatch = true ∧
        code.deletedAt = none ∧ isUnexpired now code = true := by
  cases stockStep_cases s (.restoreBatch batchId reason now) with
  | inl refused =>
    obtain ⟨error, same⟩ := refused
    rw [same] at ans
    cases ans
  | inr done =>
    obtain ⟨_, t, same, h⟩ := done
    rw [same]
    have isSelected : (StockOp.restoreBatch batchId reason now).selects code = true ↔
        code.batchId = batchId ∧ code.status = .revoked ∧ code.revokedByBatch = true ∧
          code.deletedAt = none ∧ isUnexpired now code = true := by
      simp [StockOp.selects, and_assoc]
    have effect {new : LicenseCode}
        (moves : (StockOp.restoreBatch batchId reason now).MovesTo code new) :
        new = (StockOp.restoreBatch batchId reason now).effect code := by
      cases moves with
      | inl made => exact made
      | inr kept =>
        obtain ⟨⟨_, _, _, no⟩, -⟩ := kept
        cases no
    rw [← isSelected]
    constructor
    · rintro ⟨unissued, new, inNew, sameId, issued⟩
      rw [effect (h.moves mem inNew sameId)] at issued
      by_contra unselected
      rw [effect_of_not (Bool.eq_false_iff.mpr unselected)] at issued
      exact unissued issued
    · intro sel
      refine ⟨by simp [(isSelected.mp sel).2.1], ?_⟩
      obtain ⟨new, inNew, moves⟩ := h.later mem
      refine ⟨new, inNew, moves.id, ?_⟩
      rw [effect moves, effect_of_selects sel]
      rfl

/-- A code that was revoked by itself stays revoked, and one that was archived by itself stays
    archived unless it was archived with its batch at that time. An activated code stays
    activated. Restoring a batch puts back its unexpired codes that are not archived and that the
    batch revoked last. -/
theorem codes_stay_held (ops : List StockOp) :
    (∀ codeId, (historyOf codeId ops).revoked = true → ∀ code ∈ (stock ops).codes,
        code.id = codeId → code.status ≠ .issued) ∧
      (∀ codeId, SparesArchived codeId ops → (historyOf codeId ops).archived = true →
        ∀ code ∈ (stock ops).codes, code.id = codeId → code.deletedAt ≠ none) ∧
      (∀ later, ∀ code ∈ (stock ops).codes, code.status = .activated →
        ∀ new ∈ (stock (ops ++ later)).codes, new.id = code.id → new.status = .activated) ∧
      ∀ batchId reason now, let after := stockStep (stock ops) (.restoreBatch batchId reason now)
        ((∃ reply, after.2 = .ok reply) ↔
          0 < batchId ∧ (2 ≤ (strip reason).length ∧ (strip reason).length ≤ 200) ∧
            ∃ batch ∈ (stock ops).batches, batch.id = batchId ∧ batch.deletedAt = none) ∧
        ((∃ reply, after.2 = .ok reply) → ∀ code ∈ (stock ops).codes,
          ((code.status ≠ .issued ∧
              ∃ new ∈ after.1.codes, new.id = code.id ∧ new.status = .issued) ↔
            code.batchId = batchId ∧ code.status = .revoked ∧
              (historyOf code.id ops).lastRevocation = some .batch ∧ code.deletedAt = none ∧
              isUnexpired now code = true)) := by
  refine ⟨?_, ?_, ?_, ?_⟩
  · intro codeId held code member isCode
    have isRevoked := (((stock_remembers codeId ops).marked code member isCode).held held).1
    simp [isRevoked]
  · intro codeId spares held code member isCode
    exact Option.isSome_iff_ne_none.mp (stock_shelved spares code member isCode held).1
  · intro later code member activated new inNew sameId
    have there : stock (ops ++ later) = exec stockStep (stock ops) later := exec_append _ _ _ _
    rw [there] at inNew
    obtain ⟨other, inOther, sameId', isActivated⟩ := activated_stays member activated later
    rwa [code_unique inOther inNew (sameId.trans sameId'.symm)]
  · intro batchId reason now after
    refine ⟨restoreBatch_succeeds_iff, ?_⟩
    rintro ⟨reply, answered⟩ code member
    rw [restoreBatch_restores answered member]
    have marked := (stock_remembers code.id ops).marked code member rfl
    constructor
    · rintro ⟨inBatch, isRevoked, byBatch, rest⟩
      exact ⟨inBatch, isRevoked, (marked.last isRevoked).mpr byBatch, rest⟩
    · rintro ⟨inBatch, isRevoked, byBatch, rest⟩
      exact ⟨inBatch, isRevoked, (marked.last isRevoked).mp byBatch, rest⟩

/-- A code is archived with its batch and then by itself, and the batch is put back. -/
def archivedTwice : List StockOp :=
  [.issueBatch [] none 1, .deleteBatch 1 [97, 97] 0, .deleteCode 1 [97, 97] 0,
    .unarchiveBatch 1 [97, 97], .restoreBatch 1 [97, 97] 0]

/-- A code that was archived by itself is issued again by its batch. -/
theorem archivedTwice_returns : ¬((historyOf 1 archivedTwice).archived = true →
    ∀ code ∈ (stock archivedTwice).codes, code.id = 1 →
      ¬(code.status = .issued ∧ code.deletedAt = none)) := by
  decide +kernel

end

end VisionForge.Server.CodeLifecycle
