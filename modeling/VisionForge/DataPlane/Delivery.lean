import VisionForge.DataPlane.Channel
import VisionForge.DataPlane.ControlRecordV1
import VisionForge.DataPlane.PacketV2

/-! # Exactly-once delivery of packets and control records -/

namespace VisionForge.DataPlane

open PacketV2 ControlRecordV1 Lib.Run

def packetFormat : RecordFormat AuthenticatedPacketTuple Unit PacketSealResult PacketOpenResult where
  maximumCounter := kMaximumAuthenticatedPacketCounter
  «seal» := fun sealer _ attempt => AuthenticatedPacketSealer.seal sealer attempt
  «open» := AuthenticatedPacketOpener.open
  sealedRecord := PacketSealResult.record
  openedRecord := PacketOpenResult.record

def controlFormat : RecordFormat AuthenticatedControlTupleV1 ControlMessageTypeV1
    ControlRecordSealResultV1 ControlRecordOpenResultV1 where
  maximumCounter := kMaximumAuthenticatedControlCounter
  «seal» := AuthenticatedControlRecordSealerV1.seal
  «open» := AuthenticatedControlRecordOpenerV1.open
  sealedRecord := ControlRecordSealResultV1.record
  openedRecord := ControlRecordOpenResultV1.record

theorem packetFormat_lawful :
    Lawful packetFormat (fun tuple _ ctr size => PacketV2.encodeHeader tuple ctr size)
      PacketV2.headerFields where
  small := by decide
  seals := by
    intro sealer _ attempt
    exact PacketV2.seal_sealsRecord sealer attempt
  opens := PacketV2.open_opensRecord
  read := by
    intro tuple _ ctr size rest bounded
    have small : packetFormat.maximumCounter < 2 ^ 64 := by decide
    exact PacketV2.headerFields_encodeHeader tuple size rest (by omega)

theorem controlFormat_lawful :
    Lawful controlFormat ControlRecordV1.encodeHeader ControlRecordV1.headerFields where
  small := by decide
  seals := ControlRecordV1.seal_sealsRecord
  opens := ControlRecordV1.open_opensRecord
  read := by
    intro tuple messageType ctr size rest bounded
    have small : controlFormat.maximumCounter < 2 ^ 64 := by decide
    exact ControlRecordV1.headerFields_encodeHeader tuple messageType size rest (by omega)

def packetLink (sealKey openKey : TrafficKey AuthenticatedPacketTuple)
    (sealerImports openerImports : Bool) : Link AuthenticatedPacketTuple where
  sealer := AuthenticatedPacketSealer.new sealKey sealerImports
  opener := AuthenticatedPacketOpener.new openKey openerImports

def controlLink (sealKey openKey : TrafficKey AuthenticatedControlTupleV1)
    (sealerImports openerImports : Bool) : Link AuthenticatedControlTupleV1 where
  sealer := AuthenticatedControlRecordSealerV1.new sealKey sealerImports
  opener := AuthenticatedControlRecordOpenerV1.new openKey openerImports

/-- Over an ideal provider, whatever key material the two ends are given and whatever the
    channel reorders, repeats, drops, cuts or injects. -/
theorem records_are_delivered_exactly_once (sealerImports openerImports : Bool) :
    (∀ (sealKey openKey : TrafficKey AuthenticatedPacketTuple) (ops : List (LinkOp Unit)),
      ExactlyOnce packetFormat (packetLink sealKey openKey sealerImports openerImports) ops) ∧
    (∀ (sealKey openKey : TrafficKey AuthenticatedControlTupleV1)
      (ops : List (LinkOp ControlMessageTypeV1)),
      ExactlyOnce controlFormat (controlLink sealKey openKey sealerImports openerImports) ops) := by
  constructor
  · intro sealKey openKey ops
    exact exactlyOnce_of_lawful packetFormat_lawful rfl rfl rfl rfl ops
  · intro sealKey openKey ops
    exact exactlyOnce_of_lawful controlFormat_lawful rfl rfl rfl rfl ops

/-! ## Nonces are used once

A run of a sealer is any sequence of requests, with any outcome of the allocations and
of the provider. The calls it makes use the counters from zero on, one each.
-/

open Lib.Ascii

section

variable {τ ι ο : Type}

def encryptCalls (history : List (ι × ο × Option EncryptCall)) : List EncryptCall :=
  history.filterMap (fun answered => answered.2.2)

theorem burnt_run {sealStep : Sealer τ → ι → Sealer τ × ο × Option EncryptCall}
    {maximumCounter : Nat}
    (seals : ∀ sealer req,
      Seals maximumCounter sealer (sealStep sealer req).1 (sealStep sealer req).2.2)
    {start : Sealer τ} (ctr : start.nextCounter = 0)
    (available : start.counterAvailable = true) (requests : List ι) :
    Burnt maximumCounter start (encryptCalls (trace sealStep start requests))
      (exec sealStep start requests) := by
  refine @history_invariant _ _ _ sealStep
    (fun hist sealer => Burnt maximumCounter start (encryptCalls hist) sealer) _ ?_ ?_
    requests
  · exact burnt_start ctr available
  · intro hist sealer req burnt
    have next := burnt.step (seals sealer req)
    have calls : encryptCalls (hist ++ [(req, (sealStep sealer req).2)]) =
        encryptCalls hist ++ (sealStep sealer req).2.2.toList := by
      unfold encryptCalls
      cases called : (sealStep sealer req).2.2 with
      | none => simp [called]
      | some call => simp [called]
    rw [calls]
    exact next

/-- One run of a sealer uses no nonce twice and no counter beyond the limit, and once
    the last counter is used it refuses every request without a call. -/
structure SpendsNonces (sealStep : Sealer τ → ι → Sealer τ × ο × Option EncryptCall)
    (Refused : ο → Prop) (maximumCounter : Nat) (start : Sealer τ) (requests : List ι) :
    Prop where
  once : ((encryptCalls (trace sealStep start requests)).map
    (fun call => (call.key, call.nonce))).Nodup
  counters : ∀ index call, (encryptCalls (trace sealStep start requests))[index]? = some call →
    call.nonce = composeNonce start.noncePrefix index ∧ index ≤ maximumCounter
  refuses : maximumCounter < (encryptCalls (trace sealStep start requests)).length →
    ∀ request, ∃ answer, Refused answer ∧
      sealStep (exec sealStep start requests) request = (exec sealStep start requests, answer, none)

theorem spendsNonces_of_seals {sealStep : Sealer τ → ι → Sealer τ × ο × Option EncryptCall}
    {Refused : ο → Prop} {maximumCounter : Nat} (small : maximumCounter < 2 ^ 64)
    (seals : ∀ sealer req,
      Seals maximumCounter sealer (sealStep sealer req).1 (sealStep sealer req).2.2)
    (refuses : ∀ sealer : Sealer τ, sealer.counterAvailable = false → ∀ req,
      ∃ ans, Refused ans ∧ sealStep sealer req = (sealer, ans, none))
    {start : Sealer τ} (ctr : start.nextCounter = 0)
    (available : start.counterAvailable = true) (requests : List ι) :
    SpendsNonces sealStep Refused maximumCounter start requests := by
  have burnt := burnt_run seals ctr available requests
  refine ⟨burnt.nodup small, ?_, ?_⟩
  · intro index call found
    have hin := (List.getElem?_eq_some_iff.mp found).1
    constructor
    · have nonces := congrArg (fun nonces => nonces[index]?) burnt.nonces
      simp only [List.getElem?_map, found, List.getElem?_range hin, Option.map_some,
        Option.some.injEq] at nonces
      exact nonces
    · have few := burnt.length_le
      omega
  · intro spent
    apply refuses
    cases isAvailable : (exec sealStep start requests).counterAvailable with
    | false => rfl
    | true =>
      obtain ⟨counted, bounded⟩ := burnt.available isAvailable
      omega

end

namespace PacketV2.AuthenticatedPacketSealer

theorem seal_exhausted {sealer : AuthenticatedPacketSealer}
    (hexh : sealer.counterAvailable = false) (attempt : SealAttempt) :
    ∃ ans : PacketSealResult, (ans.status ≠ .sealed ∧ ans.datagram = []) ∧
      «seal» sealer attempt = (sealer, ans, none) := by
  unfold «seal»
  rw [hexh]
  split
  · exact ⟨{}, ⟨by decide, rfl⟩, rfl⟩
  split
  · exact ⟨{}, ⟨by decide, rfl⟩, rfl⟩
  split
  · exact ⟨{ status := .plaintextTooLarge }, ⟨by decide, rfl⟩, rfl⟩
  · exact ⟨{ status := .counterExhausted }, ⟨by decide, rfl⟩, rfl⟩

end PacketV2.AuthenticatedPacketSealer

namespace ControlRecordV1.AuthenticatedControlRecordSealerV1

def sealRequest (sealer : AuthenticatedControlRecordSealerV1)
    (request : ControlMessageTypeV1 × SealAttempt) :
    AuthenticatedControlRecordSealerV1 × ControlRecordSealResultV1 × Option EncryptCall :=
  «seal» sealer request.1 request.2

theorem seal_exhausted {sealer : AuthenticatedControlRecordSealerV1}
    (hexh : sealer.counterAvailable = false) (messageType : ControlMessageTypeV1)
    (attempt : SealAttempt) :
    ∃ ans : ControlRecordSealResultV1, (ans.status ≠ .sealed ∧ ans.envelope = []) ∧
      «seal» sealer messageType attempt = (sealer, ans, none) := by
  unfold «seal»
  rw [hexh]
  split
  · exact ⟨{}, ⟨by decide, rfl⟩, rfl⟩
  split
  · exact ⟨{}, ⟨by decide, rfl⟩, rfl⟩
  split
  · exact ⟨{ status := .invalidMessageType }, ⟨by decide, rfl⟩, rfl⟩
  split
  · exact ⟨{ status := .plaintextTooLarge }, ⟨by decide, rfl⟩, rfl⟩
  · exact ⟨{ status := .counterExhausted }, ⟨by decide, rfl⟩, rfl⟩

end ControlRecordV1.AuthenticatedControlRecordSealerV1

open PacketV2 ControlRecordV1

/-- Whatever the key material, the requests and the failures of the provider, neither
    sealer hands the provider one nonce twice under a key. -/
theorem sealers_spend_each_nonce_once (imports : Bool) :
    (∀ (trafficKey : TrafficKey AuthenticatedPacketTuple) (attempts : List SealAttempt),
      SpendsNonces AuthenticatedPacketSealer.seal
        (fun answer => answer.status ≠ .sealed ∧ answer.datagram = []) (2 ^ 23 - 1)
        (AuthenticatedPacketSealer.new trafficKey imports) attempts) ∧
    (∀ (trafficKey : TrafficKey AuthenticatedControlTupleV1)
      (requests : List (ControlMessageTypeV1 × SealAttempt)),
      SpendsNonces AuthenticatedControlRecordSealerV1.sealRequest
        (fun answer => answer.status ≠ .sealed ∧ answer.envelope = []) (2 ^ 23 - 1)
        (AuthenticatedControlRecordSealerV1.new trafficKey imports) requests) := by
  constructor
  · intro trafficKey attempts
    apply spendsNonces_of_seals (by decide)
    · intro sealer attempt
      exact (PacketV2.seal_sealsRecord sealer attempt).seals_nonce
    · intro sealer exhausted attempt
      exact AuthenticatedPacketSealer.seal_exhausted exhausted attempt
    · rfl
    · rfl
  · intro trafficKey requests
    apply spendsNonces_of_seals (by decide)
    · intro sealer request
      exact (ControlRecordV1.seal_sealsRecord sealer request.1 request.2).seals_nonce
    · intro sealer exhausted request
      exact AuthenticatedControlRecordSealerV1.seal_exhausted exhausted request.1 request.2
    · rfl
    · rfl

end VisionForge.DataPlane
