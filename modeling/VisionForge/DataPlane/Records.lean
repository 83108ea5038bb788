import VisionForge.DataPlane.ReplayWindow
import VisionForge.Lib.BigEndian
import VisionForge.Lib.Checks

/-! # Records under a counter

What the packets of the data plane and the records of the control channel have in
common: a sealer that burns one counter for every call of the AEAD provider, and an
opener that commits a counter only after the provider has authenticated it.

The provider is not part of the program. What it writes is an argument of the call
that uses it.
-/

namespace VisionForge.DataPlane

open Lib.Ascii Lib.BigEndian

def kGcmNoncePrefixBytes : Nat := 4
def kGcmTagBytes : Nat := 16
def kAes256KeyBytes : Nat := 32

structure TrafficKey (τ : Type) where
  tuple : τ
  aes256Key : Bytes
  noncePrefix : Bytes
  keyBytes : aes256Key.length = kAes256KeyBytes
  prefixBytes : noncePrefix.length = kGcmNoncePrefixBytes

def composeNonce (noncePrefix : Bytes) (counter : Nat) : Bytes := noncePrefix ++ store 8 counter

structure EncryptCall where
  key : Bytes
  nonce : Bytes
  authenticatedData : Bytes
  plaintext : Bytes
  deriving DecidableEq

/-- One request to seal: whether the buffer can be allocated, and the octets the provider
    writes behind the header, unless it fails. -/
structure SealAttempt where
  plaintext : Bytes
  allocates : Bool
  output : Option (Nat → UInt8)

structure Sealer (τ : Type) where
  tuple : τ
  noncePrefix : Bytes
  /-- The imported key. -/
  cipher : Option Bytes
  nextCounter : Nat := 0
  counterAvailable : Bool := true

/-- How a call that reached the buffer ends. -/
inductive SealEnd where
  | allocationFailed
  | encryptionFailed
  | sealed
  deriving DecidableEq

def writtenCiphertext (output : Nat → UInt8) (size : Nat) : Bytes := (List.range size).map output

def writtenTag (output : Nat → UInt8) (size : Nat) : Bytes :=
  (List.range kGcmTagBytes).map (fun index => output (size + index))

namespace Sealer

variable {τ : Type}

/-- A provider that does not import the key leaves no cipher, and so does an invalid
    tuple. -/
def new (trafficKey : TrafficKey τ) (tupleValid imports : Bool) : Sealer τ where
  tuple := trafficKey.tuple
  noncePrefix := trafficKey.noncePrefix
  cipher := if tupleValid && imports then some trafficKey.aes256Key else none

def burn (sealer : Sealer τ) (maximumCounter : Nat) : Sealer τ :=
  if sealer.nextCounter = maximumCounter then { sealer with counterAvailable := false }
  else { sealer with nextCounter := sealer.nextCounter + 1 }

structure Sealing (τ : Type) where
  sealer : Sealer τ
  ending : SealEnd
  counter : Nat := 0
  record : Bytes := []
  call : Option EncryptCall := none

def Sealing.sealed (sealing : Sealing τ) : Option (Nat × Bytes) :=
  if sealing.ending = .sealed then some (sealing.counter, sealing.record) else none

def encryptCall (sealer : Sealer τ) (key : Bytes) (header : Nat → Bytes) (attempt : SealAttempt) :
    EncryptCall where
  key := key
  nonce := composeNonce sealer.noncePrefix sealer.nextCounter
  authenticatedData := header sealer.nextCounter
  plaintext := attempt.plaintext

/-- The part of sealing after the checks: allocate, write the header, burn, encrypt. -/
def encryptNext (sealer : Sealer τ) (key : Bytes) (header : Nat → Bytes) (maximumCounter : Nat)
    (attempt : SealAttempt) : Sealing τ :=
  let counter := sealer.nextCounter
  if !attempt.allocates then { sealer := sealer, ending := .allocationFailed }
  else
    let size := attempt.plaintext.length
    let call := sealer.encryptCall key header attempt
    match attempt.output with
    | none =>
      { sealer := sealer.burn maximumCounter
        ending := .encryptionFailed
        counter := counter
        call := some call }
    | some output =>
      { sealer := sealer.burn maximumCounter
        ending := .sealed
        counter := counter
        record := header counter ++ (writtenCiphertext output size ++ writtenTag output size)
        call := some call }

end Sealer

structure DecryptCall where
  key : Bytes
  nonce : Bytes
  authenticatedData : Bytes
  ciphertext : Bytes
  tag : Bytes
  deriving DecidableEq

structure Opener (τ : Type) where
  tuple : τ
  noncePrefix : Bytes
  cipher : Option Bytes
  replayWindow : SlidingReplayWindow1024 := {}

def Opener.new {τ : Type} (trafficKey : TrafficKey τ) (tupleValid imports : Bool) : Opener τ where
  tuple := trafficKey.tuple
  noncePrefix := trafficKey.noncePrefix
  cipher := if tupleValid && imports then some trafficKey.aes256Key else none

theorem split_record {record : Bytes} {headerSize size tagSize : Nat}
    (length : record.length = headerSize + size + tagSize) :
    record = record.take headerSize ++
      ((record.drop headerSize).take size ++ record.drop (record.length - tagSize)) := by
  have tagStart : record.length - tagSize = headerSize + size := by omega
  rw [tagStart, ← List.drop_drop, List.take_append_drop, List.take_append_drop]

inductive OpensRecord {τ κ : Type} (maximumCounter : Nat) (reads : Bytes → τ × κ × Nat)
    (opener : Opener τ) (decrypt : DecryptCall → Option Bytes) (datagram : Bytes) :
    Opener τ → Option (κ × Nat × Bytes) → Prop where
  | rejected : OpensRecord maximumCounter reads opener decrypt datagram opener none
  | opened {key authenticatedData ciphertext tag plaintext : Bytes} {kind : κ} {counter : Nat} :
      opener.cipher = some key →
      reads datagram = (opener.tuple, kind, counter) →
      counter ≤ maximumCounter →
      datagram = authenticatedData ++ (ciphertext ++ tag) →
      opener.replayWindow.classify (BitVec.ofNat 64 counter) = .fresh →
      decrypt
        { key := key
          nonce := composeNonce opener.noncePrefix counter
          authenticatedData := authenticatedData
          ciphertext := ciphertext
          tag := tag } = some plaintext →
      OpensRecord maximumCounter reads opener decrypt datagram
        { opener with
          replayWindow :=
            (opener.replayWindow.commitAuthenticated (BitVec.ofNat 64 counter)).1 }
        (some (kind, counter, plaintext))

inductive Seals {τ : Type} (maximumCounter : Nat) (sealer : Sealer τ) :
    Sealer τ → Option EncryptCall → Prop where
  | silent : Seals maximumCounter sealer sealer none
  | calls {key authenticatedData plaintext : Bytes} : sealer.cipher = some key →
      sealer.counterAvailable = true →
      Seals maximumCounter sealer (sealer.burn maximumCounter)
        (some
          { key := key
            nonce := composeNonce sealer.noncePrefix sealer.nextCounter
            authenticatedData := authenticatedData
            plaintext := plaintext })

theorem Seals.tuple_eq {τ : Type} {maximumCounter : Nat} {sealer next : Sealer τ}
    {call : Option EncryptCall} (h : Seals maximumCounter sealer next call) :
    next.tuple = sealer.tuple := by
  cases h with
  | silent => rfl
  | calls cipher available =>
    unfold Sealer.burn
    split <;> rfl

inductive SealsRecord {τ : Type} (maximumCounter : Nat) (header : Nat → Bytes) (sealer : Sealer τ)
    (attempt : SealAttempt) : Sealer τ → Option EncryptCall → Option (Nat × Bytes) → Prop where
  | silent : SealsRecord maximumCounter header sealer attempt sealer none none
  | fails {key : Bytes} : sealer.cipher = some key → sealer.counterAvailable = true →
      attempt.output = none →
      SealsRecord maximumCounter header sealer attempt (sealer.burn maximumCounter)
        (some (sealer.encryptCall key header attempt)) none
  | seals {key : Bytes} {output : Nat → UInt8} : sealer.cipher = some key →
      sealer.counterAvailable = true → attempt.output = some output →
      SealsRecord maximumCounter header sealer attempt (sealer.burn maximumCounter)
        (some (sealer.encryptCall key header attempt))
        (some (sealer.nextCounter, header sealer.nextCounter ++
          (writtenCiphertext output attempt.plaintext.length ++
            writtenTag output attempt.plaintext.length)))

theorem SealsRecord.seals_nonce {τ : Type} {maximumCounter : Nat} {hdr : Nat → Bytes}
    {sealer next : Sealer τ} {attempt : SealAttempt} {call : Option EncryptCall}
    {record : Option (Nat × Bytes)}
    (h : SealsRecord maximumCounter hdr sealer attempt next call record) :
    Seals maximumCounter sealer next call := by
  cases h with
  | silent => exact .silent
  | fails cipher available => exact .calls cipher available
  | seals cipher available => exact .calls cipher available

theorem encryptNext_seals {τ : Type} {sealer : Sealer τ} {key : Bytes} {hdr : Nat → Bytes}
    {maximumCounter : Nat} (attempt : SealAttempt) (cipher : sealer.cipher = some key)
    (available : sealer.counterAvailable = true) :
    SealsRecord maximumCounter hdr sealer attempt
      (sealer.encryptNext key hdr maximumCounter attempt).sealer
      (sealer.encryptNext key hdr maximumCounter attempt).call
      (sealer.encryptNext key hdr maximumCounter attempt).sealed := by
  unfold Sealer.encryptNext
  split
  · exact .silent
  split
  · rename_i failed
    exact .fails cipher available failed
  · rename_i output written
    exact .seals cipher available written

theorem composeNonce_injective {noncePrefix : Bytes} {first second : Nat}
    (fitsFirst : first < 2 ^ 64) (fitsSecond : second < 2 ^ 64)
    (same : composeNonce noncePrefix first = composeNonce noncePrefix second) : first = second :=
  store_injective (show first < 256 ^ 8 from fitsFirst) (show second < 256 ^ 8 from fitsSecond)
    (List.append_cancel_left same)

/-- The calls of a sealer so far used the counters from zero on. -/
structure Burnt {τ : Type} (maximumCounter : Nat) (start : Sealer τ) (calls : List EncryptCall)
    (sealer : Sealer τ) : Prop where
  noncePrefix : sealer.noncePrefix = start.noncePrefix
  cipher : sealer.cipher = start.cipher
  nonces : calls.map (·.nonce) = (List.range calls.length).map (composeNonce start.noncePrefix)
  keys : ∀ call ∈ calls, start.cipher = some call.key
  available : sealer.counterAvailable = true →
    sealer.nextCounter = calls.length ∧ sealer.nextCounter ≤ maximumCounter
  exhausted : sealer.counterAvailable = false → calls.length = maximumCounter + 1

section

variable {τ : Type} {maximumCounter : Nat} {start sealer next : Sealer τ}
  {calls : List EncryptCall} {call : Option EncryptCall}

theorem burnt_start (ctr : start.nextCounter = 0) (available : start.counterAvailable = true) :
    Burnt maximumCounter start [] start where
  noncePrefix := rfl
  cipher := rfl
  nonces := rfl
  keys := by simp
  available := by
    intro _
    rw [ctr]
    exact ⟨rfl, Nat.zero_le _⟩
  exhausted := by
    intro exhausted
    rw [available] at exhausted
    cases exhausted

theorem Burnt.step (h : Burnt maximumCounter start calls sealer)
    (step : Seals maximumCounter sealer next call) :
    Burnt maximumCounter start (calls ++ call.toList) next := by
  cases step with
  | silent =>
    rw [Option.toList_none, List.append_nil]
    exact h
  | @calls key authenticatedData plaintext cipher available =>
    obtain ⟨ctr, bounded⟩ := h.available available
    have burnt : (sealer.burn maximumCounter).noncePrefix = sealer.noncePrefix ∧
        (sealer.burn maximumCounter).cipher = sealer.cipher := by
      unfold Sealer.burn
      split <;> exact ⟨rfl, rfl⟩
    refine ⟨burnt.1.trans h.noncePrefix, burnt.2.trans h.cipher, ?_, ?_, ?_, ?_⟩
    · rw [Option.toList_some, List.map_append, List.length_append, List.length_singleton,
        List.range_succ, List.map_append, h.nonces, ctr, h.noncePrefix]
      rfl
    · intro other mem
      rw [Option.toList_some, List.mem_append, List.mem_singleton] at mem
      cases mem with
      | inl old => exact h.keys other old
      | inr new =>
        rw [new, ← h.cipher]
        exact cipher
    · intro stillAvailable
      rw [Option.toList_some, List.length_append, List.length_singleton]
      unfold Sealer.burn at stillAvailable ⊢
      split
      · rename_i last
        rw [if_pos last] at stillAvailable
        cases stillAvailable
      · dsimp only
        omega
    · intro hexh
      rw [Option.toList_some, List.length_append, List.length_singleton]
      unfold Sealer.burn at hexh
      split at hexh
      · omega
      · rw [available] at hexh
        cases hexh

theorem Burnt.length_le (h : Burnt maximumCounter start calls sealer) :
    calls.length ≤ maximumCounter + 1 := by
  cases isAvailable : sealer.counterAvailable with
  | false => exact (h.exhausted isAvailable).le
  | true =>
    obtain ⟨ctr, bounded⟩ := h.available isAvailable
    omega

theorem Burnt.nodup (h : Burnt maximumCounter start calls sealer) (small : maximumCounter < 2 ^ 64) :
    (calls.map (fun call => (call.key, call.nonce))).Nodup := by
  have few := h.length_le
  have nonces : (calls.map (·.nonce)).Nodup := by
    rw [h.nonces]
    apply List.Nodup.map_on _ List.nodup_range
    intro first memberFirst snd memberSecond same
    rw [List.mem_range] at memberFirst memberSecond
    exact composeNonce_injective (by omega) (by omega) same
  apply List.Nodup.of_map Prod.snd
  rw [List.map_map]
  exact nonces

end

end VisionForge.DataPlane
