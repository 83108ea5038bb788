import Mathlib.Data.List.Sort
import VisionForge.Lib.Ascii
import VisionForge.Lib.Table

/-! # The reassembler of the contract core

Frames are kept in the order of their keys. Sizes are unsigned 64-bit numbers, so what is
left of a budget is a difference modulo 2 ^ 64.
-/

namespace VisionForge.ContractCore

open Lib.Ascii Lib.Table

def kVideoPayloadBytes : Nat := 1344
def kMaxAccessUnitBytes : Nat := 2 * 1024 * 1024
def kMaxFragments : Nat := (kMaxAccessUnitBytes + kVideoPayloadBytes - 1) / kVideoPayloadBytes
def kMaxStreamEpoch : Nat := 0x7fffffffffffffff

inductive PacketKind where
  | data
  | repeated
  deriving DecidableEq

structure WireHeader where
  kind : PacketKind
  streamEpoch : Nat
  frameSequence : Nat
  fragmentIndex : Nat
  fragmentCount : Nat
  deriving DecidableEq

def WireHeader.valid (header : WireHeader) : Bool :=
  if header.streamEpoch = 0 ∨ kMaxStreamEpoch < header.streamEpoch ∨ header.fragmentCount = 0 ∨
      kMaxFragments < header.fragmentCount then false
  else if header.fragmentCount ≤ header.fragmentIndex then false
  else if header.kind = .repeated ∧ (header.fragmentIndex ≠ 0 ∨ header.fragmentCount ≠ 1) then false
  else true

/-- The limits a reassembler can be constructed with. -/
structure ReassemblyConfig where
  maxInflightFrames : Nat
  maxTotalBytes : Nat
  maxAccessUnitBytes : Nat
  frameTimeoutMillis : Nat
  retiredEpochCapacity : Nat := 8
  frames_pos : 0 < maxInflightFrames
  unit_pos : 0 < maxAccessUnitBytes
  timeout_pos : 0 < frameTimeoutMillis
  capacity_pos : 0 < retiredEpochCapacity
  unit_le : maxAccessUnitBytes ≤ maxTotalBytes
  total_lt : maxTotalBytes < 2 ^ 64

inductive IngestCode where
  | accepted
  | complete
  | duplicate
  | conflict
  | invalid
  | retiredEpoch
  | resourceLimit
  | candidateRejected
  | gapDetected
  | repeated
  deriving DecidableEq

structure IngestResult where
  code : IngestCode
  streamEpoch : Nat := 0
  frameSequence : Nat := 0
  accessUnit : Bytes := []
  requiresEpochCommit : Bool := false
  deriving DecidableEq

abbrev FrameKey := Nat × Nat

def keyLe (a b : FrameKey) : Prop := a.1 < b.1 ∨ a.1 = b.1 ∧ a.2 ≤ b.2

instance : DecidableRel keyLe := fun _ _ => inferInstanceAs (Decidable (_ ∨ _ ∧ _))

structure Frame where
  fragmentCount : Nat
  fragments : List (Option Bytes)
  receivedFragments : Nat := 0
  bytes : Nat := 0
  createdAt : Int
  deriving DecidableEq

def Frame.new (fragmentCount : Nat) (createdAt : Int) : Frame where
  fragmentCount := fragmentCount
  fragments := List.replicate fragmentCount none
  createdAt := createdAt

def Frame.store (frame : Frame) (index : Nat) (payload : Bytes) : Frame :=
  { frame with
    fragments := frame.fragments.set index (some payload)
    receivedFragments := frame.receivedFragments + 1
    bytes := frame.bytes + payload.length }

def sizeMinus (a b : Nat) : Nat := (a + 2 ^ 64 - b) % 2 ^ 64

structure AccessUnitReassembler where
  config : ReassemblyConfig
  currentEpoch : Option Nat := none
  candidateEpoch : Option Nat := none
  candidateReady : Bool := false
  frames : List (FrameKey × Frame) := []
  totalBytes : Nat := 0
  gapDetected : Bool := false

def WireHeader.key (header : WireHeader) : FrameKey := (header.streamEpoch, header.frameSequence)

def answer (code : IngestCode) (header : WireHeader) : IngestResult where
  code := code
  streamEpoch := header.streamEpoch
  frameSequence := header.frameSequence

namespace AccessUnitReassembler

def new (config : ReassemblyConfig) : AccessUnitReassembler where
  config := config

variable (reasm : AccessUnitReassembler)

def inflightCount : Nat := reasm.frames.length

def isRetired (epoch : Nat) : Bool :=
  match reasm.currentEpoch with
  | none => false
  | some current => decide (epoch < current)

def isCandidate (epoch : Nat) : Bool :=
  match reasm.currentEpoch with
  | none => true
  | some current => decide (current < epoch)

def hasFramesForEpoch (epoch : Nat) : Bool :=
  reasm.frames.any (·.1.1 == epoch)

def eraseWhere (condition : FrameKey × Frame → Bool) : AccessUnitReassembler :=
  { reasm with
    frames := reasm.frames.filter (!condition ·)
    totalBytes := (reasm.frames.filter condition).foldl
      (fun total frame => sizeMinus total frame.2.bytes) reasm.totalBytes }

def eraseFrame (key : FrameKey) : AccessUnitReassembler :=
  match lookup Prod.fst key reasm.frames with
  | none => reasm
  | some (_, frame) =>
    { reasm with
      totalBytes := sizeMinus reasm.totalBytes frame.bytes
      frames := reasm.frames.filter (·.1 ≠ key) }

def eraseEpoch (epoch : Nat) : AccessUnitReassembler :=
  let reasm := reasm.eraseWhere (·.1.1 == epoch)
  if reasm.candidateEpoch = some epoch then
    { reasm with candidateEpoch := none, candidateReady := false }
  else reasm

def eraseNoncurrentEpochs : AccessUnitReassembler :=
  { reasm.eraseWhere (fun frame => reasm.currentEpoch.all (frame.1.1 != ·)) with
    candidateEpoch := none
    candidateReady := false }

def eraseOlderEpochs (epoch : Nat) : AccessUnitReassembler :=
  reasm.eraseWhere (·.1.1 < epoch)

def discardInflight : AccessUnitReassembler :=
  { reasm with
    frames := []
    totalBytes := 0
    candidateEpoch := none
    candidateReady := false }

/-- The timeout is in milliseconds, the clock in nanoseconds. -/
def expired (config : ReassemblyConfig) (now : Int) (frame : Frame) : Bool :=
  decide (frame.createdAt ≤ now) &&
    decide ((config.frameTimeoutMillis : Int) * 1000000 ≤ now - frame.createdAt)

/-- Only the loss of a frame of the current epoch is a gap. -/
def eraseExpired (now : Int) : AccessUnitReassembler :=
  { reasm.eraseWhere (fun frame => expired reasm.config now frame.2) with
    gapDetected := reasm.gapDetected || reasm.frames.any (fun frame =>
      expired reasm.config now frame.2 && reasm.currentEpoch == some frame.1.1) }

def resetIdleCandidate : AccessUnitReassembler :=
  match reasm.candidateEpoch with
  | none => reasm
  | some candidate =>
    if !reasm.candidateReady && !reasm.hasFramesForEpoch candidate then
      { reasm with candidateEpoch := none }
    else reasm

def expire (now : Int) : AccessUnitReassembler := (reasm.eraseExpired now).resetIdleCandidate

def selectCandidateEpoch (epoch : Nat) : AccessUnitReassembler × Bool :=
  match reasm.candidateEpoch with
  | none => ({ reasm with candidateEpoch := some epoch, candidateReady := false }, true)
  | some candidate =>
    if candidate = epoch then (reasm, !reasm.candidateReady)
    else if reasm.candidateReady || decide (epoch < candidate) then (reasm, false)
    else
      ({ reasm.eraseEpoch candidate with
          candidateEpoch := some epoch
          candidateReady := false }, true)

def rejectCandidateEpoch (epoch : Nat) : AccessUnitReassembler :=
  match reasm.candidateEpoch with
  | none => reasm
  | some candidate => if candidate ≠ epoch then reasm else reasm.eraseEpoch epoch

def commitCandidateEpoch (epoch : Nat) : AccessUnitReassembler × Bool :=
  if reasm.candidateEpoch ≠ some epoch ∨ reasm.candidateReady = false ∨
      reasm.currentEpoch.any (epoch ≤ ·) = true then (reasm, false)
  else
    let reasm :=
      { reasm with
        currentEpoch := some epoch
        candidateEpoch := none
        candidateReady := false }
    ({ reasm.eraseOlderEpochs epoch with gapDetected := false }, true)

def candidateFailure (header : WireHeader) : AccessUnitReassembler × IngestResult :=
  (reasm.rejectCandidateEpoch header.streamEpoch, answer .candidateRejected header)

def resourceFailure (header : WireHeader) (candidate : Bool) :
    AccessUnitReassembler × IngestResult :=
  if candidate then reasm.candidateFailure header
  else (reasm.discardInflight, answer .resourceLimit header)

def conflictFailure (header : WireHeader) (candidate : Bool) :
    AccessUnitReassembler × IngestResult :=
  if candidate then reasm.candidateFailure header
  else (reasm.eraseFrame header.key, answer .conflict header)

def accessUnitOf (fragments : List (Option Bytes)) : Bytes :=
  fragments.flatMap (fun fragment => fragment.getD [])

def finishFrame (header : WireHeader) (frame : Frame) (candidate : Bool) :
    AccessUnitReassembler × IngestResult :=
  if frame.receivedFragments ≠ frame.fragmentCount then (reasm, answer .accepted header)
  else
    let reasm := reasm.eraseFrame header.key
    ({ reasm with candidateReady := candidate || reasm.candidateReady },
      { answer .complete header with
        accessUnit := accessUnitOf frame.fragments
        requiresEpochCommit := candidate })

def putFrame (key : FrameKey) (frame : Frame) (added : Nat) : AccessUnitReassembler :=
  { reasm with
    frames := update (·.1 = key) (fun entry => (entry.1, frame)) reasm.frames
    totalBytes := reasm.totalBytes + added }

def storeFragment (header : WireHeader) (frame : Frame) (payload : Bytes) (candidate : Bool) :
    AccessUnitReassembler × IngestResult :=
  let reasm :=
    if !candidate && decide (sizeMinus reasm.config.maxTotalBytes reasm.totalBytes <
        payload.length) then reasm.eraseNoncurrentEpochs
    else reasm
  if sizeMinus reasm.config.maxAccessUnitBytes frame.bytes < payload.length ∨
      sizeMinus reasm.config.maxTotalBytes reasm.totalBytes < payload.length then
    reasm.resourceFailure header candidate
  else
    let frame := frame.store header.fragmentIndex payload
    let reasm := reasm.putFrame header.key frame payload.length
    reasm.finishFrame header frame candidate

def emplace (key : FrameKey) (frame : Frame) : AccessUnitReassembler :=
  { reasm with
    frames := reasm.frames.orderedInsert (fun a b => keyLe a.1 b.1) (key, frame) }

/-- The slot of a fragment; the index of a valid header is within its frame. -/
def receiveFragment (header : WireHeader) (frame : Frame) (payload : Bytes) (candidate : Bool) :
    AccessUnitReassembler × IngestResult :=
  match frame.fragments.getD header.fragmentIndex none with
  | some slot =>
    if slot.length = payload.length ∧ slot = payload then
      (reasm, answer .duplicate header)
    else reasm.conflictFailure header candidate
  | none => reasm.storeFragment header frame payload candidate

def placeFragment (header : WireHeader) (payload : Bytes) (now : Int) (candidate : Bool) :
    AccessUnitReassembler × IngestResult :=
  match lookup Prod.fst header.key reasm.frames with
  | some (_, frame) =>
    if frame.fragmentCount ≠ header.fragmentCount then
      reasm.conflictFailure header candidate
    else reasm.receiveFragment header frame payload candidate
  | none =>
    let reasm :=
      if decide (reasm.config.maxInflightFrames ≤ reasm.inflightCount) &&
          !candidate then reasm.eraseNoncurrentEpochs
      else reasm
    if reasm.config.maxInflightFrames ≤ reasm.inflightCount then
      reasm.resourceFailure header candidate
    else
      let frame := Frame.new header.fragmentCount now
      let reasm := reasm.emplace header.key frame
      reasm.receiveFragment header frame payload candidate

def ingest (header : WireHeader) (payload : Bytes) (now : Int) :
    AccessUnitReassembler × IngestResult :=
  if !header.valid then (reasm, { code := .invalid })
  else
    let reasm := reasm.expire now
    if reasm.isRetired header.streamEpoch then (reasm, answer .retiredEpoch header)
    else if reasm.gapDetected && reasm.currentEpoch == some header.streamEpoch then
      ({ reasm with gapDetected := false }.discardInflight, answer .gapDetected header)
    else if header.kind = .repeated then
      if !payload.isEmpty || reasm.currentEpoch != some header.streamEpoch then
        (reasm, answer .invalid header)
      else (reasm, answer .repeated header)
    else if payload.isEmpty || decide (reasm.config.maxAccessUnitBytes < payload.length) then
      (reasm, answer .invalid header)
    else if reasm.isCandidate header.streamEpoch then
      let (reasm, selected) := reasm.selectCandidateEpoch header.streamEpoch
      if !selected then (reasm, answer .candidateRejected header)
      else reasm.placeFragment header payload now true
    else reasm.placeFragment header payload now false

end AccessUnitReassembler

end VisionForge.ContractCore
