import VisionForge.Lib.Table
import VisionForge.MobileRuntime.VideoFragmentHeader

/-! # The reassembly window of the phone

Frames wait here for their fragments before the decoder. A new epoch is assembled in a
single candidate slot and owns the session only once it is committed; the current epoch
says so when it loses a frame.
-/

namespace VisionForge.MobileRuntime

open Lib.Ascii Lib.Table

/-- The limits; one access unit fits into the budget of all frames. -/
structure Config where
  maxInflightFrames : Nat
  maxTotalBytes : Nat
  maxAccessUnitBytes : Nat
  frameTimeoutNanos : Nat
  frames_pos : 0 < maxInflightFrames
  unit_pos : 0 < maxAccessUnitBytes
  timeout_pos : 0 < frameTimeoutNanos
  unit_le : maxAccessUnitBytes ≤ maxTotalBytes

def Config.productionDefaults : Config where
  maxInflightFrames := 16
  maxTotalBytes := 8 * 1024 * 1024
  maxAccessUnitBytes := 2 * 1024 * 1024
  frameTimeoutNanos := 500000000
  frames_pos := by decide
  unit_pos := by decide
  timeout_pos := by decide
  unit_le := by decide

inductive Code where
  | accepted
  | complete
  | duplicate
  | conflict
  | invalid
  | staleEpoch
  | resourceLimit
  | candidateRejected
  | gapDetected
  | repeated
  deriving DecidableEq

structure VideoReassemblyResult where
  code : Code
  streamEpoch : Nat
  frameSequence : Nat
  accessUnit : Bytes
  requiresEpochCommit : Bool
  repeatedContent : Bool
  deriving DecidableEq

abbrev FrameKey := Nat × Nat

structure FrameAssembly where
  fragments : List (Option Bytes)
  createdAtNanos : Int
  receivedCount : Nat := 0
  bytes : Nat := 0
  deriving DecidableEq

def FrameAssembly.new (fragmentCount : Nat) (createdAtNanos : Int) : FrameAssembly where
  fragments := List.replicate fragmentCount none
  createdAtNanos := createdAtNanos

def FrameAssembly.store (frame : FrameAssembly) (index : Nat) (payload : Bytes) : FrameAssembly :=
  { frame with
    fragments := frame.fragments.set index (some payload)
    receivedCount := frame.receivedCount + 1
    bytes := frame.bytes + payload.length }

structure VideoPreflightReassemblyWindow where
  config : Config
  frames : List (FrameKey × FrameAssembly) := []
  currentEpoch : Option Nat := none
  candidateEpoch : Option Nat := none
  candidateReady : Bool := false
  totalBytes : Int := 0
  gapDetected : Bool := false
  payloadBytesCopied : Nat := 0
  duplicatePayloadBytesAvoided : Nat := 0
  completedAccessUnitBytes : Nat := 0
  resourceLimitEvents : Nat := 0

def result (code : Code) (header : VideoFragmentHeader) : VideoReassemblyResult where
  code := code
  streamEpoch := header.streamEpoch
  frameSequence := header.frameSequence
  accessUnit := []
  requiresEpochCommit := false
  repeatedContent := header.kind == .repeated

def VideoFragmentHeader.key (header : VideoFragmentHeader) : FrameKey :=
  (header.streamEpoch, header.frameSequence)

namespace VideoPreflightReassemblyWindow

def new (config : Config) : VideoPreflightReassemblyWindow where
  config := config

def inflightCount (window : VideoPreflightReassemblyWindow) : Nat := window.frames.length

def isStale (window : VideoPreflightReassemblyWindow) (epoch : Nat) : Bool :=
  window.currentEpoch.any (epoch < ·)

def isCandidate (window : VideoPreflightReassemblyWindow) (epoch : Nat) : Bool :=
  window.currentEpoch.all (· < epoch)

def hasFramesForEpoch (window : VideoPreflightReassemblyWindow) (epoch : Nat) : Bool :=
  window.frames.any (·.1.1 == epoch)

def dropFrames (window : VideoPreflightReassemblyWindow)
    (condition : FrameKey × FrameAssembly → Bool) : VideoPreflightReassemblyWindow :=
  { window with
    frames := window.frames.filter (!condition ·)
    totalBytes := window.totalBytes -
      ((window.frames.filter condition).map (fun frame => (frame.2.bytes : Int))).sum }

def removeFrame (window : VideoPreflightReassemblyWindow) (key : FrameKey) :
    VideoPreflightReassemblyWindow :=
  window.dropFrames (·.1 = key)

def eraseEpoch (window : VideoPreflightReassemblyWindow) (epoch : Nat) :
    VideoPreflightReassemblyWindow :=
  let window := window.dropFrames (·.1.1 == epoch)
  if window.candidateEpoch = some epoch then
    { window with candidateEpoch := none, candidateReady := false }
  else window

def eraseNonCurrentEpochs (window : VideoPreflightReassemblyWindow) :
    VideoPreflightReassemblyWindow :=
  { window.dropFrames (some ·.1.1 != window.currentEpoch) with
    candidateEpoch := none
    candidateReady := false }

def eraseEpochsOlderThan (window : VideoPreflightReassemblyWindow) (epoch : Nat) :
    VideoPreflightReassemblyWindow :=
  window.dropFrames (·.1.1 < epoch)

def clearInflight (window : VideoPreflightReassemblyWindow) : VideoPreflightReassemblyWindow :=
  { window with
    frames := []
    totalBytes := 0
    candidateEpoch := none
    candidateReady := false }

def discardInflight (window : VideoPreflightReassemblyWindow) : VideoPreflightReassemblyWindow :=
  window.clearInflight

def expired (config : Config) (nowNanos : Int) (frame : FrameAssembly) : Bool :=
  decide (frame.createdAtNanos ≤ nowNanos) &&
    decide ((config.frameTimeoutNanos : Int) ≤ nowNanos - frame.createdAtNanos)

/-- Only the loss of a frame of the current epoch is a gap. -/
def dropExpired (window : VideoPreflightReassemblyWindow) (nowNanos : Int) :
    VideoPreflightReassemblyWindow :=
  { window.dropFrames (fun frame => expired window.config nowNanos frame.2) with
    gapDetected := window.gapDetected || window.frames.any (fun frame =>
      expired window.config nowNanos frame.2 && some frame.1.1 == window.currentEpoch) }

def dropIdleCandidate (window : VideoPreflightReassemblyWindow) : VideoPreflightReassemblyWindow :=
  match window.candidateEpoch with
  | none => window
  | some candidate =>
    if !window.candidateReady && !window.hasFramesForEpoch candidate then
      { window with candidateEpoch := none }
    else window

def expireFrames (window : VideoPreflightReassemblyWindow) (nowNanos : Int) :
    VideoPreflightReassemblyWindow :=
  (window.dropExpired nowNanos).dropIdleCandidate

def expire (window : VideoPreflightReassemblyWindow) (nowNanos : Int) :
    Except Throwable VideoPreflightReassemblyWindow :=
  if nowNanos < 0 then .error .illegalArgument else .ok (window.expireFrames nowNanos)

def selectCandidateEpoch (window : VideoPreflightReassemblyWindow) (epoch : Nat) :
    VideoPreflightReassemblyWindow × Bool :=
  match window.candidateEpoch with
  | none => ({ window with candidateEpoch := some epoch, candidateReady := false }, true)
  | some candidate =>
    if candidate = epoch then (window, !window.candidateReady)
    else if window.candidateReady || decide (epoch < candidate) then (window, false)
    else
      ({ window.eraseEpoch candidate with
          candidateEpoch := some epoch
          candidateReady := false }, true)

def rejectCandidateEpoch (window : VideoPreflightReassemblyWindow) (epoch : Nat) :
    VideoPreflightReassemblyWindow :=
  if window.candidateEpoch = some epoch then window.eraseEpoch epoch else window

def commitCandidateEpoch (window : VideoPreflightReassemblyWindow) (epoch : Nat) :
    VideoPreflightReassemblyWindow × Bool :=
  if window.candidateEpoch ≠ some epoch ∨ window.candidateReady = false ∨
      window.currentEpoch.any (epoch ≤ ·) = true then (window, false)
  else
    let window :=
      { window with currentEpoch := some epoch, candidateEpoch := none, candidateReady := false }
    ({ window.eraseEpochsOlderThan epoch with gapDetected := false }, true)

def candidateFailure (window : VideoPreflightReassemblyWindow) (header : VideoFragmentHeader) :
    Except Throwable VideoReassemblyResult × VideoPreflightReassemblyWindow :=
  (.ok (result .candidateRejected header), window.rejectCandidateEpoch header.streamEpoch)

def resourceFailure (window : VideoPreflightReassemblyWindow) (header : VideoFragmentHeader)
    (candidate : Bool) : Except Throwable VideoReassemblyResult × VideoPreflightReassemblyWindow :=
  let window := { window with resourceLimitEvents := window.resourceLimitEvents + 1 }
  if candidate then window.candidateFailure header
  else (.ok (result .resourceLimit header), window.clearInflight)

def conflictFailure (window : VideoPreflightReassemblyWindow) (header : VideoFragmentHeader)
    (candidate : Bool) : Except Throwable VideoReassemblyResult × VideoPreflightReassemblyWindow :=
  if candidate then window.candidateFailure header
  else (.ok (result .conflict header), window.removeFrame header.key)

def assemble : List (Option Bytes) → Option Bytes
  | [] => some []
  | none :: _ => none
  | some fragment :: fragments => (assemble fragments).map (fragment ++ ·)

/-- After its last fragment a frame leaves the window. -/
def finishFrame (window : VideoPreflightReassemblyWindow) (header : VideoFragmentHeader)
    (frame : FrameAssembly) (candidate : Bool) :
    Except Throwable VideoReassemblyResult × VideoPreflightReassemblyWindow :=
  if frame.receivedCount ≠ frame.fragments.length then (.ok (result .accepted header), window)
  else
    match assemble frame.fragments with
    | none => (.error .illegalState, window)
    | some accessUnit =>
      let window := window.removeFrame header.key
      (.ok
        { code := .complete
          streamEpoch := header.streamEpoch
          frameSequence := header.frameSequence
          accessUnit := accessUnit
          requiresEpochCommit := candidate
          repeatedContent := header.kind == .repeated },
        { window with
          completedAccessUnitBytes := window.completedAccessUnitBytes + accessUnit.length
          candidateReady := candidate || window.candidateReady })

def putFrame (window : VideoPreflightReassemblyWindow) (key : FrameKey) (frame : FrameAssembly)
    (added : Nat) : VideoPreflightReassemblyWindow :=
  { window with
    frames := update (·.1 = key) (fun entry => (entry.1, frame)) window.frames
    totalBytes := window.totalBytes + added
    payloadBytesCopied := window.payloadBytesCopied + added }

def storeFragment (window : VideoPreflightReassemblyWindow) (header : VideoFragmentHeader)
    (frame : FrameAssembly) (payload : Bytes) (candidate : Bool) :
    Except Throwable VideoReassemblyResult × VideoPreflightReassemblyWindow :=
  let window :=
    if !candidate && decide ((window.config.maxTotalBytes : Int) - window.totalBytes <
        payload.length) then window.eraseNonCurrentEpochs
    else window
  if (window.config.maxAccessUnitBytes : Int) - frame.bytes < payload.length ∨
      (window.config.maxTotalBytes : Int) - window.totalBytes < payload.length then
    window.resourceFailure header candidate
  else
    let frame := frame.store header.fragmentIndex payload
    let window := window.putFrame header.key frame payload.length
    window.finishFrame header frame candidate

def receiveFragment (window : VideoPreflightReassemblyWindow) (header : VideoFragmentHeader)
    (frame : FrameAssembly) (payload : Bytes) (candidate : Bool) :
    Except Throwable VideoReassemblyResult × VideoPreflightReassemblyWindow :=
  match frame.fragments[header.fragmentIndex]? with
  | none => (.error .arrayIndexOutOfBounds, window)
  | some (some previous) =>
    if previous = payload then
      (.ok (result .duplicate header),
        { window with
          duplicatePayloadBytesAvoided := window.duplicatePayloadBytesAvoided + payload.length })
    else window.conflictFailure header candidate
  | some none => window.storeFragment header frame payload candidate

/-- Find the frame of a fragment or make room for it. -/
def placeFragment (window : VideoPreflightReassemblyWindow) (header : VideoFragmentHeader)
    (payload : Bytes) (nowNanos : Int) (candidate : Bool) :
    Except Throwable VideoReassemblyResult × VideoPreflightReassemblyWindow :=
  match lookup Prod.fst header.key window.frames with
  | some (_, frame) =>
    if frame.fragments.length ≠ header.fragmentCount then
      window.conflictFailure header candidate
    else window.receiveFragment header frame payload candidate
  | none =>
    let window :=
      if decide (window.config.maxInflightFrames ≤ window.inflightCount) && !candidate then
        window.eraseNonCurrentEpochs
      else window
    if window.config.maxInflightFrames ≤ window.inflightCount then
      window.resourceFailure header candidate
    else
      let frame := FrameAssembly.new header.fragmentCount nowNanos
      let window := { window with frames := window.frames ++ [(header.key, frame)] }
      window.receiveFragment header frame payload candidate

def ingestUnexpired (window : VideoPreflightReassemblyWindow) (header : VideoFragmentHeader)
    (payload : Bytes) (nowNanos : Int) :
    Except Throwable VideoReassemblyResult × VideoPreflightReassemblyWindow :=
  if window.isStale header.streamEpoch then (.ok (result .staleEpoch header), window)
  else if window.gapDetected && window.currentEpoch == some header.streamEpoch then
    (.ok (result .gapDetected header), { window with gapDetected := false }.clearInflight)
  else if header.kind == .repeated && window.currentEpoch != some header.streamEpoch then
    (.ok (result .candidateRejected header), window)
  else if payload.length = 0 ∨ window.config.maxAccessUnitBytes < payload.length then
    (.ok (result .invalid header), window)
  else if window.isCandidate header.streamEpoch then
    let (window, selected) := window.selectCandidateEpoch header.streamEpoch
    if !selected then (.ok (result .candidateRejected header), window)
    else window.placeFragment header payload nowNanos true
  else window.placeFragment header payload nowNanos false

def ingestRange (window : VideoPreflightReassemblyWindow) (header : VideoFragmentHeader)
    (source : Bytes) (payloadOffset payloadLength : Int) (nowNanos : Int) :
    Except Throwable VideoReassemblyResult × VideoPreflightReassemblyWindow :=
  if payloadOffset < 0 ∨ payloadLength < 0 ∨
      (source.length : Int) - payloadLength < payloadOffset then
    (.ok (result .invalid header), window)
  else if nowNanos < 0 then (.ok (result .invalid header), window)
  else
    (window.expireFrames nowNanos).ingestUnexpired header
      ((source.drop payloadOffset.toNat).take payloadLength.toNat) nowNanos

def ingest (window : VideoPreflightReassemblyWindow) (header : VideoFragmentHeader)
    (payload : Bytes) (nowNanos : Int) :
    Except Throwable VideoReassemblyResult × VideoPreflightReassemblyWindow :=
  window.ingestRange header payload 0 payload.length nowNanos

end VideoPreflightReassemblyWindow

end VisionForge.MobileRuntime
