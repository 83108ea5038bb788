import Mathlib.Data.List.AList
import Mathlib.Data.List.MinMax
import VisionForge.Video.Protocol

/-! # Reassembly of access units

The frames of the active epoch are kept under their sequence until every fragment has
come. The byte counter is shared by all of them, and what an erased frame held is taken
from it with a subtraction that would stop at zero; the model records in `saturated`
whether that ever happens.
-/

namespace VisionForge.Video

open Lib.Ascii

structure PendingFrame where
  repeatedContent : Bool := false
  expectedFragments : Nat := 0
  receivedFragments : Nat := 0
  totalBytes : Nat := 0
  firstSeenUs : Nat := 0
  arrivalOrder : Nat := 0
  received : List Bool := []
  parts : List Bytes := []
  deriving DecidableEq

def PendingFrame.new (fragment : VideoFragment) (nowUs arrivalOrder : Nat) : PendingFrame where
  repeatedContent := fragment.repeatedContent
  expectedFragments := fragment.fragmentCount
  firstSeenUs := nowUs
  arrivalOrder := arrivalOrder
  received := List.replicate fragment.fragmentCount false
  parts := List.replicate fragment.fragmentCount []

def PendingFrame.store (frame : PendingFrame) (index : Nat) (payload : Bytes) : PendingFrame :=
  { frame with
    received := frame.received.set index true
    parts := frame.parts.set index payload
    totalBytes := frame.totalBytes + payload.length
    receivedFragments := frame.receivedFragments + 1 }

abbrev Frames := AList (fun _ : Nat => PendingFrame)

structure CompletedAccessUnit where
  identity : VideoFrameIdentity
  repeatedContent : Bool
  bytes : Bytes
  deriving DecidableEq

structure Statistics where
  incompleteAccessUnitLosses : Nat := 0
  conflictingDuplicateLosses : Nat := 0
  foreignOrRetiredEpochDrops : Nat := 0
  payloadBytesCopied : Nat := 0
  payloadBytesMoved : Nat := 0
  duplicatePayloadBytesAvoided : Nat := 0
  deriving DecidableEq

structure AccessUnitReassembler where
  maxInflightFrames : Nat
  maxInflightBytes : Nat
  inflightBytes : Nat := 0
  nextArrivalOrder : Nat := 0
  activeEpoch : Option Nat := none
  retiredThrough : Option Nat := none
  lastDeliveredSequence : Option Nat := none
  pending : Frames := ∅
  statistics : Statistics := {}
  saturated : Bool := false

namespace AccessUnitReassembler

def new (maxInflightFrames maxInflightBytes : Nat) : AccessUnitReassembler where
  maxInflightFrames := max 1 maxInflightFrames
  maxInflightBytes := max kVideoPacketPayloadBytes maxInflightBytes

/-- The limits a caller gets who names none. -/
def default : AccessUnitReassembler := new 8 (8 * kMaxAccessUnitBytes)

def countLosses (reasm : AccessUnitReassembler) (losses : Nat) : AccessUnitReassembler :=
  { reasm with
    statistics := { reasm.statistics with
      incompleteAccessUnitLosses :=
        reasm.statistics.incompleteAccessUnitLosses + losses } }

def countConflict (reasm : AccessUnitReassembler) : AccessUnitReassembler :=
  { reasm with
    statistics := { reasm.statistics with
      conflictingDuplicateLosses := reasm.statistics.conflictingDuplicateLosses + 1 } }

def countForeign (reasm : AccessUnitReassembler) : AccessUnitReassembler :=
  { reasm with
    statistics := { reasm.statistics with
      foreignOrRetiredEpochDrops := reasm.statistics.foreignOrRetiredEpochDrops + 1 } }

def countAvoided (reasm : AccessUnitReassembler) (view : Bool) (size : Nat) :
    AccessUnitReassembler :=
  if view then
    { reasm with
      statistics := { reasm.statistics with
        duplicatePayloadBytesAvoided :=
          reasm.statistics.duplicatePayloadBytesAvoided + size } }
  else reasm

/-- A view is copied, an owned payload is moved. -/
def countStored (reasm : AccessUnitReassembler) (view : Bool) (size : Nat) :
    AccessUnitReassembler :=
  { reasm with
    statistics :=
      if view then
        { reasm.statistics with
          payloadBytesCopied := reasm.statistics.payloadBytesCopied + size }
      else
        { reasm.statistics with
          payloadBytesMoved := reasm.statistics.payloadBytesMoved + size } }

def clearPending (reasm : AccessUnitReassembler) (countAsLoss : Bool) :
    AccessUnitReassembler :=
  { reasm.countLosses (if countAsLoss then reasm.pending.entries.length else 0) with
    pending := ∅
    inflightBytes := 0 }

def erasePending (reasm : AccessUnitReassembler) (sequence : Nat) (countAsLoss : Bool) :
    AccessUnitReassembler :=
  match reasm.pending.lookup sequence with
  | none => reasm
  | some frame =>
    { reasm.countLosses (if countAsLoss then 1 else 0) with
      inflightBytes :=
        reasm.inflightBytes - min reasm.inflightBytes frame.totalBytes
      pending := reasm.pending.erase sequence
      saturated := reasm.saturated || decide (reasm.inflightBytes < frame.totalBytes) }

def oldest (reasm : AccessUnitReassembler) : Option (Σ _ : Nat, PendingFrame) :=
  reasm.pending.entries.argmin (fun entry => entry.2.arrivalOrder)

def discardOldest (reasm : AccessUnitReassembler) : AccessUnitReassembler :=
  match reasm.oldest with
  | none => reasm
  | some entry => reasm.erasePending entry.1 true

def overBudget (reasm : AccessUnitReassembler) : Bool :=
  decide (reasm.maxInflightFrames < reasm.pending.entries.length) ||
    decide (reasm.maxInflightBytes < reasm.inflightBytes)

/-- Each turn of the loop discards a frame. -/
def discardWhileOverBudget : Nat → AccessUnitReassembler → AccessUnitReassembler
  | 0, reasm => reasm
  | turns + 1, reasm =>
    if reasm.overBudget then discardWhileOverBudget turns reasm.discardOldest
    else reasm

def isRetiredEpoch (reasm : AccessUnitReassembler) (streamEpoch : Nat) : Bool :=
  match reasm.retiredThrough with
  | none => false
  | some retired => decide (streamEpoch ≤ retired)

def rememberRetiredEpoch (reasm : AccessUnitReassembler) (streamEpoch : Nat) :
    AccessUnitReassembler :=
  if !validVideoStreamEpoch streamEpoch then reasm
  else
    match reasm.retiredThrough with
    | none => { reasm with retiredThrough := some streamEpoch }
    | some retired =>
      if retired < streamEpoch then { reasm with retiredThrough := some streamEpoch }
      else reasm

def activateEpoch (reasm : AccessUnitReassembler) (streamEpoch : Nat)
    (lastDeliveredSequence : Option Nat) : AccessUnitReassembler × Bool :=
  if !validVideoStreamEpoch streamEpoch || reasm.isRetiredEpoch streamEpoch ||
      reasm.activeEpoch.any (fun active => decide (streamEpoch < active)) then
    (reasm, false)
  else if reasm.activeEpoch = some streamEpoch then
    if lastDeliveredSequence.isSome && reasm.lastDeliveredSequence.isNone &&
        reasm.pending.entries.isEmpty then
      ({ reasm with lastDeliveredSequence := lastDeliveredSequence }, true)
    else (reasm, true)
  else
    let retired :=
      match reasm.activeEpoch with
      | some active => reasm.rememberRetiredEpoch active
      | none =>
        if 1 < streamEpoch then reasm.rememberRetiredEpoch (streamEpoch - 1)
        else reasm
    ({ retired.clearPending true with
        activeEpoch := some streamEpoch
        lastDeliveredSequence := lastDeliveredSequence }, true)

/-- The only frame that may be delivered next: the successor of the last one, or the
    frame that came first when there is none. -/
def nextFrame (reasm : AccessUnitReassembler) : Option (Σ _ : Nat, PendingFrame) :=
  match reasm.lastDeliveredSequence with
  | some last =>
    (advanceVideoFrameSequence last).bind (fun expected =>
      (reasm.pending.lookup expected).map (fun frame => ⟨expected, frame⟩))
  | none => reasm.oldest

def popCompleted (reasm : AccessUnitReassembler) :
    AccessUnitReassembler × Option CompletedAccessUnit :=
  match reasm.activeEpoch, reasm.nextFrame with
  | some epoch, some ⟨sequence, frame⟩ =>
    if frame.receivedFragments ≠ frame.expectedFragments then (reasm, none)
    else
      let completed : CompletedAccessUnit :=
        { identity := { streamEpoch := epoch, frameSequence := sequence }
          repeatedContent := frame.repeatedContent
          bytes := frame.parts.flatten }
      (({ reasm with lastDeliveredSequence := some sequence }).erasePending sequence false,
        some completed)
  | _, _ => (reasm, none)

def discardExpired (reasm : AccessUnitReassembler) (nowUs ttlUs : Nat) :
    AccessUnitReassembler × Nat :=
  reasm.pending.entries.foldl
    (fun (reasm, discarded) entry =>
      if entry.2.firstSeenUs ≤ nowUs ∧ ttlUs < nowUs - entry.2.firstSeenUs then
        (reasm.erasePending entry.1 true, discarded + 1)
      else (reasm, discarded))
    (reasm, 0)

/-- The frame of a fragment, made if it is the first one. -/
def emplace (reasm : AccessUnitReassembler) (fragment : VideoFragment) (nowUs : Nat) :
    AccessUnitReassembler × PendingFrame :=
  match reasm.pending.lookup fragment.identity.frameSequence with
  | some frame => (reasm, frame)
  | none =>
    let frame := PendingFrame.new fragment nowUs reasm.nextArrivalOrder
    ({ reasm with
        pending := reasm.pending.insert fragment.identity.frameSequence frame
        nextArrivalOrder := (reasm.nextArrivalOrder + 1) % 2 ^ 64 }, frame)

/-- A fragment of the active epoch that is newer than what was delivered, and whether the call
    goes on to look for a completed frame. -/
def receivePending (reasm : AccessUnitReassembler) (fragment : VideoFragment) (view : Bool)
    (nowUs : Nat) : AccessUnitReassembler × Bool :=
  let sequence := fragment.identity.frameSequence
  let payload := fragment.accessUnitPart
  let (reasm, frame) := reasm.emplace fragment nowUs
  if frame.expectedFragments ≠ fragment.fragmentCount ∨
      frame.repeatedContent ≠ fragment.repeatedContent then
    ((reasm.erasePending sequence true).countConflict, false)
  else if frame.received.getD fragment.fragmentIndex false then
    if frame.parts.getD fragment.fragmentIndex [] ≠ payload then
      ((reasm.erasePending sequence true).countConflict, false)
    else (reasm.countAvoided view payload.length, true)
  else if kMaxAccessUnitBytes < payload.length ∨
      kMaxAccessUnitBytes - payload.length < frame.totalBytes ∨
      reasm.maxInflightBytes < payload.length ∨
      reasm.maxInflightBytes - payload.length < reasm.inflightBytes then
    (reasm.erasePending sequence true, false)
  else
    let stored :=
      { reasm.countStored view payload.length with
        pending := reasm.pending.insert sequence
          (frame.store fragment.fragmentIndex payload)
        inflightBytes := reasm.inflightBytes + payload.length }
    (discardWhileOverBudget stored.pending.entries.length stored, true)

/-- The first fragment activates its epoch. -/
def activateFirstEpoch (reasm : AccessUnitReassembler) (streamEpoch : Nat) :
    AccessUnitReassembler × Bool :=
  match reasm.activeEpoch with
  | some _ => (reasm, true)
  | none => reasm.activateEpoch streamEpoch none

def receivePayload (reasm : AccessUnitReassembler) (fragment : VideoFragment) (view : Bool)
    (nowUs : Nat) : AccessUnitReassembler × Bool :=
  if !fragment.identity.valid || fragment.fragmentCount == 0 ||
      decide (kMaxVideoFragmentsPerAccessUnit < fragment.fragmentCount) ||
      decide (fragment.fragmentCount ≤ fragment.fragmentIndex) ||
      fragment.accessUnitPart.isEmpty ||
      decide (kVideoPacketPayloadBytes < fragment.accessUnitPart.length) then
    (reasm, false)
  else
    let (reasm, admitted) := reasm.activateFirstEpoch fragment.identity.streamEpoch
    if !admitted then (reasm, false)
    else if reasm.activeEpoch ≠ some fragment.identity.streamEpoch then
      (reasm.countForeign, true)
    else if reasm.lastDeliveredSequence.any (fun last =>
        !videoFrameSequenceIsNewer fragment.identity.frameSequence last) then
      (reasm.countAvoided view fragment.accessUnitPart.length, true)
    else reasm.receivePending fragment view nowUs

def look (arranged : AccessUnitReassembler × Bool) :
    AccessUnitReassembler × Option CompletedAccessUnit :=
  if arranged.2 then arranged.1.popCompleted else (arranged.1, none)

def pushPayload (reasm : AccessUnitReassembler) (fragment : VideoFragment) (view : Bool)
    (nowUs : Nat) : AccessUnitReassembler × Option CompletedAccessUnit :=
  look (reasm.receivePayload fragment view nowUs)

def push (reasm : AccessUnitReassembler) (fragment : VideoFragment) (nowUs : Nat) :
    AccessUnitReassembler × Option CompletedAccessUnit :=
  reasm.pushPayload fragment false nowUs

def pushView (reasm : AccessUnitReassembler) (fragment : VideoFragment) (nowUs : Nat) :
    AccessUnitReassembler × Option CompletedAccessUnit :=
  reasm.pushPayload fragment true nowUs

end AccessUnitReassembler

end VisionForge.Video
