import VisionForge.Lib.BigEndian
import VisionForge.Lib.Long

/-! # The header of a video datagram on the phone

Twenty octets in network order: magic, epoch, sequence, index and count. A header is only
built of numbers within its bounds, so whoever holds one need not check them again.
-/

namespace VisionForge.MobileRuntime

open Lib.Ascii Lib.BigEndian Lib.Long

inductive Throwable where
  | illegalArgument
  | illegalState
  | arrayIndexOutOfBounds
  | port
  deriving DecidableEq

inductive VideoPacketKind where
  | data
  | repeated
  deriving DecidableEq

def VideoPacketKind.magicCode : VideoPacketKind → Nat
  | .data => 0x56463247
  | .repeated => 0x56463252

def VideoPacketKind.fromMagicCode (value : Nat) : Except Throwable VideoPacketKind :=
  if value = VideoPacketKind.data.magicCode then .ok .data
  else if value = VideoPacketKind.repeated.magicCode then .ok .repeated
  else .error .illegalArgument

def BYTE_LENGTH : Nat := 20
def PAYLOAD_BYTES : Nat := 1344
def MAX_ACCESS_UNIT_BYTES : Nat := 2 * 1024 * 1024
def MAX_FRAGMENT_COUNT : Nat := (MAX_ACCESS_UNIT_BYTES + PAYLOAD_BYTES - 1) / PAYLOAD_BYTES
def UINT32_MAX : Nat := 0xffffffff
def LONG_MAX : Nat := 0x7fffffffffffffff

structure VideoFragmentHeader where
  kind : VideoPacketKind
  streamEpoch : Nat
  frameSequence : Nat
  fragmentIndex : Nat
  fragmentCount : Nat
  epoch_pos : 0 < streamEpoch
  epoch_le : streamEpoch ≤ LONG_MAX
  sequence_le : frameSequence ≤ UINT32_MAX
  count_pos : 0 < fragmentCount
  count_le : fragmentCount ≤ MAX_FRAGMENT_COUNT
  index_lt : fragmentIndex < fragmentCount

namespace VideoFragmentHeader

def new (kind : VideoPacketKind) (streamEpoch : Int) (frameSequence fragmentIndex
    fragmentCount : Nat) : Except Throwable VideoFragmentHeader :=
  if epoch : 0 < streamEpoch ∧ streamEpoch ≤ LONG_MAX then
    if sequence : frameSequence ≤ UINT32_MAX then
      if count : 0 < fragmentCount ∧ fragmentCount ≤ MAX_FRAGMENT_COUNT then
        if index : fragmentIndex < fragmentCount then
          .ok
            { kind
              streamEpoch := streamEpoch.toNat
              frameSequence
              fragmentIndex
              fragmentCount
              epoch_pos := by omega
              epoch_le := by omega
              sequence_le := sequence
              count_pos := count.1
              count_le := count.2
              index_lt := index }
        else .error .illegalArgument
      else .error .illegalArgument
    else .error .illegalArgument
  else .error .illegalArgument

def decode (datagram : Bytes) : Except Throwable VideoFragmentHeader :=
  if datagram.length < BYTE_LENGTH then .error .illegalArgument
  else
    match VideoPacketKind.fromMagicCode (loadAt datagram 0 4) with
    | .error error => .error error
    | .ok kind =>
      new kind (wrap (loadAt datagram 4 8)) (loadAt datagram 12 4) (loadAt datagram 16 2)
        (loadAt datagram 18 2)

theorem decode_error {dgram : Bytes} {error : Throwable}
    (refused : decode dgram = .error error) : error = .illegalArgument := by
  unfold decode VideoPacketKind.fromMagicCode new at refused
  split_ifs at refused
  all_goals
    simp only [Except.error.injEq] at refused
  all_goals
    exact refused.symm

end VideoFragmentHeader

end VisionForge.MobileRuntime
