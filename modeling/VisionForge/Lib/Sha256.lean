import Mathlib.Algebra.Group.Nat.Defs
import VisionForge.Lib.Ascii

/-! # SHA-256

The hash function of FIPS 180-4 on octets, with 32-bit words as natural numbers.
-/

namespace VisionForge.Lib.Sha256

open Lib.Ascii

def word (n : Nat) : Nat := n % 2 ^ 32

def rotateRight (x n : Nat) : Nat := (x.shiftRight n).lor (word (x.shiftLeft (32 - n)))

structure Working where
  a : Nat
  b : Nat
  c : Nat
  d : Nat
  e : Nat
  f : Nat
  g : Nat
  h : Nat
  deriving DecidableEq

def initialHash : Working :=
  ⟨0x6a09e667, 0xbb67ae85, 0x3c6ef372, 0xa54ff53a, 0x510e527f, 0x9b05688c, 0x1f83d9ab, 0x5be0cd19⟩

def roundConstants : List Nat := [
  0x428a2f98, 0x71374491, 0xb5c0fbcf, 0xe9b5dba5, 0x3956c25b, 0x59f111f1, 0x923f82a4, 0xab1c5ed5,
  0xd807aa98, 0x12835b01, 0x243185be, 0x550c7dc3, 0x72be5d74, 0x80deb1fe, 0x9bdc06a7, 0xc19bf174,
  0xe49b69c1, 0xefbe4786, 0x0fc19dc6, 0x240ca1cc, 0x2de92c6f, 0x4a7484aa, 0x5cb0a9dc, 0x76f988da,
  0x983e5152, 0xa831c66d, 0xb00327c8, 0xbf597fc7, 0xc6e00bf3, 0xd5a79147, 0x06ca6351, 0x14292967,
  0x27b70a85, 0x2e1b2138, 0x4d2c6dfc, 0x53380d13, 0x650a7354, 0x766a0abb, 0x81c2c92e, 0x92722c85,
  0xa2bfe8a1, 0xa81a664b, 0xc24b8b70, 0xc76c51a3, 0xd192e819, 0xd6990624, 0xf40e3585, 0x106aa070,
  0x19a4c116, 0x1e376c08, 0x2748774c, 0x34b0bcb5, 0x391c0cb3, 0x4ed8aa4a, 0x5b9cca4f, 0x682e6ff3,
  0x748f82ee, 0x78a5636f, 0x84c87814, 0x8cc70208, 0x90befffa, 0xa4506ceb, 0xbef9a3f7, 0xc67178f2]

def padding (length : Nat) : Bytes :=
  let zeros : Bytes := List.replicate ((119 - length % 64) % 64) 0
  let bits : Bytes := (List.range 8).map (fun i => UInt8.ofNat ((8 * length) >>> (56 - 8 * i)))
  128 :: (zeros ++ bits)

def quads {α : Type} : List α → List (List α)
  | a :: b :: c :: d :: rest => [a, b, c, d] :: quads rest
  | _ => []

def bigEndian (octets : Bytes) : Nat := octets.foldl (fun value octet => value * 256 + octet.toNat) 0

def blocks (padded : Bytes) : List (List Nat) :=
  (quads (quads ((quads padded).map bigEndian))).map List.flatten

def schedule : Nat → List Nat → List Nat
  | 0, block => block
  | n + 1, block =>
    let x := block.getD 14 0
    let y := block.getD 1 0
    let small0 := ((rotateRight x 7).xor (rotateRight x 18)).xor (x.shiftRight 3)
    let small1 := ((rotateRight y 17).xor (rotateRight y 19)).xor (y.shiftRight 10)
    schedule n (word (block.getD 15 0 + small0 + block.getD 6 0 + small1) :: block)

def round (s : Working) (constant next : Nat) : Working :=
  let large1 := ((rotateRight s.e 6).xor (rotateRight s.e 11)).xor (rotateRight s.e 25)
  let choice := (s.e.land s.f).xor ((2 ^ 32 - 1 - s.e).land s.g)
  let large0 := ((rotateRight s.a 2).xor (rotateRight s.a 13)).xor (rotateRight s.a 22)
  let majority := ((s.a.land s.b).xor (s.a.land s.c)).xor (s.b.land s.c)
  let first := s.h + large1 + choice + constant + next
  ⟨word (first + large0 + majority), s.a, s.b, s.c, word (s.d + first), s.e, s.f, s.g⟩

def rounds : Working → List Nat → List Nat → Working
  | s, constant :: constants, next :: rest => rounds (round s constant next) constants rest
  | s, _, _ => s

def compress (s : Working) (block : List Nat) : Working :=
  let t := rounds s roundConstants (schedule 48 block.reverse).reverse
  ⟨word (s.a + t.a), word (s.b + t.b), word (s.c + t.c), word (s.d + t.d), word (s.e + t.e),
    word (s.f + t.f), word (s.g + t.g), word (s.h + t.h)⟩

def octets (x : Nat) : Bytes :=
  [UInt8.ofNat (x >>> 24), UInt8.ofNat (x >>> 16), UInt8.ofNat (x >>> 8), UInt8.ofNat x]

def sha256 (message : Bytes) : Bytes :=
  let s := (blocks (message ++ padding message.length)).foldl compress initialHash
  [s.a, s.b, s.c, s.d, s.e, s.f, s.g, s.h].flatMap octets

/-- HMAC with a block of 64 octets. -/
def hmacSha256 (key message : Bytes) : Bytes :=
  let short := if 64 < key.length then sha256 key else key
  let block := short ++ List.replicate (64 - short.length) 0
  sha256 (block.map (· ^^^ 0x5c) ++ sha256 (block.map (· ^^^ 0x36) ++ message))

theorem length_sha256 (message : Bytes) : (sha256 message).length = 32 := rfl

example : (sha256 (ascii "abc")).take 4 = [0xba, 0x78, 0x16, 0xbf] := by decide +kernel

end VisionForge.Lib.Sha256
