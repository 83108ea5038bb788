import VisionForge.Lib.Hex
import VisionForge.Lib.Sha256

/-! # The cryptographic primitives of the three programs

SHA-256 and RSA come from the platforms (CNG, the Java providers and the Python
`cryptography` package); every program is given the same primitives.
-/

namespace VisionForge.UsageLease

open Lib.Ascii Lib.Hex

structure Cryptography where
  sha256 : Bytes → Bytes
  sha256_length : ∀ input, (sha256 input).length = 32
  /-- The modulus length of a key given as a canonical SubjectPublicKeyInfo. -/
  rsaModulusBits : Bytes → Option Nat
  /-- PKCS #1 v1.5 verification with SHA-256: key, input, signature. -/
  rsaVerify : Bytes → Bytes → Bytes → Bool

namespace Cryptography

variable (crypto : Cryptography)

def sha256Hex (input : Bytes) : Bytes := lowercaseHex (crypto.sha256 input)

/-- The first sixteen digits of the digest of a public key. -/
def keyId (spki : Bytes) : Bytes := (crypto.sha256Hex spki).take 16

variable {crypto}

theorem isLowerHex_sha256Hex (input : Bytes) : isLowerHex (crypto.sha256Hex input) 64 = true :=
  isLowerHex_lowercaseHex (by rw [crypto.sha256_length])

theorem isLowerHex_take {value : Bytes} {n k : Nat} (h : isLowerHex value n = true) (le : k ≤ n) :
    isLowerHex (value.take k) k = true := by
  simp only [isLowerHex, Bool.and_eq_true, beq_iff_eq, List.all_eq_true] at h ⊢
  refine ⟨by rw [List.length_take, h.1]; omega, ?_⟩
  intro c mem
  exact h.2 c (List.mem_of_mem_take mem)

theorem isLowerHex_keyId (spki : Bytes) : isLowerHex (crypto.keyId spki) 16 = true :=
  isLowerHex_take (isLowerHex_sha256Hex spki) (by omega)

end Cryptography

/-- The SubjectPublicKeyInfo of a 3072-bit modulus with exponent 65537. -/
def signingKey : Bytes :=
  [0x30, 0x82, 0x01, 0xa2, 0x30, 0x0d, 0x06, 0x09, 0x2a, 0x86, 0x48, 0x86, 0xf7, 0x0d, 0x01, 0x01,
    0x01, 0x05, 0x00, 0x03, 0x82, 0x01, 0x8f, 0x00, 0x30, 0x82, 0x01, 0x8a, 0x02, 0x82, 0x01, 0x81,
    0x00] ++ List.replicate 384 0xb5 ++ [0x02, 0x03, 0x01, 0x00, 0x01]

/-- One signature of 384 octets for every input. -/
def signWithKey (input : Bytes) : Bytes :=
  List.replicate 352 0xff ++ Lib.Sha256.sha256 input

def concreteCryptography : Cryptography where
  sha256 := Lib.Sha256.sha256
  sha256_length := Lib.Sha256.length_sha256
  rsaModulusBits := fun spki => if spki = signingKey then some 3072 else none
  rsaVerify := fun key input signature => key == signingKey && signature == signWithKey input

theorem length_signWithKey (input : Bytes) : (signWithKey input).length = 384 := by
  rw [signWithKey, List.length_append, List.length_replicate, Lib.Sha256.length_sha256]

end VisionForge.UsageLease
