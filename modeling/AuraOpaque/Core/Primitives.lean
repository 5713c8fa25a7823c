import AuraOpaque.Core.Types
import Mathlib.Algebra.Module.Basic
import Mathlib.Algebra.Field.Defs

/-!
# The cryptographic libraries

The group, the KEM, the hashes, the password hash and the authenticated cipher
come from other packages.  They are parameters here: the group carries the laws
of a prime-order group with canonical encodings, the rest are plain functions,
and what a result needs of them is named in `Primitives.Correct`.
-/

namespace AuraOpaque.Core

open AuraOpaque.Foundation

/--
Ristretto255.  Prime order enters as the field of scalars acting on the group;
each point and each scalar has one accepted encoding.
-/
structure RistrettoGroup where
  Scalar : Type
  Point : Type
  [field : Field Scalar]
  [scalarDecidableEq : DecidableEq Scalar]
  [pointGroup : AddCommGroup Point]
  [pointModule : Module Scalar Point]
  [pointDecidableEq : DecidableEq Point]
  basepoint : Point
  basepoint_ne_zero : basepoint ≠ 0
  fromCanonicalBytes : Bytes privateKeyLength → Option Scalar
  asBytes : Scalar → Bytes privateKeyLength
  fromCanonicalBytes_asBytes : ∀ s, fromCanonicalBytes (asBytes s) = some s
  asBytes_of_fromCanonicalBytes : ∀ b s, fromCanonicalBytes b = some s → asBytes s = b
  asBytes_zero : asBytes 0 = zeros privateKeyLength
  fromBytesModOrderWide : Bytes hashLength → Scalar
  decompress : Bytes publicKeyLength → Option Point
  compress : Point → Bytes publicKeyLength
  decompress_compress : ∀ p, decompress (compress p) = some p
  compress_of_decompress : ∀ b p, decompress b = some p → compress p = b
  compress_zero : compress 0 = zeros publicKeyLength
  fromUniformBytes : Bytes hashLength → Point

attribute [instance] RistrettoGroup.field RistrettoGroup.scalarDecidableEq
  RistrettoGroup.pointGroup RistrettoGroup.pointModule RistrettoGroup.pointDecidableEq

namespace RistrettoGroup

variable (G : RistrettoGroup)

theorem asBytes_injective : Function.Injective G.asBytes := by
  intro s t h
  have hs := G.fromCanonicalBytes_asBytes s
  rw [h, G.fromCanonicalBytes_asBytes] at hs
  exact (Option.some.inj hs).symm

theorem compress_injective : Function.Injective G.compress := by
  intro p q h
  have hp := G.decompress_compress p
  rw [h, G.decompress_compress] at hp
  exact (Option.some.inj hp).symm

@[simp] theorem isAllZero_asBytes (s : G.Scalar) :
    isAllZero (G.asBytes s).toList = true ↔ s = 0 := by
  rw [isAllZero_toList_iff, ← G.asBytes_zero, G.asBytes_injective.eq_iff]

@[simp] theorem isAllZero_compress (p : G.Point) :
    isAllZero (G.compress p).toList = true ↔ p = 0 := by
  rw [isAllZero_toList_iff, ← G.compress_zero, G.compress_injective.eq_iff]

theorem isAllZero_asBytes_eq_false {s : G.Scalar} :
    isAllZero (G.asBytes s).toList = false ↔ s ≠ 0 := by
  rw [← Bool.not_eq_true, isAllZero_asBytes]

end RistrettoGroup

/-- ML-KEM-768 with keys in their expanded encodings; seeds and messages are explicit. -/
structure MlKem768 where
  EncapsulationKey : Type
  DecapsulationKey : Type
  generateKeypair : Bytes 64 → DecapsulationKey × EncapsulationKey
  ekToBytes : EncapsulationKey → Bytes kemPublicKeyLength
  ekNew : Bytes kemPublicKeyLength → Option EncapsulationKey
  dkToExpandedBytes : DecapsulationKey → Bytes kemSecretKeyLength
  dkFromExpandedBytes : Bytes kemSecretKeyLength → Option DecapsulationKey
  encapsulate : EncapsulationKey → Bytes 32 →
    Bytes kemCiphertextLength × Bytes kemSharedSecretLength
  decapsulate : DecapsulationKey → Bytes kemCiphertextLength → Bytes kemSharedSecretLength

/-- Argon2id parameters: memory in KiB, passes, lanes. -/
structure Argon2Params where
  memoryKib : ℕ
  passes : ℕ
  lanes : ℕ
  deriving DecidableEq

def ksfOpslimit : ℕ := 3
def ksfMemlimitKib : ℕ := 256 * 1024
@[simp] abbrev argon2SaltBytes : ℕ := 16

structure Primitives where
  group : RistrettoGroup
  kem : MlKem768
  sha512 : List UInt8 → Bytes hashLength
  /-- HMAC-SHA512 of a key and a message; the library takes keys of every length. -/
  hmac : List UInt8 → List UInt8 → Bytes macLength
  argon2id : Argon2Params → List UInt8 → List UInt8 → (n : ℕ) → Option (Bytes n)
  /-- XSalsa20-Poly1305 with the tag in front of the ciphertext. -/
  aeadEncrypt : Bytes secretboxKeyLength → Bytes nonceLength → List UInt8 →
    Option (List UInt8)
  aeadDecrypt : Bytes secretboxKeyLength → Bytes nonceLength → List UInt8 →
    Option (List UInt8)

/-- What honest parties rely on. -/
structure Primitives.Correct (P : Primitives) : Prop where
  /-- Generated encapsulation keys survive encoding. -/
  ek_roundtrip : ∀ seed, P.kem.ekNew (P.kem.ekToBytes (P.kem.generateKeypair seed).2) =
    some (P.kem.generateKeypair seed).2
  /-- Generated decapsulation keys survive encoding. -/
  dk_roundtrip : ∀ seed,
    P.kem.dkFromExpandedBytes (P.kem.dkToExpandedBytes (P.kem.generateKeypair seed).1) =
      some (P.kem.generateKeypair seed).1
  /-- Decapsulation recovers the encapsulated secret for generated pairs. -/
  kem_correct : ∀ seed m,
    P.kem.decapsulate (P.kem.generateKeypair seed).1
        (P.kem.encapsulate (P.kem.generateKeypair seed).2 m).1 =
      (P.kem.encapsulate (P.kem.generateKeypair seed).2 m).2
  /-- Encryption adds the tag, and decryption undoes it. -/
  aead_correct : ∀ key nonce plaintext, ∃ sealed,
    P.aeadEncrypt key nonce plaintext = some sealed ∧
      sealed.length = secretboxMacLength + plaintext.length ∧
      P.aeadDecrypt key nonce sealed = some plaintext
  /-- The password hash does not fail on the code's parameters. -/
  argon2id_total : ∀ password salt : List UInt8, password.length = hashLength →
    salt.length = argon2SaltBytes →
    (P.argon2id ⟨ksfMemlimitKib, ksfOpslimit, 1⟩ password salt hashLength).isSome

end AuraOpaque.Core
