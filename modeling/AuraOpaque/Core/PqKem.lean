import AuraOpaque.Core.Crypto

/-!
# The ML-KEM wrapper and the hybrid combiner
-/

namespace AuraOpaque.Core

open AuraOpaque.Foundation
open Outcome (failIf okOr)

variable (P : Primitives)

namespace PqKem

/-- The public and the secret key; generation draws the two 32-byte seeds of the KEM. -/
def keypairGenerate :
    Cmd OpaqueError World (Bytes kemPublicKeyLength × Bytes kemSecretKeyLength) := do
  let seed ← World.draw 64
  let (dk, ek) := P.kem.generateKeypair seed
  pure (P.kem.ekToBytes ek, P.kem.dkToExpandedBytes dk)

/-- The ciphertext and the shared secret for a public key that arrives as bytes. -/
def encapsulate (publicKey : List UInt8) :
    Cmd OpaqueError World (Bytes kemCiphertextLength × Bytes kemSharedSecretLength) := do
  Cmd.failIf (publicKey.length ≠ kemPublicKeyLength) .invalidKemInput
  let ekArray ← Cmd.okOr (tryInto kemPublicKeyLength publicKey) .invalidKemInput
  let ek ← Cmd.okOr (P.kem.ekNew ekArray) .invalidKemInput
  Cmd.failIf (P.kem.ekToBytes ek ≠ ekArray) .invalidKemInput
  let message ← World.draw 32
  pure (P.kem.encapsulate ek message)

def decapsulate (secretKey ciphertext : List UInt8) :
    OpaqueResult (Bytes kemSharedSecretLength) := do
  failIf (secretKey.length ≠ kemSecretKeyLength || ciphertext.length ≠ kemCiphertextLength)
    .invalidKemInput
  let dkArray ← okOr (tryInto kemSecretKeyLength secretKey) .invalidKemInput
  let ct ← okOr (tryInto kemCiphertextLength ciphertext) .invalidKemInput
  let dk ← okOr (P.kem.dkFromExpandedBytes dkArray) .invalidKemInput
  failIf (P.kem.dkToExpandedBytes dk ≠ dkArray) .invalidKemInput
  pure (P.kem.decapsulate dk ct)

def combineKeyMaterial (classicalIkm pqSharedSecret transcriptHash : List UInt8) :
    OpaqueResult (Bytes hashLength) := do
  failIf
    (classicalIkm.length ≠ classicalIkmLength || pqSharedSecret.length ≠ kemSharedSecretLength ||
      transcriptHash.length ≠ hashLength) .invalidInput
  let combinedIkm ← Cmd.fill (zeros combinedIkmLength) do
    spliceAt 0 classicalIkmLength classicalIkm
    spliceAt classicalIkmLength combinedIkmLength pqSharedSecret
  let labelLen := Labels.pqCombinerContext.length
  let labeledTranscript ← Cmd.fill (zeros (labelLen + hashLength)) do
    spliceAt 0 labelLen Labels.pqCombinerContext
    spliceAt labelLen (labelLen + hashLength) transcriptHash
  keyDerivationExtract P labeledTranscript.toList combinedIkm.toList

/-- An encapsulation key that the wrapper accepts. -/
def WellFormed (publicKey : List UInt8) : Prop :=
  ∃ ek bytes, publicKey = bytes.toList ∧ P.kem.ekNew bytes = some ek ∧
    P.kem.ekToBytes ek = bytes

theorem encapsulate_run {bytes : Bytes kemPublicKeyLength} {ek : P.kem.EncapsulationKey}
    (hek : P.kem.ekNew bytes = some ek) (hbytes : P.kem.ekToBytes ek = bytes) (w : World) :
    (encapsulate P bytes.toList).run w =
      (.ok (P.kem.encapsulate ek (World.window w.tape 32)),
        w.advance 32) := by
  simp [encapsulate, Cmd.run_bind, Outcome.failIf_neg, hek, hbytes]

/-- Encapsulation rejects a malformed key before it draws anything. -/
theorem encapsulate_run_of_not_wellFormed {publicKey : List UInt8}
    (h : ¬ WellFormed P publicKey) (w : World) :
    (encapsulate P publicKey).run w = (.err .invalidKemInput, w) := by
  rw [encapsulate]
  by_cases hlen : publicKey.length = kemPublicKeyLength
  · rw [Cmd.run_bind_ok (by rw [Cmd.run_failIf, Outcome.failIf_neg _ (not_not.mpr hlen)]),
      tryInto_eq_some hlen, Cmd.run_bind_ok (by rw [Cmd.run_okOr, Outcome.okOr_some])]
    cases hek : P.kem.ekNew (ofList publicKey hlen) with
    | none => exact Cmd.run_bind_err rfl
    | some ek =>
        have hne : P.kem.ekToBytes ek ≠ ofList publicKey hlen :=
          fun heq => h ⟨ek, _, rfl, hek, heq⟩
        rw [Cmd.run_bind_ok (by rw [Cmd.run_okOr, Outcome.okOr_some]),
          Cmd.run_bind_err (by rw [Cmd.run_failIf, Outcome.failIf_pos _ hne])]
  · exact Cmd.run_bind_err (by rw [Cmd.run_failIf, Outcome.failIf_pos _ hlen])

theorem decapsulate_eq {dk : P.kem.DecapsulationKey}
    (hdk : P.kem.dkFromExpandedBytes (P.kem.dkToExpandedBytes dk) = some dk)
    (ct : Bytes kemCiphertextLength) :
    decapsulate P (P.kem.dkToExpandedBytes dk).toList ct.toList =
      .ok (P.kem.decapsulate dk ct) := by
  simp [decapsulate, Outcome.failIf_neg, hdk]

/-- Decapsulation knows one error. -/
theorem decapsulate_err {secretKey ciphertext : List UInt8} {e : OpaqueError}
    (h : decapsulate P secretKey ciphertext = .err e) : e = .invalidKemInput := by
  simp only [decapsulate, Outcome.bind_eq_err_iff, Outcome.failIf_eq_err_iff,
    Outcome.okOr_eq_err_iff] at h
  rcases h with ⟨-, rfl⟩ | ⟨_, -, ⟨-, rfl⟩ | ⟨_, -, ⟨-, rfl⟩ | ⟨_, -, ⟨-, rfl⟩ |
    ⟨_, -, ⟨-, rfl⟩ | ⟨_, -, h⟩⟩⟩⟩⟩
  all_goals first | rfl | cases h

/-- The pseudorandom key: the labelled transcript hash keys the extraction. -/
theorem combineKeyMaterial_eq {classicalIkm pqSharedSecret transcriptHash : List UInt8}
    (hikm : classicalIkm.length = classicalIkmLength)
    (hss : pqSharedSecret.length = kemSharedSecretLength)
    (hhash : transcriptHash.length = hashLength) :
    combineKeyMaterial P classicalIkm pqSharedSecret transcriptHash =
      .ok (P.hmac (Labels.pqCombinerContext ++ transcriptHash)
        (classicalIkm ++ pqSharedSecret)) := by
  have hcombined : Cmd.fill (zeros combinedIkmLength) (do
      spliceAt 0 classicalIkmLength classicalIkm
      spliceAt classicalIkmLength combinedIkmLength pqSharedSecret : Cmd OpaqueError _ Unit) =
        .ok (ofList (classicalIkm ++ pqSharedSecret) (by simp [hikm, hss])) := by
    refine Writes.fill (.spliceThen ?_ (.spliceAt ?_)) _ _ <;> simp [hikm, hss]
  have hlabeled : Cmd.fill (zeros (Labels.pqCombinerContext.length + hashLength)) (do
      spliceAt 0 Labels.pqCombinerContext.length Labels.pqCombinerContext
      spliceAt Labels.pqCombinerContext.length (Labels.pqCombinerContext.length + hashLength)
        transcriptHash : Cmd OpaqueError _ Unit) =
        .ok (ofList (Labels.pqCombinerContext ++ transcriptHash) (by simp [hhash])) := by
    refine Writes.fill (.spliceThen ?_ (.spliceAt ?_)) _ _ <;> simp [hhash]
  rw [combineKeyMaterial, Outcome.failIf_neg _ (by simp [hikm, hss, hhash]), Outcome.ok_bind,
    hcombined, Outcome.ok_bind]
  simp only [hlabeled, Outcome.ok_bind, toList_ofList]
  refine keyDerivationExtract_eq P ?_ ?_
  · rw [List.isEmpty_eq_false_iff, ← List.length_pos_iff]
    simp [hhash]
  · rw [List.isEmpty_eq_false_iff, ← List.length_pos_iff]
    simp [hikm, hss]

end PqKem

end AuraOpaque.Core
