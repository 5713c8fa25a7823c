import AuraOpaque.Foundation.Bytes

/-!
# Protocol constants, labels and errors
-/

namespace AuraOpaque.Core

open AuraOpaque.Foundation

/-! ## Lengths -/

abbrev protocolVersion2 : UInt8 := 0x02
abbrev protocolVersion : UInt8 := protocolVersion2

@[simp] abbrev versionPrefixLength : ℕ := 1
@[simp] abbrev oprfSeedLength : ℕ := 32
@[simp] abbrev privateKeyLength : ℕ := 32
@[simp] abbrev publicKeyLength : ℕ := 32
@[simp] abbrev exportKeyLength : ℕ := 32
@[simp] abbrev maskingKeyLength : ℕ := 32
@[simp] abbrev nonceLength : ℕ := 24
@[simp] abbrev macLength : ℕ := 64
@[simp] abbrev hashLength : ℕ := 64
@[simp] abbrev envelopeLength : ℕ := 136
@[simp] abbrev registrationRequestLength : ℕ := 32
@[simp] abbrev registrationResponseLength : ℕ := 64
@[simp] abbrev credentialResponseLength : ℕ := 168
@[simp] abbrev maxSecureKeyLength : ℕ := 4096
@[simp] abbrev dhComponentCount : ℕ := 4
@[simp] abbrev classicalIkmLength : ℕ := dhComponentCount * publicKeyLength
@[simp] abbrev stateMaxLifetimeSecs : ℕ := 900
@[simp] abbrev secretboxKeyLength : ℕ := 32
@[simp] abbrev secretboxMacLength : ℕ := 16

@[simp] abbrev kemPublicKeyLength : ℕ := 1184
@[simp] abbrev kemSecretKeyLength : ℕ := 2400
@[simp] abbrev kemCiphertextLength : ℕ := 1088
@[simp] abbrev kemSharedSecretLength : ℕ := 32
@[simp] abbrev combinedIkmLength : ℕ := classicalIkmLength + kemSharedSecretLength

@[simp] abbrev registrationRequestWireLength : ℕ := versionPrefixLength + registrationRequestLength
@[simp] abbrev registrationResponseWireLength : ℕ :=
  versionPrefixLength + registrationResponseLength
@[simp] abbrev ke1BaseLength : ℕ := registrationRequestLength + publicKeyLength + nonceLength
@[simp] abbrev ke2BaseLength : ℕ :=
  nonceLength + publicKeyLength + credentialResponseLength + macLength
@[simp] abbrev ke1Length : ℕ := versionPrefixLength + (ke1BaseLength + kemPublicKeyLength)
@[simp] abbrev ke2Length : ℕ := versionPrefixLength + (ke2BaseLength + kemCiphertextLength)
@[simp] abbrev ke3Length : ℕ := versionPrefixLength + macLength
@[simp] abbrev registrationCredentialLength : ℕ := maskingKeyLength + envelopeLength
@[simp] abbrev registrationRecordLength : ℕ :=
  versionPrefixLength + (registrationCredentialLength + publicKeyLength)
@[simp] abbrev responderCredentialsLength : ℕ := registrationRecordLength

-- The source asserts these sums when it is compiled.
example : ke1Length = 1273 ∧ ke2Length = 1377 ∧ ke3Length = 65 ∧
    registrationRecordLength = 201 := by decide

/-! ## Labels -/

/-- A byte-string literal. -/
def ascii (text : String) : List UInt8 := text.toList.map fun c => c.toNat.toUInt8

namespace Labels

def oprfContext := ascii "AURA-OPAQUE-v1/OPRF"
def oprfKeyInfo := ascii "AURA-OPAQUE-v1/OPRF-Key"
def oprfSeedInfo := ascii "AURA-OPAQUE-v1/OPRF-Seed"
def envelopeContext := ascii "AURA-OPAQUE-v1/EnvelopeKey"
def transcriptContext := ascii "AURA-OPAQUE-v1/Transcript"
def accountContextBinding := ascii "AURA-OPAQUE-v2/AccountContext"
def ksfContext := ascii "AURA-OPAQUE-v1/KSF"
def ksfSaltLabel := ascii "AURA-OPAQUE-v1/KSF-Salt"
def clientExportKeyInfo := ascii "AURA-OPAQUE-v2/ClientExportKey"
def maskingKeyInfo := ascii "AURA-OPAQUE-v2/MaskingKey"
def credentialMaskingInfo := ascii "AURA-OPAQUE-v2/CredentialMask"
def deriveKeypairContext := ascii "AURA-OPAQUE-v1/DeriveKeyPair"
def fakeCredentialsContext := ascii "AURA-OPAQUE-v1/FakeCredentials"
def pqCombinerContext := ascii "AURA-OPAQUE-PQ-v1/Combiner"
def pqSessionKeyInfo := ascii "AURA-OPAQUE-PQ-v1/SessionKey"
def pqResponderMacInfo := ascii "AURA-OPAQUE-PQ-v1/ResponderMAC"
def pqInitiatorMacInfo := ascii "AURA-OPAQUE-PQ-v1/InitiatorMAC"

end Labels

/-! ## Errors -/

inductive OpaqueError where
  | invalidInput
  | cryptoError
  | invalidProtocolMessage
  | validationError
  | authenticationError
  | invalidPublicKey
  | alreadyRegistered
  | invalidKemInput
  | invalidEnvelope
  | unsupportedVersion
  deriving DecidableEq, Repr

/-- The return code of the C interface for an error. -/
def OpaqueError.toCInt : OpaqueError → ℤ
  | .invalidInput => -1
  | .cryptoError => -2
  | .invalidProtocolMessage => -5
  | .validationError => -5
  | .authenticationError => -5
  | .invalidPublicKey => -6
  | .alreadyRegistered => -7
  | .invalidKemInput => -5
  | .invalidEnvelope => -5
  | .unsupportedVersion => -10

theorem OpaqueError.toCInt_neg (e : OpaqueError) : e.toCInt < 0 := by
  cases e <;> decide

abbrev OpaqueResult (α : Type) := Outcome OpaqueError α

/-! ## Envelopes and constant-time helpers -/

structure Envelope where
  nonce : List UInt8
  ciphertext : List UInt8
  authTag : List UInt8
  deriving DecidableEq

def Envelope.new : Envelope where
  nonce := List.replicate nonceLength 0
  ciphertext := []
  authTag := List.replicate secretboxMacLength 0

theorem Envelope.new_nonce_length : Envelope.new.nonce.length = nonceLength := by
  simp [Envelope.new]

def constantTimeEq (a b : List UInt8) : Bool := a.length == b.length && a == b

@[simp] theorem constantTimeEq_iff {a b : List UInt8} : constantTimeEq a b = true ↔ a = b := by
  simp only [constantTimeEq, Bool.and_eq_true, beq_iff_eq, and_iff_right_iff_imp]
  exact fun h => congrArg List.length h

@[simp] theorem constantTimeEq_eq_false_iff {a b : List UInt8} :
    constantTimeEq a b = false ↔ a ≠ b := by
  rw [← Bool.not_eq_true, constantTimeEq_iff]

@[simp] theorem constantTimeEq_self (a : List UInt8) : constantTimeEq a a = true := by
  simp

/--
`a` where the choice is set and `b` elsewhere, byte by byte.  The source asserts
that both inputs have the length of the output.
-/
def ctSelectBytes (n : ℕ) (a b : List UInt8) (choice : Bool) : OpaqueResult (Bytes n) :=
  if h : n = a.length ∧ n = b.length then
    .ok ⟨List.zipWith (fun x y => if choice then x else y) a b, by
      simp [← h.1, ← h.2]⟩
  else .panic

theorem ctSelectBytes_toList {n : ℕ} (a b : Bytes n) (choice : Bool) :
    ctSelectBytes n a.toList b.toList choice = .ok (if choice then a else b) := by
  rw [ctSelectBytes, dif_pos ⟨by simp, by simp⟩]
  congr 1
  apply List.Vector.toList_injective
  cases choice <;> exact List.ext_getElem (by simp) (by simp)

end AuraOpaque.Core
