import AuraOpaque.Agent.State
import AuraOpaque.Core.Oprf
import AuraOpaque.Core.Envelope
import AuraOpaque.Core.Protocol
import AuraOpaque.Handshake.KeySchedule

/-!
# Authentication, client side

`generateKe3` is its source cut into consecutive blocks.  The run with a trace
also returns the secrets and the transcript it computed, which are locals of
the source.
-/

namespace AuraOpaque.Agent

open AuraOpaque.Foundation AuraOpaque.Core
open Handshake (SharedSecrets Transcript)

variable (P : Primitives)

@[simp] abbrev transcriptInputLength : ℕ :=
  2 * nonceLength + dhComponentCount * publicKeyLength + credentialResponseLength +
    kemCiphertextLength + kemPublicKeyLength + hashLength

/-! ## The first message -/

/-- `oprf::blind` with KE1 and the session state as its outputs. -/
def blindKe1 (secureKey : List UInt8) : Op Ke1Message InitiatorState Unit :=
  Cmd.zoom (fun f => ⟨f.out.credentialRequest, f.state.obliviousPrfBlindScalar, f.world⟩)
    (fun b f =>
      { out := { f.out with credentialRequest := b.blindedElement }
        state := { f.state with obliviousPrfBlindScalar := b.blindScalar }
        world := b.world })
    (Oprf.blind P secureKey)

def ke1Checks (secureKey accountId : List UInt8) : Op Ke1Message InitiatorState Unit := do
  Cmd.failIf (secureKey.isEmpty ∨ maxSecureKeyLength < secureKey.length) .invalidInput
  Cmd.failIf accountId.isEmpty .invalidInput
  let state ← Op.getState
  Cmd.failIf (state.phase ≠ .created) .validationError
  rejectExpired

def ke1Body (secureKey accountId : List UInt8) : Op Ke1Message InitiatorState Unit := do
  storeSecureKey secureKey
  let accountContextHash := sha512Multi P [Labels.accountContextBinding, accountId]
  Op.modifyState fun s => { s with accountContextHash }
  let ephemeralPrivateKey ← Op.onWorld (randomNonzeroScalar P)
  Op.modifyState fun s => { s with initiatorEphemeralPrivateKey := ephemeralPrivateKey }
  let ephemeralPublicKey ← scalarmultBase P ephemeralPrivateKey
  Op.modifyState fun s => { s with initiatorEphemeralPublicKey := ephemeralPublicKey }
  Op.modifyState fun s =>
    { s with pqEphemeralPublicKey := zeros _, pqEphemeralSecretKey := zeros _ }
  let (pqPublicKey, pqSecretKey) ← Op.onWorld (PqKem.keypairGenerate P)
  Op.modifyState fun s =>
    { s with pqEphemeralPublicKey := pqPublicKey, pqEphemeralSecretKey := pqSecretKey }
  let initiatorNonce ← Op.onWorld (randomBytes nonceLength)
  Op.modifyOut fun ke1 => { ke1 with initiatorNonce }
  Op.modifyState fun s => { s with initiatorNonce }
  Op.modifyOut fun ke1 => { ke1 with initiatorPublicKey := ephemeralPublicKey }
  blindKe1 P secureKey
  Op.modifyOut fun ke1 => { ke1 with pqEphemeralPublicKey := pqPublicKey }

def generateKe1 (secureKey accountId : List UInt8) : Op Ke1Message InitiatorState Unit := do
  ke1Checks secureKey accountId
  ke1Body P secureKey accountId
  refreshDeadline
  Op.modifyState fun s => { s with phase := .ke1Generated }

/-! ## The third message -/

/-- The view of KE2 after the checks on public keys. -/
def readKe2 (initiator : OpaqueInitiator) (ke2Data : List UInt8) :
    OpaqueResult Protocol.Ke2Ref := do
  validatePublicKey P initiator.responderPublicKey.toList
  let ke2 ← Protocol.parseKe2 ke2Data
  validatePublicKey P ke2.responderPublicKey
  pure ke2

/-- The password's randomized form; the password and the blind are gone afterwards. -/
def recoverRandomizedPwd (evaluatedElem : List UInt8) :
    Op Ke3Message InitiatorState (Bytes hashLength) := do
  let state ← Op.getState
  let secureKey ← readSecureKey
  let evaluated ← Cmd.okOr (tryInto publicKeyLength evaluatedElem) .invalidProtocolMessage
  let oprfOutput ← Oprf.finalize P secureKey state.obliviousPrfBlindScalar evaluated
  let randomizedPwd ← deriveRandomizedPassword P oprfOutput.toList secureKey hashLength
  eraseSecureKey
  pure randomizedPwd

def recoverKeys (initiator : OpaqueInitiator) (ke2 : Protocol.Ke2Ref)
    (accountContextHash : Bytes hashLength) (randomizedPwd : Bytes hashLength)
    (evaluatedElem maskedEnvelopeData : List UInt8) : OpaqueResult Envelope.Opened := do
  let maskingKey ← deriveMaskingKey P randomizedPwd.toList
  let maskedEnvelope ← Outcome.okOr (tryInto envelopeLength maskedEnvelopeData)
    .invalidProtocolMessage
  let envelopeData ← maskCredentialEnvelope P maskingKey ke2.responderNonce evaluatedElem
    accountContextHash maskedEnvelope
  let ctSize := envelopeLength - nonceLength - secretboxMacLength
  let envNonce ← slice envelopeData.toList 0 nonceLength
  let envCiphertext ← slice envelopeData.toList nonceLength (nonceLength + ctSize)
  let envAuthTag ← slice envelopeData.toList (nonceLength + ctSize) envelopeLength
  let recovered ← Cmd.fill Envelope.Opened.zeroed
    (Envelope.openRaw P envNonce envCiphertext envAuthTag randomizedPwd.toList
      initiator.responderPublicKey)
  Outcome.failIf
    (!constantTimeEq recovered.responderPublicKey.toList initiator.responderPublicKey.toList)
    .authenticationError
  pure recovered

def ke3Secrets (state : InitiatorState) (recovered : Envelope.Opened)
    (respEphPk : Bytes publicKeyLength) (kemCiphertext : List UInt8) :
    OpaqueResult SharedSecrets := do
  let dh1 ← scalarMult P recovered.initiatorPrivateKey recovered.responderPublicKey
  let dh2 ← scalarMult P state.initiatorEphemeralPrivateKey recovered.responderPublicKey
  let dh3 ← scalarMult P recovered.initiatorPrivateKey respEphPk
  let dh4 ← scalarMult P state.initiatorEphemeralPrivateKey respEphPk
  let kemSs ← PqKem.decapsulate P state.pqEphemeralSecretKey.toList kemCiphertext
  pure { dh1, dh2, dh3, dh4, kemSs }

def ke3ClassicalIkm (secrets : SharedSecrets) : OpaqueResult (Bytes classicalIkmLength) :=
  Cmd.fill (zeros classicalIkmLength) do
    spliceAt 0 publicKeyLength secrets.dh1.toList
    spliceAt publicKeyLength (2 * publicKeyLength) secrets.dh2.toList
    spliceAt (2 * publicKeyLength) (3 * publicKeyLength) secrets.dh3.toList
    spliceAt (3 * publicKeyLength) classicalIkmLength secrets.dh4.toList

def ke3AppendFields (state : InitiatorState) (respEphPk : Bytes publicKeyLength)
    (ke2 : Protocol.Ke2Ref) (recovered : Envelope.Opened) :
    Cmd OpaqueError (Cursor UInt8 transcriptInputLength) Unit := do
  Cursor.append state.initiatorEphemeralPublicKey.toList
  Cursor.append respEphPk.toList
  Cursor.append state.initiatorNonce.toList
  Cursor.append ke2.responderNonce
  Cursor.append recovered.initiatorPublicKey.toList
  Cursor.append recovered.responderPublicKey.toList
  Cursor.append ke2.credentialResponse
  Cursor.append state.pqEphemeralPublicKey.toList
  Cursor.append ke2.kemCiphertext
  Cursor.append state.accountContextHash.toList

def ke3MacInput (state : InitiatorState) (respEphPk : Bytes publicKeyLength)
    (ke2 : Protocol.Ke2Ref) (recovered : Envelope.Opened) : OpaqueResult (List UInt8) := do
  let cursor ← Cmd.fill ⟨zeros transcriptInputLength, 0⟩
    (ke3AppendFields state respEphPk ke2 recovered)
  slice cursor.buffer.toList 0 cursor.off

/-- The keys the client derives, after the responder's tag has been checked. -/
structure Ke3Keys where
  sessionKey : Bytes hashLength
  exportKey : Bytes exportKeyLength
  initiatorMac : Bytes macLength

def ke3KeySchedule (classicalIkm : Bytes classicalIkmLength)
    (kemSs : Bytes kemSharedSecretLength) (macInput responderMac : List UInt8)
    (randomizedPwd accountContextHash : Bytes hashLength) : OpaqueResult Ke3Keys := do
  let transcriptHash := sha512Multi P [Labels.transcriptContext, macInput]
  let prk ← PqKem.combineKeyMaterial P classicalIkm.toList kemSs.toList
    transcriptHash.toList
  let sessionKey ← expand P prk.toList Labels.pqSessionKeyInfo hashLength
  let respMacKey ← expand P prk.toList Labels.pqResponderMacInfo macLength
  let expectedRespMac ← hmacSha512 P respMacKey.toList macInput
  Outcome.failIf (!constantTimeEq responderMac expectedRespMac.toList) .authenticationError
  let exportKey ← deriveClientExportKey P randomizedPwd.toList accountContextHash exportKeyLength
  let initMacKey ← expand P prk.toList Labels.pqInitiatorMacInfo macLength
  let initiatorMac ← hmacSha512 P initMacKey.toList macInput
  pure { sessionKey, exportKey, initiatorMac }

structure Ke3Derived where
  respEphPk : Bytes publicKeyLength
  ke2 : Protocol.Ke2Ref
  recovered : Envelope.Opened
  secrets : SharedSecrets
  keys : Ke3Keys

/-- The closure up to the last step that can fail. -/
def ke3Derive (initiator : OpaqueInitiator) (ke2Data : List UInt8) :
    Op Ke3Message InitiatorState Ke3Derived := do
  let ke2 ← readKe2 P initiator ke2Data
  let evaluatedElem ← Cmd.lift (slice ke2.credentialResponse 0 publicKeyLength)
  let maskedEnvelopeData ←
    Cmd.lift (slice ke2.credentialResponse publicKeyLength ke2.credentialResponse.length)
  let randomizedPwd ← recoverRandomizedPwd P evaluatedElem
  let state ← Op.getState
  let recovered ← recoverKeys P initiator ke2 state.accountContextHash randomizedPwd
    evaluatedElem maskedEnvelopeData
  let respEphPk ← Cmd.okOr (tryInto publicKeyLength ke2.responderPublicKey)
    .invalidProtocolMessage
  let secrets ← ke3Secrets P state recovered respEphPk ke2.kemCiphertext
  Op.modifyState fun s => { s with pqEphemeralSecretKey := zeros _ }
  Op.modifyState fun s => { s with pqSharedSecret := secrets.kemSs }
  let classicalIkm ← ke3ClassicalIkm secrets
  let macInput ← ke3MacInput state respEphPk ke2 recovered
  let keys ← ke3KeySchedule P classicalIkm secrets.kemSs macInput ke2.responderMac randomizedPwd
    state.accountContextHash
  pure { respEphPk, ke2, recovered, secrets, keys }

def ke3Transcript (state : InitiatorState) (respEphPk : Bytes publicKeyLength)
    (ke2 : Protocol.Ke2Ref) (recovered : Envelope.Opened) : Transcript where
  initiatorEphemeralPublicKey := state.initiatorEphemeralPublicKey.toList
  responderEphemeralPublicKey := respEphPk.toList
  initiatorNonce := state.initiatorNonce.toList
  responderNonce := ke2.responderNonce
  initiatorPublicKey := recovered.initiatorPublicKey.toList
  responderPublicKey := recovered.responderPublicKey.toList
  credentialResponse := ke2.credentialResponse
  pqEphemeralPublicKey := state.pqEphemeralPublicKey.toList
  kemCiphertext := ke2.kemCiphertext
  accountContextHash := state.accountContextHash.toList

def ke3Commit (derived : Ke3Derived) :
    Op Ke3Message InitiatorState (SharedSecrets × Transcript) := do
  Op.modifyOut fun ke3 => { ke3 with initiatorMac := derived.keys.initiatorMac }
  let state ← Op.getState
  Op.modifyState fun s =>
    { s with
      responderPublicKey := derived.recovered.responderPublicKey
      initiatorPrivateKey := derived.recovered.initiatorPrivateKey
      initiatorPublicKey := derived.recovered.initiatorPublicKey
      exportKey := derived.keys.exportKey
      sessionKey := derived.keys.sessionKey }
  refreshDeadline
  Op.modifyState fun s => { s with phase := .ke3Generated }
  pure (derived.secrets, ke3Transcript state derived.respEphPk derived.ke2 derived.recovered)

def ke3Body (initiator : OpaqueInitiator) (ke2Data : List UInt8) :
    Op Ke3Message InitiatorState (SharedSecrets × Transcript) := do
  let derived ← ke3Derive P initiator ke2Data
  ke3Commit derived

def ke3Checks (ke2Data : List UInt8) : Op Ke3Message InitiatorState Unit := do
  Cmd.failIf (ke2Data.length ≠ ke2Length) .invalidProtocolMessage
  let state ← Op.getState
  Cmd.failIf (state.phase ≠ .ke1Generated) .validationError
  rejectExpired
  let state ← Op.getState
  Cmd.failIf (isAllZero state.accountContextHash.toList) .validationError

def generateKe3Traced (initiator : OpaqueInitiator) (ke2Data : List UInt8) :
    Op Ke3Message InitiatorState (SharedSecrets × Transcript) := do
  ke3Checks ke2Data
  (ke3Body P initiator ke2Data).onErr fun f => { f with state := f.state.invalidate }

def generateKe3 (initiator : OpaqueInitiator) (ke2Data : List UInt8) :
    Op Ke3Message InitiatorState Unit := do
  let _ ← generateKe3Traced P initiator ke2Data
  pure ()

/-! ## The end of the session -/

structure SessionOutput where
  sessionKey : Bytes hashLength
  exportKey : Bytes exportKeyLength

def initiatorFinish : Op SessionOutput InitiatorState Unit := do
  let state ← Op.getState
  Cmd.failIf (state.phase ≠ .ke3Generated) .validationError
  Cmd.abortIf (isAllZero state.sessionKey.toList)
    (fun f => { f with state := f.state.invalidate }) .invalidInput
  Op.modifyOut fun _ => { sessionKey := state.sessionKey, exportKey := state.exportKey }
  Op.modifyState fun s =>
    { s with
      sessionKey := zeros _
      exportKey := zeros _
      pqSharedSecret := zeros _
      pqEphemeralSecretKey := zeros _
      secureKey := zeros _
      secureKeyLen := 0
      accountContextHash := zeros _
      obliviousPrfBlindScalar := zeros _
      initiatorPrivateKey := zeros _
      initiatorEphemeralPrivateKey := zeros _ }
  Op.modifyState fun s => { s with phase := .finished }

end AuraOpaque.Agent
