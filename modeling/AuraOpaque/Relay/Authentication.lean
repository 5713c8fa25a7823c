import AuraOpaque.Relay.State
import AuraOpaque.Core.Protocol
import AuraOpaque.Handshake.KeySchedule

/-!
# Authentication, relay side

`generateKe2` is its source cut into consecutive blocks.  The run with a trace
also returns the secrets and the transcript it computed, which are locals of
the source.
-/

namespace AuraOpaque.Relay

open AuraOpaque.Foundation AuraOpaque.Core
open Outcome (failIf okOr)
open Handshake (SharedSecrets Transcript)

variable (P : Primitives)

@[simp] abbrev transcriptInputLength : ℕ :=
  2 * nonceLength + dhComponentCount * publicKeyLength + credentialResponseLength +
    kemCiphertextLength + kemPublicKeyLength + hashLength

/-! ## Credentials -/

/-- A public key, an envelope and a masking key, stored or made up. -/
structure CredentialMaterial where
  publicKey : Bytes publicKeyLength
  envelope : Bytes envelopeLength
  maskingKey : Bytes maskingKeyLength

/-- What an account that is not registered is answered with. -/
def fakeCredentials (responder : OpaqueResponder) (accountId : List UInt8) :
    OpaqueResult CredentialMaterial := do
  let fakeMaterial ← responder.evaluator.deriveFakeMaterial accountId
  let (_, publicKey) ← deriveKeyPair P fakeMaterial.toList
  let envelope ← expand P fakeMaterial.toList Labels.fakeCredentialsContext envelopeLength
  let maskingKey ← deriveMaskingKey P fakeMaterial.toList
  pure { publicKey, envelope, maskingKey }

/-- What is stored for a registered account; zeros otherwise. -/
def realCredentials (credentials : ResponderCredentials) : OpaqueResult CredentialMaterial := do
  if credentials.registered then
    failIf
      (credentials.envelope.length ≠ envelopeLength || isAllZero credentials.maskingKey.toList)
      .validationError
    validatePublicKey P credentials.initiatorPublicKey.toList
    let envelope ← okOr (tryInto envelopeLength credentials.envelope) .validationError
    pure
      { publicKey := credentials.initiatorPublicKey
        envelope
        maskingKey := credentials.maskingKey }
  else pure { publicKey := zeros _, envelope := zeros _, maskingKey := zeros _ }

def selectCredentials (responder : OpaqueResponder) (accountId : List UInt8)
    (credentials : ResponderCredentials) : OpaqueResult CredentialMaterial := do
  let fake ← fakeCredentials P responder accountId
  let real ← realCredentials P credentials
  let choice := credentials.registered
  let publicKey ←
    ctSelectBytes publicKeyLength real.publicKey.toList fake.publicKey.toList choice
  let maskingKey ←
    ctSelectBytes maskingKeyLength real.maskingKey.toList fake.maskingKey.toList choice
  let envelope ←
    ctSelectBytes envelopeLength real.envelope.toList fake.envelope.toList choice
  pure { publicKey, envelope, maskingKey }

/-! ## The second message -/

/-- The checks before any parsing. -/
def ke2Checks (ke1Data accountId : List UInt8) : Op Ke2Message ResponderState Unit := do
  Cmd.failIf (ke1Data.length ≠ ke1Length) .invalidProtocolMessage
  let state ← Op.getState
  Cmd.failIf (state.phase ≠ .created) .validationError
  rejectExpired
  Cmd.failIf accountId.isEmpty .invalidInput

/-- What the parsing and the checks on public keys leave in locals. -/
structure Ke2Inputs where
  ke1 : Protocol.Ke1Ref
  initEphPk : Bytes publicKeyLength
  selected : CredentialMaterial
  accountContextHash : Bytes hashLength

def ke2Inputs (responder : OpaqueResponder) (ke1Data accountId : List UInt8)
    (credentials : ResponderCredentials) : OpaqueResult Ke2Inputs := do
  let ke1 ← Protocol.parseKe1 ke1Data
  let initEphPk ← okOr (tryInto publicKeyLength ke1.initiatorPublicKey) .invalidProtocolMessage
  let selected ← selectCredentials P responder accountId credentials
  let accountContextHash := sha512Multi P [Labels.accountContextBinding, accountId]
  validateRistrettoPoint P ke1.credentialRequest
  validatePublicKey P initEphPk.toList
  validatePublicKey P selected.publicKey.toList
  pure { ke1, initEphPk, selected, accountContextHash }

/-- The state receives the long-term keys, then a fresh ephemeral pair and the nonce. -/
def ke2Ephemeral (responder : OpaqueResponder) (inputs : Ke2Inputs) :
    Op Ke2Message ResponderState Unit := do
  let kp := responder.keypair
  Op.modifyState fun s =>
    { s with
      initiatorPublicKey := inputs.initEphPk
      responderPrivateKey := kp.privateKey
      responderPublicKey := kp.publicKey
      handshakeComplete := false }
  let ephemeralPrivateKey ← Op.onWorld (randomNonzeroScalar P)
  Op.modifyState fun s => { s with responderEphemeralPrivateKey := ephemeralPrivateKey }
  let ephemeralPublicKey ← scalarmultBase P ephemeralPrivateKey
  Op.modifyState fun s => { s with responderEphemeralPublicKey := ephemeralPublicKey }
  let responderNonce ← Op.onWorld (randomBytes nonceLength)
  Op.modifyOut fun ke2 => { ke2 with responderNonce }
  Op.modifyOut fun ke2 => { ke2 with responderPublicKey := ephemeralPublicKey }

/-- `ke2.credential_response[lo..hi].copy_from_slice(source)`. -/
def writeCredentialResponse (lo hi : ℕ) (source : List UInt8) :
    Op Ke2Message ResponderState Unit :=
  Cmd.zoom (fun f => f.out.credentialResponse)
    (fun credentialResponse f => { f with out := { f.out with credentialResponse } })
    (spliceAt lo hi source)

/-- The evaluated element followed by the masked envelope. -/
def ke2CredentialResponse (responder : OpaqueResponder) (accountId : List UInt8)
    (inputs : Ke2Inputs) : Op Ke2Message ResponderState Unit := do
  let credReq ← Cmd.okOr (tryInto publicKeyLength inputs.ke1.credentialRequest)
    .invalidProtocolMessage
  let evaluatedElem ← responder.evaluator.evaluateOprf credReq accountId
  writeCredentialResponse 0 publicKeyLength evaluatedElem.toList
  let ke2 ← Op.getOut
  let maskedEnvelope ← maskCredentialEnvelope P inputs.selected.maskingKey
    ke2.responderNonce.toList evaluatedElem.toList inputs.accountContextHash
    inputs.selected.envelope
  writeCredentialResponse publicKeyLength credentialResponseLength maskedEnvelope.toList

/-- The four products. -/
def ke2Products (kp : ResponderKeyPair) (ephemeralPrivateKey : Bytes privateKeyLength)
    (inputs : Ke2Inputs) :
    OpaqueResult (Bytes publicKeyLength × Bytes publicKeyLength × Bytes publicKeyLength ×
      Bytes publicKeyLength) := do
  let dh1 ← scalarMult P kp.privateKey inputs.selected.publicKey
  let dh2 ← scalarMult P kp.privateKey inputs.initEphPk
  let dh3 ← scalarMult P ephemeralPrivateKey inputs.selected.publicKey
  let dh4 ← scalarMult P ephemeralPrivateKey inputs.initEphPk
  pure (dh1, dh2, dh3, dh4)

/-- The products and the encapsulation. -/
def ke2Secrets (responder : OpaqueResponder) (inputs : Ke2Inputs) :
    Op Ke2Message ResponderState SharedSecrets := do
  let state ← Op.getState
  let (dh1, dh2, dh3, dh4) ← ke2Products P responder.keypair
    state.responderEphemeralPrivateKey inputs
  let (kemCiphertext, kemSs) ←
    Op.onWorld (PqKem.encapsulate P inputs.ke1.pqEphemeralPublicKey)
  Op.modifyOut fun ke2 => { ke2 with kemCiphertext }
  Op.modifyState fun s => { s with pqSharedSecret := kemSs }
  pure { dh1, dh2, dh3, dh4, kemSs }

def ke2ClassicalIkm (secrets : SharedSecrets) : OpaqueResult (Bytes classicalIkmLength) :=
  Cmd.fill (zeros classicalIkmLength) do
    spliceAt 0 publicKeyLength secrets.dh1.toList
    spliceAt publicKeyLength (2 * publicKeyLength) secrets.dh2.toList
    spliceAt (2 * publicKeyLength) (3 * publicKeyLength) secrets.dh3.toList
    spliceAt (3 * publicKeyLength) classicalIkmLength secrets.dh4.toList

def ke2AppendFields (kp : ResponderKeyPair) (state : ResponderState) (ke2 : Ke2Message)
    (inputs : Ke2Inputs) : Cmd OpaqueError (Cursor UInt8 transcriptInputLength) Unit := do
  Cursor.append inputs.initEphPk.toList
  Cursor.append state.responderEphemeralPublicKey.toList
  Cursor.append inputs.ke1.initiatorNonce
  Cursor.append ke2.responderNonce.toList
  Cursor.append inputs.selected.publicKey.toList
  Cursor.append kp.publicKey.toList
  Cursor.append ke2.credentialResponse.toList
  Cursor.append inputs.ke1.pqEphemeralPublicKey
  Cursor.append ke2.kemCiphertext.toList
  Cursor.append inputs.accountContextHash.toList

/-- The written part of the MAC input buffer. -/
def ke2MacInput (kp : ResponderKeyPair) (state : ResponderState) (ke2 : Ke2Message)
    (inputs : Ke2Inputs) : OpaqueResult (List UInt8) := do
  let cursor ← Cmd.fill ⟨zeros transcriptInputLength, 0⟩ (ke2AppendFields kp state ke2 inputs)
  slice cursor.buffer.toList 0 cursor.off

/-- Session key, responder tag and the tag expected from the client. -/
def ke2KeySchedule (classicalIkm : Bytes classicalIkmLength)
    (kemSs : Bytes kemSharedSecretLength) (macInput : List UInt8) :
    Op Ke2Message ResponderState Unit := do
  let transcriptHash := sha512Multi P [Labels.transcriptContext, macInput]
  let prk ← PqKem.combineKeyMaterial P classicalIkm.toList kemSs.toList transcriptHash.toList
  Op.modifyState fun s => { s with sessionKey := zeros _ }
  Cmd.zoom (fun f => f.state.sessionKey)
    (fun sessionKey f => { f with state := { f.state with sessionKey } })
    (keyDerivationExpand P prk.toList Labels.pqSessionKeyInfo)
  let respMacKey ← expand P prk.toList Labels.pqResponderMacInfo macLength
  let responderMac ← hmacSha512 P respMacKey.toList macInput
  Op.modifyOut fun ke2 => { ke2 with responderMac }
  let initMacKey ← expand P prk.toList Labels.pqInitiatorMacInfo macLength
  let expectedInitiatorMac ← hmacSha512 P initMacKey.toList macInput
  Op.modifyState fun s => { s with expectedInitiatorMac }

/-- Everything after the checks on public keys but the last two writes. -/
def ke2Derive (responder : OpaqueResponder) (accountId : List UInt8) (inputs : Ke2Inputs) :
    Op Ke2Message ResponderState (SharedSecrets × Transcript) := do
  ke2Ephemeral P responder inputs
  ke2CredentialResponse P responder accountId inputs
  let secrets ← ke2Secrets P responder inputs
  let classicalIkm ← ke2ClassicalIkm secrets
  let state ← Op.getState
  let ke2 ← Op.getOut
  let macInput ← ke2MacInput responder.keypair state ke2 inputs
  ke2KeySchedule P classicalIkm secrets.kemSs macInput
  pure (secrets,
    { initiatorEphemeralPublicKey := inputs.initEphPk.toList
      responderEphemeralPublicKey := state.responderEphemeralPublicKey.toList
      initiatorNonce := inputs.ke1.initiatorNonce
      responderNonce := ke2.responderNonce.toList
      initiatorPublicKey := inputs.selected.publicKey.toList
      responderPublicKey := responder.keypair.publicKey.toList
      credentialResponse := ke2.credentialResponse.toList
      pqEphemeralPublicKey := inputs.ke1.pqEphemeralPublicKey
      kemCiphertext := ke2.kemCiphertext.toList
      accountContextHash := inputs.accountContextHash.toList })

/-- The locals come back as a trace. -/
def ke2Body (responder : OpaqueResponder) (accountId : List UInt8) (inputs : Ke2Inputs) :
    Op Ke2Message ResponderState (SharedSecrets × Transcript) := do
  let trace ← ke2Derive P responder accountId inputs
  refreshDeadline
  Op.modifyState fun s => { s with phase := .ke2Generated }
  pure trace

def generateKe2Traced (responder : OpaqueResponder) (ke1Data accountId : List UInt8)
    (credentials : ResponderCredentials) :
    Op Ke2Message ResponderState (SharedSecrets × Transcript) := do
  ke2Checks ke1Data accountId
  let inputs ← ke2Inputs P responder ke1Data accountId credentials
  ke2Body P responder accountId inputs

def generateKe2 (responder : OpaqueResponder) (ke1Data accountId : List UInt8)
    (credentials : ResponderCredentials) : Op Ke2Message ResponderState Unit := do
  let _ ← generateKe2Traced P responder ke1Data accountId credentials
  pure ()

/-! ## The end of the session -/

/-- Fills the 64-byte session key. -/
def responderFinish (ke3Data : List UInt8) : Op (Bytes hashLength) ResponderState Unit := do
  Cmd.failIf (ke3Data.length ≠ ke3Length) .invalidProtocolMessage
  let state ← Op.getState
  Cmd.failIf (state.phase ≠ .ke2Generated) .validationError
  rejectExpired
  let state ← Op.getState
  Cmd.failIf (isAllZero state.sessionKey.toList) .validationError
  let ke3 ← Cmd.onErr (Cmd.lift (Protocol.parseKe3 ke3Data)) fun f =>
    { f with
      state := { f.state.eraseSecrets with handshakeComplete := false, phase := .finished } }
  Cmd.abortIf (!constantTimeEq ke3.initiatorMac state.expectedInitiatorMac.toList)
    (fun f =>
      { f with
        state := { f.state.eraseSecrets with handshakeComplete := false, phase := .finished } })
    .authenticationError
  Op.modifyOut fun _ => state.sessionKey
  Op.modifyState fun s => { s.eraseSecrets with handshakeComplete := true, phase := .finished }

end AuraOpaque.Relay
