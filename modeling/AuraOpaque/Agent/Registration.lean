import AuraOpaque.Agent.State
import AuraOpaque.Core.Oprf
import AuraOpaque.Core.Envelope
import AuraOpaque.Core.Protocol

/-!
# Registration, client side
-/

namespace AuraOpaque.Agent

open AuraOpaque.Foundation AuraOpaque.Core

variable (P : Primitives)

/-- `oprf::blind` with the request and the session state as its outputs. -/
def blindRequest (secureKey : List UInt8) : Op RegistrationRequest InitiatorState Unit :=
  Cmd.zoom (fun f => ⟨f.out.data, f.state.obliviousPrfBlindScalar, f.world⟩)
    (fun b f =>
      { out := { f.out with data := b.blindedElement }
        state := { f.state with obliviousPrfBlindScalar := b.blindScalar }
        world := b.world })
    (Oprf.blind P secureKey)

def registrationRequestChecks (secureKey : List UInt8) :
    Op RegistrationRequest InitiatorState Unit := do
  Cmd.failIf (secureKey.isEmpty ∨ maxSecureKeyLength < secureKey.length) .invalidInput
  let state ← Op.getState
  Cmd.failIf (state.phase ≠ .created) .validationError
  rejectExpired

def registrationRequestBody (secureKey : List UInt8) :
    Op RegistrationRequest InitiatorState Unit := do
  let initiatorPrivateKey ← Op.onWorld (randomNonzeroScalar P)
  Op.modifyState fun s => { s with initiatorPrivateKey }
  let initiatorPublicKey ← scalarmultBase P initiatorPrivateKey
  Op.modifyState fun s => { s with initiatorPublicKey }
  storeSecureKey secureKey
  blindRequest P secureKey

def createRegistrationRequest (secureKey : List UInt8) :
    Op RegistrationRequest InitiatorState Unit := do
  registrationRequestChecks secureKey
  registrationRequestBody P secureKey
  refreshDeadline
  Op.modifyState fun s => { s with phase := .registrationRequested }

def sealEnvelope (randomizedPwd : List UInt8) (rpk : Bytes publicKeyLength)
    (initiatorPrivateKey : Bytes privateKeyLength) (initiatorPublicKey : Bytes publicKeyLength) :
    Op RegistrationRecord InitiatorState Envelope :=
  Cmd.zoom (fun f => ⟨Envelope.new, f.world⟩) (fun sealing f => { f with world := sealing.world })
    do
      Envelope.«seal» P randomizedPwd rpk initiatorPrivateKey initiatorPublicKey
      let sealing ← Cmd.get
      pure sealing.envelope

/-- The checks; a response under another key than the configured one ends the session. -/
def finalizeChecks (initiator : OpaqueInitiator) (registrationResponse : List UInt8) :
    Op RegistrationRecord InitiatorState Protocol.RegistrationResponseRef := do
  Cmd.failIf (registrationResponse.length ≠ registrationResponseWireLength)
    .invalidProtocolMessage
  let state ← Op.getState
  Cmd.failIf (state.phase ≠ .registrationRequested) .validationError
  rejectExpired
  let response ← Protocol.parseRegistrationResponse registrationResponse
  let expectedRpk := initiator.responderPublicKey
  validatePublicKey P response.responderPublicKey
  Cmd.abortIf (!constantTimeEq response.responderPublicKey expectedRpk.toList)
    (fun f => { f with state := f.state.invalidate }) .authenticationError
  pure response

def finalizeBody (response : Protocol.RegistrationResponseRef) :
    Op RegistrationRecord InitiatorState Unit := do
  let state ← Op.getState
  let secureKey ← readSecureKey
  let evaluatedElement ← Cmd.okOr (tryInto publicKeyLength response.evaluatedElement)
    .invalidProtocolMessage
  let oprfOutput ← Oprf.finalize P secureKey state.obliviousPrfBlindScalar evaluatedElement
  let randomizedPwd ← deriveRandomizedPassword P oprfOutput.toList secureKey hashLength
  eraseSecureKey
  let rpk ← Cmd.okOr (tryInto publicKeyLength response.responderPublicKey)
    .invalidProtocolMessage
  let env ← sealEnvelope P randomizedPwd.toList rpk state.initiatorPrivateKey
    state.initiatorPublicKey
  Op.modifyState fun s => { s with responderPublicKey := rpk }
  let maskingKey ← deriveMaskingKey P randomizedPwd.toList
  Op.modifyOut fun record =>
    { record with
      envelope := maskingKey.toList ++ env.nonce ++ env.ciphertext ++ env.authTag }
  Op.modifyOut fun record => { record with initiatorPublicKey := state.initiatorPublicKey }

def finalizeRegistration (initiator : OpaqueInitiator) (registrationResponse : List UInt8) :
    Op RegistrationRecord InitiatorState Unit := do
  let response ← finalizeChecks P initiator registrationResponse
  finalizeBody P response
  eraseSecureKey
  Op.modifyState fun s => { s with initiatorPrivateKey := zeros _ }
  Op.modifyState fun s => { s with phase := .registrationFinalized }

end AuraOpaque.Agent
