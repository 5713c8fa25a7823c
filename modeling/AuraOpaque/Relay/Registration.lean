import AuraOpaque.Relay.State
import AuraOpaque.Core.Protocol

/-!
# Registration, relay side
-/

namespace AuraOpaque.Relay

open AuraOpaque.Foundation AuraOpaque.Core

variable (P : Primitives)

def createRegistrationResponse (responder : OpaqueResponder)
    (registrationRequest accountId : List UInt8) :
    Cmd OpaqueError RegistrationResponse Unit := do
  let payload ← Protocol.parseRegistrationRequest registrationRequest
  Cmd.failIf accountId.isEmpty .invalidInput
  validateRistrettoPoint P payload
  let blinded ← Cmd.okOr (tryInto publicKeyLength payload) .invalidProtocolMessage
  let evaluated ← responder.evaluator.evaluateOprf blinded accountId
  Cmd.zoom RegistrationResponse.data (fun data r => { r with data }) do
    spliceAt 0 publicKeyLength evaluated.toList
    spliceAt publicKeyLength registrationResponseLength responder.keypair.publicKey.toList

def buildCredentials (registrationRecord : List UInt8) :
    Cmd OpaqueError ResponderCredentials Unit := do
  let credentials ← Cmd.get
  Cmd.failIf credentials.registered .alreadyRegistered
  let view ← Protocol.parseRegistrationRecord registrationRecord
  validatePublicKey P view.initiatorPublicKey
  Cmd.modify fun c => { c with envelope := view.envelope }
  let maskingKey ← Cmd.lift (copyFromSlice maskingKeyLength view.maskingKey)
  Cmd.modify fun c => { c with maskingKey }
  let initiatorPublicKey ← Cmd.lift (copyFromSlice publicKeyLength view.initiatorPublicKey)
  Cmd.modify fun c => { c with initiatorPublicKey }
  Cmd.modify fun c => { c with registered := true }

end AuraOpaque.Relay
