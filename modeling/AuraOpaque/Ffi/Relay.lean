import AuraOpaque.Ffi.Agent

/-!
# The relay's entry points
-/

namespace AuraOpaque.Ffi

open AuraOpaque.Foundation AuraOpaque.Core
open Relay (OpaqueResponder ResponderCredentials ResponderKeyPair ResponderState)

variable (P : Primitives)

/-! ## Handles -/

def acquireRelay (handle : ℕ) : Entry OpaqueResponder := do
  acquire .relay handle
  .act (fun store => (.ok (store.relays handle), store)) .ret

def acquireRelayState (handle : ℕ) : Entry Unit := acquire .relayState handle

def acquireRelayKeypair (handle : ℕ) : Entry RelayKeypairHandle := do
  acquire .relayKeypair handle
  .act (fun store => (.ok (store.relayKeypairs handle), store)) .ret

def invalidateRelayState (state : ResponderState) : ResponderState := state.invalidate

def runRelayStateful (operation : Op Memory ResponderState Unit)
    (f : Frame Memory ResponderState) : ℤ × Frame Memory ResponderState :=
  runStateful invalidateRelayState operation f

def onRelayState (handle : ℕ) (operation : Op Memory ResponderState Unit) : Entry ℤ :=
  .act (fun store =>
    let r := runRelayStateful operation ⟨store.memory, store.relayStates handle, store.world⟩
    (.ok r.1,
      { store with
        memory := r.2.out
        relayStates := Function.update store.relayStates handle r.2.state
        world := r.2.world })) .ret

section Calls

variable {Out : Type}

def onResponder (out : Out) (c : Op Out ResponderState Unit) : Op Memory ResponderState Out :=
  onSession id (fun state _ => state) out c

end Calls

/-! ## Construction and destruction -/

def opaqueRelayKeypairGenerate (handle : ℕ) (panics : Bool) : Entry ℤ := do
  Entry.rejectIf (handle = null) .invalidInput
  .clear ⟨.relayKeypair, handle⟩ (.ret ())
  let keypair ← Entry.work
    (onWorld (fun _ => OpaqueError.cryptoError.toCInt) (ResponderKeyPair.generate P))
  let oprfSeed ← Entry.work
    (onWorld (fun _ => OpaqueError.cryptoError.toCInt) (randomBytes oprfSeedLength))
  Entry.work (injectTestPanic panics)
  .publish ⟨.relayKeypair, handle⟩
    (fun address store =>
      { store with
        relayKeypairs := Function.update store.relayKeypairs address { keypair, oprfSeed } })
    (.ret ())
  pure 0

def opaqueRelayKeypairTryDestroy (handlePtr : ℕ) : Entry ℤ :=
  tryDestroy .relayKeypair handlePtr fun handle store =>
    { store with
      relayKeypairs := Function.update store.relayKeypairs handle
        { keypair := ⟨zeros _, zeros _⟩, oprfSeed := zeros _ } }

structure RelayKeypairGetPublicKey where
  handle : ℕ
  publicKey : ℕ
  keyBufferSize : ℕ

def opaqueRelayKeypairGetPublicKey (args : RelayKeypairGetPublicKey) (panics : Bool) :
    Entry ℤ := do
  Entry.rejectIf (args.publicKey = null ∨ args.keyBufferSize < publicKeyLength) .invalidInput
  let kh ← acquireRelayKeypair args.handle
  Entry.work do
    injectTestPanic panics
    Cmd.modify fun store =>
      { store with memory := store.memory.write args.publicKey kh.keypair.publicKey.toList }
  pure 0

structure RelayCreate where
  keypairHandle : ℕ
  handle : ℕ

/-- A responder that is a new object behind the handle in the slot. -/
def publishResponder (handle : ℕ) (responder : OpaqueResponder) (panics : Bool) : Entry ℤ := do
  Entry.work (injectTestPanic panics)
  .publish ⟨.relay, handle⟩
    (fun address store => { store with relays := Function.update store.relays address responder })
    (.ret ())
  pure 0

def opaqueRelayCreate (args : RelayCreate) (panics : Bool) : Entry ℤ := do
  Entry.rejectIf (args.handle = null) .invalidInput
  .clear ⟨.relay, args.handle⟩ (.ret ())
  let kh ← acquireRelayKeypair args.keypairHandle
  let result := OpaqueResponder.new P kh.keypair kh.oprfSeed
  -- the guard is dropped before the result is looked at
  .release ⟨.relayKeypair, args.keypairHandle⟩ (.ret ())
  let responder ← Entry.work (withCode (fun _ => OpaqueError.invalidInput.toCInt) result)
  publishResponder args.handle responder panics

def opaqueRelayTryDestroy (handlePtr : ℕ) : Entry ℤ :=
  tryDestroy .relay handlePtr fun handle store =>
    { store with
      relays := Function.update store.relays handle
        { keypair := ⟨zeros _, zeros _⟩
          evaluator := (InMemoryEvaluator.mk (zeros _)).toOprfEvaluator P } }

def opaqueRelayStateCreate (handle : ℕ) (panics : Bool) : Entry ℤ := do
  Entry.rejectIf (handle = null) .invalidInput
  .clear ⟨.relayState, handle⟩ (.ret ())
  let state ← Entry.work (onWorld OpaqueError.toCInt ResponderState.new)
  Entry.work (injectTestPanic panics)
  .publish ⟨.relayState, handle⟩
    (fun address store =>
      { store with relayStates := Function.update store.relayStates address state })
    (.ret ())
  pure 0

def opaqueRelayStateTryDestroy (handlePtr : ℕ) : Entry ℤ :=
  tryDestroy .relayState handlePtr fun handle store =>
    { store with
      relayStates := Function.update store.relayStates handle
        (store.relayStates handle).zeroize }

structure RelayCreateWithKeys where
  privateKey : ℕ
  privateKeyLen : ℕ
  publicKey : ℕ
  publicKeyLen : ℕ
  oprfSeedPtr : ℕ
  oprfSeedLen : ℕ
  handle : ℕ

def RelayCreateWithKeys.Malformed (args : RelayCreateWithKeys) : Prop :=
  args.privateKey = null ∨ args.privateKeyLen ≠ privateKeyLength ∨
    args.publicKey = null ∨ args.publicKeyLen ≠ publicKeyLength ∨
    args.oprfSeedPtr = null ∨ args.oprfSeedLen ≠ oprfSeedLength ∨
    rangesOverlap args.privateKey args.privateKeyLen args.handle pointerSize ∨
    rangesOverlap args.publicKey args.publicKeyLen args.handle pointerSize ∨
    rangesOverlap args.oprfSeedPtr args.oprfSeedLen args.handle pointerSize

instance (args : RelayCreateWithKeys) : Decidable args.Malformed :=
  inferInstanceAs (Decidable (_ ∨ _))

def opaqueRelayCreateWithKeys (args : RelayCreateWithKeys) (panics : Bool) : Entry ℤ := do
  Entry.rejectIf (args.handle = null) .invalidInput
  .clear ⟨.relay, args.handle⟩ (.ret ())
  Entry.rejectIf args.Malformed .invalidInput
  let responder ← Entry.work do
    let store ← Cmd.get
    let sk := store.memory.read args.privateKey args.privateKeyLen
    let pk := store.memory.read args.publicKey args.publicKeyLen
    let oprfSeed ← Cmd.lift (copyFromSlice oprfSeedLength
      (store.memory.read args.oprfSeedPtr oprfSeedLength))
    let keypair ← withCode (fun _ => OpaqueError.invalidInput.toCInt)
      (ResponderKeyPair.fromKeys P sk pk)
    withCode (fun _ => OpaqueError.invalidInput.toCInt) (OpaqueResponder.new P keypair oprfSeed)
  publishResponder args.handle responder panics

/-! ## Registration -/

structure RelayCreateRegistrationResponse where
  relayHandle : ℕ
  requestData : ℕ
  requestLength : ℕ
  accountId : ℕ
  accountIdLength : ℕ
  responseData : ℕ
  responseBufferSize : ℕ

def RelayCreateRegistrationResponse.Malformed (args : RelayCreateRegistrationResponse) : Prop :=
  args.requestData = null ∨ args.requestLength ≠ registrationRequestWireLength ∨
    args.accountId = null ∨ args.accountIdLength = 0 ∨
    args.accountIdLength > maxAccountIdLength ∨ args.responseData = null ∨
    args.responseBufferSize < registrationResponseWireLength ∨
    rangesOverlap args.requestData args.requestLength args.responseData
      registrationResponseWireLength ∨
    rangesOverlap args.accountId args.accountIdLength args.responseData
      registrationResponseWireLength

instance (args : RelayCreateRegistrationResponse) : Decidable args.Malformed :=
  inferInstanceAs (Decidable (_ ∨ _))

def opaqueRelayCreateRegistrationResponse (args : RelayCreateRegistrationResponse)
    (panics : Bool) : Entry ℤ := do
  Entry.rejectIf args.Malformed .invalidInput
  let responder ← acquireRelay args.relayHandle
  Entry.work do
    let store ← Cmd.get
    let req := store.memory.read args.requestData args.requestLength
    let aid := store.memory.read args.accountId args.accountIdLength
    let wire ← withCode OpaqueError.toCInt do
      let response ← Cmd.fill .new (Relay.createRegistrationResponse P responder req aid)
      let evaluatedElement ← slice response.data.toList 0 publicKeyLength
      let responderPublicKey ←
        slice response.data.toList publicKeyLength registrationResponseLength
      Cmd.fill (zeros registrationResponseWireLength)
        (Protocol.writeRegistrationResponse evaluatedElement responderPublicKey)
    injectTestPanic panics
    Cmd.modify fun store =>
      { store with memory := store.memory.write args.responseData wire.toList }
  pure 0

structure RelayBuildCredentials where
  registrationRecord : ℕ
  recordLength : ℕ
  credentialsOut : ℕ
  credentialsOutLength : ℕ

def RelayBuildCredentials.Malformed (args : RelayBuildCredentials) : Prop :=
  args.registrationRecord = null ∨ args.recordLength ≠ registrationRecordLength ∨
    args.credentialsOut = null ∨ args.credentialsOutLength < responderCredentialsLength ∨
    rangesOverlap args.registrationRecord args.recordLength args.credentialsOut
      responderCredentialsLength

instance (args : RelayBuildCredentials) : Decidable args.Malformed :=
  inferInstanceAs (Decidable (_ ∨ _))

/-- The bytes that `opaque_relay_build_credentials` hands back for a record. -/
def credentialsWire (record : List UInt8) : OpaqueResult (Bytes responderCredentialsLength) := do
  let creds ← Cmd.fill .new (Relay.buildCredentials P record)
  let credentialStorage ← Cmd.fill (zeros registrationCredentialLength) do
    spliceAt 0 maskingKeyLength creds.maskingKey.toList
    spliceAt maskingKeyLength registrationCredentialLength creds.envelope
  Cmd.fill (zeros responderCredentialsLength)
    (Protocol.writeRegistrationRecord credentialStorage.toList creds.initiatorPublicKey.toList)

def opaqueRelayBuildCredentials (args : RelayBuildCredentials) (panics : Bool) : Entry ℤ := do
  Entry.rejectIf args.Malformed .invalidInput
  Entry.work do
    let store ← Cmd.get
    let wire ← withCode OpaqueError.toCInt
      (credentialsWire P (store.memory.read args.registrationRecord args.recordLength))
    injectTestPanic panics
    Cmd.modify fun store =>
      { store with memory := store.memory.write args.credentialsOut wire.toList }
  pure 0

/-! ## Login -/

structure RelayGenerateKe2 where
  relayHandle : ℕ
  ke1Data : ℕ
  ke1Length : ℕ
  accountId : ℕ
  accountIdLength : ℕ
  credentialsData : ℕ
  credentialsLength : ℕ
  ke2Data : ℕ
  ke2BufferSize : ℕ
  stateHandle : ℕ

def RelayGenerateKe2.Malformed (args : RelayGenerateKe2) : Prop :=
  args.ke1Data = null ∨ args.ke1Length ≠ Core.ke1Length ∨ args.accountId = null ∨
    args.accountIdLength = 0 ∨ args.accountIdLength > maxAccountIdLength ∨
    args.ke2Data = null ∨ args.ke2BufferSize < ke2Length ∨
    rangesOverlap args.ke1Data args.ke1Length args.ke2Data ke2Length ∨
    rangesOverlap args.accountId args.accountIdLength args.ke2Data ke2Length

instance (args : RelayGenerateKe2) : Decidable args.Malformed :=
  inferInstanceAs (Decidable (_ ∨ _))

/-- The arms of the first `match` on the length of the credentials that return. -/
def RelayGenerateKe2.BadCredentials (args : RelayGenerateKe2) : Prop :=
  args.credentialsLength ≠ 0 ∧
    (args.credentialsLength = responderCredentialsLength →
      args.credentialsData = null ∨
        rangesOverlap args.credentialsData args.credentialsLength args.ke2Data ke2Length)

instance (args : RelayGenerateKe2) : Decidable args.BadCredentials :=
  inferInstanceAs (Decidable (_ ∧ _))

/-- The stored credentials, or a fake record under the relay's own key. -/
def credentialWire (responder : OpaqueResponder) (input : List UInt8) (credentialsLength : ℕ) :
    Outcome ℤ (Bytes responderCredentialsLength) :=
  if credentialsLength = responderCredentialsLength then
    copyFromSlice responderCredentialsLength input
  else if credentialsLength = 0 then
    withCode (fun _ => OpaqueError.invalidInput.toCInt)
      (Cmd.fill (zeros responderCredentialsLength)
        (Protocol.writeRegistrationRecord (List.replicate registrationCredentialLength 0)
          responder.keypair.publicKey.toList))
  else .err OpaqueError.invalidInput.toCInt

/-- Decodes the credentials, before the session is admitted. -/
def decodeCredentials (responder : OpaqueResponder) (input : List UInt8)
    (credentialsLength : ℕ) : Outcome ℤ ResponderCredentials := do
  let wire ← credentialWire responder input credentialsLength
  let recordView ← withCode (fun _ => ffiCorruptedRecord)
    (Protocol.parseRegistrationRecord wire.toList)
  withCode (fun _ => ffiCorruptedRecord) (validatePublicKey P recordView.initiatorPublicKey)
  Outcome.failIf
    (recordView.envelope.length ≠ envelopeLength ∨
      recordView.maskingKey.length ≠ maskingKeyLength)
    ffiCorruptedRecord
  if credentialsLength = responderCredentialsLength then do
    let maskingKey ← copyFromSlice maskingKeyLength recordView.maskingKey
    let initiatorPublicKey ← copyFromSlice publicKeyLength recordView.initiatorPublicKey
    pure { envelope := recordView.envelope, maskingKey, initiatorPublicKey, registered := true }
  else if credentialsLength = 0 then pure .new
  else .err OpaqueError.invalidInput.toCInt

def generateKe2Operation (responder : OpaqueResponder) (creds : ResponderCredentials)
    (args : RelayGenerateKe2) (strike : Strike ResponderState) :
    Op Memory ResponderState Unit := do
  let wire ← beforeCommit strike do
    let memory ← Op.getOut
    let ke1 := memory.read args.ke1Data args.ke1Length
    let aid := memory.read args.accountId args.accountIdLength
    let ke2 ← onResponder .new (Relay.generateKe2 P responder ke1 aid creds)
    Cmd.lift (Cmd.fill (zeros ke2Length)
      (Protocol.writeKe2 ke2.responderNonce.toList ke2.responderPublicKey.toList
        ke2.credentialResponse.toList ke2.responderMac.toList ke2.kemCiphertext.toList))
  copyNonoverlapping wire.toList args.ke2Data

def opaqueRelayGenerateKe2 (args : RelayGenerateKe2) (strike : Strike ResponderState) :
    Entry ℤ := do
  Entry.rejectIf args.Malformed .invalidInput
  Entry.rejectIf args.BadCredentials .invalidInput
  let responder ← acquireRelay args.relayHandle
  let creds ← Entry.work do
    let store ← Cmd.get
    decodeCredentials P responder
      (store.memory.read args.credentialsData args.credentialsLength) args.credentialsLength
  acquireRelayState args.stateHandle
  onRelayState args.stateHandle (generateKe2Operation P responder creds args strike)

structure RelayFinish where
  relayHandle : ℕ
  ke3Data : ℕ
  ke3Length : ℕ
  stateHandle : ℕ
  sessionKey : ℕ
  sessionKeyBufferSize : ℕ

def RelayFinish.Malformed (args : RelayFinish) : Prop :=
  args.ke3Data = null ∨ args.ke3Length ≠ Core.ke3Length ∨ args.sessionKey = null ∨
    args.sessionKeyBufferSize < hashLength ∨
    rangesOverlap args.ke3Data args.ke3Length args.sessionKey hashLength

instance (args : RelayFinish) : Decidable args.Malformed :=
  inferInstanceAs (Decidable (_ ∨ _))

def relayFinishOperation (args : RelayFinish) (strike : Strike ResponderState) :
    Op Memory ResponderState Unit := do
  let sk ← beforeCommit strike do
    let memory ← Op.getOut
    onResponder (zeros hashLength)
      (Relay.responderFinish (memory.read args.ke3Data args.ke3Length))
  copyNonoverlapping sk.toList args.sessionKey

def opaqueRelayFinish (args : RelayFinish) (strike : Strike ResponderState) : Entry ℤ := do
  Entry.rejectIf args.Malformed .invalidInput
  let _ ← acquireRelay args.relayHandle
  acquireRelayState args.stateHandle
  onRelayState args.stateHandle (relayFinishOperation args strike)

end AuraOpaque.Ffi
