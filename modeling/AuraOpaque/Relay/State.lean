import AuraOpaque.Core.Environment
import AuraOpaque.Core.Oprf

/-!
# The relay's session state, credentials and configuration
-/

namespace AuraOpaque.Relay

open AuraOpaque.Foundation AuraOpaque.Core
open Outcome (failIf okOr)

inductive ResponderPhase where
  | created
  | ke2Generated
  | finished
  deriving DecidableEq, Repr

structure ResponderState where
  phase : ResponderPhase
  createdAt : ℕ
  responderPrivateKey : Bytes privateKeyLength
  responderPublicKey : Bytes publicKeyLength
  responderEphemeralPrivateKey : Bytes privateKeyLength
  responderEphemeralPublicKey : Bytes publicKeyLength
  initiatorPublicKey : Bytes publicKeyLength
  sessionKey : Bytes hashLength
  expectedInitiatorMac : Bytes macLength
  handshakeComplete : Bool
  pqSharedSecret : Bytes kemSharedSecretLength
  deriving DecidableEq

namespace ResponderState

/-- Every field but the phase, the deadline and the completion flag. -/
def zeroize (s : ResponderState) : ResponderState where
  phase := s.phase
  createdAt := s.createdAt
  responderPrivateKey := zeros _
  responderPublicKey := zeros _
  responderEphemeralPrivateKey := zeros _
  responderEphemeralPublicKey := zeros _
  initiatorPublicKey := zeros _
  sessionKey := zeros _
  expectedInitiatorMac := zeros _
  handshakeComplete := s.handshakeComplete
  pqSharedSecret := zeros _

def invalidate (s : ResponderState) : ResponderState :=
  { s.zeroize with phase := .finished, handshakeComplete := false }

/-- `ResponderState::new()` at a given clock reading. -/
def newAt (createdAt : ℕ) : ResponderState where
  phase := .created
  createdAt := createdAt
  responderPrivateKey := zeros _
  responderPublicKey := zeros _
  responderEphemeralPrivateKey := zeros _
  responderEphemeralPublicKey := zeros _
  initiatorPublicKey := zeros _
  sessionKey := zeros _
  expectedInitiatorMac := zeros _
  handshakeComplete := false
  pqSharedSecret := zeros _

def new : Cmd OpaqueError World ResponderState := do
  let createdAt ← World.now
  pure (newAt createdAt)

/-- The clock is read only while a KE3 is awaited. -/
def isExpired (s : ResponderState) : Cmd OpaqueError World Bool :=
  if s.phase = .created ∨ s.phase = .finished then pure false
  else do
    let reading ← World.now
    pure (lifetimeOver s.createdAt reading)

/-- The secrets that `responder_finish` erases in each of its clean-up blocks. -/
def eraseSecrets (s : ResponderState) : ResponderState :=
  { s with
    sessionKey := zeros _
    pqSharedSecret := zeros _
    expectedInitiatorMac := zeros _
    responderEphemeralPrivateKey := zeros _
    responderPrivateKey := zeros _ }

end ResponderState

section Steps

variable {Out : Type}

/-- `if state.is_expired() { state.invalidate(); return Err(ValidationError) }`. -/
def rejectExpired : Op Out ResponderState Unit := do
  let state ← Op.getState
  let expired ← Op.onWorld state.isExpired
  Cmd.abortIf expired (fun f => { f with state := f.state.invalidate }) .validationError

def refreshDeadline : Op Out ResponderState Unit := do
  let createdAt ← Op.onWorld World.now
  Op.modifyState fun s => { s with createdAt }

end Steps

/-! ## Keys, messages and credentials -/

structure ResponderKeyPair where
  privateKey : Bytes privateKeyLength
  publicKey : Bytes publicKeyLength

def ResponderKeyPair.generate (P : Primitives) : Cmd OpaqueError World ResponderKeyPair := do
  let privateKey ← randomNonzeroScalar P
  let publicKey ← scalarmultBase P privateKey
  pure { privateKey, publicKey }

def ResponderKeyPair.fromKeys (P : Primitives) (privateKey publicKey : List UInt8) :
    OpaqueResult ResponderKeyPair := do
  failIf (privateKey.length ≠ privateKeyLength || publicKey.length ≠ publicKeyLength)
    .invalidInput
  validatePublicKey P publicKey
  let sk ← okOr (tryInto privateKeyLength privateKey) .invalidInput
  let derived ← scalarmultBase P sk
  failIf (!constantTimeEq publicKey derived.toList) .invalidPublicKey
  let privateKey ← copyFromSlice privateKeyLength privateKey
  let publicKey ← copyFromSlice publicKeyLength publicKey
  pure { privateKey, publicKey }

structure RegistrationResponse where
  data : Bytes registrationResponseLength

def RegistrationResponse.new : RegistrationResponse where
  data := zeros _

structure Ke2Message where
  responderNonce : Bytes nonceLength
  responderPublicKey : Bytes publicKeyLength
  credentialResponse : Bytes credentialResponseLength
  responderMac : Bytes macLength
  kemCiphertext : Bytes kemCiphertextLength

def Ke2Message.new : Ke2Message where
  responderNonce := zeros _
  responderPublicKey := zeros _
  credentialResponse := zeros _
  responderMac := zeros _
  kemCiphertext := zeros _

structure ResponderCredentials where
  envelope : List UInt8
  maskingKey : Bytes maskingKeyLength
  initiatorPublicKey : Bytes publicKeyLength
  registered : Bool

def ResponderCredentials.new : ResponderCredentials where
  envelope := List.replicate envelopeLength 0
  maskingKey := zeros _
  initiatorPublicKey := zeros _
  registered := false

structure OpaqueResponder where
  keypair : ResponderKeyPair
  evaluator : OprfEvaluator

namespace OpaqueResponder

def new (P : Primitives) (keypair : ResponderKeyPair) (oprfSeed : Bytes oprfSeedLength) :
    OpaqueResult OpaqueResponder := do
  validatePublicKey P keypair.publicKey.toList
  let evaluator ← InMemoryEvaluator.new oprfSeed
  pure { keypair, evaluator := evaluator.toOprfEvaluator P }

def withEvaluator (P : Primitives) (keypair : ResponderKeyPair) (evaluator : OprfEvaluator) :
    OpaqueResult OpaqueResponder := do
  validatePublicKey P keypair.publicKey.toList
  pure { keypair, evaluator }

end OpaqueResponder

/-! ## What the steps do -/

section Runs

variable {Out : Type}

theorem ResponderState.isExpired_run_of_created {s : ResponderState} (h : s.phase = .created)
    (w : World) : s.isExpired.run w = (.ok false, w) := by
  rw [isExpired, if_pos (.inl h)]
  rfl

theorem rejectExpired_run_of_created {f : Frame Out ResponderState}
    (h : f.state.phase = .created) : rejectExpired.run f = (.ok (), f) := by
  simp [rejectExpired, Cmd.run_bind, ResponderState.isExpired_run_of_created h,
    Cmd.run_abortIf]

/-- Past the deadline the state is invalidated, before it nothing but the clock moves. -/
theorem rejectExpired_run {f : Frame Out ResponderState}
    (h : f.state.phase = .ke2Generated) :
    rejectExpired.run f =
      if lifetimeOver f.state.createdAt (f.world.clock 0) then
        (.err .validationError,
          { f with state := f.state.invalidate, world := f.world.tick })
      else (.ok (), { f with world := f.world.tick }) := by
  have hexpired : f.state.isExpired.run f.world =
      (.ok (lifetimeOver f.state.createdAt (f.world.clock 0)), f.world.tick) := by
    rw [ResponderState.isExpired, if_neg (by simp [h])]
    rfl
  simp [rejectExpired, Cmd.run_bind, hexpired, Cmd.run_abortIf]

@[simp] theorem refreshDeadline_run (f : Frame Out ResponderState) :
    refreshDeadline.run f =
      (.ok (), { f with
        state := { f.state with createdAt := f.world.clock 0 }
        world := f.world.tick }) := rfl

end Runs

end AuraOpaque.Relay
