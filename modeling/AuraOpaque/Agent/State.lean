import AuraOpaque.Core.Environment
import AuraOpaque.Core.Crypto

/-!
# The client's session state

Fields the client zeroes are byte arrays of the source's sizes; the deadline is
a clock reading in nanoseconds.
-/

namespace AuraOpaque.Agent

open AuraOpaque.Foundation AuraOpaque.Core

inductive InitiatorPhase where
  | created
  | registrationRequested
  | registrationFinalized
  | ke1Generated
  | ke3Generated
  | finished
  deriving DecidableEq, Repr

structure InitiatorState where
  phase : InitiatorPhase
  createdAt : ℕ
  secureKey : Bytes maxSecureKeyLength
  secureKeyLen : ℕ
  initiatorPrivateKey : Bytes privateKeyLength
  initiatorPublicKey : Bytes publicKeyLength
  initiatorEphemeralPrivateKey : Bytes privateKeyLength
  initiatorEphemeralPublicKey : Bytes publicKeyLength
  responderPublicKey : Bytes publicKeyLength
  sessionKey : Bytes hashLength
  obliviousPrfBlindScalar : Bytes privateKeyLength
  initiatorNonce : Bytes nonceLength
  accountContextHash : Bytes hashLength
  exportKey : Bytes exportKeyLength
  pqEphemeralPublicKey : Bytes kemPublicKeyLength
  pqEphemeralSecretKey : Bytes kemSecretKeyLength
  pqSharedSecret : Bytes kemSharedSecretLength

namespace InitiatorState

/-- Every field but the phase and the deadline. -/
def zeroize (s : InitiatorState) : InitiatorState where
  phase := s.phase
  createdAt := s.createdAt
  secureKey := zeros _
  secureKeyLen := 0
  initiatorPrivateKey := zeros _
  initiatorPublicKey := zeros _
  initiatorEphemeralPrivateKey := zeros _
  initiatorEphemeralPublicKey := zeros _
  responderPublicKey := zeros _
  sessionKey := zeros _
  obliviousPrfBlindScalar := zeros _
  initiatorNonce := zeros _
  accountContextHash := zeros _
  exportKey := zeros _
  pqEphemeralPublicKey := zeros _
  pqEphemeralSecretKey := zeros _
  pqSharedSecret := zeros _

def invalidate (s : InitiatorState) : InitiatorState := { s.zeroize with phase := .finished }

/-- `InitiatorState::new()` at a given clock reading. -/
def newAt (createdAt : ℕ) : InitiatorState where
  phase := .created
  createdAt := createdAt
  secureKey := zeros _
  secureKeyLen := 0
  initiatorPrivateKey := zeros _
  initiatorPublicKey := zeros _
  initiatorEphemeralPrivateKey := zeros _
  initiatorEphemeralPublicKey := zeros _
  responderPublicKey := zeros _
  sessionKey := zeros _
  obliviousPrfBlindScalar := zeros _
  initiatorNonce := zeros _
  accountContextHash := zeros _
  exportKey := zeros _
  pqEphemeralPublicKey := zeros _
  pqEphemeralSecretKey := zeros _
  pqSharedSecret := zeros _

def new : Cmd OpaqueError World InitiatorState := do
  let createdAt ← World.now
  pure (newAt createdAt)

/-- Phases in which the deadline is not looked at. -/
def Timeless (s : InitiatorState) : Prop :=
  s.phase = .created ∨ s.phase = .registrationFinalized ∨ s.phase = .finished

instance (s : InitiatorState) : Decidable s.Timeless :=
  inferInstanceAs (Decidable (_ ∨ _ ∨ _))

/-- The clock is read only in the phases with a deadline. -/
def isExpired (s : InitiatorState) : Cmd OpaqueError World Bool :=
  if s.Timeless then pure false
  else do
    let reading ← World.now
    pure (lifetimeOver s.createdAt reading)

end InitiatorState

/-! ## Steps on the state inside an operation -/

section Steps

variable {Out : Type}

/-- `if state.is_expired() { state.invalidate(); return Err(ValidationError) }`. -/
def rejectExpired : Op Out InitiatorState Unit := do
  let state ← Op.getState
  let expired ← Op.onWorld state.isExpired
  Cmd.abortIf expired (fun f => { f with state := f.state.invalidate }) .validationError

def refreshDeadline : Op Out InitiatorState Unit := do
  let createdAt ← Op.onWorld World.now
  Op.modifyState fun s => { s with createdAt }

/-- The password copied to the front of the zeroed buffer. -/
def storeSecureKey (secureKey : List UInt8) : Op Out InitiatorState Unit := do
  Op.modifyState fun s => { s with secureKey := zeros _ }
  let state ← Op.getState
  let buffer ← Cmd.lift (splice state.secureKey 0 secureKey.length secureKey)
  Op.modifyState fun s => { s with secureKey := buffer }
  Op.modifyState fun s => { s with secureKeyLen := secureKey.length }

/-- `&state.secure_key[..state.secure_key_len]`. -/
def readSecureKey : Op Out InitiatorState (List UInt8) := do
  let state ← Op.getState
  Cmd.lift (slice state.secureKey.toList 0 state.secureKeyLen)

/-- The password and the blind are erased as soon as they are used up. -/
def eraseSecureKey : Op Out InitiatorState Unit :=
  Op.modifyState fun s =>
    { s with secureKey := zeros _, secureKeyLen := 0, obliviousPrfBlindScalar := zeros _ }

end Steps

/-! ## Messages and the client's configuration -/

structure RegistrationRequest where
  data : Bytes registrationRequestLength

def RegistrationRequest.new : RegistrationRequest where
  data := zeros _

structure RegistrationRecord where
  /-- The masking key followed by the encrypted envelope. -/
  envelope : List UInt8
  initiatorPublicKey : Bytes publicKeyLength

def RegistrationRecord.new : RegistrationRecord where
  envelope := List.replicate registrationCredentialLength 0
  initiatorPublicKey := zeros _

structure Ke1Message where
  initiatorNonce : Bytes nonceLength
  initiatorPublicKey : Bytes publicKeyLength
  credentialRequest : Bytes registrationRequestLength
  pqEphemeralPublicKey : Bytes kemPublicKeyLength

def Ke1Message.new : Ke1Message where
  initiatorNonce := zeros _
  initiatorPublicKey := zeros _
  credentialRequest := zeros _
  pqEphemeralPublicKey := zeros _

structure Ke3Message where
  initiatorMac : Bytes macLength

def Ke3Message.new : Ke3Message where
  initiatorMac := zeros _

/-- A client, configured with the public key of its responder. -/
structure OpaqueInitiator where
  responderPublicKey : Bytes publicKeyLength

def OpaqueInitiator.new (P : Primitives) (responderPublicKey : List UInt8) :
    OpaqueResult OpaqueInitiator := do
  validatePublicKey P responderPublicKey
  let key ← copyFromSlice publicKeyLength responderPublicKey
  pure { responderPublicKey := key }

/-! ## What the steps do -/

section Runs

variable {Out : Type}

theorem InitiatorState.isExpired_run_of_timeless {s : InitiatorState} (h : s.Timeless)
    (w : World) : s.isExpired.run w = (.ok false, w) := by
  rw [isExpired, if_pos h]
  rfl

theorem InitiatorState.isExpired_run {s : InitiatorState} (h : ¬ s.Timeless) (w : World) :
    s.isExpired.run w = (.ok (lifetimeOver s.createdAt (w.clock 0)), w.tick) := by
  rw [isExpired, if_neg h]
  rfl

theorem rejectExpired_run_of_timeless {f : Frame Out InitiatorState} (h : f.state.Timeless) :
    rejectExpired.run f = (.ok (), f) := by
  simp [rejectExpired, Cmd.run_bind, InitiatorState.isExpired_run_of_timeless h,
    Cmd.run_abortIf]

/-- Past the deadline the state is invalidated, before it nothing but the clock moves. -/
theorem rejectExpired_run {f : Frame Out InitiatorState} (h : ¬ f.state.Timeless) :
    rejectExpired.run f =
      if lifetimeOver f.state.createdAt (f.world.clock 0) then
        (.err .validationError,
          { f with state := f.state.invalidate, world := f.world.tick })
      else (.ok (), { f with world := f.world.tick }) := by
  simp [rejectExpired, Cmd.run_bind, InitiatorState.isExpired_run h, Cmd.run_abortIf]

@[simp] theorem refreshDeadline_run (f : Frame Out InitiatorState) :
    refreshDeadline.run f =
      (.ok (), { f with
        state := { f.state with createdAt := f.world.clock 0 }
        world := f.world.tick }) := rfl

/-- A password in the buffer, with its length. -/
def InitiatorState.HoldsPassword (s : InitiatorState) (password : List UInt8) : Prop :=
  s.secureKeyLen = password.length ∧ s.secureKey.toList.take s.secureKeyLen = password

theorem storeSecureKey_run {password : List UInt8}
    (hmax : password.length ≤ maxSecureKeyLength) (f : Frame Out InitiatorState) :
    ∃ buffer : Bytes maxSecureKeyLength, buffer.toList.take password.length = password ∧
      (storeSecureKey password).run f =
        (.ok (), { f with
          state := { f.state with secureKey := buffer, secureKeyLen := password.length } }) := by
  obtain ⟨buffer, hsplice, hbuffer⟩ := @splice_toList OpaqueError UInt8 _
    (zeros maxSecureKeyLength) [] (List.replicate maxSecureKeyLength 0) password 0 password.length
    rfl rfl (Nat.zero_add _).symm (by rwa [List.length_replicate])
  refine ⟨buffer, ?_, ?_⟩
  · rw [hbuffer, List.nil_append, List.take_left]
  · simp only [storeSecureKey, Cmd.run_bind, Op.run_modifyState, Op.run_getState, Cmd.run_lift,
      hsplice]

theorem readSecureKey_run {f : Frame Out InitiatorState} {password : List UInt8}
    (h : f.state.HoldsPassword password) : readSecureKey.run f = (.ok password, f) := by
  obtain ⟨hlen, hpassword⟩ := h
  have hle : f.state.secureKeyLen ≤ f.state.secureKey.toList.length := by
    have := congrArg List.length hpassword
    rw [List.length_take, ← hlen] at this
    omega
  have hslice : (slice f.state.secureKey.toList 0 f.state.secureKeyLen : OpaqueResult _) =
      .ok password := by
    rw [slice_eq_ok (Nat.zero_le _) hle, List.drop_zero, Nat.sub_zero, hpassword]
  simp [readSecureKey, Cmd.run_bind, hslice]

end Runs

end AuraOpaque.Agent
