import AuraOpaque.Ffi.Boundary

/-!
# The client's entry points

Each entry point takes its arguments in the order of the C declaration.  The
argument `strike` or `panics` says whether a panic cuts the call short, which
the source provokes in its tests.
-/

namespace AuraOpaque.Ffi

open AuraOpaque.Foundation AuraOpaque.Core
open Agent (InitiatorState OpaqueInitiator RegistrationRequest RegistrationRecord Ke1Message
  Ke3Message)

variable (P : Primitives)

/-! ## Handles -/

def acquireAgent (handle : ℕ) : Entry OpaqueInitiator := do
  acquire .agent handle
  .act (fun store => (.ok (store.agents handle), store)) .ret

def acquireAgentState (handle : ℕ) : Entry Unit := acquire .agentState handle

def invalidateAgentState (stateHandle : AgentStateHandle) : AgentStateHandle where
  state := { stateHandle.state.zeroize with phase := .finished }
  ke3Exported := false

def runAgentStateful (operation : Op Memory AgentStateHandle Unit)
    (f : Frame Memory AgentStateHandle) : ℤ × Frame Memory AgentStateHandle :=
  runStateful invalidateAgentState operation f

/-- The operation on the session at an address, with the code that it returns. -/
def onAgentState (handle : ℕ) (operation : Op Memory AgentStateHandle Unit) : Entry ℤ :=
  .act (fun store =>
    let r := runAgentStateful operation ⟨store.memory, store.agentStates handle, store.world⟩
    (.ok r.1,
      { store with
        memory := r.2.out
        agentStates := Function.update store.agentStates handle r.2.state
        world := r.2.world })) .ret

section Calls

variable {Out : Type}

def onInitiator (out : Out) (c : Op Out InitiatorState Unit) : Op Memory AgentStateHandle Out :=
  onSession AgentStateHandle.state (fun state sh => { sh with state }) out c

end Calls

/-! ## Construction and destruction -/

structure AgentCreate where
  relayPublicKey : ℕ
  keyLength : ℕ
  handle : ℕ

def opaqueAgentCreate (args : AgentCreate) (panics : Bool) : Entry ℤ := do
  Entry.rejectIf (args.handle = null) .invalidInput
  .clear ⟨.agent, args.handle⟩ (.ret ())
  Entry.rejectIf
    (args.relayPublicKey = null ∨ args.keyLength ≠ publicKeyLength ∨
      rangesOverlap args.relayPublicKey args.keyLength args.handle pointerSize)
    .invalidInput
  let initiator ← Entry.work do
    let store ← Cmd.get
    withCode OpaqueError.toCInt
      (OpaqueInitiator.new P (store.memory.read args.relayPublicKey args.keyLength))
  Entry.work (injectTestPanic panics)
  .publish ⟨.agent, args.handle⟩
    (fun address store => { store with agents := Function.update store.agents address initiator })
    (.ret ())
  pure 0

def opaqueAgentStateCreate (handle : ℕ) (panics : Bool) : Entry ℤ := do
  Entry.rejectIf (handle = null) .invalidInput
  .clear ⟨.agentState, handle⟩ (.ret ())
  let state ← Entry.work (onWorld OpaqueError.toCInt InitiatorState.new)
  Entry.work (injectTestPanic panics)
  .publish ⟨.agentState, handle⟩
    (fun address store =>
      { store with
        agentStates := Function.update store.agentStates address
          { state, ke3Exported := false } })
    (.ret ())
  pure 0

/-- What all five `try_destroy` functions do; `drop` is the destructor of the object. -/
def tryDestroy (kind : Kind) (handlePtr : ℕ) (drop : ℕ → Store → Store) : Entry ℤ := do
  Entry.rejectIf (handlePtr = null) .invalidInput
  let handle ← .load ⟨kind, handlePtr⟩ .ret
  Program.exitIf (handle = null) 0
  .claim ⟨kind, handle⟩ fun taken => if taken then .ret () else .exit ffiBusy
  .clear ⟨kind, handlePtr⟩ (.ret ())
  .dispose ⟨kind, handle⟩ (drop handle) (.ret ())
  pure 0

def opaqueAgentTryDestroy (handlePtr : ℕ) : Entry ℤ :=
  tryDestroy .agent handlePtr fun handle store =>
    { store with agents := Function.update store.agents handle ⟨zeros _⟩ }

def opaqueAgentStateTryDestroy (handlePtr : ℕ) : Entry ℤ :=
  tryDestroy .agentState handlePtr fun handle store =>
    { store with
      agentStates := Function.update store.agentStates handle
        { store.agentStates handle with state := (store.agentStates handle).state.zeroize } }

/-! ## Registration -/

structure CreateRegistrationRequest where
  agentHandle : ℕ
  secureKey : ℕ
  secureKeyLength : ℕ
  stateHandle : ℕ
  requestOut : ℕ
  requestLength : ℕ

/-- `1..=MAX_SECURE_KEY_LENGTH` does not match. -/
abbrev SecureKeyOutOfRange (secureKeyLength : ℕ) : Prop :=
  ¬ (1 ≤ secureKeyLength ∧ secureKeyLength ≤ maxSecureKeyLength)

def CreateRegistrationRequest.Malformed (args : CreateRegistrationRequest) : Prop :=
  args.secureKey = null ∨ args.requestOut = null ∨
    args.requestLength < registrationRequestWireLength ∨
    rangesOverlap args.secureKey args.secureKeyLength args.requestOut
      registrationRequestWireLength

instance (args : CreateRegistrationRequest) : Decidable args.Malformed :=
  inferInstanceAs (Decidable (_ ∨ _))

def registrationRequestOperation (args : CreateRegistrationRequest)
    (strike : Strike AgentStateHandle) : Op Memory AgentStateHandle Unit := do
  let wire ← beforeCommit strike do
    let memory ← Op.getOut
    let key := memory.read args.secureKey args.secureKeyLength
    let request ← onInitiator .new (Agent.createRegistrationRequest P key)
    Cmd.lift (Cmd.fill (zeros registrationRequestWireLength)
      (Protocol.writeRegistrationRequest request.data.toList))
  copyNonoverlapping wire.toList args.requestOut

def opaqueAgentCreateRegistrationRequest (args : CreateRegistrationRequest)
    (strike : Strike AgentStateHandle) : Entry ℤ := do
  Entry.rejectIf (SecureKeyOutOfRange args.secureKeyLength) .invalidInput
  Entry.rejectIf args.Malformed .invalidInput
  let _ ← acquireAgent args.agentHandle
  acquireAgentState args.stateHandle
  onAgentState args.stateHandle (registrationRequestOperation P args strike)

structure FinalizeRegistration where
  agentHandle : ℕ
  response : ℕ
  responseLength : ℕ
  stateHandle : ℕ
  recordOut : ℕ
  recordLength : ℕ

def FinalizeRegistration.Malformed (args : FinalizeRegistration) : Prop :=
  args.response = null ∨ args.responseLength ≠ registrationResponseWireLength ∨
    args.recordOut = null ∨ args.recordLength < registrationRecordLength ∨
    rangesOverlap args.response args.responseLength args.recordOut registrationRecordLength

instance (args : FinalizeRegistration) : Decidable args.Malformed :=
  inferInstanceAs (Decidable (_ ∨ _))

def finalizeRegistrationOperation (initiator : OpaqueInitiator) (args : FinalizeRegistration)
    (strike : Strike AgentStateHandle) : Op Memory AgentStateHandle Unit := do
  let wire ← beforeCommit strike do
    let memory ← Op.getOut
    let resp := memory.read args.response args.responseLength
    let record ← onInitiator .new (Agent.finalizeRegistration P initiator resp)
    Cmd.lift (Cmd.fill (zeros registrationRecordLength)
      (Protocol.writeRegistrationRecord record.envelope record.initiatorPublicKey.toList))
  copyNonoverlapping wire.toList args.recordOut

def opaqueAgentFinalizeRegistration (args : FinalizeRegistration)
    (strike : Strike AgentStateHandle) : Entry ℤ := do
  Entry.rejectIf args.Malformed .invalidInput
  let initiator ← acquireAgent args.agentHandle
  acquireAgentState args.stateHandle
  onAgentState args.stateHandle (finalizeRegistrationOperation P initiator args strike)

/-! ## Login -/

structure GenerateKe1 where
  agentHandle : ℕ
  secureKey : ℕ
  secureKeyLength : ℕ
  accountId : ℕ
  accountIdLength : ℕ
  stateHandle : ℕ
  ke1Out : ℕ
  ke1Length : ℕ

def GenerateKe1.Malformed (args : GenerateKe1) : Prop :=
  args.secureKey = null ∨ args.accountId = null ∨ args.accountIdLength = 0 ∨
    args.accountIdLength > maxAccountIdLength ∨ args.ke1Out = null ∨
    args.ke1Length < Core.ke1Length ∨
    rangesOverlap args.secureKey args.secureKeyLength args.ke1Out Core.ke1Length ∨
    rangesOverlap args.accountId args.accountIdLength args.ke1Out Core.ke1Length

instance (args : GenerateKe1) : Decidable args.Malformed :=
  inferInstanceAs (Decidable (_ ∨ _))

def generateKe1Operation (args : GenerateKe1) (strike : Strike AgentStateHandle) :
    Op Memory AgentStateHandle Unit := do
  let wire ← beforeCommit strike do
    let memory ← Op.getOut
    let key := memory.read args.secureKey args.secureKeyLength
    let accountId := memory.read args.accountId args.accountIdLength
    let ke1 ← onInitiator .new (Agent.generateKe1 P key accountId)
    Cmd.lift (Cmd.fill (zeros Core.ke1Length)
      (Protocol.writeKe1 ke1.credentialRequest.toList ke1.initiatorPublicKey.toList
        ke1.initiatorNonce.toList ke1.pqEphemeralPublicKey.toList))
  copyNonoverlapping wire.toList args.ke1Out

def opaqueAgentGenerateKe1 (args : GenerateKe1) (strike : Strike AgentStateHandle) : Entry ℤ := do
  Entry.rejectIf (SecureKeyOutOfRange args.secureKeyLength) .invalidInput
  Entry.rejectIf args.Malformed .invalidInput
  let _ ← acquireAgent args.agentHandle
  acquireAgentState args.stateHandle
  onAgentState args.stateHandle (generateKe1Operation P args strike)

structure GenerateKe3 where
  agentHandle : ℕ
  ke2 : ℕ
  ke2Length : ℕ
  stateHandle : ℕ
  ke3Out : ℕ
  ke3Length : ℕ

def GenerateKe3.Malformed (args : GenerateKe3) : Prop :=
  args.ke2 = null ∨ args.ke2Length ≠ Core.ke2Length ∨ args.ke3Out = null ∨
    args.ke3Length < Core.ke3Length ∨
    rangesOverlap args.ke2 args.ke2Length args.ke3Out Core.ke3Length

instance (args : GenerateKe3) : Decidable args.Malformed :=
  inferInstanceAs (Decidable (_ ∨ _))

def generateKe3Operation (initiator : OpaqueInitiator) (args : GenerateKe3)
    (strike : Strike AgentStateHandle) : Op Memory AgentStateHandle Unit := do
  let wire ← beforeCommit strike do
    let memory ← Op.getOut
    let ke2 := memory.read args.ke2 args.ke2Length
    Op.modifyState fun sh => { sh with ke3Exported := false }
    let ke3 ← onInitiator .new (Agent.generateKe3 P initiator ke2)
    Cmd.lift (Cmd.fill (zeros Core.ke3Length) (Protocol.writeKe3 ke3.initiatorMac.toList))
  copyNonoverlapping wire.toList args.ke3Out
  Op.modifyState fun sh => { sh with ke3Exported := true }

def opaqueAgentGenerateKe3 (args : GenerateKe3) (strike : Strike AgentStateHandle) : Entry ℤ := do
  Entry.rejectIf args.Malformed .invalidInput
  let initiator ← acquireAgent args.agentHandle
  acquireAgentState args.stateHandle
  onAgentState args.stateHandle (generateKe3Operation P initiator args strike)

structure AgentFinish where
  agentHandle : ℕ
  stateHandle : ℕ
  sessionKeyOut : ℕ
  sessionKeyLength : ℕ
  exportKeyOut : ℕ
  exportKeyLength : ℕ

def AgentFinish.Malformed (args : AgentFinish) : Prop :=
  args.sessionKeyOut = null ∨ args.sessionKeyLength < hashLength ∨ args.exportKeyOut = null ∨
    args.exportKeyLength < Core.exportKeyLength ∨
    rangesOverlap args.sessionKeyOut hashLength args.exportKeyOut Core.exportKeyLength

instance (args : AgentFinish) : Decidable args.Malformed :=
  inferInstanceAs (Decidable (_ ∨ _))

def agentFinishOperation (args : AgentFinish) (strike : Strike AgentStateHandle) :
    Op Memory AgentStateHandle Unit := do
  let keys ← beforeCommit strike do
    let sh ← Op.getState
    Cmd.failIf (!sh.ke3Exported) .validationError
    onInitiator ⟨zeros _, zeros _⟩ Agent.initiatorFinish
  copyNonoverlapping keys.sessionKey.toList args.sessionKeyOut
  copyNonoverlapping keys.exportKey.toList args.exportKeyOut
  Op.modifyState fun sh => { sh with ke3Exported := false }

def opaqueAgentFinish (args : AgentFinish) (strike : Strike AgentStateHandle) : Entry ℤ := do
  Entry.rejectIf args.Malformed .invalidInput
  let _ ← acquireAgent args.agentHandle
  acquireAgentState args.stateHandle
  onAgentState args.stateHandle (agentFinishOperation args strike)

end AuraOpaque.Ffi
