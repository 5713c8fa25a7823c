import AuraOpaque.Ffi.Answers
import AuraOpaque.Foundation.Reclaim

/-!
# The Swift client

The classes `OpaqueAgent` and `AgentState` keep the pointers that the C interface
hands out, each in a field behind a lock.  Of a `Data` value the model has the place
of its bytes and their number; the buffers for the outputs are arguments.  The local
variables through which one object passes its pointer to C are one variable.
-/

namespace AuraOpaque.Swift

open AuraOpaque.Foundation
open AuraOpaque.Core (Primitives)
open AuraOpaque.Ffi (AgentCall AgentStateHandle Kind StatefulCall Store Strike ffiBusy null
  opaqueErrorString)

/-! ## Constants -/

namespace Constants

def publicKeyLength : ℕ := 32
def registrationRequestLength : ℕ := 33
def registrationResponseLength : ℕ := 65
def registrationRecordLength : ℕ := 201
def sessionKeyLength : ℕ := 64
def exportKeyLength : ℕ := 32
def ke1Length : ℕ := 1273
def ke2Length : ℕ := 1377
def ke3Length : ℕ := 65
def maxAccountIdLength : ℕ := 1024

end Constants

/-! ## Errors -/

inductive OpaqueError where
  | notInitialized
  | invalidInput (details : String)
  | cryptoError (details : String)
  | validationError
  | authenticationError
  | invalidPublicKey
  | invalidState
  | unknown (code : ℤ)
  deriving DecidableEq

namespace OpaqueError

def fromCodeWithDetail (code : ℤ) (detail : String) : OpaqueError :=
  match code with
  | 0 => .invalidState
  | -1 => .invalidInput (if detail.isEmpty then "Invalid parameters" else detail)
  | -2 => .cryptoError (if detail.isEmpty then "Cryptographic operation failed" else detail)
  | -3 => .invalidInput (if detail.isEmpty then "Invalid protocol message" else detail)
  | -4 => .validationError
  | -5 => .authenticationError
  | -6 => .invalidPublicKey
  | -7 => .invalidInput (if detail.isEmpty then "Account already registered" else detail)
  | -8 => .cryptoError (if detail.isEmpty then "Invalid KEM input" else detail)
  | -9 => .cryptoError (if detail.isEmpty then "Invalid envelope format" else detail)
  | -10 => .invalidInput (if detail.isEmpty then "Unsupported protocol version" else detail)
  | -99 => .cryptoError (if detail.isEmpty then "Internal FFI panic" else detail)
  | -100 => .invalidState
  | _ => .unknown code

/-- `fromCode(_:)`, with the static message of the C interface. -/
def fromCode (code : ℤ) : OpaqueError := fromCodeWithDetail code (opaqueErrorString code)

end OpaqueError

/-! ## Values and objects -/

structure Data where
  address : ℕ
  count : ℕ
  deriving DecidableEq

def Data.isEmpty (data : Data) : Bool := data.count == 0

/-- The address of a variable for a pointer. -/
structure Variable where
  address : ℕ
  nonnull : address ≠ null
  deriving DecidableEq

/-- An object of one of the two classes, by the variable for its pointer. -/
inductive Instance where
  | agent (handle : Variable)
  | state (handle : Variable)
  deriving DecidableEq

/-! ## Calls of the C interface -/

inductive Native where
  | agentCreate (agent : Variable) (relayPublicKey : Data) (panics : Bool)
  | agentDestroy (agent : Variable)
  | agentStateCreate (state : Variable) (panics : Bool)
  | agentStateDestroy (state : Variable)
  | onState (call : AgentCall) (strike : Strike AgentStateHandle)

namespace Native

/-- `opaque_*_destroy` is `opaque_*_try_destroy` without its code. -/
def call : Native → Ffi.Call
  | agentCreate agent key panics => .agentCreate ⟨key.address, key.count, agent.address⟩ panics
  | agentDestroy agent => .agentTryDestroy agent.address
  | agentStateCreate state panics => .agentStateCreate state.address panics
  | agentStateDestroy state => .agentStateTryDestroy state.address
  | onState call strike => .stateful (.agent call strike)

def effect : Native → Effect Instance Kind
  | agentCreate agent _ _ => .creates (.agent agent)
  | agentDestroy agent => .destroys (.agent agent)
  | agentStateCreate state _ => .creates (.state state)
  | agentStateDestroy state => .destroys (.state state)
  | onState call strike => .uses (StatefulCall.agent call strike).handles

/-- The codes of a call that finds no handle busy. -/
def codes : Native → List ℤ
  | agentDestroy _ => [0]
  | agentStateDestroy _ => [0]
  | native => native.call.codes []

end Native

instance : Inhabited Native := ⟨.agentDestroy ⟨1, by decide⟩⟩

namespace Instance

def place : Instance → Slot Kind
  | agent handle => ⟨.agent, handle.address⟩
  | state handle => ⟨.agentState, handle.address⟩

/-- A method locks the agent before the state. -/
def rank : Instance → ℕ
  | agent _ => 0
  | state _ => 1

end Instance

/-- The C interface as the classes use it. -/
def library (P : Primitives) : Library Instance Native Kind Store ℤ where
  program native := native.call.program P
  effect := Native.effect
  codes native code := code ∈ native.codes
  post native := native.call.Post
  place := Instance.place
  rank := Instance.rank
  success := 0
  busy := ffiBusy

/-! ## Statements -/

abbrev Action (α : Type) := Routine Instance Native Store ℤ α

/-- What a method throws, or the bytes that it returns. -/
abbrev Result := Except OpaqueError (List (List UInt8))

abbrev lock (o : Instance) : Action Unit := .lock o (.done ())

abbrev unlock (o : Instance) : Action Unit := .unlock o (.done ())

abbrev getHandle (o : Instance) : Action ℕ := .get o .done

abbrev clearHandle (o : Instance) : Action Unit := .clear o (.done ())

abbrev callNative (native : Native) : Action ℤ := .call native .done

/-- The bytes of some `Data` values. -/
abbrev readData (values : List Data) : Action (List (List UInt8)) :=
  .look (fun store => values.map fun data => store.memory.read data.address data.count) .done

/-- `guard condition else { throw error }`. -/
def guardElse (condition : Prop) [Decidable condition] (error : OpaqueError)
    (next : Action Result) : Action Result :=
  if condition then next else .done (.error error)

/-- `lock.lock(); defer { lock.unlock() }`, and what follows. -/
def withLock {α : Type} (o : Instance) (body : Action α) : Action α := do
  lock o
  let a ← body
  unlock o
  return a

/-! ## Construction and destruction -/

/-- `guard result == 0, let h = rawHandle else { throw }`, and the new object keeps `h`. -/
def adopt (o : Instance) (result : ℤ) : Action Result :=
  guardElse (result = 0) (.fromCode result) <|
    .fetch o fun rawHandle =>
      guardElse (rawHandle ≠ null) (.fromCode result) (.make o rawHandle (.done (.ok [])))

/-- `OpaqueAgent.init`; `initialized` is what it reads of `isInitialized`. -/
def initAgent (agent : Variable) (initialized : Bool) (relayPublicKey : Data) (panics : Bool) :
    Action Result :=
  guardElse initialized .notInitialized <|
    guardElse (relayPublicKey.count = Constants.publicKeyLength)
      (.invalidInput s!"Relay public key must be {Constants.publicKeyLength} bytes") do
        let result ← callNative (.agentCreate agent relayPublicKey panics)
        adopt (.agent agent) result

/-- `AgentState.init`, which `createState` calls. -/
def initState (state : Variable) (panics : Bool) : Action Result := do
  let result ← callNative (.agentStateCreate state panics)
  adopt (.state state) result

/-- The object gives up its pointer, and destroys what was behind it. -/
def relinquish (o : Instance) (destroy : Native) : Action Result := do
  lock o
  let h ← getHandle o
  clearHandle o
  unlock o
  if h ≠ null then
    let _ ← callNative destroy
    return .ok []
  else
    return .ok []

/-- `OpaqueAgent.deinit`. -/
def deinitAgent (agent : Variable) : Action Result :=
  relinquish (.agent agent) (.agentDestroy agent)

/-- `AgentState.dispose`, which its `deinit` calls. -/
def dispose (state : Variable) : Action Result :=
  relinquish (.state state) (.agentStateDestroy state)

/-! ## Methods -/

def withHandle {α : Type} (state : Variable) (body : ℕ → Action α) :
    Action (Except OpaqueError α) :=
  withLock (.state state) do
    let h ← getHandle (.state state)
    if h ≠ null then
      let a ← body h
      return .ok a
    else
      return .error .invalidState

/-- What the five methods do once they have checked their arguments. -/
def onState (agent state : Variable) (call : (handle stateHandle : ℕ) → AgentCall)
    (strike : Strike AgentStateHandle) (outputs : List Data) : Action Result :=
  withLock (.agent agent) do
    let handle ← getHandle (.agent agent)
    if handle ≠ null then
      let result ← withHandle state fun stateHandle =>
        callNative (.onState (call handle stateHandle) strike)
      match result with
      | .ok code =>
          if code = 0 then
            let bytes ← readData outputs
            return .ok bytes
          else
            return .error (.fromCode code)
      | .error error => return .error error
    else
      return .error .invalidState

section Methods

variable (agent state : Variable) (strike : Strike AgentStateHandle)

def createRegistrationRequest (password : Data) (request : ℕ) : Action Result :=
  guardElse (!password.isEmpty) (.invalidInput "Password cannot be empty") <|
    onState agent state
      (fun handle stateHandle => .createRegistrationRequest
        ⟨handle, password.address, password.count, stateHandle, request,
          Constants.registrationRequestLength⟩)
      strike [⟨request, Constants.registrationRequestLength⟩]

def finalizeRegistration (response : Data) (record : ℕ) : Action Result :=
  guardElse (response.count = Constants.registrationResponseLength)
    (.invalidInput s!"Response must be {Constants.registrationResponseLength} bytes") <|
      onState agent state
        (fun handle stateHandle => .finalizeRegistration
          ⟨handle, response.address, response.count, stateHandle, record,
            Constants.registrationRecordLength⟩)
        strike [⟨record, Constants.registrationRecordLength⟩]

def generateKE1 (password accountId : Data) (ke1 : ℕ) : Action Result :=
  guardElse (!password.isEmpty) (.invalidInput "Password cannot be empty") <|
    guardElse (!accountId.isEmpty) (.invalidInput "Account identifier cannot be empty") <|
      guardElse (accountId.count ≤ Constants.maxAccountIdLength)
        (.invalidInput
          s!"Account identifier must be at most {Constants.maxAccountIdLength} bytes") <|
          onState agent state
            (fun handle stateHandle => .generateKe1
              ⟨handle, password.address, password.count, accountId.address, accountId.count,
                stateHandle, ke1, Constants.ke1Length⟩)
            strike [⟨ke1, Constants.ke1Length⟩]

def generateKE3 (ke2 : Data) (ke3 : ℕ) : Action Result :=
  guardElse (ke2.count = Constants.ke2Length)
    (.invalidInput s!"KE2 must be {Constants.ke2Length} bytes") <|
      onState agent state
        (fun handle stateHandle => .generateKe3
          ⟨handle, ke2.address, ke2.count, stateHandle, ke3, Constants.ke3Length⟩)
        strike [⟨ke3, Constants.ke3Length⟩]

def finish (sessionKey exportKey : ℕ) : Action Result :=
  onState agent state
    (fun handle stateHandle => .finish
      ⟨handle, stateHandle, sessionKey, Constants.sessionKeyLength, exportKey,
        Constants.exportKeyLength⟩)
    strike [⟨sessionKey, Constants.sessionKeyLength⟩, ⟨exportKey, Constants.exportKeyLength⟩]

end Methods

/-! ## Jobs -/

inductive Method where
  | createRegistrationRequest (password : Data) (request : ℕ)
  | finalizeRegistration (response : Data) (record : ℕ)
  | generateKE1 (password accountId : Data) (ke1 : ℕ)
  | generateKE3 (ke2 : Data) (ke3 : ℕ)
  | finish (sessionKey exportKey : ℕ)

/-- What a thread may do with the two classes. -/
inductive Job where
  | initAgent (agent : Variable) (initialized : Bool) (relayPublicKey : Data) (panics : Bool)
  | createState (state : Variable) (panics : Bool)
  | method (m : Method) (agent state : Variable) (strike : Strike AgentStateHandle)
  | deinitAgent (agent : Variable)
  | dispose (state : Variable)

def Method.body (agent state : Variable) (strike : Strike AgentStateHandle) :
    Method → Action Result
  | createRegistrationRequest password request =>
      Swift.createRegistrationRequest agent state strike password request
  | finalizeRegistration response record =>
      Swift.finalizeRegistration agent state strike response record
  | generateKE1 password accountId ke1 =>
      Swift.generateKE1 agent state strike password accountId ke1
  | generateKE3 ke2 ke3 => Swift.generateKE3 agent state strike ke2 ke3
  | finish sessionKey exportKey => Swift.finish agent state strike sessionKey exportKey

namespace Job

def routine : Job → Action Result
  | initAgent agent initialized key panics => Swift.initAgent agent initialized key panics
  | createState state panics => initState state panics
  | method m agent state strike =>
      .refer (.agent agent) (.refer (.state state) (m.body agent state strike))
  | deinitAgent agent => .refer (.agent agent) (Swift.deinitAgent agent)
  | dispose state => .refer (.state state) (Swift.dispose state)

/-- What an initializer is to return; it is not reached when the arguments are rejected. -/
def creates : Job → Option Instance
  | initAgent agent initialized key _ =>
      if initialized = true ∧ key.count = Constants.publicKeyLength then some (.agent agent)
      else none
  | createState state _ => some (.state state)
  | _ => none

end Job

end AuraOpaque.Swift
