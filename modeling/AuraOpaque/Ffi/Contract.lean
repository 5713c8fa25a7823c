import AuraOpaque.Ffi.Admission
import AuraOpaque.Agent.Lifecycle
import AuraOpaque.Relay.Lifecycle

/-!
# What a stateful call does

A call commits, is turned away, or is admitted and ends the session.
-/

namespace AuraOpaque.Ffi

open AuraOpaque.Foundation AuraOpaque.Core
open Protocol (encode)

variable (P : Primitives)

/-! ## The client -/

inductive AgentCall where
  | createRegistrationRequest (args : CreateRegistrationRequest)
  | finalizeRegistration (args : FinalizeRegistration)
  | generateKe1 (args : GenerateKe1)
  | generateKe3 (args : GenerateKe3)
  | finish (args : AgentFinish)

namespace AgentCall

def program (strike : Strike AgentStateHandle) : AgentCall → Entry ℤ
  | createRegistrationRequest args => opaqueAgentCreateRegistrationRequest P args strike
  | finalizeRegistration args => opaqueAgentFinalizeRegistration P args strike
  | generateKe1 args => opaqueAgentGenerateKe1 P args strike
  | generateKe3 args => opaqueAgentGenerateKe3 P args strike
  | finish args => opaqueAgentFinish args strike

def stateHandle : AgentCall → ℕ
  | createRegistrationRequest args => args.stateHandle
  | finalizeRegistration args => args.stateHandle
  | generateKe1 args => args.stateHandle
  | generateKe3 args => args.stateHandle
  | finish args => args.stateHandle

def operation : AgentCall → Agent.Operation
  | createRegistrationRequest _ => .createRegistrationRequest
  | finalizeRegistration _ => .finalizeRegistration
  | generateKe1 _ => .generateKe1
  | generateKe3 _ => .generateKe3
  | finish _ => .initiatorFinish

/-- The lengths of the outputs in the C header. -/
def documented : AgentCall → List ℕ
  | createRegistrationRequest _ => [33]
  | finalizeRegistration _ => [201]
  | generateKe1 _ => [1273]
  | generateKe3 _ => [65]
  | finish _ => [64, 32]

/-- What the library hands out for a store, and where the caller wants it. -/
def outputs (call : AgentCall) (data : Store) : List (ℕ × List UInt8) :=
  let state := (data.agentStates call.stateHandle).state
  match call with
  | createRegistrationRequest args =>
      let request := ((Agent.createRegistrationRequest P
        (data.memory.read args.secureKey args.secureKeyLength)).run ⟨.new, state, data.world⟩).2.out
      [(args.requestOut, encode [request.data.toList])]
  | finalizeRegistration args =>
      let record := ((Agent.finalizeRegistration P (data.agents args.agentHandle)
        (data.memory.read args.response args.responseLength)).run ⟨.new, state, data.world⟩).2.out
      [(args.recordOut, encode [record.envelope, record.initiatorPublicKey.toList])]
  | generateKe1 args =>
      let ke1 := ((Agent.generateKe1 P (data.memory.read args.secureKey args.secureKeyLength)
        (data.memory.read args.accountId args.accountIdLength)).run
          ⟨.new, state, data.world⟩).2.out
      [(args.ke1Out, encode [ke1.credentialRequest.toList, ke1.initiatorPublicKey.toList,
        ke1.initiatorNonce.toList, ke1.pqEphemeralPublicKey.toList])]
  | generateKe3 args =>
      let ke3 := ((Agent.generateKe3 P (data.agents args.agentHandle)
        (data.memory.read args.ke2 args.ke2Length)).run ⟨.new, state, data.world⟩).2.out
      [(args.ke3Out, encode [ke3.initiatorMac.toList])]
  | finish args =>
      [(args.sessionKeyOut, state.sessionKey.toList), (args.exportKeyOut, state.exportKey.toList)]

/-- The export flag before and after a call that succeeds. -/
def Exports : AgentCall → Bool → Bool → Prop
  | generateKe3 _, _, after => after = true
  | finish _, before, after => before = true ∧ after = false
  | _, before, after => after = before

/-- The call did all that it documents. -/
structure Succeeds (call : AgentCall) (data data' : Store) : Prop where
  source : (data.agentStates call.stateHandle).state.phase = call.operation.source
  target : (data'.agentStates call.stateHandle).state.phase = call.operation.target
  exported : call.Exports (data.agentStates call.stateHandle).ke3Exported
    (data'.agentStates call.stateHandle).ke3Exported
  lengths : (call.outputs P data).map (fun o => o.2.length) = call.documented
  committed : data.memory.Commits data'.memory (call.outputs P data)

/-- The session is over, and no byte has left. -/
structure Invalidates (call : AgentCall) (data data' : Store) : Prop where
  dead : (data'.agentStates call.stateHandle).state.Dead
  exported : (data'.agentStates call.stateHandle).ke3Exported = false
  memory : data'.memory = data.memory

end AgentCall

section Agent

variable {P} {strike : Strike AgentStateHandle} {data : Store}

def withAgentFrame (data : Store) (handle : ℕ) (f : Frame Memory AgentStateHandle) : Store :=
  { data with
    memory := f.out
    agentStates := Function.update data.agentStates handle f.state
    world := f.world }

@[simp] theorem withAgentFrame_agentStates (handle : ℕ) (f : Frame Memory AgentStateHandle) :
    (withAgentFrame data handle f).agentStates handle = f.state :=
  Function.update_self _ _ _

theorem AgentCall.invalidates (call : AgentCall) (sh : AgentStateHandle) (w : World) :
    call.Invalidates data
      (withAgentFrame data call.stateHandle ⟨data.memory, invalidateAgentState sh, w⟩) where
  dead := by
    rw [withAgentFrame_agentStates]
    exact Agent.InitiatorState.invalidate_dead sh.state
  exported := by
    rw [withAgentFrame_agentStates]
    rfl
  memory := rfl

/-- Where an operation commits when it succeeds, a call does its step on the session. -/
theorem onAgentState_performs (call : AgentCall) {α : Type}
    {body : Op Memory AgentStateHandle α} {commit : α → Op Memory AgentStateHandle Unit}
    (hbody : KeepsMemory body)
    (hcommit : ∀ a f, ∃ f', (commit a).run f = (.ok (), f'))
    (hsucceeds : ∀ a g g',
      body.run ⟨data.memory, data.agentStates call.stateHandle, data.world⟩ = (.ok a, g) →
      (commit a).run g = (.ok (), g') →
      call.Succeeds P data (withAgentFrame data call.stateHandle g')) :
    Program.Performs
      (fun code data' => (code = 0 ∧ call.Succeeds P data data') ∨
        (code ≠ 0 ∧ call.Invalidates data data')) data
      (onAgentState call.stateHandle (beforeCommit strike body >>= commit)) := by
  refine ⟨_, rfl, ?_⟩
  unfold runAgentStateful
  rcases @runStateful_cases _ _ invalidateAgentState strike body commit hbody hcommit
      ⟨data.memory, data.agentStates call.stateHandle, data.world⟩ with
    ⟨a, g, g', hrun, hdone, hok⟩ | ⟨code, sh, w, hcode, hfail⟩
  · rw [hok]
    exact .inl ⟨rfl, hsucceeds a g g' hrun hdone⟩
  · rw [hfail]
    exact .inr ⟨hcode, call.invalidates sh w⟩

abbrev AgentCall.Admits (call : AgentCall) (data : Store) : Entry ℤ → Prop :=
  AdmitsTo .agentState call.stateHandle data fun code data' =>
    (code = 0 ∧ call.Succeeds P data data') ∨ (code ≠ 0 ∧ call.Invalidates data data')

/-- The library operation succeeded, and its output is committed as it was encoded. -/
theorem AgentCall.succeeds_of_library {call : AgentCall} {Out : Type} {out : Out}
    {same done : Agent.InitiatorState → Agent.InitiatorState → Prop}
    {c : Op Out Agent.InitiatorState Unit} {cf : Frame Out Agent.InitiatorState}
    {n address : ℕ} {serialize : Cmd OpaqueError (Bytes n) Unit} {wire : Bytes n}
    {lengths : List ℕ} {fields : List (List UInt8)} {f : Frame Memory AgentStateHandle}
    (hends : Ends Agent.InitiatorState.phase same Agent.InitiatorState.Dead call.operation.source
      call.operation.target done c)
    (hlibrary : c.run ⟨out, (data.agentStates call.stateHandle).state, data.world⟩ = (.ok (), cf))
    (hfill : Cmd.fill (zeros n) serialize = .ok wire) (hsized : Protocol.Sized lengths fields)
    (hwrites : Writes 0 (Protocol.encode fields) serialize) (hn : 1 + lengths.sum = n)
    (hdocumented : [n] = call.documented)
    (houtputs : call.outputs P data = [(address, Protocol.encode fields)])
    (hstate : f.state.state = cf.state)
    (hexported : call.Exports (data.agentStates call.stateHandle).ke3Exported f.state.ke3Exported)
    (hout : f.out = data.memory.write address wire.toList) :
    call.Succeeds P data (withAgentFrame data call.stateHandle f) := by
  have hwire := Protocol.wire_of_fill hfill hwrites hsized hn
  rw [← hwire] at houtputs
  rcases hends _ _ _ hlibrary with ⟨-, hsource, htarget, -⟩ | ⟨hfail, -⟩
  · refine ⟨hsource, ?_, ?_, ?_, ?_⟩
    · rw [withAgentFrame_agentStates, hstate]
      exact htarget
    · rwa [withAgentFrame_agentStates]
    · rw [houtputs, ← hdocumented]
      simp
    · rw [houtputs, withAgentFrame, hout]
      exact Memory.commits_write
  · cases hfail

theorem createRegistrationRequest_admits (args : CreateRegistrationRequest) :
    (AgentCall.createRegistrationRequest args).Admits (P := P) data
      (opaqueAgentCreateRegistrationRequest P args strike) := by
  unfold opaqueAgentCreateRegistrationRequest
  refine .rejectIf fun _ => .rejectIf fun _ => .acquireAgent (by decide) (.acquireSession ?_)
  refine onAgentState_performs (.createRegistrationRequest args) (fun m => ?_) ?_ ?_
  · exact .bind (fun _ hf => hf) fun _ => .bind (KeepsMemory.onSession m) fun _ _ hf => hf
  · exact fun wire f => ⟨_, rfl⟩
  · intro wire g g' hrun hdone
    rw [Cmd.run_bind_ok (Op.run_getOut _)] at hrun
    obtain ⟨cf, hlibrary, hfill, rfl⟩ := onSession_fill_ok hrun
    cases hdone
    dsimp only [AgentCall.stateHandle] at hlibrary
    have hsized : Protocol.Sized [registrationRequestLength] [cf.out.data.toList] := by
      simp [Protocol.Sized]
    refine AgentCall.succeeds_of_library (Agent.createRegistrationRequest_ends P _) hlibrary hfill
      hsized (Protocol.writeRegistrationRequest_writes hsized le_rfl) rfl rfl ?_ rfl rfl rfl
    simp only [AgentCall.outputs, AgentCall.stateHandle, hlibrary]

/-- The writer of a record checks the length of its first part. -/
theorem sized_of_writeRegistrationRecord {credentialStorage initiatorPublicKey : List UInt8}
    {wire : Bytes registrationRecordLength}
    (h : Cmd.fill (zeros registrationRecordLength)
      (Protocol.writeRegistrationRecord credentialStorage initiatorPublicKey) = .ok wire) :
    Protocol.Sized [registrationCredentialLength, publicKeyLength]
      [credentialStorage, initiatorPublicKey] := by
  rw [Cmd.fill_eq_ok_iff, Protocol.writeRegistrationRecord] at h
  obtain ⟨_, _, hchecked, -⟩ := Cmd.run_bind_eq_ok_iff.mp h
  rw [Cmd.run_failIf, Prod.mk.injEq, Outcome.failIf_eq_ok_iff] at hchecked
  simp only [not_or, not_not] at hchecked
  simp [Protocol.Sized, hchecked.1.1, hchecked.1.2.1]

theorem finalizeRegistration_admits (args : FinalizeRegistration) :
    (AgentCall.finalizeRegistration args).Admits (P := P) data
      (opaqueAgentFinalizeRegistration P args strike) := by
  unfold opaqueAgentFinalizeRegistration
  refine .rejectIf fun _ => .acquireAgent (by decide) (.acquireSession ?_)
  refine onAgentState_performs (.finalizeRegistration args) (fun m => ?_) ?_ ?_
  · exact .bind (fun _ hf => hf) fun _ => .bind (KeepsMemory.onSession m) fun _ _ hf => hf
  · exact fun wire f => ⟨_, rfl⟩
  · intro wire g g' hrun hdone
    rw [Cmd.run_bind_ok (Op.run_getOut _)] at hrun
    obtain ⟨cf, hlibrary, hfill, rfl⟩ := onSession_fill_ok hrun
    cases hdone
    dsimp only [AgentCall.stateHandle] at hlibrary
    have hsized := sized_of_writeRegistrationRecord hfill
    refine AgentCall.succeeds_of_library (Agent.finalizeRegistration_ends P _ _) hlibrary hfill
      hsized (Protocol.writeRegistrationRecord_writes hsized le_rfl) rfl rfl ?_ rfl rfl rfl
    simp only [AgentCall.outputs, AgentCall.stateHandle, hlibrary]

theorem generateKe1_admits (args : GenerateKe1) :
    (AgentCall.generateKe1 args).Admits (P := P) data (opaqueAgentGenerateKe1 P args strike) := by
  unfold opaqueAgentGenerateKe1
  refine .rejectIf fun _ => .rejectIf fun _ => .acquireAgent (by decide) (.acquireSession ?_)
  refine onAgentState_performs (.generateKe1 args) (fun m => ?_) ?_ ?_
  · exact .bind (fun _ hf => hf) fun _ => .bind (KeepsMemory.onSession m) fun _ _ hf => hf
  · exact fun wire f => ⟨_, rfl⟩
  · intro wire g g' hrun hdone
    rw [Cmd.run_bind_ok (Op.run_getOut _)] at hrun
    obtain ⟨cf, hlibrary, hfill, rfl⟩ := onSession_fill_ok hrun
    cases hdone
    dsimp only [AgentCall.stateHandle] at hlibrary
    have hsized : Protocol.Sized Protocol.ke1FieldLengths
        [cf.out.credentialRequest.toList, cf.out.initiatorPublicKey.toList,
          cf.out.initiatorNonce.toList, cf.out.pqEphemeralPublicKey.toList] := by
      simp [Protocol.Sized]
    refine AgentCall.succeeds_of_library (Agent.generateKe1_ends P _ _) hlibrary hfill hsized
      (Protocol.writeKe1_writes hsized le_rfl) rfl rfl ?_ rfl rfl rfl
    simp only [AgentCall.outputs, AgentCall.stateHandle, hlibrary]

theorem generateKe3_admits (args : GenerateKe3) :
    (AgentCall.generateKe3 args).Admits (P := P) data (opaqueAgentGenerateKe3 P args strike) := by
  unfold opaqueAgentGenerateKe3
  refine .rejectIf fun _ => .acquireAgent (by decide) (.acquireSession ?_)
  refine onAgentState_performs (.generateKe3 args) (fun m => ?_) ?_ ?_
  · refine .bind (fun _ hf => hf) fun _ => .bind (fun _ hf => hf) fun _ => ?_
    exact .bind (KeepsMemory.onSession m) fun _ _ hf => hf
  · exact fun wire f => ⟨_, rfl⟩
  · intro wire g g' hrun hdone
    rw [Cmd.run_bind_ok (Op.run_getOut _)] at hrun
    dsimp only at hrun
    rw [Cmd.run_bind_ok (Op.run_modifyState _ _)] at hrun
    obtain ⟨cf, hlibrary, hfill, rfl⟩ := onSession_fill_ok hrun
    cases hdone
    dsimp only [AgentCall.stateHandle] at hlibrary
    have hsized : Protocol.Sized [macLength] [cf.out.initiatorMac.toList] := by
      simp [Protocol.Sized]
    refine AgentCall.succeeds_of_library (Agent.generateKe3_ends P _ _) hlibrary hfill hsized
      (Protocol.writeKe3_writes hsized le_rfl) rfl rfl ?_ rfl rfl rfl
    simp only [AgentCall.outputs, AgentCall.stateHandle, hlibrary]

theorem agentFinish_admits (args : AgentFinish) :
    (AgentCall.finish args).Admits (P := P) data (opaqueAgentFinish args strike) := by
  unfold opaqueAgentFinish
  refine .rejectIf fun hwell => .acquireAgent (by decide) (.acquireSession ?_)
  have happart : args.sessionKeyOut + hashLength ≤ args.exportKeyOut ∨
      args.exportKeyOut + exportKeyLength ≤ args.sessionKeyOut := by
    simp only [AgentFinish.Malformed, not_or] at hwell
    exact apart_of_rangesOverlap (by decide) (by decide) hwell.2.2.2.2
  refine onAgentState_performs (.finish args) (fun m => ?_) ?_ ?_
  · refine .bind (fun _ hf => hf) fun _ => .bind ?_ fun _ => KeepsMemory.onSession m
    exact .failIf _
  · exact fun keys f => ⟨_, rfl⟩
  · intro keys g g' hrun hdone
    rw [Cmd.run_bind_ok (Op.run_getState _)] at hrun
    obtain ⟨_, _, hexported, hrun⟩ := Cmd.run_bind_eq_ok_iff.mp hrun
    rw [Cmd.run_failIf, Prod.mk.injEq, Outcome.failIf_eq_ok_iff] at hexported
    obtain ⟨hexported, rfl⟩ := hexported
    obtain ⟨cf, hlibrary, rfl, rfl⟩ := onSession_ok hrun
    cases hdone
    dsimp only [AgentCall.stateHandle] at hlibrary
    have hkeys := Agent.initiatorFinish_ok hlibrary
    rcases Agent.initiatorFinish_ends _ _ _ hlibrary with ⟨-, hsource, htarget, -⟩ | ⟨hfail, -⟩
    · refine ⟨hsource, ?_, ⟨by simpa using hexported, ?_⟩, ?_, ?_⟩
      · rw [withAgentFrame_agentStates]
        exact htarget
      · rw [withAgentFrame_agentStates]
      · simp [AgentCall.outputs, AgentCall.documented]
      · simp only [withAgentFrame, AgentCall.outputs, AgentCall.stateHandle, hkeys]
        exact Memory.commits_write_write (by simpa using happart)
    · cases hfail

theorem agentCall_admits (call : AgentCall) :
    call.Admits (P := P) data (call.program P strike) := by
  cases call with
  | createRegistrationRequest args => exact createRegistrationRequest_admits args
  | finalizeRegistration args => exact finalizeRegistration_admits args
  | generateKe1 args => exact generateKe1_admits args
  | generateKe3 args => exact generateKe3_admits args
  | finish args => exact agentFinish_admits args

end Agent

/-! ## The relay -/

inductive RelayCall where
  | generateKe2 (args : RelayGenerateKe2)
  | finish (args : RelayFinish)

namespace RelayCall

def program (strike : Strike Relay.ResponderState) : RelayCall → Entry ℤ
  | generateKe2 args => opaqueRelayGenerateKe2 P args strike
  | finish args => opaqueRelayFinish args strike

def stateHandle : RelayCall → ℕ
  | generateKe2 args => args.stateHandle
  | finish args => args.stateHandle

def operation : RelayCall → Relay.Operation
  | generateKe2 _ => .generateKe2
  | finish _ => .responderFinish

/-- The lengths of the outputs in the C header. -/
def documented : RelayCall → List ℕ
  | generateKe2 _ => [1377]
  | finish _ => [64]

/-- What the library hands out for a store and a record, and where the caller wants it. -/
def outputs (call : RelayCall) (data : Store) : List (ℕ × List UInt8) :=
  let state := data.relayStates call.stateHandle
  match call with
  | generateKe2 args =>
      match decodeCredentials P (data.relays args.relayHandle)
          (data.memory.read args.credentialsData args.credentialsLength)
          args.credentialsLength with
      | .ok creds =>
          let ke2 := ((Relay.generateKe2 P (data.relays args.relayHandle)
            (data.memory.read args.ke1Data args.ke1Length)
            (data.memory.read args.accountId args.accountIdLength) creds).run
              ⟨.new, state, data.world⟩).2.out
          [(args.ke2Data, encode [ke2.responderNonce.toList, ke2.responderPublicKey.toList,
            ke2.credentialResponse.toList, ke2.responderMac.toList, ke2.kemCiphertext.toList])]
      | _ => []
  | finish args => [(args.sessionKey, state.sessionKey.toList)]

/-- The call did all that it documents. -/
structure Succeeds (call : RelayCall) (data data' : Store) : Prop where
  source : (data.relayStates call.stateHandle).phase = call.operation.source
  target : (data'.relayStates call.stateHandle).phase = call.operation.target
  lengths : (call.outputs P data).map (fun o => o.2.length) = call.documented
  committed : data.memory.Commits data'.memory (call.outputs P data)

/-- The session is over, and no byte has left. -/
structure Invalidates (call : RelayCall) (data data' : Store) : Prop where
  dead : (data'.relayStates call.stateHandle).Terminal
  memory : data'.memory = data.memory

end RelayCall

section Relay

variable {P} {strike : Strike Relay.ResponderState} {data : Store}

def withRelayFrame (data : Store) (handle : ℕ) (f : Frame Memory Relay.ResponderState) : Store :=
  { data with
    memory := f.out
    relayStates := Function.update data.relayStates handle f.state
    world := f.world }

@[simp] theorem withRelayFrame_relayStates (handle : ℕ) (f : Frame Memory Relay.ResponderState) :
    (withRelayFrame data handle f).relayStates handle = f.state :=
  Function.update_self _ _ _

theorem RelayCall.invalidates (call : RelayCall) (state : Relay.ResponderState) (w : World) :
    call.Invalidates data
      (withRelayFrame data call.stateHandle ⟨data.memory, invalidateRelayState state, w⟩) where
  dead := by
    rw [withRelayFrame_relayStates]
    exact Relay.ResponderState.invalidate_terminal state
  memory := rfl

theorem onRelayState_performs (call : RelayCall) {α : Type}
    {body : Op Memory Relay.ResponderState α} {commit : α → Op Memory Relay.ResponderState Unit}
    (hbody : KeepsMemory body)
    (hcommit : ∀ a f, ∃ f', (commit a).run f = (.ok (), f'))
    (hsucceeds : ∀ a g g',
      body.run ⟨data.memory, data.relayStates call.stateHandle, data.world⟩ = (.ok a, g) →
      (commit a).run g = (.ok (), g') →
      call.Succeeds P data (withRelayFrame data call.stateHandle g')) :
    Program.Performs
      (fun code data' => (code = 0 ∧ call.Succeeds P data data') ∨
        (code ≠ 0 ∧ call.Invalidates data data')) data
      (onRelayState call.stateHandle (beforeCommit strike body >>= commit)) := by
  refine ⟨_, rfl, ?_⟩
  unfold runRelayStateful
  rcases @runStateful_cases _ _ invalidateRelayState strike body commit hbody hcommit
      ⟨data.memory, data.relayStates call.stateHandle, data.world⟩ with
    ⟨a, g, g', hrun, hdone, hok⟩ | ⟨code, state, w, hcode, hfail⟩
  · rw [hok]
    exact .inl ⟨rfl, hsucceeds a g g' hrun hdone⟩
  · rw [hfail]
    exact .inr ⟨hcode, call.invalidates state w⟩

abbrev RelayCall.Admits (call : RelayCall) (data : Store) : Entry ℤ → Prop :=
  AdmitsTo .relayState call.stateHandle data fun code data' =>
    (code = 0 ∧ call.Succeeds P data data') ∨ (code ≠ 0 ∧ call.Invalidates data data')

theorem RelayCall.succeeds_of_write {call : RelayCall} {f : Frame Memory Relay.ResponderState}
    {address : ℕ} {wire : List UInt8}
    (hsource : (data.relayStates call.stateHandle).phase = call.operation.source)
    (htarget : f.state.phase = call.operation.target)
    (hlength : [wire.length] = call.documented) (houtputs : call.outputs P data = [(address, wire)])
    (hout : f.out = data.memory.write address wire) :
    call.Succeeds P data (withRelayFrame data call.stateHandle f) where
  source := hsource
  target := by rwa [withRelayFrame_relayStates]
  lengths := by rw [houtputs, ← hlength]; rfl
  committed := by
    rw [houtputs]
    unfold withRelayFrame
    rw [hout]
    exact Memory.commits_write

theorem credentialWire_diagnosed (responder : Relay.OpaqueResponder) (input : List UInt8)
    (length : ℕ) : Diagnosed (credentialWire responder input length) := by
  unfold credentialWire
  split_ifs
  · exact .copyFromSlice _ _
  · exact .withCode (fun _ => toCInt_failure .invalidInput) _
  · exact .err (toCInt_failure .invalidInput)

theorem decodeCredentials_diagnosed (responder : Relay.OpaqueResponder) (input : List UInt8)
    (length : ℕ) : Diagnosed (decodeCredentials P responder input length) := by
  have hcorrupted : FailureCode ffiCorruptedRecord := by decide
  unfold decodeCredentials
  refine .bind (credentialWire_diagnosed _ _ _) fun _ => ?_
  refine .bind (.withCode (fun _ => hcorrupted) _) fun _ => ?_
  refine .bind (.withCode (fun _ => hcorrupted) _) fun _ => .bind (.failIf hcorrupted) fun _ => ?_
  split_ifs
  · exact .bind (.copyFromSlice _ _) fun _ => .bind (.copyFromSlice _ _) fun _ => .pure _
  · exact .pure _
  · exact .err (toCInt_failure .invalidInput)

theorem relayGenerateKe2_admits (args : RelayGenerateKe2) :
    (RelayCall.generateKe2 args).Admits (P := P) data (opaqueRelayGenerateKe2 P args strike) := by
  unfold opaqueRelayGenerateKe2
  refine .rejectIf fun _ => .rejectIf fun _ => .acquireRelay (by decide) ?_
  refine .work rfl (decodeCredentials_diagnosed _ _ _) fun creds hcreds => .acquireSession ?_
  · refine onRelayState_performs (.generateKe2 args) (fun m => ?_) ?_ ?_
    · exact .bind (fun _ hf => hf) fun _ => .bind (KeepsMemory.onSession m) fun _ _ hf => hf
    · exact fun wire f => ⟨_, rfl⟩
    · intro wire g g' hrun hdone
      rw [Cmd.run_bind_ok (Op.run_getOut _)] at hrun
      obtain ⟨cf, hlibrary, hfill, rfl⟩ := onSession_fill_ok hrun
      cases hdone
      dsimp only [RelayCall.stateHandle, id] at hlibrary
      rcases Relay.generateKe2_ends _ _ _ _ _ _ hlibrary with
        ⟨-, hsource, htarget, -⟩ | ⟨hfail, -⟩
      · have hsized : Protocol.Sized Protocol.ke2FieldLengths
            [cf.out.responderNonce.toList, cf.out.responderPublicKey.toList,
              cf.out.credentialResponse.toList, cf.out.responderMac.toList,
              cf.out.kemCiphertext.toList] := by
          simp [Protocol.Sized]
        have hwire :=
          Protocol.wire_of_fill hfill (Protocol.writeKe2_writes hsized le_rfl) hsized rfl
        refine RelayCall.succeeds_of_write hsource htarget (by simp [RelayCall.documented]) ?_ rfl
        replace hcreds : decodeCredentials P (data.relays args.relayHandle)
            (data.memory.read args.credentialsData args.credentialsLength)
            args.credentialsLength = .ok creds := hcreds
        simp only [RelayCall.outputs, RelayCall.stateHandle, hcreds, hlibrary, hwire]
      · cases hfail

theorem relayFinish_admits (args : RelayFinish) :
    (RelayCall.finish args).Admits (P := P) data (opaqueRelayFinish args strike) := by
  unfold opaqueRelayFinish
  refine .rejectIf fun _ => .acquireRelay (by decide) (.acquireSession ?_)
  refine onRelayState_performs (.finish args) (fun m => ?_) ?_ ?_
  · exact .bind (fun _ hf => hf) fun _ => KeepsMemory.onSession m
  · exact fun sk f => ⟨_, rfl⟩
  · intro sk g g' hrun hdone
    rw [Cmd.run_bind_ok (Op.run_getOut _)] at hrun
    obtain ⟨cf, hlibrary, rfl, rfl⟩ := onSession_ok hrun
    cases hdone
    dsimp only [RelayCall.stateHandle, id] at hlibrary
    rcases Relay.responderFinish_cases _ _ with
      ⟨hawaits, -, hfinished⟩ | ⟨e, s', w, hfailed, -⟩
    · rw [hfinished] at hlibrary
      cases hlibrary
      exact RelayCall.succeeds_of_write hawaits.phase rfl (by simp [RelayCall.documented]) rfl rfl
    · rw [hfailed] at hlibrary
      cases hlibrary

theorem relayCall_admits (call : RelayCall) :
    call.Admits (P := P) data (call.program P strike) := by
  cases call with
  | generateKe2 args => exact relayGenerateKe2_admits args
  | finish args => exact relayFinish_admits args

end Relay

/-! ## All stateful calls -/

/-- A stateful call, with the place at which a panic strikes it. -/
inductive StatefulCall where
  | agent (call : AgentCall) (strike : Strike AgentStateHandle)
  | relay (call : RelayCall) (strike : Strike Relay.ResponderState)

namespace StatefulCall

def program : StatefulCall → Entry ℤ
  | agent call strike => call.program P strike
  | relay call strike => call.program P strike

def handle : StatefulCall → Handle Kind
  | agent call _ => ⟨.agentState, call.stateHandle⟩
  | relay call _ => ⟨.relayState, call.stateHandle⟩

def Succeeds : StatefulCall → Store → Store → Prop
  | agent call _ => call.Succeeds P
  | relay call _ => call.Succeeds P

def Invalidates : StatefulCall → Store → Store → Prop
  | agent call _ => call.Invalidates
  | relay call _ => call.Invalidates

/-- The call returned zero and did what it documents. -/
def Committed (call : StatefulCall) (s : Process) (e : Program.Ending Kind Store ℤ) : Prop :=
  e.code = 0 ∧ call.Succeeds P s.data e.shared.data

/-- The session was never admitted to, and everything is as it was. -/
def Rejected (call : StatefulCall) (s : Process) (e : Program.Ending Kind Store ℤ) : Prop :=
  call.handle ∉ e.acquired ∧ e.code ≠ 0 ∧ e.shared.data = s.data

/-- The session was admitted to, and is over. -/
def Terminated (call : StatefulCall) (s : Process) (e : Program.Ending Kind Store ℤ) : Prop :=
  call.handle ∈ e.acquired ∧ e.code ≠ 0 ∧ call.Invalidates s.data e.shared.data

end StatefulCall

def ExactlyOne (p q r : Prop) : Prop :=
  (p ∧ ¬ q ∧ ¬ r) ∨ (¬ p ∧ q ∧ ¬ r) ∨ (¬ p ∧ ¬ q ∧ r)

variable {P}

theorem StatefulCall.cases_exec (call : StatefulCall) (fresh : Process → ℕ) (s : Process) :
    let e := (call.program P).exec fresh [] [] s
    (call.handle ∉ e.acquired ∧ e.code ≠ 0 ∧ e.shared.data = s.data) ∨
      (call.handle ∈ e.acquired ∧ ((e.code = 0 ∧ call.Succeeds P s.data e.shared.data) ∨
        (e.code ≠ 0 ∧ call.Invalidates s.data e.shared.data))) := by
  cases call with
  | agent call strike => exact (agentCall_admits call).exec fresh List.not_mem_nil
  | relay call strike => exact (relayCall_admits call).exec fresh List.not_mem_nil

/--
Any stateful call, with any arguments, on any process, and with a panic at any
point before the commit: it commits, it is rejected, or it ends the session.
-/
theorem stateful_call_contract (call : StatefulCall) (fresh : Process → ℕ) (s : Process) :
    let e := (call.program P).exec fresh [] [] s
    ExactlyOne (call.Committed P s e) (call.Rejected s e) (call.Terminated s e) := by
  intro e
  rcases call.cases_exec fresh s with ⟨hout, hcode, hsame⟩ | ⟨hin, hok | hfail⟩
  · exact .inr (.inl ⟨fun h => hcode h.1, ⟨hout, hcode, hsame⟩, fun h => hout h.1⟩)
  · exact .inl ⟨hok, fun h => h.1 hin, fun h => h.2.1 hok.1⟩
  · exact .inr (.inr ⟨fun h => hfail.1 h.1, fun h => h.1 hin, hin, hfail⟩)

end AuraOpaque.Ffi
