import AuraOpaque.Ffi.Commits
import AuraOpaque.Foundation.Stages
import AuraOpaque.Handshake.EndToEnd

/-!
# Keys leave after their message

All calls on one session handle, in any order, with any arguments and panics.
Between two of them the rest of the process may change at will.
-/

namespace AuraOpaque.Ffi

open AuraOpaque.Foundation AuraOpaque.Core
open Agent (InitiatorState)
open Relay (ResponderState)

variable (P : Primitives) (fresh : Process → ℕ)

/-- A call, and the process that it found. -/
structure Visit where
  call : StatefulCall
  before : Process

namespace Visit

def ending (v : Visit) : Program.Ending Kind Store ℤ :=
  (v.call.program P).exec fresh [] [] v.before

def code (v : Visit) : ℤ := (v.ending P fresh).code

def after (v : Visit) : Store := (v.ending P fresh).shared.data

def Admitted (v : Visit) : Prop := v.call.handle ∈ (v.ending P fresh).acquired

/-- The outputs of the call are in the callers' memory, and nothing else has changed there. -/
def Delivers (v : Visit) (outputs : List (ℕ × List UInt8)) : Prop :=
  v.before.data.memory.Commits (v.after P fresh).memory outputs

def Silent (v : Visit) : Prop := (v.after P fresh).memory = v.before.data.memory

variable {P fresh} in
theorem silent (v : Visit) (hcode : v.code P fresh ≠ 0) : v.Silent P fresh := by
  rcases v.call.cases_exec fresh v.before with ⟨-, -, hsame⟩ | ⟨-, ⟨hzero, -⟩ | ⟨-, hfail⟩⟩
  · exact congrArg Store.memory hsame
  · exact absurd hzero hcode
  · obtain ⟨call, s⟩ := v
    cases call with
    | agent call strike => exact hfail.memory
    | relay call strike => exact hfail.memory

end Visit

/-! ## The client -/

/-- One call on the client's session at an address. -/
def AgentStep (handle : ℕ) (sh : AgentStateHandle) (v : Visit) (sh' : AgentStateHandle) : Prop :=
  v.call.handle = ⟨.agentState, handle⟩ ∧ v.before.data.agentStates handle = sh ∧
    (v.after P fresh).agentStates handle = sh'

/-- The object behind a handle from `opaque_agent_state_create`. -/
def AgentStateHandle.newAt (createdAt : ℕ) : AgentStateHandle where
  state := .newAt createdAt
  ke3Exported := false

abbrev AgentVisits (handle createdAt : ℕ) : List Visit → AgentStateHandle → Prop :=
  Run (AgentStep P fresh handle) (.newAt createdAt)

def agentStages : Stages Visit Agent.Operation Agent.InitiatorPhase where
  operation v :=
    match v.call with
    | .agent call _ => some call.operation
    | .relay _ _ => none
  admitted := Visit.Admitted P fresh
  ok v := decide (v.code P fresh = 0)
  source := Agent.Operation.source
  target := Agent.Operation.target
  terminal := .finished
  rank := Agent.InitiatorPhase.rank
  rank_lt := Agent.Operation.rank_lt
  rank_le := Agent.InitiatorPhase.rank_le

section Agent

variable {P fresh} {handle createdAt : ℕ} {sh sh' : AgentStateHandle} {v : Visit}
  {history before after : List Visit}

/-- A constructor that returns zero leaves a new session behind the handle in the slot. -/
theorem opaqueAgentStateCreate_newAt {slot : ℕ} {panics : Bool} {s : Process}
    (h : ((opaqueAgentStateCreate slot panics).exec fresh [] [] s).code = 0) :
    ∃ createdAt,
      ((opaqueAgentStateCreate slot panics).exec fresh [] [] s).shared.data.agentStates
        (((opaqueAgentStateCreate slot panics).exec fresh [] [] s).shared.slots
          ⟨.agentState, slot⟩) = .newAt createdAt := by
  unfold opaqueAgentStateCreate Entry.rejectIf Program.exitIf at h ⊢
  by_cases hnull : slot = null
  · simp [hnull, Program.exec, OpaqueError.toCInt] at h
  · simp only [if_neg hnull, Program.ret_bind, Program.clear_bind, Entry.work,
      Program.act_bind, Program.publish_bind, Program.exec] at h ⊢
    cases panics with
    | false =>
        refine ⟨s.data.world.clock 0, ?_⟩
        simp [onWorld, InitiatorState.new, Cmd.run_bind, withCode, injectTestPanic, Shared.clear,
          Program.exec, Shared.publish, Shared.unlockAll, AgentStateHandle.newAt]
    | true =>
        simp [onWorld, InitiatorState.new, Cmd.run_bind, withCode, injectTestPanic, Shared.clear,
          ffiPanic] at h

theorem AgentStep.cases (h : AgentStep P fresh handle sh v sh') :
    ∃ call strike, v.call = .agent call strike ∧
      ((¬ v.Admitted P fresh ∧ v.code P fresh ≠ 0 ∧ sh' = sh) ∨
      (v.Admitted P fresh ∧ v.code P fresh = 0 ∧ call.Succeeds P v.before.data (v.after P fresh) ∧
        sh.state.phase = call.operation.source ∧ sh'.state.phase = call.operation.target ∧
        call.Exports sh.ke3Exported sh'.ke3Exported) ∨
      (v.Admitted P fresh ∧ v.code P fresh ≠ 0 ∧ sh'.state.Dead ∧ sh'.ke3Exported = false)) := by
  obtain ⟨hhandle, rfl, rfl⟩ := h
  obtain ⟨call, s⟩ := v
  cases call with
  | relay call strike => cases hhandle
  | agent call strike =>
      cases hhandle
      refine ⟨call, strike, rfl, ?_⟩
      rcases (StatefulCall.agent call strike).cases_exec fresh s with
        ⟨hout, hcode, hsame⟩ | ⟨hin, ⟨hcode, hok⟩ | ⟨hcode, hfail⟩⟩
      · exact .inl ⟨hout, hcode, congrArg (fun data => Store.agentStates data _) hsame⟩
      · exact .inr (.inl ⟨hin, hcode, hok, hok.source, hok.target, hok.exported⟩)
      · exact .inr (.inr ⟨hin, hcode, hfail.dead, hfail.exported⟩)

theorem agentStages_governs :
    (agentStages P fresh).Governs (fun sh => sh.state.phase) (AgentStep P fresh handle) := by
  intro sh v sh' h
  obtain ⟨call, strike, hcall, ⟨hout, hcode, hsame⟩ | ⟨hin, hcode, -, hsource, htarget, -⟩ |
    ⟨hin, hcode, hdead, -⟩⟩ := h.cases
  · exact .inl ⟨hout, decide_eq_false hcode, hsame⟩
  · refine .inr (.inl ⟨call.operation, ?_, hin, decide_eq_true hcode, hsource, htarget⟩)
    simp only [agentStages, hcall]
  · exact .inr (.inr ⟨hin, decide_eq_false hcode, hdead.phase⟩)

/-- The flag of the handle and the phase of the library say the same. -/
def FlagFollowsPhase (sh : AgentStateHandle) : Prop :=
  sh.ke3Exported = true ↔ sh.state.phase = .ke3Generated

theorem AgentCall.Exports.flagFollowsPhase {call : AgentCall}
    (h : call.Exports sh.ke3Exported sh'.ke3Exported)
    (hsource : sh.state.phase = call.operation.source)
    (htarget : sh'.state.phase = call.operation.target) (hs : FlagFollowsPhase sh) :
    FlagFollowsPhase sh' := by
  unfold FlagFollowsPhase at hs ⊢
  rw [hsource] at hs
  rw [htarget]
  -- before the KE3 the flag stays as it is, and it is not set
  have hkept : call.operation.source ≠ .ke3Generated → call.operation.target ≠ .ke3Generated →
      sh'.ke3Exported = sh.ke3Exported →
      (sh'.ke3Exported = true ↔ call.operation.target = .ke3Generated) := by
    intro hbefore hafter hsame
    rw [hsame, hs]
    exact iff_of_false hbefore hafter
  cases call with
  | createRegistrationRequest args => exact hkept nofun nofun h
  | finalizeRegistration args => exact hkept nofun nofun h
  | generateKe1 args => exact hkept nofun nofun h
  | generateKe3 args => exact iff_of_true h rfl
  | finish args => exact iff_of_false (by simp [h.2]) nofun

theorem AgentStep.flagFollowsPhase (h : AgentStep P fresh handle sh v sh')
    (hs : FlagFollowsPhase sh) : FlagFollowsPhase sh' := by
  obtain ⟨call, strike, -, ⟨-, -, rfl⟩ | ⟨-, -, -, hsource, htarget, hexported⟩ |
    ⟨-, -, hdead, hexported⟩⟩ := h.cases
  · exact hs
  · exact hexported.flagFollowsPhase hsource htarget hs
  · unfold FlagFollowsPhase
    rw [hexported, hdead.phase]
    exact iff_of_false nofun nofun

theorem run_flagFollowsPhase (hrun : AgentVisits P fresh handle createdAt history sh) :
    FlagFollowsPhase sh :=
  hrun.stateInvariant (iff_of_false nofun nofun) fun _ _ _ hs hstep => hstep.flagFollowsPhase hs

theorem AgentStep.delivers_ke3 (h : AgentStep P fresh handle sh v sh')
    (hop : (agentStages P fresh).succeeds .generateKe3 v = true) :
    ∃ args strike wire, v.call = .agent (.generateKe3 args) strike ∧ wire.length = 65 ∧
      v.Delivers P fresh [(args.ke3Out, wire)] := by
  obtain ⟨hcalled, hok⟩ := Stages.succeeds_iff.mp hop
  have hzero : v.code P fresh = 0 := of_decide_eq_true hok
  obtain ⟨call, strike, hcall, ⟨-, hcode, -⟩ | ⟨-, -, hsucceeds, -⟩ | ⟨-, hcode, -⟩⟩ := h.cases
  · exact absurd hzero hcode
  · simp only [agentStages, hcall] at hcalled
    cases call with
    | generateKe3 args =>
        exact ⟨args, strike, _, hcall, (List.cons.inj hsucceeds.lengths).1, hsucceeds.committed⟩
    | _ => cases hcalled
  · exact absurd hzero hcode

end Agent

/-! ## The relay -/

def RelayStep (handle : ℕ) (s : ResponderState) (v : Visit) (s' : ResponderState) : Prop :=
  v.call.handle = ⟨.relayState, handle⟩ ∧ v.before.data.relayStates handle = s ∧
    (v.after P fresh).relayStates handle = s'

abbrev RelayVisits (handle createdAt : ℕ) : List Visit → ResponderState → Prop :=
  Run (RelayStep P fresh handle) (.newAt createdAt)

def relayStages : Stages Visit Relay.Operation Relay.ResponderPhase where
  operation v :=
    match v.call with
    | .agent _ _ => none
    | .relay call _ => some call.operation
  admitted := Visit.Admitted P fresh
  ok v := decide (v.code P fresh = 0)
  source := Relay.Operation.source
  target := Relay.Operation.target
  terminal := .finished
  rank := Relay.ResponderPhase.rank
  rank_lt := Relay.Operation.rank_lt
  rank_le := Relay.ResponderPhase.rank_le

section Relay

variable {P fresh} {handle createdAt : ℕ} {s s' : ResponderState} {v : Visit}
  {history before after : List Visit}

theorem opaqueRelayStateCreate_newAt {slot : ℕ} {panics : Bool} {p : Process}
    (h : ((opaqueRelayStateCreate slot panics).exec fresh [] [] p).code = 0) :
    ∃ createdAt,
      ((opaqueRelayStateCreate slot panics).exec fresh [] [] p).shared.data.relayStates
        (((opaqueRelayStateCreate slot panics).exec fresh [] [] p).shared.slots
          ⟨.relayState, slot⟩) = .newAt createdAt := by
  unfold opaqueRelayStateCreate Entry.rejectIf Program.exitIf at h ⊢
  by_cases hnull : slot = null
  · simp [hnull, Program.exec, OpaqueError.toCInt] at h
  · simp only [if_neg hnull, Program.ret_bind, Program.clear_bind, Entry.work,
      Program.act_bind, Program.publish_bind, Program.exec] at h ⊢
    cases panics with
    | false =>
        refine ⟨p.data.world.clock 0, ?_⟩
        simp [onWorld, ResponderState.new, Cmd.run_bind, withCode, injectTestPanic, Shared.clear,
          Program.exec, Shared.publish, Shared.unlockAll]
    | true =>
        simp [onWorld, ResponderState.new, Cmd.run_bind, withCode, injectTestPanic, Shared.clear,
          ffiPanic] at h

theorem RelayStep.cases (h : RelayStep P fresh handle s v s') :
    ∃ call strike, v.call = .relay call strike ∧
      ((¬ v.Admitted P fresh ∧ v.code P fresh ≠ 0 ∧ s' = s) ∨
      (v.Admitted P fresh ∧ v.code P fresh = 0 ∧ call.Succeeds P v.before.data (v.after P fresh) ∧
        s.phase = call.operation.source ∧ s'.phase = call.operation.target) ∨
      (v.Admitted P fresh ∧ v.code P fresh ≠ 0 ∧ s'.Terminal)) := by
  obtain ⟨hhandle, rfl, rfl⟩ := h
  obtain ⟨call, p⟩ := v
  cases call with
  | agent call strike => cases hhandle
  | relay call strike =>
      cases hhandle
      refine ⟨call, strike, rfl, ?_⟩
      rcases (StatefulCall.relay call strike).cases_exec fresh p with
        ⟨hout, hcode, hsame⟩ | ⟨hin, ⟨hcode, hok⟩ | ⟨hcode, hfail⟩⟩
      · exact .inl ⟨hout, hcode, congrArg (fun data => Store.relayStates data _) hsame⟩
      · exact .inr (.inl ⟨hin, hcode, hok, hok.source, hok.target⟩)
      · exact .inr (.inr ⟨hin, hcode, hfail.dead⟩)

theorem relayStages_governs :
    (relayStages P fresh).Governs ResponderState.phase (RelayStep P fresh handle) := by
  intro s v s' h
  obtain ⟨call, strike, hcall, ⟨hout, hcode, hsame⟩ | ⟨hin, hcode, -, hsource, htarget⟩ |
    ⟨hin, hcode, hdead⟩⟩ := h.cases
  · exact .inl ⟨hout, decide_eq_false hcode, hsame⟩
  · refine .inr (.inl ⟨call.operation, ?_, hin, decide_eq_true hcode, hsource, htarget⟩)
    simp only [relayStages, hcall]
  · exact .inr (.inr ⟨hin, decide_eq_false hcode, hdead.phase⟩)

theorem RelayStep.delivers_ke2 (h : RelayStep P fresh handle s v s')
    (hop : (relayStages P fresh).succeeds .generateKe2 v = true) :
    ∃ args strike wire, v.call = .relay (.generateKe2 args) strike ∧ wire.length = 1377 ∧
      v.Delivers P fresh [(args.ke2Data, wire)] := by
  obtain ⟨hcalled, hok⟩ := Stages.succeeds_iff.mp hop
  have hzero : v.code P fresh = 0 := of_decide_eq_true hok
  obtain ⟨call, strike, hcall, ⟨-, hcode, -⟩ | ⟨-, -, hsucceeds, -⟩ | ⟨-, hcode, -⟩⟩ := h.cases
  · exact absurd hzero hcode
  · simp only [relayStages, hcall] at hcalled
    cases call with
    | finish args => cases hcalled
    | generateKe2 args =>
        refine ⟨args, strike, ?_⟩
        have hlengths := hsucceeds.lengths
        have hcommitted := hsucceeds.committed
        simp only [RelayCall.outputs] at hlengths hcommitted
        split at hlengths
        · next creds hcreds =>
            rw [hcreds] at hcommitted
            exact ⟨_, hcall, (List.cons.inj hlengths).1, hcommitted⟩
        · cases hlengths
  · exact absurd hzero hcode

end Relay

/-! ## Both sides -/

/-- What the calls on a client's session handed out. -/
structure AgentKeysLeaveOnce (history : List Visit) : Prop where
  once : history.countP ((agentStages P fresh).succeeds .initiatorFinish) ≤ 1
  afterKe3 : ∀ before v after, history = before ++ v :: after →
    (agentStages P fresh).succeeds .initiatorFinish v = true →
    ∃ past ke3 between, before = past ++ ke3 :: between ∧
      (agentStages P fresh).succeeds .generateKe3 ke3 = true ∧
      (∃ args strike wire, ke3.call = .agent (.generateKe3 args) strike ∧ wire.length = 65 ∧
        ke3.Delivers P fresh [(args.ke3Out, wire)]) ∧
      ∀ v ∈ between, ¬ v.Admitted P fresh
  silent : ∀ v ∈ history, v.code P fresh ≠ 0 → v.Silent P fresh

/-- What the calls on a relay's session handed out. -/
structure RelayKeysLeaveOnce (history : List Visit) : Prop where
  once : history.countP ((relayStages P fresh).succeeds .responderFinish) ≤ 1
  afterKe2 : ∀ before v after, history = before ++ v :: after →
    (relayStages P fresh).succeeds .responderFinish v = true →
    ∃ past ke2 between, before = past ++ ke2 :: between ∧
      (relayStages P fresh).succeeds .generateKe2 ke2 = true ∧
      (∃ args strike wire, ke2.call = .relay (.generateKe2 args) strike ∧ wire.length = 1377 ∧
        ke2.Delivers P fresh [(args.ke2Data, wire)]) ∧
      ∀ v ∈ between, ¬ v.Admitted P fresh
  silent : ∀ v ∈ history, v.code P fresh ≠ 0 → v.Silent P fresh

section Both

variable {P fresh} {handle handle' createdAt createdAt' : ℕ} {sh : AgentStateHandle}
  {s : ResponderState} {history history' : List Visit}

theorem agentKeysLeaveOnce (hrun : AgentVisits P fresh handle createdAt history sh) :
    AgentKeysLeaveOnce P fresh history where
  once := agentStages_governs.count_le_one _ hrun
  afterKe3 before v after hsplit hfinish := by
    subst hsplit
    obtain ⟨past, ke3, between, rfl, hke3, hquiet⟩ :=
      @Stages.Governs.preceded _ _ _ _ (agentStages P fresh) _ _ _ _ _ _ _ _ .initiatorFinish
        .generateKe3 agentStages_governs rfl (fun op h => by cases op <;> first | rfl | cases h)
        (fun h => by cases h) (fun h => by cases h) hrun hfinish
    rw [List.append_assoc] at hrun
    obtain ⟨_, _, -, hstep⟩ := hrun.split_at
    exact ⟨past, ke3, between, rfl, hke3, hstep.delivers_ke3 hke3, hquiet⟩
  silent v _ := v.silent

theorem relayKeysLeaveOnce (hrun : RelayVisits P fresh handle createdAt history s) :
    RelayKeysLeaveOnce P fresh history where
  once := relayStages_governs.count_le_one _ hrun
  afterKe2 before v after hsplit hfinish := by
    subst hsplit
    obtain ⟨past, ke2, between, rfl, hke2, hquiet⟩ :=
      @Stages.Governs.preceded _ _ _ _ (relayStages P fresh) _ _ _ _ _ _ _ _ .responderFinish
        .generateKe2 relayStages_governs rfl (fun op h => by cases op <;> first | rfl | cases h)
        (fun h => by cases h) (fun h => by cases h) hrun hfinish
    rw [List.append_assoc] at hrun
    obtain ⟨_, _, -, hstep⟩ := hrun.split_at
    exact ⟨past, ke2, between, rfl, hke2, hstep.delivers_ke2 hke2, hquiet⟩
  silent v _ := v.silent

/--
Any calls on a client's handle, and any calls on a relay's: the flag of the client follows
its phase, keys leave once, and they leave after the message that they belong to.
-/
theorem keys_leave_after_message (hagent : AgentVisits P fresh handle createdAt history sh)
    (hrelay : RelayVisits P fresh handle' createdAt' history' s) :
    FlagFollowsPhase sh ∧ AgentKeysLeaveOnce P fresh history ∧
      RelayKeysLeaveOnce P fresh history' :=
  ⟨run_flagFollowsPhase hagent, agentKeysLeaveOnce hagent, relayKeysLeaveOnce hrelay⟩

end Both

/-! ## A login on the small instance -/

section Sample

open Handshake (Honest sample_calm)

variable {P} {fresh}

theorem LeavesAgent.step {call : AgentCall} {s : Process} {sh : AgentStateHandle}
    (h : LeavesAgent call.stateHandle sh ((call.program P none).exec fresh [] [] s)) :
    AgentStep P fresh call.stateHandle (s.data.agentStates call.stateHandle)
      ⟨.agent call none, s⟩ sh ∧ (Visit.mk (.agent call none) s).code P fresh = 0 :=
  ⟨⟨rfl, rfl, h.session⟩, h.code⟩

theorem LeavesRelay.step {call : RelayCall} {s : Process} {state : ResponderState}
    (h : LeavesRelay call.stateHandle state ((call.program P none).exec fresh [] [] s)) :
    RelayStep P fresh call.stateHandle (s.data.relayStates call.stateHandle)
      ⟨.relay call none, s⟩ state ∧ (Visit.mk (.relay call none) s).code P fresh = 0 :=
  ⟨⟨rfl, rfl, h.session⟩, h.code⟩

def sampleProcess : Process where
  inUse _ := false
  live _ := true
  slots _ := 0
  data :=
    { agents := fun _ => ⟨zeros _⟩
      agentStates := fun _ => .newAt 0
      relays := fun _ =>
        { keypair := ⟨zeros _, zeros _⟩
          evaluator := (InMemoryEvaluator.mk (zeros _)).toOprfEvaluator Sample.primitives }
      relayStates := fun _ => .newAt 0
      relayKeypairs := fun _ => { keypair := ⟨zeros _, zeros _⟩, oprfSeed := zeros _ }
      memory := fun _ => 0
      world := Sample.world 0 }

/-- A process with one client session, one relay session and one content of the memory. -/
def sampleFinds (initiator : Agent.OpaqueInitiator) (sh : AgentStateHandle)
    (state : ResponderState) (memory : Memory) (world : World) : Process :=
  { sampleProcess with data := { sampleProcess.data with
      agents := fun _ => initiator
      agentStates := fun _ => sh
      relays := fun _ => Relay.sampleResponder
      relayStates := fun _ => state
      memory
      world } }

theorem sampleFinds_idle {object session : Handle Kind} {initiator : Agent.OpaqueInitiator}
    {sh : AgentStateHandle} {state : ResponderState} {memory : Memory} {world : World}
    (hobject : object.address ≠ null) (hsession : session.address ≠ null) :
    Idle (sampleFinds initiator sh state memory world) object session :=
  ⟨hobject, hsession, rfl, rfl⟩

def sampleKe1Args : GenerateKe1 := ⟨1, 1000, 1, 2000, 1, 1, 3000, 1273⟩

def sampleKe1Call : AgentCall := .generateKe1 sampleKe1Args

/-- Where the session is new, and password and account are one zero each. -/
theorem sampleKe1_run {s : Process}
    (hkey : s.data.memory.read sampleKe1Args.secureKey sampleKe1Args.secureKeyLength = [0])
    (haccount : s.data.memory.read sampleKe1Args.accountId sampleKe1Args.accountIdLength = [0])
    (hnew : s.data.agentStates sampleKe1Args.stateHandle = .newAt 0)
    (hworld : s.data.world = Sample.world 0) : ∃ (d : Agent.LoginDraws Sample.primitives)
    (cf : Frame Agent.Ke1Message InitiatorState), d.Awaits [0] [0] cf.state ∧
    Agent.AwaitsKe2 ⟨.new, cf.state, Sample.world 0⟩ ∧
    (Agent.generateKe1 Sample.primitives
      (s.data.memory.read sampleKe1Args.secureKey sampleKe1Args.secureKeyLength)
      (s.data.memory.read sampleKe1Args.accountId sampleKe1Args.accountIdLength)).run
        ⟨.new, (s.data.agentStates sampleKe1Args.stateHandle).state, s.data.world⟩ =
          (.ok (), cf) := by
  have hadmissible : Agent.Admissible Sample.primitives [0] :=
    ⟨rfl, by simp, (by decide : (1 : ZMod 5) ≠ 0)⟩
  obtain ⟨d, state, w, hawaits, hcreated, -, -, hlibrary⟩ :=
    @Agent.generateKe1_run Sample.primitives [0] [0] ⟨.new, .newAt 0, Sample.world 0⟩ hadmissible
      rfl rfl (Sample.world_neverExhausted 0)
  refine ⟨d, ⟨d.ke1 [0], state, w.tick⟩, hawaits, ⟨hawaits.phase, ?_, ?_⟩, ?_⟩
  · simp [hcreated, Sample.world, lifetimeOver]
  · rw [hawaits.accountContextHash]
    exact isAllZero_toList_eq_false_iff.mpr (Sample.digest_ne_zero _)
  · rw [hkey, haccount, hnew, hworld]
    simpa only [AgentStateHandle.newAt] using hlibrary

def sampleKe3Call : AgentCall := .generateKe3 ⟨1, 5000, 1377, 1, 7000, 65⟩

def sampleFinishCall : AgentCall := .finish ⟨1, 1, 100, 64, 200, 32⟩

/-- The client's three calls of an honest login. -/
theorem sample_agentVisits : ∃ (s₁ s₂ s₃ : Process) (createdAt : ℕ) (sh : AgentStateHandle),
    let history := [Visit.mk (.agent sampleKe1Call none) s₁, ⟨.agent sampleKe3Call none, s₂⟩,
      ⟨.agent sampleFinishCall none, s₃⟩]
    AgentVisits Sample.primitives (fun _ => 1) 1 createdAt history sh ∧
      ∀ v ∈ history, v.code Sample.primitives (fun _ => 1) = 0 := by
  obtain ⟨h, -, -, hpassword, haccount⟩ := Handshake.exists_sampleHonest
  obtain ⟨e, x, w, ⟨a⟩, -⟩ := Handshake.untilKe2_run Sample.primitives_correct h sample_calm
  obtain ⟨createdAt, hrun⟩ := a.clientRun
  obtain ⟨w₁, hexec⟩ := hrun.step_of_single
  rw [hpassword, haccount] at hexec
  obtain ⟨houtcome, hclient⟩ := Prod.mk.inj hexec
  obtain ⟨c, hsecrets, htranscript, htraced⟩ := a.generateKe3_run Sample.primitives_correct
  have hke3 := (@Agent.generateKe3_eq_ok_iff _ _ _ _ () _).mpr ⟨_, htraced .new⟩
  have hkey : (c.stateAfter (w.clock 1)).sessionKey ≠ zeros _ := by
    rw [a.sessionKey_eq hsecrets htranscript]
    exact Handshake.sample_sessionKey_ne_zero a
  let memory : Memory := fun _ => 1
  let s₁ := sampleFinds h.initiator (.newAt createdAt) (.newAt 0) memory w₁
  let s₂ := sampleFinds h.initiator ⟨x.client, false⟩ (.newAt 0)
    (memory.write 5000 x.ke2Wire.toList) w
  let s₃ := sampleFinds h.initiator ⟨c.stateAfter (w.clock 1), true⟩ (.newAt 0) memory w
  have hread : s₂.data.memory.read 5000 1377 = x.ke2Wire.toList := by
    have hwritten := @Memory.read_write memory 5000 x.ke2Wire.toList
    rwa [List.Vector.toList_length] at hwritten
  obtain ⟨hstep₁, hcode₁⟩ := @LeavesAgent.step Sample.primitives (fun _ => 1) sampleKe1Call s₁ _
    (generateKe1_commits (by decide) (by decide) (sampleFinds_idle (by decide) (by decide))
      (Prod.ext houtcome rfl))
  obtain ⟨hstep₂, hcode₂⟩ := @LeavesAgent.step Sample.primitives (fun _ => 1) sampleKe3Call s₂ _
    (generateKe3_commits (by decide) (sampleFinds_idle (by decide) (by decide))
      (by rw [hread]; exact hke3))
  rcases Agent.initiatorFinish_cases ⟨⟨zeros _, zeros _⟩, c.stateAfter (w.clock 1), w⟩ with
    ⟨hphase, -⟩ | ⟨-, hzero, -⟩ | ⟨-, -, s', -, hfinish⟩
  · exact absurd rfl hphase
  · exact absurd hzero hkey
  obtain ⟨hstep₃, hcode₃⟩ := @LeavesAgent.step Sample.primitives (fun _ => 1) sampleFinishCall s₃ _
    (agentFinish_commits (by decide) (sampleFinds_idle (by decide) (by decide)) rfl hfinish)
  change (Agent.Call.onSession _ _ _ _).2 = x.client at hclient
  have hwaits : AgentStep Sample.primitives (fun _ => 1) 1 (.newAt createdAt)
      ⟨.agent sampleKe1Call none, s₁⟩ ⟨x.client, false⟩ := by
    rw [← hclient]
    exact hstep₁
  refine ⟨s₁, s₂, s₃, createdAt, _, ((Run.single hwaits).snoc hstep₂).snoc hstep₃, ?_⟩
  simp only [List.forall_mem_cons]
  exact ⟨hcode₁, hcode₂, hcode₃, List.forall_mem_nil _⟩

def sampleKe2Args : RelayGenerateKe2 := ⟨1, 3000, 1273, 5000, 1, 1000, 0, 6000, 1377, 1⟩

def sampleKe2Call : RelayCall := .generateKe2 sampleKe2Args

def sampleRelayFinishCall : RelayCall := .finish ⟨1, 300, 65, 1, 100, 64⟩

/-- A process with a new session for the relay. -/
def sampleAsked (memory : Memory) : Process :=
  sampleFinds ⟨zeros _⟩ (.newAt 0) (.newAt 0) memory (Sample.world 0)

/-- With a KE1 in its memory, and no record for the account. -/
theorem sampleKe2_library : ∃ (memory : Memory) (s : Process)
    (cf : Frame Relay.Ke2Message ResponderState), s = sampleAsked memory ∧
      Relay.AwaitsKe3 cf.state (Sample.world 0) ∧
      decodeCredentials Sample.primitives (s.data.relays sampleKe2Args.relayHandle)
        (s.data.memory.read sampleKe2Args.credentialsData sampleKe2Args.credentialsLength)
        sampleKe2Args.credentialsLength = .ok .new ∧
      (Relay.generateKe2 Sample.primitives (s.data.relays sampleKe2Args.relayHandle)
        (s.data.memory.read sampleKe2Args.ke1Data sampleKe2Args.ke1Length)
        (s.data.memory.read sampleKe2Args.accountId sampleKe2Args.accountIdLength) .new).run
          ⟨.new, s.data.relayStates sampleKe2Args.stateHandle, s.data.world⟩ = (.ok (), cf) := by
  obtain ⟨f', hke2, hphase, hcreated, hkey⟩ := Relay.sample_answers 0 0
  obtain ⟨ke1, hsent⟩ : ∃ ke1, ke1 = Relay.sampleKe1 (Sample.encapsulationKey 7).val := ⟨_, rfl⟩
  rw [← hsent] at hke2
  let memory : Memory := fun _ => 1
  let s := sampleAsked (memory.write 3000 ke1)
  have hlength : ke1.length = 1273 := by
    simp [hsent, Relay.sampleKe1, Protocol.encode, -List.reduceReplicate]
  have hread : s.data.memory.read sampleKe2Args.ke1Data sampleKe2Args.ke1Length = ke1 := by
    rw [show sampleKe2Args.ke1Length = ke1.length from hlength.symm]
    exact Memory.read_write
  have haccount :
      s.data.memory.read sampleKe2Args.accountId sampleKe2Args.accountIdLength = [1] :=
    Memory.read_write_beyond (.inr (by rw [hlength]; decide))
  have hvalid : validatePublicKey Sample.primitives
      Relay.sampleResponder.keypair.publicKey.toList = .ok () :=
    (validatePublicKey_eq_ok_iff _).mpr ⟨(1 : ZMod 5), (by decide : (1 : ZMod 5) ≠ 0), rfl⟩
  refine ⟨memory.write 3000 ke1, s, f', rfl, ⟨hphase, by rw [hcreated]; rfl, hkey⟩,
    decodeCredentials_unregistered hvalid _, ?_⟩
  rw [hread, haccount]
  exact hke2

/-- The relay's two calls. -/
theorem sample_relayVisits : ∃ (s₁ s₂ : Process) (state : ResponderState),
    let history := [Visit.mk (.relay sampleKe2Call none) s₁,
      ⟨.relay sampleRelayFinishCall none, s₂⟩]
    RelayVisits Sample.primitives (fun _ => 1) 1 0 history state ∧
      ∀ v ∈ history, v.code Sample.primitives (fun _ => 1) = 0 := by
  obtain ⟨memory, s₁, cf, rfl, hawaits, hcreds, hlibrary⟩ := sampleKe2_library
  obtain ⟨ke3, haccepted⟩ : ∃ ke3, ke3 = Protocol.encode [cf.state.expectedInitiatorMac.toList] :=
    ⟨_, rfl⟩
  let s₂ := sampleFinds ⟨zeros _⟩ (.newAt 0) cf.state (memory.write 300 ke3) (Sample.world 0)
  have hke3 : ke3.length = 65 := by simp [haccepted, Protocol.encode]
  have hread : s₂.data.memory.read 300 65 = ke3 := by
    rw [← hke3]
    exact Memory.read_write
  have hfinish := @Relay.responderFinish_run_of_accepts ke3
    ⟨zeros hashLength, cf.state, Sample.world 0⟩ hawaits haccepted
  obtain ⟨hstep₁, hcode₁⟩ := @LeavesRelay.step Sample.primitives (fun _ => 1) sampleKe2Call
    (sampleAsked memory) _ (relayGenerateKe2_commits (by decide)
      (sampleFinds_idle (by decide) (by decide)) hcreds hlibrary)
  obtain ⟨hstep₂, hcode₂⟩ := @LeavesRelay.step Sample.primitives (fun _ => 1)
    sampleRelayFinishCall s₂ _ (relayFinish_commits (by decide)
      (sampleFinds_idle (by decide) (by decide)) (by rw [hread]; exact hfinish))
  refine ⟨sampleAsked memory, s₂, _, (Run.single hstep₁).snoc hstep₂, ?_⟩
  simp only [List.forall_mem_cons]
  exact ⟨hcode₁, hcode₂, List.forall_mem_nil _⟩

/--
An honest login on either side.  Each call returns zero, the keys leave with the
last one, and the message before it was handed out.
-/
theorem keys_leave_after_message_sample : ∃ (s₁ s₂ s₃ r₁ r₂ : Process) (sh : AgentStateHandle),
    let ke1 := Visit.mk (.agent sampleKe1Call none) s₁
    let ke3 := Visit.mk (.agent sampleKe3Call none) s₂
    let finish := Visit.mk (.agent sampleFinishCall none) s₃
    let ke2 := Visit.mk (.relay sampleKe2Call none) r₁
    let finish' := Visit.mk (.relay sampleRelayFinishCall none) r₂
    (∀ v ∈ [ke1, ke3, finish, ke2, finish'], v.code Sample.primitives (fun _ => 1) = 0) ∧
      FlagFollowsPhase sh ∧
      AgentKeysLeaveOnce Sample.primitives (fun _ => 1) [ke1, ke3, finish] ∧
      RelayKeysLeaveOnce Sample.primitives (fun _ => 1) [ke2, finish'] ∧
      (∃ wire, wire.length = 65 ∧
        ke3.Delivers Sample.primitives (fun _ => 1) [(7000, wire)]) ∧
      ∃ wire, wire.length = 1377 ∧
        ke2.Delivers Sample.primitives (fun _ => 1) [(6000, wire)] := by
  obtain ⟨s₁, s₂, s₃, createdAt, sh, hagent, hzero⟩ := sample_agentVisits
  obtain ⟨r₁, r₂, state, hrelay, hzero'⟩ := sample_relayVisits
  obtain ⟨hflag, hkeys, hkeys'⟩ := keys_leave_after_message hagent hrelay
  simp only [List.forall_mem_cons] at hzero hzero'
  obtain ⟨hke1, hke3, hfinish, -⟩ := hzero
  obtain ⟨hke2, hfinish', -⟩ := hzero'
  refine ⟨s₁, s₂, s₃, r₁, r₂, sh, ?_, hflag, hkeys, hkeys', ?_, ?_⟩
  · simp only [List.forall_mem_cons]
    exact ⟨hke1, hke3, hfinish, hke2, hfinish', nofun⟩
  · obtain ⟨past, v, between, hsplit, -, ⟨args, strike, wire, hcall, hwire, hdelivers⟩, -⟩ :=
      hkeys.afterKe3 [_, _] _ [] rfl (Stages.succeeds_iff.mpr ⟨rfl, decide_eq_true hfinish⟩)
    have hmem := List.mem_append_right past (List.mem_cons_self (a := v) (l := between))
    rw [← hsplit, List.mem_cons, List.mem_singleton] at hmem
    rcases hmem with rfl | rfl <;> cases hcall
    exact ⟨wire, hwire, hdelivers⟩
  · obtain ⟨past, v, between, hsplit, -, ⟨args, strike, wire, hcall, hwire, hdelivers⟩, -⟩ :=
      hkeys'.afterKe2 [_] _ [] rfl (Stages.succeeds_iff.mpr ⟨rfl, decide_eq_true hfinish'⟩)
    have hmem := List.mem_append_right past (List.mem_cons_self (a := v) (l := between))
    rw [← hsplit, List.mem_singleton] at hmem
    obtain rfl := hmem
    cases hcall
    exact ⟨wire, hwire, hdelivers⟩

end Sample

end AuraOpaque.Ffi
