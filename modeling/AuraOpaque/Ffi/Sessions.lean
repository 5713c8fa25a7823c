import AuraOpaque.Foundation.Serial
import AuraOpaque.Ffi.Answers
import AuraOpaque.Ffi.Export

/-!
# Client sessions under many callers

The calls on a client's session may come from any number of threads.  What they
make of the session is a run of the library's client, in the order in which they
got to it, up to the first one that fails.
-/

namespace AuraOpaque.Ffi

open AuraOpaque.Foundation AuraOpaque.Core

variable (P : Primitives)

/-! ## One call -/

namespace AgentCall

def agentHandle : AgentCall → ℕ
  | createRegistrationRequest args => args.agentHandle
  | finalizeRegistration args => args.agentHandle
  | generateKe1 args => args.agentHandle
  | generateKe3 args => args.agentHandle
  | finish args => args.agentHandle

/-- The operation of the library that the call stands for, on a store. -/
def library (call : AgentCall) (data : Store) : Agent.Call :=
  match call with
  | createRegistrationRequest args =>
      .createRegistrationRequest (data.memory.read args.secureKey args.secureKeyLength) .new
  | finalizeRegistration args =>
      .finalizeRegistration (data.agents args.agentHandle)
        (data.memory.read args.response args.responseLength) .new
  | generateKe1 args =>
      .generateKe1 (data.memory.read args.secureKey args.secureKeyLength)
        (data.memory.read args.accountId args.accountIdLength) .new
  | generateKe3 args =>
      .generateKe3 (data.agents args.agentHandle) (data.memory.read args.ke2 args.ke2Length) .new
  | finish _ => .initiatorFinish ⟨zeros _, zeros _⟩

/-- The operation of the library succeeded, and its step is the step of the session. -/
def Follows (call : AgentCall) (data data' : Store) : Prop :=
  Agent.Step P (data.agentStates call.stateHandle).state ⟨call.library data, .ok ()⟩
    (data'.agentStates call.stateHandle).state

/-- What a call that got to its session did there. -/
def Works (call : AgentCall) (code : ℤ) (data data' : Store) : Prop :=
  ((code = 0 ∧ call.Succeeds P data data') ∨ (code ≠ 0 ∧ call.Invalidates data data')) ∧
    (code = 0 → call.Follows P data data')

end AgentCall

section Call

variable {P} {strike : Strike AgentStateHandle} {data : Store}

theorem onAgentState_follows (call : AgentCall) {α : Type}
    {body : Op Memory AgentStateHandle α} {commit : α → Op Memory AgentStateHandle Unit}
    (hbody : KeepsMemory body)
    (hcommit : ∀ a f, ∃ f', (commit a).run f = (.ok (), f'))
    (hfollows : ∀ a g g',
      body.run ⟨data.memory, data.agentStates call.stateHandle, data.world⟩ = (.ok a, g) →
      (commit a).run g = (.ok (), g') →
      call.Follows P data (withAgentFrame data call.stateHandle g')) :
    Program.Performs (fun code data' => code = 0 → call.Follows P data data') data
      (onAgentState call.stateHandle (beforeCommit strike body >>= commit)) := by
  refine ⟨_, rfl, ?_⟩
  unfold runAgentStateful
  rcases @runStateful_cases _ _ invalidateAgentState strike body commit hbody hcommit
      ⟨data.memory, data.agentStates call.stateHandle, data.world⟩ with
    ⟨a, g, g', hrun, hdone, hok⟩ | ⟨code, sh, w, hcode, hfail⟩
  · rw [hok]
    exact fun _ => hfollows a g g' hrun hdone
  · rw [hfail]
    exact fun hzero => absurd hzero hcode

/-- The library ran on the session in the world of the store, and the session is as it left it. -/
theorem AgentCall.follows_of_run {call : AgentCall} {Out : Type} {out : Out}
    {c : Op Out Agent.InitiatorState Unit} {cf : Frame Out Agent.InitiatorState}
    {f : Frame Memory AgentStateHandle}
    (hexec : (call.library data).exec P = Agent.Call.onSession c out)
    (hrun : c.run ⟨out, (data.agentStates call.stateHandle).state, data.world⟩ = (.ok (), cf))
    (hstate : f.state.state = cf.state) :
    call.Follows P data (withAgentFrame data call.stateHandle f) := by
  refine ⟨data.world, ?_⟩
  rw [hexec, withAgentFrame_agentStates, hstate, Agent.Call.onSession, hrun]

/-- The operation reads the buffers, runs the library, and writes one message. -/
theorem onAgentState_follows_message (call : AgentCall) {Out : Type} {out : Out}
    {c : Memory → Op Out Agent.InitiatorState Unit} {n address : ℕ}
    {serialize : Out → Cmd OpaqueError (Bytes n) Unit}
    (hexec : (call.library data).exec P = Agent.Call.onSession (c data.memory) out) :
    Program.Performs (fun code data' => code = 0 → call.Follows P data data') data
      (onAgentState call.stateHandle do
        let wire ← beforeCommit strike do
          let memory ← Op.getOut
          let message ← onInitiator out (c memory)
          Cmd.lift (Cmd.fill (zeros n) (serialize message))
        copyNonoverlapping wire.toList address) := by
  refine onAgentState_follows call (fun m => ?_) (fun wire f => ⟨_, rfl⟩) ?_
  · exact .bind (fun _ hf => hf) fun _ => .bind (KeepsMemory.onSession m) fun _ _ hf => hf
  · intro wire g g' hrun hdone
    rw [Cmd.run_bind_ok (Op.run_getOut _)] at hrun
    obtain ⟨cf, hlibrary, -, rfl⟩ := onSession_fill_ok hrun
    cases hdone
    exact AgentCall.follows_of_run hexec hlibrary rfl

abbrev AgentCall.AdmitsFollowing (call : AgentCall) (data : Store) : Entry ℤ → Prop :=
  AdmitsTo .agentState call.stateHandle data fun code data' =>
    code = 0 → call.Follows P data data'

theorem createRegistrationRequest_follows (args : CreateRegistrationRequest) :
    (AgentCall.createRegistrationRequest args).AdmitsFollowing (P := P) data
      (opaqueAgentCreateRegistrationRequest P args strike) := by
  unfold opaqueAgentCreateRegistrationRequest
  refine .rejectIf fun _ => .rejectIf fun _ => .acquireAgent (by decide) (.acquireSession ?_)
  exact onAgentState_follows_message (.createRegistrationRequest args) rfl

theorem finalizeRegistration_follows (args : FinalizeRegistration) :
    (AgentCall.finalizeRegistration args).AdmitsFollowing (P := P) data
      (opaqueAgentFinalizeRegistration P args strike) := by
  unfold opaqueAgentFinalizeRegistration
  refine .rejectIf fun _ => .acquireAgent (by decide) (.acquireSession ?_)
  exact onAgentState_follows_message (.finalizeRegistration args) rfl

theorem generateKe1_follows (args : GenerateKe1) :
    (AgentCall.generateKe1 args).AdmitsFollowing (P := P) data
      (opaqueAgentGenerateKe1 P args strike) := by
  unfold opaqueAgentGenerateKe1
  refine .rejectIf fun _ => .rejectIf fun _ => .acquireAgent (by decide) (.acquireSession ?_)
  exact onAgentState_follows_message (.generateKe1 args) rfl

theorem generateKe3_follows (args : GenerateKe3) :
    (AgentCall.generateKe3 args).AdmitsFollowing (P := P) data
      (opaqueAgentGenerateKe3 P args strike) := by
  unfold opaqueAgentGenerateKe3
  refine .rejectIf fun _ => .acquireAgent (by decide) (.acquireSession ?_)
  refine onAgentState_follows (.generateKe3 args) (fun m => ?_) ?_ ?_
  · refine .bind (fun _ hf => hf) fun _ => .bind (fun _ hf => hf) fun _ => ?_
    exact .bind (KeepsMemory.onSession m) fun _ _ hf => hf
  · exact fun wire f => ⟨_, rfl⟩
  · intro wire g g' hrun hdone
    rw [Cmd.run_bind_ok (Op.run_getOut _)] at hrun
    dsimp only at hrun
    rw [Cmd.run_bind_ok (Op.run_modifyState _ _)] at hrun
    obtain ⟨cf, hlibrary, -, rfl⟩ := onSession_fill_ok hrun
    cases hdone
    exact @AgentCall.follows_of_run _ _ (.generateKe3 args) _ _ _ _ _ rfl hlibrary rfl

theorem agentFinish_follows (args : AgentFinish) :
    (AgentCall.finish args).AdmitsFollowing (P := P) data (opaqueAgentFinish args strike) := by
  unfold opaqueAgentFinish
  refine .rejectIf fun _ => .acquireAgent (by decide) (.acquireSession ?_)
  refine onAgentState_follows (.finish args) (fun m => ?_) ?_ ?_
  · refine .bind (fun _ hf => hf) fun _ => .bind ?_ fun _ => KeepsMemory.onSession m
    exact .failIf _
  · exact fun keys f => ⟨_, rfl⟩
  · intro keys g g' hrun hdone
    rw [Cmd.run_bind_ok (Op.run_getState _)] at hrun
    obtain ⟨_, _, hexported, hrun⟩ := Cmd.run_bind_eq_ok_iff.mp hrun
    rw [Cmd.run_failIf, Prod.mk.injEq] at hexported
    obtain ⟨-, rfl⟩ := hexported
    obtain ⟨cf, hlibrary, rfl, rfl⟩ := onSession_ok hrun
    cases hdone
    exact @AgentCall.follows_of_run _ _ (.finish args) _ _ _ _ _ rfl hlibrary rfl

theorem agentCall_admitsFollowing (call : AgentCall) :
    call.AdmitsFollowing (P := P) data (call.program P strike) := by
  cases call with
  | createRegistrationRequest args => exact createRegistrationRequest_follows args
  | finalizeRegistration args => exact finalizeRegistration_follows args
  | generateKe1 args => exact generateKe1_follows args
  | generateKe3 args => exact generateKe3_follows args
  | finish args => exact agentFinish_follows args

end Call

/-! ## Calls that wait for their session -/

section Looks

variable {h : Handle Kind} {held : List (Handle Kind)}

/-- Up to its session the call sees nothing but what it holds. -/
abbrev Looks (h : Handle Kind) (entry : Entry ℤ) (held : List (Handle Kind)) : Prop :=
  entry.Looks Store.objects h held

theorem Looks.rejectIf {p : Prop} [Decidable p] {error : OpaqueError} {next : Unit → Entry ℤ}
    (hnext : Looks h (next ()) held) : Looks h (Entry.rejectIf p error >>= next) held := by
  unfold Entry.rejectIf Program.exitIf
  split
  · trivial
  · exact hnext

theorem Looks.acquireAgent {address : ℕ} {next : Agent.OpaqueInitiator → Entry ℤ}
    (hnext : ∀ b, Looks h (next b) (⟨.agent, address⟩ :: held)) :
    Looks h (acquireAgent address >>= next) held := by
  unfold Ffi.acquireAgent Ffi.acquire
  rw [Program.bind_assoc]
  split
  · trivial
  · refine fun _ => ⟨⟨fun data data' hagree => ?_, hnext⟩, trivial⟩
    have hsame := Object.agent.inj (hagree _ List.mem_cons_self)
    exact congrArg Except.ok hsame

theorem Looks.acquireRelay {address : ℕ} {next : Relay.OpaqueResponder → Entry ℤ}
    (hnext : ∀ b, Looks h (next b) (⟨.relay, address⟩ :: held)) :
    Looks h (acquireRelay address >>= next) held := by
  unfold Ffi.acquireRelay Ffi.acquire
  rw [Program.bind_assoc]
  split
  · trivial
  · refine fun _ => ⟨⟨fun data data' hagree => ?_, hnext⟩, trivial⟩
    have hsame := Object.relay.inj (hagree _ List.mem_cons_self)
    exact congrArg Except.ok hsame

theorem Looks.acquireSession {kind : Kind} {handle : ℕ} {next : Unit → Entry ℤ} :
    Looks ⟨kind, handle⟩ (acquire kind handle >>= next) held := by
  unfold Ffi.acquire
  split
  · trivial
  · exact fun hne => absurd rfl hne

theorem agentCall_looks {P : Primitives} (call : AgentCall) (strike : Strike AgentStateHandle) :
    Looks ⟨.agentState, call.stateHandle⟩ (call.program P strike) [] := by
  cases call with
  | createRegistrationRequest args =>
      exact .rejectIf (.rejectIf (.acquireAgent fun _ => .acquireSession))
  | finalizeRegistration args => exact .rejectIf (.acquireAgent fun _ => .acquireSession)
  | generateKe1 args => exact .rejectIf (.rejectIf (.acquireAgent fun _ => .acquireSession))
  | generateKe3 args => exact .rejectIf (.acquireAgent fun _ => .acquireSession)
  | finish args => exact .rejectIf (.acquireAgent fun _ => .acquireSession)

end Looks

/-! ## Runs -/

section Runs

variable {P} {ι : Type} {calls : ι → Call} {address createdAt : ℕ}
  {start mid pool : Pool ι Kind Store ℤ} {past later : List (Label ι Kind Store ℤ)}

/-- The call is one on the client's session at the address. -/
def Call.OnClient (address : ℕ) : Call → Prop
  | .stateful (.agent call _) => call.stateHandle = address
  | _ => False

/-- What the call did to the client's session that it is for. -/
def Call.WorksOnClient (P : Primitives) : Call → ℤ → Store → Store → Prop
  | .stateful (.agent call _) => call.Works P
  | _ => fun _ _ _ => False

theorem Call.OnClient.exists {call : Call} (h : call.OnClient address) :
    ∃ agentCall strike, call = .stateful (.agent agentCall strike) ∧
      agentCall.stateHandle = address := by
  cases call with
  | stateful call =>
      cases call with
      | agent call strike => exact ⟨call, strike, rfl, h⟩
      | relay => cases h
  | _ => cases h

theorem Call.OnClient.serves {call : Call} (h : call.OnClient address) (data : Store) :
    (call.program P).Serves Store.objects ⟨.agentState, address⟩ (· ≠ 0) (call.WorksOnClient P) []
      data := by
  obtain ⟨agentCall, strike, rfl, rfl⟩ := h.exists
  refine Program.Admits.serves (fun data _ => ?_) (agentCall_looks agentCall strike)
  exact (agentCall_admits agentCall).and (agentCall_admitsFollowing agentCall)

theorem Call.avoids_client {call : Call} (h : ¬ call.OnClient address) :
    (call.program P).Avoids ⟨.agentState, address⟩ := by
  refine call.answers_always.avoids fun hmem => h ?_
  cases call with
  | stateful call =>
      cases call with
      | agent call strike =>
          simp [Call.uses, StatefulCall.handles] at hmem
          exact hmem.symm
      | relay call strike => cases call <;> simp [Call.uses, StatefulCall.handles] at hmem
  | _ => simp [Call.uses] at hmem

theorem agentSource_ne_finished (op : Agent.Operation) : op.source ≠ .finished := by
  cases op <;> decide

/-- The step of the library that a call on a client's session stands for. -/
def Call.event : Call → Store → Option Agent.Event
  | .stateful (.agent call _), data => some ⟨call.library data, .ok ()⟩
  | _, _ => none

/-- The steps of the library behind the entries of a log. -/
def events (calls : ι → Call) (log : List (Label ι Kind Store ℤ × ℤ)) : List Agent.Event :=
  log.filterMap fun entry => (calls entry.1.call).event entry.1.before.data

/--
The calls on a session succeed up to some point, and fail from there on.  While they
succeed, the session is the one of the library; once one has failed, it is over.
-/
structure ClientHistory (P : Primitives) (calls : ι → Call) (createdAt : ℕ)
    (good bad : List (Label ι Kind Store ℤ × ℤ)) (sh : AgentStateHandle) : Prop where
  succeeded : ∀ entry ∈ good, entry.2 = 0
  failed : ∀ entry ∈ bad, entry.2 ≠ 0
  library : ∃ s, Agent.AgentRun P createdAt (events calls good) s ∧ (bad = [] → sh.state = s)
  exported : FlagFollowsPhase sh
  ended : bad ≠ [] → sh.state.Dead

theorem ClientHistory.step {good bad : List (Label ι Kind Store ℤ × ℤ)}
    {sh : AgentStateHandle} {entry : Label ι Kind Store ℤ × ℤ} {call : AgentCall}
    {strike : Strike AgentStateHandle} (hist : ClientHistory P calls createdAt good bad sh)
    (hcall : calls entry.1.call = .stateful (.agent call strike))
    (hbefore : entry.1.before.data.agentStates call.stateHandle = sh)
    (hworks : call.Works P entry.2 entry.1.before.data entry.1.after.data) :
    ∃ good' bad', good' ++ bad' = (good ++ bad) ++ [entry] ∧
      ClientHistory P calls createdAt good' bad'
        (entry.1.after.data.agentStates call.stateHandle) := by
  obtain ⟨hcontract, hfollows⟩ := hworks
  obtain ⟨s, hrun, hstate⟩ := hist.library
  rcases hcontract with ⟨hzero, hsucceeds⟩ | ⟨hne, hinvalidates⟩
  · -- nothing succeeds on a session that is over
    have hbad : bad = [] := by
      by_contra hbad
      have hsource := hsucceeds.source
      rw [hbefore, (hist.ended hbad).phase] at hsource
      exact agentSource_ne_finished _ hsource.symm
    subst hbad
    have hstep := hfollows hzero
    unfold AgentCall.Follows at hstep
    rw [hbefore, hstate rfl] at hstep
    refine ⟨good ++ [entry], [], by simp, ?_⟩
    constructor
    · intro entry' hmem
      rcases mem_snoc.mp hmem with hold | rfl
      · exact hist.succeeded entry' hold
      · exact hzero
    · exact nofun
    · refine ⟨_, ?_, fun _ => rfl⟩
      have hevents : events calls (good ++ [entry]) =
          events calls good ++ [⟨call.library entry.1.before.data, .ok ()⟩] := by
        simp [events, hcall, Call.event]
      rw [hevents]
      exact hrun.snoc hstep
    · have hexported := hsucceeds.exported
      have hsource := hsucceeds.source
      rw [hbefore] at hexported hsource
      exact hexported.flagFollowsPhase hsource hsucceeds.target hist.exported
    · exact fun h => absurd rfl h
  · refine ⟨good, bad ++ [entry], by simp, ?_⟩
    constructor
    · exact hist.succeeded
    · intro entry' hmem
      rcases mem_snoc.mp hmem with hold | rfl
      · exact hist.failed entry' hold
      · exact hne
    · exact ⟨s, hrun, by simp⟩
    · unfold FlagFollowsPhase
      rw [hinvalidates.exported, hinvalidates.dead.phase]
      exact iff_of_false nofun nofun
    · exact fun _ => hinvalidates.dead

/-- A log of a new session is its history. -/
theorem exists_clientHistory {log : List (Label ι Kind Store ℤ × ℤ)} {o : Object}
    (hrun : Run (Logged Store.objects (fun i => (calls i).OnClient address)
      ⟨.agentState, address⟩ fun i => (calls i).WorksOnClient P)
        (.agentState (.newAt createdAt)) log o) :
    ∃ good bad sh, log = good ++ bad ∧ o = .agentState sh ∧
      ClientHistory P calls createdAt good bad sh := by
  induction hrun with
  | nil =>
      refine ⟨[], [], _, rfl, rfl, nofun, nofun, ⟨_, .nil, fun _ => rfl⟩, ?_, fun h => absurd rfl h⟩
      exact iff_of_false nofun nofun
  | @snoc log o o' entry hrun hlast ih =>
      obtain ⟨good, bad, sh, rfl, rfl, hist⟩ := ih
      obtain ⟨call, strike, hcall, rfl⟩ := hlast.serves.exists
      have hdone := hlast.done
      rw [hcall] at hdone
      have hbefore := Object.agentState.inj hlast.before
      obtain ⟨good', bad', happend, hist'⟩ := hist.step hcall hbefore hdone
      exact ⟨good', bad', _, happend.symm, hlast.after.symm, hist'⟩

/-- The operation of the library that a call on a client's session is for. -/
def Call.agentOperation : Call → Option Agent.Operation
  | .stateful (.agent call _) => some call.operation
  | _ => none

/-- The phase of a client's session. -/
def Object.agentPhase : Object → Agent.InitiatorPhase
  | .agentState sh => sh.state.phase
  | _ => .created

theorem clientLog_governs (fresh : Process → ℕ) :
    ((agentStages P fresh).onLog (fun i => (calls i).agentOperation) (0 : ℤ)).Governs
      Object.agentPhase (Logged Store.objects (fun i => (calls i).OnClient address)
        ⟨.agentState, address⟩ fun i => (calls i).WorksOnClient P) := by
  intro o entry o' hlogged
  obtain ⟨call, strike, hcall, haddress⟩ := hlogged.serves.exists
  obtain ⟨hcontract, -⟩ : call.Works P entry.2 entry.1.before.data entry.1.after.data := by
    have hdone := hlogged.done
    rw [hcall] at hdone
    exact hdone
  have hbefore : o = .agentState (entry.1.before.data.agentStates call.stateHandle) := by
    rw [haddress]
    exact hlogged.before.symm
  have hafter : o' = .agentState (entry.1.after.data.agentStates call.stateHandle) := by
    rw [haddress]
    exact hlogged.after.symm
  subst hbefore hafter
  rcases hcontract with ⟨hzero, hsucceeds⟩ | ⟨hne, hinvalidates⟩
  · refine .inr (.inl ⟨call.operation, ?_, trivial, decide_eq_true hzero, hsucceeds.source,
      hsucceeds.target⟩)
    simp [Stages.onLog, hcall, Call.agentOperation]
  · exact .inr (.inr ⟨trivial, decide_eq_false hne, hinvalidates.dead.phase⟩)

/-- A step in which a call for the operation did all that it documents. -/
def Commits (P : Primitives) (calls : ι → Call) (address : ℕ) (op : Agent.Operation)
    (l : Label ι Kind Store ℤ) : Prop :=
  ∃ call strike, calls l.call = .stateful (.agent call strike) ∧ call.stateHandle = address ∧
    call.operation = op ∧ call.Succeeds P l.before.data l.after.data

theorem commits_of_logged {o o' : Object} {entry : Label ι Kind Store ℤ × ℤ} {op : Agent.Operation}
    (hlogged : Logged Store.objects (fun i => (calls i).OnClient address)
      ⟨.agentState, address⟩ (fun i => (calls i).WorksOnClient P) o entry o')
    (hop : (calls entry.1.call).agentOperation = some op) (hzero : entry.2 = 0) :
    Commits P calls address op entry.1 := by
  obtain ⟨call, strike, hcall, haddress⟩ := hlogged.serves.exists
  have hdone := hlogged.done
  rw [hcall] at hdone hop
  rcases hdone.1 with ⟨-, hsucceeds⟩ | ⟨hne, -⟩
  · exact ⟨call, strike, hcall, haddress, Option.some.inj hop, hsucceeds⟩
  · exact absurd hzero hne

variable [DecidableEq ι]

/--
Calls from any number of threads, interleaved in any way: as long as a client's session is
not destroyed, the calls on it take effect one after the other, each with the code that it
returns.  Up to the first that fails they are a run of the library's client on the inputs
that they found, and after it nothing succeeds.
-/
theorem client_session_serial (hstart : start.Quiet)
    (hpast : Run (Interleaves (callsOf P calls)) start past mid)
    (hlive : mid.shared.live ⟨.agentState, address⟩ = true)
    (hnew : mid.shared.data.agentStates address = .newAt createdAt)
    (hlater : Run (Interleaves (callsOf P calls)) mid later pool)
    (hkept : ∀ l ∈ later, l.event ≠ .freed ⟨.agentState, address⟩) :
    ∃ good bad, Serial Store.objects (fun i => (calls i).OnClient address) ⟨.agentState, address⟩
        (· ≠ 0) (fun i => (calls i).WorksOnClient P) mid later pool (good ++ bad) ∧
      ClientHistory P calls createdAt good bad (pool.shared.data.agentStates address) := by
  obtain ⟨log, serial⟩ := run_serial hstart (fun _ _ => callsOf_orderly hstart)
    (fun i => (calls i).keeps) (fun i hi => hi.serves) (fun i hi => Call.avoids_client hi)
    hpast hlive hlater hkept
  have hrun := serial.run
  have hobject : Store.object ⟨.agentState, address⟩ mid.shared.data =
      .agentState (.newAt createdAt) := congrArg Object.agentState hnew
  change Run _ (Store.object ⟨.agentState, address⟩ mid.shared.data) _ _ at hrun
  rw [hobject] at hrun
  obtain ⟨good, bad, sh, rfl, hfinal, hist⟩ := exists_clientHistory hrun
  have hsh : pool.shared.data.agentStates address = sh := Object.agentState.inj hfinal
  exact ⟨good, bad, serial, hsh ▸ hist⟩

/-- The second of two threads has its first flag when the first one overtakes it. -/
theorem exists_overtaken {calls : Bool → StatefulCall} {start : Pool Bool Kind Store ℤ}
    {h : Handle Kind} {next : Bool → Entry ℤ} (hstart : start.Quiet)
    (hlive : ∀ h, start.shared.live h = true)
    (hfirst : (calls true).program P = .acquire h next) :
    ∃ later pool code, Run (Interleaves (callsOf P fun i => .stateful (calls i))) start later pool ∧
      (∀ l ∈ later, ∀ h, l.event ≠ .freed h) ∧
      [true, false, true].Sublist (later.map Label.call) ∧
      pool.status false =
        .returned (((calls false).program P).exec (fun _ => 1) [] [] (start.shared.lock h)).code ∧
      pool.status true = .returned code := by
  have hplain : ∀ i, ((calls i).program P).Plain start.shared.live :=
    fun i => (calls i).plain fun h _ _ => hlive h
  obtain ⟨later, pool, hrun, hkept, horder, hfalse, code, htrue⟩ :=
    @run_overtaken _ _ _ _ _ _ (callsOf P fun i => .stateful (calls i)) start false true h next
      nofun hstart.pending (fun _ => rfl) hplain hfirst (hstart.flags h (hlive h)) fun _ => 1
  exact ⟨later, pool, code, hrun, hkept, horder, hfalse, htrue⟩

/-- Two threads begin a login on one session, each with a client of its own. -/
def sampleLogins (second : Bool) : StatefulCall :=
  .agent (.generateKe1 { sampleKe1Args with agentHandle := if second then 2 else 1 }) none

def sampleKe1s : Bool → Call := fun second => .stateful (sampleLogins second)

theorem sampleKe1s_run : ∃ later pool code,
    Run (Interleaves (callsOf Sample.primitives sampleKe1s)) sampleStart later pool ∧
      (∀ l ∈ later, ∀ h, l.event ≠ .freed h) ∧
      [true, false, true].Sublist (later.map Label.call) ∧
      pool.status false = .returned 0 ∧ pool.status true = .returned code := by
  obtain ⟨next, hfirst⟩ := @generateKe1_program Sample.primitives
    { sampleKe1Args with agentHandle := 2 } none (by decide) (by decide) (by decide)
  obtain ⟨later, pool, code, hrun, hkept, horder, hzero, hcode⟩ :=
    @exists_overtaken Sample.primitives sampleLogins sampleStart _ _ sampleStart_quiet
      (fun _ => rfl) hfirst
  refine ⟨later, pool, code, hrun, hkept, horder, ?_, hcode⟩
  obtain ⟨d, cf, -, -, hlibrary⟩ :=
    @sampleKe1_run (sampleProcess.lock ⟨.agent, 2⟩) rfl rfl rfl rfl
  have hidle : Idle (sampleProcess.lock ⟨.agent, 2⟩) ⟨.agent, sampleKe1Args.agentHandle⟩
      ⟨.agentState, sampleKe1Args.stateHandle⟩ :=
    ⟨by decide, by decide, (Shared.lock_inUse_of_ne (by decide)).trans rfl,
      (Shared.lock_inUse_of_ne (by decide)).trans rfl⟩
  have hleaves := @generateKe1_commits Sample.primitives (fun _ => 1)
    (sampleProcess.lock ⟨.agent, 2⟩) sampleKe1Args cf (by decide) (by decide) hidle hlibrary
  rw [hzero]
  exact congrArg Status.returned hleaves.code

theorem client_session_serial_sample : ∃ later pool good bad code,
    [true, false, true].Sublist (later.map Label.call) ∧
      pool.status false = .returned 0 ∧ pool.status true = .returned code ∧
      Serial Store.objects (fun second => (sampleKe1s second).OnClient 1) ⟨.agentState, 1⟩ (· ≠ 0)
        (fun second => (sampleKe1s second).WorksOnClient Sample.primitives) sampleStart later pool
        (good ++ bad) ∧
      ClientHistory Sample.primitives sampleKe1s 0 good bad (pool.shared.data.agentStates 1) := by
  obtain ⟨later, pool, code, hrun, hkept, horder, hzero, hcode⟩ := sampleKe1s_run
  obtain ⟨good, bad, serial, hist⟩ := @client_session_serial _ _ _ 1 0 _ _ _ _ _ _
    sampleStart_quiet .nil rfl rfl hrun fun l hl => hkept l hl _
  exact ⟨later, pool, good, bad, code, horder, hzero, hcode, serial, hist⟩

/-- A call on the client's session that began after `mid` and returned zero. -/
abbrev ClientSucceeded (calls : ι → Call) (address : ℕ) (mid pool : Pool ι Kind Store ℤ) :
    Agent.Operation → ι → Prop :=
  Pool.Succeeded (fun i => (calls i).OnClient address) (fun i => (calls i).agentOperation) (0 : ℤ)
    mid pool

/-- What the calls on one session can have returned, however they met. -/
structure ClientOneShot (P : Primitives) (calls : ι → Call) (address : ℕ)
    (mid : Pool ι Kind Store ℤ) (later : List (Label ι Kind Store ℤ))
    (pool : Pool ι Kind Store ℤ) : Prop where
  /-- One registration or one login starts, and no call succeeds where another one has. -/
  once : ∀ i j op op', ClientSucceeded calls address mid pool op i →
    ClientSucceeded calls address mid pool op' j → op.source = op'.source → i = j
  /-- The step before it was made, and nothing happened to the session in between. -/
  preceded : ∀ i op earlier, op.source = earlier.target →
    ClientSucceeded calls address mid pool op i →
    ∃ l l', [l, l'].Sublist later ∧ l'.call = i ∧ Commits P calls address earlier l ∧
      Commits P calls address op l' ∧
      l.after.data.agentStates address = l'.before.data.agentStates address

/--
Calls from any number of threads on one new session: of the calls that start in one phase at
most one returns zero, and one that goes on from another returns zero only after the other one
has delivered its message, with no other call on the session in between.
-/
theorem client_session_one_shot_threads (hstart : start.Quiet)
    (hpast : Run (Interleaves (callsOf P calls)) start past mid)
    (hlive : mid.shared.live ⟨.agentState, address⟩ = true)
    (hnew : (mid.shared.data.agentStates address).state.phase = .created)
    (hlater : Run (Interleaves (callsOf P calls)) mid later pool)
    (hkept : ∀ l ∈ later, l.event ≠ .freed ⟨.agentState, address⟩) :
    ClientOneShot P calls address mid later pool := by
  obtain ⟨log, serial⟩ := run_serial hstart (fun _ _ => callsOf_orderly hstart)
    (fun i => (calls i).keeps) (fun i hi => hi.serves) (fun i hi => Call.avoids_client hi)
    hpast hlive hlater hkept
  have hgoverns := @clientLog_governs P ι calls address fun _ => 1
  have hrefusal : ¬ (0 : ℤ) ≠ 0 := fun h => h rfl
  constructor
  · exact fun i j op op' hi hj hsource => serial.unique hrefusal hgoverns hi hj hsource
  · intro i op earlier hsource hi
    obtain ⟨event, entry, hevent, hentry, hsub, hop, hzero, hcall, hzero', hsame⟩ :=
      serial.preceded earlier hrefusal hgoverns hsource
        (fun op h => by cases op <;> cases earlier <;> first | rfl | cases h)
        (fun hfinished => absurd (hsource.trans hfinished) (agentSource_ne_finished op))
        (fun h => by
          have hphase : (mid.shared.data.agentStates address).state.phase = earlier.target := h
          rw [hnew] at hphase
          cases earlier <;> cases hphase) hi
    obtain ⟨past, s, s', -, hlogged⟩ := serial.run.step_of_mem hevent
    obtain ⟨past', t, t', -, hlogged'⟩ := serial.run.step_of_mem hentry
    refine ⟨event.1, entry.1, hsub, hcall, commits_of_logged hlogged hop hzero,
      commits_of_logged hlogged' ?_ hzero', Object.agentState.inj hsame⟩
    rw [hcall]
    exact hi.operation

/-- Two threads begin a login on one session: the one that comes second is refused. -/
theorem client_session_one_shot_threads_sample : ∃ later pool code,
    [true, false, true].Sublist (later.map Label.call) ∧
      pool.status false = .returned 0 ∧ pool.status true = .returned code ∧ code ≠ 0 ∧
      ClientOneShot Sample.primitives sampleKe1s 1 sampleStart later pool := by
  obtain ⟨later, pool, code, hrun, hkept, horder, hzero, hcode⟩ := sampleKe1s_run
  have honce := @client_session_one_shot_threads _ _ _ 1 _ _ _ _ _ _ sampleStart_quiet .nil rfl rfl
    hrun fun l hl => hkept l hl _
  refine ⟨later, pool, code, horder, hzero, hcode, ?_, honce⟩
  rintro rfl
  have hsame : false = true := honce.once false true .generateKe1 .generateKe1
    ⟨rfl, rfl, rfl, hzero⟩ ⟨rfl, rfl, rfl, hcode⟩ rfl
  cases hsame

end Runs

end AuraOpaque.Ffi
