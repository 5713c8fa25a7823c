import AuraOpaque.Foundation.Upkeep
import AuraOpaque.Relay.Keys
import AuraOpaque.Ffi.Export
import AuraOpaque.Ffi.Ownership

/-!
# The objects behind the handles

What is behind a handle is in order as long as it is there, whatever calls are
made and however they are interleaved: keys match, a session before its first
message or after its last holds nothing.  What a destructor leaves is wiped.
-/

namespace AuraOpaque.Ffi

open AuraOpaque.Foundation AuraOpaque.Core
open Store (objects)

variable (P : Primitives)

/-! ## Objects in order -/

/-- The flag of the handle follows the phase, the secrets follow it, and a new session has none. -/
structure AgentStateHandle.Sound (sh : AgentStateHandle) : Prop where
  exported : FlagFollowsPhase sh
  secrets : Agent.SecretsFollowPhase sh.state
  created : sh.state.phase = .created → sh.state.Erased

/-- New and finished sessions hold no secrets, and only a finished one is complete. -/
structure RelayStateSound (state : Relay.ResponderState) : Prop where
  created : state.phase = .created → state.Erased
  erased : state.phase = .finished → state.Erased
  complete : state.handshakeComplete = true → state.phase = .finished

def Object.Sound : Object → Prop
  | .agent initiator => ∃ p ≠ 0, initiator.responderPublicKey = P.group.compress p
  | .agentState sh => sh.Sound
  | .relay responder => responder.Sound P
  | .relayState state => RelayStateSound state
  | .relayKeypair kh => kh.keypair.Matches P

/-- Nothing but zeros is left of the keys. -/
def Object.Wiped : Object → Prop
  | .agent initiator => initiator.responderPublicKey = zeros _
  | .agentState sh => sh.state.Erased
  | .relay responder => responder.keypair = ⟨zeros _, zeros _⟩ ∧
      responder.evaluator = (InMemoryEvaluator.mk (zeros _)).toOprfEvaluator P
  | .relayState state => state.Erased
  | .relayKeypair kh => kh.keypair = ⟨zeros _, zeros _⟩ ∧ kh.oprfSeed = zeros _

def upkeep : Upkeep Kind Object where
  good _ o := o.Sound P
  gone _ o := o.Wiped P

variable {P}

/-! ## Client sessions -/

section Agent

variable {sh sh' : AgentStateHandle}

theorem initiatorNew_ok {key : List UInt8} {initiator : Agent.OpaqueInitiator}
    (h : Agent.OpaqueInitiator.new P key = .ok initiator) : (Object.agent initiator).Sound P := by
  obtain ⟨_, hvalid, h⟩ := Outcome.bind_eq_ok_iff.mp h
  obtain ⟨copied, hcopied, h⟩ := Outcome.bind_eq_ok_iff.mp h
  cases h
  obtain ⟨p, hp, hkey⟩ := (validatePublicKey_eq_ok_iff P).mp hvalid
  have hcopy : key = copied.toList := copyFromSlice_eq_ok_iff.mp hcopied
  exact ⟨p, hp, List.Vector.toList_injective (hcopy.symm.trans hkey)⟩

theorem AgentStateHandle.sound_newAt (createdAt : ℕ) : (newAt createdAt).Sound where
  exported := iff_of_false nofun nofun
  secrets := (Agent.InitiatorState.newAt_erased createdAt).secretsFollowPhase
  created _ := Agent.InitiatorState.newAt_erased createdAt

theorem AgentStateHandle.sound_invalidate (sh : AgentStateHandle) :
    (invalidateAgentState sh).Sound where
  exported := iff_of_false nofun nofun
  secrets := (Agent.InitiatorState.invalidate_dead sh.state).erased.secretsFollowPhase
  created _ := (Agent.InitiatorState.invalidate_dead sh.state).erased

/-- The step of the library that a call stands for. -/
theorem AgentStateHandle.Sound.step {call : AgentCall} {libraryCall : Agent.Call}
    (hs : sh.Sound) (hop : libraryCall.operation = some call.operation)
    (hstep : Agent.Step P sh.state ⟨libraryCall, .ok ()⟩ sh'.state)
    (hexports : call.Exports sh.ke3Exported sh'.ke3Exported) : sh'.Sound := by
  obtain ⟨hsource, htarget⟩ :=
    Agent.step_success hstep (Agent.Event.succeeds_iff.mpr ⟨hop, rfl⟩)
  constructor
  · exact hexports.flagFollowsPhase hsource htarget hs.exported
  · exact Agent.step_secrets hs.secrets hstep
  · intro hcreated
    exact absurd (htarget.symm.trans hcreated) call.operation.target_ne_created

/-- A session is as sound as its operation leaves it, or it was invalidated. -/
theorem runAgentStateful_sound {strike : Strike AgentStateHandle} {α : Type}
    {body : Op Memory AgentStateHandle α} {commit : α → Op Memory AgentStateHandle Unit}
    {f : Frame Memory AgentStateHandle} (hbody : KeepsMemory body)
    (hcommit : ∀ a f, ∃ f', (commit a).run f = (.ok (), f'))
    (hsound : ∀ a g g', body.run f = (.ok a, g) → (commit a).run g = (.ok (), g') →
      g'.state.Sound) :
    (runAgentStateful (beforeCommit strike body >>= commit) f).2.state.Sound := by
  unfold runAgentStateful
  rcases @runStateful_cases _ _ invalidateAgentState strike body commit hbody hcommit f with
    ⟨a, g, g', hrun, hdone, hok⟩ | ⟨code, sh, w, -, hfail⟩
  · rw [hok]
    exact hsound a g g' hrun hdone
  · rw [hfail]
    exact sh.sound_invalidate

theorem message_sound (call : AgentCall) {Out : Type} {out : Out}
    {c : Memory → Op Out Agent.InitiatorState Unit} {n address : ℕ}
    {serialize : Out → Cmd OpaqueError (Bytes n) Unit} {libraryCall : Agent.Call}
    {strike : Strike AgentStateHandle} {f : Frame Memory AgentStateHandle}
    (hexec : libraryCall.exec P = Agent.Call.onSession (c f.out) out)
    (hop : libraryCall.operation = some call.operation)
    (hexports : ∀ flag, call.Exports flag flag) (hs : f.state.Sound) :
    (runAgentStateful (do
      let wire ← beforeCommit strike do
        let memory ← Op.getOut
        let message ← onInitiator out (c memory)
        Cmd.lift (Cmd.fill (zeros n) (serialize message))
      copyNonoverlapping wire.toList address) f).2.state.Sound := by
  refine runAgentStateful_sound (fun m => ?_) (fun wire f => ⟨_, rfl⟩) ?_
  · exact .bind (fun _ hf => hf) fun _ => .bind (KeepsMemory.onSession m) fun _ _ hf => hf
  · intro wire g g' hrun hdone
    rw [Cmd.run_bind_ok (Op.run_getOut _)] at hrun
    obtain ⟨cf, hlibrary, -, rfl⟩ := onSession_fill_ok hrun
    cases hdone
    have hstep : Agent.Step P f.state.state ⟨libraryCall, .ok ()⟩ cf.state :=
      ⟨f.world, by rw [hexec, Agent.Call.onSession, hlibrary]⟩
    exact hs.step hop hstep (hexports _)

theorem generateKe3_sound (initiator : Agent.OpaqueInitiator) (args : GenerateKe3)
    (strike : Strike AgentStateHandle) {f : Frame Memory AgentStateHandle} (hs : f.state.Sound) :
    (runAgentStateful (generateKe3Operation P initiator args strike) f).2.state.Sound := by
  refine runAgentStateful_sound (fun m => ?_) (fun wire f => ⟨_, rfl⟩) ?_
  · refine .bind (fun _ hf => hf) fun _ => .bind (fun _ hf => hf) fun _ => ?_
    exact .bind (KeepsMemory.onSession m) fun _ _ hf => hf
  · intro wire g g' hrun hdone
    rw [Cmd.run_bind_ok (Op.run_getOut _)] at hrun
    dsimp only at hrun
    rw [Cmd.run_bind_ok (Op.run_modifyState _ _)] at hrun
    obtain ⟨cf, hlibrary, -, rfl⟩ := onSession_fill_ok hrun
    cases hdone
    have hstep : Agent.Step P f.state.state
        ⟨.generateKe3 initiator (f.out.read args.ke2 args.ke2Length) .new, .ok ()⟩ cf.state :=
      ⟨f.world, congrArg (fun x => (x.1, x.2.state)) hlibrary⟩
    exact @AgentStateHandle.Sound.step P _ _ (.generateKe3 args) _ hs rfl hstep rfl

theorem agentFinish_sound (P : Primitives) (args : AgentFinish) (strike : Strike AgentStateHandle)
    {f : Frame Memory AgentStateHandle} (hs : f.state.Sound) :
    (runAgentStateful (agentFinishOperation args strike) f).2.state.Sound := by
  refine runAgentStateful_sound (fun m => ?_) (fun keys f => ⟨_, rfl⟩) ?_
  · refine .bind (fun _ hf => hf) fun _ => .bind ?_ fun _ => KeepsMemory.onSession m
    exact .failIf _
  · intro keys g g' hrun hdone
    rw [Cmd.run_bind_ok (Op.run_getState _)] at hrun
    obtain ⟨_, _, hexported, hrun⟩ := Cmd.run_bind_eq_ok_iff.mp hrun
    rw [Cmd.run_failIf, Prod.mk.injEq, Outcome.failIf_eq_ok_iff] at hexported
    obtain ⟨hexported, rfl⟩ := hexported
    obtain ⟨cf, hlibrary, rfl, rfl⟩ := onSession_ok hrun
    cases hdone
    have hstep : Agent.Step P f.state.state ⟨.initiatorFinish ⟨zeros _, zeros _⟩, .ok ()⟩
        cf.state := ⟨f.world, congrArg (fun x => (x.1, x.2.state)) hlibrary⟩
    exact @AgentStateHandle.Sound.step P _ _ (.finish args) _ hs rfl hstep
      ⟨by simpa using hexported, rfl⟩

end Agent

/-! ## Relay sessions -/

section Relay

variable {state state' : Relay.ResponderState}

theorem relayStateSound_of_terminal (h : state.Terminal) : RelayStateSound state where
  created _ := h.erased
  erased _ := h.erased
  complete hcomplete := by
    rw [h.handshakeComplete] at hcomplete
    cases hcomplete

theorem relayStateSound_newAt (createdAt : ℕ) : RelayStateSound (.newAt createdAt) where
  created _ := Relay.ResponderState.newAt_erased createdAt
  erased := nofun
  complete := nofun

theorem RelayStateSound.step {libraryCall : Relay.Call} {op : Relay.Operation}
    (hs : RelayStateSound state) (hop : libraryCall.operation = some op)
    (hstep : Relay.Step P state ⟨libraryCall, .ok (), state'⟩ state') : RelayStateSound state' := by
  rcases Relay.step_cases hstep hop with ⟨-, hsource, htarget, hdone⟩ | ⟨hfail, -⟩
  · cases libraryCall with
    | generateKe2 responder ke1Data accountId creds ke2 =>
        cases hop
        refine ⟨fun hphase => ?_, fun hphase => ?_, fun hcomplete => ?_⟩
        · rw [htarget] at hphase
          cases hphase
        · rw [htarget] at hphase
          cases hphase
        · have hphase := hs.complete (hdone hcomplete)
          rw [hsource] at hphase
          cases hphase
    | responderFinish ke3Data sessionKey =>
        cases hop
        exact ⟨fun _ => hdone.1, fun _ => hdone.1, fun _ => htarget⟩
    | _ => cases hop
  · cases hfail

theorem runRelayStateful_sound {strike : Strike Relay.ResponderState} {α : Type}
    {body : Op Memory Relay.ResponderState α} {commit : α → Op Memory Relay.ResponderState Unit}
    {f : Frame Memory Relay.ResponderState} (hbody : KeepsMemory body)
    (hcommit : ∀ a f, ∃ f', (commit a).run f = (.ok (), f'))
    (hsound : ∀ a g g', body.run f = (.ok a, g) → (commit a).run g = (.ok (), g') →
      RelayStateSound g'.state) :
    RelayStateSound (runRelayStateful (beforeCommit strike body >>= commit) f).2.state := by
  unfold runRelayStateful
  rcases @runStateful_cases _ _ invalidateRelayState strike body commit hbody hcommit f with
    ⟨a, g, g', hrun, hdone, hok⟩ | ⟨code, state, w, -, hfail⟩
  · rw [hok]
    exact hsound a g g' hrun hdone
  · rw [hfail]
    exact relayStateSound_of_terminal (Relay.ResponderState.invalidate_terminal state)

theorem generateKe2_sound (responder : Relay.OpaqueResponder) (creds : Relay.ResponderCredentials)
    (args : RelayGenerateKe2) (strike : Strike Relay.ResponderState)
    {f : Frame Memory Relay.ResponderState} (hs : RelayStateSound f.state) :
    RelayStateSound (runRelayStateful (generateKe2Operation P responder creds args strike)
      f).2.state := by
  refine runRelayStateful_sound (fun m => ?_) (fun wire f => ⟨_, rfl⟩) ?_
  · exact .bind (fun _ hf => hf) fun _ => .bind (KeepsMemory.onSession m) fun _ _ hf => hf
  · intro wire g g' hrun hdone
    rw [Cmd.run_bind_ok (Op.run_getOut _)] at hrun
    obtain ⟨cf, hlibrary, -, rfl⟩ := onSession_fill_ok hrun
    cases hdone
    have hstep : Relay.Step P f.state
        ⟨.generateKe2 responder (f.out.read args.ke1Data args.ke1Length)
          (f.out.read args.accountId args.accountIdLength) creds .new, .ok (), cf.state⟩ cf.state :=
      ⟨rfl, f.world, congrArg (fun x => (x.1, x.2.state)) hlibrary⟩
    exact hs.step rfl hstep

theorem relayFinish_sound (P : Primitives) (args : RelayFinish)
    (strike : Strike Relay.ResponderState) {f : Frame Memory Relay.ResponderState}
    (hs : RelayStateSound f.state) :
    RelayStateSound (runRelayStateful (relayFinishOperation args strike) f).2.state := by
  refine runRelayStateful_sound (fun m => ?_) (fun sk f => ⟨_, rfl⟩) ?_
  · exact .bind (fun _ hf => hf) fun _ => KeepsMemory.onSession m
  · intro sk g g' hrun hdone
    rw [Cmd.run_bind_ok (Op.run_getOut _)] at hrun
    obtain ⟨cf, hlibrary, rfl, rfl⟩ := onSession_ok hrun
    cases hdone
    have hstep : Relay.Step P f.state
        ⟨.responderFinish (f.out.read args.ke3Data args.ke3Length) (zeros _), .ok (), cf.state⟩
        cf.state := ⟨rfl, f.world, congrArg (fun x => (x.1, x.2.state)) hlibrary⟩
    exact hs.step rfl hstep

end Relay

/-! ## Parts of an entry point -/

section Parts

variable {β : Type} {held : List (Handle Kind)} {kind : Kind} {handle : ℕ}

/-- The entry point keeps the objects in order. -/
abbrev Tends (P : Primitives) (entry : Entry ℤ) (held : List (Handle Kind)) : Prop :=
  entry.Tends objects (upkeep P) held

theorem Tends.rejectIf {p : Prop} [Decidable p] {error : OpaqueError} {next : Unit → Entry ℤ}
    (hnext : Tends P (next ()) held) : Tends P (Entry.rejectIf p error >>= next) held := by
  unfold Entry.rejectIf Program.exitIf
  split
  · trivial
  · exact hnext

theorem Tends.clear {slot : Slot Kind} {next : Unit → Entry ℤ} (hnext : Tends P (next ()) held) :
    Tends P (.clear slot (.ret ()) >>= next) held :=
  hnext

theorem Tends.acquire {next : Unit → Entry ℤ}
    (hnext : Tends P (next ()) (⟨kind, handle⟩ :: held)) :
    Tends P (acquire kind handle >>= next) held := by
  unfold Ffi.acquire
  split
  · trivial
  · exact ⟨hnext, trivial⟩

/-- What is read of an object that is held comes from an object in order. -/
theorem Tends.read {f : Store → β} {next : β → Entry ℤ} {h : Handle Kind} (hh : h ∈ held)
    (hnext : ∀ store, (Store.object h store).Sound P → Tends P (next (f store)) held) :
    Tends P (.act (fun store => (.ok (f store), store)) next) held :=
  fun store htended => ⟨htended, hnext store (htended h hh)⟩

theorem Tends.acquireAgent {next : Agent.OpaqueInitiator → Entry ℤ}
    (hnext : ∀ b, Tends P (next b) (⟨.agent, handle⟩ :: held)) :
    Tends P (acquireAgent handle >>= next) held := by
  unfold Ffi.acquireAgent
  rw [Program.bind_assoc]
  exact .acquire (.read List.mem_cons_self fun store _ => hnext (store.agents handle))

theorem Tends.acquireRelay {next : Relay.OpaqueResponder → Entry ℤ}
    (hnext : ∀ b, Tends P (next b) (⟨.relay, handle⟩ :: held)) :
    Tends P (acquireRelay handle >>= next) held := by
  unfold Ffi.acquireRelay
  rw [Program.bind_assoc]
  exact .acquire (.read List.mem_cons_self fun store _ => hnext (store.relays handle))

theorem Tends.acquireRelayKeypair {next : RelayKeypairHandle → Entry ℤ}
    (hnext : ∀ b, b.keypair.Matches P → Tends P (next b) (⟨.relayKeypair, handle⟩ :: held)) :
    Tends P (acquireRelayKeypair handle >>= next) held := by
  unfold Ffi.acquireRelayKeypair
  rw [Program.bind_assoc]
  exact .acquire (.read List.mem_cons_self fun store hsound => hnext _ hsound)

theorem Tends.work {c : Cmd ℤ Store β} {next : β → Entry ℤ} (hc : Detached c)
    (hnext : ∀ store b, (c.run store).1 = .ok b → Tends P (next b) held) :
    Tends P (Entry.work c >>= next) held := by
  unfold Entry.work
  simp only [Program.act_bind, Program.ret_bind, Tends, Program.Tends]
  intro store htended
  have hkept : Program.Tended objects (upkeep P) held (c.run store).2 := by
    intro h hmem
    have hsame : Store.object h (c.run store).2 = Store.object h store := hc.writes store h
    change (Store.object h (c.run store).2).Sound P
    rw [hsame]
    exact htended h hmem
  rcases hrun : c.run store with ⟨b | code | _, store'⟩
  · rw [hrun] at hkept
    exact ⟨hkept, hnext store b (by rw [hrun])⟩
  · rw [hrun] at hkept
    exact ⟨hkept, trivial⟩
  · rw [hrun] at hkept
    exact ⟨hkept, trivial⟩

/-- The new object is in order. -/
theorem Tends.publish {slot : Slot Kind} {o : Object} {next : Entry ℤ} (hkind : o.kind = slot.kind)
    (hsound : o.Sound P) (hnext : Tends P next held) :
    Tends P (.publish slot (fun address store => store.put address o) next) held := by
  refine ⟨fun address store => ?_, hnext⟩
  have hself := @Store.object_put_self o address store
  rw [hkind] at hself
  change (Store.object ⟨slot.kind, address⟩ (store.put address o)).Sound P
  rw [hself]
  exact hsound

/-- One step on the session that the call has taken. -/
theorem tended_put {h : Handle Kind} {store store' : Store} {o : Object}
    (hkind : o.kind = h.kind) (hsound : o.Sound P)
    (hsame : ∀ h', Store.object h' store' = Store.object h' store)
    (htended : Program.Tended objects (upkeep P) held store) :
    Program.Tended objects (upkeep P) held (store'.put h.address o) := by
  intro h' hmem
  by_cases hh : h' = h
  · subst hh
    have hself := @Store.object_put_self o h'.address store'
    rw [hkind] at hself
    change (Store.object h' (store'.put h'.address o)).Sound P
    rw [hself]
    exact hsound
  · have hne : h' ≠ ⟨o.kind, h.address⟩ := by
      rw [hkind]
      exact hh
    change (Store.object h' (store'.put h.address o)).Sound P
    rw [Store.object_put_of_ne hne, hsame]
    exact htended h' hmem

theorem Tends.onAgentState {operation : Op Memory AgentStateHandle Unit}
    (hh : ⟨.agentState, handle⟩ ∈ held)
    (hsound : ∀ f : Frame Memory AgentStateHandle, f.state.Sound →
      (runAgentStateful operation f).2.state.Sound) :
    Tends P (onAgentState handle operation) held := by
  intro store htended
  have hsession := hsound ⟨store.memory, store.agentStates handle, store.world⟩ (htended _ hh)
  refine ⟨?_, trivial⟩
  exact @tended_put P held ⟨.agentState, handle⟩ store
    { store with
      memory := (runAgentStateful operation
        ⟨store.memory, store.agentStates handle, store.world⟩).2.out
      world := (runAgentStateful operation
        ⟨store.memory, store.agentStates handle, store.world⟩).2.world }
    (.agentState _) rfl hsession (fun _ => rfl) htended

theorem Tends.onRelayState {operation : Op Memory Relay.ResponderState Unit}
    (hh : ⟨.relayState, handle⟩ ∈ held)
    (hsound : ∀ f : Frame Memory Relay.ResponderState, RelayStateSound f.state →
      RelayStateSound (runRelayStateful operation f).2.state) :
    Tends P (onRelayState handle operation) held := by
  intro store htended
  have hsession := hsound ⟨store.memory, store.relayStates handle, store.world⟩ (htended _ hh)
  refine ⟨?_, trivial⟩
  exact @tended_put P held ⟨.relayState, handle⟩ store
    { store with
      memory := (runRelayStateful operation
        ⟨store.memory, store.relayStates handle, store.world⟩).2.out
      world := (runRelayStateful operation
        ⟨store.memory, store.relayStates handle, store.world⟩).2.world }
    (.relayState _) rfl hsession (fun _ => rfl) htended

theorem tryDestroy_tends {handlePtr : ℕ} {drop : ℕ → Store → Store}
    (hdrop : ∀ handle store, (Store.object ⟨kind, handle⟩ (drop handle store)).Wiped P) :
    Tends P (tryDestroy kind handlePtr drop) held := by
  unfold tryDestroy
  refine .rejectIf fun handle => ?_
  change Tends P (Program.exitIf (handle = null) 0 >>= _) held
  unfold Program.exitIf
  split
  · trivial
  · intro taken
    cases taken with
    | false => trivial
    | true => exact ⟨hdrop handle, trivial⟩

end Parts

/-! ## The entry points -/

section Entries

variable {held : List (Handle Kind)}

theorem agentCall_tends (call : AgentCall) (strike : Strike AgentStateHandle) :
    Tends P (call.program P strike) held := by
  cases call with
  | createRegistrationRequest args =>
      refine .rejectIf (.rejectIf (.acquireAgent fun _ => .acquire ?_))
      refine .onAgentState List.mem_cons_self fun f hs => ?_
      exact @message_sound P (.createRegistrationRequest args) _ _ _ _ _ _
        (.createRegistrationRequest (f.out.read args.secureKey args.secureKeyLength) .new)
        strike f rfl rfl (fun _ => rfl) hs
  | finalizeRegistration args =>
      refine .rejectIf (.acquireAgent fun initiator => .acquire ?_)
      refine .onAgentState List.mem_cons_self fun f hs => ?_
      exact @message_sound P (.finalizeRegistration args) _ _ _ _ _ _
        (.finalizeRegistration initiator (f.out.read args.response args.responseLength) .new)
        strike f rfl rfl (fun _ => rfl) hs
  | generateKe1 args =>
      refine .rejectIf (.rejectIf (.acquireAgent fun _ => .acquire ?_))
      refine .onAgentState List.mem_cons_self fun f hs => ?_
      exact @message_sound P (.generateKe1 args) _ _ _ _ _ _
        (.generateKe1 (f.out.read args.secureKey args.secureKeyLength)
          (f.out.read args.accountId args.accountIdLength) .new)
        strike f rfl rfl (fun _ => rfl) hs
  | generateKe3 args =>
      refine .rejectIf (.acquireAgent fun initiator => .acquire ?_)
      exact .onAgentState List.mem_cons_self fun f hs => generateKe3_sound initiator args strike hs
  | finish args =>
      refine .rejectIf (.acquireAgent fun _ => .acquire ?_)
      exact .onAgentState List.mem_cons_self fun f hs => agentFinish_sound P args strike hs

theorem relayCall_tends (call : RelayCall) (strike : Strike Relay.ResponderState) :
    Tends P (call.program P strike) held := by
  cases call with
  | generateKe2 args =>
      refine .rejectIf (.rejectIf (.acquireRelay fun responder => .work ?_ fun _ creds _ => ?_))
      · refine .getBind (fun store => .lift _) fun store store' hsame => ?_
        rw [hsame.1]
      · refine .acquire (.onRelayState List.mem_cons_self fun f hs => ?_)
        exact generateKe2_sound responder creds args strike hs
  | finish args =>
      refine .rejectIf (.acquireRelay fun _ => .acquire ?_)
      exact .onRelayState List.mem_cons_self fun f hs => relayFinish_sound P args strike hs

theorem createRegistrationResponse_tends (args : RelayCreateRegistrationResponse)
    (panics : Bool) : Tends P (opaqueRelayCreateRegistrationResponse P args panics) held := by
  refine .rejectIf (.acquireRelay fun responder => .work ?_ fun _ _ _ => trivial)
  refine .getBind (fun store => ?_) fun store store' hsame => ?_
  · exact .bind (.lift _) fun wire => .bind (.injectTestPanic _) fun _ => .writeMemory _ _
  · rw [hsame.1]

theorem buildCredentials_tends (args : RelayBuildCredentials) (panics : Bool) :
    Tends P (opaqueRelayBuildCredentials P args panics) held := by
  refine .rejectIf (.work ?_ fun _ _ _ => trivial)
  refine .getBind (fun store => ?_) fun store store' hsame => ?_
  · exact .bind (.lift _) fun wire => .bind (.injectTestPanic _) fun _ => .writeMemory _ _
  · rw [hsame.1]

theorem keypairGetPublicKey_tends (args : RelayKeypairGetPublicKey) (panics : Bool) :
    Tends P (opaqueRelayKeypairGetPublicKey args panics) held := by
  refine .rejectIf (.acquireRelayKeypair fun kh _ => .work ?_ fun _ _ _ => trivial)
  exact .bind (.injectTestPanic _) fun _ => .writeMemory _ _

theorem withCode_eq_ok_iff {α : Type} {code : OpaqueError → ℤ} {result : OpaqueResult α} {a : α} :
    withCode code result = .ok a ↔ result = .ok a := by
  cases result with
  | ok b => simp [withCode]
  | err e => simp [withCode]
  | panic => simp [withCode]

theorem agentCreate_tends (args : AgentCreate) (panics : Bool) :
    Tends P (opaqueAgentCreate P args panics) held := by
  refine .rejectIf (.clear (.rejectIf (.work ?_ fun store initiator hnew => ?_)))
  · refine .getBind (fun store => .lift _) fun store store' hsame => ?_
    rw [hsame.1]
  · refine .work (.injectTestPanic _) fun _ _ _ => ?_
    have hsound := initiatorNew_ok (withCode_eq_ok_iff.mp hnew)
    exact .publish (o := .agent initiator) rfl hsound trivial

theorem agentStateCreate_tends (handle : ℕ) (panics : Bool) :
    Tends P (opaqueAgentStateCreate handle panics) held := by
  refine .rejectIf (.clear (.work (.onWorld _ _) fun store state hnew => ?_))
  refine .work (.injectTestPanic _) fun _ _ _ => ?_
  obtain rfl : Agent.InitiatorState.newAt (store.world.clock 0) = state := Outcome.ok.inj hnew
  exact .publish (o := .agentState (.newAt _)) rfl (AgentStateHandle.sound_newAt _) trivial

theorem relayStateCreate_tends (handle : ℕ) (panics : Bool) :
    Tends P (opaqueRelayStateCreate handle panics) held := by
  refine .rejectIf (.clear (.work (.onWorld _ _) fun store state hnew => ?_))
  refine .work (.injectTestPanic _) fun _ _ _ => ?_
  obtain rfl : Relay.ResponderState.newAt (store.world.clock 0) = state := Outcome.ok.inj hnew
  exact .publish (o := .relayState (.newAt _)) rfl (relayStateSound_newAt _) trivial

theorem keypairGenerate_tends (handle : ℕ) (panics : Bool) :
    Tends P (opaqueRelayKeypairGenerate P handle panics) held := by
  refine .rejectIf (.clear (.work (.onWorld _ _) fun store keypair hgenerate => ?_))
  refine .work (.onWorld _ _) fun _ seed _ => .work (.injectTestPanic _) fun _ _ _ => ?_
  have hmatches : keypair.Matches P :=
    Relay.ResponderKeyPair.generate_ok (Prod.ext (withCode_eq_ok_iff.mp hgenerate) rfl)
  exact .publish (o := .relayKeypair ⟨keypair, seed⟩) rfl hmatches trivial

theorem publishResponder_tends {address : ℕ} {responder : Relay.OpaqueResponder} {panics : Bool}
    (hsound : responder.Sound P) : Tends P (publishResponder address responder panics) held :=
  .work (.injectTestPanic _) fun _ _ _ => .publish (o := .relay responder) rfl hsound trivial

theorem relayCreate_tends (args : RelayCreate) (panics : Bool) :
    Tends P (opaqueRelayCreate P args panics) held := by
  refine .rejectIf (.clear (.acquireRelayKeypair fun kh hmatches => ?_))
  refine Tends.work (.lift _) fun store responder hnew => publishResponder_tends ?_
  exact Relay.OpaqueResponder.new_ok hmatches (withCode_eq_ok_iff.mp hnew)

theorem relayCreateWithKeys_tends (args : RelayCreateWithKeys) (panics : Bool) :
    Tends P (opaqueRelayCreateWithKeys P args panics) held := by
  refine .rejectIf (.clear (.rejectIf (.work ?_ fun store responder hnew => ?_)))
  · refine .getBind (fun store => ?_) fun store store' hsame => ?_
    · exact .bind (.cmdLift _) fun seed => .bind (.lift _) fun keypair => .lift _
    · rw [hsame.1]
  · refine publishResponder_tends ?_
    rw [Cmd.run_bind_ok (Cmd.run_get _)] at hnew
    dsimp only at hnew
    obtain ⟨oprfSeed, _, -, hnew⟩ := Cmd.run_bind_eq_ok_iff.mp (Prod.ext hnew rfl)
    obtain ⟨keypair, _, hkeypair, hnew⟩ := Cmd.run_bind_eq_ok_iff.mp hnew
    have hkeys := withCode_eq_ok_iff.mp (Prod.mk.inj hkeypair).1
    have hmatches := (Relay.ResponderKeyPair.fromKeys_eq_ok_iff.mp hkeys).1
    exact Relay.OpaqueResponder.new_ok hmatches (withCode_eq_ok_iff.mp (Prod.mk.inj hnew).1)

theorem agentTryDestroy_tends (handlePtr : ℕ) :
    Tends P (opaqueAgentTryDestroy handlePtr) held := by
  refine tryDestroy_tends fun handle store => ?_
  change (Function.update store.agents handle ⟨zeros _⟩ handle).responderPublicKey = zeros _
  rw [Function.update_self]

theorem agentStateTryDestroy_tends (handlePtr : ℕ) :
    Tends P (opaqueAgentStateTryDestroy handlePtr) held := by
  refine tryDestroy_tends fun handle store => ?_
  change (Function.update store.agentStates handle _ handle).state.Erased
  rw [Function.update_self]
  exact Agent.InitiatorState.zeroize_erased _

theorem relayTryDestroy_tends (handlePtr : ℕ) :
    Tends P (opaqueRelayTryDestroy P handlePtr) held := by
  refine tryDestroy_tends fun handle store => ?_
  change (Object.relay (Function.update store.relays handle _ handle)).Wiped P
  rw [Function.update_self]
  exact ⟨rfl, rfl⟩

theorem relayStateTryDestroy_tends (handlePtr : ℕ) :
    Tends P (opaqueRelayStateTryDestroy handlePtr) held := by
  refine tryDestroy_tends fun handle store => ?_
  change (Function.update store.relayStates handle _ handle).Erased
  rw [Function.update_self]
  exact Relay.ResponderState.zeroize_erased _

theorem relayKeypairTryDestroy_tends (handlePtr : ℕ) :
    Tends P (opaqueRelayKeypairTryDestroy handlePtr) held := by
  refine tryDestroy_tends fun handle store => ?_
  change (Object.relayKeypair (Function.update store.relayKeypairs handle _ handle)).Wiped P
  rw [Function.update_self]
  exact ⟨rfl, rfl⟩

theorem Call.tends (call : Call) : Tends P (call.program P) held := by
  cases call with
  | agentCreate args panics => exact agentCreate_tends args panics
  | agentTryDestroy handlePtr => exact agentTryDestroy_tends handlePtr
  | agentStateCreate handle panics => exact agentStateCreate_tends handle panics
  | agentStateTryDestroy handlePtr => exact agentStateTryDestroy_tends handlePtr
  | relayKeypairGenerate handle panics => exact keypairGenerate_tends handle panics
  | relayKeypairTryDestroy handlePtr => exact relayKeypairTryDestroy_tends handlePtr
  | relayKeypairGetPublicKey args panics => exact keypairGetPublicKey_tends args panics
  | relayCreate args panics => exact relayCreate_tends args panics
  | relayCreateWithKeys args panics => exact relayCreateWithKeys_tends args panics
  | relayTryDestroy handlePtr => exact relayTryDestroy_tends handlePtr
  | relayStateCreate handle panics => exact relayStateCreate_tends handle panics
  | relayStateTryDestroy handlePtr => exact relayStateTryDestroy_tends handlePtr
  | relayCreateRegistrationResponse args panics =>
      exact createRegistrationResponse_tends args panics
  | relayBuildCredentials args panics => exact buildCredentials_tends args panics
  | stateful call =>
      cases call with
      | agent call strike => exact agentCall_tends call strike
      | relay call strike => exact relayCall_tends call strike

end Entries

/-! ## Runs -/

section Runs

variable {ι : Type} [DecidableEq ι] {calls : ι → Call} {history : List (Label ι Kind Store ℤ)}
  {start pool : Pool ι Kind Store ℤ}

theorem calls_kept (hstart : start.Quiet)
    (hlive : ∀ h, start.shared.live h = true → (Store.object h start.shared.data).Sound P)
    (hrun : Run (Interleaves (callsOf P calls)) start history pool) :
    Kept objects (upkeep P) history pool.shared := by
  have hkeeps : ∀ i, ((callsOf P calls).program i).KeepsTo objects [] := fun i => (calls i).keeps
  have htends : ∀ i, ((callsOf P calls).program i).Tends objects (upkeep P) [] :=
    fun i => (calls i).tends
  have hgood : start.shared.InOrder objects (upkeep P) := hlive
  exact (run_kept hstart hgood (fun _ _ => callsOf_orderly hstart) hkeeps htends hrun).1

/--
Any calls, interleaved in any way: whatever is behind a handle is in order from the step
that creates it on, and what a destructor leaves of it is wiped and stays so.
-/
theorem objects_in_order (hstart : start.Quiet)
    (hlive : ∀ h, start.shared.live h = true → (Store.object h start.shared.data).Sound P)
    (hrun : Run (Interleaves (callsOf P calls)) start history pool) :
    (∀ h, pool.shared.live h = true → (Store.object h pool.shared.data).Sound P) ∧
      ∀ l ∈ history, ∀ h, l.event = .freed h → pool.shared.live h = false →
        (Store.object h pool.shared.data).Wiped P := by
  have hkept := calls_kept hstart hlive hrun
  exact ⟨hkept.good, hkept.gone⟩

/-- One relay session, at the address in the slot, and nothing else. -/
def sessionProcess (state : Relay.ResponderState) : Process where
  inUse _ := false
  live h := decide (h = ⟨.relayState, 5⟩)
  slots slot := if slot = ⟨.relayState, 7⟩ then 5 else 0
  data := { sampleProcess.data with relayStates := fun _ => state }

/-- The relay has answered, holds the session key, and the session is destroyed. -/
theorem objects_in_order_sample : ∃ (state : Relay.ResponderState) (pool : Pool Unit Kind Store ℤ),
    state.phase = .ke2Generated ∧ state.sessionKey ≠ zeros _ ∧ RelayStateSound state ∧
      (∃ history, Run (Interleaves (callsOf Sample.primitives fun _ : Unit =>
        .relayStateTryDestroy 7)) ⟨fun _ => .pending, sessionProcess state⟩ history pool) ∧
      pool.shared.live ⟨.relayState, 5⟩ = false ∧
      (Store.object ⟨.relayState, 5⟩ pool.shared.data).Wiped Sample.primitives := by
  obtain ⟨f', hke2, hphase, -, hkey⟩ := Relay.sample_answers 0 0
  have hstep : Relay.Step Sample.primitives (.newAt 0)
      ⟨.generateKe2 Relay.sampleResponder (Relay.sampleKe1 (Sample.encapsulationKey 7).val) [1]
        .new .new, .ok (), f'.state⟩ f'.state :=
    ⟨rfl, Sample.world 0, by rw [Relay.Call.exec, Relay.Call.onSession, hke2]⟩
  have hsound := (relayStateSound_newAt 0).step rfl hstep
  let start : Pool Unit Kind Store ℤ := ⟨fun _ => .pending, sessionProcess f'.state⟩
  have hquiet : start.Quiet := by
    refine ⟨fun _ => rfl, fun _ _ => rfl, fun k hk => ?_, fun k k' _ hk hsame => ?_⟩
    · by_cases h : k = ⟨.relayState, 7⟩
      · subst h
        rfl
      · exact absurd (if_neg h) hk
    · by_cases h : k = ⟨.relayState, 7⟩
      · by_contra hne
        have h' : k' ≠ ⟨.relayState, 7⟩ := fun h' => hne (h.trans h'.symm)
        exact hk (hsame.trans (if_neg h'))
      · exact absurd (if_neg h) hk
  have hstarted : Run (Interleaves (callsOf Sample.primitives fun _ : Unit =>
      .relayStateTryDestroy 7)) start _ _ := .single (.start (i := ()) rfl (by simp [start]))
  have hloaded := hstarted.snoc (.move (i := ()) rfl .load)
  have hclaimed := hloaded.snoc (.move (i := ()) rfl (.claim rfl))
  have hcleared := hclaimed.snoc (.move (i := ()) rfl .clear)
  have hrun := hcleared.snoc (.move (i := ()) rfl .dispose)
  have horder := objects_in_order hquiet (fun h hlive => ?_) hrun
  · exact ⟨f'.state, _, hphase, hkey, hsound, ⟨_, hrun⟩, rfl,
      horder.2 _ (List.mem_append_right _ (List.mem_singleton.mpr rfl)) _ rfl rfl⟩
  · obtain rfl : h = ⟨.relayState, 5⟩ := of_decide_eq_true hlive
    exact hsound

end Runs

end AuraOpaque.Ffi
