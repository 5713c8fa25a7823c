import AuraOpaque.Ffi.Export
import AuraOpaque.Ffi.Outlines

/-!
# Locks and slots

Any number of calls of the interface, interleaved step by step.
-/

namespace AuraOpaque.Ffi

open AuraOpaque.Foundation AuraOpaque.Core

variable (P : Primitives)

/-! ## Calls -/

/-- `opaque_*_destroy` is `opaque_*_try_destroy` without its code. -/
inductive Call where
  | agentCreate (args : AgentCreate) (panics : Bool)
  | agentTryDestroy (handlePtr : ℕ)
  | agentStateCreate (handle : ℕ) (panics : Bool)
  | agentStateTryDestroy (handlePtr : ℕ)
  | relayKeypairGenerate (handle : ℕ) (panics : Bool)
  | relayKeypairTryDestroy (handlePtr : ℕ)
  | relayKeypairGetPublicKey (args : RelayKeypairGetPublicKey) (panics : Bool)
  | relayCreate (args : RelayCreate) (panics : Bool)
  | relayCreateWithKeys (args : RelayCreateWithKeys) (panics : Bool)
  | relayTryDestroy (handlePtr : ℕ)
  | relayStateCreate (handle : ℕ) (panics : Bool)
  | relayStateTryDestroy (handlePtr : ℕ)
  | relayCreateRegistrationResponse (args : RelayCreateRegistrationResponse) (panics : Bool)
  | relayBuildCredentials (args : RelayBuildCredentials) (panics : Bool)
  | stateful (call : StatefulCall)

/-- What a call is to the objects behind the handles. -/
inductive Role where
  | uses
  | creates (kind : Kind) (handle : ℕ)
  | destroys (kind : Kind) (handlePtr : ℕ)

namespace Call

def program : Call → Entry ℤ
  | agentCreate args panics => opaqueAgentCreate P args panics
  | agentTryDestroy handlePtr => opaqueAgentTryDestroy handlePtr
  | agentStateCreate handle panics => opaqueAgentStateCreate handle panics
  | agentStateTryDestroy handlePtr => opaqueAgentStateTryDestroy handlePtr
  | relayKeypairGenerate handle panics => opaqueRelayKeypairGenerate P handle panics
  | relayKeypairTryDestroy handlePtr => opaqueRelayKeypairTryDestroy handlePtr
  | relayKeypairGetPublicKey args panics => opaqueRelayKeypairGetPublicKey args panics
  | relayCreate args panics => opaqueRelayCreate P args panics
  | relayCreateWithKeys args panics => opaqueRelayCreateWithKeys P args panics
  | relayTryDestroy handlePtr => opaqueRelayTryDestroy P handlePtr
  | relayStateCreate handle panics => opaqueRelayStateCreate handle panics
  | relayStateTryDestroy handlePtr => opaqueRelayStateTryDestroy handlePtr
  | relayCreateRegistrationResponse args panics =>
      opaqueRelayCreateRegistrationResponse P args panics
  | relayBuildCredentials args panics => opaqueRelayBuildCredentials P args panics
  | stateful call => call.program P

def role : Call → Role
  | agentCreate args _ => .creates .agent args.handle
  | agentTryDestroy handlePtr => .destroys .agent handlePtr
  | agentStateCreate handle _ => .creates .agentState handle
  | agentStateTryDestroy handlePtr => .destroys .agentState handlePtr
  | relayKeypairGenerate handle _ => .creates .relayKeypair handle
  | relayKeypairTryDestroy handlePtr => .destroys .relayKeypair handlePtr
  | relayKeypairGetPublicKey _ _ => .uses
  | relayCreate args _ => .creates .relay args.handle
  | relayCreateWithKeys args _ => .creates .relay args.handle
  | relayTryDestroy handlePtr => .destroys .relay handlePtr
  | relayStateCreate handle _ => .creates .relayState handle
  | relayStateTryDestroy handlePtr => .destroys .relayState handlePtr
  | relayCreateRegistrationResponse _ _ => .uses
  | relayBuildCredentials _ _ => .uses
  | stateful _ => .uses

def slot (call : Call) : Option (Slot Kind) :=
  match call.role with
  | .uses => none
  | .creates kind handle => slotAt kind handle
  | .destroys kind handlePtr => slotAt kind handlePtr

def Post (call : Call) : ℤ → Ghost Kind → Prop :=
  match call.role with
  | .uses => UsePost
  | .creates kind handle => CreatePost (slotAt kind handle)
  | .destroys _ _ => DestroyPost

variable {P}

theorem outline (call : Call) (content : ℕ) :
    Outline call.slot call.Post (call.program P) (begins content) := by
  cases call with
  | agentCreate args panics => exact agentCreate_outline args panics
  | agentTryDestroy handlePtr => exact tryDestroy_outline
  | agentStateCreate handle panics => exact agentStateCreate_outline handle panics
  | agentStateTryDestroy handlePtr => exact tryDestroy_outline
  | relayKeypairGenerate handle panics => exact keypairGenerate_outline handle panics
  | relayKeypairTryDestroy handlePtr => exact tryDestroy_outline
  | relayKeypairGetPublicKey args panics => exact keypairGetPublicKey_outline args panics
  | relayCreate args panics => exact relayCreate_outline args panics
  | relayCreateWithKeys args panics => exact relayCreateWithKeys_outline args panics
  | relayTryDestroy handlePtr => exact tryDestroy_outline
  | relayStateCreate handle panics => exact relayStateCreate_outline handle panics
  | relayStateTryDestroy handlePtr => exact tryDestroy_outline
  | relayCreateRegistrationResponse args panics =>
      exact createRegistrationResponse_outline args panics
  | relayBuildCredentials args panics => exact buildCredentials_outline args panics
  | stateful call =>
      cases call with
      | agent call strike => exact agentCall_outline call strike
      | relay call strike => exact relayCall_outline call strike

theorem tryDestroy_unguarded {kind : Kind} {address : ℕ} {drop : ℕ → Store → Store} :
    (tryDestroy kind address drop).Unguarded := by
  unfold tryDestroy Entry.rejectIf Program.exitIf
  split
  · trivial
  · intro handle
    change Program.Unguarded ((if handle = null then .exit 0 else .ret ()) >>= _)
    split
    · trivial
    · intro taken
      cases taken <;> trivial

theorem unguarded_of_destroys {call : Call} {kind : Kind} {handlePtr : ℕ}
    (h : call.role = .destroys kind handlePtr) : (call.program P).Unguarded := by
  cases call <;> first | exact tryDestroy_unguarded | cases h

end Call

/-! ## Runs -/

def callsOf {ι : Type} (calls : ι → Call) : Calls ι Kind Store ℤ where
  program i := (calls i).program P
  slot i := (calls i).slot

section Runs

variable {ι : Type} [DecidableEq ι]

/-- What holds of the steps of a returned call. -/
structure CallOrderly (role : Role) (history : List (Label ι Kind Store ℤ)) (i : ι) (code : ℤ)
    (after : Process) : Prop where
  /-- The flags that it took were given back. -/
  released : (∀ kind handlePtr, role ≠ .destroys kind handlePtr) →
    (handlesOf Event.acquired? history i).Perm (handlesOf Event.released? history i) ∧
      handlesOf Event.freed? history i = []
  /-- A destructor disposes of what it took instead, and only when it returns zero. -/
  freed : ∀ kind handlePtr, role = .destroys kind handlePtr →
    (handlesOf Event.acquired? history i).Perm (handlesOf Event.freed? history i) ∧
      (code ≠ 0 → handlesOf Event.freed? history i = [])
  busy : code = ffiBusy → ∀ l ∈ history, l.call = i →
    l.after.data = l.before.data ∧ l.after.live = l.before.live
  created : ∀ kind handle, role = .creates kind handle →
    ((handle ≠ null ∧ after.slots ⟨kind, handle⟩ ≠ null) ↔ code = 0)
  destroyed : ∀ kind handlePtr, role = .destroys kind handlePtr → handlePtr ≠ null →
    (code = 0 → after.slots ⟨kind, handlePtr⟩ = null) ∧
      (code = ffiBusy → ∀ l ∈ history, l.call = i → l.after.slots = l.before.slots)

/-- Flags have one holder, calls clean up after themselves, and nothing is freed twice. -/
structure HandlesOrderly (calls : ι → Call) (history : List (Label ι Kind Store ℤ))
    (pool : Pool ι Kind Store ℤ) : Prop where
  exclusive : ∀ i j h, pool.Holds i h → pool.Holds j h → i = j
  flags : ∀ h, pool.shared.live h = true → (pool.shared.inUse h = true ↔ ∃ i, pool.Holds i h)
  returned : ∀ l ∈ history, ∀ code, l.event = .returned code →
    CallOrderly (calls l.call).role history l.call code l.after
  disposals : ∀ l ∈ history, ∀ h, l.event = .freed h →
    l.before.live h = true ∧ l.after.live h = false

variable {P} {calls : ι → Call} {history : List (Label ι Kind Store ℤ)}
  {start pool : Pool ι Kind Store ℤ} {l : Label ι Kind Store ℤ} {code : ℤ}

theorem slotAt_eq_some {kind : Kind} {address : ℕ} (h : address ≠ null) :
    slotAt kind address = some ⟨kind, address⟩ :=
  if_neg h

theorem Call.slot_of_role {call : Call} {kind : Kind} {handle : ℕ}
    (h : call.role = .creates kind handle ∨ call.role = .destroys kind handle) :
    call.slot = slotAt kind handle := by
  unfold Call.slot
  rcases h with h | h <;> rw [h]

/-- A call that is not on record has changed nothing. -/
theorem unchanged_of_records {g : Ghost Kind} {s s' : Process} (h : g.Records s s') :
    (¬ g.touched → s'.data = s.data ∧ s'.live = s.live) ∧ (¬ g.wrote → s'.slots = s.slots) := by
  refine ⟨fun hsame => ⟨?_, ?_⟩, fun hsame => ?_⟩
  · exact not_not.mp fun hne => hsame (h.data hne)
  · exact not_not.mp fun hne => hsame (h.live hne)
  · exact not_not.mp fun hne => hsame (h.slots hne)

theorem callOrderly (o : Orderly (callsOf P calls) (fun i => (calls i).Post) history pool)
    (hstart : start.Quiet) (hrun : Run (Interleaves (callsOf P calls)) start history pool)
    (hl : l ∈ history) (he : l.event = .returned code) :
    CallOrderly (calls l.call).role history l.call code l.after := by
  have hperm := o.acquired_perm hl he
  obtain ⟨-, g, hg⟩ := o.returned l hl code he
  have hcontent : g.content = l.after.content (calls l.call).slot := hg.content
  have hrecords : ∀ l' ∈ history, l'.call = l.call → g.Records l'.before l'.after := hg.records
  -- an object is gone only when the call took it for good
  have hkept : g.claim = .none → handlesOf Event.freed? history l.call = [] := by
    intro hnone
    rw [hg.freed, hnone]
    rfl
  have hpost : (calls l.call).Post code g := hg.post
  unfold Call.Post at hpost
  generalize hrole : (calls l.call).role = role at hpost ⊢
  cases role with
  | uses =>
      obtain ⟨hclaim, hbusy⟩ := hpost
      have hnone := hkept hclaim
      rw [hnone, List.append_nil] at hperm
      refine ⟨fun _ => ⟨hperm, hnone⟩, ?_, fun hcode l' hl' hcall => ?_, ?_, ?_⟩
      · rintro _ _ ⟨⟩
      · exact (unchanged_of_records (hrecords l' hl' hcall)).1 fun h => hbusy h hcode
      · rintro _ _ ⟨⟩
      · rintro _ _ ⟨⟩
  | creates kind handle =>
      obtain ⟨hclaim, hbusy, hslot⟩ := hpost
      have hnone := hkept hclaim
      rw [hnone, List.append_nil] at hperm
      refine ⟨fun _ => ⟨hperm, hnone⟩, ?_, fun hcode l' hl' hcall => ?_, ?_, ?_⟩
      · rintro _ _ ⟨⟩
      · exact (unchanged_of_records (hrecords l' hl' hcall)).1 fun h => hbusy h hcode
      · rintro kind' handle' ⟨⟩
        rw [← hslot, hcontent, Call.slot_of_role (.inl hrole)]
        by_cases hnull : handle = null
        · have hnoSlot : slotAt kind handle = none := if_pos hnull
          rw [hnoSlot]
          exact iff_of_false (fun h => h.1 hnull) fun h => h.1 rfl
        · rw [slotAt_eq_some hnull]
          simp [hnull, Shared.content]
      · rintro _ _ ⟨⟩
  | destroys kind handlePtr =>
      obtain ⟨hzero, hbusy, hgone⟩ := hpost
      have hreleased : handlesOf Event.released? history l.call = [] :=
        (run_unguarded hstart (Call.unguarded_of_destroys hrole) hrun).2
      rw [hreleased, List.nil_append] at hperm
      refine ⟨fun h => absurd rfl (h kind handlePtr), ?_, fun hcode l' hl' hcall => ?_, ?_, ?_⟩
      · rintro kind' handlePtr' ⟨⟩
        refine ⟨hperm, fun hcode => ?_⟩
        rw [hg.freed]
        cases hclaim : g.claim with
        | freed h => exact absurd (hgone h hclaim) hcode
        | _ => rfl
      · exact (unchanged_of_records (hrecords l' hl' hcall)).1 (hbusy hcode).1
      · rintro _ _ ⟨⟩
      · rintro kind' handlePtr' ⟨⟩ hnull
        refine ⟨fun hcode => ?_, fun hcode l' hl' hcall => ?_⟩
        · have hempty := hzero hcode
          rwa [hcontent, Call.slot_of_role (.inr hrole), slotAt_eq_some hnull] at hempty
        · exact (unchanged_of_records (hrecords l' hl' hcall)).2 (hbusy hcode).2.1

/--
Any calls, interleaved in any way, from a process in which no flag is set and
every slot is empty or points to an object of its own.
-/
theorem handles_orderly (hstart : start.Quiet)
    (hrun : Run (Interleaves (callsOf P calls)) start history pool) :
    HandlesOrderly calls history pool := by
  have o : Orderly (callsOf P calls) (fun i => (calls i).Post) history pool :=
    run_orderly hstart (fun i content => (calls i).outline content) hrun
  refine ⟨fun i j h hi hj => ?_, fun h hlive => ?_, fun l hl code he => ?_, o.disposals⟩
  · exact o.exclusive i j h (Pool.holds_iff.mp hi) (Pool.holds_iff.mp hj)
  · simp only [Pool.holds_iff]
    exact o.flags h hlive
  · exact callOrderly o hstart hrun hl he

/-- Two calls to come, in a process with an object behind every handle. -/
def sampleStart : Pool Bool Kind Store ℤ := ⟨fun _ => .pending, sampleProcess⟩

theorem sampleStart_quiet : sampleStart.Quiet := ⟨fun _ => rfl, fun _ _ => rfl, nofun, nofun⟩

/-- Two calls on one key pair: the second one finds the flag set. -/
theorem sample_run : ∃ (history : List (Label Bool Kind Store ℤ)) (pool : Pool Bool Kind Store ℤ),
    Run (Interleaves (callsOf Sample.primitives fun _ =>
      .relayKeypairGetPublicKey ⟨5, 100, 32⟩ false)) sampleStart history pool ∧
    pool.Holds false ⟨.relayKeypair, 5⟩ ∧
    ∃ l ∈ history, l.call = true ∧ l.event = .returned ffiBusy := by
  let calls : Bool → Call := fun _ => .relayKeypairGetPublicKey ⟨5, 100, 32⟩ false
  have hstarted : Run (Interleaves (callsOf Sample.primitives calls)) sampleStart _ _ :=
    .single (.start (i := false) rfl (by simp [sampleStart]))
  have hacquired := hstarted.snoc (.move (i := false) rfl (.acquire rfl rfl))
  have hsecond := hacquired.snoc
    (.start (i := true) rfl (by simp [calls, callsOf, Call.slot, Call.role]))
  have hbusy := hsecond.snoc (.move (i := true) rfl (.busy rfl rfl))
  have hrun := hbusy.snoc (.finish (i := true) rfl rfl)
  refine ⟨_, _, hrun, ⟨_, rfl, ?_⟩, _,
    List.mem_append_right _ (List.mem_singleton.mpr rfl), rfl, rfl⟩
  simp [Running.holds]

theorem handles_orderly_sample : ∃ (history : List (Label Bool Kind Store ℤ))
    (pool : Pool Bool Kind Store ℤ), pool.Holds false ⟨.relayKeypair, 5⟩ ∧
      (∀ j, pool.Holds j ⟨.relayKeypair, 5⟩ → j = false) ∧
      (∃ l ∈ history, l.call = true ∧ l.event = .returned ffiBusy) ∧
      ∀ l ∈ history, l.call = true → l.after.data = l.before.data := by
  obtain ⟨history, pool, hrun, hheld, l, hl, hcall, he⟩ := sample_run
  have horderly := handles_orderly sampleStart_quiet hrun
  refine ⟨history, pool, hheld, fun j hj => horderly.exclusive j false _ hj hheld,
    ⟨l, hl, hcall, he⟩, fun l' hl' hcall' => ?_⟩
  exact ((horderly.returned l hl _ he).busy rfl l' hl' (hcall'.trans hcall.symm)).1

end Runs

/-! ## A call that nobody interrupts -/

/-- The two handles that a stateful call is given. -/
def StatefulCall.handles : StatefulCall → List (Handle Kind)
  | .agent call _ =>
      let agentHandle :=
        match call with
        | .createRegistrationRequest args => args.agentHandle
        | .finalizeRegistration args => args.agentHandle
        | .generateKe1 args => args.agentHandle
        | .generateKe3 args => args.agentHandle
        | .finish args => args.agentHandle
      [⟨.agent, agentHandle⟩, ⟨.agentState, call.stateHandle⟩]
  | .relay call _ =>
      let relayHandle :=
        match call with
        | .generateKe2 args => args.relayHandle
        | .finish args => args.relayHandle
      [⟨.relay, relayHandle⟩, ⟨.relayState, call.stateHandle⟩]

section Alone

variable {P} {live : Handle Kind → Bool}

theorem plain_rejectIf {p : Prop} [Decidable p] {error : OpaqueError} {next : Unit → Entry ℤ}
    (hnext : (next ()).Plain live) : (Entry.rejectIf p error >>= next).Plain live := by
  unfold Entry.rejectIf Program.exitIf
  split
  · trivial
  · exact hnext

theorem plain_acquire {kind : Kind} {handle : ℕ} {next : Unit → Entry ℤ}
    (hlive : handle ≠ null → live ⟨kind, handle⟩ = true) (hnext : (next ()).Plain live) :
    (acquire kind handle >>= next).Plain live := by
  unfold acquire
  split
  · trivial
  · next hnull =>
      refine ⟨hlive hnull, fun taken => ?_⟩
      cases taken
      · trivial
      · exact hnext

theorem plain_acquireAgent {handle : ℕ} {next : Agent.OpaqueInitiator → Entry ℤ}
    (hlive : handle ≠ null → live ⟨.agent, handle⟩ = true) (hnext : ∀ b, (next b).Plain live) :
    (acquireAgent handle >>= next).Plain live := by
  unfold acquireAgent
  rw [Program.bind_assoc]
  exact plain_acquire hlive hnext

theorem plain_acquireRelay {handle : ℕ} {next : Relay.OpaqueResponder → Entry ℤ}
    (hlive : handle ≠ null → live ⟨.relay, handle⟩ = true) (hnext : ∀ b, (next b).Plain live) :
    (acquireRelay handle >>= next).Plain live := by
  unfold acquireRelay
  rw [Program.bind_assoc]
  exact plain_acquire hlive hnext

theorem StatefulCall.plain (call : StatefulCall)
    (hlive : ∀ h ∈ call.handles, h.address ≠ null → live h = true) :
    (call.program P).Plain live := by
  cases call with
  | agent call strike =>
      have hagent := hlive _ (List.mem_cons_self ..)
      have hstate := hlive _ (List.mem_cons_of_mem _ (List.mem_cons_self ..))
      cases call with
      | createRegistrationRequest args =>
          refine plain_rejectIf (plain_rejectIf (plain_acquireAgent hagent fun _ => ?_))
          exact plain_acquire hstate fun _ => trivial
      | finalizeRegistration args =>
          refine plain_rejectIf (plain_acquireAgent hagent fun _ => ?_)
          exact plain_acquire hstate fun _ => trivial
      | generateKe1 args =>
          refine plain_rejectIf (plain_rejectIf (plain_acquireAgent hagent fun _ => ?_))
          exact plain_acquire hstate fun _ => trivial
      | generateKe3 args =>
          refine plain_rejectIf (plain_acquireAgent hagent fun _ => ?_)
          exact plain_acquire hstate fun _ => trivial
      | finish args =>
          refine plain_rejectIf (plain_acquireAgent hagent fun _ => ?_)
          exact plain_acquire hstate fun _ => trivial
  | relay call strike =>
      have hrelay := hlive _ (List.mem_cons_self ..)
      have hstate := hlive _ (List.mem_cons_of_mem _ (List.mem_cons_self ..))
      cases call with
      | generateKe2 args =>
          refine plain_rejectIf (plain_rejectIf (plain_acquireRelay hrelay fun _ _ => ?_))
          exact plain_acquire hstate fun _ => trivial
      | finish args =>
          refine plain_rejectIf (plain_acquireRelay hrelay fun _ => ?_)
          exact plain_acquire hstate fun _ => trivial

/-- The ending of a stateful call is what its own steps lead to. -/
theorem StatefulCall.exec_run (call : StatefulCall) (fresh : Process → ℕ) (s : Process)
    (hlive : ∀ h ∈ call.handles, h.address ≠ null → s.live h = true) :
    let e := (call.program P).exec fresh [] [] s
    ∃ history q, Run Alone (⟨call.program P, [], .none⟩, s) history (⟨q, [], .none⟩, e.shared) ∧
      q.code = some e.code ∧ e.acquired = history.filterMap Event.acquired? :=
  (call.plain hlive).exec_run fresh [] []

variable {s : Process} {handle address : ℕ}

/-- A constructor whose arguments pass publishes its object, and finds nothing in its way. -/
theorem agentCreate_alone {args : AgentCreate} {initiator : Agent.OpaqueInitiator}
    (hhandle : args.handle ≠ null)
    (hwell : ¬ (args.relayPublicKey = null ∨ args.keyLength ≠ publicKeyLength ∨
      rangesOverlap args.relayPublicKey args.keyLength args.handle pointerSize))
    (hnew : Agent.OpaqueInitiator.new P (s.data.memory.read args.relayPublicKey args.keyLength) =
      .ok initiator)
    (hne : address ≠ 0) (hfresh : s.live ⟨.agent, address⟩ = false) :
    ∃ events, Run Alone ((⟨opaqueAgentCreate P args false, [], .none⟩ : Running Kind Store ℤ), s)
      events (⟨.ret 0, [], .none⟩, (s.clear ⟨.agent, args.handle⟩).publish ⟨.agent, args.handle⟩
        address fun address store =>
          { store with agents := Function.update store.agents address initiator }) := by
  unfold opaqueAgentCreate Entry.work
  simp only [Entry.rejectIf_neg hhandle, Entry.rejectIf_neg hwell, Program.clear_bind,
    Program.ret_bind, Program.act_bind, Program.publish_bind]
  refine ⟨[.worked, .worked, .worked, .worked], Moves.clear.alone (Moves.alone
    (@Moves.act _ _ _ _ _ _ _ initiator _ _ _ s.data ?_)
    (Moves.alone (.act rfl) (Moves.alone (.publish hne hfresh) .nil)))⟩
  simp only [Shared.clear, Cmd.run_bind, Cmd.run_get, Cmd.run_liftM, hnew, withCode]

theorem agentStateCreate_alone (hhandle : handle ≠ null) (hne : address ≠ 0)
    (hfresh : s.live ⟨.agentState, address⟩ = false) :
    ∃ events, Run Alone
      ((⟨opaqueAgentStateCreate handle false, [], .none⟩ : Running Kind Store ℤ), s) events
      (⟨.ret 0, [], .none⟩,
        ({ s with data := { s.data with world := s.data.world.tick } }.clear
          ⟨.agentState, handle⟩).publish ⟨.agentState, handle⟩ address fun address store =>
          { store with
            agentStates := Function.update store.agentStates address
              (.newAt (s.data.world.clock 0)) }) := by
  unfold opaqueAgentStateCreate Entry.work
  simp only [Entry.rejectIf_neg hhandle, Program.clear_bind,
    Program.ret_bind, Program.act_bind, Program.publish_bind]
  exact ⟨_, Moves.clear.alone (Moves.alone (.act rfl) (Moves.alone (.act rfl)
    (Moves.alone (.publish hne hfresh) .nil)))⟩

theorem tryDestroy_alone {kind : Kind} {drop : ℕ → Store → Store} (hhandle : handle ≠ null)
    (hslot : s.slots ⟨kind, handle⟩ = address) (hne : address ≠ null)
    (hfree : s.inUse ⟨kind, address⟩ = false) :
    ∃ events, Run Alone ((⟨tryDestroy kind handle drop, [], .none⟩ : Running Kind Store ℤ), s)
      events (⟨.ret 0, [], .freed ⟨kind, address⟩⟩,
        ((s.lock ⟨kind, address⟩).clear ⟨kind, handle⟩).dispose ⟨kind, address⟩
          (drop address)) := by
  unfold tryDestroy
  simp only [Entry.rejectIf_neg hhandle, Program.clear_bind, Program.load_bind, Program.claim_bind,
    Program.ret_bind, Program.dispose_bind]
  refine ⟨[.worked, .acquired ⟨kind, address⟩, .worked, .freed ⟨kind, address⟩],
    Moves.load.alone ?_⟩
  rw [hslot, Program.exitIf, if_neg hne]
  exact Moves.alone (.claim hfree) (Moves.clear.alone (Moves.dispose.alone .nil))

end Alone

end AuraOpaque.Ffi
