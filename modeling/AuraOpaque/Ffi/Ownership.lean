import AuraOpaque.Foundation.Ownership
import AuraOpaque.Ffi.Locking

/-!
# The entry points keep to their handles

No step of any entry point reads or writes the object behind a handle whose flag
the call has not taken.
-/

namespace AuraOpaque.Ffi

open AuraOpaque.Foundation AuraOpaque.Core

variable {P : Primitives}

/-! ## The objects of the process -/

inductive Object where
  | agent (initiator : Agent.OpaqueInitiator)
  | agentState (stateHandle : AgentStateHandle)
  | relay (responder : Relay.OpaqueResponder)
  | relayState (state : Relay.ResponderState)
  | relayKeypair (keypairHandle : RelayKeypairHandle)

def Object.kind : Object → Kind
  | .agent _ => .agent
  | .agentState _ => .agentState
  | .relay _ => .relay
  | .relayState _ => .relayState
  | .relayKeypair _ => .relayKeypair

namespace Store

def object (h : Handle Kind) (store : Store) : Object :=
  match h.kind with
  | .agent => .agent (store.agents h.address)
  | .agentState => .agentState (store.agentStates h.address)
  | .relay => .relay (store.relays h.address)
  | .relayState => .relayState (store.relayStates h.address)
  | .relayKeypair => .relayKeypair (store.relayKeypairs h.address)

def put (address : ℕ) (store : Store) : Object → Store
  | .agent initiator => { store with agents := Function.update store.agents address initiator }
  | .agentState sh => { store with agentStates := Function.update store.agentStates address sh }
  | .relay responder => { store with relays := Function.update store.relays address responder }
  | .relayState state =>
      { store with relayStates := Function.update store.relayStates address state }
  | .relayKeypair kh =>
      { store with relayKeypairs := Function.update store.relayKeypairs address kh }

/-- What is behind no handle: the callers' buffers, the generator and the clock. -/
def objects : Objects Kind Store Object (Memory × World) where
  object := object
  rest store := (store.memory, store.world)

section Put

variable {h : Handle Kind} {o : Object} {address : ℕ} {store : Store}

theorem object_put_of_ne (hne : h ≠ ⟨o.kind, address⟩) :
    object h (store.put address o) = object h store := by
  obtain ⟨kind, place⟩ := h
  have hplace : kind = o.kind → place ≠ address := by
    rintro rfl rfl
    exact hne rfl
  cases o <;> cases kind <;> try rfl
  case agent.agent => exact congrArg Object.agent (Function.update_of_ne (hplace rfl) _ _)
  case agentState.agentState =>
      exact congrArg Object.agentState (Function.update_of_ne (hplace rfl) _ _)
  case relay.relay => exact congrArg Object.relay (Function.update_of_ne (hplace rfl) _ _)
  case relayState.relayState =>
      exact congrArg Object.relayState (Function.update_of_ne (hplace rfl) _ _)
  case relayKeypair.relayKeypair =>
      exact congrArg Object.relayKeypair (Function.update_of_ne (hplace rfl) _ _)

theorem object_put_self : object ⟨o.kind, address⟩ (store.put address o) = o := by
  cases o with
  | agent => exact congrArg Object.agent (Function.update_self _ _ _)
  | agentState => exact congrArg Object.agentState (Function.update_self _ _ _)
  | relay => exact congrArg Object.relay (Function.update_self _ _ _)
  | relayState => exact congrArg Object.relayState (Function.update_self _ _ _)
  | relayKeypair => exact congrArg Object.relayKeypair (Function.update_self _ _ _)

theorem rest_put : objects.rest (store.put address o) = objects.rest store := by
  cases o <;> rfl

end Put

end Store

open Store (objects)

/-! ## Commands that use no object -/

section Detached

variable {α β : Type}

/-- The two stores hold the same buffers, and the same draws and readings are to come. -/
def SameRest (store store' : Store) : Prop :=
  store.memory = store'.memory ∧ store.world = store'.world

/-- The command neither reads nor writes an object. -/
structure Detached (c : Cmd ℤ Store α) : Prop where
  writes : ∀ store h, Store.object h (c.run store).2 = Store.object h store
  reads : ∀ store store', SameRest store store' →
    (c.run store).1 = (c.run store').1 ∧ SameRest (c.run store).2 (c.run store').2

namespace Detached

theorem bind {c : Cmd ℤ Store α} {k : α → Cmd ℤ Store β} (hc : Detached c)
    (hk : ∀ a, Detached (k a)) : Detached (c >>= k) where
  writes store h := by
    have hfirst := hc.writes store h
    rw [Cmd.run_bind]
    rcases hrun : c.run store with ⟨a | e | _, store₁⟩ <;> rw [hrun] at hfirst
    · exact ((hk a).writes store₁ h).trans hfirst
    · exact hfirst
    · exact hfirst
  reads store store' hsame := by
    obtain ⟨hresult, hafter⟩ := hc.reads store store' hsame
    rw [Cmd.run_bind, Cmd.run_bind]
    rcases hrun : c.run store with ⟨o, store₁⟩
    rcases hrun' : c.run store' with ⟨o', store₁'⟩
    rw [hrun, hrun'] at hresult hafter
    dsimp only at hresult hafter
    subst hresult
    cases o with
    | ok a => exact (hk a).reads store₁ store₁' hafter
    | err e => exact ⟨rfl, hafter⟩
    | panic => exact ⟨rfl, hafter⟩

/-- A command that looks at the store, but not at its objects. -/
theorem getBind {k : Store → Cmd ℤ Store β} (hk : ∀ store, Detached (k store))
    (hsame : ∀ store store', SameRest store store' → k store = k store') :
    Detached (Cmd.get >>= k) where
  writes store := (hk store).writes store
  reads store store' h := by
    change ((k store).run store).1 = ((k store').run store').1 ∧
      SameRest ((k store).run store).2 ((k store').run store').2
    rw [hsame store store' h]
    exact (hk store').reads store store' h

theorem lift (o : Outcome ℤ α) : Detached (liftM o : Cmd ℤ Store α) :=
  ⟨fun _ _ => rfl, fun _ _ h => ⟨rfl, h⟩⟩

theorem cmdLift (o : Outcome ℤ α) : Detached (Cmd.lift o : Cmd ℤ Store α) :=
  ⟨fun _ _ => rfl, fun _ _ h => ⟨rfl, h⟩⟩

theorem writeMemory (address : ℕ) (bytes : List UInt8) :
    Detached (Cmd.modify fun store : Store =>
      { store with memory := store.memory.write address bytes }) where
  writes _ _ := rfl
  reads _ _ h := ⟨rfl, congrArg (Memory.write · address bytes) h.1, h.2⟩

theorem onWorld (code : OpaqueError → ℤ) (c : Cmd OpaqueError World α) :
    Detached (onWorld code c) where
  writes _ _ := rfl
  reads store store' h := by
    unfold Ffi.onWorld
    dsimp only
    rw [h.2]
    exact ⟨rfl, h.1, rfl⟩

theorem injectTestPanic (panics : Bool) : Detached (injectTestPanic panics) := by
  cases panics <;> exact ⟨fun _ _ => rfl, fun _ _ h => ⟨rfl, h⟩⟩

end Detached

end Detached

/-! ## Parts of an entry point -/

section Parts

variable {β : Type} {held : List (Handle Kind)} {kind : Kind} {handle : ℕ}

/-- The entry point keeps to the handles that it takes. -/
abbrev Keeps (entry : Entry ℤ) (held : List (Handle Kind)) : Prop := entry.KeepsTo objects held

theorem Keeps.rejectIf {p : Prop} [Decidable p] {error : OpaqueError} {next : Unit → Entry ℤ}
    (hnext : Keeps (next ()) held) : Keeps (Entry.rejectIf p error >>= next) held := by
  unfold Entry.rejectIf Program.exitIf
  split
  · trivial
  · exact hnext

theorem Keeps.clear {slot : Slot Kind} {next : Unit → Entry ℤ} (hnext : Keeps (next ()) held) :
    Keeps (.clear slot (.ret ()) >>= next) held :=
  hnext

theorem Keeps.acquire {next : Unit → Entry ℤ} (hnext : Keeps (next ()) (⟨kind, handle⟩ :: held)) :
    Keeps (acquire kind handle >>= next) held := by
  unfold Ffi.acquire
  split
  · trivial
  · exact ⟨hnext, trivial⟩

theorem Detached.local {c : Cmd ℤ Store β} (hc : Detached c) :
    objects.Local held fun store =>
      match c.run store with
      | (.ok b, store') => (.ok b, store')
      | (.err code, store') => (.error code, store')
      | (.panic, store') => (.error ffiPanic, store') where
  writes store h _ := by
    have hkept := hc.writes store h
    dsimp only
    rcases hrun : c.run store with ⟨b | code | _, store'⟩ <;> rw [hrun] at hkept <;> exact hkept
  reads store store' hagree := by
    obtain ⟨hresult, hrest⟩ := hc.reads store store' (Prod.mk.inj hagree.rest)
    have hkept : ∀ h ∈ held, Store.object h (c.run store).2 = Store.object h (c.run store').2 := by
      intro h hh
      rw [hc.writes store h, hc.writes store' h]
      exact hagree.held h hh
    dsimp only
    rcases hrun : c.run store with ⟨o, store₁⟩
    rcases hrun' : c.run store' with ⟨o', store₁'⟩
    rw [hrun, hrun'] at hresult hrest hkept
    dsimp only at hresult
    subst hresult
    cases o <;> exact ⟨rfl, hkept, Prod.ext hrest.1 hrest.2⟩

theorem Keeps.work {c : Cmd ℤ Store β} {next : β → Entry ℤ} (hc : Detached c)
    (hnext : ∀ b, Keeps (next b) held) : Keeps (Entry.work c >>= next) held :=
  ⟨hc.local, hnext⟩

/-- What is read is in the object behind a handle that the call has taken. -/
theorem Keeps.read {f : Store → β} {next : β → Entry ℤ} {h : Handle Kind} (hh : h ∈ held)
    (hf : ∀ store store', Store.object h store = Store.object h store' → f store = f store')
    (hnext : ∀ b, Keeps (next b) held) :
    Keeps (.act (fun store => (.ok (f store), store)) next) held := by
  refine ⟨⟨fun _ _ _ => rfl, fun store store' hagree => ⟨?_, hagree⟩⟩, hnext⟩
  exact congrArg Except.ok (hf store store' (hagree.held h hh))

theorem Keeps.acquireAgent {next : Agent.OpaqueInitiator → Entry ℤ}
    (hnext : ∀ b, Keeps (next b) (⟨.agent, handle⟩ :: held)) :
    Keeps (acquireAgent handle >>= next) held := by
  unfold Ffi.acquireAgent
  rw [Program.bind_assoc]
  exact .acquire (.read List.mem_cons_self (fun _ _ => Object.agent.inj) hnext)

theorem Keeps.acquireRelay {next : Relay.OpaqueResponder → Entry ℤ}
    (hnext : ∀ b, Keeps (next b) (⟨.relay, handle⟩ :: held)) :
    Keeps (acquireRelay handle >>= next) held := by
  unfold Ffi.acquireRelay
  rw [Program.bind_assoc]
  exact .acquire (.read List.mem_cons_self (fun _ _ => Object.relay.inj) hnext)

theorem Keeps.acquireRelayKeypair {next : RelayKeypairHandle → Entry ℤ}
    (hnext : ∀ b, Keeps (next b) (⟨.relayKeypair, handle⟩ :: held)) :
    Keeps (acquireRelayKeypair handle >>= next) held := by
  unfold Ffi.acquireRelayKeypair
  rw [Program.bind_assoc]
  exact .acquire (.read List.mem_cons_self (fun _ _ => Object.relayKeypair.inj) hnext)

/-- One step that replaces the object behind a handle that the call has taken. -/
theorem Objects.local_put (result : Store → ℤ × Store × Object) {h : Handle Kind} (hh : h ∈ held)
    (hkind : ∀ store, (result store).2.2.kind = h.kind)
    (hwrites : ∀ store h', Store.object h' (result store).2.1 = Store.object h' store)
    (hreads : ∀ store store', objects.Agree held store store' →
      (result store).1 = (result store').1 ∧ (result store).2.2 = (result store').2.2 ∧
        objects.rest (result store).2.1 = objects.rest (result store').2.1) :
    objects.Local held fun store =>
      ((.ok (result store).1 : Except ℤ ℤ),
       (result store).2.1.put h.address (result store).2.2) where
  writes store h' hout := by
    refine (Store.object_put_of_ne ?_).trans (hwrites store h')
    rintro rfl
    rw [hkind] at hout
    exact hout hh
  reads store store' hagree := by
    obtain ⟨hcode, hobject, hrest⟩ := hreads store store' hagree
    refine ⟨congrArg Except.ok hcode, fun h' hmem => ?_, ?_⟩
    · by_cases hh' : h' = h
      · subst hh'
        have hput : ∀ store, Store.object h' ((result store).2.1.put h'.address
            (result store).2.2) = (result store).2.2 := by
          intro store
          have hself := @Store.object_put_self (result store).2.2 h'.address (result store).2.1
          rwa [hkind] at hself
        exact (hput store).trans (hobject.trans (hput store').symm)
      · have hkept : ∀ store, Store.object h' ((result store).2.1.put h.address
            (result store).2.2) = Store.object h' store := by
          intro store
          refine (Store.object_put_of_ne ?_).trans (hwrites store h')
          rw [hkind]
          exact hh'
        exact (hkept store).trans ((hagree.held h' hmem).trans (hkept store').symm)
    · exact Store.rest_put.trans (hrest.trans Store.rest_put.symm)

theorem Keeps.onAgentState {operation : Op Memory AgentStateHandle Unit}
    (hh : ⟨.agentState, handle⟩ ∈ held) : Keeps (onAgentState handle operation) held := by
  refine ⟨Objects.local_put (fun store =>
    let r := runAgentStateful operation ⟨store.memory, store.agentStates handle, store.world⟩
    (r.1, { store with memory := r.2.out, world := r.2.world }, .agentState r.2.state))
    hh (fun _ => rfl) (fun _ _ => rfl) fun store store' hagree => ?_, fun _ => trivial⟩
  obtain ⟨hmemory, hworld⟩ := Prod.mk.inj hagree.rest
  have hstate : store.agentStates handle = store'.agentStates handle :=
    Object.agentState.inj (hagree.held _ hh)
  simp only [hmemory, hworld, hstate, objects, and_self]

theorem Keeps.onRelayState {operation : Op Memory Relay.ResponderState Unit}
    (hh : ⟨.relayState, handle⟩ ∈ held) : Keeps (onRelayState handle operation) held := by
  refine ⟨Objects.local_put (fun store =>
    let r := runRelayStateful operation ⟨store.memory, store.relayStates handle, store.world⟩
    (r.1, { store with memory := r.2.out, world := r.2.world }, .relayState r.2.state))
    hh (fun _ => rfl) (fun _ _ => rfl) fun store store' hagree => ?_, fun _ => trivial⟩
  obtain ⟨hmemory, hworld⟩ := Prod.mk.inj hagree.rest
  have hstate : store.relayStates handle = store'.relayStates handle :=
    Object.relayState.inj (hagree.held _ hh)
  simp only [hmemory, hworld, hstate, objects, and_self]

/-- The new object is written at its own address. -/
theorem Keeps.publish {slot : Slot Kind} {o : Object} {next : Entry ℤ} (hkind : o.kind = slot.kind)
    (hnext : Keeps next held) :
    Keeps (.publish slot (fun address store => store.put address o) next) held := by
  refine ⟨fun address store h hne => Store.object_put_of_ne ?_, hnext⟩
  rw [hkind]
  exact hne

end Parts

/-! ## The entry points -/

section Entries

variable {held : List (Handle Kind)}

theorem agentCall_keeps (call : AgentCall) (strike : Strike AgentStateHandle) :
    Keeps (call.program P strike) held := by
  cases call with
  | createRegistrationRequest args =>
      refine .rejectIf (.rejectIf (.acquireAgent fun _ => .acquire (.onAgentState ?_)))
      exact List.mem_cons_self
  | finalizeRegistration args =>
      exact .rejectIf (.acquireAgent fun _ => .acquire (.onAgentState List.mem_cons_self))
  | generateKe1 args =>
      refine .rejectIf (.rejectIf (.acquireAgent fun _ => .acquire (.onAgentState ?_)))
      exact List.mem_cons_self
  | generateKe3 args =>
      exact .rejectIf (.acquireAgent fun _ => .acquire (.onAgentState List.mem_cons_self))
  | finish args =>
      exact .rejectIf (.acquireAgent fun _ => .acquire (.onAgentState List.mem_cons_self))

theorem relayCall_keeps (call : RelayCall) (strike : Strike Relay.ResponderState) :
    Keeps (call.program P strike) held := by
  cases call with
  | generateKe2 args =>
      refine .rejectIf (.rejectIf (.acquireRelay fun responder => .work ?_ fun creds => ?_))
      · refine .getBind (fun store => .lift _) fun store store' hsame => ?_
        rw [hsame.1]
      · exact .acquire (.onRelayState List.mem_cons_self)
  | finish args =>
      exact .rejectIf (.acquireRelay fun _ => .acquire (.onRelayState List.mem_cons_self))

theorem createRegistrationResponse_keeps (args : RelayCreateRegistrationResponse)
    (panics : Bool) : Keeps (opaqueRelayCreateRegistrationResponse P args panics) held := by
  refine .rejectIf (.acquireRelay fun responder => .work ?_ fun _ => trivial)
  refine .getBind (fun store => ?_) fun store store' hsame => ?_
  · exact .bind (.lift _) fun wire => .bind (.injectTestPanic _) fun _ => .writeMemory _ _
  · rw [hsame.1]

theorem buildCredentials_keeps (args : RelayBuildCredentials) (panics : Bool) :
    Keeps (opaqueRelayBuildCredentials P args panics) held := by
  refine .rejectIf (.work ?_ fun _ => trivial)
  refine .getBind (fun store => ?_) fun store store' hsame => ?_
  · exact .bind (.lift _) fun wire => .bind (.injectTestPanic _) fun _ => .writeMemory _ _
  · rw [hsame.1]

theorem keypairGetPublicKey_keeps (args : RelayKeypairGetPublicKey) (panics : Bool) :
    Keeps (opaqueRelayKeypairGetPublicKey args panics) held := by
  refine .rejectIf (.acquireRelayKeypair fun kh => .work ?_ fun _ => trivial)
  exact .bind (.injectTestPanic _) fun _ => .writeMemory _ _

theorem agentCreate_keeps (args : AgentCreate) (panics : Bool) :
    Keeps (opaqueAgentCreate P args panics) held := by
  refine .rejectIf (.clear (.rejectIf (.work ?_ fun initiator => ?_)))
  · refine .getBind (fun store => .lift _) fun store store' hsame => ?_
    rw [hsame.1]
  · refine .work (.injectTestPanic _) fun _ => ?_
    exact .publish (o := .agent initiator) rfl trivial

theorem agentStateCreate_keeps (handle : ℕ) (panics : Bool) :
    Keeps (opaqueAgentStateCreate handle panics) held := by
  refine .rejectIf (.clear (.work (.onWorld _ _) fun state => ?_))
  refine .work (.injectTestPanic _) fun _ => ?_
  exact .publish (o := .agentState _) rfl trivial

theorem relayStateCreate_keeps (handle : ℕ) (panics : Bool) :
    Keeps (opaqueRelayStateCreate handle panics) held := by
  refine .rejectIf (.clear (.work (.onWorld _ _) fun state => ?_))
  refine .work (.injectTestPanic _) fun _ => ?_
  exact .publish (o := .relayState state) rfl trivial

theorem keypairGenerate_keeps (handle : ℕ) (panics : Bool) :
    Keeps (opaqueRelayKeypairGenerate P handle panics) held := by
  refine .rejectIf (.clear (.work (.onWorld _ _) fun keypair =>
    .work (.onWorld _ _) fun seed => ?_))
  refine .work (.injectTestPanic _) fun _ => ?_
  exact .publish (o := .relayKeypair _) rfl trivial

theorem publishResponder_keeps {address : ℕ} {responder : Relay.OpaqueResponder} {panics : Bool} :
    Keeps (publishResponder address responder panics) held :=
  .work (.injectTestPanic _) fun _ => .publish (o := .relay responder) rfl trivial

theorem relayCreate_keeps (args : RelayCreate) (panics : Bool) :
    Keeps (opaqueRelayCreate P args panics) held := by
  refine .rejectIf (.clear (.acquireRelayKeypair fun kh => ?_))
  exact Keeps.work (.lift _) fun responder => publishResponder_keeps

theorem relayCreateWithKeys_keeps (args : RelayCreateWithKeys) (panics : Bool) :
    Keeps (opaqueRelayCreateWithKeys P args panics) held := by
  refine .rejectIf (.clear (.rejectIf (.work ?_ fun responder => publishResponder_keeps)))
  refine .getBind (fun store => ?_) fun store store' hsame => ?_
  · exact .bind (.cmdLift _) fun seed => .bind (.lift _) fun keypair => .lift _
  · rw [hsame.1]

/-- A destructor leaves zeros behind the one handle that it has taken. -/
theorem tryDestroy_keeps {kind : Kind} {handlePtr : ℕ} {drop : ℕ → Store → Store}
    (hdrop : ∀ handle store, ∃ o : Object, o.kind = kind ∧ drop handle store = store.put handle o) :
    Keeps (tryDestroy kind handlePtr drop) held := by
  unfold tryDestroy
  refine .rejectIf fun handle => ?_
  change Keeps (Program.exitIf (handle = null) 0 >>= _) held
  unfold Program.exitIf
  split
  · trivial
  · intro taken
    cases taken with
    | false => trivial
    | true =>
        refine ⟨fun store h hne => ?_, trivial⟩
        obtain ⟨o, rfl, heq⟩ := hdrop handle store
        rw [heq]
        exact Store.object_put_of_ne hne

theorem Call.keeps (call : Call) : Keeps (call.program P) held := by
  cases call with
  | agentCreate args panics => exact agentCreate_keeps args panics
  | agentTryDestroy handlePtr =>
      exact tryDestroy_keeps fun handle store => ⟨.agent _, rfl, rfl⟩
  | agentStateCreate handle panics => exact agentStateCreate_keeps handle panics
  | agentStateTryDestroy handlePtr =>
      exact tryDestroy_keeps fun handle store => ⟨.agentState _, rfl, rfl⟩
  | relayKeypairGenerate handle panics => exact keypairGenerate_keeps handle panics
  | relayKeypairTryDestroy handlePtr =>
      exact tryDestroy_keeps fun handle store => ⟨.relayKeypair _, rfl, rfl⟩
  | relayKeypairGetPublicKey args panics => exact keypairGetPublicKey_keeps args panics
  | relayCreate args panics => exact relayCreate_keeps args panics
  | relayCreateWithKeys args panics => exact relayCreateWithKeys_keeps args panics
  | relayTryDestroy handlePtr =>
      exact tryDestroy_keeps fun handle store => ⟨.relay _, rfl, rfl⟩
  | relayStateCreate handle panics => exact relayStateCreate_keeps handle panics
  | relayStateTryDestroy handlePtr =>
      exact tryDestroy_keeps fun handle store => ⟨.relayState _, rfl, rfl⟩
  | relayCreateRegistrationResponse args panics =>
      exact createRegistrationResponse_keeps args panics
  | relayBuildCredentials args panics => exact buildCredentials_keeps args panics
  | stateful call =>
      cases call with
      | agent call strike => exact agentCall_keeps call strike
      | relay call strike => exact relayCall_keeps call strike

end Entries

/-! ## Runs -/

section Runs

variable {ι : Type} [DecidableEq ι] {calls : ι → Call} {history : List (Label ι Kind Store ℤ)}
  {start pool : Pool ι Kind Store ℤ}

/-- Whoever works on an object has it alone, and it is there. -/
structure ObjectsOwned (P : Primitives) (calls : ι → Call) (pool : Pool ι Kind Store ℤ) :
    Prop where
  accesses : ∀ i h, pool.Accesses objects i h → pool.Owns i h
  /-- No two calls are about to work on one object. -/
  apart : ∀ i j h, pool.Accesses objects i h → pool.Accesses objects j h → i = j
  changes : ∀ l pool', Interleaves (callsOf P calls) pool l pool' → ∀ h,
    Store.object h l.after.data ≠ Store.object h l.before.data →
      pool.Owns l.call h ∨ l.before.live h = false ∧ l.after.live h = true

theorem callsOf_orderly (hstart : start.Quiet)
    (hrun : Run (Interleaves (callsOf P calls)) start history pool) :
    Orderly (callsOf P calls) (fun i => (calls i).Post) history pool :=
  run_orderly hstart (fun i content => (calls i).outline content) hrun

/--
Any calls, interleaved in any way: no two of them work on one object at a time, none works
on an object that is gone, and an object changes only in a step of the call that has its
flag, or in the step that creates it.
-/
theorem objects_owned (hstart : start.Quiet)
    (hrun : Run (Interleaves (callsOf P calls)) start history pool) :
    ObjectsOwned P calls pool := by
  have o := callsOf_orderly hstart hrun
  have hkeeps : ∀ i, ((callsOf P calls).program i).KeepsTo objects [] := fun i => (calls i).keeps
  have howns : ∀ i h, pool.Accesses objects i h → pool.Owns i h :=
    fun i h => o.access_owns hstart hkeeps hrun
  refine ⟨howns, fun i j h hi hj => ?_, fun l pool' hstep h hchange => ?_⟩
  · exact (howns j h hj).alone i (howns i h hi).holds
  · exact o.change_owns hstart hkeeps hrun hstep hchange

/-- A call that has just taken a key pair is about to read it. -/
theorem sample_reader : ∃ (start : Pool Bool Kind Store ℤ)
    (history : List (Label Bool Kind Store ℤ)) (pool : Pool Bool Kind Store ℤ), start.Quiet ∧
      Run (Interleaves (callsOf Sample.primitives fun _ =>
        .relayKeypairGetPublicKey ⟨5, 100, 32⟩ false)) start history pool ∧
      ∃ next guards claim, pool.status false = .running
        ⟨.act (fun store => (.ok (store.relayKeypairs 5), store)) next, guards, claim⟩ := by
  let start : Pool Bool Kind Store ℤ := ⟨fun _ => .pending, sampleProcess⟩
  have hstarted : Run (Interleaves (callsOf Sample.primitives fun _ : Bool =>
      .relayKeypairGetPublicKey ⟨5, 100, 32⟩ false)) start _ _ :=
    .single (.start (i := false) rfl (by simp [start]))
  have hrun := hstarted.snoc (.move (i := false) rfl (.acquire rfl rfl))
  exact ⟨start, _, _, ⟨fun _ => rfl, fun _ _ => rfl, nofun, nofun⟩, hrun, _, _, _, rfl⟩

theorem objects_owned_sample : ∃ pool : Pool Bool Kind Store ℤ,
    pool.Accesses objects false ⟨.relayKeypair, 5⟩ ∧ pool.Owns false ⟨.relayKeypair, 5⟩ ∧
      ¬ pool.Accesses objects true ⟨.relayKeypair, 5⟩ := by
  obtain ⟨start, history, pool, hquiet, hrun, next, guards, claim, hstatus⟩ := sample_reader
  have howned := objects_owned hquiet hrun
  -- two key pairs that differ in the seed are read as two key pairs
  let other : RelayKeypairHandle :=
    { keypair := ⟨zeros _, zeros _⟩, oprfSeed := List.Vector.replicate _ 1 }
  have haccess : pool.Accesses objects false ⟨.relayKeypair, 5⟩ := by
    refine ⟨_, hstatus, fun hindependent => ?_⟩
    have hput : ∀ h, h ≠ ⟨.relayKeypair, 5⟩ → Store.object h sampleProcess.data =
        Store.object h (sampleProcess.data.put 5 (.relayKeypair other)) :=
      fun h hne => (Store.object_put_of_ne hne).symm
    have hread := (hindependent sampleProcess.data
      (sampleProcess.data.put 5 (.relayKeypair other)) ⟨hput, rfl⟩).1
    have hseed : (zeros oprfSeedLength : Bytes _) = List.Vector.replicate _ 1 :=
      congrArg RelayKeypairHandle.oprfSeed (Except.ok.inj hread)
    exact absurd hseed (by decide)
  refine ⟨pool, haccess, howned.accesses _ _ haccess, fun hboth => ?_⟩
  exact absurd (howned.apart _ _ _ haccess hboth) (by decide)

end Runs

end AuraOpaque.Ffi
