import AuraOpaque.Ffi.Ranges

/-!
# Footprints of the entry points

Run on two memories that agree on the inputs, a call goes the same way, and what
it writes is the same bytes in its outputs.
-/

namespace AuraOpaque.Ffi

open AuraOpaque.Foundation AuraOpaque.Core

/-- Writes of some bytes at some addresses, one after the other. -/
def Memory.writeAll (m : Memory) (writes : List (ℕ × List UInt8)) : Memory :=
  writes.foldl (fun m w => m.write w.1 w.2) m

/-- With zero all outputs are written, with any other code none. -/
def Delivers (outputs : List Range) (code : ℤ) (writes : List (ℕ × List UInt8)) : Prop :=
  (code = 0 ∧ writes.map (fun w => Range.mk w.1 w.2.length) = outputs) ∨ (code ≠ 0 ∧ writes = [])

/-- Both memories got the same bytes, and the rest of the stores is the same. -/
def WritesAlike (outputs : List Range) (m m' : Memory) (code : ℤ) (e e' : Store) : Prop :=
  ∃ writes, Delivers outputs code writes ∧ e.memory = m.writeAll writes ∧
    e' = { e with memory := m'.writeAll writes }

theorem writesAlike_of_failure {outputs : List Range} {m' : Memory} {code : ℤ} {data : Store}
    (hcode : code ≠ 0) :
    WritesAlike outputs data.memory m' code data { data with memory := m' } :=
  ⟨[], .inr ⟨hcode, rfl⟩, rfl, rfl⟩

/-! ## Operations on a session -/

section Operations

variable {H α β : Type} {m m' : Memory}

/-- The operation goes the same way on both memories, and writes to neither. -/
def ReadsAlike (m m' : Memory) (c : Op Memory H α) : Prop :=
  ∀ state w, ∃ o state' w', c.run ⟨m, state, w⟩ = (o, ⟨m, state', w'⟩) ∧
    c.run ⟨m', state, w⟩ = (o, ⟨m', state', w'⟩)

namespace ReadsAlike

theorem bind {c : Op Memory H α} {k : α → Op Memory H β} (hc : ReadsAlike m m' c)
    (hk : ∀ a, ReadsAlike m m' (k a)) : ReadsAlike m m' (c >>= k) := by
  intro state w
  obtain ⟨o, state₁, w₁, hrun, hrun'⟩ := hc state w
  cases o with
  | ok a =>
      obtain ⟨o, state₂, w₂, hnext, hnext'⟩ := hk a state₁ w₁
      refine ⟨o, state₂, w₂, ?_, ?_⟩
      · rw [Cmd.run_bind_ok hrun, hnext]
      · rw [Cmd.run_bind_ok hrun', hnext']
  | err e => exact ⟨_, _, _, Cmd.run_bind_err hrun, Cmd.run_bind_err hrun'⟩
  | panic => exact ⟨_, _, _, Cmd.run_bind_panic hrun, Cmd.run_bind_panic hrun'⟩

/-- The one place where an operation looks at the memory. -/
theorem getOut_bind {k : Memory → Op Memory H β} (hsame : k m' = k m)
    (hk : ReadsAlike m m' (k m)) : ReadsAlike m m' (Op.getOut >>= k) := by
  intro state w
  obtain ⟨o, state', w', hrun, hrun'⟩ := hk state w
  refine ⟨o, state', w', ?_, ?_⟩
  · rw [Cmd.run_bind_ok (Op.run_getOut _), hrun]
  · rw [Cmd.run_bind_ok (Op.run_getOut _), hsame, hrun']

theorem lift (o : OpaqueResult α) : ReadsAlike m m' (Cmd.lift o : Op Memory H α) :=
  fun _ _ => ⟨_, _, _, rfl, rfl⟩

theorem getState : ReadsAlike m m' (Op.getState : Op Memory H H) :=
  fun _ _ => ⟨_, _, _, rfl, rfl⟩

theorem modifyState (g : H → H) : ReadsAlike m m' (Op.modifyState g : Op Memory H Unit) :=
  fun _ _ => ⟨_, _, _, rfl, rfl⟩

theorem onSession {St Out : Type} {read : H → St} {write : St → H → H} {out : Out}
    {c : Op Out St Unit} : ReadsAlike m m' (onSession read write out c) := by
  intro state w
  unfold Ffi.onSession
  rcases hrun : c.run ⟨out, read state, w⟩ with ⟨_ | e | _, g⟩ <;> simp only [hrun] <;>
    exact ⟨_, _, _, rfl, rfl⟩

theorem beforeCommit {c : Op Memory H α} (strike : Strike H) (hc : ReadsAlike m m' c) :
    ReadsAlike m m' (beforeCommit strike c) := by
  cases strike with
  | none => exact hc
  | some left => exact fun _ _ => ⟨_, _, _, rfl, rfl⟩

end ReadsAlike

/-- The operation succeeds with writes to these outputs. -/
def WritesTo (outputs : List Range) (c : Op Memory H Unit) : Prop :=
  ∃ (writes : List (ℕ × List UInt8)) (g : H → H),
    writes.map (fun w => Range.mk w.1 w.2.length) = outputs ∧
      ∀ f, c.run f = (.ok (), ⟨f.out.writeAll writes, g f.state, f.world⟩)

theorem runStateful_alike {outputs : List Range} {body : Op Memory H α}
    {commit : α → Op Memory H Unit} (hbody : ReadsAlike m m' body)
    (hcommit : ∀ a, WritesTo outputs (commit a)) (invalidate : H → H) (state : H) (w : World) :
    ∃ code writes state' w', Delivers outputs code writes ∧
      runStateful invalidate (body >>= commit) ⟨m, state, w⟩ =
        (code, ⟨m.writeAll writes, state', w'⟩) ∧
      runStateful invalidate (body >>= commit) ⟨m', state, w⟩ =
        (code, ⟨m'.writeAll writes, state', w'⟩) := by
  obtain ⟨o, state₁, w₁, hrun, hrun'⟩ := hbody state w
  unfold runStateful
  cases o with
  | ok a =>
      obtain ⟨writes, g, houtputs, hwrites⟩ := hcommit a
      rw [Cmd.run_bind_ok hrun, Cmd.run_bind_ok hrun', hwrites, hwrites]
      exact ⟨0, writes, _, _, .inl ⟨rfl, houtputs⟩, rfl, rfl⟩
  | err e =>
      rw [Cmd.run_bind_err hrun, Cmd.run_bind_err hrun']
      exact ⟨_, [], _, _, .inr ⟨e.toCInt_neg.ne, rfl⟩, rfl, rfl⟩
  | panic =>
      rw [Cmd.run_bind_panic hrun, Cmd.run_bind_panic hrun']
      exact ⟨ffiPanic, [], _, _, .inr ⟨by decide, rfl⟩, rfl, rfl⟩

end Operations

/-! ## Parts of an entry point -/

section Parts

variable {outputs : List Range} {data : Store} {m' : Memory}

/-- The program on a store, and on the store with another memory. -/
abbrev Alike (outputs : List Range) (data : Store) (m' : Memory) (entry : Entry ℤ) : Prop :=
  entry.Twins (WritesAlike outputs data.memory m') data { data with memory := m' }

theorem Alike.rejectIf {p : Prop} [Decidable p] {error : OpaqueError} {next : Unit → Entry ℤ}
    (hnext : Alike outputs data m' (next ())) :
    Alike outputs data m' (Entry.rejectIf p error >>= next) := by
  unfold Entry.rejectIf Program.exitIf
  split
  · exact writesAlike_of_failure error.toCInt_neg.ne
  · exact hnext

theorem Alike.acquire {kind : Kind} {handle : ℕ} {next : Unit → Entry ℤ}
    (hnext : Alike outputs data m' (next ())) :
    Alike outputs data m' (acquire kind handle >>= next) := by
  unfold Ffi.acquire
  split
  · exact writesAlike_of_failure (handleAccessToInt_ne_zero _)
  · intro taken
    cases taken
    · exact writesAlike_of_failure (handleAccessToInt_ne_zero _)
    · exact hnext

theorem Alike.acquireAgent {address : ℕ} {next : Agent.OpaqueInitiator → Entry ℤ}
    (hnext : Alike outputs data m' (next (data.agents address))) :
    Alike outputs data m' (acquireAgent address >>= next) := by
  unfold Ffi.acquireAgent
  rw [Program.bind_assoc]
  exact .acquire ⟨rfl, .inl ⟨rfl, rfl, hnext⟩⟩

theorem Alike.acquireRelay {address : ℕ} {next : Relay.OpaqueResponder → Entry ℤ}
    (hnext : Alike outputs data m' (next (data.relays address))) :
    Alike outputs data m' (acquireRelay address >>= next) := by
  unfold Ffi.acquireRelay
  rw [Program.bind_assoc]
  exact .acquire ⟨rfl, .inl ⟨rfl, rfl, hnext⟩⟩

/-- An operation on one session, which puts the new session into its place in the store. -/
theorem Alike.session {H α : Type} {invalidate : H → H} {state : H} (place : H → World → Store)
    {body : Op Memory H α} {commit : α → Op Memory H Unit} {f : Store → Except ℤ ℤ × Store}
    (hf : ∀ m, f { data with memory := m } =
      (.ok (runStateful invalidate (body >>= commit) ⟨m, state, data.world⟩).1,
        { place (runStateful invalidate (body >>= commit) ⟨m, state, data.world⟩).2.state
            (runStateful invalidate (body >>= commit) ⟨m, state, data.world⟩).2.world with
          memory := (runStateful invalidate (body >>= commit) ⟨m, state, data.world⟩).2.out }))
    (hbody : ReadsAlike data.memory m' body) (hcommit : ∀ a, WritesTo outputs (commit a)) :
    Alike outputs data m' (.act f .ret) := by
  obtain ⟨code, writes, state', w, hdelivers, hrun, hrun'⟩ :=
    runStateful_alike hbody hcommit invalidate state data.world
  have hone : f data = (.ok code, { place state' w with memory := data.memory.writeAll writes }) :=
    (hf data.memory).trans (by rw [hrun])
  have htwo := hf m'
  rw [hrun'] at htwo
  unfold Alike Program.Twins
  rw [hone, htwo]
  exact ⟨rfl, .inr ⟨code, rfl, writes, hdelivers, rfl, rfl⟩⟩

theorem Alike.onAgentState {handle : ℕ} {α : Type} {body : Op Memory AgentStateHandle α}
    {commit : α → Op Memory AgentStateHandle Unit} (hbody : ReadsAlike data.memory m' body)
    (hcommit : ∀ a, WritesTo outputs (commit a)) :
    Alike outputs data m' (onAgentState handle (body >>= commit)) :=
  session (fun state world =>
      { data with agentStates := Function.update data.agentStates handle state, world })
    (fun _ => rfl) hbody hcommit

theorem Alike.onRelayState {handle : ℕ} {α : Type} {body : Op Memory Relay.ResponderState α}
    {commit : α → Op Memory Relay.ResponderState Unit} (hbody : ReadsAlike data.memory m' body)
    (hcommit : ∀ a, WritesTo outputs (commit a)) :
    Alike outputs data m' (onRelayState handle (body >>= commit)) :=
  session (fun state world =>
      { data with relayStates := Function.update data.relayStates handle state, world })
    (fun _ => rfl) hbody hcommit

/-- A step that looks at the inputs, and leaves the store as it is. -/
theorem Alike.check {β : Type} {c : Cmd ℤ Store β} {next : β → Entry ℤ}
    {o : Outcome ℤ β} (hrun : c.run data = (o, data))
    (hrun' : c.run { data with memory := m' } = (o, { data with memory := m' }))
    (hdiagnosed : Diagnosed o) (hnext : ∀ b, o = .ok b → Alike outputs data m' (next b)) :
    Alike outputs data m' (Entry.work c >>= next) := by
  unfold Entry.work
  simp only [Program.act_bind, Program.ret_bind, Alike, Program.Twins, hrun, hrun']
  cases o with
  | ok b => exact ⟨rfl, .inl ⟨rfl, rfl, hnext b rfl⟩⟩
  | err code => exact ⟨rfl, writesAlike_of_failure (hdiagnosed code rfl).1⟩
  | panic => exact ⟨rfl, writesAlike_of_failure (by decide)⟩

/-- A call without a session: bytes made of the inputs, and one write of them. -/
theorem Alike.write {n address : ℕ} {panics : Bool} {k : Store → Cmd ℤ Store Unit}
    {wireOf : OpaqueResult (Bytes n)} (hsame : k { data with memory := m' } = k data)
    (hk : k data = do
      let wire ← withCode OpaqueError.toCInt wireOf
      injectTestPanic panics
      Cmd.modify fun store => { store with memory := store.memory.write address wire.toList })
    (houtputs : [⟨address, n⟩] = outputs) :
    Alike outputs data m' (Entry.work (Cmd.get >>= k) >>= fun _ => pure 0) := by
  unfold Entry.work
  simp only [Program.act_bind, Program.ret_bind, Alike, Program.Twins, Cmd.run_bind, Cmd.run_get,
    Cmd.run_liftM, hsame, hk]
  rcases wireOf with wire | e | _
  · cases panics
    · refine ⟨rfl, .inr ⟨0, rfl, [(address, wire.toList)], .inl ⟨rfl, ?_⟩, rfl, rfl⟩⟩
      rw [← houtputs]
      simp
    · exact ⟨rfl, writesAlike_of_failure (by decide)⟩
  · exact ⟨rfl, writesAlike_of_failure e.toCInt_neg.ne⟩
  · exact ⟨rfl, writesAlike_of_failure (by decide)⟩

end Parts

/-! ## The entry points -/

section Calls

variable {P : Primitives} {data : Store} {m' : Memory}

/-- The two memories hold the same bytes in some ranges. -/
def AgreeOn (inputs : List Range) (m m' : Memory) : Prop :=
  ∀ i ∈ inputs, m'.read i.address i.length = m.read i.address i.length

theorem writesTo_copy {H : Type} {n address : ℕ} (wire : Bytes n) :
    WritesTo [⟨address, n⟩] (copyNonoverlapping wire.toList address : Op Memory H Unit) :=
  ⟨[(address, wire.toList)], id, by simp, fun _ => rfl⟩

theorem agentCall_alike (call : AgentCall) (strike : Strike AgentStateHandle)
    (hagree : AgreeOn (OutputCall.agent call strike).inputs data.memory m') :
    Alike (OutputCall.agent call strike).outputs data m' (call.program P strike) := by
  cases call with
  | createRegistrationRequest args =>
      have hkey := hagree _ List.mem_cons_self
      refine .rejectIf (.rejectIf (.acquireAgent (.acquire (.onAgentState ?_ writesTo_copy))))
      refine .beforeCommit _ (.getOut_bind (by simp only [hkey]) ?_)
      exact .bind .onSession fun _ => .lift _
  | finalizeRegistration args =>
      have hresponse := hagree _ List.mem_cons_self
      refine .rejectIf (.acquireAgent (.acquire (.onAgentState ?_ writesTo_copy)))
      refine .beforeCommit _ (.getOut_bind (by simp only [hresponse]) ?_)
      exact .bind .onSession fun _ => .lift _
  | generateKe1 args =>
      have hkey := hagree _ List.mem_cons_self
      have haccount := hagree _ (List.mem_cons_of_mem _ List.mem_cons_self)
      refine .rejectIf (.rejectIf (.acquireAgent (.acquire (.onAgentState ?_ writesTo_copy))))
      refine .beforeCommit _ (.getOut_bind (by simp only [hkey, haccount]) ?_)
      exact .bind .onSession fun _ => .lift _
  | generateKe3 args =>
      have hke2 := hagree _ List.mem_cons_self
      refine .rejectIf (.acquireAgent (.acquire (.onAgentState ?_ fun wire => ?_)))
      · refine .beforeCommit _ (.getOut_bind (by simp only [hke2]) ?_)
        exact .bind (.modifyState _) fun _ => .bind .onSession fun _ => .lift _
      · exact ⟨[(args.ke3Out, wire.toList)], fun sh => { sh with ke3Exported := true },
          by simp [OutputCall.outputs], fun _ => rfl⟩
  | finish args =>
      refine .rejectIf (.acquireAgent (.acquire (.onAgentState ?_ fun keys => ?_)))
      · exact .beforeCommit _ (.bind .getState fun _ => .bind (.lift _) fun _ => .onSession)
      · exact ⟨[(args.sessionKeyOut, keys.sessionKey.toList),
          (args.exportKeyOut, keys.exportKey.toList)], fun sh => { sh with ke3Exported := false },
          by simp [OutputCall.outputs], fun _ => rfl⟩

theorem relayCall_alike (call : RelayCall) (strike : Strike Relay.ResponderState)
    (hagree : AgreeOn (OutputCall.relay call strike).inputs data.memory m') :
    Alike (OutputCall.relay call strike).outputs data m' (call.program P strike) := by
  cases call with
  | generateKe2 args =>
      have hke1 := hagree _ List.mem_cons_self
      have haccount := hagree _ (List.mem_cons_of_mem _ List.mem_cons_self)
      have hcredentials := hagree _
        (List.mem_cons_of_mem _ (List.mem_cons_of_mem _ List.mem_cons_self))
      refine .rejectIf (.rejectIf (.acquireRelay ?_))
      refine .check rfl ?_ (decodeCredentials_diagnosed _ _ _) fun creds _ => ?_
      · rw [Cmd.run_bind_ok (Cmd.run_get _)]
        simp only [hcredentials]
        rfl
      · refine .acquire (.onRelayState ?_ writesTo_copy)
        refine .beforeCommit _ (.getOut_bind (by simp only [hke1, haccount]) ?_)
        exact .bind .onSession fun _ => .lift _
  | finish args =>
      have hke3 := hagree _ List.mem_cons_self
      refine .rejectIf (.acquireRelay (.acquire (.onRelayState ?_ writesTo_copy)))
      exact .beforeCommit _ (.getOut_bind (by simp only [hke3]) .onSession)

theorem OutputCall.alike (call : OutputCall) (hagree : AgreeOn call.inputs data.memory m') :
    Alike call.outputs data m' (call.program P) := by
  cases call with
  | agent call strike => exact agentCall_alike call strike hagree
  | relay call strike => exact relayCall_alike call strike hagree
  | createRegistrationResponse args panics =>
      have hrequest := hagree _ List.mem_cons_self
      have haccount := hagree _ (List.mem_cons_of_mem _ List.mem_cons_self)
      exact .rejectIf (.acquireRelay (.write (by simp only [hrequest, haccount]) rfl rfl))
  | buildCredentials args panics =>
      have hrecord := hagree _ List.mem_cons_self
      exact .rejectIf (.write (by simp only [hrecord]) rfl rfl)

/--
The check of two ranges is exact.  Arguments that fail the checks change nothing,
those that pass keep the outputs off the inputs and off each other, and a call
reads no byte outside its inputs and writes none outside its outputs.
-/
theorem outputs_never_alias :
    (∀ left leftLen right rightLen : ℕ, leftLen ≠ 0 → rightLen ≠ 0 →
      (rangesOverlap left leftLen right rightLen = false ↔
        left + leftLen < 2 ^ 64 ∧ right + rightLen < 2 ^ 64 ∧
          ∀ a, ¬ ((left ≤ a ∧ a < left + leftLen) ∧ (right ≤ a ∧ a < right + rightLen)))) ∧
    ∀ call : OutputCall,
      (¬ call.Checked → ∀ fresh (s : Process), (call.program P).exec fresh [] [] s =
        ⟨OpaqueError.invalidInput.toCInt, s, []⟩) ∧
      (call.Checked → Separated call.inputs call.outputs) ∧
      ∀ fresh (s : Process) m', AgreeOn call.inputs s.data.memory m' →
        let e := (call.program P).exec fresh [] [] s
        let e' := (call.program P).exec fresh [] []
          { s with data := { s.data with memory := m' } }
        e'.code = e.code ∧ e'.acquired = e.acquired ∧
          ∃ writes, Delivers call.outputs e.code writes ∧
            e.shared.data.memory = s.data.memory.writeAll writes ∧
            e'.shared.data = { e.shared.data with memory := m'.writeAll writes } := by
  refine ⟨fun left leftLen right rightLen hleft hright => ?_, fun call => ⟨?_, ?_, ?_⟩⟩
  · exact rangesOverlap_eq_false_iff hleft hright
  · intro h fresh s
    rw [OutputCall.program_of_not_checked P h]
    rfl
  · exact OutputCall.separated
  · intro fresh s m' hagree
    exact (call.alike hagree).exec fresh [] []

end Calls

end AuraOpaque.Ffi
