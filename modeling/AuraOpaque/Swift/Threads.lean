import AuraOpaque.Agent.Refusals
import AuraOpaque.Ffi.Upkeep
import AuraOpaque.Swift.Discipline

/-!
# The Swift client on many threads

Any number of threads create agents and states, call their methods, and dispose of
them, in any order.  The native calls that come of it are made one at a time on each
object and find no handle busy; every job comes to its end, with a result that says
what happened; and once all have, the native objects that are there are those of
the agents and states which nobody has disposed of.
-/

namespace AuraOpaque.Swift

open AuraOpaque.Foundation
open AuraOpaque.Core (Primitives)
open AuraOpaque.Ffi (Kind Store callsOf ffiBusy null)

/-! ## Threads -/

abbrev Threads (ι : Type) := Wrapper ι Instance Native Kind Store ℤ Result

section Runs

variable {ι : Type} {P : Primitives} {jobs : ι → Job} {start w : Threads ι}
  {history : List (Act ι Kind Store ℤ)} {i : ι}

/-- Each thread has its job before it; nothing has been created, on either side. -/
structure Begins (jobs : ι → Job) (start : Threads ι) : Prop where
  routine : ∀ i, start.routine i = (jobs i).routine
  /-- Two initializers do not run on one object. -/
  apart : ∀ i j o, (jobs i).creates = some o → (jobs j).creates = some o → i = j
  owner : ∀ o, start.owner o = none
  field : ∀ o, start.field o = null
  made : ∀ o, start.made o = false
  call : ∀ i, start.call i = none
  status : ∀ i, start.pool.status i = .pending
  live : ∀ h, start.pool.shared.live h = false
  slots : ∀ k, start.pool.shared.slots k = null

theorem Begins.quiet (hbegin : Begins jobs start) : start.pool.Quiet where
  pending := hbegin.status
  flags h hlive := by
    rw [hbegin.live h] at hlive
    cases hlive
  slotsLive k hne := absurd (hbegin.slots k) hne
  slotsApart k k' _ hne _ := absurd (hbegin.slots k) hne

theorem Begins.fresh (hbegin : Begins jobs start) :
    start.Fresh (library P) (fun i => (jobs i).Reports) (fun i => (jobs i).creates) where
  abides i := by
    rw [hbegin.routine i]
    exact (jobs i).abides
  apart := hbegin.apart
  owner := hbegin.owner
  field := hbegin.field
  made := hbegin.made
  call := hbegin.call
  quiet := hbegin.quiet
  slots o := hbegin.slots _

/-! ## Threads that wait -/

section Waiting

variable [DecidableEq ι] {past : List (Act ι Kind Store ℤ)}

/-- While no call is under way, the object behind a pointer is there, and nobody has it. -/
theorem Begins.behind (hbegin : Begins jobs start)
    (hrun : Run (Wrapper.Step (library P)) start past w)
    (hidle : ∀ i r, w.pool.status i ≠ .running r) {o : Instance} (hfield : w.field o ≠ null) :
    w.pool.shared.slots o.place = w.field o ∧
      w.pool.shared.live ⟨o.place.kind, w.field o⟩ = true ∧
      w.pool.shared.inUse ⟨o.place.kind, w.field o⟩ = false := by
  obtain ⟨⟨g, hs⟩, hcalls⟩ := run_safe library_lawful hbegin.fresh hrun
  have ho := run_calls_orderly library_lawful hbegin.quiet hcalls
  have hpointer : w.pool.shared.slots o.place = w.field o := hs.pointer hfield
  have hlive := ho.slotsLive o.place (by rw [hpointer]; exact hfield)
  rw [hpointer] at hlive
  refine ⟨hpointer, hlive, Bool.eq_false_iff.mpr fun hset => ?_⟩
  obtain ⟨i, hi⟩ := (ho.flags _ hlive).mp hset
  cases hstatus : w.pool.status i with
  | running r => exact hidle i r hstatus
  | _ =>
      rw [hstatus] at hi
      exact absurd hi (lt_irrefl 0)

/-- A constructor that the interface lets through, while the others wait. -/
theorem create_run (o : Instance) (create : Native) {s : Shared Kind Store} {address : ℕ}
    {events : List (Event Kind ℤ)} (hw : Run (Wrapper.Step (library P)) start past w)
    (hi : w.routine i = (callNative create >>= adopt o)) (hpending : w.pool.status i = .pending)
    (hrun : Run Alone (⟨(library P).program create, [], .none⟩, w.pool.shared) events
      (⟨.ret 0, [], .none⟩, s))
    (hslot : s.slots o.place = address) (hne : address ≠ null) :
    ∃ history, Run (Wrapper.Step (library P)) start history
      { routine := Function.update w.routine i (.done (.ok []))
        owner := w.owner
        field := Function.update w.field o address
        made := Function.update w.made o true
        call := Function.update w.call i (some create)
        pool := w.pool.set i (.returned 0) s } := by
  obtain ⟨history, hcalled⟩ := Wrapper.run_call hw hi hpending hrun rfl
  set called : Threads ι := { w.goto i (adopt o 0) with
    call := Function.update w.call i (some create), pool := w.pool.set i (.returned 0) s }
  have hadopts : called.routine i = .fetch o fun rawHandle =>
      guardElse (rawHandle ≠ null) (.fromCode 0) (.make o rawHandle (.done (.ok []))) :=
    Function.update_self _ _ _
  have hfetch := @Wrapper.Step.fetch _ _ _ _ _ _ _ _ _ _ (library P) _ _ _ _ hadopts
  have hfetched : (called.goto i (guardElse (called.pool.shared.slots o.place ≠ null)
      (.fromCode 0) (.make o (called.pool.shared.slots o.place) (.done (.ok []))))).routine i =
        .make o address (.done (.ok [])) := by
    rw [Wrapper.goto_routine_self]
    change guardElse (s.slots o.place ≠ null) _ (.make o (s.slots o.place) _) = _
    rw [hslot, guardElse, if_pos hne]
  have hmake := @Wrapper.Step.make _ _ _ _ _ _ _ _ _ _ (library P) _ _ _ _ _ hfetched
  have hall := (hcalled.snoc hfetch).snoc hmake
  simp only [called, Wrapper.goto, Function.update_idem] at hall
  exact ⟨_, hall⟩

end Waiting

/-! ## A login and a disposal -/

def sampleAgent : Variable := ⟨5, by decide⟩

def sampleState : Variable := ⟨7, by decide⟩

/-- A client and a state are made; one thread begins a login, one disposes of the state. -/
def sampleJob : Fin 4 → Job
  | 0 => .initAgent sampleAgent true ⟨500, 32⟩ false
  | 1 => .createState sampleState false
  | 2 => .method (.generateKE1 ⟨1000, 1⟩ ⟨2000, 1⟩ 3000) sampleAgent sampleState none
  | 3 => .dispose sampleState

def sampleMemory : Ffi.Memory :=
  Ffi.Memory.write (fun _ => 0) 500 Agent.sampleInitiator.responderPublicKey.toList

def sampleStart : Threads (Fin 4) where
  routine i := (sampleJob i).routine
  owner _ := none
  field _ := null
  made _ := false
  call _ := none
  pool :=
    { status := fun _ => .pending
      shared := { Ffi.sampleProcess with
        live := fun _ => false
        data := { Ffi.sampleProcess.data with memory := sampleMemory } } }

theorem sampleStart_begins : Begins sampleJob sampleStart where
  routine _ := rfl
  apart i j o hi hj := by
    fin_cases i <;> fin_cases j <;> cases hi <;> first | rfl | cases hj
  owner _ := rfl
  field _ := rfl
  made _ := rfl
  call _ := rfl
  status _ := rfl
  live _ := rfl
  slots _ := rfl

/-- After the first thread. -/
def sampleOpened (s : Shared Kind Store) : Threads (Fin 4) where
  routine := Function.update sampleStart.routine 0 (.done (.ok []))
  owner _ := none
  field := Function.update (fun _ => null) (.agent sampleAgent) 1
  made := Function.update (fun _ => false) (.agent sampleAgent) true
  call := Function.update (fun _ => none) 0 (some (.agentCreate sampleAgent ⟨500, 32⟩ false))
  pool := { status := Function.update (fun _ => .pending) 0 (.returned 0), shared := s }

/-- After the second. -/
def sampleMade (s : Shared Kind Store) : Threads (Fin 4) where
  routine := Function.update (Function.update sampleStart.routine 0 (.done (.ok []))) 1
    (.done (.ok []))
  owner _ := none
  field := Function.update (Function.update (fun _ => null) (.agent sampleAgent) 1)
    (.state sampleState) 1
  made := Function.update (Function.update (fun _ => false) (.agent sampleAgent) true)
    (.state sampleState) true
  call := Function.update (Function.update (fun _ => none) 0
    (some (.agentCreate sampleAgent ⟨500, 32⟩ false))) 1
    (some (.agentStateCreate sampleState false))
  pool :=
    { status :=
        Function.update (Function.update (fun _ => .pending) 0 (.returned 0)) 1 (.returned 0)
      shared := s }

theorem sample_opened : ∃ history s,
    Run (Wrapper.Step (library Core.Sample.primitives)) sampleStart history (sampleOpened s) ∧
      s.live ⟨.agentState, 1⟩ = false ∧ s.data.memory = sampleMemory ∧
      s.data.world = Core.Sample.world 0 := by
  have hread : sampleMemory.read 500 32 = Agent.sampleInitiator.responderPublicKey.toList := by
    have hwritten := @Ffi.Memory.read_write (fun _ => 0) 500
      Agent.sampleInitiator.responderPublicKey.toList
    rwa [List.Vector.toList_length] at hwritten
  have hnew : Agent.OpaqueInitiator.new Core.Sample.primitives
      (sampleStart.pool.shared.data.memory.read 500 32) = .ok Agent.sampleInitiator := by
    change Agent.OpaqueInitiator.new _ (sampleMemory.read 500 32) = _
    rw [hread]
    exact Agent.new_sampleInitiator
  obtain ⟨events, hcreate⟩ := @Ffi.agentCreate_alone Core.Sample.primitives
    sampleStart.pool.shared 1 ⟨500, 32, 5⟩ Agent.sampleInitiator (by decide) (by decide) hnew
    (by decide) rfl
  obtain ⟨history, hrun⟩ := create_run (P := Core.Sample.primitives) (i := 0)
    (.agent sampleAgent) (.agentCreate sampleAgent ⟨500, 32⟩ false) .nil rfl rfl hcreate
    Shared.publish_slots_self (by decide)
  exact ⟨_, _, hrun, rfl, rfl, rfl⟩

theorem sample_made : ∃ history s,
    Run (Wrapper.Step (library Core.Sample.primitives)) sampleStart history (sampleMade s) ∧
      s.data.agentStates 1 = .newAt 0 ∧ s.data.memory = sampleMemory ∧
      s.data.world = Core.Sample.world 0 := by
  obtain ⟨history, s, hopened, hfresh, hmemory, hworld⟩ := sample_opened
  obtain ⟨events, hcreate⟩ := @Ffi.agentStateCreate_alone s 7 1 (by decide) (by decide) hfresh
  obtain ⟨history', hrun⟩ := create_run (i := 1)
    (.state sampleState) (.agentStateCreate sampleState false) hopened rfl rfl hcreate
    Shared.publish_slots_self (by decide)
  refine ⟨_, _, hrun, ?_, hmemory, ?_⟩
  · change Function.update s.data.agentStates 1 (Ffi.AgentStateHandle.newAt _) 1 = _
    rw [Function.update_self, hworld]
    rfl
  · change s.data.world.tick = _
    rw [hworld]
    rfl

/-- A thread that calls the interface, while the others wait, on objects that are there. -/
theorem sample_login {s : Ffi.Process}
    (hlive : ∀ h ∈ (Ffi.StatefulCall.agent (.generateKe1 Ffi.sampleKe1Args) none).handles,
      s.live h = true ∧ s.inUse h = false)
    (hnew : s.data.agentStates 1 = .newAt 0) (hmemory : s.data.memory = sampleMemory)
    (hworld : s.data.world = Core.Sample.world 0) :
    ∃ events p s', Run Alone ((⟨(library Core.Sample.primitives).program
      (.onState (.generateKe1 Ffi.sampleKe1Args) none), [], .none⟩ : Running Kind Store ℤ), s)
        events (⟨p, [], .none⟩, s') ∧ p.code = some 0 := by
  obtain ⟨events, p, halone, hcode, -⟩ := (Ffi.StatefulCall.agent
    (.generateKe1 Ffi.sampleKe1Args) none).exec_run (P := Core.Sample.primitives) (fun _ => 1) s
      fun h hh _ => (hlive h hh).1
  obtain ⟨d, cf, -, -, hlibrary⟩ := @Ffi.sampleKe1_run s
    (by rw [hmemory]; rfl) (by rw [hmemory]; rfl) hnew hworld
  have hidle : Ffi.Idle s ⟨.agent, Ffi.sampleKe1Args.agentHandle⟩
      ⟨.agentState, Ffi.sampleKe1Args.stateHandle⟩ :=
    ⟨by decide, by decide, (hlive _ List.mem_cons_self).2,
      (hlive _ (List.mem_cons_of_mem _ List.mem_cons_self)).2⟩
  have hleaves := @Ffi.generateKe1_commits Core.Sample.primitives (fun _ => 1) s
    Ffi.sampleKe1Args cf (by decide) (by decide) hidle hlibrary
  exact ⟨events, p, _, halone, hcode.trans (congrArg some hleaves.code)⟩

/--
The login has both locks and begins its call, and the disposal waits.  In the end the
login has returned a KE1, and the state is gone.
-/
theorem sample_threads :
    (∃ history w next,
      Run (Wrapper.Step (library Core.Sample.primitives)) sampleStart history w ∧
        w.routine 3 = .lock (.state sampleState) next ∧
        w.Works (library Core.Sample.primitives) 2 ⟨.agentState, 1⟩) ∧
    ∃ history w bytes,
      Run (Wrapper.Step (library Core.Sample.primitives)) sampleStart history w ∧
        (∀ i, w.routine i = .done (.ok (if i = 2 then [bytes] else []))) ∧
        (∀ i, w.pool.status i = .returned 0) ∧ w.made = (sampleMade w.pool.shared).made ∧
        w.field (.agent sampleAgent) = 1 ∧ w.field (.state sampleState) = null := by
  obtain ⟨history, s, hmade, hnew, hmemory, hworld⟩ := sample_made
  have hidle : ∀ i r, (sampleMade s).pool.status i ≠ .running r := by
    intro i r h
    fin_cases i <;> cases h
  have hagent := @Begins.behind _ _ _ _ _ _ _ sampleStart_begins hmade hidle (.agent sampleAgent)
    one_ne_zero
  have hstate := @Begins.behind _ _ _ _ _ _ _ sampleStart_begins hmade hidle (.state sampleState)
    one_ne_zero
  obtain ⟨events, p, s', halone, hcode⟩ := sample_login
    (List.forall_mem_cons.mpr ⟨hagent.2, List.forall_mem_singleton.mpr hstate.2⟩)
    hnew hmemory hworld
  have hreferred := hmade.snoc (@Wrapper.Step.refer _ _ _ _ _ _ _ _ _ _
    (library Core.Sample.primitives) (sampleMade s) 2 _ _ rfl rfl)
  have hwaits := (hreferred.snoc (.refer (i := 2) rfl rfl)).snoc (.refer (i := 3) rfl rfl)
  have hlocked := (hwaits.snoc (.lock (i := 2) rfl rfl)).snoc (.get (i := 2) rfl)
  have hboth := (hlocked.snoc (.lock (i := 2) rfl rfl)).snoc (.get (i := 2) rfl)
  refine ⟨⟨_, _, _, hboth.snoc (.enter (i := 2) rfl rfl), rfl, _, _, rfl, rfl,
    List.mem_cons_of_mem _ List.mem_cons_self⟩, ?_⟩
  -- the call of the login, and then the disposal from the lock on
  obtain ⟨history', hcalled⟩ := Wrapper.run_call (i := 2) hboth rfl rfl halone hcode
  obtain ⟨hslot, -, hfree⟩ := @Begins.behind _ _ _ _ _ _ _ sampleStart_begins hcalled
    (fun i r h => by fin_cases i <;> cases h) (.state sampleState) one_ne_zero
  obtain ⟨events', hdestroy⟩ := @Ffi.tryDestroy_alone s' 7 1 .agentState
    (fun handle store => { store with
      agentStates := Function.update store.agentStates handle
        { store.agentStates handle with state := (store.agentStates handle).state.zeroize } })
    (by decide) hslot (by decide) hfree
  have hunlocked := hcalled.snoc (.unlock (i := 2) rfl rfl)
  have htaken := (hunlocked.snoc (.lock (i := 3) rfl rfl)).snoc (.get (i := 3) rfl)
  have hcleared := (htaken.snoc (.clear (i := 3) rfl)).snoc (.unlock (i := 3) rfl rfl)
  have hread := (hcleared.snoc (.look (i := 2) rfl)).snoc (.unlock (i := 2) rfl rfl)
  obtain ⟨history'', hdestroyed⟩ := Wrapper.run_call (i := 3)
    (c := Native.agentStateDestroy sampleState) hread rfl rfl hdestroy rfl
  refine ⟨_, _, s'.data.memory.read 3000 1273, hdestroyed, fun i => ?_, fun i => ?_, rfl, rfl, rfl⟩
  · fin_cases i <;> rfl
  · fin_cases i <;> rfl

/-! ## Native calls -/

/-- The native calls that the threads have begun; the others have none yet. -/
def nativeCalls (w : Threads ι) (i : ι) : Ffi.Call := ((w.call i).getD default).call

theorem calls_library (w : Threads ι) : w.calls (library P) = callsOf P (nativeCalls w) := by
  unfold Wrapper.calls callsOf
  simp only [library_slot]
  rfl

variable [DecidableEq ι]

/-- They are calls of the C interface, interleaved. -/
theorem run_interface (hbegin : Begins jobs start)
    (hrun : Run (Wrapper.Step (library P)) start history w) :
    Run (Interleaves (callsOf P (nativeCalls w))) start.pool (history.filterMap Act.native?)
      w.pool := by
  obtain ⟨-, hcalls⟩ := run_safe library_lawful hbegin.fresh hrun
  rw [calls_library] at hcalls
  exact hcalls

/-- What the native calls of the threads are like, at any time. -/
structure NativeOrderly (P : Primitives) (start w : Threads ι)
    (past : List (Label ι Kind Store ℤ)) : Prop where
  /-- They are calls of the C interface, interleaved. -/
  interface : Run (Interleaves (callsOf P (nativeCalls w))) start.pool past w.pool
  /-- No two calls under way work on one object. -/
  exclusive : ∀ i j h, w.Works (library P) i h → w.Works (library P) j h → i = j
  /-- What a call works on is there, and nobody is destroying it. -/
  live : ∀ i h, w.Works (library P) i h → w.pool.shared.live h = true
  unclaimed : ∀ i j r h, w.Works (library P) i h → w.pool.status j = .running r →
    r.claim ≠ .taken h
  /-- A call that has returned has not found a handle busy. -/
  answered : ∀ i code, w.pool.status i = .returned code →
    ∃ native, w.call i = some native ∧ code ∈ native.codes ∧ code ≠ ffiBusy

theorem Native.busy_not_mem (native : Native) : ffiBusy ∉ native.codes := by
  have hzero : ffiBusy ∉ ([0] : List ℤ) := by decide
  cases native with
  | agentCreate agent key panics =>
      exact @Ffi.Call.busy_not_mem [] (agentCreate agent key panics).call
  | agentDestroy agent => exact hzero
  | agentStateCreate state panics =>
      exact @Ffi.Call.busy_not_mem [] (agentStateCreate state panics).call
  | agentStateDestroy state => exact hzero
  | onState call strike => exact @Ffi.Call.busy_not_mem [] (onState call strike).call

/--
Threads that use agents and states in any order: their native calls are a run of the C
interface in which each object is worked on by one call at a time, no object is used
after or while it is destroyed, and no call is turned away because a handle is busy.
-/
theorem native_calls_orderly (hbegin : Begins jobs start)
    (hrun : Run (Wrapper.Step (library P)) start history w) :
    NativeOrderly P start w (history.filterMap Act.native?) := by
  obtain ⟨⟨g, hs⟩, hcalls⟩ := run_safe library_lawful hbegin.fresh hrun
  have ho := run_calls_orderly library_lawful hbegin.quiet hcalls
  constructor
  · exact run_interface hbegin hrun
  · exact fun i j h => hs.works_exclusive library_lawful ho
  · exact fun i h => hs.works_live ho
  · exact fun i j r h hworks hr => hs.works_unclaimed library_lawful ho hworks hr
  · intro i code hi
    have haccords := (hs.fits i).accords
    rw [hi] at haccords
    obtain ⟨-, native, hcall, hcode⟩ := haccords
    refine ⟨native, hcall, hcode, ?_⟩
    rintro rfl
    exact native.busy_not_mem hcode

/-- The login works on the state alone; the disposal has its turn, and all calls return zero. -/
theorem native_calls_orderly_sample : ∃ (w w' : Threads (Fin 4))
    (past past' : List (Label (Fin 4) Kind Store ℤ)),
    NativeOrderly Core.Sample.primitives sampleStart w past ∧
      NativeOrderly Core.Sample.primitives sampleStart w' past' ∧
      (∃ next, w.routine 3 = .lock (.state sampleState) next) ∧
      (∀ j, w.Works (library Core.Sample.primitives) j ⟨.agentState, 1⟩ ↔ j = 2) ∧
      w.pool.shared.live ⟨.agentState, 1⟩ = true ∧
      ∀ i, w'.pool.status i = .returned 0 := by
  obtain ⟨history, w, next, hrun, hwaits, hworks⟩ := sample_threads.1
  obtain ⟨history', w', bytes, hrun', -, hstatus, -⟩ := sample_threads.2
  have horderly := native_calls_orderly sampleStart_begins hrun
  have horderly' := native_calls_orderly sampleStart_begins hrun'
  refine ⟨w, w', _, _, horderly, horderly', ⟨next, hwaits⟩, fun j => ⟨fun hj => ?_, ?_⟩,
    horderly.live 2 _ hworks, hstatus⟩
  · exact horderly.exclusive j 2 _ hj hworks
  · rintro rfl
    exact hworks

/-! ## Ends -/

/-- No order of steps goes on for ever, or blocks a job before its end. -/
theorem jobs_complete [Finite ι] (hbegin : Begins jobs start) :
    start.Completes (library P) := by
  refine run_completes library_lawful library_scoped rank_le ?_ hbegin.fresh
  unfold Shared.FewLive
  simp [hbegin.live]

theorem jobs_complete_sample : sampleStart.Completes (library Core.Sample.primitives) :=
  jobs_complete sampleStart_begins

/-! ## Results -/

/-- How a job of a thread has ended. -/
inductive Ended (job : Job) (w : Threads ι) (i : ι) : Result → Prop where
  | rejected {error : OpaqueError} (hrejection : job.rejection = some error)
      (hcall : w.call i = none) : Ended job w i (.error error)
  | disposed {o : Instance} (haccepted : job.rejection = none) (ho : o ∈ job.objects)
      (hmade : w.made o = true) (hfield : w.field o = null) (hcall : w.call i = none) :
      Ended job w i job.ofDisposed
  | failed {code : ℤ} (haccepted : job.rejection = none)
      (hstatus : w.pool.status i = .returned code) (hmem : code ∈ job.codes) (hne : code ≠ 0) :
      Ended job w i (.error (.fromCode code))
  | done {bytes : List (List UInt8)} (haccepted : job.rejection = none)
      (hstatus : w.pool.status i = .returned 0)
      (hlengths : bytes.map List.length = job.lengths) : Ended job w i (.ok bytes)

/-- What the result of a job says. -/
structure Reported (job : Job) (w : Threads ι) (i : ι) (result : Result) : Prop where
  ended : Ended job w i result
  /-- The handle was given up: no other failure is reported like this. -/
  invalidState : result = .error .invalidState →
    ∃ o ∈ job.objects, w.made o = true ∧ w.field o = null
  mapped : ∀ code, result ≠ .error (.unknown code)
  phase : result ≠ .error .validationError

omit [DecidableEq ι] in
theorem rejection_cases {job : Job} {error : OpaqueError} (h : job.rejection = some error) :
    error = .notInitialized ∨ ∃ details, error = .invalidInput details := by
  cases job with
  | initAgent agent initialized key panics =>
      simp only [Job.rejection] at h
      split_ifs at h <;> cases h
      · exact .inl rfl
      · exact .inr ⟨_, rfl⟩
  | method m agent state strike =>
      refine .inr ?_
      cases m with
      | finish sessionKey exportKey => cases h
      | _ =>
          simp only [Job.rejection, Method.rejection] at h
          split_ifs at h <;> cases h <;> exact ⟨_, rfl⟩
  | _ => cases h

/-- The codes that reach the classes. -/
def clientCodes : List ℤ := [0, -1, -2, -5, -6, -10, -99]

theorem codes_subset (job : Job) : ∀ code ∈ job.codes, code ∈ clientCodes := by
  cases job with
  | method m agent state strike =>
      cases m <;> simp [Job.codes, Method.codes, clientCodes]
  | _ => simp [Job.codes, clientCodes]

/-- The errors behind these codes. -/
theorem fromCode_cases {code : ℤ} (hmem : code ∈ clientCodes) (hne : code ≠ 0) :
    OpaqueError.fromCode code = .authenticationError ∨
      OpaqueError.fromCode code = .invalidPublicKey ∨
      (∃ details, OpaqueError.fromCode code = .invalidInput details) ∨
      ∃ details, OpaqueError.fromCode code = .cryptoError details := by
  simp only [clientCodes, List.mem_cons, List.not_mem_nil, or_false] at hmem
  rcases hmem with rfl | rfl | rfl | rfl | rfl | rfl | rfl
  · exact absurd rfl hne
  · exact .inr (.inr (.inl ⟨_, rfl⟩))
  · exact .inr (.inr (.inr ⟨_, rfl⟩))
  · exact .inl rfl
  · exact .inr (.inl rfl)
  · exact .inr (.inr (.inl ⟨_, rfl⟩))
  · exact .inr (.inr (.inr ⟨_, rfl⟩))

omit [DecidableEq ι] in
theorem Ended.reported {job : Job} {result : Result} (hended : Ended job w i result) :
    Reported job w i result := by
  refine ⟨hended, ?_, ?_, ?_⟩ <;> cases hended with
  | rejected hrejection hcall =>
      rcases rejection_cases hrejection with rfl | ⟨details, rfl⟩ <;> nofun
  | @disposed o haccepted ho hmade hfield hcall =>
      first
        | exact fun _ => ⟨o, ho, hmade, hfield⟩
        | cases job <;> nofun
  | failed haccepted hstatus hmem hne =>
      rcases fromCode_cases (codes_subset job _ hmem) hne with
        h | h | ⟨details, h⟩ | ⟨details, h⟩ <;>
        rw [h] <;> nofun
  | done haccepted hstatus hlengths => nofun

/--
A job that has ended was rejected for its arguments, found an object disposed of, or made
one native call, whose code its result reports; the messages that it returns have their
documented lengths.  No code of the interface is without an error of its own.
-/
theorem job_reported (hbegin : Begins jobs start)
    (hrun : Run (Wrapper.Step (library P)) start history w) {result : Result}
    (hdone : w.routine i = .done result) : Reported (jobs i) w i result := by
  obtain ⟨⟨g, hs⟩, -⟩ := run_safe library_lawful hbegin.fresh hrun
  have hfits := hs.fits i
  have habides := hfits.abides
  rw [hdone] at habides
  obtain ⟨-, -, hreports⟩ := habides
  have hidle : ∀ native next, w.routine i ≠ .call native next := by simp [hdone]
  apply Ended.reported
  cases hreports with
  | rejected hrejection hcode => exact .rejected hrejection (hfits.call_eq_none hidle hcode)
  | disposed haccepted ho hmissing hcode =>
      obtain ⟨href, hnil⟩ := hfits.missing _ hmissing
      exact .disposed haccepted ho (hfits.refs _ href) hnil (hfits.call_eq_none hidle hcode)
  | failed haccepted hcode hmem hne =>
      exact .failed haccepted (hfits.returned hidle hcode) hmem hne
  | done haccepted hcode hlengths => exact .done haccepted (hfits.returned hidle hcode) hlengths

/-- The login returns a KE1. -/
theorem job_reported_sample : ∃ (w : Threads (Fin 4)) (bytes : List UInt8),
    Reported (sampleJob 2) w 2 (.ok [bytes]) ∧ bytes.length = 1273 ∧
      Reported (sampleJob 3) w 3 (.ok []) := by
  obtain ⟨history, w, bytes, hrun, hdone, -⟩ := sample_threads.2
  have hlogin := job_reported sampleStart_begins hrun (hdone 2)
  refine ⟨w, bytes, hlogin, ?_, job_reported sampleStart_begins hrun (hdone 3)⟩
  cases hlogin.ended with
  | done haccepted hstatus hlengths => exact (List.cons.inj hlengths).1

/-! ## Native objects -/

/-- What is there of the native objects when all jobs have ended. -/
structure Reclaimed (P : Primitives) (w : Threads ι) (past : List (Label ι Kind Store ℤ)) :
    Prop where
  live : ∀ h, w.pool.shared.live h = true ↔
    ∃ o, w.made o = true ∧ w.field o ≠ null ∧ h = ⟨o.place.kind, w.field o⟩
  wiped : ∀ l ∈ past, ∀ h, l.event = .freed h → w.pool.shared.live h = false →
    (Store.object h w.pool.shared.data).Wiped P

/--
When all jobs have ended, the native objects that are there are those whose pointers an agent
or a state still keeps, and those that were destroyed are wiped.
-/
theorem native_objects_reclaimed (hbegin : Begins jobs start)
    (hrun : Run (Wrapper.Step (library P)) start history w) (hfinished : ∀ i, w.Finished i) :
    Reclaimed P w (history.filterMap Act.native?) := by
  have hinterface := run_interface hbegin hrun
  constructor
  · exact run_reclaims library_lawful library_thrifty hbegin.fresh hbegin.live hrun hfinished
  · refine (Ffi.calls_kept hbegin.quiet (fun h hlive => ?_) hinterface).gone
    rw [hbegin.live h] at hlive
    cases hlive

/-- The client's object is there, and that of the state is not. -/
theorem native_objects_reclaimed_sample : ∃ (w : Threads (Fin 4))
    (past : List (Label (Fin 4) Kind Store ℤ)), Reclaimed Core.Sample.primitives w past ∧
      w.pool.shared.live ⟨.agent, 1⟩ = true ∧ w.pool.shared.live ⟨.agentState, 1⟩ = false := by
  obtain ⟨history, w, bytes, hrun, hdone, -, hmade, hfield, hgone⟩ := sample_threads.2
  have hreclaimed := native_objects_reclaimed sampleStart_begins hrun fun i => .inl ⟨_, hdone i⟩
  refine ⟨w, _, hreclaimed, (hreclaimed.live _).mpr ⟨.agent sampleAgent, ?_, ?_, ?_⟩,
    Bool.eq_false_iff.mpr fun hlive => ?_⟩
  · rw [hmade]
    rfl
  · rw [hfield]
    decide
  · rw [hfield]
    rfl
  · obtain ⟨o, ho, hkept, hhandle⟩ := (hreclaimed.live _).mp hlive
    rw [hmade] at ho
    cases o with
    | agent handle => cases congrArg Handle.kind hhandle
    | state handle =>
        by_cases hsame : handle = sampleState
        · exact hkept (hsame ▸ hgone)
        · simp [sampleMade, hsame] at ho

end Runs

end AuraOpaque.Swift
