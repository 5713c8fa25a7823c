import AuraOpaque.Agent.Rejections
import AuraOpaque.Ffi.Export

/-!
# Codes of a rejected answer

Which answers of a relay `opaque_agent_generate_ke3` rejects with the shared
code, on any session that its other entry points have brought to wait for one.
-/

namespace AuraOpaque.Ffi

open AuraOpaque.Foundation AuraOpaque.Core
open Agent (OpaqueInitiator PendingKe2 Indistinct)

/-! ## Parts of a session call -/

section Parts

variable {strike : Strike AgentStateHandle} {data : Store}

theorem onAgentState_performs_of {handle : ℕ} {operation : Op Memory AgentStateHandle Unit}
    {good : ℤ → Store → Prop}
    (h : ∀ r, r = runAgentStateful operation
      ⟨data.memory, data.agentStates handle, data.world⟩ →
      good r.1 (withAgentFrame data handle r.2)) :
    Program.Performs good data (onAgentState handle operation) :=
  ⟨_, rfl, h _ rfl⟩

theorem onSession_err {H St Out : Type} {read : H → St} {write : St → H → H} {out : Out}
    {c : Op Out St Unit} {f g : Frame Memory H} {e : OpaqueError}
    (h : (onSession read write out c).run f = (.err e, g)) :
    ∃ cf, c.run ⟨out, read f.state, f.world⟩ = (.err e, cf) := by
  rw [onSession] at h
  rcases hrun : c.run ⟨out, read f.state, f.world⟩ with ⟨_ | e | _, cf⟩ <;>
    simp only [hrun] at h <;> cases h
  exact ⟨cf, rfl⟩

end Parts

/-! ## The session that waits -/

section Waiting

variable {P : Primitives} {strike : Strike AgentStateHandle} {data : Store}
  {fresh : Process → ℕ}

theorem generateKe1_leaves_pending (args : GenerateKe1) :
    AdmitsTo .agentState args.stateHandle data
      (fun code data' => code = 0 → PendingKe2 P (data'.agentStates args.stateHandle).state)
      (opaqueAgentGenerateKe1 P args strike) := by
  unfold opaqueAgentGenerateKe1
  refine .rejectIf fun _ => .rejectIf fun _ => .acquireAgent (by decide) (.acquireSession ?_)
  refine onAgentState_performs_of fun r hr hzero => ?_
  have hbody : KeepsMemory (do
      let memory ← Op.getOut
      let ke1 ← onInitiator .new (Agent.generateKe1 P
        (memory.read args.secureKey args.secureKeyLength)
        (memory.read args.accountId args.accountIdLength))
      Cmd.lift (Cmd.fill (zeros Core.ke1Length)
        (Protocol.writeKe1 ke1.credentialRequest.toList ke1.initiatorPublicKey.toList
          ke1.initiatorNonce.toList ke1.pqEphemeralPublicKey.toList)) :
      Op Memory AgentStateHandle _) := fun m =>
    .bind (fun _ hf => hf) fun _ => .bind (KeepsMemory.onSession m) fun _ _ hf => hf
  rcases @runStateful_cases _ _ invalidateAgentState strike _
    (fun wire => copyNonoverlapping wire.toList args.ke1Out) hbody (fun _ _ => ⟨_, rfl⟩)
    ⟨data.memory, data.agentStates args.stateHandle, data.world⟩ with
    ⟨wire, g, g', hrun, hdone, hok⟩ | ⟨code, sh, w, hcode, hfail⟩
  · obtain rfl : r = (0, g') := hr.trans hok
    rw [Cmd.run_bind_ok (Op.run_getOut _)] at hrun
    obtain ⟨cf, hlibrary, -, rfl⟩ := onSession_fill_ok hrun
    cases hdone
    rw [withAgentFrame_agentStates]
    exact Agent.generateKe1_pending P _ () cf trivial hlibrary
  · obtain rfl := hr.trans hfail
    exact absurd hzero hcode

variable {handle createdAt : ℕ} {sh sh' : AgentStateHandle} {v : Visit} {history : List Visit}

def WaitsPending (P : Primitives) (sh : AgentStateHandle) : Prop :=
  sh.state.phase = .ke1Generated → PendingKe2 P sh.state

theorem AgentStep.waitsPending (h : AgentStep P fresh handle sh v sh') (hs : WaitsPending P sh) :
    WaitsPending P sh' := by
  intro hphase
  obtain ⟨call, strike, hcall, ⟨-, -, rfl⟩ | ⟨-, hcode, -, -, htarget, -⟩ | ⟨-, -, hdead, -⟩⟩ :=
    h.cases
  · exact hs hphase
  · rw [hphase] at htarget
    cases call with
    | generateKe1 args =>
        obtain ⟨hhandle, rfl, rfl⟩ := h
        obtain ⟨_, s⟩ := v
        obtain rfl := hcall
        obtain rfl : args.stateHandle = handle := congrArg Handle.address hhandle
        rcases (@generateKe1_leaves_pending P strike s.data args).exec fresh
          List.not_mem_nil with ⟨-, hrefused, -⟩ | ⟨-, hpending⟩
        · exact absurd hcode hrefused
        · exact hpending hcode
    | _ => cases htarget
  · rw [hdead.phase] at hphase
    cases hphase

theorem run_waitsPending (hrun : AgentVisits P fresh handle createdAt history sh) :
    WaitsPending P sh :=
  hrun.stateInvariant nofun fun _ _ _ hs hstep => hstep.waitsPending hs

end Waiting

/-! ## The answer -/

section Answer

variable {P : Primitives} {strike : Strike AgentStateHandle} {data : Store}
  {fresh : Process → ℕ}

/-- The code of an admitted call is that of the library, unless something panics. -/
theorem generateKe3_code (args : GenerateKe3) :
    AdmitsTo .agentState args.stateHandle data
      (fun code _ => args.ke2Length = ke2Length ∧ (code = 0 ∨ code = ffiPanic ∨
        ∃ e f', (Agent.generateKe3 P (data.agents args.agentHandle)
            (data.memory.read args.ke2 args.ke2Length)).run
              ⟨.new, (data.agentStates args.stateHandle).state, data.world⟩ = (.err e, f') ∧
          code = e.toCInt))
      (opaqueAgentGenerateKe3 P args strike) := by
  unfold opaqueAgentGenerateKe3
  refine .rejectIf fun hwell => .acquireAgent (by decide) (.acquireSession ?_)
  have hlength : args.ke2Length = ke2Length := by
    simp only [GenerateKe3.Malformed, not_or, not_not] at hwell
    exact hwell.2.1
  refine onAgentState_performs_of fun r hr => ⟨hlength, ?_⟩
  subst hr
  unfold runAgentStateful runStateful
  rcases hrun : (generateKe3Operation P (data.agents args.agentHandle) args strike).run
    ⟨data.memory, data.agentStates args.stateHandle, data.world⟩ with ⟨_ | e | _, f'⟩
  · exact .inl rfl
  · refine .inr (.inr ?_)
    cases strike with
    | some left => cases hrun
    | none =>
        rcases Cmd.run_bind_eq_err_iff.mp hrun with hbody | ⟨_, _, -, hcommit⟩
        · dsimp only [beforeCommit] at hbody
          rw [Cmd.run_bind_ok (Op.run_getOut _)] at hbody
          dsimp only at hbody
          rw [Cmd.run_bind_ok (Op.run_modifyState _ _)] at hbody
          rcases Cmd.run_bind_eq_err_iff.mp hbody with hlibrary | ⟨ke3, g, -, hfill⟩
          · obtain ⟨cf, hlibrary⟩ := onSession_err hlibrary
            exact ⟨e, cf, hlibrary, rfl⟩
          · have hsized : Protocol.Sized [macLength] [ke3.initiatorMac.toList] := by
              simp [Protocol.Sized]
            rw [Cmd.run_lift,
              (Protocol.writeKe3_writes hsized le_rfl).fill hsized.encode_length] at hfill
            cases hfill
        · cases hcommit
  · exact .inr (.inl rfl)

variable {handle createdAt : ℕ} {sh sh' : AgentStateHandle} {v : Visit} {history : List Visit}
  {args : GenerateKe3} {key : List UInt8}

/--
Any session that waits for its answer, and any answer of the right length and version that is
rejected: the code is the shared one if and only if the answer gets as far as its envelope, and
that opens to a scalar or not at all.  A session without an account rejects them all alike.
-/
theorem rejected_ke2_code_iff (hrun : AgentVisits P fresh handle createdAt history sh)
    (hphase : sh.state.phase = .ke1Generated) (hstep : AgentStep P fresh handle sh v sh')
    (hcall : v.call = .agent (.generateKe3 args) strike)
    (hagent : OpaqueInitiator.new P key = .ok (v.before.data.agents args.agentHandle))
    (hunexpired : lifetimeOver sh.state.createdAt (v.before.data.world.clock 0) = false)
    (hversion : (v.before.data.memory.read args.ke2 args.ke2Length).head? = some protocolVersion)
    (hadmitted : v.Admitted P fresh) (hrejected : v.code P fresh ≠ 0)
    (hpanic : v.code P fresh ≠ ffiPanic) :
    v.code P fresh = -5 ↔
      isAllZero sh.state.accountContextHash.toList = true ∨
      ∃ ke2, Protocol.parseKe2 (v.before.data.memory.read args.ke2 args.ke2Length) = .ok ke2 ∧
        Indistinct P (v.before.data.agents args.agentHandle) sh.state ke2 := by
  obtain ⟨hhandle, rfl, rfl⟩ := hstep
  obtain ⟨_, s⟩ := v
  obtain rfl := hcall
  obtain rfl : args.stateHandle = handle := congrArg Handle.address hhandle
  have hpending := run_waitsPending hrun hphase
  rcases (@generateKe3_code P strike s.data args).exec fresh List.not_mem_nil with
    ⟨hout, -, -⟩ | ⟨-, hlength, hzero | hstruck | ⟨e, f', hlibrary, hcode⟩⟩
  · exact absurd hadmitted hout
  · exact absurd hzero hrejected
  · exact absurd hstruck hpanic
  have hcode : (Visit.mk (.agent (.generateKe3 args) strike) s).code P fresh = e.toCInt := hcode
  obtain ⟨ke2, hparse⟩ := Protocol.parseKe2_reads.exists_ok
    ((Memory.length_read _ _ _).trans hlength) (Protocol.checkVersion_of_head hversion)
  rw [hcode, Agent.generateKe3_err_iff hpending hphase hunexpired
    (OpaqueInitiator.new_ok P hagent) hparse hlibrary]
  refine or_congr_right ⟨fun h => ⟨ke2, hparse, h⟩, ?_⟩
  rintro ⟨ke2', hparse', h⟩
  obtain rfl := Outcome.ok.inj (hparse.symm.trans hparse')
  exact h

/-! ### On the small instance -/

def sampleKe1Visit : Visit where
  call := .agent sampleKe1Call none
  before := sampleProcess

theorem exists_sampleWaiting :
    ∃ (d : Agent.LoginDraws Sample.primitives) (sh : AgentStateHandle),
      AgentVisits Sample.primitives (fun _ => 1) 1 0 [sampleKe1Visit] sh ∧
        d.Awaits [0] [0] sh.state ∧ Agent.AwaitsKe2 ⟨.new, sh.state, Sample.world 0⟩ := by
  obtain ⟨d, cf, hs, hawaits, hlibrary⟩ :=
    @sampleKe1_run sampleProcess rfl rfl rfl rfl
  obtain ⟨hstep, -⟩ := @LeavesAgent.step Sample.primitives (fun _ => 1)
    sampleKe1Call sampleProcess _
    (generateKe1_commits (by decide) (by decide) ⟨by decide, by decide, rfl, rfl⟩ hlibrary)
  exact ⟨d, ⟨cf.state, false⟩, .single hstep, hs, hawaits⟩

theorem generateKe3Operation_err {initiator : OpaqueInitiator} {args : GenerateKe3}
    {f : Frame Memory AgentStateHandle} {e : OpaqueError}
    {cf : Frame Agent.Ke3Message Agent.InitiatorState}
    (h : (Agent.generateKe3 P initiator (f.out.read args.ke2 args.ke2Length)).run
      ⟨.new, f.state.state, f.world⟩ = (.err e, cf)) :
    (runAgentStateful (generateKe3Operation P initiator args none) f).1 = e.toCInt := by
  obtain ⟨g, hsession⟩ : ∃ g, (onInitiator .new (Agent.generateKe3 P initiator
      (f.out.read args.ke2 args.ke2Length))).run
        ⟨f.out, { f.state with ke3Exported := false }, f.world⟩ = (.err e, g) := by
    unfold onInitiator onSession
    dsimp only
    rw [h]
    exact ⟨_, rfl⟩
  unfold runAgentStateful runStateful generateKe3Operation beforeCommit
  rw [Cmd.bind_assoc, Cmd.run_bind_ok (Op.run_getOut _), Cmd.bind_assoc,
    Cmd.run_bind_ok (Op.run_modifyState _ _), Cmd.bind_assoc, Cmd.run_bind_err hsession]

/-- The version, and zeros. -/
def sampleKe2 : List UInt8 :=
  Protocol.encode [(zeros nonceLength).toList, (zeros publicKeyLength).toList,
    (zeros credentialResponseLength).toList, (zeros macLength).toList,
    (zeros kemCiphertextLength).toList]

theorem sampleKe2_length : sampleKe2.length = 1377 := by
  have hsized : Protocol.Sized Protocol.ke2FieldLengths [(zeros nonceLength).toList,
      (zeros publicKeyLength).toList, (zeros credentialResponseLength).toList,
      (zeros macLength).toList, (zeros kemCiphertextLength).toList] := by
    simp only [Protocol.Sized, List.map_cons, List.map_nil, List.Vector.toList_length]
  exact hsized.encode_length

/-- The answer is in the caller's memory. -/
def sampleKe3Visit (ke2Data : List UInt8) (sh : AgentStateHandle) : Visit where
  call := .agent sampleKe3Call none
  before := sampleFinds Agent.sampleInitiator sh (.newAt 0)
    (sampleProcess.data.memory.write 5000 ke2Data) (Sample.world 0)

theorem sampleKe3Visit_read {ke2Data : List UInt8} (hlength : ke2Data.length = 1377)
    (sh : AgentStateHandle) :
    (sampleKe3Visit ke2Data sh).before.data.memory.read 5000 1377 = ke2Data := by
  rw [← hlength]
  exact Memory.read_write

theorem sampleKe3Visit_code {ke2Data : List UInt8} {sh : AgentStateHandle} {e : OpaqueError}
    {cf : Frame Agent.Ke3Message Agent.InitiatorState} (hlength : ke2Data.length = 1377)
    (hlibrary : (Agent.generateKe3 Sample.primitives Agent.sampleInitiator ke2Data).run
      ⟨.new, sh.state, Sample.world 0⟩ = (.err e, cf)) :
    (sampleKe3Visit ke2Data sh).code Sample.primitives (fun _ => 1) = e.toCInt ∧
      (sampleKe3Visit ke2Data sh).Admitted Sample.primitives (fun _ => 1) := by
  have hprogram : (sampleKe3Visit ke2Data sh).call.program Sample.primitives =
      (acquireAgent 1 >>= fun initiator => acquireAgentState 1 >>= fun _ => onAgentState 1
        (generateKe3Operation Sample.primitives initiator ⟨1, 5000, 1377, 1, 7000, 65⟩ none)) := by
    change opaqueAgentGenerateKe3 _ _ _ = _
    rw [opaqueAgentGenerateKe3, Entry.rejectIf_neg (by decide)]
  obtain ⟨hcode, -, hacquired⟩ := @session_exec (fun _ => 1) (sampleKe3Visit ke2Data sh).before 1 1
    (fun initiator =>
      generateKe3Operation Sample.primitives initiator ⟨1, 5000, 1377, 1, 7000, 65⟩ none)
    (sampleFinds_idle (by decide) (by decide))
  have herr := @generateKe3Operation_err Sample.primitives Agent.sampleInitiator
    ⟨1, 5000, 1377, 1, 7000, 65⟩
    ⟨(sampleKe3Visit ke2Data sh).before.data.memory, sh, Sample.world 0⟩ e cf
    (by simpa only [sampleKe3Visit_read hlength] using hlibrary)
  rw [Visit.code, Visit.Admitted, Visit.ending, hprogram]
  exact ⟨hcode.trans herr, hacquired⟩

theorem sampleKe2_code {sh : AgentStateHandle}
    (hawaits : Agent.AwaitsKe2 ⟨.new, sh.state, Sample.world 0⟩) :
    (sampleKe3Visit sampleKe2 sh).code Sample.primitives (fun _ => 1) = -6 ∧
      (sampleKe3Visit sampleKe2 sh).Admitted Sample.primitives (fun _ => 1) := by
  obtain ⟨_, hresponder, -⟩ := Outcome.bind_eq_ok_iff.mp Agent.new_sampleInitiator
  obtain ⟨cf, hlibrary⟩ := Agent.generateKe3_run_of_read sampleKe2_length hawaits
    (Agent.readKe2_of_identity hresponder)
  exact sampleKe3Visit_code sampleKe2_length hlibrary

/-- A waiting session refuses an answer of zeros with the code of a bad public key. -/
theorem rejected_ke2_reveals_stage : ∃ sh : AgentStateHandle,
    AgentVisits Sample.primitives (fun _ => 1) 1 0 [sampleKe1Visit] sh ∧
      sh.state.phase = .ke1Generated ∧
      (∃ sh', AgentStep Sample.primitives (fun _ => 1) 1 sh (sampleKe3Visit sampleKe2 sh) sh') ∧
      OpaqueInitiator.new Sample.primitives (Sample.encode 31 1).toList =
        .ok ((sampleKe3Visit sampleKe2 sh).before.data.agents 1) ∧
      lifetimeOver sh.state.createdAt
        ((sampleKe3Visit sampleKe2 sh).before.data.world.clock 0) = false ∧
      (sampleKe3Visit sampleKe2 sh).before.data.memory.read 5000 1377 = sampleKe2 ∧
      sampleKe2.length = ke2Length ∧ sampleKe2.head? = some protocolVersion ∧
      (sampleKe3Visit sampleKe2 sh).Admitted Sample.primitives (fun _ => 1) ∧
      (sampleKe3Visit sampleKe2 sh).code Sample.primitives (fun _ => 1) = -6 := by
  obtain ⟨d, sh, hvisits, hs, hawaits⟩ := exists_sampleWaiting
  obtain ⟨hcode, hadmitted⟩ := sampleKe2_code hawaits
  exact ⟨sh, hvisits, hs.phase, ⟨_, rfl, rfl, rfl⟩, Agent.new_sampleInitiator, hawaits.unexpired,
    sampleKe3Visit_read sampleKe2_length sh, sampleKe2_length, rfl, hadmitted, hcode⟩

/--
One waiting session and two answers.  The one of zeros never gets to an envelope,
the other one has an envelope that does not open.
-/
theorem rejected_ke2_code_iff_sample : ∃ (sh : AgentStateHandle) (unopened : List UInt8),
    unopened.length = ke2Length ∧
    (sampleKe3Visit sampleKe2 sh).code Sample.primitives (fun _ => 1) = -6 ∧
    (¬ ∃ ke2, Protocol.parseKe2 sampleKe2 = .ok ke2 ∧
      Indistinct Sample.primitives Agent.sampleInitiator sh.state ke2) ∧
    (sampleKe3Visit unopened sh).code Sample.primitives (fun _ => 1) = -5 ∧
    ∃ ke2, Protocol.parseKe2 unopened = .ok ke2 ∧
      Indistinct Sample.primitives Agent.sampleInitiator sh.state ke2 := by
  obtain ⟨d, sh, hvisits, hs, hawaits⟩ := exists_sampleWaiting
  obtain ⟨_, hresponder, -⟩ := Outcome.bind_eq_ok_iff.mp Agent.new_sampleInitiator
  obtain ⟨unopened, hlength, hversion, hlibrary⟩ := Agent.exists_unopened hs hawaits rfl hresponder
    (Agent.sample_stretches rfl) Agent.sample_unopenable
  obtain ⟨hcode, hadmitted⟩ := sampleKe2_code hawaits
  obtain ⟨hcode', hadmitted'⟩ := sampleKe3Visit_code hlength hlibrary
  have hread := sampleKe3Visit_read sampleKe2_length sh
  have hread' := sampleKe3Visit_read hlength sh
  refine ⟨sh, unopened, hlength, hcode, fun hindistinct => ?_, hcode', ?_⟩
  · have hshared := (rejected_ke2_code_iff hvisits hs.phase ⟨rfl, rfl, rfl⟩ rfl
      Agent.new_sampleInitiator hawaits.unexpired (by rw [hread]; rfl) hadmitted
      (by rw [hcode]; decide) (by rw [hcode]; decide)).mpr (.inr (by rwa [hread]))
    rw [hcode] at hshared
    exact absurd hshared (by decide)
  · rcases (rejected_ke2_code_iff hvisits hs.phase ⟨rfl, rfl, rfl⟩ rfl Agent.new_sampleInitiator
      hawaits.unexpired (by rw [hread']; exact hversion) hadmitted' (by rw [hcode']; decide)
      (by rw [hcode']; decide)).mp hcode' with hhash | hindistinct
    · rw [hawaits.accountContextHash] at hhash
      cases hhash
    · rwa [hread'] at hindistinct

end Answer

end AuraOpaque.Ffi
