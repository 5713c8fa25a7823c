import AuraOpaque.Ffi.Contract

/-!
# Calls that commit

Once the library has done its part, nothing can fail any more.  A well-formed
call that finds both its handles free returns zero as soon as its operation
succeeds, and the session behind the handle is the one that the library left.
-/

namespace AuraOpaque.Ffi

open AuraOpaque.Foundation AuraOpaque.Core
open Agent (OpaqueInitiator InitiatorState)
open Relay (OpaqueResponder ResponderCredentials ResponderState)

variable {P : Primitives}

/-! ## Operations -/

section Operations

variable {H St Out : Type} {read : H → St} {write : St → H → H} {out : Out} {c : Op Out St Unit}
  {f : Frame Memory H} {cf : Frame Out St}

theorem runStateful_of_ok {invalidate : H → H} {operation : Op Memory H Unit}
    {f' : Frame Memory H} (h : operation.run f = (.ok (), f')) :
    runStateful invalidate operation f = (0, f') := by
  rw [runStateful, h]

/-- The library's output, written into a buffer of the length that it has on the wire. -/
theorem onSession_fill_run {n : ℕ} {serialize : Out → Cmd OpaqueError (Bytes n) Unit}
    {wire : Bytes n} (hlibrary : c.run ⟨out, read f.state, f.world⟩ = (.ok (), cf))
    (hfill : Cmd.fill (zeros n) (serialize cf.out) = .ok wire) :
    (onSession read write out c >>= fun o =>
      (Cmd.lift (Cmd.fill (zeros n) (serialize o)) : Op Memory H (Bytes n))).run f =
        (.ok wire, { f with state := write cf.state f.state, world := cf.world }) := by
  have hsession : (onSession read write out c).run f = (.ok cf.out, _) := onSession_run hlibrary
  rw [Cmd.run_bind_ok hsession, Cmd.run_lift, hfill]

end Operations

section AgentOperations

variable {f : Frame Memory AgentStateHandle}

theorem generateKe1Operation_run {args : GenerateKe1} {cf : Frame Agent.Ke1Message InitiatorState}
    (h : (Agent.generateKe1 P (f.out.read args.secureKey args.secureKeyLength)
      (f.out.read args.accountId args.accountIdLength)).run ⟨.new, f.state.state, f.world⟩ =
        (.ok (), cf)) :
    runAgentStateful (generateKe1Operation P args none) f =
      (0, ⟨f.out.write args.ke1Out (Protocol.encode [cf.out.credentialRequest.toList,
        cf.out.initiatorPublicKey.toList, cf.out.initiatorNonce.toList,
        cf.out.pqEphemeralPublicKey.toList]), { f.state with state := cf.state }, cf.world⟩) := by
  have hsized : Protocol.Sized Protocol.ke1FieldLengths
      [cf.out.credentialRequest.toList, cf.out.initiatorPublicKey.toList,
        cf.out.initiatorNonce.toList, cf.out.pqEphemeralPublicKey.toList] := by
    simp [Protocol.Sized]
  have hfill := (Protocol.writeKe1_writes hsized le_rfl).fill hsized.encode_length
    (zeros Core.ke1Length)
  refine runStateful_of_ok ?_
  unfold generateKe1Operation beforeCommit onInitiator
  rw [Cmd.bind_assoc, Cmd.run_bind_ok (Op.run_getOut _),
    Cmd.run_bind_ok (onSession_fill_run h hfill)]
  rfl

theorem generateKe3Operation_run {initiator : OpaqueInitiator} {args : GenerateKe3}
    {cf : Frame Agent.Ke3Message InitiatorState}
    (h : (Agent.generateKe3 P initiator (f.out.read args.ke2 args.ke2Length)).run
      ⟨.new, f.state.state, f.world⟩ = (.ok (), cf)) :
    runAgentStateful (generateKe3Operation P initiator args none) f =
      (0, ⟨f.out.write args.ke3Out (Protocol.encode [cf.out.initiatorMac.toList]),
        { state := cf.state, ke3Exported := true }, cf.world⟩) := by
  have hsized : Protocol.Sized [macLength] [cf.out.initiatorMac.toList] := by
    simp [Protocol.Sized]
  have hfill := (Protocol.writeKe3_writes hsized le_rfl).fill hsized.encode_length
    (zeros Core.ke3Length)
  have hsent := @onSession_fill_run _ _ _ AgentStateHandle.state (fun state sh => { sh with state })
    _ _ ⟨f.out, ⟨f.state.state, false⟩, f.world⟩ cf _
    (fun ke3 => Protocol.writeKe3 ke3.initiatorMac.toList) _ h hfill
  refine runStateful_of_ok ?_
  unfold generateKe3Operation beforeCommit onInitiator
  rw [Cmd.bind_assoc, Cmd.run_bind_ok (Op.run_getOut _), Cmd.bind_assoc,
    Cmd.run_bind_ok (Op.run_modifyState _ _), Cmd.run_bind_ok hsent]
  rfl

/-- The flag on the handle is looked at before the library is called. -/
theorem agentFinishOperation_run {args : AgentFinish}
    {cf : Frame Agent.SessionOutput InitiatorState} (hexported : f.state.ke3Exported = true)
    (h : Agent.initiatorFinish.run ⟨⟨zeros _, zeros _⟩, f.state.state, f.world⟩ = (.ok (), cf)) :
    runAgentStateful (agentFinishOperation args none) f =
      (0, ⟨(f.out.write args.sessionKeyOut cf.out.sessionKey.toList).write args.exportKeyOut
        cf.out.exportKey.toList, { state := cf.state, ke3Exported := false }, cf.world⟩) := by
  have hsession : (onInitiator ⟨zeros _, zeros _⟩ Agent.initiatorFinish).run f = (.ok cf.out, _) :=
    onSession_run h
  refine runStateful_of_ok ?_
  unfold agentFinishOperation beforeCommit
  rw [Cmd.bind_assoc, Cmd.run_bind_ok (Op.run_getState _), Cmd.bind_assoc,
    Cmd.run_bind_ok (by rw [Cmd.run_failIf, Outcome.failIf_neg _ (by simp [hexported])]),
    Cmd.run_bind_ok hsession]
  rfl

end AgentOperations

section RelayOperations

variable {f : Frame Memory ResponderState}

theorem generateKe2Operation_run {responder : OpaqueResponder} {creds : ResponderCredentials}
    {args : RelayGenerateKe2} {cf : Frame Relay.Ke2Message ResponderState}
    (h : (Relay.generateKe2 P responder (f.out.read args.ke1Data args.ke1Length)
      (f.out.read args.accountId args.accountIdLength) creds).run ⟨.new, f.state, f.world⟩ =
        (.ok (), cf)) :
    runRelayStateful (generateKe2Operation P responder creds args none) f =
      (0, ⟨f.out.write args.ke2Data (Protocol.encode [cf.out.responderNonce.toList,
        cf.out.responderPublicKey.toList, cf.out.credentialResponse.toList,
        cf.out.responderMac.toList, cf.out.kemCiphertext.toList]), cf.state, cf.world⟩) := by
  have hsized : Protocol.Sized Protocol.ke2FieldLengths
      [cf.out.responderNonce.toList, cf.out.responderPublicKey.toList,
        cf.out.credentialResponse.toList, cf.out.responderMac.toList,
        cf.out.kemCiphertext.toList] := by
    simp [Protocol.Sized]
  have hfill := (Protocol.writeKe2_writes hsized le_rfl).fill hsized.encode_length
    (zeros ke2Length)
  refine runStateful_of_ok ?_
  unfold generateKe2Operation beforeCommit onResponder
  rw [Cmd.bind_assoc, Cmd.run_bind_ok (Op.run_getOut _),
    Cmd.run_bind_ok (onSession_fill_run h hfill)]
  rfl

theorem relayFinishOperation_run {args : RelayFinish} {cf : Frame (Bytes hashLength) ResponderState}
    (h : (Relay.responderFinish (f.out.read args.ke3Data args.ke3Length)).run
      ⟨zeros hashLength, f.state, f.world⟩ = (.ok (), cf)) :
    runRelayStateful (relayFinishOperation args none) f =
      (0, ⟨f.out.write args.sessionKey cf.out.toList, cf.state, cf.world⟩) := by
  have hsession : (onResponder (zeros hashLength) (Relay.responderFinish
      (f.out.read args.ke3Data args.ke3Length))).run f =
        (.ok cf.out, ⟨f.out, cf.state, cf.world⟩) :=
    @onSession_run _ _ _ id (fun state _ => state) _ _ f cf (.ok ()) h
  refine runStateful_of_ok ?_
  unfold relayFinishOperation beforeCommit
  rw [Cmd.bind_assoc, Cmd.run_bind_ok (Op.run_getOut _), Cmd.run_bind_ok hsession]
  rfl

end RelayOperations

/-! ## Calls on free handles -/

/-- What a call works with and the session that it works on are there, and in nobody's use. -/
structure Idle (s : Process) (object session : Handle Kind) : Prop where
  object_ne_null : object.address ≠ null
  session_ne_null : session.address ≠ null
  object_free : s.inUse object = false
  session_free : s.inUse session = false

section Agent

variable {fresh : Process → ℕ} {s : Process}

/-- A call that finds both its handles free does its one step. -/
theorem session_exec {agentHandle stateHandle : ℕ}
    {operation : OpaqueInitiator → Op Memory AgentStateHandle Unit}
    (hidle : Idle s ⟨.agent, agentHandle⟩ ⟨.agentState, stateHandle⟩) :
    let e := (acquireAgent agentHandle >>= fun initiator => acquireAgentState stateHandle >>=
      fun _ => onAgentState stateHandle (operation initiator)).exec fresh [] [] s
    let r := runAgentStateful (operation (s.data.agents agentHandle))
      ⟨s.data.memory, s.data.agentStates stateHandle, s.data.world⟩
    e.code = r.1 ∧ e.shared.data = withAgentFrame s.data stateHandle r.2 ∧
      ⟨.agentState, stateHandle⟩ ∈ e.acquired := by
  have hother : (⟨.agentState, stateHandle⟩ : Handle Kind) ≠ ⟨.agent, agentHandle⟩ := nofun
  unfold acquireAgent acquireAgentState acquire
  rw [if_neg hidle.object_ne_null, if_neg hidle.session_ne_null]
  simp only [Program.acquire_bind, Program.act_bind, Program.ret_bind, Program.exec,
    hidle.object_free, if_true, Shared.lock_inUse_of_ne hother, hidle.session_free, onAgentState]
  exact ⟨rfl, Shared.unlockAll_data _ _, by simp⟩

/-- The call was admitted to the session, returned zero, and left this behind the handle. -/
structure LeavesAgent (handle : ℕ) (sh : AgentStateHandle)
    (e : Program.Ending Kind Store ℤ) : Prop where
  code : e.code = 0
  session : e.shared.data.agentStates handle = sh
  admitted : ⟨.agentState, handle⟩ ∈ e.acquired

theorem session_leaves {agentHandle stateHandle : ℕ}
    {operation : OpaqueInitiator → Op Memory AgentStateHandle Unit}
    {f : Frame Memory AgentStateHandle}
    (hidle : Idle s ⟨.agent, agentHandle⟩ ⟨.agentState, stateHandle⟩)
    (hrun : runAgentStateful (operation (s.data.agents agentHandle))
      ⟨s.data.memory, s.data.agentStates stateHandle, s.data.world⟩ = (0, f)) :
    LeavesAgent stateHandle f.state
      ((acquireAgent agentHandle >>= fun initiator => acquireAgentState stateHandle >>=
        fun _ => onAgentState stateHandle (operation initiator)).exec fresh [] [] s) := by
  have hexec := @session_exec fresh s _ _ operation hidle
  rw [hrun] at hexec
  obtain ⟨hcode, hdata, hadmitted⟩ := hexec
  exact ⟨hcode, by rw [hdata, withAgentFrame_agentStates], hadmitted⟩

/-- A well-formed call takes the flag of its client first. -/
theorem generateKe1_program {args : GenerateKe1} {strike : Strike AgentStateHandle}
    (hkey : ¬ SecureKeyOutOfRange args.secureKeyLength) (hwell : ¬ args.Malformed)
    (hhandle : args.agentHandle ≠ null) :
    ∃ next, opaqueAgentGenerateKe1 P args strike = .acquire ⟨.agent, args.agentHandle⟩ next := by
  rw [opaqueAgentGenerateKe1, Entry.rejectIf_neg hkey, Entry.rejectIf_neg hwell]
  unfold acquireAgent acquire
  rw [if_neg hhandle]
  exact ⟨_, rfl⟩

theorem generateKe1_commits {args : GenerateKe1} {cf : Frame Agent.Ke1Message InitiatorState}
    (hkey : ¬ SecureKeyOutOfRange args.secureKeyLength) (hwell : ¬ args.Malformed)
    (hidle : Idle s ⟨.agent, args.agentHandle⟩ ⟨.agentState, args.stateHandle⟩)
    (hlibrary : (Agent.generateKe1 P (s.data.memory.read args.secureKey args.secureKeyLength)
      (s.data.memory.read args.accountId args.accountIdLength)).run
        ⟨.new, (s.data.agentStates args.stateHandle).state, s.data.world⟩ = (.ok (), cf)) :
    LeavesAgent args.stateHandle { s.data.agentStates args.stateHandle with state := cf.state }
      ((opaqueAgentGenerateKe1 P args none).exec fresh [] [] s) := by
  rw [opaqueAgentGenerateKe1, Entry.rejectIf_neg hkey, Entry.rejectIf_neg hwell]
  have hrun := @generateKe1Operation_run P
    ⟨s.data.memory, s.data.agentStates args.stateHandle, s.data.world⟩ args cf hlibrary
  exact @session_leaves fresh s _ _ (fun _ => generateKe1Operation P args none) _ hidle hrun

theorem generateKe3_commits {args : GenerateKe3} {cf : Frame Agent.Ke3Message InitiatorState}
    (hwell : ¬ args.Malformed)
    (hidle : Idle s ⟨.agent, args.agentHandle⟩ ⟨.agentState, args.stateHandle⟩)
    (hlibrary : (Agent.generateKe3 P (s.data.agents args.agentHandle)
      (s.data.memory.read args.ke2 args.ke2Length)).run
        ⟨.new, (s.data.agentStates args.stateHandle).state, s.data.world⟩ = (.ok (), cf)) :
    LeavesAgent args.stateHandle { state := cf.state, ke3Exported := true }
      ((opaqueAgentGenerateKe3 P args none).exec fresh [] [] s) := by
  rw [opaqueAgentGenerateKe3, Entry.rejectIf_neg hwell]
  have hrun := @generateKe3Operation_run P
    ⟨s.data.memory, s.data.agentStates args.stateHandle, s.data.world⟩ _ args cf hlibrary
  exact @session_leaves fresh s _ _ (fun initiator => generateKe3Operation P initiator args none)
    _ hidle hrun

theorem agentFinish_commits {args : AgentFinish} {cf : Frame Agent.SessionOutput InitiatorState}
    (hwell : ¬ args.Malformed)
    (hidle : Idle s ⟨.agent, args.agentHandle⟩ ⟨.agentState, args.stateHandle⟩)
    (hexported : (s.data.agentStates args.stateHandle).ke3Exported = true)
    (hlibrary : Agent.initiatorFinish.run
      ⟨⟨zeros _, zeros _⟩, (s.data.agentStates args.stateHandle).state, s.data.world⟩ =
        (.ok (), cf)) :
    LeavesAgent args.stateHandle { state := cf.state, ke3Exported := false }
      ((opaqueAgentFinish args none).exec fresh [] [] s) := by
  rw [opaqueAgentFinish, Entry.rejectIf_neg hwell]
  have hrun := @agentFinishOperation_run
    ⟨s.data.memory, s.data.agentStates args.stateHandle, s.data.world⟩ args cf hexported hlibrary
  exact @session_leaves fresh s _ _ (fun _ => agentFinishOperation args none) _ hidle hrun

end Agent

section Relay

variable {fresh : Process → ℕ} {s : Process}

structure LeavesRelay (handle : ℕ) (state : ResponderState)
    (e : Program.Ending Kind Store ℤ) : Prop where
  code : e.code = 0
  session : e.shared.data.relayStates handle = state
  admitted : ⟨.relayState, handle⟩ ∈ e.acquired

/-- The relay is held already, whatever else the call has done under its guard. -/
theorem relaySession_leaves {stateHandle : ℕ} {operation : Op Memory ResponderState Unit}
    {f : Frame Memory ResponderState} {guards acquired : List (Handle Kind)}
    (hstate : stateHandle ≠ null) (hfree : s.inUse ⟨.relayState, stateHandle⟩ = false)
    (hrun : runRelayStateful operation
      ⟨s.data.memory, s.data.relayStates stateHandle, s.data.world⟩ = (0, f)) :
    LeavesRelay stateHandle f.state ((acquireRelayState stateHandle >>=
      fun _ => onRelayState stateHandle operation).exec fresh guards acquired s) := by
  unfold acquireRelayState acquire
  rw [if_neg hstate]
  simp only [Program.acquire_bind, Program.ret_bind, Program.exec, hfree, if_true, onRelayState,
    Shared.lock_data, hrun]
  refine ⟨rfl, ?_, by simp⟩
  rw [Shared.unlockAll_data]
  exact Function.update_self _ _ _

/-- Login decodes once it has the relay, and only then turns to the session. -/
theorem generateKe2_exec {args : RelayGenerateKe2} {strike : Strike ResponderState}
    (hargs : ¬ args.Malformed ∧ ¬ args.BadCredentials) (hhandle : args.relayHandle ≠ null)
    (hfree : s.inUse ⟨.relay, args.relayHandle⟩ = false) :
    (opaqueRelayGenerateKe2 P args strike).exec fresh [] [] s =
      match decodeCredentials P (s.data.relays args.relayHandle)
        (s.data.memory.read args.credentialsData args.credentialsLength)
        args.credentialsLength with
      | .ok creds =>
          (acquireRelayState args.stateHandle >>= fun _ => onRelayState args.stateHandle
            (generateKe2Operation P (s.data.relays args.relayHandle) creds args strike)).exec fresh
              [⟨.relay, args.relayHandle⟩] [⟨.relay, args.relayHandle⟩]
              (s.lock ⟨.relay, args.relayHandle⟩)
      | .err code => ⟨code, (s.lock ⟨.relay, args.relayHandle⟩).unlock ⟨.relay, args.relayHandle⟩,
          [⟨.relay, args.relayHandle⟩]⟩
      | .panic => ⟨ffiPanic, (s.lock ⟨.relay, args.relayHandle⟩).unlock
          ⟨.relay, args.relayHandle⟩, [⟨.relay, args.relayHandle⟩]⟩ := by
  rw [opaqueRelayGenerateKe2, Entry.rejectIf_neg hargs.1, Entry.rejectIf_neg hargs.2]
  unfold acquireRelay acquire Entry.work
  rw [if_neg hhandle]
  simp only [Program.acquire_bind, Program.act_bind, Program.ret_bind, Program.exec, hfree, if_true,
    Cmd.run_bind, Cmd.run_get, Cmd.run_liftM, Shared.lock_data]
  rcases decodeCredentials P (s.data.relays args.relayHandle)
    (s.data.memory.read args.credentialsData args.credentialsLength) args.credentialsLength with
    creds | code | _
  · rfl
  · rfl
  · rfl

/-- A well-formed call takes the flag of its relay first. -/
theorem relayGenerateKe2_program {args : RelayGenerateKe2} {strike : Strike ResponderState}
    (hargs : ¬ args.Malformed ∧ ¬ args.BadCredentials) (hhandle : args.relayHandle ≠ null) :
    ∃ next, opaqueRelayGenerateKe2 P args strike = .acquire ⟨.relay, args.relayHandle⟩ next := by
  rw [opaqueRelayGenerateKe2, Entry.rejectIf_neg hargs.1, Entry.rejectIf_neg hargs.2]
  unfold acquireRelay acquire
  rw [if_neg hhandle]
  exact ⟨_, rfl⟩

theorem relayGenerateKe2_commits {args : RelayGenerateKe2} {creds : ResponderCredentials}
    {cf : Frame Relay.Ke2Message ResponderState}
    (hargs : ¬ args.Malformed ∧ ¬ args.BadCredentials)
    (hidle : Idle s ⟨.relay, args.relayHandle⟩ ⟨.relayState, args.stateHandle⟩)
    (hcreds : decodeCredentials P (s.data.relays args.relayHandle)
      (s.data.memory.read args.credentialsData args.credentialsLength) args.credentialsLength =
        .ok creds)
    (hlibrary : (Relay.generateKe2 P (s.data.relays args.relayHandle)
      (s.data.memory.read args.ke1Data args.ke1Length)
      (s.data.memory.read args.accountId args.accountIdLength) creds).run
        ⟨.new, s.data.relayStates args.stateHandle, s.data.world⟩ = (.ok (), cf)) :
    LeavesRelay args.stateHandle cf.state
      ((opaqueRelayGenerateKe2 P args none).exec fresh [] [] s) := by
  have hother : (⟨.relayState, args.stateHandle⟩ : Handle Kind) ≠ ⟨.relay, args.relayHandle⟩ :=
    nofun
  rw [generateKe2_exec hargs hidle.object_ne_null hidle.object_free, hcreds]
  have hrun := @generateKe2Operation_run P
    ⟨s.data.memory, s.data.relayStates args.stateHandle, s.data.world⟩ _ _ args cf hlibrary
  exact @relaySession_leaves fresh (s.lock ⟨.relay, args.relayHandle⟩) _ _ _ _ _
    hidle.session_ne_null ((Shared.lock_inUse_of_ne hother).trans hidle.session_free) hrun

theorem relayFinish_commits {args : RelayFinish} {cf : Frame (Bytes hashLength) ResponderState}
    (hwell : ¬ args.Malformed)
    (hidle : Idle s ⟨.relay, args.relayHandle⟩ ⟨.relayState, args.stateHandle⟩)
    (hlibrary : (Relay.responderFinish (s.data.memory.read args.ke3Data args.ke3Length)).run
      ⟨zeros hashLength, s.data.relayStates args.stateHandle, s.data.world⟩ = (.ok (), cf)) :
    LeavesRelay args.stateHandle cf.state ((opaqueRelayFinish args none).exec fresh [] [] s) := by
  have hother : (⟨.relayState, args.stateHandle⟩ : Handle Kind) ≠ ⟨.relay, args.relayHandle⟩ :=
    nofun
  rw [opaqueRelayFinish, Entry.rejectIf_neg hwell]
  unfold acquireRelay acquire
  rw [if_neg hidle.object_ne_null]
  simp only [Program.acquire_bind, Program.act_bind, Program.ret_bind, Program.exec,
    hidle.object_free, if_true]
  have hrun := @relayFinishOperation_run
    ⟨s.data.memory, s.data.relayStates args.stateHandle, s.data.world⟩ args cf hlibrary
  exact @relaySession_leaves fresh (s.lock ⟨.relay, args.relayHandle⟩) _ _ _ _ _
    hidle.session_ne_null ((Shared.lock_inUse_of_ne hother).trans hidle.session_free) hrun

/-- Without a record the relay answers for an account that is not registered. -/
theorem decodeCredentials_unregistered {responder : OpaqueResponder}
    (hkey : validatePublicKey P responder.keypair.publicKey.toList = .ok ())
    (input : List UInt8) : decodeCredentials P responder input 0 = .ok .new := by
  have hsized : Protocol.Sized [registrationCredentialLength, publicKeyLength]
      [List.replicate registrationCredentialLength 0, responder.keypair.publicKey.toList] := by
    simp only [Protocol.Sized, List.map_cons, List.map_nil, List.length_replicate,
      List.Vector.toList_length]
  obtain ⟨wire, hwire, hfill⟩ := @Protocol.exists_wire responderCredentialsLength _ _ _
    (Protocol.writeRegistrationRecord_writes hsized le_rfl) hsized rfl
  have hencode : Protocol.encode [List.replicate registrationCredentialLength 0,
      responder.keypair.publicKey.toList] = Protocol.encode [(zeros maskingKeyLength).toList,
        (zeros envelopeLength).toList, responder.keypair.publicKey.toList] := by
    rw [zeros_toList, zeros_toList]
    rfl
  have hparse : Protocol.parseRegistrationRecord (Protocol.encode
      [List.replicate registrationCredentialLength 0, responder.keypair.publicKey.toList]) =
      .ok ⟨(zeros maskingKeyLength).toList, (zeros envelopeLength).toList,
        responder.keypair.publicKey.toList⟩ := by
    refine Protocol.parseRegistrationRecord_reads.eq_ok_iff.mpr ⟨?_, hencode⟩
    simp only [Protocol.Sized, List.map_cons, List.map_nil, List.Vector.toList_length]
  rw [decodeCredentials, credentialWire, if_neg (by decide), if_pos rfl, hfill, withCode,
    Outcome.ok_bind, hwire, hparse]
  simp only [withCode, Outcome.ok_bind, hkey, List.Vector.toList_length]
  rw [Outcome.failIf_neg _ (by simp), Outcome.ok_bind]
  rfl

end Relay

end AuraOpaque.Ffi
