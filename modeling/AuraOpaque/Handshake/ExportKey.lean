import AuraOpaque.Handshake.Login

/-!
# The client's export key

Everything that is drawn for a session stays out of the export key: the blind
cancels, and neither the nonces nor the relay's keys enter its derivation.
-/

namespace AuraOpaque.Handshake

open AuraOpaque.Foundation AuraOpaque.Core
open Agent (InitiatorState Ke3Values OpaqueInitiator SessionOutput)
open Relay (OpaqueResponder ResponderCredentials ResponderKeyPair)

variable (P : Primitives)

def login (responder : OpaqueResponder) (credentials : ResponderCredentials)
    (password accountId : List UInt8) :
    Cmd OpaqueError World (SessionOutput × Bytes hashLength) := do
  let exchanged ← exchange P responder credentials password accountId
  completeLogin P responder exchanged

/--
A registration and a login after it, both to the end.  Their worlds are
unrelated: other sessions may lie between them, and two sessions may share one
registration.
-/
structure CompleteSession (oprfSeed : Bytes oprfSeedLength) (accountId password : List UInt8) where
  keypair : ResponderKeyPair
  responder : OpaqueResponder
  responder_new : OpaqueResponder.new P keypair oprfSeed = .ok responder
  record : Bytes registrationRecordLength
  registered : ∃ w w', (register P responder password accountId).run w = (.ok record, w')
  credentials : ResponderCredentials
  stored : Cmd.fill .new (Relay.buildCredentials P record.toList) = .ok credentials
  output : SessionOutput
  relayKey : Bytes hashLength
  completed : ∃ w w',
    (login P responder credentials password accountId).run w = (.ok (output, relayKey), w')

section Sessions

variable {P} {oprfSeed : Bytes oprfSeedLength} {accountId password : List UInt8}

/-- The output of a completed login is what `generate_ke3` left in the session. -/
theorem completeLogin_ok {responder : OpaqueResponder} {x : Exchanged} {w w' : World}
    {output : SessionOutput} {relayKey : Bytes hashLength}
    (h : (completeLogin P responder x).run w = (.ok (output, relayKey), w')) :
    ∃ initiator, ∃ v : Ke3Values P initiator x.ke2Wire.toList x.client,
      output.exportKey = v.exportKey := by
  obtain ⟨initiator, w₁, -, h⟩ := Cmd.run_bind_eq_ok_iff.mp h
  obtain ⟨⟨ke3, client⟩, w₂, hke3, h⟩ := Cmd.run_bind_eq_ok_iff.mp h
  obtain ⟨_, w₃, -, h⟩ := Cmd.run_bind_eq_ok_iff.mp h
  obtain ⟨⟨_, _⟩, w₄, -, h⟩ := Cmd.run_bind_eq_ok_iff.mp h
  obtain ⟨⟨out, dead⟩, w₅, hfinish, h⟩ := Cmd.run_bind_eq_ok_iff.mp h
  cases h
  rw [Op.call_eq_ok_iff] at hke3 hfinish
  obtain ⟨r, htraced⟩ := Agent.generateKe3_eq_ok_iff.mp hke3
  obtain ⟨-, v, -, hframe⟩ := Agent.generateKe3Traced_eq_ok_iff.mp htraced
  have hclient : client = v.stateAfter _ := congrArg Frame.state hframe
  have hout : output = _ := Agent.initiatorFinish_ok hfinish
  refine ⟨initiator, v, ?_⟩
  rw [hout]
  exact congrArg InitiatorState.exportKey hclient

/-- The export key is derived from the stretched password and the account alone. -/
theorem CompleteSession.exportKey_eq (s : CompleteSession P oprfSeed accountId password) :
    ∃ d : Stretched P oprfSeed accountId password,
      deriveClientExportKey P d.randomizedPwd.toList
        (sha512Multi P [Labels.accountContextBinding, accountId]) exportKeyLength =
          .ok s.output.exportKey := by
  obtain ⟨w, w', hlogin⟩ := s.completed
  obtain ⟨x, w₁, hexchange, hcomplete⟩ := Cmd.run_bind_eq_ok_iff.mp hlogin
  obtain ⟨r⟩ := exists_reached hexchange
  obtain ⟨initiator, v, hkey⟩ := completeLogin_ok hcomplete
  obtain ⟨o, hpwd, -⟩ := Opening.of_values v
  obtain ⟨-, -, -, d, hd⟩ := r.exists_stretched (responder_evaluator s.responder_new) o
  refine ⟨d, ?_⟩
  rw [hd, hpwd, hkey, ← r.accountContextHash]
  exact v.deriveExport

/--
Any two complete sessions of one password and one account under one seed give
the same export key, whatever they draw and whatever keys their relays have.
-/
theorem export_key_function (s s' : CompleteSession P oprfSeed accountId password) :
    s.output.exportKey = s'.output.exportKey := by
  obtain ⟨d, hkey⟩ := s.exportKey_eq
  obtain ⟨d', hkey'⟩ := s'.exportKey_eq
  rw [d.randomizedPwd_eq d', hkey'] at hkey
  exact (Outcome.ok.inj hkey).symm

end Sessions

/-! ## On the small instance -/

theorem exists_completeSession {oprfSeed : Bytes oprfSeedLength} {accountId password : List UInt8}
    {h : Honest Sample.primitives} (hseed : h.oprfSeed = oprfSeed)
    (haccount : h.accountId = accountId)
    (hpassword : h.password = password) {w v : World} (hw : Calm Sample.primitives w)
    (hv : Calm Sample.primitives v) :
    ∃ s : CompleteSession Sample.primitives oprfSeed accountId password,
      s.keypair = h.keypair := by
  subst hseed haccount hpassword
  obtain ⟨e, record, w', hrecord, -, hregister⟩ := register_run Sample.primitives_correct h hw
  obtain ⟨x, v', ⟨a⟩, hexchange⟩ := exchange_run Sample.primitives_correct e hv
  obtain ⟨output, v'', -, hcomplete⟩ :=
    completeLogin_run Sample.primitives_correct a (sample_sessionKey_ne_zero a)
  exact ⟨
    { keypair := h.keypair
      responder := h.responder
      responder_new := h.responder_eq
      record := record
      registered := ⟨w, w', hregister⟩
      credentials := e.credentials
      stored := by rw [hrecord, Cmd.fill_eq_ok_iff.mpr e.build_run]
      output := output
      relayKey := x.relay.sessionKey
      completed := ⟨v, v'', (Cmd.run_bind_ok hexchange).trans hcomplete⟩ }, rfl⟩

def sampleTwos : World where
  tape _ := 2
  clock _ := 0

theorem sampleTwos_calm : Calm Sample.primitives sampleTwos where
  neverExhausted _ :=
    ⟨0, by decide, show tapeScalar Sample.primitives (fun _ => 2) 0 ≠ 0 by decide⟩
  timely _ _ _ := by simp [sampleTwos, lifetimeOver]

/-- Two relays with one seed, and other draws in each session. -/
theorem export_key_function_sample :
    ∃ s s' : CompleteSession Sample.primitives sampleSeed [1] [1],
      s.keypair ≠ s'.keypair ∧ s.output.exportKey = s'.output.exportKey := by
  have htwo : (2 : ZMod 5) ≠ 0 := by decide
  obtain ⟨h, hrelay, hseed, hpassword, haccount⟩ := exists_sampleHonest
  obtain ⟨h', hrelay', hseed', hpassword', haccount'⟩ :=
    @NonDegenerate.exists_honest Sample.primitives sampleSeed [1] [1] Sample.primitives_correct
      (2 : ZMod 5) htwo sampleSeed_ne_zero (by simp) (by simp) (by simp) sample_nonDegenerate
  obtain ⟨s, hs⟩ := exists_completeSession hseed haccount hpassword sample_calm sample_calm
  obtain ⟨s', hs'⟩ := exists_completeSession hseed' haccount' hpassword' sample_calm sampleTwos_calm
  refine ⟨s, s', ?_, export_key_function s s'⟩
  rw [hs, hs']
  intro heq
  have hkeys : h.relay = h'.relay :=
    Sample.primitives.group.asBytes_injective (congrArg ResponderKeyPair.privateKey heq)
  rw [hrelay, hrelay'] at hkeys
  exact absurd hkeys (by decide : (1 : ZMod 5) ≠ 2)

end AuraOpaque.Handshake
