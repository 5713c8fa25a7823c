import AuraOpaque.Handshake.EndToEnd
import AuraOpaque.Agent.Refusals

/-!
# The deadline

Three of the four operations that go on with a session look at the clock before
anything else.  The client's last step does not.
-/

namespace AuraOpaque.Handshake

open AuraOpaque.Foundation AuraOpaque.Core
open Agent (OpaqueInitiator InitiatorState SessionOutput)
open Relay (ResponderState)

/-- A call fails, writes no output and, if it was admitted, ends the session. -/
structure Enforced {Out St : Type} (dead : St → Prop) (admitted : Prop) (c : Op Out St Unit)
    (f : Frame Out St) : Prop where
  fails : (c.run f).1.isOk = false
  silent : (c.run f).2.out = f.out
  ends : admitted → dead (c.run f).2.state

theorem Enforced.of_refused {Out St : Type} {dead : St → Prop} {admitted : Prop}
    {c : Op Out St Unit} {f : Frame Out St} {e : OpaqueError} {w : World}
    (hrun : c.run f = (.err e, { f with world := w })) (hadmitted : ¬ admitted) :
    Enforced dead admitted c f where
  fails := by rw [hrun]; rfl
  silent := by rw [hrun]
  ends h := absurd h hadmitted

theorem Enforced.of_ended {Out St : Type} {dead : St → Prop} {admitted : Prop}
    {c : Op Out St Unit} {f : Frame Out St} {e : OpaqueError} {s : St} {w : World}
    (hrun : c.run f = (.err e, { f with state := s, world := w })) (hs : dead s) :
    Enforced dead admitted c f where
  fails := by rw [hrun]; rfl
  silent := by rw [hrun]
  ends _ := by rw [hrun]; exact hs

variable {P : Primitives}

/-! ## The client -/

section Client

variable {s : InitiatorState} {w : World}

theorem isExpired_client (h : (s.isExpired.run w).1 = .ok true) :
    ¬ s.Timeless ∧ lifetimeOver s.createdAt (w.clock 0) = true := by
  by_cases htimeless : s.Timeless
  · rw [InitiatorState.isExpired_run_of_timeless htimeless] at h
    cases h
  · rw [InitiatorState.isExpired_run htimeless] at h
    exact ⟨htimeless, Outcome.ok.inj h⟩

theorem finalizeRegistration_enforced (h : (s.isExpired.run w).1 = .ok true)
    (initiator : OpaqueInitiator) (data : List UInt8) (record : Agent.RegistrationRecord) :
    Enforced InitiatorState.Dead (Agent.AdmitsResponse data s)
      (Agent.finalizeRegistration P initiator data) ⟨record, s, w⟩ := by
  by_cases hadmits : Agent.AdmitsResponse data s
  · have hrun := @Agent.finalizeChecks_run_of_admitted P initiator data ⟨record, s, w⟩ hadmits
    rw [(isExpired_client h).2, if_pos rfl] at hrun
    exact .of_ended (by rw [Agent.finalizeRegistration, Cmd.run_bind_err hrun])
      (InitiatorState.invalidate_dead s)
  · obtain ⟨e, hrun⟩ := @Agent.finalizeChecks_run_of_not_admitted P initiator data
      ⟨record, s, w⟩ hadmits
    exact .of_refused (by rw [Agent.finalizeRegistration, Cmd.run_bind_err hrun]) hadmits

theorem generateKe3_enforced (h : (s.isExpired.run w).1 = .ok true)
    (initiator : OpaqueInitiator) (ke2Data : List UInt8) (ke3 : Agent.Ke3Message) :
    Enforced InitiatorState.Dead (ke2Data.length = ke2Length ∧ s.phase = .ke1Generated)
      (Agent.generateKe3 P initiator ke2Data) ⟨ke3, s, w⟩ := by
  have hexpired := (isExpired_client h).2
  rcases Agent.ke3Checks_cases ke2Data ⟨ke3, s, w⟩ with
    ⟨-, hawaits, -⟩ | ⟨e, w', hwhy, hrun⟩ | ⟨-, -, -, hrun⟩
  · have hunexpired := hawaits.unexpired
    rw [hexpired] at hunexpired
    cases hunexpired
  · refine .of_refused (e := e) (w := w') ?_ ?_
    · simp only [Agent.generateKe3, Agent.generateKe3Traced, Cmd.run_bind, hrun]
    · rintro ⟨hlen, hphase⟩
      rcases hwhy with (hlen' | hphase') | ⟨hunexpired, -⟩
      · exact hlen' hlen
      · exact hphase' hphase
      · rw [hexpired] at hunexpired
        cases hunexpired
  · refine .of_ended (e := .validationError) (w := w.tick) ?_ (InitiatorState.invalidate_dead s)
    simp only [Agent.generateKe3, Agent.generateKe3Traced, Cmd.run_bind, hrun]

/-- The last step looks at the phase and at the key only. -/
theorem initiatorFinish_enforced_iff (output : SessionOutput) :
    Enforced InitiatorState.Dead (s.phase = .ke3Generated) Agent.initiatorFinish ⟨output, s, w⟩ ↔
      (s.phase = .ke3Generated → s.sessionKey = zeros _) := by
  rcases Agent.initiatorFinish_cases ⟨output, s, w⟩ with
    ⟨hphase, hrun⟩ | ⟨hphase, hzero, hrun⟩ | ⟨hphase, hkey, s', -, hrun⟩
  · exact iff_of_true (.of_refused hrun hphase) fun h => absurd h hphase
  · exact iff_of_true (.of_ended hrun (InitiatorState.invalidate_dead s)) fun _ => hzero
  · refine iff_of_false (fun h => ?_) fun h => hkey (h hphase)
    have hfails := h.fails
    rw [hrun] at hfails
    cases hfails

end Client

/-! ## The relay -/

section Relay

variable {s : ResponderState} {w : World}

theorem isExpired_relay (h : (s.isExpired.run w).1 = .ok true) :
    s.phase = .ke2Generated ∧ lifetimeOver s.createdAt (w.clock 0) = true := by
  by_cases hphase : s.phase = .created ∨ s.phase = .finished
  · rw [ResponderState.isExpired, if_pos hphase] at h
    cases h
  · rw [ResponderState.isExpired, if_neg hphase] at h
    refine ⟨?_, Outcome.ok.inj h⟩
    cases hs : s.phase <;> simp_all

theorem responderFinish_enforced (h : (s.isExpired.run w).1 = .ok true) (ke3Data : List UInt8)
    (key : Bytes hashLength) :
    Enforced ResponderState.Terminal (ke3Data.length = ke3Length ∧ s.phase = .ke2Generated)
      (Relay.responderFinish ke3Data) ⟨key, s, w⟩ := by
  obtain ⟨hphase, hexpired⟩ := isExpired_relay h
  by_cases hlen : ke3Data.length = ke3Length
  · exact .of_ended (@Relay.responderFinish_run_of_expired ke3Data ⟨key, s, w⟩ hlen hphase hexpired)
      (ResponderState.invalidate_terminal s)
  · obtain ⟨e, hrun⟩ := @Relay.responderFinish_run_of_not_admitted ke3Data ⟨key, s, w⟩ (.inl hlen)
    exact .of_refused hrun fun hadmitted => hlen hadmitted.1

end Relay

/-! ## Both sides -/

variable (P) in
/--
In every state that a session can reach, the deadline binds every operation but
the client's last step, which it binds exactly when there is no key to release.
-/
theorem expiry_enforced_iff :
    (∀ createdAt history s, Agent.AgentRun P createdAt history s → ∀ w,
      (s.isExpired.run w).1 = .ok true →
      (∀ initiator data record, Enforced InitiatorState.Dead (Agent.AdmitsResponse data s)
        (Agent.finalizeRegistration P initiator data) ⟨record, s, w⟩) ∧
      (∀ initiator ke2Data ke3, Enforced InitiatorState.Dead
        (ke2Data.length = ke2Length ∧ s.phase = .ke1Generated)
        (Agent.generateKe3 P initiator ke2Data) ⟨ke3, s, w⟩) ∧
      ∀ output, Enforced InitiatorState.Dead (s.phase = .ke3Generated) Agent.initiatorFinish
        ⟨output, s, w⟩ ↔ (s.phase = .ke3Generated → s.sessionKey = zeros _)) ∧
    ∀ createdAt history s, Relay.RelayRun P createdAt history s → ∀ w,
      (s.isExpired.run w).1 = .ok true → ∀ ke3Data key, Enforced ResponderState.Terminal
        (ke3Data.length = ke3Length ∧ s.phase = .ke2Generated) (Relay.responderFinish ke3Data)
        ⟨key, s, w⟩ :=
  ⟨fun _ _ _ _ _ h => ⟨finalizeRegistration_enforced h, generateKe3_enforced h,
    initiatorFinish_enforced_iff⟩, fun _ _ _ _ _ h => responderFinish_enforced h⟩

/-- A confirmed session on the small instance, and a clock on which it is long over. -/
theorem exists_overdue : ∃ createdAt history s w,
    Agent.AgentRun Sample.primitives createdAt history s ∧ (s.isExpired.run w).1 = .ok true ∧
      s.phase = .ke3Generated ∧ s.sessionKey ≠ zeros _ := by
  obtain ⟨h, -⟩ := exists_sampleHonest
  obtain ⟨e, x, w, ⟨a⟩, -⟩ := untilKe2_run Sample.primitives_correct h sample_calm
  obtain ⟨c, hsecrets, htranscript, htraced⟩ := a.generateKe3_run Sample.primitives_correct
  obtain ⟨createdAt, hclientRun⟩ := a.clientRun
  have hke3 := (@Agent.generateKe3_eq_ok_iff _ _ _ _ () _).mpr ⟨_, htraced .new⟩
  have hstep : Agent.Step Sample.primitives x.client
      ⟨.generateKe3 h.initiator x.ke2Wire.toList .new, .ok ()⟩ (c.stateAfter (w.clock 1)) :=
    ⟨w, by rw [Agent.Call.exec, Agent.Call.onSession, hke3]⟩
  refine ⟨createdAt, _, _, ⟨w.tape, fun _ => w.clock 1 + stateMaxLifetimeSecs * 10 ^ 9⟩,
    hclientRun.snoc hstep, ?_, rfl, ?_⟩
  · rw [InitiatorState.isExpired_run (by
      simp [InitiatorState.Timeless, Agent.Ke3Values.stateAfter])]
    simp [lifetimeOver, Agent.Ke3Values.stateAfter]
  · rw [a.sessionKey_eq hsecrets htranscript]
    exact sample_sessionKey_ne_zero a

theorem exists_overdue_relay : ∃ createdAt history s w,
    Relay.RelayRun Sample.primitives createdAt history s ∧ (s.isExpired.run w).1 = .ok true := by
  obtain ⟨h, -⟩ := exists_sampleHonest
  obtain ⟨e, x, w, ⟨a⟩, -⟩ := untilKe2_run Sample.primitives_correct h sample_calm
  obtain ⟨ke1Data, createdAt, hke2⟩ := a.relayRun
  have hstep : Relay.Step Sample.primitives (.newAt createdAt)
      ⟨.generateKe2 h.responder ke1Data h.accountId e.credentials .new, .ok (),
        a.values.stateAfter⟩ a.values.stateAfter :=
    ⟨rfl, a.start, by
      rw [Relay.Call.exec, Relay.Call.onSession, Relay.generateKe2_eq_ok_iff.mpr ⟨_, hke2⟩]⟩
  refine ⟨createdAt, _, _, ⟨w.tape, fun _ =>
    a.values.stateAfter.createdAt + stateMaxLifetimeSecs * 10 ^ 9⟩, .single hstep, ?_⟩
  rw [ResponderState.isExpired, if_neg (by simp [Relay.Ke2Values.stateAfter])]
  simp [Cmd.run_bind, lifetimeOver]

theorem expiry_enforced_iff_sample :
    (∃ s w, (s.isExpired.run w).1 = .ok true ∧
      ∀ output, Enforced InitiatorState.Dead (s.phase = .ke3Generated) Agent.initiatorFinish
        ⟨output, s, w⟩ ↔ (s.phase = .ke3Generated → s.sessionKey = zeros _)) ∧
    ∃ s w, (s.isExpired.run w).1 = .ok true ∧
      ∀ ke3Data key, Enforced ResponderState.Terminal
        (ke3Data.length = ke3Length ∧ s.phase = .ke2Generated) (Relay.responderFinish ke3Data)
        ⟨key, s, w⟩ := by
  obtain ⟨hclient, hrelay⟩ := expiry_enforced_iff Sample.primitives
  obtain ⟨createdAt, history, s, w, hrun, hexpired, -⟩ := exists_overdue
  obtain ⟨createdAt', history', s', w', hrun', hexpired'⟩ := exists_overdue_relay
  exact ⟨⟨s, w, hexpired, (hclient createdAt history s hrun w hexpired).2.2⟩,
    s', w', hexpired', hrelay createdAt' history' s' hrun' w' hexpired'⟩

/-- The client's keys leave an overdue session. -/
theorem overdue_session_finishes : ∃ createdAt history s w,
    Agent.AgentRun Sample.primitives createdAt history s ∧ (s.isExpired.run w).1 = .ok true ∧
      ∃ f', Agent.initiatorFinish.run ⟨⟨zeros _, zeros _⟩, s, w⟩ = (.ok (), f') ∧
        f'.out.sessionKey = s.sessionKey ∧ s.sessionKey ≠ zeros _ := by
  obtain ⟨createdAt, history, s, w, hrun, hexpired, hphase, hkey⟩ := exists_overdue
  refine ⟨createdAt, history, s, w, hrun, hexpired, ?_⟩
  rcases Agent.initiatorFinish_cases ⟨⟨zeros _, zeros _⟩, s, w⟩ with
    ⟨hne, -⟩ | ⟨-, hzero, -⟩ | ⟨-, -, s', -, hdone⟩
  · exact absurd hphase hne
  · exact absurd hzero hkey
  · exact ⟨_, hdone, rfl, hkey⟩

end AuraOpaque.Handshake
