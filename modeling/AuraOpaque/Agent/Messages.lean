import AuraOpaque.Agent.Lifecycle

/-!
# What a client session sends

The message or the key that each call hands out.  A session remembers its first login
message, but for the blinded password, until the answer comes.
-/

namespace AuraOpaque.Agent

open AuraOpaque.Foundation AuraOpaque.Core

variable (P : Primitives)

/-- The message or the session key that a call hands out. -/
def Call.output (call : Call) (s : InitiatorState) (w : World) : List UInt8 :=
  match call with
  | createRegistrationRequest secureKey request =>
      let out := ((Agent.createRegistrationRequest P secureKey).run ⟨request, s, w⟩).2.out
      Protocol.encode [out.data.toList]
  | finalizeRegistration initiator response record =>
      let out := ((Agent.finalizeRegistration P initiator response).run ⟨record, s, w⟩).2.out
      Protocol.encode [out.envelope, out.initiatorPublicKey.toList]
  | generateKe1 secureKey accountId ke1 =>
      let out := ((Agent.generateKe1 P secureKey accountId).run ⟨ke1, s, w⟩).2.out
      Protocol.encode [out.credentialRequest.toList, out.initiatorPublicKey.toList,
        out.initiatorNonce.toList, out.pqEphemeralPublicKey.toList]
  | generateKe3 initiator ke2Data ke3 =>
      let out := ((Agent.generateKe3 P initiator ke2Data).run ⟨ke3, s, w⟩).2.out
      Protocol.encode [out.initiatorMac.toList]
  | initiatorFinish output =>
      (Agent.initiatorFinish.run ⟨output, s, w⟩).2.out.sessionKey.toList
  | _ => []

/-! ## The first message of a login -/

/-- The first message, as far as the session remembers it. -/
def InitiatorState.ke1With (s : InitiatorState) (credentialRequest : List UInt8) :
    Protocol.Ke1Ref where
  credentialRequest := credentialRequest
  initiatorPublicKey := s.initiatorEphemeralPublicKey.toList
  initiatorNonce := s.initiatorNonce.toList
  pqEphemeralPublicKey := s.pqEphemeralPublicKey.toList

/-- The parts of the first message are in the session. -/
structure Sending (f : Frame Ke1Message InitiatorState) : Prop where
  initiatorPublicKey : f.out.initiatorPublicKey = f.state.initiatorEphemeralPublicKey
  initiatorNonce : f.out.initiatorNonce = f.state.initiatorNonce
  pqEphemeralPublicKey : f.out.pqEphemeralPublicKey = f.state.pqEphemeralPublicKey

variable {P}

theorem modifyState_returns {Out : Type} {g : InitiatorState → InitiatorState}
    {pre post : Frame Out InitiatorState → Prop}
    (h : ∀ f, pre f → post { f with state := g f.state }) :
    Cmd.Returns pre (Op.modifyState g : Op Out InitiatorState Unit) fun _ => post := by
  intro f u f' hf hrun
  cases hrun
  exact h f hf

theorem modifyOut_returns {Out : Type} {g : Out → Out} {pre post : Frame Out InitiatorState → Prop}
    (h : ∀ f, pre f → post { f with out := g f.out }) :
    Cmd.Returns pre (Op.modifyOut g : Op Out InitiatorState Unit) fun _ => post := by
  intro f u f' hf hrun
  cases hrun
  exact h f hf

/-- The parts that are in both places, one after the other. -/
theorem ke1Body_sending (secureKey accountId : List UInt8) :
    Cmd.Returns (fun _ => True) (ke1Body P secureKey accountId) fun _ => Sending := by
  refine .step (fun _ _ => trivial) fun _ => .step (fun _ _ => trivial) fun _ => ?_
  refine .step (fun _ _ => trivial) fun _ => .step (fun _ _ => trivial) fun _ => ?_
  refine .step (fun _ _ => trivial) fun ephemeralPublicKey => ?_
  have hephemeral := @modifyState_returns Ke1Message
    (fun s => { s with initiatorEphemeralPublicKey := ephemeralPublicKey }) (fun _ => True)
    (fun f => f.state.initiatorEphemeralPublicKey = ephemeralPublicKey) fun _ _ => rfl
  refine .bind hephemeral fun _ => .step (fun _ hf => hf) fun _ => ?_
  refine .step (fun _ hf => hf) fun pq => ?_
  have hpq := @modifyState_returns Ke1Message
    (fun s => { s with pqEphemeralPublicKey := pq.1, pqEphemeralSecretKey := pq.2 })
    (fun f => f.state.initiatorEphemeralPublicKey = ephemeralPublicKey)
    (fun f => f.state.initiatorEphemeralPublicKey = ephemeralPublicKey ∧
      f.state.pqEphemeralPublicKey = pq.1) fun _ hf => ⟨hf, rfl⟩
  refine .bind hpq fun _ => .step (fun _ hf => hf) fun initiatorNonce => ?_
  have hnonceOut := @modifyOut_returns Ke1Message (fun ke1 => { ke1 with initiatorNonce })
    (fun f => f.state.initiatorEphemeralPublicKey = ephemeralPublicKey ∧
      f.state.pqEphemeralPublicKey = pq.1)
    (fun f => (f.state.initiatorEphemeralPublicKey = ephemeralPublicKey ∧
      f.state.pqEphemeralPublicKey = pq.1) ∧ f.out.initiatorNonce = initiatorNonce)
    fun _ hf => ⟨hf, rfl⟩
  have hnonce := @modifyState_returns Ke1Message (fun s => { s with initiatorNonce })
    (fun f => (f.state.initiatorEphemeralPublicKey = ephemeralPublicKey ∧
      f.state.pqEphemeralPublicKey = pq.1) ∧ f.out.initiatorNonce = initiatorNonce)
    (fun f => (f.state.initiatorEphemeralPublicKey = ephemeralPublicKey ∧
      f.state.pqEphemeralPublicKey = pq.1) ∧ f.out.initiatorNonce = f.state.initiatorNonce)
    fun _ hf => hf
  have hkey := @modifyOut_returns Ke1Message
    (fun ke1 => { ke1 with initiatorPublicKey := ephemeralPublicKey })
    (fun f => (f.state.initiatorEphemeralPublicKey = ephemeralPublicKey ∧
      f.state.pqEphemeralPublicKey = pq.1) ∧ f.out.initiatorNonce = f.state.initiatorNonce)
    (fun f => (f.out.initiatorPublicKey = f.state.initiatorEphemeralPublicKey ∧
      f.state.pqEphemeralPublicKey = pq.1) ∧ f.out.initiatorNonce = f.state.initiatorNonce)
    fun _ hf => ⟨⟨hf.1.1.symm, hf.1.2⟩, hf.2⟩
  refine .bind hnonceOut fun _ => .bind hnonce fun _ => .bind hkey fun _ => ?_
  refine .step (fun _ hf => hf) fun _ => modifyOut_returns fun _ hf => ?_
  exact ⟨hf.1.1, hf.2, hf.1.2.symm⟩

theorem generateKe1_sending {secureKey accountId : List UInt8} {u : Unit}
    {f f' : Frame Ke1Message InitiatorState}
    (h : (generateKe1 P secureKey accountId).run f = (.ok u, f')) : Sending f' := by
  obtain ⟨_, f₁, -, h⟩ := Cmd.run_bind_eq_ok_iff.mp h
  obtain ⟨_, f₂, hbody, h⟩ := Cmd.run_bind_eq_ok_iff.mp h
  have hsending := ke1Body_sending secureKey accountId f₁ _ f₂ trivial hbody
  cases h
  exact ⟨hsending.initiatorPublicKey, hsending.initiatorNonce, hsending.pqEphemeralPublicKey⟩

theorem Call.output_generateKe1 {secureKey accountId : List UInt8} {ke1 : Ke1Message}
    {s t : InitiatorState} {w : World} {o : OpaqueResult Unit}
    (hexec : (Call.generateKe1 secureKey accountId ke1).exec P s w = (o, t))
    (hok : o.isOk) : ∃ request : Bytes publicKeyLength,
      (Call.generateKe1 secureKey accountId ke1).output P s w =
        Protocol.encode (t.ke1With request.toList).fields := by
  obtain ⟨u, rfl⟩ := Outcome.isOk_eq_true_iff.mp hok
  obtain ⟨hrun, hstate⟩ := Prod.mk.inj hexec
  have hsending := generateKe1_sending (Prod.ext hrun rfl)
  refine ⟨((Agent.generateKe1 P secureKey accountId).run ⟨ke1, s, w⟩).2.out.credentialRequest, ?_⟩
  unfold Call.output
  dsimp only
  rw [← hstate, hsending.initiatorPublicKey, hsending.initiatorNonce,
    hsending.pqEphemeralPublicKey]
  rfl

/-! ## Until the answer comes -/

/-- The remembered parts are the same, and so is the account. -/
structure SameRequest (s t : InitiatorState) : Prop where
  initiatorEphemeralPublicKey : t.initiatorEphemeralPublicKey = s.initiatorEphemeralPublicKey
  initiatorNonce : t.initiatorNonce = s.initiatorNonce
  pqEphemeralPublicKey : t.pqEphemeralPublicKey = s.pqEphemeralPublicKey
  accountContextHash : t.accountContextHash = s.accountContextHash

theorem SameRequest.ke1With {s t : InitiatorState} (h : SameRequest s t) (request : List UInt8) :
    t.ke1With request = s.ke1With request := by
  rw [InitiatorState.ke1With, h.initiatorEphemeralPublicKey, h.initiatorNonce,
    h.pqEphemeralPublicKey]
  rfl

theorem SameRequest.trans {s t u : InitiatorState} (h : SameRequest s t) (h' : SameRequest t u) :
    SameRequest s u :=
  ⟨h'.1.trans h.1, h'.2.trans h.2, h'.3.trans h.3, h'.4.trans h.4⟩

/-- No KE2 changes the remembered parts in a session that it does not erase. -/
theorem generateKe3_sameRequest (initiator : OpaqueInitiator) (ke2Data : List UInt8)
    (s₀ : InitiatorState) :
    Keeps (fun s => SameRequest s₀ s ∨ s.accountContextHash = zeros _)
      (generateKe3 P initiator ke2Data) := by
  refine .bind (.bind ?_ fun _ => .onErr (.bind ?_ fun _ => ?_) fun _ _ => .inr rfl) fun _ =>
    .pure _
  · refine .bind (.failIf _) fun _ => .bind .getState fun _ => .bind (.failIf _) fun _ => ?_
    refine .bind (.bind .getState fun _ => .bind (.onWorld _) fun _ =>
      .abortIf _ fun _ _ => .inr rfl) fun _ => ?_
    exact .bind .getState fun _ => .failIf _
  · exact ke3Derive_keeps P initiator ke2Data
      (fun _ hs => hs.imp (fun h => ⟨h.1, h.2, h.3, h.4⟩) id)
      (fun _ hs => hs.imp (fun h => ⟨h.1, h.2, h.3, h.4⟩) id)
      fun _ _ hs => hs.imp (fun h => ⟨h.1, h.2, h.3, h.4⟩) id
  · refine .bind (.modifyOut _) fun _ => .bind .getState fun _ => ?_
    refine .bind (.modifyState fun _ hs => hs.imp (fun h => ⟨h.1, h.2, h.3, h.4⟩) id) fun _ => ?_
    refine .bind ?_ fun _ => ?_
    · exact .bind (.onWorld _) fun _ =>
        .modifyState fun _ hs => hs.imp (fun h => ⟨h.1, h.2, h.3, h.4⟩) id
    · exact .bind (.modifyState fun _ hs => hs.imp (fun h => ⟨h.1, h.2, h.3, h.4⟩) id)
        fun _ => .pure _

/-- The session waits for a KE2, and nobody has erased it. -/
structure InitiatorState.Waits (s : InitiatorState) : Prop where
  phase : s.phase = .ke1Generated
  accountContextHash : s.accountContextHash ≠ zeros _

theorem step_sameRequest {s t : InitiatorState} {e : Event} (hstep : Step P s e t)
    (hs : s.phase = .ke1Generated) (ht : t.Waits) : SameRequest s t := by
  cases hop : e.call.operation with
  | none => exact absurd (step_cleanup hstep hop).1.accountContextHash ht.accountContextHash
  | some op =>
      rcases step_cases hstep hop with ⟨-, hsource, htarget, -⟩ | ⟨-, hrest⟩
      · have hlt := op.rank_lt
        rw [← hsource, ← htarget, hs, ht.phase] at hlt
        exact absurd hlt (lt_irrefl _)
      · rcases hrest with rfl | ⟨hsource, ⟨-, hstage⟩ | hdead⟩
        · exact ⟨rfl, rfl, rfl, rfl⟩
        · obtain rfl : op = .generateKe3 := by
            rw [hs] at hsource
            cases op <;> first | rfl | cases hsource
          obtain ⟨w, hexec⟩ := hstep
          obtain ⟨call, o⟩ := e
          cases call with
          | generateKe3 initiator ke2Data ke3 =>
              cases hexec
              have hkept := @Keeps.of_run _ _ _ _ _ ⟨ke3, s, w⟩ _ _
                (@generateKe3_sameRequest P initiator ke2Data s) rfl (.inl ⟨rfl, rfl, rfl, rfl⟩)
              exact hkept.resolve_right ht.accountContextHash
          | _ => cases hop
        · have hfinished := hdead.phase.symm.trans ht.phase
          cases hfinished

theorem run_sameRequest {s t : InitiatorState} {later : List Event}
    (hrun : Run (fun s e t => Step P s e t ∧ s.Waits ∧ t.Waits) s later t) : SameRequest s t := by
  induction hrun with
  | nil => exact ⟨rfl, rfl, rfl, rfl⟩
  | snoc _ hlast ih =>
      obtain ⟨hstep, hs, ht⟩ := hlast
      exact ih.trans (step_sameRequest hstep hs.phase ht)

/-- A session starts to wait when it has sent the first message of a login. -/
theorem step_waits {s t : InitiatorState} {e : Event} (hstep : Step P s e t) (hs : ¬ s.Waits)
    (ht : t.Waits) : e.succeeds .generateKe1 := by
  rcases @step_enters P s t e .generateKe1 hstep (by decide) ht.phase with hphase | hsucceeds
  · have hsame := step_sameRequest hstep hphase ht
    refine absurd ⟨hphase, ?_⟩ hs
    rw [← hsame.accountContextHash]
    exact ht.accountContextHash
  · exact hsucceeds

end AuraOpaque.Agent
