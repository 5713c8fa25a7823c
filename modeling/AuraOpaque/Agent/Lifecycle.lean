import AuraOpaque.Agent.Requests
import AuraOpaque.Agent.Ke3
import AuraOpaque.Core.Session
import AuraOpaque.Core.Sample
import AuraOpaque.Foundation.Run

/-!
# The life of a client session

Calls come in any order, with any arguments, any randomness and any clock.  The
phase moves forward only, each operation succeeds at most once, and the secrets
follow the phase.
-/

namespace AuraOpaque.Agent

open AuraOpaque.Foundation AuraOpaque.Core

variable (P : Primitives)

namespace InitiatorState

structure SameStage (s t : InitiatorState) : Prop where
  phase : t.phase = s.phase
  sessionKey : t.sessionKey = s.sessionKey
  exportKey : t.exportKey = s.exportKey

theorem SameStage.rfl {s : InitiatorState} : SameStage s s := ⟨Eq.refl _, Eq.refl _, Eq.refl _⟩

structure Erased (s : InitiatorState) : Prop where
  secureKey : s.secureKey = zeros _
  secureKeyLen : s.secureKeyLen = 0
  initiatorPrivateKey : s.initiatorPrivateKey = zeros _
  initiatorEphemeralPrivateKey : s.initiatorEphemeralPrivateKey = zeros _
  obliviousPrfBlindScalar : s.obliviousPrfBlindScalar = zeros _
  pqEphemeralSecretKey : s.pqEphemeralSecretKey = zeros _
  pqSharedSecret : s.pqSharedSecret = zeros _
  sessionKey : s.sessionKey = zeros _
  exportKey : s.exportKey = zeros _
  accountContextHash : s.accountContextHash = zeros _

/-- Over, with nothing left behind. -/
structure Dead (s : InitiatorState) : Prop where
  phase : s.phase = .finished
  erased : s.Erased

theorem zeroize_erased (s : InitiatorState) : s.zeroize.Erased := by
  constructor <;> rfl

theorem invalidate_dead (s : InitiatorState) : s.invalidate.Dead where
  phase := rfl
  erased := by constructor <;> rfl

end InitiatorState

open InitiatorState (SameStage Erased Dead)

/-! ## What each operation does to the session -/

section Operations

/-- The shape of the statements about the five operations. -/
abbrev AgentEnds {Out α : Type} (source target : InitiatorPhase)
    (done : InitiatorState → InitiatorState → Prop) (c : Op Out InitiatorState α) : Prop :=
  Ends InitiatorState.phase SameStage Dead source target done c

theorem rejectExpired_guarded {Out : Type} {p : InitiatorPhase} :
    Guarded InitiatorState.phase InitiatorState.invalidate p
      (rejectExpired : Op Out InitiatorState Unit) := by
  intro f _
  by_cases htimeless : f.state.Timeless
  · exact .inl ⟨(), f.world, rejectExpired_run_of_timeless htimeless⟩
  · rw [rejectExpired_run htimeless]
    split
    · exact .inr (.inr ⟨.validationError, f.world.tick, rfl⟩)
    · exact .inl ⟨(), f.world.tick, rfl⟩

theorem keeps_modify {Out : Type} {s₀ : InitiatorState} {g : InitiatorState → InitiatorState}
    (hphase : ∀ s, (g s).phase = s.phase) (hsession : ∀ s, (g s).sessionKey = s.sessionKey)
    (hexport : ∀ s, (g s).exportKey = s.exportKey) :
    Keeps (SameStage s₀) (Op.modifyState g : Op Out InitiatorState Unit) :=
  .modifyState fun s hs => ⟨(hphase s).trans hs.phase, (hsession s).trans hs.sessionKey,
    (hexport s).trans hs.exportKey⟩

theorem storeSecureKey_keeps {Out : Type} {s₀ : InitiatorState} (secureKey : List UInt8) :
    Keeps (SameStage s₀) (storeSecureKey secureKey : Op Out InitiatorState Unit) := by
  refine .bind (keeps_modify (fun _ => rfl) (fun _ => rfl) fun _ => rfl) fun _ => ?_
  refine .bind .getState fun _ => .bind (.cmdLift _) fun _ => ?_
  refine .bind (keeps_modify (fun _ => rfl) (fun _ => rfl) fun _ => rfl) fun _ => ?_
  exact keeps_modify (fun _ => rfl) (fun _ => rfl) fun _ => rfl

theorem eraseSecureKey_keeps {Out : Type} {s₀ : InitiatorState} :
    Keeps (SameStage s₀) (eraseSecureKey : Op Out InitiatorState Unit) :=
  keeps_modify (fun _ => rfl) (fun _ => rfl) fun _ => rfl

theorem readSecureKey_keeps {Out : Type} {s₀ : InitiatorState} :
    Keeps (SameStage s₀) (readSecureKey : Op Out InitiatorState (List UInt8)) :=
  .bind .getState fun _ => .cmdLift _

theorem registrationRequestBody_keeps {s₀ : InitiatorState} (secureKey : List UInt8) :
    Keeps (SameStage s₀) (registrationRequestBody P secureKey) := by
  refine .bind (.onWorld _) fun _ => ?_
  refine .bind (keeps_modify (fun _ => rfl) (fun _ => rfl) fun _ => rfl) fun _ => ?_
  refine .bind (.lift _) fun _ => ?_
  refine .bind (keeps_modify (fun _ => rfl) (fun _ => rfl) fun _ => rfl) fun _ => ?_
  refine .bind (storeSecureKey_keeps _) fun _ => ?_
  exact .zoom fun _ _ hs => ⟨hs.phase, hs.sessionKey, hs.exportKey⟩

theorem ke1Body_keeps {s₀ : InitiatorState} (secureKey accountId : List UInt8) :
    Keeps (SameStage s₀) (ke1Body P secureKey accountId) := by
  refine .bind (storeSecureKey_keeps _) fun _ => ?_
  refine .bind (keeps_modify (fun _ => rfl) (fun _ => rfl) fun _ => rfl) fun _ => ?_
  refine .bind (.onWorld _) fun _ => ?_
  refine .bind (keeps_modify (fun _ => rfl) (fun _ => rfl) fun _ => rfl) fun _ => ?_
  refine .bind (.lift _) fun _ => ?_
  refine .bind (keeps_modify (fun _ => rfl) (fun _ => rfl) fun _ => rfl) fun _ => ?_
  refine .bind (keeps_modify (fun _ => rfl) (fun _ => rfl) fun _ => rfl) fun _ => ?_
  refine .bind (.onWorld _) fun _ => ?_
  refine .bind (keeps_modify (fun _ => rfl) (fun _ => rfl) fun _ => rfl) fun _ => ?_
  refine .bind (.onWorld _) fun _ => .bind (.modifyOut _) fun _ => ?_
  refine .bind (keeps_modify (fun _ => rfl) (fun _ => rfl) fun _ => rfl) fun _ => ?_
  refine .bind (.modifyOut _) fun _ => .bind ?_ fun _ => .modifyOut _
  exact .zoom fun _ _ hs => ⟨hs.phase, hs.sessionKey, hs.exportKey⟩

theorem finalizeBody_keeps {s₀ : InitiatorState} (response : Protocol.RegistrationResponseRef) :
    Keeps (SameStage s₀) (finalizeBody P response) := by
  refine .bind .getState fun _ => .bind readSecureKey_keeps fun _ => .bind (.okOr _ _) fun _ => ?_
  refine .bind (.lift _) fun _ => .bind (.lift _) fun _ => .bind eraseSecureKey_keeps fun _ => ?_
  refine .bind (.okOr _ _) fun _ => .bind (.zoom fun _ _ hs => hs) fun _ => ?_
  refine .bind (keeps_modify (fun _ => rfl) (fun _ => rfl) fun _ => rfl) fun _ => ?_
  exact .bind (.lift _) fun _ => .bind (.modifyOut _) fun _ => .modifyOut _

/-- What the derivation writes while it runs: only the session, and there only three times. -/
theorem ke3Derive_preserves {I : Frame Ke3Message InitiatorState → Prop}
    (initiator : OpaqueInitiator) (ke2Data : List UInt8)
    (hpassword : ∀ f, I f → I { f with state := f.state.withoutPassword })
    (hsecret : ∀ f, I f → I { f with state := { f.state with pqEphemeralSecretKey := zeros _ } })
    (hshared : ∀ f kemSs, I f → I { f with state := { f.state with pqSharedSecret := kemSs } }) :
    Cmd.Preserves I (ke3Derive P initiator ke2Data) := by
  refine .bind (.lift _) fun _ => .bind (fun _ hf => hf) fun _ => .bind (fun _ hf => hf) fun _ => ?_
  refine .bind ?_ fun _ => .bind (fun _ hf => hf) fun _ => .bind (.lift _) fun _ => ?_
  · refine .bind (fun _ hf => hf) fun _ =>
      .bind (.bind (fun _ hf => hf) fun _ _ hf => hf) fun _ => ?_
    refine .bind (fun _ hf => hf) fun _ => .bind (.lift _) fun _ => .bind (.lift _) fun _ => ?_
    exact .bind (.modify hpassword) fun _ => .pure _
  refine .bind (fun _ hf => hf) fun _ => .bind (.lift _) fun _ => ?_
  refine .bind (.modify hsecret) fun _ => .bind (.modify fun f => hshared f _) fun _ => ?_
  exact .bind (.lift _) fun _ => .bind (.lift _) fun _ => .bind (.lift _) fun _ => .pure _

theorem ke3Derive_keeps {J : InitiatorState → Prop} (initiator : OpaqueInitiator)
    (ke2Data : List UInt8) (hpassword : ∀ s, J s → J s.withoutPassword)
    (hsecret : ∀ s, J s → J { s with pqEphemeralSecretKey := zeros _ })
    (hshared : ∀ s kemSs, J s → J { s with pqSharedSecret := kemSs }) :
    Keeps J (ke3Derive P initiator ke2Data) :=
  ke3Derive_preserves P initiator ke2Data (fun f => hpassword f.state) (fun f => hsecret f.state)
    fun f => hshared f.state

theorem ke3Derive_sameStage {s₀ : InitiatorState} (initiator : OpaqueInitiator)
    (ke2Data : List UInt8) : Keeps (SameStage s₀) (ke3Derive P initiator ke2Data) :=
  ke3Derive_keeps P initiator ke2Data (fun _ hs => ⟨hs.phase, hs.sessionKey, hs.exportKey⟩)
    (fun _ hs => ⟨hs.phase, hs.sessionKey, hs.exportKey⟩)
    fun _ _ hs => ⟨hs.phase, hs.sessionKey, hs.exportKey⟩

abbrev SameKeys (s t : InitiatorState) : Prop :=
  t.sessionKey = s.sessionKey ∧ t.exportKey = s.exportKey

theorem createRegistrationRequest_ends (secureKey : List UInt8) :
    AgentEnds .created .registrationRequested SameKeys (createRegistrationRequest P secureKey) :=
  Ends.of_blocks (.failIf _ (.phaseCheck rejectExpired_guarded)) (fun _ _ => .rfl)
    InitiatorState.invalidate_dead (fun _ _ _ => registrationRequestBody_keeps P secureKey)
    fun _ _ _ _ hs => ⟨(), _, rfl, rfl, hs.sessionKey, hs.exportKey⟩

theorem generateKe1_ends (secureKey accountId : List UInt8) :
    AgentEnds .created .ke1Generated SameKeys (generateKe1 P secureKey accountId) :=
  Ends.of_blocks (.failIf _ (.failIf _ (.phaseCheck rejectExpired_guarded))) (fun _ _ => .rfl)
    InitiatorState.invalidate_dead (fun _ _ _ => ke1Body_keeps P secureKey accountId)
    fun _ _ _ _ hs => ⟨(), _, rfl, rfl, hs.sessionKey, hs.exportKey⟩

structure RegistrationErased (s : InitiatorState) : Prop where
  secureKey : s.secureKey = zeros _
  secureKeyLen : s.secureKeyLen = 0
  obliviousPrfBlindScalar : s.obliviousPrfBlindScalar = zeros _
  initiatorPrivateKey : s.initiatorPrivateKey = zeros _

theorem finalizeRegistration_ends (initiator : OpaqueInitiator) (response : List UInt8) :
    AgentEnds .registrationRequested .registrationFinalized
      (fun s t => SameKeys s t ∧ RegistrationErased t)
      (finalizeRegistration P initiator response) := by
  refine Ends.of_blocks (.failIf _ (.phaseCheck ?_)) (fun _ _ => .rfl)
    InitiatorState.invalidate_dead (fun response _ _ => finalizeBody_keeps P response) ?_
  · refine .bind rejectExpired_guarded fun _ => .bind (.lift _) fun _ => ?_
    exact .bind (.lift _) fun _ => .bind (.abortIf _) fun _ => .pure _
  · intro _ s₀ f _ hs
    exact ⟨(), _, rfl, rfl, ⟨hs.sessionKey, hs.exportKey⟩, rfl, rfl, rfl, rfl⟩

/-- What the client no longer needs once the keys are derived. -/
structure HandshakeErased (s : InitiatorState) : Prop where
  secureKey : s.secureKey = zeros _
  secureKeyLen : s.secureKeyLen = 0
  obliviousPrfBlindScalar : s.obliviousPrfBlindScalar = zeros _
  pqEphemeralSecretKey : s.pqEphemeralSecretKey = zeros _

theorem generateKe3_ends (initiator : OpaqueInitiator) (ke2Data : List UInt8) :
    AgentEnds .ke1Generated .ke3Generated (fun _ t => HandshakeErased t)
      (generateKe3 P initiator ke2Data) := by
  have hends : AgentEnds .ke1Generated .ke3Generated (fun _ _ => True)
      (generateKe3Traced P initiator ke2Data) := by
    refine Ends.of_blocks_onErr (.failIf _ (.phaseCheck ?_)) (fun _ _ => .rfl)
      InitiatorState.invalidate_dead (fun _ _ _ => ke3Derive_sameStage P initiator ke2Data) ?_
    · exact .bind rejectExpired_guarded fun _ => .bind .getState fun _ => .failIf _
    · exact fun derived s₀ f _ _ => ⟨_, _, rfl, rfl, trivial⟩
  intro f f' o hrun
  rcases hends.discard f f' o hrun with ⟨hok, hsource, htarget, -⟩ | hfail
  · refine .inl ⟨hok, hsource, htarget, ?_⟩
    obtain ⟨u, rfl⟩ := Outcome.isOk_eq_true_iff.mp hok
    obtain ⟨r, htraced⟩ := generateKe3_eq_ok_iff.mp hrun
    obtain ⟨-, v, -, rfl⟩ := generateKe3Traced_eq_ok_iff.mp htraced
    constructor <;> rfl
  · exact .inr hfail

/-- An admitted KE2 that is refused ends the session. -/
theorem generateKe3_refused {initiator : OpaqueInitiator} {ke2Data : List UInt8}
    {f f' : Frame Ke3Message InitiatorState} {e : OpaqueError}
    (hlen : ke2Data.length = ke2Length) (hphase : f.state.phase = .ke1Generated)
    (hhash : f.state.accountContextHash ≠ zeros _)
    (hrun : (generateKe3 P initiator ke2Data).run f = (.err e, f')) : f'.state.Dead := by
  rw [generateKe3, generateKe3Traced] at hrun
  rcases ke3Checks_cases ke2Data f with ⟨-, -, hpass⟩ | ⟨e', w, hwhy, hfail⟩ | ⟨-, -, -, hexpired⟩
  · rcases hbody : (ke3Body P initiator ke2Data).run { f with world := f.world.tick } with
      ⟨r | e' | _, g⟩
    · simp [Cmd.run_bind, hpass, Cmd.onErr, hbody] at hrun
    · simp only [Cmd.run_bind, hpass, Cmd.onErr, hbody] at hrun
      cases hrun
      exact InitiatorState.invalidate_dead _
    · simp [Cmd.run_bind, hpass, Cmd.onErr, hbody] at hrun
  · rcases hwhy with (hlen' | hphase') | ⟨-, hzero⟩
    · exact absurd hlen hlen'
    · exact absurd hphase hphase'
    · exact absurd (isAllZero_toList_iff.mp hzero) hhash
  · simp only [Cmd.run_bind, hexpired] at hrun
    cases hrun
    exact InitiatorState.invalidate_dead _

theorem initiatorFinish_cases (f : Frame SessionOutput InitiatorState) :
    (f.state.phase ≠ .ke3Generated ∧ initiatorFinish.run f = (.err .validationError, f)) ∨
    (f.state.phase = .ke3Generated ∧ f.state.sessionKey = zeros _ ∧
      initiatorFinish.run f = (.err .invalidInput, { f with state := f.state.invalidate })) ∨
    (f.state.phase = .ke3Generated ∧ f.state.sessionKey ≠ zeros _ ∧ ∃ s' : InitiatorState,
      s'.Dead ∧ initiatorFinish.run f =
        (.ok (), { f with
          out := { sessionKey := f.state.sessionKey, exportKey := f.state.exportKey }
          state := s' })) := by
  rw [initiatorFinish, Cmd.run_bind_ok (Op.run_getState f)]
  by_cases hphase : f.state.phase = .ke3Generated
  · rw [Cmd.run_bind_ok (by rw [Cmd.run_failIf, Outcome.failIf_neg _ (not_not.mpr hphase)])]
    by_cases hzero : f.state.sessionKey = zeros _
    · refine .inr (.inl ⟨hphase, hzero, Cmd.run_bind_err ?_⟩)
      rw [Cmd.run_abortIf, if_pos (isAllZero_toList_iff.mpr hzero)]
    · refine .inr (.inr ⟨hphase, hzero, ?_⟩)
      rw [Cmd.run_bind_ok (by
        rw [Cmd.run_abortIf, if_neg (fun h => hzero (isAllZero_toList_iff.mp h))])]
      exact ⟨_, ⟨rfl, by constructor <;> rfl⟩, rfl⟩
  · exact .inl ⟨hphase, Cmd.run_bind_err (by
      rw [Cmd.run_failIf, Outcome.failIf_pos _ hphase])⟩

theorem initiatorFinish_ok {u : Unit} {f f' : Frame SessionOutput InitiatorState}
    (hrun : initiatorFinish.run f = (.ok u, f')) :
    f'.out = { sessionKey := f.state.sessionKey, exportKey := f.state.exportKey } := by
  rcases initiatorFinish_cases f with ⟨-, h⟩ | ⟨-, -, h⟩ | ⟨-, -, s', -, h⟩ <;>
    rw [h] at hrun <;> cases hrun
  rfl

theorem initiatorFinish_ends :
    Ends InitiatorState.phase (fun _ _ => False) Dead .ke3Generated .finished
      (fun _ t => t.Erased) initiatorFinish := by
  intro f f' o hrun
  rcases initiatorFinish_cases f with ⟨-, h⟩ | ⟨hphase, -, h⟩ | ⟨hphase, -, s', hdead, h⟩ <;>
    rw [h] at hrun <;> cases hrun
  · exact .inr ⟨rfl, .inl rfl⟩
  · exact .inr ⟨rfl, .inr ⟨hphase, .inr (InitiatorState.invalidate_dead _)⟩⟩
  · exact .inl ⟨rfl, hphase, hdead.phase, hdead.erased⟩

end Operations

/-! ## Calls in any order -/

inductive Operation where
  | createRegistrationRequest
  | finalizeRegistration
  | generateKe1
  | generateKe3
  | initiatorFinish
  deriving DecidableEq

namespace Operation

def source : Operation → InitiatorPhase
  | createRegistrationRequest => .created
  | finalizeRegistration => .registrationRequested
  | generateKe1 => .created
  | generateKe3 => .ke1Generated
  | initiatorFinish => .ke3Generated

def target : Operation → InitiatorPhase
  | createRegistrationRequest => .registrationRequested
  | finalizeRegistration => .registrationFinalized
  | generateKe1 => .ke1Generated
  | generateKe3 => .ke3Generated
  | initiatorFinish => .finished

theorem target_ne_created (op : Operation) : op.target ≠ .created := by
  cases op <;> decide

/-- What a success erases and what it leaves alone. -/
def Done : Operation → InitiatorState → InitiatorState → Prop
  | createRegistrationRequest, s, t => SameKeys s t
  | finalizeRegistration, s, t => SameKeys s t ∧ RegistrationErased t
  | generateKe1, s, t => SameKeys s t
  | generateKe3, _, t => HandshakeErased t
  | initiatorFinish, _, t => t.Erased

end Operation

inductive Call where
  | createRegistrationRequest (secureKey : List UInt8) (request : RegistrationRequest)
  | finalizeRegistration (initiator : OpaqueInitiator) (response : List UInt8)
      (record : RegistrationRecord)
  | generateKe1 (secureKey accountId : List UInt8) (ke1 : Ke1Message)
  | generateKe3 (initiator : OpaqueInitiator) (ke2Data : List UInt8) (ke3 : Ke3Message)
  | initiatorFinish (output : SessionOutput)
  | invalidate
  | zeroize

namespace Call

def operation : Call → Option Operation
  | createRegistrationRequest .. => some .createRegistrationRequest
  | finalizeRegistration .. => some .finalizeRegistration
  | generateKe1 .. => some .generateKe1
  | generateKe3 .. => some .generateKe3
  | initiatorFinish .. => some .initiatorFinish
  | invalidate => none
  | zeroize => none

def onSession {Out : Type} (c : Op Out InitiatorState Unit) (out : Out) (s : InitiatorState)
    (w : World) : OpaqueResult Unit × InitiatorState :=
  ((c.run ⟨out, s, w⟩).1, (c.run ⟨out, s, w⟩).2.state)

def exec (call : Call) (s : InitiatorState) (w : World) : OpaqueResult Unit × InitiatorState :=
  match call with
  | createRegistrationRequest secureKey request =>
      onSession (Agent.createRegistrationRequest P secureKey) request s w
  | finalizeRegistration initiator response record =>
      onSession (Agent.finalizeRegistration P initiator response) record s w
  | generateKe1 secureKey accountId ke1 =>
      onSession (Agent.generateKe1 P secureKey accountId) ke1 s w
  | generateKe3 initiator ke2Data ke3 =>
      onSession (Agent.generateKe3 P initiator ke2Data) ke3 s w
  | initiatorFinish output => onSession Agent.initiatorFinish output s w
  | invalidate => (.ok (), s.invalidate)
  | zeroize => (.ok (), s.zeroize)

end Call

structure Event where
  call : Call
  outcome : OpaqueResult Unit

def Event.succeeds (op : Operation) (e : Event) : Bool :=
  decide (e.call.operation = some op) && e.outcome.isOk

def Step (s : InitiatorState) (e : Event) (t : InitiatorState) : Prop :=
  ∃ w, e.call.exec P s w = (e.outcome, t)

abbrev AgentRun (createdAt : ℕ) : List Event → InitiatorState → Prop :=
  Run (Step P) (InitiatorState.newAt createdAt)

variable {P} {s t : InitiatorState} {e : Event}

private theorem ends_onSession {Out : Type} {same : InitiatorState → InitiatorState → Prop}
    {source target : InitiatorPhase} {done : InitiatorState → InitiatorState → Prop}
    {c : Op Out InitiatorState Unit}
    (h : Ends InitiatorState.phase same Dead source target done c) {out : Out} {w : World}
    {o : OpaqueResult Unit} (hexec : Call.onSession c out s w = (o, t)) :
    (o.isOk ∧ s.phase = source ∧ t.phase = target ∧ done s t) ∨
      (o.isOk = false ∧ (t = s ∨ s.phase = source ∧ (same s t ∨ t.Dead))) := by
  cases hexec
  exact h ⟨out, s, w⟩ _ _ rfl

theorem step_cases {op : Operation} (hstep : Step P s e t) (hop : e.call.operation = some op) :
    (e.outcome.isOk ∧ s.phase = op.source ∧ t.phase = op.target ∧ op.Done s t) ∨
    (e.outcome.isOk = false ∧ (t = s ∨ s.phase = op.source ∧
      (op ≠ .initiatorFinish ∧ SameStage s t ∨ t.Dead))) := by
  obtain ⟨w, hexec⟩ := hstep
  obtain ⟨call, o⟩ := e
  cases call with
  | createRegistrationRequest =>
      cases hop
      simpa [Operation.source, Operation.target, Operation.Done] using
        ends_onSession (createRegistrationRequest_ends P _) hexec
  | finalizeRegistration =>
      cases hop
      simpa [Operation.source, Operation.target, Operation.Done] using
        ends_onSession (finalizeRegistration_ends P _ _) hexec
  | generateKe1 =>
      cases hop
      simpa [Operation.source, Operation.target, Operation.Done] using
        ends_onSession (generateKe1_ends P _ _) hexec
  | generateKe3 =>
      cases hop
      simpa [Operation.source, Operation.target, Operation.Done] using
        ends_onSession (generateKe3_ends P _ _) hexec
  | initiatorFinish =>
      cases hop
      simpa [Operation.source, Operation.target, Operation.Done] using
        ends_onSession initiatorFinish_ends hexec
  | invalidate => cases hop
  | zeroize => cases hop

theorem step_cleanup (hstep : Step P s e t) (hop : e.call.operation = none) :
    t.Erased ∧ (t.phase = s.phase ∨ t.phase = .finished) := by
  obtain ⟨w, hexec⟩ := hstep
  obtain ⟨call, o⟩ := e
  cases call with
  | invalidate =>
      cases hexec
      exact ⟨(InitiatorState.invalidate_dead s).erased, .inr rfl⟩
  | zeroize =>
      cases hexec
      exact ⟨InitiatorState.zeroize_erased s, .inl rfl⟩
  | _ => cases hop

theorem Event.succeeds_iff {op : Operation} :
    e.succeeds op ↔ e.call.operation = some op ∧ e.outcome.isOk := by
  simp [Event.succeeds]

/-! ## The phase only moves forward -/

def InitiatorPhase.rank : InitiatorPhase → ℕ
  | .created => 0
  | .registrationRequested => 1
  | .ke1Generated => 1
  | .ke3Generated => 2
  | .registrationFinalized => 3
  | .finished => 3

theorem InitiatorPhase.rank_le (p : InitiatorPhase) : p.rank ≤ 3 := by
  cases p <;> decide

theorem Operation.rank_lt (op : Operation) : op.source.rank < op.target.rank := by
  cases op <;> decide

theorem step_rank (hstep : Step P s e t) : s.phase.rank ≤ t.phase.rank := by
  cases hop : e.call.operation with
  | none =>
      rcases (step_cleanup hstep hop).2 with hphase | hphase
      · rw [hphase]
      · rw [hphase]
        exact s.phase.rank_le
  | some op =>
      rcases step_cases hstep hop with ⟨-, hsource, htarget, -⟩ | ⟨-, hsame⟩
      · rw [hsource, htarget]
        exact op.rank_lt.le
      · rcases hsame with rfl | ⟨-, ⟨-, hstage⟩ | hdead⟩
        · exact le_rfl
        · rw [hstage.phase]
        · rw [hdead.phase]
          exact s.phase.rank_le

theorem step_success {op : Operation} (hstep : Step P s e t) (hsucceeds : e.succeeds op) :
    s.phase = op.source ∧ t.phase = op.target := by
  obtain ⟨hop, hok⟩ := Event.succeeds_iff.mp hsucceeds
  rcases step_cases hstep hop with ⟨-, hsource, htarget, -⟩ | ⟨hfail, -⟩
  · exact ⟨hsource, htarget⟩
  · rw [hok] at hfail
    cases hfail

/-- A phase other than the first and the last is entered by its operation only. -/
theorem step_enters {op : Operation} (hstep : Step P s e t)
    (hne : op ≠ .initiatorFinish) (hphase : t.phase = op.target) :
    s.phase = op.target ∨ e.succeeds op := by
  have hnotFinished : op.target ≠ .finished := by
    cases op <;> first | decide | exact absurd rfl hne
  cases hop : e.call.operation with
  | none =>
      rcases (step_cleanup hstep hop).2 with hsame | hfinished
      · exact .inl (hsame ▸ hphase)
      · exact absurd (hphase.symm.trans hfinished) hnotFinished
  | some op' =>
      rcases step_cases hstep hop with ⟨hok, -, htarget, -⟩ | ⟨-, hsame⟩
      · obtain rfl : op' = op := by
          rw [hphase] at htarget
          revert htarget
          cases op <;> cases op' <;> decide
        exact .inr (Event.succeeds_iff.mpr ⟨hop, hok⟩)
      · rcases hsame with rfl | ⟨-, ⟨-, hstage⟩ | hdead⟩
        · exact .inl hphase
        · exact .inl (hstage.phase ▸ hphase)
        · exact absurd (hphase.symm.trans hdead.phase) hnotFinished

/-! ## The secrets follow the phase -/

structure SecretsFollowPhase (s : InitiatorState) : Prop where
  outputKeys : s.phase ≠ .ke3Generated → s.sessionKey = zeros _ ∧ s.exportKey = zeros _
  finished : s.phase = .finished → s.Erased
  registrationFinalized : s.phase = .registrationFinalized → RegistrationErased s
  ke3Generated : s.phase = .ke3Generated → HandshakeErased s

theorem InitiatorState.Erased.secretsFollowPhase (h : s.Erased) : SecretsFollowPhase s where
  outputKeys _ := ⟨h.sessionKey, h.exportKey⟩
  finished _ := h
  registrationFinalized _ :=
    ⟨h.secureKey, h.secureKeyLen, h.obliviousPrfBlindScalar, h.initiatorPrivateKey⟩
  ke3Generated _ :=
    ⟨h.secureKey, h.secureKeyLen, h.obliviousPrfBlindScalar, h.pqEphemeralSecretKey⟩

theorem InitiatorState.newAt_erased (createdAt : ℕ) : (newAt createdAt).Erased := by
  constructor <;> rfl

/-- Where the output keys stay zero and the phase asks for nothing more. -/
theorem secretsFollowPhase_of_keys (hphase : t.phase = .created ∨
      t.phase = .registrationRequested ∨ t.phase = .ke1Generated)
    (hkeys : t.sessionKey = zeros _ ∧ t.exportKey = zeros _) : SecretsFollowPhase t where
  outputKeys _ := hkeys
  finished h := by rw [h] at hphase; simp at hphase
  registrationFinalized h := by rw [h] at hphase; simp at hphase
  ke3Generated h := by rw [h] at hphase; simp at hphase

theorem Operation.outputKeys_of_source {op : Operation} (hne : op ≠ .initiatorFinish)
    (hs : SecretsFollowPhase s) (hsource : s.phase = op.source) :
    s.sessionKey = zeros _ ∧ s.exportKey = zeros _ := by
  refine hs.outputKeys ?_
  rw [hsource]
  cases op <;> first | decide | exact absurd rfl hne

theorem SameKeys.zeros (hkeys : SameKeys s t)
    (hs : s.sessionKey = Foundation.zeros _ ∧ s.exportKey = Foundation.zeros _) :
    t.sessionKey = Foundation.zeros _ ∧ t.exportKey = Foundation.zeros _ :=
  ⟨hkeys.1.trans hs.1, hkeys.2.trans hs.2⟩

/-- What a success leaves behind is what its target phase allows. -/
theorem Operation.Done.secretsFollowPhase {op : Operation} (hdone : op.Done s t)
    (hs : SecretsFollowPhase s) (hsource : s.phase = op.source) (htarget : t.phase = op.target) :
    SecretsFollowPhase t := by
  cases op with
  | createRegistrationRequest =>
      exact secretsFollowPhase_of_keys (.inr (.inl htarget))
        (SameKeys.zeros hdone (outputKeys_of_source (by decide) hs hsource))
  | finalizeRegistration =>
      obtain ⟨hkeys, herased⟩ := hdone
      have hzero := SameKeys.zeros hkeys (outputKeys_of_source (by decide) hs hsource)
      constructor <;> intro h <;> first | exact hzero | exact herased | (rw [htarget] at h; cases h)
  | generateKe1 =>
      exact secretsFollowPhase_of_keys (.inr (.inr htarget))
        (SameKeys.zeros hdone (outputKeys_of_source (by decide) hs hsource))
  | generateKe3 =>
      constructor <;> intro h <;>
        first | exact absurd htarget h | exact hdone | (rw [htarget] at h; cases h)
  | initiatorFinish => exact InitiatorState.Erased.secretsFollowPhase hdone

theorem step_secrets (hs : SecretsFollowPhase s) (hstep : Step P s e t) :
    SecretsFollowPhase t := by
  cases hop : e.call.operation with
  | none => exact (step_cleanup hstep hop).1.secretsFollowPhase
  | some op =>
      rcases step_cases hstep hop with ⟨-, hsource, htarget, hdone⟩ | ⟨-, hsame⟩
      · exact hdone.secretsFollowPhase hs hsource htarget
      · rcases hsame with rfl | ⟨hsource, ⟨hne, hstage⟩ | hdead⟩
        · exact hs
        · have hzero := Operation.outputKeys_of_source hne hs hsource
          refine secretsFollowPhase_of_keys ?_
            (SameKeys.zeros ⟨hstage.sessionKey, hstage.exportKey⟩ hzero)
          rw [hstage.phase, hsource]
          cases op <;> simp_all [Operation.source]
        · exact hdead.erased.secretsFollowPhase

/-! ## Whole runs -/

variable {createdAt : ℕ} {history before after : List Event}

theorem run_secrets (hrun : AgentRun P createdAt history s) : SecretsFollowPhase s :=
  hrun.stateInvariant (InitiatorState.newAt_erased createdAt).secretsFollowPhase
    fun _ _ _ hs hstep => step_secrets hs hstep

theorem run_count_le_one (op : Operation) (hrun : AgentRun P createdAt history s) :
    history.countP (Event.succeeds op) ≤ 1 := by
  refine @Run.count_le_one _ _ _ _ _ _ _ (fun s => s.phase.rank) op.source.rank hrun
    (fun _ _ _ hstep => step_rank hstep) ?_
  intro s e t hstep hsucceeds
  obtain ⟨hsource, htarget⟩ := step_success hstep hsucceeds
  exact ⟨by rw [hsource], by rw [htarget]; exact op.rank_lt⟩

/-- Registration and login both start in the first phase, so only one of them does. -/
theorem run_start_count_le_one (hrun : AgentRun P createdAt history s) :
    history.countP (fun e =>
      e.succeeds .createRegistrationRequest || e.succeeds .generateKe1) ≤ 1 := by
  refine @Run.count_le_one _ _ _ _ _ _ _ (fun s => s.phase.rank) 0 hrun
    (fun _ _ _ hstep => step_rank hstep) ?_
  intro s e t hstep hsucceeds
  rcases Bool.or_eq_true_iff.mp hsucceeds with hcreate | hke1
  · obtain ⟨hsource, htarget⟩ := step_success hstep hcreate
    exact ⟨by rw [hsource]; rfl, by rw [htarget]; decide⟩
  · obtain ⟨hsource, htarget⟩ := step_success hstep hke1
    exact ⟨by rw [hsource]; rfl, by rw [htarget]; decide⟩

theorem run_preceded {op earlier : Operation} (hsource : op.source = earlier.target)
    (hne : earlier ≠ .initiatorFinish)
    (hrun : AgentRun P createdAt (before ++ e :: after) s) (hsucceeds : e.succeeds op) :
    ∃ e' ∈ before, e'.succeeds earlier := by
  refine @Run.preceded _ _ _ _ _ (fun e => e.succeeds op) (fun e => e.succeeds earlier)
    (fun s => s.phase = earlier.target) ?_ ?_ ?_ _ _ _ hrun hsucceeds
  · intro h
    cases earlier <;> cases h
  · intro s e t hstep h
    exact (step_success hstep h).1.trans hsource
  · exact fun s e t hstep hphase => step_enters hstep hne hphase

/-- No operation does anything in a phase that is no operation's source. -/
theorem step_absorbed {op : Operation} (hstep : Step P s e t)
    (hop : e.call.operation = some op)
    (hphase : s.phase = .finished ∨ s.phase = .registrationFinalized) :
    e.outcome.isOk = false ∧ t = s := by
  have hnot : s.phase ≠ op.source := by
    intro h
    rw [h] at hphase
    revert hphase
    cases op <;> decide
  rcases step_cases hstep hop with ⟨-, hsource, -⟩ | ⟨hfail, hsame | ⟨hsource, -⟩⟩
  · exact absurd hsource hnot
  · exact ⟨hfail, hsame⟩
  · exact absurd hsource hnot

/-! ## The account of a login -/

theorem generateKe1_account {password accountId : List UInt8} {u : Unit}
    {f f' : Frame Ke1Message InitiatorState}
    (h : (generateKe1 P password accountId).run f = (.ok u, f')) :
    f'.state.accountContextHash = sha512Multi P [Labels.accountContextBinding, accountId] := by
  simp only [generateKe1, ke1Body, Cmd.bind_assoc] at h
  obtain ⟨_, f₁, -, h⟩ := Cmd.run_bind_eq_ok_iff.mp h
  obtain ⟨_, f₂, -, h⟩ := Cmd.run_bind_eq_ok_iff.mp h
  rw [Cmd.run_bind_ok (Op.run_modifyState _ _)] at h
  -- everything after the hash has been stored leaves it alone
  refine Keeps.of_run (J := fun s => s.accountContextHash =
    sha512Multi P [Labels.accountContextBinding, accountId]) ?_ h rfl
  refine .bind (.onWorld _) fun _ => .bind (.modifyState fun _ hs => hs) fun _ => ?_
  refine .bind (.lift _) fun _ => .bind (.modifyState fun _ hs => hs) fun _ => ?_
  refine .bind (.modifyState fun _ hs => hs) fun _ => .bind (.onWorld _) fun _ => ?_
  refine .bind (.modifyState fun _ hs => hs) fun _ => .bind (.onWorld _) fun _ => ?_
  refine .bind (.modifyOut _) fun _ => .bind (.modifyState fun _ hs => hs) fun _ => ?_
  refine .bind (.modifyOut _) fun _ => .bind (.zoom fun _ _ hs => hs) fun _ => ?_
  refine .bind (.modifyOut _) fun _ => .bind ?_ fun _ => .modifyState fun _ hs => hs
  exact .bind (.onWorld _) fun _ => .modifyState fun _ hs => hs

/-- A KE2 never changes the account of a session, it can only erase it. -/
theorem generateKe3_account (initiator : OpaqueInitiator) (ke2Data : List UInt8)
    (hash : Bytes hashLength) :
    Keeps (fun s => s.accountContextHash = hash ∨ s.accountContextHash = zeros _)
      (generateKe3 P initiator ke2Data) := by
  have hinvalidate : ∀ s : InitiatorState,
      s.accountContextHash = hash ∨ s.accountContextHash = zeros _ →
      s.invalidate.accountContextHash = hash ∨ s.invalidate.accountContextHash = zeros _ :=
    fun _ _ => .inr rfl
  refine .bind (.bind ?_ fun _ => .onErr (.bind ?_ fun _ => ?_) hinvalidate) fun _ => .pure _
  · refine .bind (.failIf _) fun _ => .bind .getState fun _ => .bind (.failIf _) fun _ => ?_
    refine .bind (.bind .getState fun _ => .bind (.onWorld _) fun _ => .abortIf _ hinvalidate)
      fun _ => ?_
    exact .bind .getState fun _ => .failIf _
  · exact ke3Derive_keeps P initiator ke2Data (fun _ hs => hs) (fun _ hs => hs) fun _ _ hs => hs
  · refine .bind (.modifyOut _) fun _ => .bind .getState fun _ => ?_
    refine .bind (.modifyState fun _ hs => hs) fun _ => .bind ?_ fun _ => ?_
    · exact .bind (.onWorld _) fun _ => .modifyState fun _ hs => hs
    · exact .bind (.modifyState fun _ hs => hs) fun _ => .pure _

variable (P) in
/-- A session that awaits a KE2 is bound to the account its login was started for. -/
structure AccountInvariant (history : List Event) (s : InitiatorState) : Prop where
  notStarted : s.phase = .created → ∀ e ∈ history, e.succeeds .generateKe1 = false
  account : s.phase = .ke1Generated → ∀ e ∈ history, ∀ password accountId ke1,
    e.call = .generateKe1 password accountId ke1 → e.succeeds .generateKe1 →
    s.accountContextHash = sha512Multi P [Labels.accountContextBinding, accountId] ∨
      s.accountContextHash = zeros _

theorem AccountInvariant.keep (h : AccountInvariant P history s)
    (hfail : e.succeeds .generateKe1 = false) (hphase : t.phase = s.phase)
    (hhash : t.phase = .ke1Generated →
      t.accountContextHash = s.accountContextHash ∨ t.accountContextHash = zeros _) :
    AccountInvariant P (history ++ [e]) t where
  notStarted hcreated e' hmem := by
    rcases mem_snoc.mp hmem with hmem | rfl
    · exact h.notStarted (hphase ▸ hcreated) e' hmem
    · exact hfail
  account hke1 e' hmem password accountId ke1 hcall hsucceeds := by
    rcases mem_snoc.mp hmem with hmem | rfl
    · rcases hhash hke1 with hsame | hzero
      · rw [hsame]
        exact h.account (hphase ▸ hke1) e' hmem password accountId ke1 hcall hsucceeds
      · exact .inr hzero
    · rw [hfail] at hsucceeds
      cases hsucceeds

theorem accountInvariant_of_phase (hcreated : t.phase ≠ .created) (hke1 : t.phase ≠ .ke1Generated) :
    AccountInvariant P history t :=
  ⟨fun h => absurd h hcreated, fun h => absurd h hke1⟩

theorem AccountInvariant.step (h : AccountInvariant P history s) (hstep : Step P s e t) :
    AccountInvariant P (history ++ [e]) t := by
  have hdeadCase : t.phase = .finished → AccountInvariant P (history ++ [e]) t :=
    fun hphase => accountInvariant_of_phase (by simp [hphase]) (by simp [hphase])
  cases hop : e.call.operation with
  | none =>
      have hfail : e.succeeds .generateKe1 = false := by simp [Event.succeeds, hop]
      obtain ⟨herased, hphase | hphase⟩ := step_cleanup hstep hop
      · exact h.keep hfail hphase fun _ => .inr herased.accountContextHash
      · exact hdeadCase hphase
  | some op =>
      rcases step_cases hstep hop with ⟨hok, hsource, htarget, -⟩ | ⟨hfail, hrest⟩
      · by_cases hke1 : op = .generateKe1
        · subst hke1
          refine ⟨fun hcreated => ?_, fun _ e' hmem password accountId ke1 hcall hsucceeds => ?_⟩
          · rw [htarget] at hcreated
            cases hcreated
          · rcases mem_snoc.mp hmem with hmem | rfl
            · rw [h.notStarted hsource e' hmem] at hsucceeds
              cases hsucceeds
            · obtain ⟨w, hexec⟩ := hstep
              obtain ⟨u, hu⟩ := Outcome.isOk_eq_true_iff.mp hok
              rw [hcall, Call.exec, Call.onSession, hu, Prod.mk.injEq] at hexec
              refine .inl ?_
              rw [← hexec.2]
              exact @generateKe1_account P password accountId u ⟨ke1, s, w⟩ _
                (Prod.ext hexec.1 rfl)
        · refine accountInvariant_of_phase ?_ ?_ <;> rw [htarget] <;>
            cases op <;> first | decide | exact absurd rfl hke1
      · have hnot : e.succeeds .generateKe1 = false := by simp [Event.succeeds, hfail]
        rcases hrest with rfl | ⟨hsource, ⟨-, hstage⟩ | hdead⟩
        · exact h.keep hnot rfl fun _ => .inl rfl
        · refine h.keep hnot hstage.phase fun hke1 => ?_
          obtain rfl : op = .generateKe3 := by
            rw [hstage.phase, hsource] at hke1
            cases op <;> first | rfl | cases hke1
          obtain ⟨w, hexec⟩ := hstep
          obtain ⟨call, o⟩ := e
          cases call with
          | generateKe3 initiator ke2Data ke3 =>
              cases hexec
              exact Keeps.of_run (generateKe3_account initiator ke2Data s.accountContextHash) rfl
                (.inl rfl)
          | _ => cases hop
        · exact hdeadCase hdead.phase

theorem run_account (hrun : AgentRun P createdAt history s) : AccountInvariant P history s :=
  hrun.invariant ⟨fun _ _ hmem => absurd hmem List.not_mem_nil, nofun⟩
    fun _ _ _ _ h hstep => h.step hstep

/-- What the history of a client session looks like. -/
structure OneShot (history : List Event) : Prop where
  atMostOnce : ∀ op, history.countP (Event.succeeds op) ≤ 1
  registersOrLogsIn : history.countP (fun e =>
    e.succeeds .createRegistrationRequest || e.succeeds .generateKe1) ≤ 1
  finalizeAfterRequest : ∀ before e after, history = before ++ e :: after →
    e.succeeds .finalizeRegistration → ∃ e' ∈ before, e'.succeeds .createRegistrationRequest
  ke3AfterKe1 : ∀ before e after, history = before ++ e :: after →
    e.succeeds .generateKe3 → ∃ e' ∈ before, e'.succeeds .generateKe1
  finishAfterKe3 : ∀ before e after, history = before ++ e :: after →
    e.succeeds .initiatorFinish → ∃ e' ∈ before, e'.succeeds .generateKe3

/--
Calls in any order, with any arguments and in any worlds: the session is used
once, its secrets follow its phase, the last two phases are final, and a KE2
that is refused is the last one.
-/
theorem client_session_one_shot (hrun : AgentRun P createdAt history s) :
    OneShot history ∧ SecretsFollowPhase s ∧
      ((s.phase = .finished ∨ s.phase = .registrationFinalized) →
        ∀ e t op, e.call.operation = some op → Step P s e t → e.outcome.isOk = false ∧ t = s) ∧
      ∀ initiator ke2Data ke3 w e f', ke2Data.length = ke2Length → s.phase = .ke1Generated →
        s.accountContextHash ≠ zeros _ →
        (generateKe3 P initiator ke2Data).run ⟨ke3, s, w⟩ = (.err e, f') → f'.state.Dead := by
  refine ⟨⟨fun op => run_count_le_one op hrun, run_start_count_le_one hrun, ?_, ?_, ?_⟩,
    run_secrets hrun, fun hphase e t op hop hstep => step_absorbed hstep hop hphase,
    fun _ _ _ _ _ _ hlen hphase hhash hke3 => generateKe3_refused P hlen hphase hhash hke3⟩
  · rintro before e after rfl hsucceeds
    exact run_preceded rfl (by decide) hrun hsucceeds
  · rintro before e after rfl hsucceeds
    exact run_preceded rfl (by decide) hrun hsucceeds
  · rintro before e after rfl hsucceeds
    exact run_preceded rfl (by decide) hrun hsucceeds

theorem sample_run : ∃ ke1 invalidated t,
    AgentRun Sample.primitives 0 [ke1, invalidated] t ∧ ke1.succeeds .generateKe1 ∧
      t.phase = .finished := by
  have hadmissible : Admissible Sample.primitives [1] :=
    ⟨rfl, by simp, (by decide : (1 : ZMod 5) ≠ 0)⟩
  obtain ⟨d, s, w, -, -, -, -, hke1⟩ := @generateKe1_run Sample.primitives [1] [1]
    ⟨.new, .newAt 0, Sample.world 0⟩ hadmissible rfl rfl (Sample.world_neverExhausted 0)
  have hfirst : Step Sample.primitives (.newAt 0) ⟨.generateKe1 [1] [1] .new, .ok ()⟩ s :=
    ⟨Sample.world 0, by rw [Call.exec, Call.onSession, hke1]⟩
  have hsecond : Step Sample.primitives s ⟨.invalidate, .ok ()⟩ s.invalidate :=
    ⟨Sample.world 0, rfl⟩
  exact ⟨_, _, _, (Run.single hfirst).snoc hsecond, rfl, rfl⟩

theorem client_session_one_shot_sample : ∃ history s, history.length = 2 ∧
    OneShot history ∧ s.Erased ∧
      ∀ e t op, e.call.operation = some op → Step Sample.primitives s e t → t = s := by
  obtain ⟨ke1, invalidated, t, hrun, -, hphase⟩ := sample_run
  obtain ⟨honce, hsecrets, hfinal, -⟩ := client_session_one_shot hrun
  exact ⟨_, t, rfl, honce, hsecrets.finished hphase,
    fun e u op hop hstep => (hfinal (.inl hphase) e u op hop hstep).2⟩

end AuraOpaque.Agent
