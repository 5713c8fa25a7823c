import AuraOpaque.Relay.Credentials
import AuraOpaque.Core.Session
import AuraOpaque.Foundation.Run

/-!
# The life of a relay session

Calls come in any order, with any arguments, any randomness and any clock.
`generateKe2` works on the session before its last check has passed, so its
failures are looked at twice: what they leave behind in general, and when they
leave nothing behind.
-/

namespace AuraOpaque.Relay

open AuraOpaque.Foundation AuraOpaque.Core

variable (P : Primitives)

namespace ResponderState

structure SameStage (s t : ResponderState) : Prop where
  phase : t.phase = s.phase
  handshakeComplete : t.handshakeComplete = true → s.handshakeComplete = true

theorem SameStage.rfl {s : ResponderState} : SameStage s s := ⟨Eq.refl _, id⟩

structure Erased (s : ResponderState) : Prop where
  responderPrivateKey : s.responderPrivateKey = zeros _
  responderEphemeralPrivateKey : s.responderEphemeralPrivateKey = zeros _
  sessionKey : s.sessionKey = zeros _
  expectedInitiatorMac : s.expectedInitiatorMac = zeros _
  pqSharedSecret : s.pqSharedSecret = zeros _

/-- Over without a completed handshake, with nothing left behind. -/
structure Terminal (s : ResponderState) : Prop where
  phase : s.phase = .finished
  handshakeComplete : s.handshakeComplete = false
  erased : s.Erased

theorem newAt_erased (createdAt : ℕ) : (newAt createdAt).Erased := by
  constructor <;> rfl

theorem zeroize_erased (s : ResponderState) : s.zeroize.Erased := by
  constructor <;> rfl

theorem eraseSecrets_erased (s : ResponderState) (complete : Bool) :
    ({ s.eraseSecrets with handshakeComplete := complete, phase := .finished } :
      ResponderState).Erased := by
  constructor <;> rfl

theorem invalidate_terminal (s : ResponderState) : s.invalidate.Terminal where
  phase := rfl
  handshakeComplete := rfl
  erased := by constructor <;> rfl

end ResponderState

open ResponderState (SameStage Erased Terminal)

/-! ## What each operation does to the session -/

section Operations

variable {P} {responder : OpaqueResponder} {accountId : List UInt8} {inputs : Ke2Inputs}

theorem rejectExpired_guarded {Out : Type} :
    Guarded ResponderState.phase ResponderState.invalidate .created
      (rejectExpired : Op Out ResponderState Unit) :=
  fun f hphase => .inl ⟨(), f.world, rejectExpired_run_of_created hphase⟩

/-- The parts of the state that `generateKe2` sets before it works on secrets. -/
structure ResponderState.Adopted (s t : ResponderState) : Prop where
  phase : t.phase = s.phase
  initiatorPublicKey : t.initiatorPublicKey = s.initiatorPublicKey
  responderPrivateKey : t.responderPrivateKey = s.responderPrivateKey
  handshakeComplete : t.handshakeComplete = s.handshakeComplete

open ResponderState (Adopted)

theorem keeps_modify {Out : Type} {s₀ : ResponderState} {g : ResponderState → ResponderState}
    (hg : ∀ s, Adopted s (g s)) :
    Keeps (Adopted s₀) (Op.modifyState g : Op Out ResponderState Unit) :=
  .modifyState fun s hs => ⟨(hg s).phase.trans hs.phase,
    (hg s).initiatorPublicKey.trans hs.initiatorPublicKey,
    (hg s).responderPrivateKey.trans hs.responderPrivateKey,
    (hg s).handshakeComplete.trans hs.handshakeComplete⟩

theorem ke2CredentialResponse_keeps {s₀ : ResponderState} :
    Keeps (Adopted s₀) (ke2CredentialResponse P responder accountId inputs) := by
  refine .bind (.okOr _ _) fun _ => .bind (.lift _) fun _ =>
    .bind (.zoom fun _ _ hs => hs) fun _ => ?_
  exact .bind .getOut fun _ => .bind (.lift _) fun _ => .zoom fun _ _ hs => hs

theorem ke2Secrets_keeps {s₀ : ResponderState} :
    Keeps (Adopted s₀) (ke2Secrets P responder inputs) := by
  refine .bind .getState fun _ => .bind (.lift _) fun _ => .bind (.onWorld _) fun _ => ?_
  refine .bind (.modifyOut _) fun _ => .bind (keeps_modify fun _ => ?_) fun _ => .pure _
  exact ⟨rfl, rfl, rfl, rfl⟩

theorem ke2KeySchedule_keeps {s₀ : ResponderState} {classicalIkm : Bytes classicalIkmLength}
    {kemSs : Bytes kemSharedSecretLength} {macInput : List UInt8} :
    Keeps (Adopted s₀) (ke2KeySchedule P classicalIkm kemSs macInput) := by
  refine .bind (.lift _) fun _ => .bind (keeps_modify fun _ => ⟨rfl, rfl, rfl, rfl⟩) fun _ => ?_
  refine .bind (.zoom fun _ _ hs => ⟨hs.phase, hs.initiatorPublicKey, hs.responderPrivateKey,
    hs.handshakeComplete⟩)
    fun _ => ?_
  refine .bind (.lift _) fun _ => .bind (.lift _) fun _ => .bind (.modifyOut _) fun _ => ?_
  refine .bind (.lift _) fun _ => .bind (.lift _) fun _ => keeps_modify fun _ => ?_
  exact ⟨rfl, rfl, rfl, rfl⟩

/-- However the derivation ends, the client's ephemeral key has been put into the state. -/
theorem ke2Derive_adopts (f : Frame Ke2Message ResponderState) :
    Adopted (f.state.adopt responder.keypair inputs.initEphPk)
      ((ke2Derive P responder accountId inputs).run f).2.state := by
  rw [ke2Derive]
  rcases randomNonzeroScalar_cases P f.world with ⟨e, w, he, -, hdraw⟩ | ⟨w, -, hdraw⟩
  · rw [Cmd.run_bind_ok (ke2Ephemeral_run he hdraw)]
    refine (?_ : Keeps (Adopted (f.state.adopt responder.keypair inputs.initEphPk)) _) _
      ⟨rfl, rfl, rfl, rfl⟩
    refine .bind ke2CredentialResponse_keeps fun _ => .bind ke2Secrets_keeps fun _ => ?_
    refine .bind (.lift _) fun _ => .bind .getState fun _ => .bind .getOut fun _ => ?_
    exact .bind (.lift _) fun _ => .bind ke2KeySchedule_keeps fun _ => .pure _
  · rw [Cmd.run_bind_err (ke2Ephemeral_run_of_err hdraw)]
    exact ⟨rfl, rfl, rfl, rfl⟩

/-- The shape of the statements about the two operations. -/
abbrev RelayEnds {Out α : Type} (source target : ResponderPhase)
    (done : ResponderState → ResponderState → Prop) (c : Op Out ResponderState α) : Prop :=
  Ends ResponderState.phase SameStage Terminal source target done c

theorem ke2Checks_screens (ke1Data accountId : List UInt8) (credentials : ResponderCredentials) :
    Screens ResponderState.phase ResponderState.invalidate .created (do
      ke2Checks ke1Data accountId
      liftM (ke2Inputs P responder ke1Data accountId credentials) :
        Op Ke2Message ResponderState Ke2Inputs) := by
  refine .bind (.failIf _ (.phaseCheck (.bind rejectExpired_guarded fun _ => .failIf _)))
    fun _ => .lift _

theorem generateKe2_ends (ke1Data accountId : List UInt8) (credentials : ResponderCredentials) :
    RelayEnds .created .ke2Generated
      (fun s t => t.handshakeComplete = true → s.handshakeComplete = true)
      (generateKe2 P responder ke1Data accountId credentials) := by
  have hblocks : generateKe2Traced P responder ke1Data accountId credentials = (do
      let inputs ← (do
        ke2Checks ke1Data accountId
        liftM (ke2Inputs P responder ke1Data accountId credentials))
      let trace ← ke2Derive P responder accountId inputs
      refreshDeadline
      Op.modifyState fun s => { s with phase := .ke2Generated }
      pure trace) := by
    rw [Cmd.bind_assoc]
    rfl
  rw [RelayEnds, generateKe2, hblocks]
  refine Ends.discard (Ends.of_blocks (ke2Checks_screens ke1Data accountId credentials)
    (fun _ _ => .rfl) ResponderState.invalidate_terminal ?_ ?_)
  · intro inputs s₀ _ f hs
    have hadopted := @ke2Derive_adopts P responder accountId inputs f
    exact ⟨hadopted.phase.trans hs.phase, fun h => by
      rw [hadopted.handshakeComplete] at h
      cases h⟩
  · intro trace s₀ f _ hs
    exact ⟨_, _, rfl, rfl, hs.handshakeComplete⟩

/-- A KE3 under the current version whose tag is the expected one. -/
def Accepts (s : ResponderState) (ke3Data : List UInt8) : Prop :=
  ke3Data = Protocol.encode [s.expectedInitiatorMac.toList]

/-- The session awaits a KE3 and holds a key. -/
structure AwaitsKe3 (s : ResponderState) (w : World) : Prop where
  phase : s.phase = .ke2Generated
  unexpired : lifetimeOver s.createdAt (w.clock 0) = false
  sessionKey : s.sessionKey ≠ zeros _

section Finish

variable {ke3Data : List UInt8} {f : Frame (Bytes hashLength) ResponderState}

theorem responderFinish_run_of_not_admitted
    (h : ke3Data.length ≠ ke3Length ∨ f.state.phase ≠ .ke2Generated) :
    ∃ e, (responderFinish ke3Data).run f = (.err e, f) := by
  rw [responderFinish]
  by_cases hlen : ke3Data.length = ke3Length
  · have hphase := h.resolve_left (not_not.mpr hlen)
    exact ⟨.validationError, by
      rw [Cmd.run_bind_ok (by rw [Cmd.run_failIf, Outcome.failIf_neg _ (not_not.mpr hlen)]),
        Cmd.run_bind_ok (Op.run_getState f),
        Cmd.run_bind_err (by rw [Cmd.run_failIf, Outcome.failIf_pos _ hphase])]⟩
  · exact ⟨.invalidProtocolMessage, Cmd.run_bind_err (by
      rw [Cmd.run_failIf, Outcome.failIf_pos _ hlen])⟩

/-- An admitted call meets the clock first. -/
theorem responderFinish_run_of_expired (hlen : ke3Data.length = ke3Length)
    (hphase : f.state.phase = .ke2Generated)
    (hexpired : lifetimeOver f.state.createdAt (f.world.clock 0) = true) :
    (responderFinish ke3Data).run f = (.err .validationError,
      { f with state := f.state.invalidate, world := f.world.tick }) := by
  rw [responderFinish,
    Cmd.run_bind_ok (by rw [Cmd.run_failIf, Outcome.failIf_neg _ (not_not.mpr hlen)]),
    Cmd.run_bind_ok (Op.run_getState f),
    Cmd.run_bind_ok (by rw [Cmd.run_failIf, Outcome.failIf_neg _ (not_not.mpr hphase)]),
    Cmd.run_bind_err (by rw [rejectExpired_run hphase, hexpired, if_pos rfl])]

theorem responderFinish_run_of_keyless (hlen : ke3Data.length = ke3Length)
    (hphase : f.state.phase = .ke2Generated)
    (hexpired : lifetimeOver f.state.createdAt (f.world.clock 0) = false)
    (hkey : f.state.sessionKey = zeros _) :
    (responderFinish ke3Data).run f =
      (.err .validationError, { f with world := f.world.tick }) := by
  rw [responderFinish,
    Cmd.run_bind_ok (by rw [Cmd.run_failIf, Outcome.failIf_neg _ (not_not.mpr hlen)]),
    Cmd.run_bind_ok (Op.run_getState f),
    Cmd.run_bind_ok (by rw [Cmd.run_failIf, Outcome.failIf_neg _ (not_not.mpr hphase)]),
    Cmd.run_bind_ok (by rw [rejectExpired_run hphase, hexpired, if_neg Bool.false_ne_true]),
    Cmd.run_bind_ok (Op.run_getState _),
    Cmd.run_bind_err (by
      rw [Cmd.run_failIf, Outcome.failIf_pos _ (isAllZero_toList_iff.mpr hkey)])]

/-- Past the checks only the parser and the comparison of tags are left. -/
private theorem responderFinish_run_of_awaits (hlen : ke3Data.length = ke3Length)
    (h : AwaitsKe3 f.state f.world) :
    (responderFinish ke3Data).run f = (do
      let ke3 ← Cmd.onErr (Cmd.lift (Protocol.parseKe3 ke3Data)) fun f =>
        { f with
          state := { f.state.eraseSecrets with handshakeComplete := false, phase := .finished } }
      Cmd.abortIf (!constantTimeEq ke3.initiatorMac f.state.expectedInitiatorMac.toList)
        (fun f =>
          { f with
            state :=
              { f.state.eraseSecrets with handshakeComplete := false, phase := .finished } })
        .authenticationError
      Op.modifyOut fun _ => f.state.sessionKey
      Op.modifyState fun s =>
        { s.eraseSecrets with handshakeComplete := true, phase := .finished } :
      Op (Bytes hashLength) ResponderState Unit).run { f with world := f.world.tick } := by
  rw [responderFinish,
    Cmd.run_bind_ok (by rw [Cmd.run_failIf, Outcome.failIf_neg _ (not_not.mpr hlen)]),
    Cmd.run_bind_ok (Op.run_getState f),
    Cmd.run_bind_ok (by rw [Cmd.run_failIf, Outcome.failIf_neg _ (not_not.mpr h.phase)]),
    Cmd.run_bind_ok (by
      rw [rejectExpired_run h.phase, h.unexpired, if_neg Bool.false_ne_true]),
    Cmd.run_bind_ok (Op.run_getState _),
    Cmd.run_bind_ok (by
      rw [Cmd.run_failIf,
        Outcome.failIf_neg _ (fun hzero => h.sessionKey (isAllZero_toList_iff.mp hzero))])]

theorem responderFinish_run_of_accepts (h : AwaitsKe3 f.state f.world)
    (haccepts : Accepts f.state ke3Data) :
    (responderFinish ke3Data).run f =
      (.ok (),
        { out := f.state.sessionKey
          state := { f.state.eraseSecrets with handshakeComplete := true, phase := .finished }
          world := f.world.tick }) := by
  have hsized : Protocol.Sized [macLength] [f.state.expectedInitiatorMac.toList] := by
    simp [Protocol.Sized]
  have hparse : Protocol.parseKe3 ke3Data = .ok ⟨f.state.expectedInitiatorMac.toList⟩ :=
    Protocol.parseKe3_reads.eq_ok_iff.mpr ⟨hsized, haccepts⟩
  have hlen : ke3Data.length = ke3Length := by
    rw [haccepts, hsized.encode_length]
    rfl
  rw [responderFinish_run_of_awaits hlen h,
    Cmd.run_bind_ok (Cmd.onErr_eq_ok_iff.mpr (by rw [Cmd.run_lift, hparse])),
    Cmd.run_bind_ok (by
      rw [Cmd.run_abortIf, constantTimeEq_self, if_neg (by decide)])]
  rfl

theorem responderFinish_run_of_refuses (hlen : ke3Data.length = ke3Length)
    (h : AwaitsKe3 f.state f.world) (hrefuses : ¬ Accepts f.state ke3Data) :
    ∃ e, (responderFinish ke3Data).run f =
      (.err e,
        { f with
          state := { f.state.eraseSecrets with handshakeComplete := false, phase := .finished }
          world := f.world.tick }) := by
  rw [responderFinish_run_of_awaits hlen h]
  rcases Protocol.parseKe3_reads.ok_or_err ke3Data with ⟨ke3, hparse⟩ | ⟨e, hparse⟩
  · have hne : ke3.initiatorMac ≠ f.state.expectedInitiatorMac.toList := by
      intro heq
      refine hrefuses ?_
      rw [Accepts, ← heq]
      exact (Protocol.parseKe3_reads.eq_ok_iff.mp hparse).2
    refine ⟨.authenticationError, ?_⟩
    rw [Cmd.run_bind_ok (Cmd.onErr_eq_ok_iff.mpr (by rw [Cmd.run_lift, hparse])),
      Cmd.run_bind_err (by
        rw [Cmd.run_abortIf, constantTimeEq_eq_false_iff.mpr hne, if_pos (by decide)])]
  · have hfail : (Cmd.lift (Protocol.parseKe3 ke3Data) :
        Op (Bytes hashLength) ResponderState Protocol.Ke3Ref).run
          { f with world := f.world.tick } = (.err e, { f with world := f.world.tick }) := by
      rw [Cmd.run_lift, hparse]
    exact ⟨e, Cmd.run_bind_err (Cmd.run_onErr_of_err hfail)⟩

/-- The key is released, or an error leaves the output alone and the session as it was or over. -/
theorem responderFinish_cases (ke3Data : List UInt8)
    (f : Frame (Bytes hashLength) ResponderState) :
    (AwaitsKe3 f.state f.world ∧ Accepts f.state ke3Data ∧
      (responderFinish ke3Data).run f =
        (.ok (),
          { out := f.state.sessionKey
            state := { f.state.eraseSecrets with handshakeComplete := true, phase := .finished }
            world := f.world.tick })) ∨
    ∃ e s' w, (responderFinish ke3Data).run f = (.err e, { f with state := s', world := w }) ∧
      (s' = f.state ∨ f.state.phase = .ke2Generated ∧ s'.Terminal) := by
  by_cases hadmitted : ke3Data.length = ke3Length ∧ f.state.phase = .ke2Generated
  · obtain ⟨hlen, hphase⟩ := hadmitted
    cases hexpired : lifetimeOver f.state.createdAt (f.world.clock 0) with
    | true => exact .inr ⟨_, _, _, responderFinish_run_of_expired hlen hphase hexpired,
        .inr ⟨hphase, ResponderState.invalidate_terminal _⟩⟩
    | false =>
        by_cases hkey : f.state.sessionKey = zeros _
        · exact .inr ⟨_, _, _, responderFinish_run_of_keyless hlen hphase hexpired hkey, .inl rfl⟩
        · have hawaits : AwaitsKe3 f.state f.world := ⟨hphase, hexpired, hkey⟩
          by_cases haccepts : Accepts f.state ke3Data
          · exact .inl ⟨hawaits, haccepts, responderFinish_run_of_accepts hawaits haccepts⟩
          · obtain ⟨e, hrefused⟩ := responderFinish_run_of_refuses hlen hawaits haccepts
            exact .inr ⟨e, _, _, hrefused, .inr
              ⟨hphase, rfl, rfl, ResponderState.eraseSecrets_erased _ _⟩⟩
  · obtain ⟨e, hrefused⟩ := responderFinish_run_of_not_admitted
      (by rwa [not_and_or] at hadmitted)
    exact .inr ⟨e, f.state, f.world, hrefused, .inl rfl⟩

theorem responderFinish_ends (ke3Data : List UInt8) :
    Ends ResponderState.phase (fun _ _ => False) Terminal .ke2Generated .finished
      (fun s t => t.Erased ∧ Accepts s ke3Data ∧ s.sessionKey ≠ zeros _)
      (responderFinish ke3Data) := by
  intro f f' o hrun
  rcases responderFinish_cases ke3Data f with
    ⟨hawaits, haccepts, h⟩ | ⟨e, s', w, h, rfl | ⟨hphase, hterminal⟩⟩ <;>
    rw [h] at hrun <;> cases hrun
  · exact .inl ⟨rfl, hawaits.phase, rfl, ResponderState.eraseSecrets_erased _ _, haccepts,
      hawaits.sessionKey⟩
  · exact .inr ⟨rfl, .inl rfl⟩
  · exact .inr ⟨rfl, .inr ⟨hphase, .inr hterminal⟩⟩

theorem responderFinish_out {ke3Data : List UInt8}
    {f f' : Frame (Bytes hashLength) ResponderState} {o : OpaqueResult Unit}
    (hrun : (responderFinish ke3Data).run f = (o, f')) (hfail : o.isOk = false) :
    f'.out = f.out := by
  rcases responderFinish_cases ke3Data f with ⟨-, -, h⟩ | ⟨e, s', w, h, -⟩ <;>
    rw [h] at hrun <;> cases hrun
  · cases hfail
  · rfl

end Finish

end Operations

/-! ## Calls in any order -/

inductive Operation where
  | generateKe2
  | responderFinish
  deriving DecidableEq

namespace Operation

def source : Operation → ResponderPhase
  | generateKe2 => .created
  | responderFinish => .ke2Generated

def target : Operation → ResponderPhase
  | generateKe2 => .ke2Generated
  | responderFinish => .finished

end Operation

inductive Call where
  | generateKe2 (responder : OpaqueResponder) (ke1Data accountId : List UInt8)
      (credentials : ResponderCredentials) (ke2 : Ke2Message)
  | responderFinish (ke3Data : List UInt8) (sessionKey : Bytes hashLength)
  | invalidate
  | zeroize

namespace Call

def operation : Call → Option Operation
  | generateKe2 .. => some .generateKe2
  | responderFinish .. => some .responderFinish
  | invalidate => none
  | zeroize => none

def onSession {Out : Type} (c : Op Out ResponderState Unit) (out : Out) (s : ResponderState)
    (w : World) : OpaqueResult Unit × ResponderState :=
  ((c.run ⟨out, s, w⟩).1, (c.run ⟨out, s, w⟩).2.state)

def exec (call : Call) (s : ResponderState) (w : World) : OpaqueResult Unit × ResponderState :=
  match call with
  | generateKe2 responder ke1Data accountId credentials ke2 =>
      onSession (Relay.generateKe2 P responder ke1Data accountId credentials) ke2 s w
  | responderFinish ke3Data sessionKey =>
      onSession (Relay.responderFinish ke3Data) sessionKey s w
  | invalidate => (.ok (), s.invalidate)
  | zeroize => (.ok (), s.zeroize)

/-- What a success says about the states before and after it. -/
def Done : Call → ResponderState → ResponderState → Prop
  | generateKe2 .., s, t => t.handshakeComplete = true → s.handshakeComplete = true
  | responderFinish ke3Data _, s, t => t.Erased ∧ Accepts s ke3Data ∧ s.sessionKey ≠ zeros _
  | _, _, _ => True

end Call

structure Event where
  call : Call
  outcome : OpaqueResult Unit
  after : ResponderState

def Event.succeeds (op : Operation) (e : Event) : Bool :=
  decide (e.call.operation = some op) && e.outcome.isOk

def Step (s : ResponderState) (e : Event) (t : ResponderState) : Prop :=
  e.after = t ∧ ∃ w, e.call.exec P s w = (e.outcome, t)

abbrev RelayRun (createdAt : ℕ) : List Event → ResponderState → Prop :=
  Run (Step P) (ResponderState.newAt createdAt)

variable {P} {s t : ResponderState} {e : Event}

private theorem ends_onSession {Out : Type} {same : ResponderState → ResponderState → Prop}
    {source target : ResponderPhase} {done : ResponderState → ResponderState → Prop}
    {c : Op Out ResponderState Unit}
    (h : Ends ResponderState.phase same Terminal source target done c) {out : Out} {w : World}
    {o : OpaqueResult Unit} (hexec : Call.onSession c out s w = (o, t)) :
    (o.isOk ∧ s.phase = source ∧ t.phase = target ∧ done s t) ∨
      (o.isOk = false ∧ (t = s ∨ s.phase = source ∧ (same s t ∨ t.Terminal))) := by
  cases hexec
  exact h ⟨out, s, w⟩ _ _ rfl

theorem step_cases {op : Operation} (hstep : Step P s e t) (hop : e.call.operation = some op) :
    (e.outcome.isOk ∧ s.phase = op.source ∧ t.phase = op.target ∧ e.call.Done s t) ∨
    (e.outcome.isOk = false ∧ (t = s ∨ s.phase = op.source ∧
      (op ≠ .responderFinish ∧ SameStage s t ∨ t.Terminal))) := by
  obtain ⟨-, w, hexec⟩ := hstep
  obtain ⟨call, o, after⟩ := e
  cases call with
  | generateKe2 =>
      cases hop
      simpa [Operation.source, Operation.target, Call.Done] using
        ends_onSession (generateKe2_ends _ _ _) hexec
  | responderFinish =>
      cases hop
      simpa [Operation.source, Operation.target, Call.Done] using
        ends_onSession (responderFinish_ends _) hexec
  | invalidate => cases hop
  | zeroize => cases hop

theorem step_cleanup (hstep : Step P s e t) (hop : e.call.operation = none) :
    t.Terminal ∨ t = s.zeroize := by
  obtain ⟨-, w, hexec⟩ := hstep
  obtain ⟨call, o, after⟩ := e
  cases call with
  | invalidate =>
      cases hexec
      exact .inl (ResponderState.invalidate_terminal s)
  | zeroize =>
      cases hexec
      exact .inr rfl
  | _ => cases hop

theorem Event.succeeds_iff {op : Operation} :
    e.succeeds op ↔ e.call.operation = some op ∧ e.outcome.isOk := by
  simp [Event.succeeds]

theorem step_success {op : Operation} (hstep : Step P s e t) (hsucceeds : e.succeeds op) :
    s.phase = op.source ∧ t.phase = op.target ∧ e.call.Done s t := by
  obtain ⟨hop, hok⟩ := Event.succeeds_iff.mp hsucceeds
  rcases step_cases hstep hop with ⟨-, hdone⟩ | ⟨hfail, -⟩
  · exact hdone
  · rw [hok] at hfail
    cases hfail

/-! ## The phase only moves forward -/

def ResponderPhase.rank : ResponderPhase → ℕ
  | .created => 0
  | .ke2Generated => 1
  | .finished => 2

theorem ResponderPhase.rank_le (p : ResponderPhase) : p.rank ≤ 2 := by
  cases p <;> decide

theorem Operation.rank_lt (op : Operation) : op.source.rank < op.target.rank := by
  cases op <;> decide

theorem step_rank (hstep : Step P s e t) : s.phase.rank ≤ t.phase.rank := by
  have hterminal : t.Terminal → s.phase.rank ≤ t.phase.rank := by
    intro h
    rw [h.phase]
    exact s.phase.rank_le
  cases hop : e.call.operation with
  | none =>
      rcases step_cleanup hstep hop with h | rfl
      · exact hterminal h
      · exact le_rfl
  | some op =>
      rcases step_cases hstep hop with ⟨-, hsource, htarget, -⟩ | ⟨-, rfl | ⟨-, hrest⟩⟩
      · rw [hsource, htarget]
        exact op.rank_lt.le
      · exact le_rfl
      · rcases hrest with ⟨-, hstage⟩ | h
        · rw [hstage.phase]
        · exact hterminal h

theorem not_succeeds_of_finished {later : List Event} {op : Operation}
    (hs : s.phase = .finished) (hrun : Run (Step P) s later t) (hmem : e ∈ later) :
    e.succeeds op = false := by
  obtain ⟨before, u, u', hbefore, hstep⟩ := hrun.step_of_mem hmem
  have hrank : 2 ≤ u.phase.rank := by
    refine hbefore.stateInvariant (I := fun u => 2 ≤ u.phase.rank) ?_ ?_
    · rw [hs]
      exact le_rfl
    · exact fun v e v' hv h => hv.trans (step_rank h)
  by_contra hsucceeds
  have hlt := op.rank_lt
  rw [← (step_success hstep (by simpa using hsucceeds)).1] at hlt
  have := op.target.rank_le
  omega

/-! ## Whole runs -/

/-- What holds of a session and of the calls that led to it. -/
structure RelayInvariant (history : List Event) (s : ResponderState) : Prop where
  erased : s.phase = .finished → s.Erased
  complete : s.handshakeComplete = true →
    s.phase = .finished ∧ ∃ e ∈ history, e.succeeds .responderFinish
  stored : s.phase = .ke2Generated → s.sessionKey ≠ zeros _ →
    ∃ e ∈ history, e.succeeds .generateKe2 ∧
      e.after.expectedInitiatorMac = s.expectedInitiatorMac

variable {createdAt : ℕ} {history before after : List Event}

theorem relayInvariant_of_terminal (h : s.Terminal) : RelayInvariant history s where
  erased _ := h.erased
  complete hc := by
    rw [h.handshakeComplete] at hc
    cases hc
  stored hphase := by
    rw [h.phase] at hphase
    cases hphase

theorem RelayInvariant.later (h : RelayInvariant history s) :
    RelayInvariant (history ++ [e]) s where
  erased := h.erased
  complete hc := by
    obtain ⟨hphase, e', hmem, hsucceeds⟩ := h.complete hc
    exact ⟨hphase, e', List.mem_append_left _ hmem, hsucceeds⟩
  stored hphase hkey := by
    obtain ⟨e', hmem, hstored⟩ := h.stored hphase hkey
    exact ⟨e', List.mem_append_left _ hmem, hstored⟩

theorem RelayInvariant.zeroize (h : RelayInvariant history s) :
    RelayInvariant history s.zeroize where
  erased _ := ResponderState.zeroize_erased s
  complete := h.complete
  stored _ hkey := absurd rfl hkey

/-- In the first phase there is nothing to account for but the completion flag. -/
theorem RelayInvariant.sameStage (h : RelayInvariant history s) (hphase : s.phase = .created)
    (hstage : SameStage s t) : RelayInvariant history t where
  erased hfinished := by
    rw [hstage.phase, hphase] at hfinished
    cases hfinished
  complete hc := by
    have hfinished := (h.complete (hstage.handshakeComplete hc)).1
    rw [hphase] at hfinished
    cases hfinished
  stored hke2 := by
    rw [hstage.phase, hphase] at hke2
    cases hke2

theorem RelayInvariant.success {op : Operation} (h : RelayInvariant history s)
    (hstep : Step P s e t) (hsucceeds : e.succeeds op) :
    RelayInvariant (history ++ [e]) t := by
  obtain ⟨hsource, htarget, hdone⟩ := step_success hstep hsucceeds
  obtain ⟨hop, -⟩ := Event.succeeds_iff.mp hsucceeds
  obtain ⟨hafter, -⟩ := hstep
  obtain ⟨call, o, u⟩ := e
  cases call with
  | generateKe2 =>
      cases hop
      constructor
      · intro hfinished
        rw [htarget] at hfinished
        cases hfinished
      · intro hc
        have hfinished := (h.complete (hdone hc)).1
        rw [hsource] at hfinished
        cases hfinished
      · exact fun _ _ => ⟨_, by simp, hsucceeds, by rw [hafter]⟩
  | responderFinish =>
      cases hop
      constructor
      · exact fun _ => hdone.1
      · exact fun _ => ⟨htarget, _, by simp, hsucceeds⟩
      · intro hke2
        rw [htarget] at hke2
        cases hke2
  | invalidate => cases hop
  | zeroize => cases hop

theorem RelayInvariant.step (h : RelayInvariant history s) (hstep : Step P s e t) :
    RelayInvariant (history ++ [e]) t := by
  cases hop : e.call.operation with
  | none =>
      rcases step_cleanup hstep hop with hterminal | rfl
      · exact relayInvariant_of_terminal hterminal
      · exact h.later.zeroize
  | some op =>
      rcases step_cases hstep hop with ⟨hok, -⟩ | ⟨-, rfl | ⟨hsource, ⟨hne, hstage⟩ | hterminal⟩⟩
      · exact h.success hstep (Event.succeeds_iff.mpr ⟨hop, hok⟩)
      · exact h.later
      · have hcreated : s.phase = .created := by
          rw [hsource]
          cases op <;> first | rfl | exact absurd rfl hne
        exact h.later.sameStage hcreated hstage
      · exact relayInvariant_of_terminal hterminal

theorem relayInvariant_newAt (createdAt : ℕ) :
    RelayInvariant [] (ResponderState.newAt createdAt) := by
  constructor <;> intro h <;> cases h

theorem run_invariant (hrun : RelayRun P createdAt history s) : RelayInvariant history s :=
  hrun.invariant (relayInvariant_newAt createdAt) fun _ _ _ _ h hstep => h.step hstep

theorem run_count_le_one (op : Operation) (hrun : RelayRun P createdAt history s) :
    history.countP (Event.succeeds op) ≤ 1 := by
  refine @Run.count_le_one _ _ _ _ _ _ _ (fun s => s.phase.rank) op.source.rank hrun
    (fun _ _ _ hstep => step_rank hstep) ?_
  intro s e t hstep hsucceeds
  obtain ⟨hsource, htarget, -⟩ := step_success hstep hsucceeds
  exact ⟨by rw [hsource], by rw [htarget]; exact op.rank_lt⟩

/-- The key is released for the stored tag and nothing else. -/
theorem run_finish_stored (hrun : RelayRun P createdAt (before ++ e :: after) s)
    (hsucceeds : e.succeeds .responderFinish) :
    ∃ ke3Data sessionKey, e.call = .responderFinish ke3Data sessionKey ∧
      ∃ e' ∈ before, e'.succeeds .generateKe2 ∧
        ke3Data = Protocol.encode [e'.after.expectedInitiatorMac.toList] := by
  obtain ⟨u, u', hbefore, hstep⟩ := hrun.split_at
  obtain ⟨hsource, -, hdone⟩ := step_success hstep hsucceeds
  obtain ⟨hop, -⟩ := Event.succeeds_iff.mp hsucceeds
  obtain ⟨call, o, v⟩ := e
  cases call with
  | responderFinish ke3Data sessionKey =>
      obtain ⟨-, haccepts, hkey⟩ := hdone
      obtain ⟨e', hmem, hke2, hstored⟩ := (run_invariant hbefore).stored hsource hkey
      refine ⟨ke3Data, sessionKey, rfl, e', hmem, hke2, ?_⟩
      rw [hstored]
      exact haccepts
  | generateKe2 => cases hop
  | invalidate => cases hop
  | zeroize => cases hop

/-- An awaited KE3 of the right length ends the session, whatever it says. -/
theorem responderFinish_finishes {ke3Data : List UInt8} {sessionKey : Bytes hashLength}
    {w : World} {o : OpaqueResult Unit} (hlen : ke3Data.length = ke3Length)
    (hawaits : AwaitsKe3 s w)
    (hexec : (Call.responderFinish ke3Data sessionKey).exec P s w = (o, t)) :
    t.phase = .finished := by
  by_cases haccepts : Accepts s ke3Data
  · rw [Call.exec, Call.onSession,
      @responderFinish_run_of_accepts ke3Data ⟨sessionKey, s, w⟩ hawaits haccepts] at hexec
    cases hexec
    rfl
  · obtain ⟨e, hrefused⟩ :=
      @responderFinish_run_of_refuses ke3Data ⟨sessionKey, s, w⟩ hlen hawaits haccepts
    rw [Call.exec, Call.onSession, hrefused] at hexec
    cases hexec
    rfl

/-- Once a KE2 is out, the session stays as it is or loses its key. -/
theorem later_eq_or_keyless {later : List Event} (hs : s.phase = .ke2Generated)
    (hrun : Run (Step P) s later t) : t = s ∨ t.sessionKey = zeros _ := by
  refine (hrun.stateInvariant (I := fun u => u.phase ≠ .created ∧ (u = s ∨ u.sessionKey = zeros _))
    ⟨by simp [hs], .inl rfl⟩ ?_).2
  intro u e u' ⟨hphase, hkey⟩ hstep
  cases hop : e.call.operation with
  | none =>
      rcases step_cleanup hstep hop with hterminal | rfl
      · exact ⟨by simp [hterminal.phase], .inr hterminal.erased.sessionKey⟩
      · exact ⟨hphase, .inr rfl⟩
  | some op =>
      rcases step_cases hstep hop with ⟨hok, hsource, htarget, -⟩ | ⟨-, rfl | ⟨hsource, hrest⟩⟩
      · refine ⟨by cases op <;> simp [htarget, Operation.target], .inr ?_⟩
        obtain ⟨hafter, w, hexec⟩ := hstep
        obtain ⟨call, o, v⟩ := e
        cases call with
        | generateKe2 =>
            cases hop
            exact absurd hsource hphase
        | responderFinish ke3Data sessionKey =>
            have hdone := (step_success ⟨hafter, w, hexec⟩ (Event.succeeds_iff.mpr ⟨hop, hok⟩)).2.2
            exact hdone.1.sessionKey
        | invalidate => cases hop
        | zeroize => cases hop
      · exact ⟨hphase, hkey⟩
      · rcases hrest with ⟨hne, -⟩ | hterminal
        · cases op with
          | generateKe2 => exact absurd hsource hphase
          | responderFinish => exact absurd rfl hne
        · exact ⟨by simp [hterminal.phase], .inr hterminal.erased.sessionKey⟩

/-- What the history of a relay session looks like. -/
structure OneShot (history : List Event) : Prop where
  atMostOnce : ∀ op, history.countP (Event.succeeds op) ≤ 1
  finishForStored : ∀ before e after, history = before ++ e :: after →
    e.succeeds .responderFinish → ∃ ke3Data sessionKey,
      e.call = .responderFinish ke3Data sessionKey ∧
      ∃ e' ∈ before, e'.succeeds .generateKe2 ∧
        ke3Data = Protocol.encode [e'.after.expectedInitiatorMac.toList]

variable (P) in
/-- One KE3 is all that a session in this state will look at. -/
def OneGuess (s : ResponderState) : Prop :=
  ∀ ke3Data sessionKey w o t, ke3Data.length = ke3Length → AwaitsKe3 s w →
    (Call.responderFinish ke3Data sessionKey).exec P s w = (o, t) →
    t.phase = .finished ∧ ∀ later u, Run (Step P) t later u →
      ∀ e ∈ later, ∀ op, e.succeeds op = false

/--
Calls in any order, with any arguments and in any worlds: the session is used
once, its key is released for the stored tag only, and one attempt ends it.
-/
theorem relay_session_one_shot (hrun : RelayRun P createdAt history s) :
    OneShot history ∧ OneGuess P s ∧ (s.phase = .finished → s.Erased) ∧
      (s.handshakeComplete = true →
        s.phase = .finished ∧ ∃ e ∈ history, e.succeeds .responderFinish) ∧
      ∀ ke3Data sessionKey w o f', (responderFinish ke3Data).run ⟨sessionKey, s, w⟩ = (o, f') →
        o.isOk = false → f'.out = sessionKey := by
  have hinv := run_invariant hrun
  refine ⟨⟨fun op => run_count_le_one op hrun, ?_⟩, ?_, hinv.erased, hinv.complete, ?_⟩
  · rintro before e after rfl hsucceeds
    exact run_finish_stored hrun hsucceeds
  · intro ke3Data sessionKey w o t hlen hawaits hexec
    have hfinished := responderFinish_finishes hlen hawaits hexec
    exact ⟨hfinished, fun later u hlater e hmem op =>
      not_succeeds_of_finished hfinished hlater hmem⟩
  · exact fun ke3Data sessionKey w o f' h hfail => responderFinish_out h hfail

theorem sample_run : ∃ ke2 finish t, RelayRun Sample.primitives 0 [ke2, finish] t ∧
    ke2.succeeds .generateKe2 ∧ finish.succeeds .responderFinish ∧
    t.handshakeComplete = true := by
  obtain ⟨f', hke2, hphase, hcreatedAt, hkey⟩ := sample_answers 0 0
  have hawaits : AwaitsKe3 f'.state (Sample.world 0) :=
    ⟨hphase, by rw [hcreatedAt]; rfl, hkey⟩
  have hfinish := @responderFinish_run_of_accepts (Protocol.encode
    [f'.state.expectedInitiatorMac.toList]) ⟨zeros _, f'.state, Sample.world 0⟩ hawaits rfl
  have hfirst : Step Sample.primitives (.newAt 0)
      ⟨.generateKe2 sampleResponder (sampleKe1 (Sample.encapsulationKey 7).val) [1] .new .new,
        .ok (),
        f'.state⟩ f'.state :=
    ⟨rfl, Sample.world 0, by rw [Call.exec, Call.onSession, hke2]⟩
  have hsecond : Step Sample.primitives f'.state
      ⟨.responderFinish (Protocol.encode [f'.state.expectedInitiatorMac.toList]) (zeros _), .ok (),
        { f'.state.eraseSecrets with handshakeComplete := true, phase := .finished }⟩ _ :=
    ⟨rfl, Sample.world 0, by rw [Call.exec, Call.onSession, hfinish]⟩
  exact ⟨_, _, _, (Run.single hfirst).snoc hsecond, rfl, rfl, rfl⟩

theorem relay_session_one_shot_sample : ∃ history s, history.length = 2 ∧
    s.handshakeComplete = true ∧ OneShot history ∧ OneGuess Sample.primitives s ∧ s.Erased := by
  obtain ⟨ke2, finish, t, hrun, -, -, hcomplete⟩ := sample_run
  obtain ⟨honce, hguess, herased, hfinished, -⟩ := relay_session_one_shot hrun
  exact ⟨_, t, rfl, hcomplete, honce, hguess, herased (hfinished hcomplete).1⟩

end AuraOpaque.Relay
