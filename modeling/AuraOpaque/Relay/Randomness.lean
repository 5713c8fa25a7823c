import AuraOpaque.Core.Randomness
import AuraOpaque.Relay.Lifecycle

/-!
# What a relay session draws

Every call on a session uses up some of the tape or none.  A call that answers
finds its nonce on the part that it uses.
-/

namespace AuraOpaque.Relay

open AuraOpaque.Foundation AuraOpaque.Core

variable (P : Primitives)

theorem rejectExpired_flows {Out : Type} :
    Flows Frame.world (rejectExpired : Op Out ResponderState Unit) := by
  refine .bind .getState fun s => .bind (.onWorld ?_) fun _ => .abortIf _ fun _ => rfl
  rw [ResponderState.isExpired]
  split
  · exact .pure _
  · exact .bind now_flows fun _ => .pure _

theorem ke2Ephemeral_flows (responder : OpaqueResponder) (inputs : Ke2Inputs) :
    Flows Frame.world (ke2Ephemeral P responder inputs) := by
  refine .bind (.modifyState _) fun _ => .bind (.onWorld (randomNonzeroScalar_flows P)) fun _ => ?_
  refine .bind (.modifyState _) fun _ => .bind (.lift _) fun _ => .bind (.modifyState _) fun _ => ?_
  refine .bind (.onWorld (randomBytes_flows _)) fun _ => .bind (.modifyOut _) fun _ => ?_
  exact .modifyOut _

theorem writeCredentialResponse_flows (lo hi : ℕ) (source : List UInt8) :
    Flows Frame.world (writeCredentialResponse lo hi source) :=
  .zoom _ fun _ _ => rfl

theorem ke2CredentialResponse_flows (responder : OpaqueResponder) (accountId : List UInt8)
    (inputs : Ke2Inputs) :
    Flows Frame.world (ke2CredentialResponse P responder accountId inputs) := by
  refine .bind (.okOr _ _) fun _ => .bind (.lift _) fun _ => ?_
  refine .bind (writeCredentialResponse_flows _ _ _) fun _ => .bind .getOut fun _ => ?_
  exact .bind (.lift _) fun _ => writeCredentialResponse_flows _ _ _

theorem ke2Secrets_flows (responder : OpaqueResponder) (inputs : Ke2Inputs) :
    Flows Frame.world (ke2Secrets P responder inputs) := by
  refine .bind .getState fun _ => .bind (.lift _) fun _ => ?_
  refine .bind (.onWorld (PqKem.encapsulate_flows P _)) fun _ => .bind (.modifyOut _) fun _ => ?_
  exact .bind (.modifyState _) fun _ => .pure _

theorem ke2KeySchedule_flows (classicalIkm : Bytes classicalIkmLength)
    (kemSs : Bytes kemSharedSecretLength) (macInput : List UInt8) :
    Flows Frame.world (ke2KeySchedule P classicalIkm kemSs macInput) := by
  refine .bind (.lift _) fun _ => .bind (.modifyState _) fun _ => ?_
  refine .bind (.zoom _ fun _ _ => rfl) fun _ => .bind (.lift _) fun _ => ?_
  refine .bind (.lift _) fun _ => .bind (.modifyOut _) fun _ => .bind (.lift _) fun _ => ?_
  exact .bind (.lift _) fun _ => .modifyState _

theorem ke2Body_flows (responder : OpaqueResponder) (accountId : List UInt8)
    (inputs : Ke2Inputs) : Flows Frame.world (ke2Body P responder accountId inputs) := by
  refine .bind ?_ fun _ => .bind (.bind (.onWorld now_flows) fun _ => .modifyState _) fun _ => ?_
  · refine .bind (ke2Ephemeral_flows P _ _) fun _ => ?_
    refine .bind (ke2CredentialResponse_flows P _ _ _) fun _ => ?_
    refine .bind (ke2Secrets_flows P _ _) fun _ => .bind (.lift _) fun _ => ?_
    refine .bind .getState fun _ => .bind .getOut fun _ => .bind (.lift _) fun _ => ?_
    exact .bind (ke2KeySchedule_flows P _ _ _) fun _ => .pure _
  · exact .bind (.modifyState _) fun _ => .pure _

theorem generateKe2_flows (responder : OpaqueResponder) (ke1Data accountId : List UInt8)
    (credentials : ResponderCredentials) :
    Flows Frame.world (generateKe2 P responder ke1Data accountId credentials) := by
  refine .bind (.bind ?_ fun _ => .bind (.lift _) fun _ => ke2Body_flows P _ _ _) fun _ => .pure _
  refine .bind (.failIf _) fun _ => .bind .getState fun _ => .bind (.failIf _) fun _ => ?_
  exact .bind rejectExpired_flows fun _ => .failIf _

theorem responderFinish_flows (ke3Data : List UInt8) :
    Flows Frame.world (responderFinish ke3Data) := by
  refine .bind (.failIf _) fun _ => .bind .getState fun _ => .bind (.failIf _) fun _ => ?_
  refine .bind rejectExpired_flows fun _ => .bind .getState fun _ => .bind (.failIf _) fun _ => ?_
  refine .bind (.onErr (.cmdLift _) fun _ => rfl) fun _ =>
    .bind (.abortIf _ fun _ => rfl) fun _ => ?_
  exact .bind (.modifyOut _) fun _ => .modifyState _

/-! ## Calls and their world -/

namespace Call

/-- What a call leaves of the world. -/
def worldAfter (call : Call) (s : ResponderState) (w : World) : World :=
  match call with
  | generateKe2 responder ke1Data accountId credentials ke2 =>
      ((Relay.generateKe2 P responder ke1Data accountId credentials).run ⟨ke2, s, w⟩).2.world
  | responderFinish ke3Data sessionKey =>
      ((Relay.responderFinish ke3Data).run ⟨sessionKey, s, w⟩).2.world
  | invalidate => w
  | zeroize => w

/-- The message or the key that a call hands out. -/
def output (call : Call) (s : ResponderState) (w : World) : List UInt8 :=
  match call with
  | generateKe2 responder ke1Data accountId credentials ke2 =>
      let out :=
        ((Relay.generateKe2 P responder ke1Data accountId credentials).run ⟨ke2, s, w⟩).2.out
      Protocol.encode [out.responderNonce.toList, out.responderPublicKey.toList,
        out.credentialResponse.toList, out.responderMac.toList, out.kemCiphertext.toList]
  | responderFinish ke3Data sessionKey =>
      ((Relay.responderFinish ke3Data).run ⟨sessionKey, s, w⟩).2.out.toList
  | _ => []

theorem later_worldAfter (call : Call) (s : ResponderState) (w : World) :
    w.Later (call.worldAfter P s w) := by
  cases call with
  | generateKe2 responder ke1Data accountId credentials ke2 =>
      exact generateKe2_flows P responder ke1Data accountId credentials ⟨ke2, s, w⟩
  | responderFinish ke3Data sessionKey => exact responderFinish_flows ke3Data ⟨sessionKey, s, w⟩
  | invalidate => exact .refl w
  | zeroize => exact .refl w

end Call

variable {P} in
/-- A key is released from the state that the answer left, and for the tag in it. -/
theorem run_finish_answered {createdAt : ℕ} {before : List Event} {s t : ResponderState}
    {ke3Data : List UInt8} {buffer : Bytes hashLength} {w : World}
    (hrun : RelayRun P createdAt before s)
    (hexec : (Call.responderFinish ke3Data buffer).exec P s w = (.ok (), t)) :
    (∃ e ∈ before, e.succeeds .generateKe2 ∧ e.after = s) ∧ Accepts s ke3Data ∧
      (Call.responderFinish ke3Data buffer).output P s w = s.sessionKey.toList := by
  obtain ⟨hok, -⟩ := Prod.mk.inj hexec
  rcases responderFinish_cases ke3Data ⟨buffer, s, w⟩ with
    ⟨hawaits, haccepts, hfinish⟩ | ⟨e, s', w', hfail, -⟩
  · refine ⟨?_, haccepts, congrArg (fun r => r.2.out.toList) hfinish⟩
    have hcreated : (ResponderState.newAt createdAt).phase ≠ .ke2Generated := nofun
    obtain ⟨past, e, between, u, u', rfl, -, hentry, hbefore, hafter, hsince⟩ :=
      @Run.entered _ _ _ _ _ _ (fun u => u.phase = .ke2Generated) hcreated hrun hawaits.phase
    have hsame := later_eq_or_keyless hafter (hsince.mono fun _ _ _ h => h.1)
    obtain rfl := hsame.resolve_right hawaits.sessionKey
    refine ⟨e, by simp, ?_, hentry.1⟩
    cases hop : e.call.operation with
    | none =>
        rcases step_cleanup hentry hop with hterminal | rfl
        · rw [hterminal.phase] at hafter
          cases hafter
        · exact absurd hafter hbefore
    | some op =>
        rcases step_cases hentry hop with ⟨hdone, -, htarget, -⟩ | ⟨-, rfl | ⟨-, hrest⟩⟩
        · rw [hafter] at htarget
          cases op with
          | generateKe2 => exact Event.succeeds_iff.mpr ⟨hop, hdone⟩
          | responderFinish => cases htarget
        · exact absurd hafter hbefore
        · rcases hrest with ⟨-, hstage⟩ | hterminal
          · exact absurd (hstage.phase.symm.trans hafter) hbefore
          · rw [hterminal.phase] at hafter
            cases hafter
  · change ((Relay.responderFinish ke3Data).run ⟨buffer, s, w⟩).1 = .ok () at hok
    rw [hfail] at hok
    cases hok

variable {P} in
/-- The nonce of an answer is a piece of the tape that the answer has used up. -/
theorem Ke2Values.nonce_drawn {responder : OpaqueResponder} {accountId : List UInt8}
    {inputs : Ke2Inputs} {world : World} (v : Ke2Values P responder accountId inputs world) :
    ∃ offset, v.nonce = World.window (fun i => world.tape (i + offset)) nonceLength ∧
      world.Past (offset + (nonceLength + 32)) v.worldAfter := by
  obtain ⟨offset, hoffset⟩ := randomNonzeroScalar_flows P world
  rw [v.draw] at hoffset
  refine ⟨offset, ?_, hoffset.trans ?_⟩
  · exact congrArg (fun tape => World.window tape nonceLength) hoffset
  · have hmessage : v.nonceDrawn.Past 32 v.worldAfter := World.past_advance v.nonceDrawn 32
    exact (World.past_advance v.drawn nonceLength).trans hmessage

end AuraOpaque.Relay
