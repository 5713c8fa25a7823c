import AuraOpaque.Handshake.KeyConfirmation
import AuraOpaque.Agent.Messages
import AuraOpaque.Relay.Randomness

/-!
# Many sessions on an open network

Client sessions on their own devices, and the sessions of one relay process,
which draw from one source.  Whoever drives the network picks every argument of
every call, so messages can be held back, changed, replayed and mixed.
-/

namespace AuraOpaque.Handshake

open AuraOpaque.Foundation AuraOpaque.Core
open Agent (InitiatorState OpaqueInitiator)
open Relay (ResponderState)

variable (P : Primitives) {ι κ : Type} [DecidableEq ι] [DecidableEq κ]

/-! ## The network -/

structure Network (ι κ : Type) where
  clients : ι → InitiatorState
  relays : κ → ResponderState
  /-- The world of the relay's process. -/
  world : World

namespace Network

/-- A call on a session with the state it left and what it handed out, or other work
of the relay. -/
inductive Activity (ι κ : Type) where
  | client (i : ι) (event : Agent.Event) (after : InitiatorState) (output : List UInt8)
  | relay (j : κ) (event : Relay.Event) (output : List UInt8)
  | elsewhere

inductive Step : Network ι κ → Activity ι κ → Network ι κ → Prop where
  | client {net : Network ι κ} {i : ι} {event : Agent.Event} {after : InitiatorState}
      {output : List UInt8} {w : World}
      (hexec : event.call.exec P (net.clients i) w = (event.outcome, after))
      (houtput : output = event.call.output P (net.clients i) w) :
      Step net (.client i event after output)
        { net with clients := Function.update net.clients i after }
  | relay {net : Network ι κ} {j : κ} {event : Relay.Event} {output : List UInt8}
      (hexec : event.call.exec P (net.relays j) net.world = (event.outcome, event.after))
      (houtput : output = event.call.output P (net.relays j) net.world) :
      Step net (.relay j event output)
        { net with
          relays := Function.update net.relays j event.after
          world := event.call.worldAfter P (net.relays j) net.world }
  | elsewhere {net : Network ι κ} {w : World} (hlater : net.world.Later w) :
      Step net .elsewhere { net with world := w }

structure Fresh (net : Network ι κ) : Prop where
  clients : ∀ i, ∃ createdAt, net.clients i = .newAt createdAt
  relays : ∀ j, ∃ createdAt, net.relays j = .newAt createdAt

/-! ## One session at a time -/

def clientEvent (i : ι) : Activity ι κ → Option (Agent.Event)
  | .client i' event _ _ => if i' = i then some event else none
  | _ => none

def relayEvent (j : κ) : Activity ι κ → Option (Relay.Event)
  | .relay j' event _ => if j' = j then some event else none
  | _ => none

variable {P} {net net' : Network ι κ} {event : Activity ι κ} {history : List (Activity ι κ)} {i : ι}
  {j : κ}

theorem Step.client_seen {e : Agent.Event} (hstep : Step P net event net')
    (hsee : clientEvent i event = some e) : Agent.Step P (net.clients i) e (net'.clients i) := by
  cases hstep with
  | @client i' e' after output w hexec houtput =>
      by_cases hi : i' = i
      · subst hi
        rw [clientEvent, if_pos rfl] at hsee
        cases hsee
        change Agent.Step P (net.clients i') e (Function.update net.clients i' after i')
        rw [Function.update_self]
        exact ⟨w, hexec⟩
      · rw [clientEvent, if_neg hi] at hsee
        cases hsee
  | relay => cases hsee
  | elsewhere => cases hsee

theorem Step.client_unseen (hstep : Step P net event net') (hsee : clientEvent i event = none) :
    net'.clients i = net.clients i := by
  cases hstep with
  | @client i' e' after output w hexec houtput =>
      by_cases hi : i' = i
      · rw [clientEvent, if_pos hi] at hsee
        cases hsee
      · exact Function.update_of_ne (Ne.symm hi) _ _
  | relay => rfl
  | elsewhere => rfl

theorem Step.relay_seen {e : Relay.Event} (hstep : Step P net event net')
    (hsee : relayEvent j event = some e) : Relay.Step P (net.relays j) e (net'.relays j) := by
  cases hstep with
  | @relay j' e' output hexec houtput =>
      by_cases hj : j' = j
      · subst hj
        rw [relayEvent, if_pos rfl] at hsee
        cases hsee
        change Relay.Step P (net.relays j') e (Function.update net.relays j' e.after j')
        rw [Function.update_self]
        exact ⟨rfl, net.world, hexec⟩
      · rw [relayEvent, if_neg hj] at hsee
        cases hsee
  | client => cases hsee
  | elsewhere => cases hsee

theorem Step.relay_unseen (hstep : Step P net event net') (hsee : relayEvent j event = none) :
    net'.relays j = net.relays j := by
  cases hstep with
  | @relay j' e' output hexec houtput =>
      by_cases hj : j' = j
      · rw [relayEvent, if_pos hj] at hsee
        cases hsee
      · exact Function.update_of_ne (Ne.symm hj) _ _
  | client => rfl
  | elsewhere => rfl

theorem Step.relay_of {e : Relay.Event} {s : ResponderState} {w : World} (hs : net.relays j = s)
    (hw : net.world = w) (hexec : e.call.exec P s w = (e.outcome, e.after)) :
    Step P net (.relay j e (e.call.output P s w))
      { net with
        relays := Function.update net.relays j e.after
        world := e.call.worldAfter P s w } := by
  subst hs hw
  exact .relay hexec rfl

theorem run_client (hrun : Run (Step P) net history net') (i : ι) :
    Run (Agent.Step P) (net.clients i) (history.filterMap (clientEvent i)) (net'.clients i) :=
  hrun.project (fun _ _ _ _ hstep => hstep.client_seen)
    fun _ _ _ hstep => hstep.client_unseen

theorem run_relay (hrun : Run (Step P) net history net') (j : κ) :
    Run (Relay.Step P) (net.relays j) (history.filterMap (relayEvent j)) (net'.relays j) :=
  hrun.project (fun _ _ _ _ hstep => hstep.relay_seen)
    fun _ _ _ hstep => hstep.relay_unseen

/-- The relay's source is only ever read on. -/
theorem Step.later (hstep : Step P net event net') : net.world.Later net'.world := by
  cases hstep with
  | client => exact .refl _
  | @relay j event output hexec houtput => exact event.call.later_worldAfter P _ _
  | elsewhere hlater => exact hlater

theorem run_later (hrun : Run (Step P) net history net') : net.world.Later net'.world := by
  induction hrun with
  | nil => exact .refl _
  | snoc _ hlast ih => exact ih.trans hlast.later

end Network

/-! ## The sessions of a run -/

section Sessions

open Network (Activity Step Fresh clientEvent relayEvent)

variable {P} {start net net' : Network ι κ} {history : List (Activity ι κ)} {i : ι} {j : κ}

/-- Client `i` has sent a first message for an account. -/
def Requests (history : List (Activity ι κ)) (i : ι) (accountId ke1Data : List UInt8) : Prop :=
  ∃ password ke1 after,
    .client i ⟨.generateKe1 password accountId ke1, .ok ()⟩ after ke1Data ∈ history

/-- Client `i` has answered a KE2 with a KE3, and holds a key. -/
def Confirms (history : List (Activity ι κ)) (i : ι) (ke2Data ke3Data : List UInt8)
    (key : Bytes hashLength) : Prop :=
  ∃ initiator ke3 after, .client i ⟨.generateKe3 initiator ke2Data ke3, .ok ()⟩ after ke3Data ∈
    history ∧ after.sessionKey = key

/-- Relay session `j` has accepted a KE3, and hands out a key. -/
def Accepts (history : List (Activity ι κ)) (j : κ) (ke3Data key : List UInt8) : Prop :=
  ∃ buffer after, .relay j ⟨.responderFinish ke3Data buffer, .ok (), after⟩ key ∈ history

/-- The session is the one that client `i` has in the run. -/
def ClientSession.In (c : ClientSession P) (history : List (Activity ι κ)) (i : ι) : Prop :=
  .client i ⟨.generateKe3 c.initiator c.ke2Data c.out, .ok ()⟩ c.after.state
    (Protocol.encode [c.after.out.initiatorMac.toList]) ∈ history

def RelaySession.In (r : RelaySession P) (history : List (Activity ι κ)) (j : κ) : Prop :=
  .relay j ⟨.generateKe2 r.responder r.ke1Data r.accountId r.credentials r.before.out, .ok (),
    r.after.state⟩ r.ke2Data ∈ history

/-- The first message of the login that a waiting client is in. -/
theorem exists_request (hstart : start.Fresh) (hrun : Run (Step P) start history net)
    (hwaits : (net.clients i).Waits) : ∃ password accountId ke1 after request,
      .client i ⟨.generateKe1 password accountId ke1, .ok ()⟩ after
        (Protocol.encode ((net.clients i).ke1With request).fields) ∈ history := by
  have hcreated : ¬ (start.clients i).Waits := by
    obtain ⟨createdAt, hnew⟩ := hstart.clients i
    rw [hnew]
    exact fun h => nomatch h.phase
  obtain ⟨past, label, between, u, u', rfl, -, hentry, hbefore, hafter, hsince⟩ :=
    @Run.entered _ _ _ _ _ _ (fun net : Network ι κ => (net.clients i).Waits) hcreated hrun hwaits
  have hsame : Agent.SameRequest (u'.clients i) (net.clients i) := by
    have hwaiting : Run (fun s e t => Agent.Step P s e t ∧ s.Waits ∧ t.Waits) (u'.clients i)
        (between.filterMap (clientEvent i)) (net.clients i) :=
      hsince.project (fun _ _ _ _ hstep hsee => ⟨hstep.1.client_seen hsee, hstep.2⟩)
        fun _ _ _ hstep hsee => hstep.1.client_unseen hsee
    exact Agent.run_sameRequest hwaiting
  cases hsee : clientEvent i label with
  | none =>
      rw [hentry.client_unseen hsee] at hafter
      exact absurd hafter hbefore
  | some e =>
      have hsucceeds := Agent.step_waits (hentry.client_seen hsee) hbefore hafter
      cases hentry with
      | @client i' e' after output w hexec houtput =>
          obtain ⟨rfl, rfl⟩ : i' = i ∧ e' = e := by
            simpa [clientEvent] using hsee
          obtain ⟨hop, hok⟩ := Agent.Event.succeeds_iff.mp hsucceeds
          obtain ⟨call, outcome⟩ := e'
          cases call with
          | generateKe1 password accountId ke1 =>
              obtain ⟨request, hrequest⟩ := Agent.Call.output_generateKe1 hexec hok
              obtain ⟨⟨⟩, rfl⟩ := Outcome.isOk_eq_true_iff.mp hok
              have hstate : Function.update u.clients i' after i' = after :=
                Function.update_self _ _ _
              refine ⟨password, accountId, ke1, after, request.toList, ?_⟩
              rw [hsame.ke1With]
              simp only [hstate]
              rw [← hrequest, ← houtput]
              simp
          | _ => cases hop
      | relay => cases hsee
      | elsewhere => cases hsee

/-- A client that has answered a KE2 has a session, which began with a first message in the run. -/
theorem exists_clientSession (hstart : start.Fresh) (hrun : Run (Step P) start history net)
    {ke2Data ke3Data : List UInt8} {key : Bytes hashLength}
    (hconfirms : Confirms history i ke2Data ke3Data key) :
    ∃ c : ClientSession P, c.In history i ∧ c.ke2Data = ke2Data ∧
      ke3Data = Protocol.encode [c.after.out.initiatorMac.toList] ∧ c.view.sessionKey = key ∧
      ∃ request, Requests history i c.accountId
        (Protocol.encode (c.before.ke1With request).fields) := by
  obtain ⟨initiator, ke3, after, hmem, rfl⟩ := hconfirms
  obtain ⟨before, rest, rfl⟩ := List.append_of_mem hmem
  obtain ⟨u, u', hbefore, hstep⟩ := hrun.split_at
  obtain ⟨createdAt, hcreated⟩ := hstart.clients i
  cases hstep with
  | @client _ _ _ _ w hexec houtput =>
      obtain ⟨hresult, hafter⟩ := Prod.mk.inj hexec
      obtain ⟨⟨secrets, transcript⟩, htraced⟩ :=
        Agent.generateKe3_eq_ok_iff.mp (Prod.ext hresult rfl)
      obtain ⟨hawaits, v, -⟩ := Agent.generateKe3Traced_eq_ok_iff.mp htraced
      have hwaits : (u.clients i).Waits :=
        ⟨hawaits.phase, isAllZero_toList_eq_false_iff.mp hawaits.accountContextHash⟩
      obtain ⟨password, accountId, ke1, sent, request, hrequest⟩ :=
        exists_request hstart hbefore hwaits
      have hagent := Network.run_client hbefore i
      rw [hcreated] at hagent
      have hseen : ⟨.generateKe1 password accountId ke1, .ok ()⟩ ∈
          before.filterMap (clientEvent i) :=
        List.mem_filterMap.mpr ⟨_, hrequest, by simp [clientEvent]⟩
      let c : ClientSession P :=
        { createdAt := createdAt
          history := before.filterMap (clientEvent i)
          before := u.clients i
          run := hagent
          accountId := accountId
          started := ⟨_, hseen, ⟨_, _, rfl⟩, rfl⟩
          initiator := initiator
          ke2Data := ke2Data
          ke2 := v.ke2
          parse := (Agent.readKe2_ok P v.read).1
          out := ke3
          world := w
          secrets := secrets
          transcript := transcript
          after := _
          confirm := htraced }
      have hstate : c.after.state = after := hafter
      have houtput : ke3Data = Protocol.encode [c.after.out.initiatorMac.toList] := houtput
      refine ⟨c, ?_, rfl, houtput, congrArg InitiatorState.sessionKey hstate, request, password,
        ke1, sent, List.mem_append_left _ hrequest⟩
      unfold ClientSession.In
      rw [hstate, ← houtput]
      exact hmem

/-- An answer in a run makes a relay session, which draws from the world of the run. -/
theorem exists_relaySession {e : Relay.Event} {output : List UInt8}
    (hstep : Step P net (.relay j e output) net') (hsucceeds : e.succeeds .generateKe2) :
    ∃ r : RelaySession P, e = ⟨.generateKe2 r.responder r.ke1Data r.accountId r.credentials
        r.before.out, .ok (), r.after.state⟩ ∧ output = r.ke2Data ∧
      r.before.world = net.world ∧ r.after.world = net'.world := by
  cases hstep with
  | relay hexec houtput =>
      obtain ⟨hop, hok⟩ := Relay.Event.succeeds_iff.mp hsucceeds
      obtain ⟨call, outcome, after⟩ := e
      cases call with
      | generateKe2 responder ke1Data accountId credentials ke2 =>
          obtain ⟨u, rfl⟩ := Outcome.isOk_eq_true_iff.mp hok
          obtain ⟨hresult, hafter⟩ := Prod.mk.inj hexec
          obtain ⟨⟨secrets, transcript⟩, htraced⟩ :=
            Relay.generateKe2_eq_ok_iff.mp (Prod.ext hresult rfl)
          obtain ⟨-, -, inputs, hinputs, -⟩ := Relay.generateKe2Traced_eq_ok_iff.mp htraced
          obtain ⟨-, hparse, hselect, -⟩ := Relay.ke2Inputs_ok P hinputs
          refine ⟨⟨responder, credentials, accountId, ke1Data, _, hparse, _, hselect,
            ⟨ke2, net.relays j, net.world⟩, secrets, transcript, _, htraced⟩, ?_, houtput, rfl, rfl⟩
          exact congrArg (fun s => Relay.Event.mk _ (.ok ()) s) hafter.symm
      | responderFinish => cases hop
      | invalidate => cases hop
      | zeroize => cases hop

/-- A relay session that accepts has answered before, and hands out the key of its answer. -/
theorem exists_acceptingSession (hstart : start.Fresh) (hrun : Run (Step P) start history net)
    {ke3Data key : List UInt8} (haccepts : Accepts history j ke3Data key) :
    ∃ r : RelaySession P, r.In history j ∧
      ke3Data = Protocol.encode [r.after.state.expectedInitiatorMac.toList] ∧
      key = r.after.state.sessionKey.toList := by
  obtain ⟨buffer, after, hmem⟩ := haccepts
  obtain ⟨before, rest, rfl⟩ := List.append_of_mem hmem
  obtain ⟨u, u', hbefore, hstep⟩ := hrun.split_at
  obtain ⟨createdAt, hcreated⟩ := hstart.relays j
  cases hstep with
  | relay hexec houtput =>
      have hrelay := Network.run_relay hbefore j
      rw [hcreated] at hrelay
      obtain ⟨⟨e, he, hsucceeds, hsame⟩, haccepts, hkey⟩ := Relay.run_finish_answered hrelay hexec
      obtain ⟨label, hlabel, hsee⟩ := List.mem_filterMap.mp he
      cases label with
      | relay j' e' output =>
          obtain ⟨rfl, rfl⟩ : j' = j ∧ e' = e := by
            simpa [relayEvent] using hsee
          obtain ⟨past, later, rfl⟩ := List.append_of_mem hlabel
          obtain ⟨v, v', -, hanswer⟩ := hbefore.split_at
          obtain ⟨r, rfl, rfl, -⟩ := exists_relaySession hanswer hsucceeds
          refine ⟨r, List.mem_append_left _ hlabel, ?_, ?_⟩
          · rw [show r.after.state = u.relays j' from hsame]
            exact haccepts
          · rw [show r.after.state = u.relays j' from hsame, houtput]
            exact hkey
      | client => cases hsee
      | elsewhere => cases hsee

end Sessions

end AuraOpaque.Handshake
