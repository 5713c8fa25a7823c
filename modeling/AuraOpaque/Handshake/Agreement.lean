import AuraOpaque.Handshake.Network

/-!
# What the parties of an open network can rely on

A relay that accepts a client's tag is in one login with that client.  No tag is
accepted twice and no key handed out twice, and neither party accepts a tag of
its own side.  The alternatives are a collision among the hash inputs of the
sessions, and a nonce that two sessions of the relay have drawn.
-/

namespace AuraOpaque.Handshake

open AuraOpaque.Foundation AuraOpaque.Core
open Network (Activity Step Fresh)

variable {P : Primitives} {ι κ : Type} [DecidableEq ι] [DecidableEq κ]
  {start net : Network ι κ} {history : List (Activity ι κ)} {i : ι} {j j' : κ}

/-! ## Agreement -/

theorem BothCollide.collision {c : ClientSession P} {r : RelaySession P}
    (h : BothCollide P c.secrets c.transcript r.secrets r.transcript) : Collision c r := by
  apply HashCollision.mono P h
  · intro x hx
    rcases List.mem_append.mp hx with hx | hx <;> simp [shaInputsOf, hx]
  · exact List.Subset.refl _

/-- The relay accepts the tag of a client only for the KE2 that the client has answered. -/
theorem agreement_of_expectedMac {c : ClientSession P} {r : RelaySession P}
    (h : c.after.out.initiatorMac = r.after.state.expectedInitiatorMac) :
    (c.view = r.view ∧ c.ke2Data = r.ke2Data) ∨ Collision c r := by
  obtain ⟨hclient, htag, hmac⟩ := c.scheduled
  obtain ⟨hrelay, -, htag', hmac'⟩ := r.scheduled
  rw [htag, htag'] at h
  rcases initiatorMac_binding hclient.sized hrelay.sized h with ⟨hsecrets, htranscript⟩ | hcollide
  · apply agreement_of_responderMac
    rw [hmac, hmac', hsecrets, htranscript]
  · exact .inr (BothCollide.collision hcollide)

/-- What the client remembers of its first message is what the relay has read. -/
theorem ke1With_eq {c : ClientSession P} {r : RelaySession P} (h : c.view = r.view)
    (request : List UInt8) :
    c.before.ke1With request = { r.ke1 with credentialRequest := request } := by
  obtain ⟨-, v, -, hafter⟩ := Agent.generateKe3Traced_eq_ok_iff.mp c.confirm
  obtain ⟨-, -, inputs, hinputs, w, -, hanswered⟩ :=
    Relay.generateKe2Traced_eq_ok_iff.mp r.answer
  obtain ⟨hvalid, hparse, -, -⟩ := Relay.ke2Inputs_ok P hinputs
  have hke1 : inputs.ke1 = r.ke1 := Outcome.ok.inj (hparse.symm.trans r.parse)
  have hephemeral := congrArg View.initiatorEphemeralPublicKey h
  have hnonce := congrArg View.initiatorNonce h
  have hpq := congrArg View.pqPublicKey h
  have hkey : r.after.state.initiatorPublicKey.toList = r.ke1.initiatorPublicKey := by
    rw [hanswered, ← hke1]
    exact hvalid.initEphPk_eq.symm
  simp only [ClientSession.view, RelaySession.view, hafter] at hephemeral hnonce hpq
  rw [hkey] at hephemeral
  rw [Agent.InitiatorState.ke1With]
  congr 1

/--
A client answers a KE2 and a relay session accepts the answer.  They hold the
same key and the same view of the login; the KE2 is the relay's; and the client
has asked for the same account, in a first message that is the relay's but
perhaps for the blinded password.
-/
theorem agreement (hstart : start.Fresh) (hrun : Run (Step P) start history net)
    {ke2Data ke3Data key' : List UInt8} {key : Bytes hashLength}
    (hconfirms : Confirms history i ke2Data ke3Data key)
    (haccepts : Accepts history j ke3Data key') :
    ∃ (c : ClientSession P) (r : RelaySession P), c.In history i ∧ r.In history j ∧
      ((key' = key.toList ∧ c.view = r.view ∧ ke2Data = r.ke2Data ∧
        ∃ request, Requests history i r.accountId
          (Protocol.encode { r.ke1 with credentialRequest := request }.fields)) ∨
        Collision c r) := by
  obtain ⟨c, hc, rfl, hke3, rfl, request, hrequest⟩ := exists_clientSession hstart hrun hconfirms
  obtain ⟨r, hr, hke3', rfl⟩ := exists_acceptingSession hstart hrun haccepts
  refine ⟨c, r, hc, hr, ?_⟩
  have htags : c.after.out.initiatorMac = r.after.state.expectedInitiatorMac := by
    have hfields := @Protocol.encode_injective [macLength] _ _ (by simp [Protocol.Sized])
      (by simp [Protocol.Sized]) (hke3.symm.trans hke3')
    exact List.Vector.toList_injective (List.cons.inj hfields).1
  rcases agreement_of_expectedMac htags with ⟨hview, hke2⟩ | hcollision
  · left
    have hkey := congrArg View.sessionKey hview
    have haccount := congrArg View.accountId hview
    simp only [ClientSession.view, RelaySession.view] at hkey haccount
    refine ⟨?_, hview, hke2, request, ?_⟩
    · rw [← hkey]
      rfl
    · rw [← haccount, ← ke1With_eq hview]
      exact hrequest
  · exact .inr hcollision

/-- An honest login is a run of the network. -/
theorem HonestExchange.network_run {h : Honest P} {e : Enrolled h} {x : Exchanged} {w : World}
    (hP : P.Correct) (a : HonestExchange e x w) (hkey : x.relay.sessionKey ≠ zeros _) :
    ∃ (start net : Network Unit Unit) (history : List (Activity Unit Unit)) (ke2Data ke3Data : _)
      (key : Bytes hashLength), start.Fresh ∧ Run (Step P) start history net ∧
      Confirms history () ke2Data ke3Data key ∧ Accepts history () ke3Data key.toList := by
  obtain ⟨createdAt, hclientRun⟩ := a.clientRun
  obtain ⟨ke1Data, createdAt', hrelayRun⟩ := a.relayRun
  obtain ⟨c, hsecrets, htranscript, hconfirm⟩ := a.generateKe3_run hP
  obtain ⟨w₀, hrequest⟩ := hclientRun.step_of_single
  have hke2 := (@Relay.generateKe2_eq_ok_iff _ _ _ _ _ _ () _).mpr ⟨_, hrelayRun⟩
  have hke3 := (@Agent.generateKe3_eq_ok_iff _ _ _ _ () _).mpr ⟨_, hconfirm .new⟩
  let ke3Data := Protocol.encode [c.message.initiatorMac.toList]
  have haccepts : Relay.Accepts a.values.stateAfter ke3Data := by
    change Protocol.encode [(initiatorMac P c.secrets c.transcript).toList] =
      Protocol.encode [(initiatorMac P a.values.secrets a.values.transcript).toList]
    rw [hsecrets, htranscript]
  let timely : World := { tape := a.values.worldAfter.tape, clock := w.clock }
  have hawaits : Relay.AwaitsKe3 a.values.stateAfter timely := by
    rw [a.relay] at hkey
    exact ⟨rfl, by rw [← a.relay]; exact a.relayTimely 0, hkey⟩
  have hfinish := @Relay.responderFinish_run_of_accepts ke3Data
    ⟨zeros hashLength, a.values.stateAfter, timely⟩ hawaits haccepts
  let start : Network Unit Unit :=
    { clients := fun _ => .newAt createdAt
      relays := fun _ => .newAt createdAt'
      world := a.start }
  have hfresh : start.Fresh := ⟨fun _ => ⟨createdAt, rfl⟩, fun _ => ⟨createdAt', rfl⟩⟩
  have hsent := Run.nil.snoc (@Step.client P Unit Unit _ _ start () _ x.client _ w₀ hrequest rfl)
  have hanswered := hsent.snoc (@Step.relay P Unit Unit _ _ _ ()
    ⟨.generateKe2 h.responder ke1Data h.accountId e.credentials .new, .ok (), a.values.stateAfter⟩ _
    (congrArg (fun r => (r.1, r.2.state)) hke2) rfl)
  have hconfirmed := hanswered.snoc (@Step.client P Unit Unit _ _ _ ()
    ⟨.generateKe3 h.initiator x.ke2Wire.toList .new, .ok ()⟩ (c.stateAfter (w.clock 1)) ke3Data w
    (congrArg (fun r => (r.1, r.2.state)) hke3) (by
      change ke3Data = Protocol.encode [((Agent.generateKe3 P h.initiator _).run
        ⟨.new, x.client, w⟩).2.out.initiatorMac.toList]
      rw [hke3]))
  have hwaited := hconfirmed.snoc (@Step.elsewhere P Unit Unit _ _ _ timely ⟨0, by
    change a.values.worldAfter.tape =
      ((Relay.generateKe2 P _ _ _ _).run ⟨.new, .newAt createdAt', a.start⟩).2.world.tape
    rw [hke2]⟩)
  have haccepted := hwaited.snoc (@Step.relay P Unit Unit _ _ _ ()
    ⟨.responderFinish ke3Data (zeros _), .ok (), _⟩ a.values.stateAfter.sessionKey.toList
    (congrArg (fun r => (r.1, r.2.state)) hfinish) (by
      change _ = ((Relay.responderFinish ke3Data).run
        ⟨zeros _, a.values.stateAfter, timely⟩).2.out.toList
      rw [hfinish]))
  refine ⟨start, _, _, x.ke2Wire.toList, ke3Data, a.values.stateAfter.sessionKey, hfresh,
    haccepted, ⟨h.initiator, .new, c.stateAfter (w.clock 1), ?_, ?_⟩, zeros _, _,
    mem_snoc.mpr (.inr rfl)⟩
  · exact mem_snoc.mpr (.inl (mem_snoc.mpr (.inl (mem_snoc.mpr (.inr rfl)))))
  · rw [a.sessionKey_eq hsecrets htranscript, a.relay]

theorem agreement_sample : ∃ (start net : Network Unit Unit) (history : List (Activity Unit Unit))
    (ke2Data ke3Data key' : List UInt8) (key : Bytes hashLength), start.Fresh ∧
    Run (Step Sample.primitives) start history net ∧ Confirms history () ke2Data ke3Data key ∧
    Accepts history () ke3Data key' ∧
    ∃ (c : ClientSession Sample.primitives) (r : RelaySession Sample.primitives),
      c.In history () ∧ r.In history () ∧
      ((key' = key.toList ∧ c.view = r.view ∧ ke2Data = r.ke2Data ∧
        ∃ request, Requests history () r.accountId
          (Protocol.encode { r.ke1 with credentialRequest := request }.fields)) ∨
        Collision c r) := by
  obtain ⟨h, -⟩ := exists_sampleHonest
  obtain ⟨e, x, w, ⟨a⟩, -⟩ := untilKe2_run Sample.primitives_correct h sample_calm
  obtain ⟨start, net, history, ke2Data, ke3Data, key, hfresh, hrun, hconfirms, haccepts⟩ :=
    a.network_run Sample.primitives_correct (sample_sessionKey_ne_zero a)
  exact ⟨start, net, history, ke2Data, ke3Data, key.toList, key, hfresh, hrun, hconfirms, haccepts,
    agreement hfresh hrun hconfirms haccepts⟩

/-! ## Nothing is accepted twice -/

theorem BothCollide.symm {s s' : SharedSecrets} {t t' : Transcript}
    (h : BothCollide P s t s' t') : BothCollide P s' t' s t := by
  apply HashCollision.mono P h
  · exact fun x hx => List.mem_append.mpr (List.mem_append.mp hx).symm
  · exact fun x hx => List.mem_append.mpr (List.mem_append.mp hx).symm

/-- The nonce of an answer is on the tape, and the answer leaves what comes after it. -/
theorem RelaySession.nonce_drawn (r : RelaySession P) : ∃ offset,
    r.transcript.responderNonce =
      (World.window (fun k => r.before.world.tape (k + offset)) nonceLength).toList ∧
    r.before.world.Past (offset + (nonceLength + 32)) r.after.world := by
  obtain ⟨-, -, inputs, -, v, heq, hafter⟩ := Relay.generateKe2Traced_eq_ok_iff.mp r.answer
  obtain ⟨-, htranscript⟩ := Prod.mk.inj heq
  obtain ⟨offset, hnonce, hpast⟩ := v.nonce_drawn
  refine ⟨offset, ?_, ?_⟩
  · rw [htranscript, ← hnonce]
    rfl
  · rw [hafter]
    exact hpast

/-- From `start` on the answer has found its nonce at `place`, among the bytes that it used up. -/
def RelaySession.NonceAt (r : RelaySession P) (start : World) (place : ℕ) : Prop :=
  ∃ skipped used, start.Past skipped r.before.world ∧ r.before.world.Past used r.after.world ∧
    skipped ≤ place ∧ place + nonceLength ≤ skipped + used ∧
    r.transcript.responderNonce =
      (World.window (fun k => start.tape (k + place)) nonceLength).toList

theorem RelaySession.exists_nonceAt (r : RelaySession P) {start : World} {skipped : ℕ}
    (hskipped : start.Past skipped r.before.world) :
    ∃ place used, r.NonceAt start place ∧ skipped ≤ place ∧
      r.before.world.Past used r.after.world ∧ place + nonceLength ≤ skipped + used := by
  obtain ⟨offset, hnonce, hpast⟩ := r.nonce_drawn
  have hplace : skipped ≤ offset + skipped := Nat.le_add_left _ _
  have hinside : offset + skipped + nonceLength ≤ skipped + (offset + (nonceLength + 32)) := by
    omega
  refine ⟨offset + skipped, _, ⟨skipped, _, hskipped, hpast, hplace, hinside, ?_⟩, hplace,
    hpast, hinside⟩
  unfold World.Past at hskipped
  rw [hnonce, hskipped]
  simp only [Nat.add_assoc]

/-- The places of two answers share no byte. -/
theorem RelaySession.exists_nonceAt_apart {r r' : RelaySession P} {start : World}
    (hbefore : start.Later r.before.world) (hbetween : r.after.world.Later r'.before.world) :
    ∃ place place', r.NonceAt start place ∧ r'.NonceAt start place' ∧
      place + nonceLength ≤ place' := by
  obtain ⟨skipped, hskipped⟩ := hbefore
  obtain ⟨between, hbetween⟩ := hbetween
  obtain ⟨place, used, hat, -, hused, hinside⟩ := r.exists_nonceAt hskipped
  obtain ⟨place', -, hat', hbehind, -⟩ :=
    r'.exists_nonceAt ((hskipped.trans hused).trans hbetween)
  exact ⟨place, place', hat, hat', by omega⟩

/-- What two relay sessions have in common if they expect one tag or hold one key. -/
theorem inputs_eq_of_same {r r' : RelaySession P}
    (hsame : r.after.state.expectedInitiatorMac = r'.after.state.expectedInitiatorMac ∨
      r.after.state.sessionKey = r'.after.state.sessionKey) :
    (r.secrets = r'.secrets ∧ r.transcript = r'.transcript) ∨
      BothCollide P r.secrets r.transcript r'.secrets r'.transcript := by
  obtain ⟨⟨hview, hsized, -⟩, -, htag, -⟩ := r.scheduled
  obtain ⟨⟨hview', hsized', -⟩, -, htag', -⟩ := r'.scheduled
  rcases hsame with htags | hkeys
  · rw [htag, htag'] at htags
    exact initiatorMac_binding hsized hsized' htags
  · have hkey := congrArg View.sessionKey hview
    have hkey' := congrArg View.sessionKey hview'
    simp only [RelaySession.view, View.of] at hkey hkey'
    rw [hkey, hkey'] at hkeys
    exact sessionKey_binding hsized hsized' hkeys

/-- Two relay sessions of the run collide. -/
def Colliding (P : Primitives) (history : List (Activity ι κ)) (j j' : κ) : Prop :=
  ∃ r r' : RelaySession P, r.In history j ∧ r'.In history j' ∧
    BothCollide P r.secrets r.transcript r'.secrets r'.transcript

omit [DecidableEq ι] [DecidableEq κ] in
theorem Colliding.symm (h : Colliding P history j j') : Colliding P history j' j := by
  obtain ⟨r, r', hr, hr', hcollide⟩ := h
  exact ⟨r', r, hr', hr, BothCollide.symm hcollide⟩

/--
Two relay sessions of the run have drawn one nonce: each has found it among the
bytes that its own answer used up, at places of the tape that share no byte.
-/
def NonceRepeated (P : Primitives) (start : World) (history : List (Activity ι κ)) (j j' : κ) :
    Prop :=
  ∃ (r r' : RelaySession P) (place place' : ℕ), r.In history j ∧ r'.In history j' ∧
    r.NonceAt start place ∧ r'.NonceAt start place' ∧
    (place + nonceLength ≤ place' ∨ place' + nonceLength ≤ place) ∧
    r.transcript.responderNonce = r'.transcript.responderNonce

omit [DecidableEq ι] [DecidableEq κ] in
theorem NonceRepeated.symm {w : World} (h : NonceRepeated P w history j j') :
    NonceRepeated P w history j' j := by
  obtain ⟨r, r', place, place', hr, hr', hat, hat', hapart, hnonce⟩ := h
  exact ⟨r', r, place', place, hr', hr, hat', hat, hapart.symm, hnonce.symm⟩

/-- The answers, in the order in which the relay gave them. -/
theorem repeated_of_ordered {past later : List (Activity ι κ)} {e e' : Relay.Event}
    {output output' : List UInt8}
    (hrun : Run (Step P) start (past ++ .relay j e output :: later) net)
    (hmem : .relay j' e' output' ∈ later) (he : e.succeeds .generateKe2)
    (he' : e'.succeeds .generateKe2)
    (hsame : e.after.expectedInitiatorMac = e'.after.expectedInitiatorMac ∨
      e.after.sessionKey = e'.after.sessionKey) :
    NonceRepeated P start.world (past ++ .relay j e output :: later) j j' ∨
      Colliding P (past ++ .relay j e output :: later) j j' := by
  have hr : .relay j e output ∈ past ++ .relay j e output :: later :=
    List.mem_append_right _ List.mem_cons_self
  have hr' : .relay j' e' output' ∈ past ++ .relay j e output :: later :=
    List.mem_append_right _ (List.mem_cons_of_mem _ hmem)
  obtain ⟨u, hpast, hrest⟩ := hrun.split
  obtain ⟨u', hfirst, hlater⟩ := @Run.split _ _ _ _ _ [.relay j e output] later hrest
  obtain ⟨between, rest, rfl⟩ := List.append_of_mem hmem
  obtain ⟨v, v', hbetween, hsecond⟩ := hlater.split_at
  obtain ⟨r, rfl, rfl, hbefore, hafter⟩ := exists_relaySession hfirst.step_of_single he
  obtain ⟨r', rfl, rfl, hbefore', -⟩ := exists_relaySession hsecond he'
  rcases inputs_eq_of_same hsame with ⟨-, htranscript⟩ | hcollide
  · have hskipped : start.world.Later r.before.world := by
      rw [hbefore]
      exact Network.run_later hpast
    have hbetween' : r.after.world.Later r'.before.world := by
      rw [hafter, hbefore']
      exact Network.run_later hbetween
    obtain ⟨place, place', hat, hat', hapart⟩ :=
      RelaySession.exists_nonceAt_apart hskipped hbetween'
    exact .inl ⟨r, r', place, place', hr, hr', hat, hat', .inl hapart,
      congrArg Transcript.responderNonce htranscript⟩
  · exact .inr ⟨r, r', hr, hr', hcollide⟩

theorem exists_answer (hstart : start.Fresh) (hrun : Run (Step P) start history net)
    {ke3Data key : List UInt8} (haccepts : Accepts history j ke3Data key) :
    ∃ e output, .relay j e output ∈ history ∧ e.succeeds .generateKe2 ∧
      ke3Data = Protocol.encode [e.after.expectedInitiatorMac.toList] ∧
      key = e.after.sessionKey.toList := by
  obtain ⟨r, hr, hke3, hkey⟩ := exists_acceptingSession hstart hrun haccepts
  exact ⟨_, _, hr, rfl, hke3, hkey⟩

/-- One session accepts once. -/
theorem accepts_once {past later : List (Activity ι κ)} {ke3Data ke3Data' key key' : List UInt8}
    {buffer : Bytes hashLength} {after : Relay.ResponderState}
    (hrun : Run (Step P) start
      (past ++ .relay j ⟨.responderFinish ke3Data buffer, .ok (), after⟩ key :: later) net)
    (haccepts : Accepts later j' ke3Data' key') : j ≠ j' := by
  rintro rfl
  obtain ⟨buffer', after', hmem⟩ := haccepts
  obtain ⟨u, -, hrest⟩ := hrun.split
  obtain ⟨u', hfirst, hlater⟩ := @Run.split _ _ _ _ _ [_] later hrest
  have hfinished : (u'.relays j).phase = .finished := by
    have hstep := hfirst.step_of_single.relay_seen (by rw [Network.relayEvent, if_pos rfl])
    exact (@Relay.step_success _ _ _ _ .responderFinish hstep rfl).2.1
  have hseen : ⟨.responderFinish ke3Data' buffer', .ok (), after'⟩ ∈
      later.filterMap (Network.relayEvent j) :=
    List.mem_filterMap.mpr ⟨_, hmem, by rw [Network.relayEvent, if_pos rfl]⟩
  have hfails := @Relay.not_succeeds_of_finished _ _ _ _ _ .responderFinish hfinished
    (Network.run_relay hlater j) hseen
  cases hfails

/--
No message is accepted twice, by one session or by two, and no two sessions hand
out one key, unless the two sessions have drawn one nonce or collide.
-/
theorem no_replay (hstart : start.Fresh) {past later : List (Activity ι κ)}
    {ke3Data ke3Data' key key' : List UInt8} {buffer : Bytes hashLength}
    {after : Relay.ResponderState}
    (hrun : Run (Step P) start
      (past ++ .relay j ⟨.responderFinish ke3Data buffer, .ok (), after⟩ key :: later) net)
    (haccepts : Accepts later j' ke3Data' key') (hsame : ke3Data = ke3Data' ∨ key = key') :
    NonceRepeated P start.world
        (past ++ .relay j ⟨.responderFinish ke3Data buffer, .ok (), after⟩ key :: later) j j' ∨
      Colliding P
        (past ++ .relay j ⟨.responderFinish ke3Data buffer, .ok (), after⟩ key :: later) j j' := by
  have hne : j ≠ j' := accepts_once hrun haccepts
  have hfirst : Accepts (past ++ .relay j ⟨.responderFinish ke3Data buffer, .ok (), after⟩ key ::
      later) j ke3Data key :=
    ⟨buffer, after, List.mem_append_right _ List.mem_cons_self⟩
  have hsecond : Accepts (past ++ .relay j ⟨.responderFinish ke3Data buffer, .ok (), after⟩ key ::
      later) j' ke3Data' key' := by
    obtain ⟨buffer', after', hmem⟩ := haccepts
    exact ⟨buffer', after', List.mem_append_right _ (List.mem_cons_of_mem _ hmem)⟩
  generalize past ++ _ :: later = history at hrun hfirst hsecond ⊢
  obtain ⟨e, output, hmem, he, rfl, rfl⟩ := exists_answer hstart hrun hfirst
  obtain ⟨e', output', hmem', he', rfl, rfl⟩ := exists_answer hstart hrun hsecond
  have hshared : e.after.expectedInitiatorMac = e'.after.expectedInitiatorMac ∨
      e.after.sessionKey = e'.after.sessionKey := by
    rcases hsame with htags | hkeys
    · have hfields := @Protocol.encode_injective [macLength] _ _ (by simp [Protocol.Sized])
        (by simp [Protocol.Sized]) htags
      exact .inl (List.Vector.toList_injective (List.cons.inj hfields).1)
    · exact .inr (List.Vector.toList_injective hkeys)
  -- The answers are at different places, since they are of different sessions.
  obtain ⟨before, rest, rfl⟩ := List.append_of_mem hmem
  rcases List.mem_append.mp hmem' with hbefore | hlater
  · obtain ⟨earlier, between, rfl⟩ := List.append_of_mem hbefore
    rw [List.append_assoc, List.cons_append] at hrun ⊢
    have hordered := repeated_of_ordered hrun (List.mem_append_right _ List.mem_cons_self) he' he
      (hshared.imp Eq.symm Eq.symm)
    exact hordered.imp NonceRepeated.symm Colliding.symm
  · rcases List.mem_cons.mp hlater with hlabel | hlater
    · cases hlabel
      exact absurd rfl hne
    · exact repeated_of_ordered hrun hlater he he' hshared

/-- The tape of the sample is the same wherever one stands on it. -/
theorem sample_rewinds {start net : Network Unit Bool} {history : List (Activity Unit Bool)}
    (hstart : start.world = Sample.world 0)
    (hrun : Run (Step Sample.primitives) start history net) :
    Step Sample.primitives net .elsewhere { net with world := Sample.world 0 } := by
  obtain ⟨n, hn⟩ := Network.run_later hrun
  refine .elsewhere ⟨0, ?_⟩
  unfold World.Past at hn ⊢
  rw [hn, hstart]
  rfl

/-- Two sessions that draw the same bytes accept the same message. -/
theorem exists_sampleReplay : ∃ (start net : Network Unit Bool)
    (past later : List (Activity Unit Bool)) (ke3Data key : List UInt8) (buffer : Bytes hashLength)
    (after : Relay.ResponderState),
    start.Fresh ∧ Run (Step Sample.primitives) start
      (past ++ .relay false ⟨.responderFinish ke3Data buffer, .ok (), after⟩ key :: later) net ∧
    Accepts later true ke3Data key := by
  obtain ⟨f', hke2, hphase, hcreated, hkey⟩ := Relay.sample_answers 0 0
  let ke3Data := Protocol.encode [f'.state.expectedInitiatorMac.toList]
  have hawaits : Relay.AwaitsKe3 f'.state (Sample.world 0) :=
    ⟨hphase, by rw [hcreated]; decide, hkey⟩
  have hfinish := @Relay.responderFinish_run_of_accepts ke3Data
    ⟨zeros hashLength, f'.state, Sample.world 0⟩ hawaits rfl
  let answer : Relay.Event :=
    { call := .generateKe2 Relay.sampleResponder (Relay.sampleKe1 (Sample.encapsulationKey 7).val)
        [1] .new .new
      outcome := .ok ()
      after := f'.state }
  let finish : Relay.Event :=
    { call := .responderFinish ke3Data (zeros _)
      outcome := .ok ()
      after := { f'.state.eraseSecrets with handshakeComplete := true, phase := .finished } }
  have hanswer : answer.call.exec Sample.primitives (.newAt 0) (Sample.world 0) =
      (answer.outcome, answer.after) := by
    simp only [answer, Relay.Call.exec, Relay.Call.onSession, hke2]
  have hfinished : finish.call.exec Sample.primitives f'.state (Sample.world 0) =
      (finish.outcome, finish.after) := by
    simp only [finish, Relay.Call.exec, Relay.Call.onSession, hfinish]
  let start : Network Unit Bool :=
    { clients := fun _ => .newAt 0
      relays := fun _ => .newAt 0
      world := Sample.world 0 }
  have hfresh : start.Fresh := ⟨fun _ => ⟨0, rfl⟩, fun _ => ⟨0, rfl⟩⟩
  let relays := Function.update start.relays false answer.after
  let relays' := Function.update relays true answer.after
  have hfirst : relays true = .newAt 0 := by simp [relays, start]
  have hsecond : relays' false = f'.state := by simp [relays', relays, answer]
  have hthird : Function.update relays' false finish.after true = f'.state := by
    simp [relays', answer]
  have hrun := Run.nil.snoc (@Step.relay_of _ Unit Bool _ _ start false _ _ _ rfl rfl hanswer)
  have hrun := hrun.snoc (sample_rewinds rfl hrun)
  have hrun := hrun.snoc (@Step.relay_of _ Unit Bool _ _ _ true _ _ _ hfirst rfl hanswer)
  have hrun := hrun.snoc (sample_rewinds rfl hrun)
  have hrun := hrun.snoc (@Step.relay_of _ Unit Bool _ _ _ false _ _ _ hsecond rfl hfinished)
  have hrun := hrun.snoc (sample_rewinds rfl hrun)
  have hrun := hrun.snoc (@Step.relay_of _ Unit Bool _ _ _ true _ _ _ hthird rfl hfinished)
  rw [List.append_assoc, List.append_assoc] at hrun
  exact ⟨start, _, _, _, ke3Data, _, _, _, hfresh, hrun, _, _,
    List.mem_cons_of_mem _ List.mem_cons_self⟩

theorem no_replay_sample : ∃ (start net : Network Unit Bool)
    (past later : List (Activity Unit Bool)) (ke3Data key : List UInt8) (buffer : Bytes hashLength)
    (after : Relay.ResponderState),
    start.Fresh ∧ Run (Step Sample.primitives) start
      (past ++ .relay false ⟨.responderFinish ke3Data buffer, .ok (), after⟩ key :: later) net ∧
    Accepts later true ke3Data key ∧
    (NonceRepeated Sample.primitives start.world
        (past ++ .relay false ⟨.responderFinish ke3Data buffer, .ok (), after⟩ key :: later)
        false true ∨
      Colliding Sample.primitives
        (past ++ .relay false ⟨.responderFinish ke3Data buffer, .ok (), after⟩ key :: later)
        false true) := by
  obtain ⟨start, net, past, later, ke3Data, key, buffer, after, hfresh, hrun, haccepts⟩ :=
    exists_sampleReplay
  exact ⟨start, net, past, later, ke3Data, key, buffer, after, hfresh, hrun, haccepts,
    no_replay hfresh hrun haccepts (.inl rfl)⟩

/-! ## No reflection -/

/-- The two tags are under keys of their own, each derived under its own label. -/
theorem macs_apart {s s' : SharedSecrets} {t t' : Transcript}
    (h : initiatorMac P s t = responderMac P s' t') : BothCollide P s t s' t' := by
  have hinitiator : ((initiatorMacKey P s t).toList, t.encode) ∈ hmacInputs P s t := by
    simp [hmacInputs]
  have hresponder : ((responderMacKey P s' t').toList, t'.encode) ∈ hmacInputs P s' t' := by
    simp [hmacInputs]
  rcases eq_of_hmac_eq hinitiator hresponder h with ⟨hkeys, -⟩ | hcollide
  · have hlabel : ((prk P s t).toList, Labels.pqInitiatorMacInfo ++ [1]) ∈ hmacInputs P s t := by
      simp [hmacInputs]
    have hlabel' : ((prk P s' t').toList, Labels.pqResponderMacInfo ++ [1]) ∈
        hmacInputs P s' t' := by
      simp [hmacInputs]
    rcases eq_of_hmac_eq hlabel hlabel' (List.Vector.toList_injective hkeys) with
      ⟨-, hinfo⟩ | hcollide
    · exact absurd hinfo (by decide)
    · exact hcollide
  · exact hcollide

/-- Nobody accepts a tag of its own side, whoever sent it, unless the sessions collide. -/
structure NoReflection (P : Primitives) (history : List (Activity ι κ)) : Prop where
  /-- No relay session accepts the tag of a KE2. -/
  relay : ∀ j j' key, ∀ sent : RelaySession P, sent.In history j' →
    Accepts history j (Protocol.encode [sent.after.out.responderMac.toList]) key →
    Colliding P history j j'
  /-- No client accepts the tag of a KE3. -/
  client : ∀ i i' ke2Data ke2 ke3Data key, ∀ sent : ClientSession P, sent.In history i' →
    Confirms history i ke2Data ke3Data key → Protocol.parseKe2 ke2Data = .ok ke2 →
    ke2.responderMac = sent.after.out.initiatorMac.toList →
    ∃ c : ClientSession P, c.In history i ∧
      BothCollide P c.secrets c.transcript sent.secrets sent.transcript

theorem no_reflection (hstart : start.Fresh) (hrun : Run (Step P) start history net) :
    NoReflection P history := by
  constructor
  · intro j j' key sent hsent haccepts
    obtain ⟨r, hr, hke3, -⟩ := exists_acceptingSession hstart hrun haccepts
    obtain ⟨-, -, htag, -⟩ := r.scheduled
    obtain ⟨-, -, -, hmac⟩ := sent.scheduled
    have hfields := @Protocol.encode_injective [macLength] _ _ (by simp [Protocol.Sized])
      (by simp [Protocol.Sized]) hke3
    have htags := List.Vector.toList_injective (List.cons.inj hfields).1
    rw [htag, hmac] at htags
    exact ⟨r, sent, hr, hsent, macs_apart htags.symm⟩
  · intro i i' ke2Data ke2 ke3Data key sent hsent hconfirms hparse hmac
    obtain ⟨c, hc, rfl, -⟩ := exists_clientSession hstart hrun hconfirms
    obtain ⟨-, -, hown⟩ := c.scheduled
    obtain ⟨-, htag, -⟩ := sent.scheduled
    obtain rfl : ke2 = c.ke2 := Outcome.ok.inj (hparse.symm.trans c.parse)
    rw [hown, htag] at hmac
    have htags := List.Vector.toList_injective hmac
    exact ⟨c, hc, BothCollide.symm (macs_apart htags.symm)⟩

theorem no_reflection_sample : ∃ (start net : Network Unit Unit)
    (history : List (Activity Unit Unit)) (ke2Data ke3Data : List UInt8) (key : Bytes hashLength),
    start.Fresh ∧ Run (Step Sample.primitives) start history net ∧
    Confirms history () ke2Data ke3Data key ∧ Accepts history () ke3Data key.toList ∧
    NoReflection Sample.primitives history := by
  obtain ⟨h, -⟩ := exists_sampleHonest
  obtain ⟨e, x, w, ⟨a⟩, -⟩ := untilKe2_run Sample.primitives_correct h sample_calm
  obtain ⟨start, net, history, ke2Data, ke3Data, key, hfresh, hrun, hconfirms, haccepts⟩ :=
    a.network_run Sample.primitives_correct (sample_sessionKey_ne_zero a)
  exact ⟨start, net, history, ke2Data, ke3Data, key, hfresh, hrun, hconfirms, haccepts,
    no_reflection hfresh hrun⟩

end AuraOpaque.Handshake
