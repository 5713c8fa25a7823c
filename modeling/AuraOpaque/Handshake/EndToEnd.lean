import AuraOpaque.Handshake.Enrollment
import AuraOpaque.Agent.Lifecycle
import AuraOpaque.Relay.Lifecycle

/-!
# Registration and login, end to end

The two sides are run against each other over the encoded messages.  The relay's
values determine the client's: both compute the same four products, recover the
same KEM secret and hash the same transcript, so the tags are accepted and the
session keys agree.
-/

namespace AuraOpaque.Handshake

open AuraOpaque.Foundation AuraOpaque.Core
open Agent (OpaqueInitiator InitiatorState LoginDraws Ke3Values)
open Relay (OpaqueResponder ResponderKeyPair ResponderCredentials ResponderState Ke2Inputs
  Ke2Values)

variable (P : Primitives)

/-! ## The run -/

/-- Both sessions once the relay has answered, and the answer on the wire. -/
structure Exchanged where
  client : InitiatorState
  relay : ResponderState
  ke2Wire : Bytes ke2Length

def exchange (responder : OpaqueResponder) (credentials : ResponderCredentials)
    (password accountId : List UInt8) : Cmd OpaqueError World Exchanged := do
  let client ← InitiatorState.new
  let (ke1, client) ← Op.call .new client (Agent.generateKe1 P password accountId)
  let ke1Wire ← Cmd.fill (zeros ke1Length)
    (Protocol.writeKe1 ke1.credentialRequest.toList ke1.initiatorPublicKey.toList
      ke1.initiatorNonce.toList ke1.pqEphemeralPublicKey.toList)
  let relay ← ResponderState.new
  let (ke2, relay) ← Op.call .new relay
    (Relay.generateKe2 P responder ke1Wire.toList accountId credentials)
  let ke2Wire ← Cmd.fill (zeros ke2Length)
    (Protocol.writeKe2 ke2.responderNonce.toList ke2.responderPublicKey.toList
      ke2.credentialResponse.toList ke2.responderMac.toList ke2.kemCiphertext.toList)
  pure { client, relay, ke2Wire }

def completeLogin (responder : OpaqueResponder) (exchanged : Exchanged) :
    Cmd OpaqueError World (Agent.SessionOutput × Bytes hashLength) := do
  let initiator ← OpaqueInitiator.new P responder.keypair.publicKey.toList
  let (ke3, client) ← Op.call .new exchanged.client
    (Agent.generateKe3 P initiator exchanged.ke2Wire.toList)
  let ke3Wire ← Cmd.fill (zeros ke3Length) (Protocol.writeKe3 ke3.initiatorMac.toList)
  let (relayKey, _) ← Op.call (zeros hashLength) exchanged.relay
    (Relay.responderFinish ke3Wire.toList)
  let (output, _) ← Op.call ⟨zeros _, zeros _⟩ client Agent.initiatorFinish
  pure (output, relayKey)

def conclude (responder : OpaqueResponder) (exchanged : Exchanged) :
    Cmd OpaqueError World (Bytes hashLength × Bytes hashLength) := do
  let (output, relayKey) ← completeLogin P responder exchanged
  pure (output.sessionKey, relayKey)

/-- A relay is set up, a user registers and logs in, up to the relay's answer. -/
def untilKe2 (privateKey : Bytes privateKeyLength) (publicKey : Bytes publicKeyLength)
    (oprfSeed : Bytes oprfSeedLength) (password accountId : List UInt8) :
    Cmd OpaqueError World (OpaqueResponder × Exchanged) := do
  let keypair ← ResponderKeyPair.fromKeys P privateKey.toList publicKey.toList
  let responder ← OpaqueResponder.new P keypair oprfSeed
  let record ← register P responder password accountId
  let credentials ← Cmd.fill .new (Relay.buildCredentials P record.toList)
  let exchanged ← exchange P responder credentials password accountId
  pure (responder, exchanged)

def endToEnd (privateKey : Bytes privateKeyLength) (publicKey : Bytes publicKeyLength)
    (oprfSeed : Bytes oprfSeedLength) (password accountId : List UInt8) :
    Cmd OpaqueError World (Bytes hashLength × Bytes hashLength) := do
  let (responder, exchanged) ← untilKe2 P privateKey publicKey oprfSeed password accountId
  conclude P responder exchanged

/-! ## The relay's side of an honest login -/

section Relay

variable {P} {h : Honest P} (e : Enrolled h) (d : LoginDraws P)

/-- What the relay reads from an honest KE1. -/
def honestInputs : Ke2Inputs where
  ke1 :=
    { credentialRequest := (d.ke1 h.password).credentialRequest.toList
      initiatorPublicKey := (d.ke1 h.password).initiatorPublicKey.toList
      initiatorNonce := d.nonce.toList
      pqEphemeralPublicKey := (d.ke1 h.password).pqEphemeralPublicKey.toList }
  initEphPk := P.group.compress d.ephemeralPublicKey
  selected := e.credentials.material e.usable.envelope
  accountContextHash := sha512Multi P [Labels.accountContextBinding, h.accountId]

theorem honestInputs_eq {ke1Data : List UInt8}
    (hdata : ke1Data = Protocol.encode (honestInputs e d).ke1.fields) :
    Relay.ke2Inputs P h.responder ke1Data h.accountId e.credentials = .ok (honestInputs e d) := by
  have hparse : Protocol.parseKe1 ke1Data = .ok (honestInputs e d).ke1 :=
    Protocol.parseKe1_reads.eq_ok_iff.mpr ⟨by simp [Protocol.Sized, honestInputs], hdata⟩
  obtain ⟨fake, hfake⟩ : ∃ fake, Relay.fakeCredentials P h.responder h.accountId = .ok fake :=
    ⟨_, Relay.fakeCredentials_eq rfl h.fakeScalar_ne_zero h.fakeScalar_eq⟩
  exact Relay.ke2Inputs_eq P hparse (Relay.selectCredentials_of_usable e.usable hfake)
    (smul_ne_zero d.blind_ne_zero h.admissible.point)
    (smul_ne_zero d.ephemeral_ne_zero P.group.basepoint_ne_zero) e.clientKey_ne_zero rfl rfl rfl

/-- The relay computes on the client's own values. -/
structure Matches {w : World} (v : Ke2Values P h.responder h.accountId (honestInputs e d) w) :
    Prop where
  evaluated : v.evaluated =
    P.group.compress (h.oprfKey • d.blind • Oprf.inputPoint P h.password)
  relay : v.relay = h.relay
  client : v.client = e.clientKey
  initiator : v.initiator = d.ephemeralPublicKey
  kemKey : v.kemKey = d.encapsulationKey

theorem exists_values (hP : P.Correct) {w : World} (hw : Calm P w) :
    ∃ v : Ke2Values P h.responder h.accountId (honestInputs e d) w,
      Matches e d v ∧ Calm P v.drawn ∧ v.drawn.clock = w.clock := by
  obtain ⟨x, drawn, hx, hclock, hnever, hdraw⟩ := randomNonzeroScalar_run P hw.neverExhausted
  have hrequest : d.blind • Oprf.inputPoint P h.password ≠ 0 :=
    smul_ne_zero d.blind_ne_zero h.admissible.point
  refine ⟨
    { ephemeral := x
      ephemeral_ne_zero := hx
      drawn := drawn
      draw := hdraw
      credReq := P.group.compress (d.blind • Oprf.inputPoint P h.password)
      credReq_eq := rfl
      evaluated := _
      evaluate := h.evaluate_eq hrequest
      maskingKey_ne_zero := isAllZero_toList_eq_false_iff.mpr h.maskingKey_ne_zero
      accountContextHash_ne_zero :=
        isAllZero_toList_eq_false_iff.mpr h.accountContextHash_ne_zero
      relay := h.relay
      relay_ne_zero := h.relay_ne_zero
      relay_eq := rfl
      initiator := d.ephemeralPublicKey
      initiator_ne_zero := smul_ne_zero d.ephemeral_ne_zero P.group.basepoint_ne_zero
      initiator_eq := rfl
      client := e.clientKey
      client_ne_zero := e.clientKey_ne_zero
      client_eq := rfl
      kemKeyBytes := P.kem.ekToBytes d.encapsulationKey
      kemKeyBytes_eq := rfl
      kemKey := d.encapsulationKey
      kemKey_new := hP.ek_roundtrip d.kemSeed
      kemKey_bytes := rfl }, ⟨rfl, rfl, rfl, rfl, rfl⟩, hw.of_clock hclock hnever, hclock⟩

end Relay

/-! ## The client's side -/

section Client

variable {P} {h : Honest P} {e : Enrolled h} {d : LoginDraws P} {w : World}
  {v : Ke2Values P h.responder h.accountId (honestInputs e d) w} {s : InitiatorState}

def Enrolled.opened (e : Enrolled h) : Envelope.Opened where
  responderPublicKey := P.group.compress h.responderKey
  initiatorPrivateKey := P.group.asBytes e.client
  initiatorPublicKey := P.group.compress e.clientKey

def ke2Ref (v : Ke2Values P h.responder h.accountId (honestInputs e d) w) : Protocol.Ke2Ref where
  responderNonce := v.nonce.toList
  responderPublicKey := v.ephemeralPublicKey.toList
  credentialResponse := v.credentialResponse.toList
  responderMac := v.message.responderMac.toList
  kemCiphertext := v.encapsulation.1.toList

/-- Each product of one party's scalars is a product of the other's. -/
theorem ke3Secrets_agree (hP : P.Correct) (hv : Matches e d v)
    (hs : d.Awaits h.password h.accountId s) :
    Agent.ke3Secrets P s e.opened v.ephemeralPublicKey v.encapsulation.1.toList =
      .ok v.secrets := by
  have hrelay := h.responderKey_ne_zero
  have hephemeral : v.ephemeral • P.group.basepoint ≠ 0 :=
    smul_ne_zero v.ephemeral_ne_zero P.group.basepoint_ne_zero
  have hkem : PqKem.decapsulate P s.pqEphemeralSecretKey.toList v.encapsulation.1.toList =
      .ok v.encapsulation.2 := by
    have hdecapsulate := PqKem.decapsulate_eq P (hP.dk_roundtrip d.kemSeed) v.encapsulation.1
    rw [hs.pqSecretKey]
    refine hdecapsulate.trans (congrArg Outcome.ok ?_)
    rw [Ke2Values.encapsulation, hv.kemKey]
    exact hP.kem_correct d.kemSeed _
  have hdh1 : e.client • h.responderKey = v.relay • v.client := by
    rw [hv.relay, hv.client]
    exact smul_comm _ _ _
  have hdh2 : d.ephemeral • h.responderKey = v.relay • v.initiator := by
    rw [hv.relay, hv.initiator]
    exact smul_comm _ _ _
  have hdh3 : e.client • v.ephemeral • P.group.basepoint = v.ephemeral • v.client := by
    rw [hv.client]
    exact smul_comm _ _ _
  have hdh4 : d.ephemeral • v.ephemeral • P.group.basepoint = v.ephemeral • v.initiator := by
    rw [hv.initiator]
    exact smul_comm _ _ _
  simp only [Agent.ke3Secrets, Enrolled.opened, hs.ephemeralPrivateKey,
    Ke2Values.ephemeralPublicKey, scalarMult_encoded P e.client_ne_zero hrelay,
    scalarMult_encoded P d.ephemeral_ne_zero hrelay,
    scalarMult_encoded P e.client_ne_zero hephemeral,
    scalarMult_encoded P d.ephemeral_ne_zero hephemeral, hkem, Outcome.ok_bind, hdh1, hdh2, hdh3,
    hdh4]
  rfl

/-- Unmasking gives back the stored envelope, which opens to the client's keys. -/
theorem recoverKeys_agree :
    Agent.recoverKeys P h.initiator (ke2Ref v)
      (sha512Multi P [Labels.accountContextBinding, h.accountId]) h.randomizedPwd
      v.evaluated.toList v.maskedEnvelope.toList = .ok e.opened := by
  have hjoined : xorBytes v.maskedEnvelope (credentialPad P (maskingKeyOf P h.randomizedPwd)
      (ke2Ref v).responderNonce v.evaluated.toList
      (sha512Multi P [Labels.accountContextBinding, h.accountId])) =
        Envelope.joined e.nonce e.ciphertext e.authTag := xorBytes_cancel _ _
  have hopen : Cmd.fill Envelope.Opened.zeroed (Envelope.openRaw P e.nonce.toList
      e.ciphertext.toList e.authTag.toList h.randomizedPwd.toList
      h.initiator.responderPublicKey) = .ok e.opened :=
    Cmd.fill_eq_ok_iff.mpr (Envelope.openRaw_run P (isEmpty_toList (by decide) h.randomizedPwd)
      e.contains ⟨_, e.client_ne_zero, rfl, rfl⟩ Envelope.Opened.zeroed)
  rw [Agent.recoverKeys_of_joined P (isAllZero_toList_eq_false_iff.mpr h.maskingKey_ne_zero)
    v.nonce.toList_length v.evaluated.toList_length
    (isAllZero_toList_eq_false_iff.mpr h.accountContextHash_ne_zero) hjoined, Agent.openKeys,
    hopen, Outcome.ok_bind, Outcome.failIf_neg]
  · rfl
  · simp [Enrolled.opened, Honest.initiator]

theorem exists_ke3Values (hP : P.Correct) (hv : Matches e d v)
    (hs : d.Awaits h.password h.accountId s) {ke2Data : List UInt8}
    (hdata : ke2Data = Protocol.encode (ke2Ref v).fields) :
    ∃ c : Ke3Values P h.initiator ke2Data s,
      c.secrets = v.secrets ∧ c.transcript = v.transcript := by
  have hparse : Protocol.parseKe2 ke2Data = .ok (ke2Ref v) :=
    Protocol.parseKe2_reads.eq_ok_iff.mpr ⟨by simp [Protocol.Sized, ke2Ref], hdata⟩
  have hconfigured : validatePublicKey P h.initiator.responderPublicKey.toList = .ok () :=
    (validatePublicKey_eq_ok_iff P).mpr ⟨_, h.responderKey_ne_zero, rfl⟩
  have hephemeral : validatePublicKey P (ke2Ref v).responderPublicKey = .ok () :=
    (validatePublicKey_eq_ok_iff P).mpr
      ⟨_, smul_ne_zero v.ephemeral_ne_zero P.group.basepoint_ne_zero, rfl⟩
  have htranscript : Agent.ke3Transcript s v.ephemeralPublicKey (ke2Ref v) e.opened =
      v.transcript := by
    simp only [Agent.ke3Transcript, hs.ephemeralPublicKey, hs.nonce, hs.pqPublicKey,
      hs.accountContextHash]
    rfl
  refine ⟨
    { ke2 := ke2Ref v
      read := ?_
      evaluated := v.evaluated
      maskedEnvelope := v.maskedEnvelope.toList
      credentialResponse_eq := rfl
      password := h.password
      holdsPassword := hs.holds
      oprfOutput := Oprf.output P h.oprfKey h.password
      finalize := ?_
      randomizedPwd := h.randomizedPwd
      stretch := h.stretch
      recovered := e.opened
      recover := ?_
      respEphPk := v.ephemeralPublicKey
      respEphPk_eq := rfl
      secrets := v.secrets
      share := ke3Secrets_agree hP hv hs
      responderMac_eq := ?_
      exportKey := _
      deriveExport := deriveClientExportKey_eq P (isEmpty_toList (by decide) _) ?_ (by decide)
        (by decide) }, rfl, htranscript⟩
  · rw [Agent.readKe2, hconfigured, Outcome.ok_bind, hparse, Outcome.ok_bind, hephemeral]
    rfl
  · rw [hs.blindScalar, hv.evaluated]
    exact h.finalize_eq d.blind_ne_zero
  · rw [hs.accountContextHash]
    exact recoverKeys_agree
  · rw [htranscript]
    rfl
  · rw [hs.accountContextHash]
    exact isAllZero_toList_eq_false_iff.mpr h.accountContextHash_ne_zero

end Client

/-! ## The login as a whole -/

/-- Both sessions and the relay's answer after an honest exchange. -/
structure HonestExchange {P : Primitives} {h : Honest P} (e : Enrolled h) (x : Exchanged)
    (w : World) where
  draws : LoginDraws P
  start : World
  values : Ke2Values P h.responder h.accountId (honestInputs e draws) start
  agrees : Matches e draws values
  client : draws.Awaits h.password h.accountId x.client
  relay : x.relay = values.stateAfter
  wire : x.ke2Wire.toList = Protocol.encode (ke2Ref values).fields
  calm : Calm P w
  clientTimely : ∀ i, lifetimeOver x.client.createdAt (w.clock i) = false
  relayTimely : ∀ i, lifetimeOver x.relay.createdAt (w.clock i) = false
  clientRun : ∃ createdAt, Agent.AgentRun P createdAt
    [⟨.generateKe1 h.password h.accountId .new, .ok ()⟩] x.client
  relayRun : ∃ ke1Data createdAt,
    (Relay.generateKe2Traced P h.responder ke1Data h.accountId e.credentials).run
      ⟨.new, .newAt createdAt, start⟩ =
        (.ok (values.secrets, values.transcript),
          ⟨values.message, values.stateAfter, values.worldAfter⟩)

section Login

variable {P} {h : Honest P} {e : Enrolled h} {x : Exchanged} {w : World}

theorem exchange_of_runs {responder : OpaqueResponder} {credentials : ResponderCredentials}
    {password accountId : List UInt8} {ke1 : Agent.Ke1Message} {ke2 : Relay.Ke2Message}
    {client : InitiatorState} {relay : ResponderState} {w w₁ w₂ : World}
    (hke1 : (Agent.generateKe1 P password accountId).run ⟨.new, .newAt (w.clock 0), w.tick⟩ =
      (.ok (), ⟨ke1, client, w₁⟩))
    (hke2 : ∀ ke1Data, ke1Data = Protocol.encode [ke1.credentialRequest.toList,
        ke1.initiatorPublicKey.toList, ke1.initiatorNonce.toList,
        ke1.pqEphemeralPublicKey.toList] →
      (Relay.generateKe2 P responder ke1Data accountId credentials).run
        ⟨.new, .newAt (w₁.clock 0), w₁.tick⟩ = (.ok (), ⟨ke2, relay, w₂⟩)) :
    ∃ ke2Wire : Bytes ke2Length,
      ke2Wire.toList = Protocol.encode [ke2.responderNonce.toList, ke2.responderPublicKey.toList,
        ke2.credentialResponse.toList, ke2.responderMac.toList, ke2.kemCiphertext.toList] ∧
      (exchange P responder credentials password accountId).run w =
        (.ok ⟨client, relay, ke2Wire⟩, w₂) := by
  obtain ⟨ke1Wire, hke1Wire, hke1Fill⟩ := @Protocol.exists_wire _ _ Protocol.ke1FieldLengths _
    (@Protocol.writeKe1_writes ke1Length ke1.credentialRequest.toList
      ke1.initiatorPublicKey.toList ke1.initiatorNonce.toList ke1.pqEphemeralPublicKey.toList
      (by simp [Protocol.Sized]) le_rfl) (by simp [Protocol.Sized]) rfl
  obtain ⟨ke2Wire, hke2Wire, hke2Fill⟩ := @Protocol.exists_wire _ _ Protocol.ke2FieldLengths _
    (@Protocol.writeKe2_writes ke2Length ke2.responderNonce.toList
      ke2.responderPublicKey.toList ke2.credentialResponse.toList
      ke2.responderMac.toList ke2.kemCiphertext.toList (by simp [Protocol.Sized])
      le_rfl) (by simp [Protocol.Sized]) rfl
  refine ⟨ke2Wire, hke2Wire, ?_⟩
  rw [exchange,
    Cmd.run_bind_ok (show InitiatorState.new.run w = (.ok (.newAt (w.clock 0)), w.tick) from rfl),
    Cmd.run_bind_ok (Op.call_run hke1)]
  dsimp only
  rw [Cmd.run_bind_ok (by rw [Cmd.run_liftM, hke1Fill]),
    Cmd.run_bind_ok (show ResponderState.new.run w₁ =
      (.ok (.newAt (w₁.clock 0)), w₁.tick) from rfl),
    Cmd.run_bind_ok (Op.call_run (hke2 _ hke1Wire))]
  dsimp only
  rw [Cmd.run_bind_ok (by rw [Cmd.run_liftM, hke2Fill])]
  rfl

theorem exchange_run (hP : P.Correct) (e : Enrolled h) (hw : Calm P w) :
    ∃ x w', Nonempty (HonestExchange e x w') ∧
      (exchange P h.responder e.credentials h.password h.accountId).run w = (.ok x, w') := by
  obtain ⟨d, client, w₁, hclient, hcreated, hclock, hnever, hke1⟩ :=
    @Agent.generateKe1_run P h.password h.accountId ⟨.new, .newAt (w.clock 0), w.tick⟩
      h.admissible h.accountId_nonempty rfl hw.tick.neverExhausted
  have hcalm : Calm P w₁ := hw.tick.of_clock hclock hnever
  obtain ⟨v, hv, hdrawn, hdrawnClock⟩ := exists_values e d hP hcalm.tick.tick
  have hke2 : ∀ ke1Data, ke1Data = Protocol.encode (honestInputs e d).ke1.fields →
      (Relay.generateKe2Traced P h.responder ke1Data h.accountId e.credentials).run
        ⟨.new, .newAt (w₁.tick.clock 0), w₁.tick.tick⟩ =
          (.ok (v.secrets, v.transcript), ⟨v.message, v.stateAfter, v.worldAfter⟩) :=
    fun _ hdata => Relay.generateKe2Traced_eq_ok_iff.mpr
      ⟨rfl, h.accountId_nonempty, _, honestInputs_eq e d hdata, v, rfl, rfl⟩
  have hstep : Agent.Step P (.newAt (w.clock 0))
      ⟨.generateKe1 h.password h.accountId .new, .ok ()⟩ client :=
    ⟨w.tick, by rw [Agent.Call.exec, Agent.Call.onSession, hke1]⟩
  obtain ⟨ke2Wire, hke2Wire, hexchange⟩ := exchange_of_runs hke1
    fun ke1Data hdata => Relay.generateKe2_eq_ok_iff.mpr ⟨_, hke2 ke1Data hdata⟩
  -- the readings so far: one for each new session and one for each refreshed deadline
  have hafter : ∀ i, v.worldAfter.clock i = w.clock (i + 4) := by
    intro i
    change v.drawn.clock (i + 1) = _
    rw [hdrawnClock]
    change w₁.clock (i + 1 + 1 + 1) = _
    rw [hclock]
    rfl
  refine ⟨⟨client, v.stateAfter, ke2Wire⟩, v.worldAfter,
    ⟨d, _, v, hv, hclient, rfl, hke2Wire, ((hdrawn.advance _).advance _).tick, ?_, ?_,
      ⟨_, .single hstep⟩, ⟨_, _, hke2 _ rfl⟩⟩, hexchange⟩
  · intro i
    rw [hcreated, hafter]
    exact hw.timely 1 (i + 4) (by omega)
  · intro i
    have hread : v.stateAfter.createdAt = w.clock 3 := by
      change v.drawn.clock 0 = _
      rw [hdrawnClock]
      change w₁.clock 2 = _
      rw [hclock]
      rfl
    rw [hread, hafter]
    exact hw.timely 3 (i + 4) (by omega)

theorem HonestExchange.generateKe3_run (hP : P.Correct) (a : HonestExchange e x w) :
    ∃ c : Ke3Values P h.initiator x.ke2Wire.toList x.client,
      c.secrets = a.values.secrets ∧ c.transcript = a.values.transcript ∧
      ∀ ke3, (Agent.generateKe3Traced P h.initiator x.ke2Wire.toList).run ⟨ke3, x.client, w⟩ =
        (.ok (c.secrets, c.transcript),
          ⟨c.message, c.stateAfter (w.clock 1), w.tick.tick⟩) := by
  obtain ⟨c, hsecrets, htranscript⟩ := exists_ke3Values hP a.agrees a.client a.wire
  refine ⟨c, hsecrets, htranscript, fun ke3 => Agent.generateKe3Traced_eq_ok_iff.mpr
    ⟨⟨a.client.phase, a.clientTimely 0, ?_⟩, c, rfl, rfl⟩⟩
  rw [a.client.accountContextHash]
  exact isAllZero_toList_eq_false_iff.mpr h.accountContextHash_ne_zero

theorem HonestExchange.sessionKey_eq (a : HonestExchange e x w)
    {c : Ke3Values P h.initiator x.ke2Wire.toList x.client}
    (hsecrets : c.secrets = a.values.secrets)
    (htranscript : c.transcript = a.values.transcript) (createdAt : ℕ) :
    (c.stateAfter createdAt).sessionKey = x.relay.sessionKey := by
  rw [a.relay]
  change sessionKey P c.secrets c.transcript = sessionKey P a.values.secrets a.values.transcript
  rw [hsecrets, htranscript]

theorem completeLogin_run (hP : P.Correct) (a : HonestExchange e x w)
    (hkey : x.relay.sessionKey ≠ zeros _) :
    ∃ output w', output.sessionKey = x.relay.sessionKey ∧
      (completeLogin P h.responder x).run w = (.ok (output, x.relay.sessionKey), w') := by
  obtain ⟨c, hsecrets, htranscript, htraced⟩ := a.generateKe3_run hP
  have hke3 := (@Agent.generateKe3_eq_ok_iff _ _ _ _ () _).mpr ⟨_, htraced .new⟩
  obtain ⟨ke3Wire, hke3Wire, hke3Fill⟩ := @Protocol.exists_wire _ _ [macLength] _
    (@Protocol.writeKe3_writes ke3Length c.message.initiatorMac.toList (by simp [Protocol.Sized])
      le_rfl) (by simp [Protocol.Sized]) rfl
  have hclientKey := a.sessionKey_eq hsecrets htranscript (w.clock 1)
  have haccepts : Relay.Accepts x.relay ke3Wire.toList := by
    rw [Relay.Accepts, hke3Wire, a.relay]
    change Protocol.encode [(initiatorMac P c.secrets c.transcript).toList] =
      Protocol.encode [(initiatorMac P a.values.secrets a.values.transcript).toList]
    rw [hsecrets, htranscript]
  have hfinish := @Relay.responderFinish_run_of_accepts ke3Wire.toList
    ⟨zeros hashLength, x.relay, w.tick.tick⟩
    ⟨by rw [a.relay]; rfl, a.relayTimely 2, hkey⟩ haccepts
  rcases Agent.initiatorFinish_cases
    ⟨⟨zeros _, zeros _⟩, c.stateAfter (w.clock 1), w.tick.tick.tick⟩ with
    ⟨hphase, -⟩ | ⟨-, hzero, -⟩ | ⟨-, -, s', -, hdone⟩
  · exact absurd rfl hphase
  · exact absurd (hclientKey.symm.trans hzero) hkey
  · refine ⟨⟨(c.stateAfter (w.clock 1)).sessionKey, (c.stateAfter (w.clock 1)).exportKey⟩,
      w.tick.tick.tick, hclientKey, ?_⟩
    rw [completeLogin, Cmd.run_bind_ok (by rw [Cmd.run_liftM, h.initiator_eq]),
      Cmd.run_bind_ok (Op.call_run hke3)]
    dsimp only
    rw [Cmd.run_bind_ok (by rw [Cmd.run_liftM, hke3Fill]), Cmd.run_bind_ok (Op.call_run hfinish)]
    dsimp only
    rw [Cmd.run_bind_ok (Op.call_run hdone)]
    rfl

theorem conclude_run (hP : P.Correct) (a : HonestExchange e x w)
    (hkey : x.relay.sessionKey ≠ zeros _) :
    ∃ w', (conclude P h.responder x).run w =
      (.ok (x.relay.sessionKey, x.relay.sessionKey), w') := by
  obtain ⟨output, w', houtput, hrun⟩ := completeLogin_run hP a hkey
  refine ⟨w', ?_⟩
  rw [conclude, Cmd.run_bind_ok hrun]
  dsimp only
  rw [houtput]
  rfl

theorem untilKe2_run (hP : P.Correct) (h : Honest P) (hw : Calm P w) :
    ∃ (e : Enrolled h) (x : Exchanged) (w' : World), Nonempty (HonestExchange e x w') ∧
      (untilKe2 P h.keypair.privateKey h.keypair.publicKey h.oprfSeed h.password h.accountId).run
        w = (.ok (h.responder, x), w') := by
  obtain ⟨e, record, w₁, hrecord, hcalm, hregister⟩ := register_run hP h hw
  obtain ⟨x, w', hx, hexchange⟩ := exchange_run hP e hcalm
  refine ⟨e, x, w', hx, ?_⟩
  rw [untilKe2, Cmd.run_bind_ok (by rw [Cmd.run_liftM, h.fromKeys_eq]),
    Cmd.run_bind_ok (by rw [Cmd.run_liftM, h.responder_eq]), Cmd.run_bind_ok hregister,
    Cmd.run_bind_ok (by
      rw [Cmd.run_liftM, hrecord, Cmd.fill_eq_ok_iff.mpr e.build_run]), Cmd.run_bind_ok hexchange]
  rfl

end Login

/-! ## Agreement -/

/-- None of the derived values is one that the code refuses to work with. -/
structure NonDegenerate (P : Primitives) (oprfSeed : Bytes oprfSeedLength)
    (password accountId : List UInt8) : Prop where
  inputPoint : Oprf.inputPoint P password ≠ 0
  oprfKey : ∃ key, deriveOprfKey P oprfSeed.toList accountId = .ok key
  maskingKey : ∀ key randomizedPwd,
    deriveOprfKey P oprfSeed.toList accountId = .ok (P.group.asBytes key) →
    deriveRandomizedPassword P (Oprf.output P key password).toList password hashLength =
      .ok randomizedPwd → maskingKeyOf P randomizedPwd ≠ zeros _
  accountContextHash : sha512Multi P [Labels.accountContextBinding, accountId] ≠ zeros _
  fakeScalar : P.group.fromBytesModOrderWide (sha512Multi P [Labels.deriveKeypairContext,
    (sha512Multi P [Labels.fakeCredentialsContext, oprfSeed.toList, accountId]).toList]) ≠ 0

section Agreement

variable {P} {oprfSeed : Bytes oprfSeedLength} {password accountId : List UInt8}

theorem NonDegenerate.exists_honest (hP : P.Correct) {s : P.group.Scalar} (hs : s ≠ 0)
    (hseed : oprfSeed ≠ zeros _) (hpassword : password ≠ [])
    (hmax : password.length ≤ maxSecureKeyLength) (haccount : accountId ≠ [])
    (hderived : NonDegenerate P oprfSeed password accountId) :
    ∃ h : Honest P, h.relay = s ∧ h.oprfSeed = oprfSeed ∧ h.password = password ∧
      h.accountId = accountId := by
  have hpasswordNonempty : password.isEmpty = false := List.isEmpty_eq_false_iff.mpr hpassword
  obtain ⟨keyBytes, hkeyBytes⟩ := hderived.oprfKey
  obtain ⟨key, hkey, rfl⟩ := deriveOprfKey_ok P hkeyBytes
  obtain ⟨randomizedPwd, hstretch⟩ := deriveRandomizedPassword_ok P hP
    (isEmpty_toList (by decide) (Oprf.output P key password)) hpasswordNonempty
  exact ⟨⟨s, hs, oprfSeed, hseed, password, ⟨hpasswordNonempty, hmax, hderived.inputPoint⟩,
    accountId, List.isEmpty_eq_false_iff.mpr haccount, key, hkey, hkeyBytes, randomizedPwd,
    hstretch, hderived.maskingKey _ _ hkeyBytes hstretch, hderived.accountContextHash, _,
    hderived.fakeScalar, rfl⟩, rfl, rfl, rfl, rfl⟩

/--
Every step of an honest registration and login succeeds, and the two session
keys are equal, unless the key that the relay derives is all zeros.
-/
theorem end_to_end_agreement (hP : P.Correct) {s : P.group.Scalar} (hs : s ≠ 0)
    (hseed : oprfSeed ≠ zeros _) (hpassword : password ≠ [])
    (hmax : password.length ≤ maxSecureKeyLength) (haccount : accountId ≠ [])
    (hderived : NonDegenerate P oprfSeed password accountId) {w : World} (hw : Calm P w)
    (hkey : ∀ responder x w',
      (untilKe2 P (P.group.asBytes s) (P.group.compress (s • P.group.basepoint)) oprfSeed password
        accountId).run w = (.ok (responder, x), w') → x.relay.sessionKey ≠ zeros _) :
    ∃ key w',
      (endToEnd P (P.group.asBytes s) (P.group.compress (s • P.group.basepoint)) oprfSeed password
        accountId).run w = (.ok (key, key), w') := by
  obtain ⟨h, rfl, rfl, rfl, rfl⟩ :=
    hderived.exists_honest hP hs hseed hpassword hmax haccount
  obtain ⟨e, x, w₁, ⟨a⟩, huntil⟩ := untilKe2_run hP h hw
  obtain ⟨w₂, hconclude⟩ := conclude_run hP a (hkey _ _ _ huntil)
  exact ⟨x.relay.sessionKey, w₂, (Cmd.run_bind_ok huntil).trans hconclude⟩

end Agreement

/-! ## On the small instance -/

def sampleSeed : Bytes oprfSeedLength := List.Vector.replicate oprfSeedLength 1

theorem sampleSeed_ne_zero : sampleSeed ≠ zeros _ := by
  intro h
  cases congrArg (fun b : Bytes oprfSeedLength => b.toList.head?) h

theorem sample_nonDegenerate : NonDegenerate Sample.primitives sampleSeed [1] [1] where
  inputPoint := (by decide : (1 : ZMod 5) ≠ 0)
  oprfKey := ⟨_, Sample.deriveOprfKey_eq rfl rfl⟩
  maskingKey _ _ _ _ := Sample.hkdfExpand_ne_zero _ _ _
  accountContextHash := Sample.digest_ne_zero _
  fakeScalar := (by decide : (1 : ZMod 5) ≠ 0)

theorem sample_calm : Calm Sample.primitives (Sample.world 0) where
  neverExhausted := Sample.world_neverExhausted 0
  timely _ _ _ := by simp [Sample.world, lifetimeOver]

def sampleRelay : Sample.primitives.group.Scalar := (1 : ZMod 5)

theorem sampleRelay_ne_zero : sampleRelay ≠ 0 := (by decide : (1 : ZMod 5) ≠ 0)

theorem exists_sampleHonest : ∃ h : Honest Sample.primitives, h.relay = sampleRelay ∧
    h.oprfSeed = sampleSeed ∧ h.password = [1] ∧ h.accountId = [1] :=
  sample_nonDegenerate.exists_honest Sample.primitives_correct sampleRelay_ne_zero
    sampleSeed_ne_zero (by simp) (by simp) (by simp)

theorem sample_sessionKey_ne_zero {h : Honest Sample.primitives} {e : Enrolled h} {x : Exchanged}
    {w : World} (a : HonestExchange e x w) : x.relay.sessionKey ≠ zeros _ := by
  rw [a.relay]
  exact Sample.digest_ne_zero _

theorem end_to_end_agreement_sample : ∃ key w',
    (endToEnd Sample.primitives (Sample.primitives.group.asBytes sampleRelay)
      (Sample.primitives.group.compress (sampleRelay • Sample.primitives.group.basepoint))
      sampleSeed [1] [1]).run (Sample.world 0) = (.ok (key, key), w') := by
  refine end_to_end_agreement Sample.primitives_correct sampleRelay_ne_zero sampleSeed_ne_zero
    (by simp) (by simp) (by simp) sample_nonDegenerate sample_calm ?_
  intro responder x w' hrun
  obtain ⟨h, hrelay, hseed, hpassword, haccount⟩ := exists_sampleHonest
  obtain ⟨e, x', w₁, ⟨a⟩, huntil⟩ := untilKe2_run Sample.primitives_correct h sample_calm
  simp only [Honest.keypair, Honest.responderKey, hrelay, hseed, hpassword, haccount] at huntil
  rw [hrun] at huntil
  cases huntil
  exact sample_sessionKey_ne_zero a

end AuraOpaque.Handshake
