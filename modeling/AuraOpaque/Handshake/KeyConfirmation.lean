import AuraOpaque.Handshake.EndToEnd

/-!
# What equal keys and accepted tags tell the parties

Sessions here are arbitrary: the messages they were fed may have been changed,
replayed or mixed.  Equal session keys, and tags that one party made and the
other accepts, mean equal inputs of the key schedule, or a collision among the
hash inputs of the two sessions.
-/

namespace AuraOpaque.Handshake

open AuraOpaque.Foundation AuraOpaque.Core
open Agent (OpaqueInitiator InitiatorState Ke3Message Ke3Values)
open Relay (OpaqueResponder ResponderCredentials ResponderState Ke2Message CredentialMaterial)

variable (P : Primitives)

/-! ## The session key -/

/-- A key that some execution of either operation left, with the inputs of its schedule. -/
inductive Executed : SharedSecrets → Transcript → Bytes hashLength → Prop where
  | relay {responder : OpaqueResponder} {ke1Data accountId : List UInt8}
      {credentials : ResponderCredentials} {f f' : Frame Ke2Message ResponderState}
      {s : SharedSecrets} {t : Transcript}
      (h : (Relay.generateKe2Traced P responder ke1Data accountId credentials).run f =
        (.ok (s, t), f')) : Executed s t f'.state.sessionKey
  | client {initiator : OpaqueInitiator} {ke2Data : List UInt8}
      {f f' : Frame Ke3Message InitiatorState} {s : SharedSecrets} {t : Transcript}
      (h : (Agent.generateKe3Traced P initiator ke2Data).run f = (.ok (s, t), f')) :
      Executed s t f'.state.sessionKey

variable {P}

/-- Both implementations compute the one schedule. -/
theorem Executed.eq_sessionKey {s : SharedSecrets} {t : Transcript} {key : Bytes hashLength}
    (h : Executed P s t key) : key = sessionKey P s t ∧ t.Sized := by
  cases h with
  | relay h =>
      obtain ⟨-, -, inputs, hinputs, v, heq, rfl⟩ := Relay.generateKe2Traced_eq_ok_iff.mp h
      cases heq
      exact ⟨rfl, v.transcript_sized (Relay.ke2Inputs_ok P hinputs).1⟩
  | client h =>
      obtain ⟨-, v, heq, rfl⟩ := Agent.generateKe3Traced_eq_ok_iff.mp h
      cases heq
      exact ⟨rfl, v.transcript_sized⟩

/-- Executions with the same session key have the same inputs, or exhibit a collision. -/
theorem session_key_binding {s s' : SharedSecrets} {t t' : Transcript}
    {key : Bytes hashLength} (h : Executed P s t key) (h' : Executed P s' t' key) :
    (s = s' ∧ t = t') ∨ BothCollide P s t s' t' := by
  obtain ⟨hkey, hsized⟩ := h.eq_sessionKey
  obtain ⟨hkey', hsized'⟩ := h'.eq_sessionKey
  exact sessionKey_binding hsized hsized' (hkey.symm.trans hkey')

theorem session_key_binding_sample :
    ∃ s t s' t' key, Executed Sample.primitives s t key ∧ Executed Sample.primitives s' t' key ∧
      ((s = s' ∧ t = t') ∨ BothCollide Sample.primitives s t s' t') := by
  obtain ⟨h, -⟩ := exists_sampleHonest
  obtain ⟨e, x, w, ⟨a⟩, -⟩ := untilKe2_run Sample.primitives_correct h sample_calm
  obtain ⟨c, hsecrets, htranscript, hke3⟩ := a.generateKe3_run Sample.primitives_correct
  obtain ⟨ke1Data, createdAt, hke2⟩ := a.relayRun
  have hrelay := Executed.relay hke2
  have hclient := Executed.client (hke3 .new)
  rw [a.sessionKey_eq hsecrets htranscript, a.relay] at hclient
  exact ⟨_, _, _, _, _, hrelay, hclient, session_key_binding hrelay hclient⟩

/-! ## Two sessions -/

variable (P)

/-- A client session that reached its last phase, on whatever KE2 it was given. -/
structure ClientSession where
  createdAt : ℕ
  history : List Agent.Event
  before : InitiatorState
  run : Agent.AgentRun P createdAt history before
  accountId : List UInt8
  started : ∃ e ∈ history, (∃ password ke1, e.call = .generateKe1 password accountId ke1) ∧
    e.succeeds .generateKe1
  initiator : OpaqueInitiator
  ke2Data : List UInt8
  ke2 : Protocol.Ke2Ref
  parse : Protocol.parseKe2 ke2Data = .ok ke2
  out : Ke3Message
  world : World
  secrets : SharedSecrets
  transcript : Transcript
  after : Frame Ke3Message InitiatorState
  confirm : (Agent.generateKe3Traced P initiator ke2Data).run ⟨out, before, world⟩ =
    (.ok (secrets, transcript), after)

/-- A relay session that answered, on whatever KE1 it was given. -/
structure RelaySession where
  responder : OpaqueResponder
  credentials : ResponderCredentials
  accountId : List UInt8
  ke1Data : List UInt8
  ke1 : Protocol.Ke1Ref
  parse : Protocol.parseKe1 ke1Data = .ok ke1
  selected : CredentialMaterial
  select : Relay.selectCredentials P responder accountId credentials = .ok selected
  before : Frame Ke2Message ResponderState
  secrets : SharedSecrets
  transcript : Transcript
  after : Frame Ke2Message ResponderState
  answer : (Relay.generateKe2Traced P responder ke1Data accountId credentials).run before =
    (.ok (secrets, transcript), after)

/-- What a party takes the session to be. -/
structure View where
  sessionKey : Bytes hashLength
  initiatorEphemeralPublicKey : List UInt8
  responderEphemeralPublicKey : List UInt8
  initiatorNonce : List UInt8
  responderNonce : List UInt8
  initiatorPublicKey : List UInt8
  responderPublicKey : List UInt8
  credentialResponse : List UInt8
  pqPublicKey : List UInt8
  kemCiphertext : List UInt8
  accountId : List UInt8

variable {P}

def ClientSession.view (c : ClientSession P) : View where
  sessionKey := c.after.state.sessionKey
  initiatorEphemeralPublicKey := c.after.state.initiatorEphemeralPublicKey.toList
  responderEphemeralPublicKey := c.ke2.responderPublicKey
  initiatorNonce := c.after.state.initiatorNonce.toList
  responderNonce := c.ke2.responderNonce
  initiatorPublicKey := c.after.state.initiatorPublicKey.toList
  responderPublicKey := c.after.state.responderPublicKey.toList
  credentialResponse := c.ke2.credentialResponse
  pqPublicKey := c.after.state.pqEphemeralPublicKey.toList
  kemCiphertext := c.ke2.kemCiphertext
  accountId := c.accountId

def RelaySession.view (r : RelaySession P) : View where
  sessionKey := r.after.state.sessionKey
  initiatorEphemeralPublicKey := r.after.state.initiatorPublicKey.toList
  responderEphemeralPublicKey := r.after.state.responderEphemeralPublicKey.toList
  initiatorNonce := r.ke1.initiatorNonce
  responderNonce := r.after.out.responderNonce.toList
  initiatorPublicKey := r.selected.publicKey.toList
  responderPublicKey := r.after.state.responderPublicKey.toList
  credentialResponse := r.after.out.credentialResponse.toList
  pqPublicKey := r.ke1.pqEphemeralPublicKey
  kemCiphertext := r.after.out.kemCiphertext.toList
  accountId := r.accountId

/-- The view that belongs to the inputs of a schedule. -/
def View.of (P : Primitives) (s : SharedSecrets) (t : Transcript) (accountId : List UInt8) :
    View where
  sessionKey := Handshake.sessionKey P s t
  initiatorEphemeralPublicKey := t.initiatorEphemeralPublicKey
  responderEphemeralPublicKey := t.responderEphemeralPublicKey
  initiatorNonce := t.initiatorNonce
  responderNonce := t.responderNonce
  initiatorPublicKey := t.initiatorPublicKey
  responderPublicKey := t.responderPublicKey
  credentialResponse := t.credentialResponse
  pqPublicKey := t.pqEphemeralPublicKey
  kemCiphertext := t.kemCiphertext
  accountId := accountId

/-- What a session hashes: its transcript and its account. -/
def shaInputsOf (t : Transcript) (accountId : List UInt8) : List (List UInt8) :=
  shaInputs t ++ [Labels.accountContextBinding ++ accountId]

/-- A collision among the hash inputs of the two sessions. -/
def Collision (c : ClientSession P) (r : RelaySession P) : Prop :=
  HashCollision P (shaInputsOf c.transcript c.accountId ++ shaInputsOf r.transcript r.accountId)
    (hmacInputs P c.secrets c.transcript ++ hmacInputs P r.secrets r.transcript)

def accountContextHash (P : Primitives) (accountId : List UInt8) : Bytes hashLength :=
  P.sha512 (Labels.accountContextBinding ++ accountId)

theorem sha512Multi_account (accountId : List UInt8) :
    sha512Multi P [Labels.accountContextBinding, accountId] = accountContextHash P accountId := by
  simp [sha512Multi, accountContextHash]

/-- What a session owes to the schedule it ran. -/
structure Scheduled (P : Primitives) (s : SharedSecrets) (t : Transcript)
    (accountId : List UInt8) (view : View) : Prop where
  view_eq : view = View.of P s t accountId
  sized : t.Sized
  account : t.accountContextHash = (accountContextHash P accountId).toList

theorem ClientSession.scheduled (c : ClientSession P) :
    Scheduled P c.secrets c.transcript c.accountId c.view ∧
      c.after.out.initiatorMac = initiatorMac P c.secrets c.transcript ∧
      c.ke2.responderMac = (responderMac P c.secrets c.transcript).toList := by
  obtain ⟨hawaits, v, heq, hafter⟩ := Agent.generateKe3Traced_eq_ok_iff.mp c.confirm
  obtain ⟨hsecrets, htranscript⟩ := Prod.mk.inj heq
  have hke2 : v.ke2 = c.ke2 :=
    Outcome.ok.inj ((Agent.readKe2_ok P v.read).1.symm.trans c.parse)
  obtain ⟨e, hmem, ⟨password, ke1, hcall⟩, hsucceeds⟩ := c.started
  have hhash : c.before.accountContextHash = accountContextHash P c.accountId := by
    rcases (Agent.run_account c.run).account hawaits.phase e hmem _ _ _ hcall hsucceeds with
      hhash | hzero
    · rw [hhash, sha512Multi_account]
    · exact absurd hzero (isAllZero_toList_eq_false_iff.mp hawaits.accountContextHash)
  refine ⟨⟨?_, by rw [htranscript]; exact v.transcript_sized, ?_⟩, ?_, ?_⟩
  · rw [ClientSession.view, hafter, hsecrets, htranscript, ← hke2, v.respEphPk_eq]
    rfl
  · rw [htranscript, ← hhash]
    rfl
  · rw [hafter, hsecrets, htranscript]
    rfl
  · rw [← hke2, hsecrets, htranscript]
    exact v.responderMac_eq

theorem RelaySession.scheduled (r : RelaySession P) :
    Scheduled P r.secrets r.transcript r.accountId r.view ∧
      r.after.state.phase = .ke2Generated ∧
      r.after.state.expectedInitiatorMac = initiatorMac P r.secrets r.transcript ∧
      r.after.out.responderMac = responderMac P r.secrets r.transcript := by
  obtain ⟨-, -, inputs, hinputs, v, heq, hafter⟩ := Relay.generateKe2Traced_eq_ok_iff.mp r.answer
  obtain ⟨hsecrets, htranscript⟩ := Prod.mk.inj heq
  obtain ⟨hvalid, hparse, hselect, hhash⟩ := Relay.ke2Inputs_ok P hinputs
  have hke1 : inputs.ke1 = r.ke1 := Outcome.ok.inj (hparse.symm.trans r.parse)
  have hselected : inputs.selected = r.selected := Outcome.ok.inj (hselect.symm.trans r.select)
  refine ⟨⟨?_, by rw [htranscript]; exact v.transcript_sized hvalid, ?_⟩, ?_, ?_, ?_⟩
  · rw [RelaySession.view, hafter, hsecrets, htranscript, ← hke1, ← hselected]
    rfl
  · rw [htranscript, ← sha512Multi_account, ← hhash]
    rfl
  · rw [hafter]
    rfl
  · rw [hafter, hsecrets, htranscript]
    rfl
  · rw [hafter, hsecrets, htranscript]
    rfl

/-- Equal inputs of the schedule are equal views, as far as the account hash
tells accounts apart. -/
theorem agreement_of_binding {c : ClientSession P} {r : RelaySession P}
    (h : (c.secrets = r.secrets ∧ c.transcript = r.transcript) ∨
      BothCollide P c.secrets c.transcript r.secrets r.transcript) :
    c.view = r.view ∨ Collision c r := by
  obtain ⟨⟨hclient, -, haccount⟩, -⟩ := c.scheduled
  obtain ⟨⟨hrelay, -, haccount'⟩, -⟩ := r.scheduled
  rcases h with ⟨hsecrets, htranscript⟩ | hcollide
  · have hhash : P.sha512 (Labels.accountContextBinding ++ c.accountId) =
        P.sha512 (Labels.accountContextBinding ++ r.accountId) := by
      apply List.Vector.toList_injective
      rw [htranscript, haccount'] at haccount
      exact haccount.symm
    rcases @eq_or_collides _ _ _ (shaInputsOf c.transcript c.accountId ++
        shaInputsOf r.transcript r.accountId) _ _ (by simp [shaInputsOf]) (by simp [shaInputsOf])
      hhash with hinput | hcollide
    · left
      rw [hclient, hrelay, hsecrets, htranscript, List.append_cancel_left hinput]
    · exact .inr (.inl hcollide)
  · refine .inr (HashCollision.mono P hcollide ?_ (List.Subset.refl _))
    intro x hx
    rcases List.mem_append.mp hx with hx | hx <;> simp [shaInputsOf, hx]

/-! ## Key confirmation -/

def RelaySession.ke2Data (r : RelaySession P) : List UInt8 :=
  Protocol.encode [r.after.out.responderNonce.toList, r.after.out.responderPublicKey.toList,
    r.after.out.credentialResponse.toList, r.after.out.responderMac.toList,
    r.after.out.kemCiphertext.toList]

/-- The ephemeral key in the relay's state is the one it sent. -/
theorem RelaySession.responderPublicKey_eq (r : RelaySession P) :
    r.after.out.responderPublicKey = r.after.state.responderEphemeralPublicKey := by
  obtain ⟨-, -, inputs, -, v, -, hafter⟩ := Relay.generateKe2Traced_eq_ok_iff.mp r.answer
  rw [hafter]
  rfl

/-- A tag of the relay that the client accepts belongs to the relay's answer. -/
theorem agreement_of_responderMac {c : ClientSession P} {r : RelaySession P}
    (h : c.ke2.responderMac = r.after.out.responderMac.toList) :
    (c.view = r.view ∧ c.ke2Data = r.ke2Data) ∨ Collision c r := by
  obtain ⟨hclient, -, hmac⟩ := c.scheduled
  obtain ⟨hrelay, -, -, hmac'⟩ := r.scheduled
  have htags : responderMac P c.secrets c.transcript = responderMac P r.secrets r.transcript := by
    apply List.Vector.toList_injective
    rw [← hmac, ← hmac', h]
  rcases agreement_of_binding (responderMac_binding hclient.sized hrelay.sized htags) with
    hview | hcollision
  · refine .inl ⟨hview, ?_⟩
    have hnonce := congrArg View.responderNonce hview
    have hephemeral := congrArg View.responderEphemeralPublicKey hview
    have hresponse := congrArg View.credentialResponse hview
    have hciphertext := congrArg View.kemCiphertext hview
    simp only [ClientSession.view, RelaySession.view] at hnonce hephemeral hresponse hciphertext
    rw [(Protocol.parseKe2_reads.eq_ok_iff.mp c.parse).2, RelaySession.ke2Data,
      Protocol.Ke2Ref.fields, hnonce, hephemeral, hresponse, h, hciphertext,
      r.responderPublicKey_eq]
  · exact .inr hcollision

/-- A relay that accepts the client's tag holds the client's key. -/
theorem agreement_of_initiatorMac {c : ClientSession P} {r : RelaySession P}
    {later : List Relay.Event} {s : ResponderState} {ke3Data : List UInt8} {ke3 : Protocol.Ke3Ref}
    {w : World} {key : Bytes hashLength} {f' : Frame (Bytes hashLength) ResponderState}
    (hlater : Run (Relay.Step P) r.after.state later s)
    (hparse : Protocol.parseKe3 ke3Data = .ok ke3)
    (hmac : ke3.initiatorMac = c.after.out.initiatorMac.toList)
    (hfinish : (Relay.responderFinish ke3Data).run ⟨key, s, w⟩ = (.ok (), f')) :
    (f'.out = c.view.sessionKey ∧ c.view = r.view) ∨ Collision c r := by
  obtain ⟨hclient, htag, -⟩ := c.scheduled
  obtain ⟨hrelay, hphase, htag', -⟩ := r.scheduled
  rcases Relay.responderFinish_cases ke3Data ⟨key, s, w⟩ with
    ⟨hawaits, haccepts, hrun⟩ | ⟨e, s', w', hrun, -⟩ <;> rw [hfinish] at hrun <;> cases hrun
  obtain rfl : s = r.after.state :=
    (Relay.later_eq_or_keyless hphase hlater).resolve_right hawaits.sessionKey
  have htags : initiatorMac P c.secrets c.transcript = initiatorMac P r.secrets r.transcript := by
    apply List.Vector.toList_injective
    have hencoded := (Protocol.parseKe3_reads.eq_ok_iff.mp hparse).2
    rw [haccepts] at hencoded
    have hfields := @Protocol.encode_injective [macLength] _ _ (by simp [Protocol.Sized])
      (Protocol.parseKe3_reads.eq_ok_iff.mp hparse).1 hencoded
    rw [← htag, ← htag', ← hmac]
    exact (List.cons.inj hfields).1.symm
  rcases agreement_of_binding (initiatorMac_binding hclient.sized hrelay.sized htags) with
    hview | hcollision
  · exact .inl ⟨(congrArg View.sessionKey hview).symm, hview⟩
  · exact .inr hcollision

/-- A message with another tag reads as that message, if it reads at all. -/
theorem parseKe2_other_mac {data : List UInt8} {ke2 r : Protocol.Ke2Ref} {mac : List UInt8}
    (hparse : Protocol.parseKe2 data = .ok ke2)
    (hother : Protocol.parseKe2 (Protocol.encode { ke2 with responderMac := mac }.fields) = .ok r) :
    r = { ke2 with responderMac := mac } := by
  obtain ⟨hsized, rfl⟩ := Protocol.parseKe2_reads.eq_ok_iff.mp hparse
  obtain ⟨hlength, -⟩ := Protocol.parseKe2_reads.guard _ _ hother
  have hmac : mac.length = macLength := by
    have hlength' := hsized.encode_length
    simp only [Protocol.encode, Protocol.Ke2Ref.fields, List.flatten_cons, List.length_append,
      Protocol.Sized, List.map_cons, List.cons.injEq] at hlength hlength' hsized
    omega
  have hsized' : Protocol.Sized Protocol.ke2FieldLengths
      { ke2 with responderMac := mac }.fields := by
    simp only [Protocol.Sized, List.map_cons] at hsized ⊢
    simp_all
  exact Protocol.parseKe2_reads.eq_of_encode hother hsized' rfl

theorem ClientSession.rejects_other_mac (c : ClientSession P) {mac : List UInt8}
    (hne : mac ≠ c.ke2.responderMac) (ke3 : Ke3Message) (w : World) :
    ((Agent.generateKe3 P c.initiator
      (Protocol.encode { c.ke2 with responderMac := mac }.fields)).run
        ⟨ke3, c.before, w⟩).1.isOk = false := by
  by_contra haccepted
  obtain ⟨u, hok⟩ := Outcome.isOk_eq_true_iff.mp (Bool.not_eq_false _ ▸ haccepted)
  obtain ⟨r, htraced⟩ := Agent.generateKe3_eq_ok_iff.mp (Prod.ext hok rfl)
  obtain ⟨-, v', -, -⟩ := Agent.generateKe3Traced_eq_ok_iff.mp htraced
  obtain ⟨-, v, -, -⟩ := Agent.generateKe3Traced_eq_ok_iff.mp c.confirm
  have hke2 : v.ke2 = c.ke2 := Outcome.ok.inj ((Agent.readKe2_ok P v.read).1.symm.trans c.parse)
  have hke2' : v'.ke2 = { v.ke2 with responderMac := mac } := by
    rw [hke2]
    exact parseKe2_other_mac c.parse (Agent.readKe2_ok P v'.read).1
  obtain ⟨hsecrets, htranscript⟩ := v.eq_of_ke2_eq v' hke2'
  apply hne
  calc mac = v'.ke2.responderMac := by rw [hke2']
    _ = (responderMac P v'.secrets v'.transcript).toList := v'.responderMac_eq
    _ = (responderMac P v.secrets v.transcript).toList := by rw [hsecrets, htranscript]
    _ = v.ke2.responderMac := v.responderMac_eq.symm
    _ = c.ke2.responderMac := by rw [hke2]

/--
A tag that one party made and the other accepts means the same key and the same
view of the session, or a collision.  A KE2 under another tag is refused.
-/
theorem key_confirmation (c : ClientSession P) (r : RelaySession P) :
    (∀ later s ke3Data ke3 w key f', Run (Relay.Step P) r.after.state later s →
      Protocol.parseKe3 ke3Data = .ok ke3 → ke3.initiatorMac = c.after.out.initiatorMac.toList →
      (Relay.responderFinish ke3Data).run ⟨key, s, w⟩ = (.ok (), f') →
      (f'.out = c.view.sessionKey ∧ c.view = r.view) ∨ Collision c r) ∧
    (c.ke2.responderMac = r.after.out.responderMac.toList →
      (c.view = r.view ∧ c.ke2Data = r.ke2Data) ∨ Collision c r) ∧
    ∀ mac ke3 w, mac ≠ c.ke2.responderMac →
      ((Agent.generateKe3 P c.initiator
        (Protocol.encode { c.ke2 with responderMac := mac }.fields)).run
          ⟨ke3, c.before, w⟩).1.isOk = false :=
  ⟨fun _ _ _ _ _ _ _ hlater hparse hmac hfinish =>
      agreement_of_initiatorMac hlater hparse hmac hfinish,
    agreement_of_responderMac, fun _ ke3 w hne => c.rejects_other_mac hne ke3 w⟩

theorem HonestExchange.exists_sessions {h : Honest P} {e : Enrolled h} {x : Exchanged} {w : World}
    (hP : P.Correct) (a : HonestExchange e x w) :
    ∃ (c : ClientSession P) (r : RelaySession P), r.after.state = x.relay ∧
      c.ke2.responderMac = r.after.out.responderMac.toList ∧
      c.after.out.initiatorMac = r.after.state.expectedInitiatorMac := by
  obtain ⟨createdAt, hclientRun⟩ := a.clientRun
  obtain ⟨ke1Data, createdAt', hrelayRun⟩ := a.relayRun
  obtain ⟨c, hsecrets, htranscript, hconfirm⟩ := a.generateKe3_run hP
  obtain ⟨-, -, inputs, hinputs, -⟩ := Relay.generateKe2Traced_eq_ok_iff.mp hrelayRun
  obtain ⟨-, hparse, hselect, -⟩ := Relay.ke2Inputs_ok P hinputs
  have hparseKe2 : Protocol.parseKe2 x.ke2Wire.toList = .ok (ke2Ref a.values) :=
    Protocol.parseKe2_reads.eq_ok_iff.mpr ⟨by simp [Protocol.Sized, ke2Ref], a.wire⟩
  refine ⟨
    { createdAt := createdAt
      history := _
      before := x.client
      run := hclientRun
      accountId := h.accountId
      started := ⟨_, List.mem_singleton_self _, ⟨_, _, rfl⟩, rfl⟩
      initiator := h.initiator
      ke2Data := x.ke2Wire.toList
      ke2 := _
      parse := hparseKe2
      out := .new
      world := w
      secrets := _
      transcript := _
      after := _
      confirm := hconfirm .new },
    { responder := h.responder
      credentials := e.credentials
      accountId := h.accountId
      ke1Data := ke1Data
      ke1 := _
      parse := hparse
      selected := _
      select := hselect
      before := _
      secrets := _
      transcript := _
      after := _
      answer := hrelayRun }, a.relay.symm, rfl, ?_⟩
  change initiatorMac P c.secrets c.transcript = initiatorMac P a.values.secrets a.values.transcript
  rw [hsecrets, htranscript]

theorem key_confirmation_sample : ∃ c r, (c.view = r.view ∨ @Collision Sample.primitives c r) ∧
    (c.ke2Data = r.ke2Data ∨ Collision c r) ∧
    ((Agent.generateKe3 Sample.primitives c.initiator
      (Protocol.encode { c.ke2 with responderMac := [] }.fields)).run
        ⟨.new, c.before, Sample.world 0⟩).1.isOk = false := by
  obtain ⟨h, -⟩ := exists_sampleHonest
  obtain ⟨e, x, w, ⟨a⟩, -⟩ := untilKe2_run Sample.primitives_correct h sample_calm
  obtain ⟨c, r, hstate, hmac, htag⟩ := a.exists_sessions Sample.primitives_correct
  obtain ⟨hfinish, hreceived, hrejected⟩ := key_confirmation c r
  refine ⟨c, r, ?_, (hreceived hmac).imp And.right id, hrejected _ _ _ ?_⟩
  · have hparse : Protocol.parseKe3 (Protocol.encode [c.after.out.initiatorMac.toList]) =
        .ok ⟨c.after.out.initiatorMac.toList⟩ :=
      Protocol.parseKe3_reads.eq_ok_iff.mpr ⟨by simp [Protocol.Sized], rfl⟩
    have hawaits : Relay.AwaitsKe3 r.after.state w := by
      rw [hstate]
      exact ⟨by rw [a.relay]; rfl, a.relayTimely 0, sample_sessionKey_ne_zero a⟩
    exact (hfinish [] _ _ _ w (zeros _) _ .nil hparse rfl
      (Relay.responderFinish_run_of_accepts hawaits (by rw [Relay.Accepts, htag]))).imp And.right id
  · rw [hmac]
    intro hnil
    exact absurd (congrArg List.length hnil) (by simp)

end AuraOpaque.Handshake
