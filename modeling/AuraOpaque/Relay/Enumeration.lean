import AuraOpaque.Relay.Credentials

/-!
# A KE2 does not tell whether the account is registered

Two runs of `generateKe2` that differ in the selected credentials go in
lockstep: they draw the same values, fail at the same place with the same
error, and their answers differ in what the masking key and the tag cover.
-/

namespace AuraOpaque.Relay

open AuraOpaque.Foundation AuraOpaque.Core
open Foundation.Cmd (Lockstep)
open Foundation.Outcome (Rel)

variable {P : Primitives}

structure SameView (f g : Frame Ke2Message ResponderState) : Prop where
  world : f.world = g.world
  phase : f.state.phase = g.state.phase
  ephemeralPrivateKey :
    f.state.responderEphemeralPrivateKey = g.state.responderEphemeralPrivateKey
  responderNonce : f.out.responderNonce = g.out.responderNonce
  responderPublicKey : f.out.responderPublicKey = g.out.responderPublicKey
  evaluatedElement : f.out.credentialResponse.toList.take publicKeyLength =
    g.out.credentialResponse.toList.take publicKeyLength
  kemCiphertext : f.out.kemCiphertext = g.out.kemCiphertext

/-- The same message and account, with credentials that are both in order. -/
structure Alike (P : Primitives) (i j : Ke2Inputs) : Prop where
  left : i.Valid P
  right : j.Valid P
  ke1 : i.ke1 = j.ke1
  initEphPk : i.initEphPk = j.initEphPk
  accountContextHash : i.accountContextHash = j.accountContextHash
  leftKey : isAllZero i.selected.maskingKey.toList = false
  rightKey : isAllZero j.selected.maskingKey.toList = false

/-! ## Steps -/

section Steps

theorem lockstep_onWorld {α : Type} (c : Cmd OpaqueError World α) :
    Lockstep SameView (fun a b => a = b) (Op.onWorld c) (Op.onWorld c) := by
  intro f g h
  rw [Op.run_onWorld, Op.run_onWorld, h.world]
  exact ⟨.refl (fun _ => rfl) _, { h with world := rfl }⟩

theorem lockstep_lift {α : Type} (o : OpaqueResult α) :
    Lockstep SameView (fun a b => a = b) (liftM o : Op Ke2Message ResponderState α)
      (liftM o : Op Ke2Message ResponderState α) :=
  .lift (.refl (fun _ => rfl) o)

theorem lockstep_getState :
    Lockstep SameView
      (fun s t => s.responderEphemeralPrivateKey = t.responderEphemeralPrivateKey)
      Op.getState Op.getState :=
  fun _ _ h => ⟨.ok h.ephemeralPrivateKey, h⟩

theorem lockstep_getOut :
    Lockstep SameView (fun m n => m.responderNonce = n.responderNonce) Op.getOut Op.getOut :=
  fun _ _ h => ⟨.ok h.responderNonce, h⟩

theorem lockstep_writeElement (element : Bytes publicKeyLength) :
    Lockstep SameView (fun _ _ => True)
      (writeCredentialResponse 0 publicKeyLength element.toList)
      (writeCredentialResponse 0 publicKeyLength element.toList) := by
  intro f g h
  obtain ⟨r, hrun, hr⟩ := @writeCredentialResponse_run f 0 publicKeyLength element.toList []
    _ rfl rfl (by simp) (by simp)
  obtain ⟨r', hrun', hr'⟩ := @writeCredentialResponse_run g 0 publicKeyLength element.toList []
    _ rfl rfl (by simp) (by simp)
  rw [hrun, hrun']
  refine ⟨.ok trivial, { h with evaluatedElement := ?_ }⟩
  rw [hr, hr', List.nil_append, List.take_left' (by simp), List.take_left' (by simp)]

/-- What follows it may differ. -/
theorem lockstep_writeEnvelope (masked masked' : Bytes envelopeLength) :
    Lockstep SameView (fun _ _ => True)
      (writeCredentialResponse publicKeyLength credentialResponseLength masked.toList)
      (writeCredentialResponse publicKeyLength credentialResponseLength masked'.toList) := by
  intro f g h
  obtain ⟨r, hrun, hr⟩ := @writeCredentialResponse_run f publicKeyLength
    credentialResponseLength masked.toList _ _ (List.take_append_drop publicKeyLength _).symm
    (by simp) (by simp) (by simp)
  obtain ⟨r', hrun', hr'⟩ := @writeCredentialResponse_run g publicKeyLength
    credentialResponseLength masked'.toList _ _ (List.take_append_drop publicKeyLength _).symm
    (by simp) (by simp) (by simp)
  rw [hrun, hrun']
  refine ⟨.ok trivial, { h with evaluatedElement := ?_ }⟩
  rw [hr, hr', List.append_assoc, List.append_assoc, List.take_left' (by simp),
    List.take_left' (by simp)]
  exact h.evaluatedElement

/-- With masking keys in order the masking fails for the account or not at all. -/
theorem masks_alike {key key' : Bytes maskingKeyLength} (hkey : isAllZero key.toList = false)
    (hkey' : isAllZero key'.toList = false) {nonce : Bytes nonceLength}
    {element : Bytes publicKeyLength} {hash : Bytes hashLength}
    {input input' : Bytes envelopeLength} :
    Rel (fun _ _ => True)
      (maskCredentialEnvelope P key nonce.toList element.toList hash input)
      (maskCredentialEnvelope P key' nonce.toList element.toList hash input') := by
  cases hhash : isAllZero hash.toList with
  | false =>
      rw [maskCredentialEnvelope_eq P input hkey (by simp) (by simp) hhash,
        maskCredentialEnvelope_eq P input' hkey' (by simp) (by simp) hhash]
      exact .ok trivial
  | true =>
      have hfails : ∀ key input, maskCredentialEnvelope P key nonce.toList element.toList hash
          input = .err .invalidInput := by
        intro key input
        rcases maskCredentialEnvelope_cases P key nonce.toList element.toList hash input with
          ⟨-, -, -, hne⟩ | h
        · rw [hhash] at hne
          cases hne
        · exact h
      rw [hfails, hfails]
      exact .err _

/-- With valid points a product fails for the scalar or not at all. -/
theorem products_alike (scalar : Bytes privateKeyLength) {p q : P.group.Point} (hp : p ≠ 0)
    (hq : q ≠ 0) :
    Rel (fun _ _ => True) (scalarMult P scalar (P.group.compress p))
      (scalarMult P scalar (P.group.compress q)) := by
  rcases scalarMult_cases P scalar (P.group.compress p) with
    ⟨s, _, hs, -, rfl, -, hok⟩ | ⟨hnone, herr⟩
  · rw [hok, scalarMult_encoded P hs hq]
    exact .ok trivial
  · rcases scalarMult_cases P scalar (P.group.compress q) with
      ⟨s, _, hs, -, hscalar, -, -⟩ | ⟨-, herr'⟩
    · exact absurd rfl (hnone s p hs hp hscalar)
    · rw [herr, herr']
      exact .err _

end Steps

/-! ## Blocks -/

section Blocks

variable {responder : OpaqueResponder} {accountId : List UInt8} {i j : Ke2Inputs}

theorem ke2Ephemeral_lockstep :
    Lockstep SameView (fun _ _ => True) (ke2Ephemeral P responder i)
      (ke2Ephemeral P responder j) := by
  refine .bind (.modify fun f g hfg => { hfg with }) fun _ _ _ => ?_
  refine .bind (lockstep_onWorld _) fun key _ hkey => ?_
  subst hkey
  refine .bind (.modify fun f g hfg => { hfg with ephemeralPrivateKey := rfl }) fun _ _ _ => ?_
  refine .bind (lockstep_lift _) fun publicKey _ hpublicKey => ?_
  subst hpublicKey
  refine .bind (.modify fun f g hfg => { hfg with }) fun _ _ _ => ?_
  refine .bind (lockstep_onWorld _) fun nonce _ hnonce => ?_
  subst hnonce
  refine .bind (.modify fun f g hfg => { hfg with responderNonce := rfl }) fun _ _ _ => ?_
  exact .modify fun f g hfg => { hfg with responderPublicKey := rfl }

theorem ke2CredentialResponse_lockstep (h : Alike P i j) :
    Lockstep SameView (fun _ _ => True) (ke2CredentialResponse P responder accountId i)
      (ke2CredentialResponse P responder accountId j) := by
  rw [ke2CredentialResponse, ke2CredentialResponse, ← h.ke1, ← h.accountContextHash]
  refine .bind (lockstep_lift _) fun credReq _ hcredReq => ?_
  subst hcredReq
  refine .bind (lockstep_lift _) fun element _ helement => ?_
  subst helement
  refine .bind (lockstep_writeElement element) fun _ _ _ => ?_
  refine .bind lockstep_getOut fun m n hnonce => ?_
  rw [hnonce]
  exact .bind (.lift (masks_alike h.leftKey h.rightKey)) fun masked masked' _ =>
    lockstep_writeEnvelope masked masked'

theorem ke2Products_alike (h : Alike P i j) (kp : ResponderKeyPair)
    (key : Bytes privateKeyLength) :
    Rel (fun _ _ => True) (ke2Products P kp key i) (ke2Products P kp key j) := by
  obtain ⟨a, ha, hleft⟩ := h.left.selected
  obtain ⟨b, hb, hright⟩ := h.right.selected
  rw [ke2Products, ke2Products, hleft, hright, ← h.initEphPk]
  have hsame : ∀ product : OpaqueResult (Bytes publicKeyLength),
      Rel (fun _ _ => True) product product := fun product => .refl (fun _ => trivial) product
  refine .bind (products_alike _ ha hb) fun _ _ _ => .bind (hsame _) fun _ _ _ => ?_
  exact .bind (products_alike _ ha hb) fun _ _ _ => .bind (hsame _) fun _ _ _ => .ok trivial

theorem ke2Secrets_lockstep (h : Alike P i j) :
    Lockstep SameView (fun _ _ => True) (ke2Secrets P responder i) (ke2Secrets P responder j) := by
  refine .bind lockstep_getState fun s t hkey => ?_
  rw [hkey, ← h.ke1]
  refine .bind (.lift (ke2Products_alike h _ _)) fun products products' _ => ?_
  refine .bind (lockstep_onWorld _) fun encapsulated _ hencapsulated => ?_
  subst hencapsulated
  refine .bind (.modify fun f g hfg => { hfg with kemCiphertext := rfl }) fun _ _ _ => ?_
  refine .bind (.modify fun f g hfg => { hfg with }) fun _ _ _ => ?_
  exact fun f g hfg => ⟨.ok trivial, hfg⟩

theorem ke2Schedule_lockstep (h : Alike P i j) (secrets secrets' : Handshake.SharedSecrets)
    (s s' : ResponderState) (m m' : Ke2Message) :
    Lockstep SameView (fun _ _ => True)
      (liftM (ke2MacInput responder.keypair s m i) >>= fun macInput =>
        ke2KeySchedule P (ofList secrets.classicalIkm secrets.classicalIkm_length) secrets.kemSs
          macInput)
      (liftM (ke2MacInput responder.keypair s' m' j) >>= fun macInput =>
        ke2KeySchedule P (ofList secrets'.classicalIkm secrets'.classicalIkm_length)
          secrets'.kemSs macInput) := by
  have hleft := @localTranscript_sized P responder i h.left s m
  have hright := @localTranscript_sized P responder j h.right s' m'
  intro f g hfg
  rw [Cmd.run_bind_ok (by rw [Cmd.run_liftM, ke2MacInput_eq hleft rfl]),
    Cmd.run_bind_ok (by rw [Cmd.run_liftM, ke2MacInput_eq hright rfl]),
    ke2KeySchedule_run (toList_ofList _ _) hleft, ke2KeySchedule_run (toList_ofList _ _) hright]
  exact ⟨.ok trivial, { hfg with }⟩

theorem ke2Derive_lockstep (h : Alike P i j) :
    Lockstep SameView (fun _ _ => True) (ke2Derive P responder accountId i)
      (ke2Derive P responder accountId j) := by
  refine .bind ke2Ephemeral_lockstep fun _ _ _ => ?_
  refine .bind (ke2CredentialResponse_lockstep h) fun _ _ _ => ?_
  refine .bind (ke2Secrets_lockstep h) fun secrets secrets' _ => ?_
  rw [ke2ClassicalIkm_eq, ke2ClassicalIkm_eq]
  refine .bind (V := fun a b => a = ofList secrets.classicalIkm secrets.classicalIkm_length ∧
    b = ofList secrets'.classicalIkm secrets'.classicalIkm_length) (.lift (.ok ⟨rfl, rfl⟩))
    fun ikm ikm' hikm => ?_
  obtain ⟨rfl, rfl⟩ := hikm
  refine .bind lockstep_getState fun s s' _ => .bind lockstep_getOut fun m m' _ => ?_
  rw [← Cmd.bind_assoc, ← Cmd.bind_assoc]
  exact .bind (ke2Schedule_lockstep h secrets secrets' s s' m m') fun _ _ _ f g hfg =>
    ⟨.ok trivial, hfg⟩

end Blocks

/-! ## Whole calls -/

section Calls

variable {responder : OpaqueResponder} {ke1Data accountId : List UInt8}
  {unregistered registered : ResponderCredentials}

theorem selectCredentials_alike (hun : unregistered.registered = false)
    (hreg : registered.Usable P)
    (hfake : ∀ fake, fakeCredentials P responder accountId = .ok fake →
      isAllZero fake.maskingKey.toList = false) :
    Rel (fun c d =>
        (isAllZero c.maskingKey.toList = false ∧ isAllZero d.maskingKey.toList = false) ∧
        validatePublicKey P c.publicKey.toList = .ok () ∧
        validatePublicKey P d.publicKey.toList = .ok ())
      (selectCredentials P responder accountId unregistered)
      (selectCredentials P responder accountId registered) := by
  rw [selectCredentials_of_unregistered hun]
  cases hmade : fakeCredentials P responder accountId with
  | ok fake =>
      obtain ⟨p, hp, hkey⟩ := fakeCredentials_ok hmade
      obtain ⟨q, hq, hstored⟩ := hreg.initiatorPublicKey
      rw [selectCredentials_of_usable hreg hmade]
      exact .ok ⟨⟨hfake fake hmade, hreg.maskingKey⟩,
        (validatePublicKey_eq_ok_iff P).mpr ⟨p, hp, by rw [hkey]⟩,
        (validatePublicKey_eq_ok_iff P).mpr ⟨q, hq, by
          rw [ResponderCredentials.material, hstored]⟩⟩
  | err e =>
      rw [selectCredentials_eq, hmade]
      exact .err e
  | panic =>
      rw [selectCredentials_eq, hmade]
      exact .panic

theorem ke2Inputs_alike (hun : unregistered.registered = false) (hreg : registered.Usable P)
    (hfake : ∀ fake, fakeCredentials P responder accountId = .ok fake →
      isAllZero fake.maskingKey.toList = false) :
    Rel (Alike P) (ke2Inputs P responder ke1Data accountId unregistered)
      (ke2Inputs P responder ke1Data accountId registered) := by
  have hview : Rel (fun i j : Ke2Inputs =>
      (i.ke1 = j.ke1 ∧ i.initEphPk = j.initEphPk ∧
        i.accountContextHash = j.accountContextHash) ∧
      isAllZero i.selected.maskingKey.toList = false ∧
      isAllZero j.selected.maskingKey.toList = false)
      (ke2Inputs P responder ke1Data accountId unregistered)
      (ke2Inputs P responder ke1Data accountId registered) := by
    refine .bind (.refl (V := fun a b => a = b) (fun _ => rfl) _) fun ke1 _ hke1 => ?_
    subst hke1
    refine .bind (.refl (V := fun a b => a = b) (fun _ => rfl) _) fun initEphPk _ hinit => ?_
    subst hinit
    refine .bind (selectCredentials_alike hun hreg hfake) fun c d hcd => ?_
    obtain ⟨hkeys, hc, hd⟩ := hcd
    refine .bind (.refl (V := fun a b => a = b) (fun _ => rfl) _) fun _ _ _ => ?_
    refine .bind (.refl (V := fun a b => a = b) (fun _ => rfl) _) fun _ _ _ => ?_
    rw [hc, hd]
    exact .ok ⟨⟨rfl, rfl, rfl⟩, hkeys⟩
  refine hview.imp fun i j hi hj hij => ?_
  exact ⟨(ke2Inputs_ok P hi).1, (ke2Inputs_ok P hj).1, hij.1.1, hij.1.2.1, hij.1.2.2, hij.2.1,
    hij.2.2⟩

theorem ke2Body_lockstep {i j : Ke2Inputs} (h : Alike P i j) :
    Lockstep SameView (fun _ _ => True) (ke2Body P responder accountId i)
      (ke2Body P responder accountId j) := by
  refine .bind (ke2Derive_lockstep h) fun _ _ _ => ?_
  refine .bind (V := fun _ _ => True) ?_ fun _ _ _ => ?_
  · exact .bind (lockstep_onWorld _) fun _ _ _ => .modify fun f g hfg => { hfg with }
  · exact .bind (.modify fun f g hfg => { hfg with phase := rfl }) fun _ _ _ f g hfg =>
      ⟨.ok trivial, hfg⟩

theorem generateKe2_eq (credentials : ResponderCredentials) :
    generateKe2 P responder ke1Data accountId credentials =
      ke2Checks ke1Data accountId >>= fun _ =>
        (liftM (ke2Inputs P responder ke1Data accountId credentials) >>=
          ke2Body P responder accountId) >>= fun _ => pure () := by
  rw [generateKe2, generateKe2Traced, Cmd.bind_assoc]

/-- The two calls go in lockstep. -/
theorem generateKe2_alike (hun : unregistered.registered = false) (hreg : registered.Usable P)
    (hfake : ∀ fake, fakeCredentials P responder accountId = .ok fake →
      isAllZero fake.maskingKey.toList = false) (f : Frame Ke2Message ResponderState) :
    Rel (fun _ _ => True) ((generateKe2 P responder ke1Data accountId unregistered).run f).1
        ((generateKe2 P responder ke1Data accountId registered).run f).1 ∧
      SameView ((generateKe2 P responder ke1Data accountId unregistered).run f).2
        ((generateKe2 P responder ke1Data accountId registered).run f).2 := by
  have hself : SameView f f := ⟨rfl, rfl, rfl, rfl, rfl, rfl, rfl⟩
  rw [generateKe2_eq, generateKe2_eq]
  rcases ke2Checks_cases ke1Data accountId f with ⟨-, -, -, hpass⟩ | ⟨e, hfail⟩
  · rw [Cmd.run_bind_ok hpass, Cmd.run_bind_ok hpass]
    refine Lockstep.bind (V := fun _ _ => True) (.bind (.lift (ke2Inputs_alike hun hreg hfake))
      fun i j h => ke2Body_lockstep h) (fun _ _ _ => ?_) f f hself
    exact fun f g hfg => ⟨.ok trivial, hfg⟩
  · rw [Cmd.run_bind_err hfail, Cmd.run_bind_err hfail]
    exact ⟨.err e, hself⟩

/--
Whatever the message, the account and the randomness, the call ends the same
way for an account that is not registered as for one that is, and the answers
agree outside the masked envelope and the tag.
-/
theorem ke2_hides_registration (hun : unregistered.registered = false)
    (hreg : registered.Usable P)
    (hfake : ∀ fake, fakeCredentials P responder accountId = .ok fake →
      isAllZero fake.maskingKey.toList = false)
    (ke2 : Ke2Message) (createdAt : ℕ) (w : World) :
    let made := (generateKe2 P responder ke1Data accountId unregistered).run
      ⟨ke2, .newAt createdAt, w⟩
    let stored := (generateKe2 P responder ke1Data accountId registered).run
      ⟨ke2, .newAt createdAt, w⟩
    made.1 = stored.1 ∧ made.2.state.phase = stored.2.state.phase ∧
      made.2.out.responderNonce = stored.2.out.responderNonce ∧
      made.2.out.responderPublicKey = stored.2.out.responderPublicKey ∧
      made.2.out.credentialResponse.toList.take publicKeyLength =
        stored.2.out.credentialResponse.toList.take publicKeyLength ∧
      made.2.out.kemCiphertext = stored.2.out.kemCiphertext := by
  obtain ⟨hend, hview⟩ := @generateKe2_alike P responder ke1Data accountId unregistered registered
    hun hreg hfake ⟨ke2, .newAt createdAt, w⟩
  exact ⟨hend.eq, hview.phase, hview.responderNonce, hview.responderPublicKey,
    hview.evaluatedElement, hview.kemCiphertext⟩

end Calls

theorem ke2_hides_registration_sample :
    let responds credentials := ((generateKe2 Sample.primitives sampleResponder
      (sampleKe1 (Sample.encapsulationKey 7).val) [1] credentials).run
        ⟨.new, .newAt 0, Sample.world 0⟩).1
    responds .new = responds (sampleCredentials (List.Vector.replicate maskingKeyLength 1)) := by
  obtain ⟨fake, hselect, hmaskingKey⟩ := sample_selects [1]
  rw [selectCredentials_of_unregistered rfl] at hselect
  refine (ke2_hides_registration rfl ⟨rfl, rfl, rfl, (1 : ZMod 5),
    (by decide : (1 : ZMod 5) ≠ 0), rfl⟩ ?_ .new 0 (Sample.world 0)).1
  intro fake' hfake
  rw [hselect] at hfake
  cases hfake
  exact isAllZero_toList_eq_false_iff.mpr hmaskingKey

end AuraOpaque.Relay
