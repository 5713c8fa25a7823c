import AuraOpaque.Handshake.HashInputs
import AuraOpaque.Handshake.Login

/-!
# Passwords that were not registered

Nothing compares passwords.  A client with another password derives another
envelope key, unless a hash collides on the way, and under another key the
cipher refuses whatever the client unmasks.
-/

namespace AuraOpaque.Handshake

open AuraOpaque.Foundation AuraOpaque.Core
open Agent (InitiatorState Ke3Message Ke3Values OpaqueInitiator)
open Relay (OpaqueResponder ResponderCredentials ResponderKeyPair)

variable (P : Primitives)

/-! ## From the password to the envelope key -/

namespace Stretched

variable {P} {oprfSeed : Bytes oprfSeedLength} {accountId password : List UInt8}
  (d : Stretched P oprfSeed accountId password)

def secureKey : Password :=
  ⟨password, List.isEmpty_eq_false_iff.mp d.admissible.nonempty, d.admissible.fits⟩

def unblinded : Bytes publicKeyLength := P.group.compress (d.key • Oprf.inputPoint P password)

def oprfOutput : Bytes hashLength := Oprf.output P d.key password

def hashInputs : List HashInput :=
  [.finalize d.secureKey d.unblinded, .ksfPassword d.oprfOutput d.secureKey]

def argonInput : List UInt8 × List UInt8 :=
  ((P.sha512 (HashInput.ksfPassword d.oprfOutput d.secureKey).bytes).toList,
    (P.sha512 (HashInput.ksfSalt d.oprfOutput).bytes).toList.take argon2SaltBytes)

theorem argonInput_eq :
    P.argon2id ⟨ksfMemlimitKib, ksfOpslimit, 1⟩ d.argonInput.1 d.argonInput.2 hashLength =
      some d.randomizedPwd :=
  @HashInput.deriveRandomizedPassword_hashes P d.oprfOutput d.secureKey _ _ d.stretch

end Stretched

/-- Nothing that two stretched passwords go through collides. -/
structure Apart {oprfSeed : Bytes oprfSeedLength}
    {accountId password accountId' password' : List UInt8}
    (responderPublicKey : Bytes publicKeyLength) (d : Stretched P oprfSeed accountId password)
    (d' : Stretched P oprfSeed accountId' password') : Prop where
  oprfKey : ¬ Collides (deriveOprfKey P oprfSeed.toList) [accountId, accountId']
  sha512 : ¬ Collides P.sha512 ((d.hashInputs ++ d'.hashInputs).map HashInput.bytes)
  argon2id : ¬ Collides
    (fun x => P.argon2id ⟨ksfMemlimitKib, ksfOpslimit, 1⟩ x.1 x.2 hashLength)
    [d.argonInput, d'.argonInput]
  hkdf : ¬ Collides (Envelope.envelopeKey P responderPublicKey)
    [d.randomizedPwd.toList, d'.randomizedPwd.toList]

section Binding

variable {P} {oprfSeed : Bytes oprfSeedLength}
  {accountId password accountId' password' : List UInt8}
  {responderPublicKey : Bytes publicKeyLength} {d : Stretched P oprfSeed accountId password}
  {d' : Stretched P oprfSeed accountId' password'}

open Stretched (hashInputs)

/-- Step by step back from equal envelope keys. -/
theorem Apart.binding (h : Apart P responderPublicKey d d')
    (hkey : Envelope.envelopeKey P responderPublicKey d.randomizedPwd.toList =
      Envelope.envelopeKey P responderPublicKey d'.randomizedPwd.toList) :
    accountId = accountId' ∧ password = password' := by
  have hrandomizedPwd : d.randomizedPwd = d'.randomizedPwd :=
    List.Vector.toList_injective
      ((eq_or_collides (by simp) (by simp) hkey).resolve_right h.hkdf)
  have hargon : d.argonInput = d'.argonInput := by
    refine (eq_or_collides (by simp) (by simp) ?_).resolve_right h.argon2id
    simp only [d.argonInput_eq, d'.argonInput_eq, hrandomizedPwd]
  have hksf : HashInput.ksfPassword d.oprfOutput d.secureKey =
      HashInput.ksfPassword d'.oprfOutput d'.secureKey := by
    refine HashInput.eq_of_bytes rfl ?_
    refine (eq_or_collides ?_ ?_ (List.Vector.toList_injective
      (congrArg Prod.fst hargon))).resolve_right h.sha512
    · simp [hashInputs]
    · simp [hashInputs]
  obtain ⟨houtput, hpassword⟩ := HashInput.ksfPassword.inj hksf
  have hfinalize : HashInput.finalize d.secureKey d.unblinded =
      HashInput.finalize d'.secureKey d'.unblinded := by
    refine HashInput.eq_of_bytes rfl ?_
    refine (eq_or_collides ?_ ?_ houtput).resolve_right h.sha512
    · simp [hashInputs]
    · simp [hashInputs]
  obtain ⟨-, hunblinded⟩ := HashInput.finalize.inj hfinalize
  obtain rfl : password = password' := congrArg Subtype.val hpassword
  -- one password under two keys, which can be cancelled
  have hpoint := P.group.compress_injective hunblinded
  have hkeys : d.key = d'.key := smul_left_injective P.group.Scalar d.admissible.point hpoint
  refine ⟨(eq_or_collides (by simp) (by simp) ?_).resolve_right h.oprfKey, rfl⟩
  rw [d.key_eq, d'.key_eq, hkeys]

end Binding

/-! ## Registrations -/

/-- A registration that an honest client completed at the relay. -/
structure Registration (responder : OpaqueResponder) where
  accountId : List UInt8
  password : List UInt8
  record : Bytes registrationRecordLength
  completed : ∃ w w', (register P responder password accountId).run w = (.ok record, w')

/-- The envelope is the one that the registration made, and this was its key. -/
def Registration.Sealed {P : Primitives} {responder : OpaqueResponder}
    (r : Registration P responder) (oprfSeed : Bytes oprfSeedLength)
    (key : Bytes secretboxKeyLength) (envelope : Bytes envelopeLength) : Prop :=
  ∃ s : Sealing P responder oprfSeed r.accountId r.password r.record.toList,
    key = Envelope.envelopeKey P responder.keypair.publicKey s.stretched.randomizedPwd.toList ∧
      envelope = s.envelope

section Sealed

variable {P} {responder : OpaqueResponder} {oprfSeed : Bytes oprfSeedLength}

/-- Every registration sealed the envelope of its record. -/
theorem Registration.exists_sealed (r : Registration P responder)
    (hevaluator : responder.evaluator = InMemoryEvaluator.toOprfEvaluator P ⟨oprfSeed⟩) :
    ∃ key envelope, r.Sealed oprfSeed key envelope ∧
      ∃ before after, r.record.toList = before ++ (envelope.toList ++ after) := by
  obtain ⟨w, w', hcompleted⟩ := r.completed
  obtain ⟨s⟩ := exists_sealing hevaluator hcompleted
  refine ⟨_, _, ⟨s, rfl, rfl⟩,
    protocolVersion :: (maskingKeyOf P s.stretched.randomizedPwd).toList, s.publicKey.toList, ?_⟩
  refine s.record_eq.trans ?_
  simp [Protocol.encode]

theorem Registration.Sealed.encrypts {r : Registration P responder}
    {key : Bytes secretboxKeyLength} {envelope : Bytes envelopeLength}
    (h : r.Sealed oprfSeed key envelope) : Envelope.Encrypts P key envelope := by
  obtain ⟨s, rfl, rfl⟩ := h
  exact s.encrypts

end Sealed

section Refusal

variable {P} {keypair : ResponderKeyPair} {oprfSeed : Bytes oprfSeedLength}
  {responder : OpaqueResponder} {initiator : OpaqueInitiator} {credentials : ResponderCredentials}
  {accountId password : List UInt8} {x : Exchanged} {w w' : World}

theorem initiator_key (h : OpaqueInitiator.new P responder.keypair.publicKey.toList =
    .ok initiator) : initiator.responderPublicKey = responder.keypair.publicKey := by
  obtain ⟨_, -, h⟩ := Outcome.bind_eq_ok_iff.mp h
  rw [copyFromSlice_toList] at h
  cases h
  rfl

/--
The client of an account logs in with a password that was not registered for it.
Whatever credentials the relay answers with, its KE2 is refused: the session is
erased, no KE3 is written and no key can be taken.  The hashes are assumed to
keep the password apart from the registered ones, and the cipher to accept the
unmasked envelope only if a registration made it under the same key.
-/
theorem wrong_password_refused
    (hresponder : OpaqueResponder.new P keypair oprfSeed = .ok responder)
    (hinitiator : OpaqueInitiator.new P responder.keypair.publicKey.toList = .ok initiator)
    {registrations : Set (Registration P responder)}
    (hunregistered : ∀ r ∈ registrations, ¬ (r.accountId = accountId ∧ r.password = password))
    (hexchange : (exchange P responder credentials password accountId).run w = (.ok x, w'))
    (hapart : ∀ r ∈ registrations, ∀ (d : Stretched P oprfSeed r.accountId r.password)
      (d' : Stretched P oprfSeed accountId password),
      Apart P responder.keypair.publicKey d d')
    (hcipher : ∀ o : Opening P initiator x.client x.ke2Wire.toList,
      Envelope.Decrypts P o.key o.envelope →
        ∃ r ∈ registrations, r.Sealed oprfSeed o.key o.envelope)
    (ke3 : Ke3Message) (v : World) :
    ∃ e s v', (Agent.generateKe3 P initiator x.ke2Wire.toList).run ⟨ke3, x.client, v⟩ =
        (.err e, ⟨ke3, s, v'⟩) ∧ s.Dead ∧
      ∀ output u, Agent.initiatorFinish.run ⟨output, s, u⟩ =
        (.err .validationError, ⟨output, s, u⟩) := by
  obtain ⟨reached⟩ := exists_reached hexchange
  have hkey := initiator_key hinitiator
  rcases hrun : (Agent.generateKe3 P initiator x.ke2Wire.toList).run ⟨ke3, x.client, v⟩ with
    ⟨_ | e | _, ⟨out, s, v'⟩⟩
  · -- a success would have opened an envelope of another password
    obtain ⟨t, htraced⟩ := Agent.generateKe3_eq_ok_iff.mp hrun
    obtain ⟨-, values, -⟩ := Agent.generateKe3Traced_eq_ok_iff.mp htraced
    obtain ⟨o, -, hdecrypts⟩ := Opening.of_values values
    obtain ⟨r, hr, sealing, hsealed, -⟩ := hcipher o hdecrypts
    obtain ⟨-, -, -, d, hd⟩ := reached.exists_stretched (responder_evaluator hresponder) o
    have hsame : Envelope.envelopeKey P responder.keypair.publicKey
        sealing.stretched.randomizedPwd.toList =
          Envelope.envelopeKey P responder.keypair.publicKey d.randomizedPwd.toList := by
      rw [← hsealed, Opening.key, hkey, hd]
    exact absurd ((hapart r hr sealing.stretched d).binding hsame) (hunregistered r hr)
  · obtain ⟨hout, -⟩ := Agent.generateKe3_error hrun
    have hlen : x.ke2Wire.toList.length = ke2Length := x.ke2Wire.toList_length
    have hdead := Agent.generateKe3_refused P hlen reached.phase
      reached.accountContextHash_ne_zero hrun
    cases hout
    refine ⟨e, s, v', rfl, hdead, fun output u => ?_⟩
    rcases Agent.initiatorFinish_cases ⟨output, s, u⟩ with ⟨-, h⟩ | ⟨hphase, -⟩ | ⟨hphase, -⟩
    · exact h
    · exact absurd (hdead.phase.symm.trans hphase) (by decide)
    · exact absurd (hdead.phase.symm.trans hphase) (by decide)
  · have hsafe := (Agent.generateKe3_safe P initiator x.ke2Wire.toList ⟨ke3, x.client, v⟩
      reached.fits).1
    rw [hrun] at hsafe
    exact absurd rfl hsafe

end Refusal

/-! ## On the small instance with keys -/

section Keyed

open Core.Sample (keyed)

theorem keyed_oprfKey : deriveOprfKey keyed sampleSeed.toList [1] =
    .ok (keyed.group.asBytes (1 : ZMod 5)) :=
  @Sample.deriveOprfKey_of_constant keyed (1 : ZMod 5) (by decide : (1 : ZMod 5) ≠ 0)
    (fun _ _ => rfl) _ _ rfl rfl

theorem keyed_nonDegenerate : NonDegenerate keyed sampleSeed [1] [1] where
  inputPoint := (by decide : (1 : ZMod 5) ≠ 0)
  oprfKey := ⟨_, keyed_oprfKey⟩
  maskingKey _ _ _ _ := Sample.hkdfExpand_ne_zero _ _ _
  accountContextHash := Sample.digest_ne_zero _
  fakeScalar := (by decide : (1 : ZMod 5) ≠ 0)

theorem keyed_calm : Calm keyed (Sample.world 0) where
  neverExhausted := Sample.keyed_neverExhausted 0
  timely _ _ _ := by simp [Sample.world, lifetimeOver]

def keyedPwd (password : List UInt8) : Bytes hashLength :=
  List.Vector.replicate _ ((sha512Multi keyed [Labels.ksfContext,
    (Oprf.output keyed (1 : ZMod 5) password).toList, password]).toList.getD 1 0)

section Draws

variable {oprfSeed : Bytes oprfSeedLength} {accountId password : List UInt8}
  (hseed : oprfSeed = sampleSeed) (haccount : accountId = [1])

include hseed haccount

theorem keyed_stretched (d : Stretched keyed oprfSeed accountId password) :
    d.key = (1 : ZMod 5) ∧ d.randomizedPwd = keyedPwd password := by
  subst hseed haccount
  have hkey : d.key = (1 : ZMod 5) :=
    keyed.group.asBytes_injective (Outcome.ok.inj (d.key_eq.symm.trans keyed_oprfKey))
  refine ⟨hkey, ?_⟩
  have hargon := d.argonInput_eq
  rw [Stretched.argonInput, Stretched.oprfOutput, hkey] at hargon
  exact (Option.some.inj hargon).symm

theorem keyed_apart (hpassword : password = [1]) (d : Stretched keyed oprfSeed accountId password)
    (d' : Stretched keyed oprfSeed accountId [2]) :
    Apart keyed (keyed.group.compress (1 : ZMod 5)) d d' := by
  obtain ⟨hkey, hpwd⟩ := keyed_stretched hseed haccount d
  obtain ⟨hkey', hpwd'⟩ := keyed_stretched hseed haccount d'
  subst hpassword
  have hsecure : d.secureKey = ⟨[1], by decide, by decide⟩ := rfl
  have hsecure' : d'.secureKey = ⟨[2], by decide, by decide⟩ := rfl
  constructor
  · simp [Collides]
  · apply not_collides
    simp only [Stretched.hashInputs, Stretched.unblinded, Stretched.oprfOutput, hkey, hkey',
      hsecure, hsecure']
    decide +kernel
  · apply not_collides
    simp only [Stretched.argonInput, Stretched.oprfOutput, hkey, hkey', hsecure, hsecure']
    decide +kernel
  · apply not_collides
    rw [hpwd, hpwd']
    decide +kernel

end Draws

/-- The tag is the second byte of the key, in the hundred and twenty-second place. -/
theorem keyed_decrypts {key : Bytes secretboxKeyLength} {envelope : Bytes envelopeLength}
    (h : Envelope.Decrypts keyed key envelope) :
    envelope.toList.getD 121 0 = key.toList.getD 1 0 := by
  obtain ⟨nonce, ciphertext, authTag, plaintext, rfl, hdecrypt⟩ := h
  have hopen : (if (authTag.toList ++ ciphertext.toList).getD 1 0 = key.toList.getD 1 0 then
      some ((authTag.toList ++ ciphertext.toList).drop 16) else none) = some plaintext := hdecrypt
  split at hopen
  · next htag =>
      rw [← htag, Envelope.joined, toList_ofList, List.getD_eq_getElem?_getD,
        List.getElem?_append_right (by simp), List.getElem?_append_right (by simp)]
      simp [List.getD_eq_getElem?_getD]
  · cases hopen

theorem keyed_pad (maskingKey : Bytes maskingKeyLength) (nonce evaluated : List UInt8)
    (accountContextHash : Bytes hashLength) :
    (credentialPad keyed maskingKey nonce evaluated accountContextHash).toList.getD 121 0 = 0 := by
  change ((Hkdf.stream (keyed.hmac _) _ 3).take 136).getD 121 0 = 0
  rw [List.getD_eq_getElem?_getD, List.getElem?_take_of_lt (by decide), Hkdf.stream,
    List.getElem?_append_left (by simp), Hkdf.stream, List.getElem?_append_right (by simp),
    Hkdf.stream_length]
  rfl

theorem keyed_unmasked (envelope : Bytes envelopeLength)
    (maskingKey maskingKey' : Bytes maskingKeyLength)
    (nonce evaluated nonce' evaluated' : List UInt8)
    (accountContextHash accountContextHash' : Bytes hashLength) :
    (xorBytes (xorBytes envelope (credentialPad keyed maskingKey nonce evaluated
      accountContextHash)) (credentialPad keyed maskingKey' nonce' evaluated'
        accountContextHash')).toList.getD 121 0 = envelope.toList.getD 121 0 := by
  rw [getD_xorBytes, getD_xorBytes, keyed_pad, keyed_pad, UInt8.xor_zero, UInt8.xor_zero]

/-- The tag made under the registered password is not the one of the other password. -/
theorem keyed_refuses :
    (Envelope.envelopeKey keyed (keyed.group.compress (1 : ZMod 5))
        (keyedPwd [1]).toList).toList.getD 1 0 ≠
      (Envelope.envelopeKey keyed (keyed.group.compress (1 : ZMod 5))
        (keyedPwd [2]).toList).toList.getD 1 0 := by
  decide +kernel

theorem keyed_inputPoint (password : List UInt8) :
    Oprf.inputPoint keyed password = (1 : ZMod 5) := rfl

/-- The account is registered with one password, and the client has another. -/
theorem wrong_password_refused_sample : ∃ (h : Honest keyed) (r : Registration keyed h.responder)
    (credentials : ResponderCredentials) (x : Exchanged) (w' : World),
    r.accountId = h.accountId ∧ r.password = [1] ∧
    Cmd.fill .new (Relay.buildCredentials keyed r.record.toList) = .ok credentials ∧
    (exchange keyed h.responder credentials [2] h.accountId).run (Sample.world 0) = (.ok x, w') ∧
    ∃ e s v', (Agent.generateKe3 keyed h.initiator x.ke2Wire.toList).run
        ⟨.new, x.client, w'⟩ = (.err e, ⟨.new, s, v'⟩) ∧ s.Dead := by
  obtain ⟨h, hrelay, hseed, hpassword, haccount⟩ :=
    @NonDegenerate.exists_honest keyed sampleSeed [1] [1] Sample.keyed_correct (1 : ZMod 5)
      (by decide : (1 : ZMod 5) ≠ 0) sampleSeed_ne_zero (by simp) (by simp) (by simp)
      keyed_nonDegenerate
  obtain ⟨e, record, w₁, hrecord, -, hregister⟩ := register_run Sample.keyed_correct h keyed_calm
  -- the client's other password
  have hpoint : Oprf.inputPoint keyed [2] = Oprf.inputPoint keyed h.password := by
    rw [keyed_inputPoint, keyed_inputPoint]
  obtain ⟨d, client, w₂, hawaits, -, hclock, hnever, hke1⟩ :=
    @Agent.generateKe1_run keyed [2] h.accountId
      ⟨.new, .newAt ((Sample.world 0).clock 0), (Sample.world 0).tick⟩
      ⟨rfl, by decide, (by decide : (1 : ZMod 5) ≠ 0)⟩ h.accountId_nonempty rfl
      keyed_calm.tick.neverExhausted
  obtain ⟨v, hv, -⟩ := exists_values e d Sample.keyed_correct
    (keyed_calm.tick.of_clock hclock hnever).tick.tick
  have hsame : d.ke1 [2] = d.ke1 h.password := by
    simp only [Agent.LoginDraws.ke1, hpoint]
  rw [hsame] at hke1
  obtain ⟨ke2Wire, hwire, hexchange⟩ := exchange_of_runs hke1
    fun ke1Data hdata => Relay.generateKe2_eq_ok_iff.mpr
      ⟨_, Relay.generateKe2Traced_eq_ok_iff.mpr
        ⟨rfl, h.accountId_nonempty, _, honestInputs_eq e d hdata, v, rfl, rfl⟩⟩
  have hresponderKey : h.responderKey = (1 : ZMod 5) := by
    rw [Honest.responderKey, hrelay]
    rfl
  have hpublicKey : h.responder.keypair.publicKey = keyed.group.compress (1 : ZMod 5) :=
    congrArg keyed.group.compress hresponderKey
  let r : Registration keyed h.responder := ⟨h.accountId, h.password, record, _, w₁, hregister⟩
  refine ⟨h, r, e.credentials, _, _, rfl, hpassword, ?_, hexchange, ?_⟩
  · rw [hrecord, Cmd.fill_eq_ok_iff.mpr e.build_run]
  suffices hrefused : ∃ e s v', (Agent.generateKe3 keyed h.initiator ke2Wire.toList).run
      ⟨.new, client, v.worldAfter⟩ = (.err e, ⟨.new, s, v'⟩) ∧ s.Dead ∧
        ∀ output u, Agent.initiatorFinish.run ⟨output, s, u⟩ =
          (.err .validationError, ⟨output, s, u⟩) by
    obtain ⟨e', s, v', hrun, hdead, -⟩ := hrefused
    exact ⟨e', s, v', hrun, hdead⟩
  refine @wrong_password_refused keyed h.keypair h.oprfSeed
    h.responder h.initiator e.credentials h.accountId [2] _ _ _ h.responder_eq h.initiator_eq
    {r} ?_ hexchange ?_ ?_ .new v.worldAfter
  · rintro _ rfl ⟨-, hsecond⟩
    exact absurd (hpassword.symm.trans hsecond) (by decide)
  · rintro _ rfl d d'
    rw [hpublicKey]
    exact keyed_apart hseed haccount hpassword d d'
  · intro o hdecrypts
    exfalso
    obtain ⟨reached⟩ := exists_reached hexchange
    obtain ⟨-, -, -, d', hd'⟩ := reached.exists_stretched (responder_evaluator h.responder_eq) o
    have hclient : o.randomizedPwd = keyedPwd [2] :=
      hd'.symm.trans (keyed_stretched hseed haccount d').2
    have hregistered : h.randomizedPwd = keyedPwd [1] :=
      (keyed_stretched hseed haccount h.stretched).2.trans (congrArg keyedPwd hpassword)
    -- the client unmasks the stored envelope, up to the byte of the tag
    have hke2 : o.ke2 = ke2Ref v := Protocol.parseKe2_reads.eq_of_encode o.parse
      (by simp [Protocol.Sized, ke2Ref]) hwire
    have hresponse : o.evaluated.toList ++ o.masked.toList =
        v.evaluated.toList ++ v.maskedEnvelope.toList := by
      rw [← o.credentialResponse_eq, hke2]
      rfl
    have hmasked : o.masked = v.maskedEnvelope :=
      List.Vector.toList_injective (toList_append_inj hresponse).2
    have htag := keyed_decrypts hdecrypts
    rw [Opening.envelope, hmasked, Relay.Ke2Values.maskedEnvelope, keyed_unmasked, Opening.key,
      hclient, initiator_key h.initiator_eq, hpublicKey] at htag
    have hown := keyed_decrypts ⟨e.nonce, e.ciphertext, e.authTag, _, rfl, e.contains.decrypts⟩
    dsimp only at hown
    rw [hresponderKey, hregistered] at hown
    exact keyed_refuses (hown.symm.trans htag)

end Keyed

end AuraOpaque.Handshake
