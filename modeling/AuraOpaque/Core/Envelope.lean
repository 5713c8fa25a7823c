import AuraOpaque.Core.Crypto

/-!
# The credential envelope

The client's static key pair and the responder's public key, encrypted under a
key derived from the password.
-/

namespace AuraOpaque.Core

open AuraOpaque.Foundation
open Outcome (failIf okOr)

variable (P : Primitives)

namespace Envelope

@[simp] abbrev plaintextLen : ℕ := publicKeyLength + privateKeyLength + publicKeyLength

def deriveEnvelopeKey (responderPublicKey : Bytes publicKeyLength) (randomizedPwd : List UInt8) :
    OpaqueResult (Bytes secretboxKeyLength) := do
  let contextLen := Labels.envelopeContext.length
  let salt ← Cmd.fill (zeros (contextLen + publicKeyLength)) do
    spliceAt 0 contextLen Labels.envelopeContext
    spliceAt contextLen (contextLen + publicKeyLength) responderPublicKey.toList
  let prk ← keyDerivationExtract P salt.toList randomizedPwd
  expand P prk.toList Labels.envelopeContext secretboxKeyLength

/-- `vec.resize(n, 0)`. -/
def resize (bytes : List UInt8) (n : ℕ) : List UInt8 :=
  bytes.take n ++ List.replicate (n - bytes.length) 0

structure SealFrame where
  envelope : Envelope
  world : World

/-- The responder's key, the client's private key and the client's public key, in a row. -/
def sealedKeys (responderPublicKey : Bytes publicKeyLength)
    (initiatorPrivateKey : Bytes privateKeyLength) (initiatorPublicKey : Bytes publicKeyLength) :
    OpaqueResult (Bytes plaintextLen) :=
  Cmd.fill (zeros plaintextLen) do
    spliceAt 0 publicKeyLength responderPublicKey.toList
    spliceAt publicKeyLength (publicKeyLength + privateKeyLength) initiatorPrivateKey.toList
    spliceAt (publicKeyLength + privateKeyLength) plaintextLen initiatorPublicKey.toList

def «seal» (randomizedPwd : List UInt8) (responderPublicKey : Bytes publicKeyLength)
    (initiatorPrivateKey : Bytes privateKeyLength) (initiatorPublicKey : Bytes publicKeyLength) :
    Cmd OpaqueError SealFrame Unit := do
  Cmd.failIf randomizedPwd.isEmpty .invalidInput
  let frame ← Cmd.get
  Cmd.failIf (frame.envelope.nonce.length ≠ nonceLength) .invalidEnvelope
  -- the check above fixes the length of the nonce
  let nonce ← Cmd.zoom SealFrame.world (fun w f => { f with world := w })
    (randomBytes nonceLength)
  Cmd.modify fun f => { f with envelope := { f.envelope with nonce := nonce.toList } }
  let authKey ← deriveEnvelopeKey P responderPublicKey randomizedPwd
  let plaintext ← sealedKeys responderPublicKey initiatorPrivateKey initiatorPublicKey
  Cmd.modify fun f =>
    { f with
      envelope :=
        { f.envelope with
          ciphertext := resize f.envelope.ciphertext plaintextLen
          authTag := resize f.envelope.authTag secretboxMacLength } }
  let frame ← Cmd.get
  let nonce ← Cmd.okOr (tryInto nonceLength frame.envelope.nonce) .invalidEnvelope
  let _ ← Cmd.okOr (tryInto secretboxMacLength frame.envelope.authTag) .invalidEnvelope
  let (ciphertext, tag) ←
    encryptEnvelope P authKey.toList plaintext.toList nonce frame.envelope.ciphertext
  Cmd.modify fun f =>
    { f with envelope := { f.envelope with ciphertext, authTag := tag.toList } }

structure Opened where
  responderPublicKey : Bytes publicKeyLength
  initiatorPrivateKey : Bytes privateKeyLength
  initiatorPublicKey : Bytes publicKeyLength

def Opened.zeroed : Opened where
  responderPublicKey := zeros publicKeyLength
  initiatorPrivateKey := zeros privateKeyLength
  initiatorPublicKey := zeros publicKeyLength

def openRaw (nonce ciphertext authTag randomizedPwd : List UInt8)
    (knownResponderPublicKey : Bytes publicKeyLength) : Cmd OpaqueError Opened Unit := do
  Cmd.failIf randomizedPwd.isEmpty .invalidInput
  Cmd.failIf
    (nonce.length ≠ nonceLength || ciphertext.length ≠ plaintextLen ||
      authTag.length ≠ secretboxMacLength) .invalidEnvelope
  let authKey ← deriveEnvelopeKey P knownResponderPublicKey randomizedPwd
  let nonce ← Cmd.okOr (tryInto nonceLength nonce) .invalidEnvelope
  let tag ← Cmd.okOr (tryInto secretboxMacLength authTag) .invalidEnvelope
  let plaintext ←
    decryptEnvelope P authKey.toList ciphertext nonce tag (zeros plaintextLen)
  let part ← Cmd.lift (slice plaintext.toList 0 publicKeyLength)
  let responderPublicKey ← Cmd.lift (copyFromSlice publicKeyLength part)
  Cmd.modify fun o => { o with responderPublicKey }
  let part ← Cmd.lift (slice plaintext.toList publicKeyLength (publicKeyLength + privateKeyLength))
  let initiatorPrivateKey ← Cmd.lift (copyFromSlice privateKeyLength part)
  Cmd.modify fun o => { o with initiatorPrivateKey }
  let part ← Cmd.lift (slice plaintext.toList (publicKeyLength + privateKeyLength) plaintextLen)
  let initiatorPublicKey ← Cmd.lift (copyFromSlice publicKeyLength part)
  Cmd.modify fun o => { o with initiatorPublicKey }
  let derivedPk ← Cmd.onErr (Cmd.lift (scalarmultBase P initiatorPrivateKey))
    fun _ => Opened.zeroed
  Cmd.abortIf (!constantTimeEq initiatorPublicKey.toList derivedPk.toList)
    (fun _ => Opened.zeroed) .authenticationError

def «open» (envelope : Envelope) (randomizedPwd : List UInt8)
    (knownResponderPublicKey : Bytes publicKeyLength) : Cmd OpaqueError Opened Unit :=
  openRaw P envelope.nonce envelope.ciphertext envelope.authTag randomizedPwd
    knownResponderPublicKey

/-! ## Sealing and opening -/

def envelopeKey (responderPublicKey : Bytes publicKeyLength) (randomizedPwd : List UInt8) :
    Bytes secretboxKeyLength :=
  hkdfExpand P (P.hmac (Labels.envelopeContext ++ responderPublicKey.toList) randomizedPwd)
    Labels.envelopeContext secretboxKeyLength

theorem deriveEnvelopeKey_eq {responderPublicKey : Bytes publicKeyLength}
    {randomizedPwd : List UInt8} (h : randomizedPwd.isEmpty = false) :
    deriveEnvelopeKey P responderPublicKey randomizedPwd =
      .ok (envelopeKey P responderPublicKey randomizedPwd) := by
  have hsalt : Cmd.fill (zeros (Labels.envelopeContext.length + publicKeyLength)) (do
      spliceAt 0 Labels.envelopeContext.length Labels.envelopeContext
      spliceAt Labels.envelopeContext.length (Labels.envelopeContext.length + publicKeyLength)
        responderPublicKey.toList : Cmd OpaqueError _ Unit) =
        .ok (ofList (Labels.envelopeContext ++ responderPublicKey.toList) (by simp)) := by
    refine Writes.fill (.spliceThen ?_ (.spliceAt ?_)) _ _ <;> simp
  rw [deriveEnvelopeKey]
  simp only [hsalt, Outcome.ok_bind, toList_ofList]
  rw [keyDerivationExtract_eq P _ h, Outcome.ok_bind, expand_eq P _ _ (by decide) (by decide)]
  · rfl
  · rw [List.isEmpty_eq_false_iff, ← List.length_pos_iff]
    simp

theorem sealedKeys_eq (rpk : Bytes publicKeyLength) (isk : Bytes privateKeyLength)
    (ipk : Bytes publicKeyLength) :
    sealedKeys rpk isk ipk =
      .ok (ofList (rpk.toList ++ (isk.toList ++ ipk.toList)) (by simp)) := by
  refine Writes.fill (.spliceThen ?_ (.spliceThen ?_ (.spliceAt ?_))) _ _
    <;> simp

/-- The bytes decrypt, under the password's envelope key, to the three keys. -/
structure Contains (randomizedPwd : List UInt8) (keys : Opened) (nonce : Bytes nonceLength)
    (ciphertext : Bytes plaintextLen) (authTag : Bytes secretboxMacLength) : Prop where
  decrypts :
    P.aeadDecrypt (envelopeKey P keys.responderPublicKey randomizedPwd) nonce
        (authTag.toList ++ ciphertext.toList) =
      some (keys.responderPublicKey.toList ++
        (keys.initiatorPrivateKey.toList ++ keys.initiatorPublicKey.toList))

@[simp] theorem resize_length (bytes : List UInt8) (n : ℕ) : (resize bytes n).length = n := by
  simp [resize]
  omega

/-- Sealing comes down to one call of the cipher, with a fresh nonce. -/
theorem seal_cipher {randomizedPwd : List UInt8} (hpwd : randomizedPwd.isEmpty = false)
    (responderPublicKey : Bytes publicKeyLength) (initiatorPrivateKey : Bytes privateKeyLength)
    (initiatorPublicKey : Bytes publicKeyLength) {envelope : Envelope}
    (hnonce : envelope.nonce.length = nonceLength) (world : World) :
    («seal» P randomizedPwd responderPublicKey initiatorPrivateKey initiatorPublicKey).run
        ⟨envelope, world⟩ =
      (do
        let (ciphertext, tag) ←
          encryptEnvelope P (envelopeKey P responderPublicKey randomizedPwd).toList
            (responderPublicKey.toList ++ (initiatorPrivateKey.toList ++ initiatorPublicKey.toList))
            (World.window world.tape nonceLength) (resize envelope.ciphertext plaintextLen)
        Cmd.modify fun f =>
          { f with envelope := { f.envelope with ciphertext, authTag := tag.toList } } :
        Cmd OpaqueError SealFrame Unit).run
        ⟨⟨(World.window world.tape nonceLength).toList, resize envelope.ciphertext plaintextLen,
          resize envelope.authTag secretboxMacLength⟩, world.advance nonceLength⟩ := by
  have hdraw : (Cmd.zoom SealFrame.world (fun w f => { f with world := w })
      (randomBytes nonceLength)).run ⟨envelope, world⟩ =
        (.ok (World.window world.tape nonceLength),
          ⟨envelope, world.advance nonceLength⟩) := by
    rw [Cmd.run_zoom, randomBytes_run (by decide)]
  rw [«seal», Cmd.run_bind_ok (by rw [Cmd.run_failIf, Outcome.failIf_neg _ (by simp [hpwd])]),
    Cmd.run_bind_ok (Cmd.run_get _),
    Cmd.run_bind_ok (by rw [Cmd.run_failIf, Outcome.failIf_neg _ (by simp [hnonce])]),
    Cmd.run_bind_ok hdraw, Cmd.run_bind_ok (Cmd.run_modify _ _),
    Cmd.run_bind_ok (by rw [Cmd.run_liftM, deriveEnvelopeKey_eq P hpwd]),
    Cmd.run_bind_ok (by rw [Cmd.run_liftM, sealedKeys_eq]), Cmd.run_bind_ok (Cmd.run_modify _ _),
    Cmd.run_bind_ok (Cmd.run_get _),
    Cmd.run_bind_ok (by rw [Cmd.run_okOr, tryInto_toList, Outcome.okOr_some]),
    Cmd.run_bind_ok (by
      rw [Cmd.run_okOr, tryInto_eq_some (resize_length _ _), Outcome.okOr_some])]
  rfl

theorem seal_eq {randomizedPwd : List UInt8} (hpwd : randomizedPwd.isEmpty = false)
    (keys : Opened) {envelope : Envelope} (hnonce : envelope.nonce.length = nonceLength)
    (world : World) {ciphertext : Bytes plaintextLen} {authTag : Bytes secretboxMacLength}
    (hencrypt : P.aeadEncrypt (envelopeKey P keys.responderPublicKey randomizedPwd)
        (World.window world.tape nonceLength) (keys.responderPublicKey.toList ++
          (keys.initiatorPrivateKey.toList ++ keys.initiatorPublicKey.toList)) =
      some (authTag.toList ++ ciphertext.toList)) :
    («seal» P randomizedPwd keys.responderPublicKey keys.initiatorPrivateKey
        keys.initiatorPublicKey).run ⟨envelope, world⟩ =
      (.ok (),
        { envelope := ⟨(World.window world.tape nonceLength).toList, ciphertext.toList,
            authTag.toList⟩
          world := world.advance nonceLength }) := by
  have hseal := @encryptEnvelope_eq P (envelopeKey P keys.responderPublicKey randomizedPwd)
    (keys.responderPublicKey.toList ++
      (keys.initiatorPrivateKey.toList ++ keys.initiatorPublicKey.toList))
    (resize envelope.ciphertext plaintextLen) (World.window world.tape nonceLength) authTag _
    (by rw [List.isEmpty_eq_false_iff, ← List.length_pos_iff]; simp) (by simp) (by simp) hencrypt
  rw [seal_cipher P hpwd _ _ _ hnonce, Cmd.run_bind_ok (by rw [Cmd.run_liftM, hseal])]
  rfl

/-- Encryption succeeds and adds the tag. -/
def EncryptionTotal : Prop :=
  ∀ key nonce plaintext, ∃ encrypted, P.aeadEncrypt key nonce plaintext = some encrypted ∧
    encrypted.length = secretboxMacLength + plaintext.length

theorem EncryptionTotal.exists_parts {P : Primitives} (h : EncryptionTotal P)
    (key : Bytes secretboxKeyLength) (nonce : Bytes nonceLength) (keys : Opened) :
    ∃ (ciphertext : Bytes plaintextLen) (authTag : Bytes secretboxMacLength),
      P.aeadEncrypt key nonce (keys.responderPublicKey.toList ++
        (keys.initiatorPrivateKey.toList ++ keys.initiatorPublicKey.toList)) =
          some (authTag.toList ++ ciphertext.toList) := by
  obtain ⟨bytes, hencrypt, hlen⟩ := h key nonce (keys.responderPublicKey.toList ++
    (keys.initiatorPrivateKey.toList ++ keys.initiatorPublicKey.toList))
  have htag : (bytes.take secretboxMacLength).length = secretboxMacLength := by simp [hlen]
  have hbody : (bytes.drop secretboxMacLength).length = plaintextLen := by simp [hlen]
  refine ⟨ofList _ hbody, ofList _ htag, ?_⟩
  rw [hencrypt, toList_ofList, toList_ofList, List.take_append_drop]

/-- Encryption adds the tag, and decryption undoes it. -/
def CipherCorrect : Prop :=
  ∀ key nonce plaintext, ∃ encrypted, P.aeadEncrypt key nonce plaintext = some encrypted ∧
    encrypted.length = secretboxMacLength + plaintext.length ∧
    P.aeadDecrypt key nonce encrypted = some plaintext

theorem seal_run (hP : CipherCorrect P) {randomizedPwd : List UInt8}
    (hpwd : randomizedPwd.isEmpty = false) (keys : Opened) {envelope : Envelope}
    (hnonce : envelope.nonce.length = nonceLength) (world : World) :
    ∃ ciphertext authTag,
      («seal» P randomizedPwd keys.responderPublicKey keys.initiatorPrivateKey
          keys.initiatorPublicKey).run ⟨envelope, world⟩ =
        (.ok (),
          { envelope := ⟨(World.window world.tape nonceLength).toList, ciphertext.toList,
              authTag.toList⟩
            world := world.advance nonceLength }) ∧
      Contains P randomizedPwd keys (World.window world.tape nonceLength) ciphertext authTag := by
  have htotal : EncryptionTotal P := by
    intro key nonce plaintext
    obtain ⟨encrypted, hencrypt, hlen, -⟩ := hP key nonce plaintext
    exact ⟨encrypted, hencrypt, hlen⟩
  obtain ⟨ciphertext, authTag, hencrypt⟩ := htotal.exists_parts
    (envelopeKey P keys.responderPublicKey randomizedPwd) (World.window world.tape nonceLength) keys
  refine ⟨ciphertext, authTag, seal_eq P hpwd keys hnonce world hencrypt, ⟨?_⟩⟩
  obtain ⟨encrypted, hsame, -, hdecrypt⟩ := hP
    (envelopeKey P keys.responderPublicKey randomizedPwd) (World.window world.tape nonceLength)
    (keys.responderPublicKey.toList ++
      (keys.initiatorPrivateKey.toList ++ keys.initiatorPublicKey.toList))
  rw [hencrypt] at hsame
  rw [Option.some.inj hsame]
  exact hdecrypt

/-- The three keys of a decrypted plaintext. -/
def openedKeys (plaintext : Bytes plaintextLen) : Opened where
  responderPublicKey := ofList (plaintext.toList.take publicKeyLength) (by simp)
  initiatorPrivateKey :=
    ofList ((plaintext.toList.drop publicKeyLength).take privateKeyLength) (by simp)
  initiatorPublicKey :=
    ofList (plaintext.toList.drop (publicKeyLength + privateKeyLength)) (by simp)

theorem openedKeys_append (keys : Opened) {plaintext : Bytes plaintextLen}
    (h : plaintext.toList = keys.responderPublicKey.toList ++
      (keys.initiatorPrivateKey.toList ++ keys.initiatorPublicKey.toList)) :
    openedKeys plaintext = keys := by
  obtain ⟨rpk, isk, ipk⟩ := keys
  simp only [openedKeys, Opened.mk.injEq]
  refine ⟨?_, ?_, ?_⟩ <;> apply List.Vector.toList_injective <;> rw [toList_ofList, h]
  · exact List.take_left' rpk.toList_length
  · rw [List.drop_left' rpk.toList_length, List.take_left' isk.toList_length]
  · rw [← List.append_assoc, List.drop_left' (by simp)]

/-- A scalar and the encoding of its multiple of the base point. -/
def Opened.IsPair (keys : Opened) : Prop :=
  ∃ s, s ≠ 0 ∧ keys.initiatorPrivateKey = P.group.asBytes s ∧
    keys.initiatorPublicKey = P.group.compress (s • P.group.basepoint)

/-- The end of opening: keep a key pair, or erase all that was written. -/
def keepPair (keys : Opened) : Cmd OpaqueError Opened Unit := do
  let derivedPk ← Cmd.onErr (Cmd.lift (scalarmultBase P keys.initiatorPrivateKey))
    fun _ => Opened.zeroed
  Cmd.abortIf (!constantTimeEq keys.initiatorPublicKey.toList derivedPk.toList)
    (fun _ => Opened.zeroed) .authenticationError

theorem keepPair_cases (keys slots : Opened) :
    (keys.IsPair P ∧ (keepPair P keys).run slots = (.ok (), slots)) ∨
    ((∀ s, s ≠ 0 → keys.initiatorPrivateKey ≠ P.group.asBytes s) ∧
      (keepPair P keys).run slots = (.err .cryptoError, Opened.zeroed)) ∨
    (¬ keys.IsPair P ∧ (∃ s, s ≠ 0 ∧ keys.initiatorPrivateKey = P.group.asBytes s) ∧
      (keepPair P keys).run slots = (.err .authenticationError, Opened.zeroed)) := by
  rcases scalarmultBase_cases P keys.initiatorPrivateKey with ⟨s, hs, hprivate, hok⟩ | ⟨hnone, herr⟩
  · have hderived : ((Cmd.lift (scalarmultBase P keys.initiatorPrivateKey)).onErr
        fun _ => Opened.zeroed).run slots =
        (.ok (P.group.compress (s • P.group.basepoint)), slots) :=
      Cmd.onErr_eq_ok_iff.mpr (by rw [Cmd.run_lift, hok])
    rw [keepPair, Cmd.run_bind_ok hderived, Cmd.run_abortIf]
    by_cases hpublic : keys.initiatorPublicKey = P.group.compress (s • P.group.basepoint)
    · refine .inl ⟨⟨s, hs, hprivate, hpublic⟩, ?_⟩
      rw [hpublic, constantTimeEq_self, if_neg (by simp)]
    · refine .inr (.inr ⟨?_, ⟨s, hs, hprivate⟩, ?_⟩)
      · rintro ⟨t, -, hsame, hmultiple⟩
        obtain rfl := P.group.asBytes_injective (hprivate.symm.trans hsame)
        exact hpublic hmultiple
      · rw [if_pos]
        simpa using fun h => hpublic (List.Vector.toList_injective h)
  · refine .inr (.inl ⟨hnone, ?_⟩)
    rw [keepPair, Cmd.run_bind_err (Cmd.run_onErr_of_err (by rw [Cmd.run_lift, herr]))]

theorem openRaw_plaintext {randomizedPwd : List UInt8} (hpwd : randomizedPwd.isEmpty = false)
    {responderPublicKey : Bytes publicKeyLength} {nonce : Bytes nonceLength}
    {ciphertext plaintext : Bytes plaintextLen} {authTag : Bytes secretboxMacLength}
    (hdecrypt : decryptEnvelope P (envelopeKey P responderPublicKey randomizedPwd).toList
      ciphertext.toList nonce authTag (zeros plaintextLen) = .ok plaintext) (slots : Opened) :
    (openRaw P nonce.toList ciphertext.toList authTag.toList randomizedPwd
        responderPublicKey).run slots =
      (keepPair P (openedKeys plaintext)).run (openedKeys plaintext) := by
  have h₁ : (slice plaintext.toList 0 publicKeyLength : OpaqueResult _) =
      .ok (openedKeys plaintext).responderPublicKey.toList := by
    rw [slice_eq_ok (by decide) (by simp)]
    rfl
  have h₂ : (slice plaintext.toList publicKeyLength (publicKeyLength + privateKeyLength) :
      OpaqueResult _) = .ok (openedKeys plaintext).initiatorPrivateKey.toList := by
    rw [slice_eq_ok (by decide) (by simp)]
    rfl
  have h₃ : (slice plaintext.toList (publicKeyLength + privateKeyLength) plaintextLen :
      OpaqueResult _) = .ok (openedKeys plaintext).initiatorPublicKey.toList := by
    rw [slice_eq_ok (by decide) (by simp), List.take_of_length_le (by simp)]
    rfl
  rw [openRaw, Cmd.run_bind_ok (by rw [Cmd.run_failIf, Outcome.failIf_neg _ (by simp [hpwd])]),
    Cmd.run_bind_ok (by rw [Cmd.run_failIf, Outcome.failIf_neg _ (by simp)]),
    Cmd.run_bind_ok (by rw [Cmd.run_liftM, deriveEnvelopeKey_eq P hpwd]),
    Cmd.run_bind_ok (by rw [Cmd.run_okOr, tryInto_toList, Outcome.okOr_some]),
    Cmd.run_bind_ok (by rw [Cmd.run_okOr, tryInto_toList, Outcome.okOr_some]),
    Cmd.run_bind_ok (by rw [Cmd.run_liftM, hdecrypt]),
    Cmd.run_bind_ok (by rw [Cmd.run_lift, h₁]),
    Cmd.run_bind_ok (by rw [Cmd.run_lift, copyFromSlice_toList]),
    Cmd.run_bind_ok (Cmd.run_modify _ _), Cmd.run_bind_ok (by rw [Cmd.run_lift, h₂]),
    Cmd.run_bind_ok (by rw [Cmd.run_lift, copyFromSlice_toList]),
    Cmd.run_bind_ok (Cmd.run_modify _ _), Cmd.run_bind_ok (by rw [Cmd.run_lift, h₃]),
    Cmd.run_bind_ok (by rw [Cmd.run_lift, copyFromSlice_toList]),
    Cmd.run_bind_ok (Cmd.run_modify _ _)]
  rfl

theorem openRaw_run {randomizedPwd : List UInt8} (hpwd : randomizedPwd.isEmpty = false)
    {keys : Opened} {nonce : Bytes nonceLength} {ciphertext : Bytes plaintextLen}
    {authTag : Bytes secretboxMacLength}
    (hcontains : Contains P randomizedPwd keys nonce ciphertext authTag)
    (hpair : keys.IsPair P) (slots : Opened) :
    (openRaw P nonce.toList ciphertext.toList authTag.toList randomizedPwd
      keys.responderPublicKey).run slots = (.ok (), keys) := by
  have hdecrypt := @decryptEnvelope_eq P _ _ nonce authTag plaintextLen _ (zeros plaintextLen)
    (by decide) (by simp) (by simp) hcontains.decrypts
  rw [openRaw_plaintext P hpwd hdecrypt, openedKeys_append keys (toList_ofList _ _)]
  rcases keepPair_cases P keys keys with ⟨-, hok⟩ | ⟨hnone, -⟩ | ⟨hnot, -⟩
  · exact hok
  · obtain ⟨s, hs, hprivate, -⟩ := hpair
    exact absurd hprivate (hnone s hs)
  · exact absurd hpair hnot

/-- Opening comes down to one call of the cipher and the check of the pair. -/
theorem openRaw_cases {randomizedPwd : List UInt8} (hpwd : randomizedPwd.isEmpty = false)
    (responderPublicKey : Bytes publicKeyLength) (nonce : Bytes nonceLength)
    (ciphertext : Bytes plaintextLen) (authTag : Bytes secretboxMacLength) (slots : Opened) :
    (P.aeadDecrypt (envelopeKey P responderPublicKey randomizedPwd) nonce
        (authTag.toList ++ ciphertext.toList) = none ∧
      (openRaw P nonce.toList ciphertext.toList authTag.toList randomizedPwd
        responderPublicKey).run slots = (.err .authenticationError, slots)) ∨
    ∃ decrypted, P.aeadDecrypt (envelopeKey P responderPublicKey randomizedPwd) nonce
        (authTag.toList ++ ciphertext.toList) = some decrypted ∧
      ((decrypted.length ≠ plaintextLen ∧
        (openRaw P nonce.toList ciphertext.toList authTag.toList randomizedPwd
          responderPublicKey).run slots = (.err .cryptoError, slots)) ∨
      ∃ h : decrypted.length = plaintextLen,
        (openRaw P nonce.toList ciphertext.toList authTag.toList randomizedPwd
            responderPublicKey).run slots =
          (keepPair P (openedKeys (ofList decrypted h))).run
            (openedKeys (ofList decrypted h))) := by
  have hfails : ∀ e, decryptEnvelope P (envelopeKey P responderPublicKey randomizedPwd).toList
      ciphertext.toList nonce authTag (zeros plaintextLen) = .err e →
      (openRaw P nonce.toList ciphertext.toList authTag.toList randomizedPwd
        responderPublicKey).run slots = (.err e, slots) := by
    intro e herr
    rw [openRaw, Cmd.run_bind_ok (by rw [Cmd.run_failIf, Outcome.failIf_neg _ (by simp [hpwd])]),
      Cmd.run_bind_ok (by rw [Cmd.run_failIf, Outcome.failIf_neg _ (by simp)]),
      Cmd.run_bind_ok (by rw [Cmd.run_liftM, deriveEnvelopeKey_eq P hpwd]),
      Cmd.run_bind_ok (by rw [Cmd.run_okOr, tryInto_toList, Outcome.okOr_some]),
      Cmd.run_bind_ok (by rw [Cmd.run_okOr, tryInto_toList, Outcome.okOr_some]),
      Cmd.run_bind_err (by rw [Cmd.run_liftM, herr])]
  rcases decryptEnvelope_cases P (envelopeKey P responderPublicKey randomizedPwd) nonce authTag
    ciphertext (zeros plaintextLen) (by decide) with
    ⟨hnone, herr⟩ | ⟨decrypted, hsome, ⟨hlen, herr⟩ | ⟨hlen, hok⟩⟩
  · exact .inl ⟨hnone, hfails _ herr⟩
  · exact .inr ⟨decrypted, hsome, .inl ⟨hlen, hfails _ herr⟩⟩
  · exact .inr ⟨decrypted, hsome, .inr ⟨hlen, openRaw_plaintext P hpwd hok slots⟩⟩

/-- The keys of a pair, or an error with the outputs as they were or erased. -/
theorem openRaw_result (nonce ciphertext authTag randomizedPwd : List UInt8)
    (responderPublicKey : Bytes publicKeyLength) (slots : Opened) :
    (∃ keys : Opened, keys.IsPair P ∧
      (openRaw P nonce ciphertext authTag randomizedPwd responderPublicKey).run slots =
        (.ok (), keys)) ∨
    ∃ e, (openRaw P nonce ciphertext authTag randomizedPwd responderPublicKey).run slots =
        (.err e, slots) ∨
      (openRaw P nonce ciphertext authTag randomizedPwd responderPublicKey).run slots =
        (.err e, Opened.zeroed) := by
  by_cases hpwd : randomizedPwd.isEmpty = true
  · refine .inr ⟨.invalidInput, .inl ?_⟩
    rw [openRaw, Cmd.run_bind_err (by rw [Cmd.run_failIf, Outcome.failIf_pos _ hpwd])]
  by_cases hlengths : (nonce.length ≠ nonceLength || ciphertext.length ≠ plaintextLen ||
      authTag.length ≠ secretboxMacLength) = true
  · refine .inr ⟨.invalidEnvelope, .inl ?_⟩
    rw [openRaw, Cmd.run_bind_ok (by rw [Cmd.run_failIf, Outcome.failIf_neg _ hpwd]),
      Cmd.run_bind_err (by rw [Cmd.run_failIf, Outcome.failIf_pos _ hlengths])]
  simp only [Bool.or_eq_true, decide_eq_true_eq, not_or, not_not] at hlengths
  obtain ⟨⟨hnonce, hciphertext⟩, htag⟩ := hlengths
  rcases openRaw_cases P (by simpa using hpwd) responderPublicKey (ofList nonce hnonce)
      (ofList ciphertext hciphertext) (ofList authTag htag) slots with
    ⟨-, hrun⟩ | ⟨decrypted, -, ⟨-, hrun⟩ | ⟨hlen, hrun⟩⟩
  · exact .inr ⟨_, .inl hrun⟩
  · exact .inr ⟨_, .inl hrun⟩
  · rw [toList_ofList, toList_ofList, toList_ofList] at hrun
    rcases keepPair_cases P (openedKeys (ofList decrypted hlen))
      (openedKeys (ofList decrypted hlen)) with ⟨hpair, hok⟩ | ⟨-, herr⟩ | ⟨-, -, herr⟩
    · exact .inl ⟨_, hpair, hrun.trans hok⟩
    · exact .inr ⟨_, .inr (hrun.trans herr)⟩
    · exact .inr ⟨_, .inr (hrun.trans herr)⟩

/-! ## What a success went through -/

def joined (nonce : Bytes nonceLength) (ciphertext : Bytes plaintextLen)
    (authTag : Bytes secretboxMacLength) : Bytes envelopeLength :=
  ofList (nonce.toList ++ (ciphertext.toList ++ authTag.toList)) (by simp)

theorem exists_joined (envelope : Bytes envelopeLength) :
    ∃ nonce ciphertext authTag, envelope = joined nonce ciphertext authTag := by
  obtain ⟨parts, hlengths, hparts⟩ := exists_parts envelope.toList
    [nonceLength, plaintextLen, secretboxMacLength] (by simp)
  rcases parts with _ | ⟨nonce, _ | ⟨ciphertext, _ | ⟨authTag, _ | ⟨_, _⟩⟩⟩⟩ <;>
    simp only [List.map_cons, List.map_nil, List.cons.injEq, reduceCtorEq, and_false,
      and_true] at hlengths
  obtain ⟨hnonce, hciphertext, hauthTag⟩ := hlengths
  refine ⟨ofList nonce hnonce, ofList ciphertext hciphertext, ofList authTag hauthTag, ?_⟩
  apply List.Vector.toList_injective
  rw [hparts, joined, toList_ofList, toList_ofList, toList_ofList, toList_ofList]
  simp

theorem joined_inj {nonce nonce' : Bytes nonceLength}
    {ciphertext ciphertext' : Bytes plaintextLen}
    {authTag authTag' : Bytes secretboxMacLength}
    (h : joined nonce ciphertext authTag = joined nonce' ciphertext' authTag') :
    nonce = nonce' ∧ ciphertext = ciphertext' ∧ authTag = authTag' := by
  have hlists := congrArg List.Vector.toList h
  rw [joined, joined, toList_ofList, toList_ofList] at hlists
  obtain ⟨hnonce, hrest⟩ := toList_append_inj hlists
  obtain ⟨hciphertext, hauthTag⟩ := toList_append_inj hrest
  exact ⟨hnonce, hciphertext, List.Vector.toList_injective hauthTag⟩

theorem slices_of_joined (nonce : Bytes nonceLength) (ciphertext : Bytes plaintextLen)
    (authTag : Bytes secretboxMacLength) :
    let envelope := (joined nonce ciphertext authTag).toList
    let ctSize := envelopeLength - nonceLength - secretboxMacLength
    (slice envelope 0 nonceLength : OpaqueResult _) = .ok nonce.toList ∧
      (slice envelope nonceLength (nonceLength + ctSize) : OpaqueResult _) =
        .ok ciphertext.toList ∧
      (slice envelope (nonceLength + ctSize) envelopeLength : OpaqueResult _) =
        .ok authTag.toList := by
  intro envelope ctSize
  have henvelope : envelope = nonce.toList ++ (ciphertext.toList ++ authTag.toList) :=
    toList_ofList _ _
  rw [henvelope]
  refine ⟨slice_left _ _ (by simp), slice_append _ _ _ (by simp) (by simp [ctSize]), ?_⟩
  rw [← List.append_assoc]
  exact slice_right _ _ (by simp [ctSize]) (by simp)

def Decrypts (key : Bytes secretboxKeyLength) (envelope : Bytes envelopeLength) : Prop :=
  ∃ nonce ciphertext authTag plaintext, envelope = joined nonce ciphertext authTag ∧
    P.aeadDecrypt key nonce (authTag.toList ++ ciphertext.toList) = some plaintext

/-- The cipher made the envelope under the key. -/
def Encrypts (key : Bytes secretboxKeyLength) (envelope : Bytes envelopeLength) : Prop :=
  ∃ nonce ciphertext authTag plaintext, envelope = joined nonce ciphertext authTag ∧
    P.aeadEncrypt key nonce plaintext = some (authTag.toList ++ ciphertext.toList)

theorem openRaw_ok {nonce ciphertext authTag randomizedPwd : List UInt8}
    {responderPublicKey : Bytes publicKeyLength} {slots slots' : Opened} {u : Unit}
    (h : (openRaw P nonce ciphertext authTag randomizedPwd responderPublicKey).run slots =
      (.ok u, slots')) :
    ∃ (nonceBytes : Bytes nonceLength) (body : Bytes plaintextLen)
      (tag : Bytes secretboxMacLength) (plaintext : List UInt8),
      nonce = nonceBytes.toList ∧ ciphertext = body.toList ∧ authTag = tag.toList ∧
      P.aeadDecrypt (envelopeKey P responderPublicKey randomizedPwd) nonceBytes
        (tag.toList ++ body.toList) = some plaintext := by
  simp only [openRaw, Cmd.run_bind_eq_ok_iff, Cmd.run_failIf, Cmd.run_liftM, Cmd.run_okOr,
    Prod.mk.injEq, Outcome.failIf_eq_ok_iff, Outcome.okOr_eq_ok_iff] at h
  obtain ⟨_, _, ⟨hpwd, rfl⟩, _, _, ⟨hlengths, rfl⟩, authKey, _, ⟨hkey, rfl⟩, nonceBytes, _,
    ⟨hnonce, rfl⟩, tag, _, ⟨htag, rfl⟩, _, _, ⟨hdecrypt, rfl⟩, -⟩ := h
  rw [deriveEnvelopeKey_eq P (by simpa using hpwd)] at hkey
  obtain rfl := Outcome.ok.inj hkey
  simp only [Bool.or_eq_true, decide_eq_true_eq, not_or, not_not] at hlengths
  obtain ⟨plaintext, hdecrypted⟩ := decryptEnvelope_ok P (by decide) hlengths.1.2 hdecrypt
  exact ⟨nonceBytes, ofList ciphertext hlengths.1.2, tag, plaintext,
    tryInto_eq_some_iff.mp hnonce, rfl, tryInto_eq_some_iff.mp htag, hdecrypted⟩

theorem seal_ok {randomizedPwd : List UInt8} {responderPublicKey : Bytes publicKeyLength}
    {initiatorPrivateKey : Bytes privateKeyLength} {initiatorPublicKey : Bytes publicKeyLength}
    {world : World} {f' : SealFrame} {u : Unit}
    (h : («seal» P randomizedPwd responderPublicKey initiatorPrivateKey initiatorPublicKey).run
      ⟨Envelope.new, world⟩ = (.ok u, f')) :
    ∃ envelope : Bytes envelopeLength,
      envelope.toList =
        f'.envelope.nonce ++ (f'.envelope.ciphertext ++ f'.envelope.authTag) ∧
      Encrypts P (envelopeKey P responderPublicKey randomizedPwd) envelope := by
  obtain ⟨_, _, hpwd, -⟩ := Cmd.run_bind_eq_ok_iff.mp h
  rw [Cmd.run_failIf, Prod.mk.injEq, Outcome.failIf_eq_ok_iff, Bool.not_eq_true] at hpwd
  rw [seal_cipher P hpwd.1 _ _ _ Envelope.new_nonce_length] at h
  obtain ⟨⟨ciphertext, authTag⟩, f₁, hencrypt, h⟩ := Cmd.run_bind_eq_ok_iff.mp h
  rw [Cmd.run_liftM, Prod.mk.injEq] at hencrypt
  obtain ⟨hencrypt, rfl⟩ := hencrypt
  obtain ⟨hencrypt, hlen⟩ := encryptEnvelope_ok P (by simp) hencrypt
  cases h
  have hbody : ciphertext.length = plaintextLen := by simpa using hlen
  exact ⟨joined (World.window world.tape nonceLength) (ofList ciphertext hbody) authTag, rfl,
    _, _, _, _, rfl, hencrypt⟩

end Envelope

end AuraOpaque.Core
