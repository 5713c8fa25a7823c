import AuraOpaque.Core.Envelope
import AuraOpaque.Core.Sample

/-!
# Sealing and opening an envelope

Sealing starts from whatever the envelope held before, and opening leaves
either a consistent key pair behind or nothing of the plaintext.
-/

namespace AuraOpaque.Core.Envelope

open AuraOpaque.Foundation

variable (P : Primitives)

/--
What is sealed is opened again, over any stale envelope with a nonce of full
length, if the cipher undoes itself.  Whatever the bytes, opening succeeds only
with a key pair, and a failure leaves the outputs alone or erases them all.
-/
theorem seal_open :
    (CipherCorrect P → ∀ (randomizedPwd : List UInt8) (relayKey : Bytes publicKeyLength)
      (s : P.group.Scalar) (envelope : Envelope) (world : World), randomizedPwd ≠ [] → s ≠ 0 →
      envelope.nonce.length = nonceLength →
      ∃ (sealed : Envelope) (world' : World),
        («seal» P randomizedPwd relayKey (P.group.asBytes s)
          (P.group.compress (s • P.group.basepoint))).run ⟨envelope, world⟩ =
            (.ok (), ⟨sealed, world'⟩) ∧
        sealed.nonce.length = 24 ∧ sealed.ciphertext.length = 96 ∧ sealed.authTag.length = 16 ∧
        ∀ slots, («open» P sealed randomizedPwd relayKey).run slots =
          (.ok (), ⟨relayKey, P.group.asBytes s, P.group.compress (s • P.group.basepoint)⟩)) ∧
    (∀ (nonce ciphertext authTag randomizedPwd : List UInt8) (relayKey : Bytes publicKeyLength)
      (slots keys : Opened),
      (openRaw P nonce ciphertext authTag randomizedPwd relayKey).run slots = (.ok (), keys) →
      ∃ s, s ≠ 0 ∧ P.group.fromCanonicalBytes keys.initiatorPrivateKey = some s ∧
        keys.initiatorPublicKey = P.group.compress (s • P.group.basepoint)) ∧
    ∀ (nonce ciphertext authTag randomizedPwd : List UInt8) (relayKey : Bytes publicKeyLength)
      (slots slots' : Opened) (e : OpaqueError),
      (openRaw P nonce ciphertext authTag randomizedPwd relayKey).run slots = (.err e, slots') →
      slots' = slots ∨ slots' = Opened.zeroed := by
  refine ⟨?_, ?_, ?_⟩
  · intro hcipher randomizedPwd relayKey s envelope world hpwd hs hnonce
    have hnonempty := List.isEmpty_eq_false_iff.mpr hpwd
    obtain ⟨ciphertext, authTag, hseal, hcontains⟩ := seal_run P hcipher hnonempty
      ⟨relayKey, P.group.asBytes s, P.group.compress (s • P.group.basepoint)⟩ hnonce world
    refine ⟨_, _, hseal, List.Vector.toList_length _, ciphertext.toList_length,
      authTag.toList_length, fun slots => ?_⟩
    exact openRaw_run P hnonempty hcontains ⟨s, hs, rfl, rfl⟩ slots
  · intro nonce ciphertext authTag randomizedPwd relayKey slots keys h
    rcases openRaw_result P nonce ciphertext authTag randomizedPwd relayKey slots with
      ⟨opened, ⟨s, hs, hprivate, hpublic⟩, hrun⟩ | ⟨e, hrun | hrun⟩
    · obtain ⟨-, rfl⟩ := Prod.mk.inj (h.symm.trans hrun)
      exact ⟨s, hs, hprivate ▸ P.group.fromCanonicalBytes_asBytes s, hpublic⟩
    · cases (Prod.mk.inj (h.symm.trans hrun)).1
    · cases (Prod.mk.inj (h.symm.trans hrun)).1
  · intro nonce ciphertext authTag randomizedPwd relayKey slots slots' e h
    rcases openRaw_result P nonce ciphertext authTag randomizedPwd relayKey slots with
      ⟨opened, -, hrun⟩ | ⟨e', hrun | hrun⟩
    · cases (Prod.mk.inj (h.symm.trans hrun)).1
    · exact .inl (Prod.mk.inj (h.symm.trans hrun)).2
    · exact .inr (Prod.mk.inj (h.symm.trans hrun)).2

/-- A longer ciphertext and no tag from before do not matter. -/
theorem seal_open_sample : ∃ (s : Sample.primitives.group.Scalar) (sealed : Envelope)
    (world' : World), s = (2 : ZMod 5) ∧
      («seal» Sample.primitives [1] (zeros _) (Sample.primitives.group.asBytes s)
        (Sample.primitives.group.compress (s • Sample.primitives.group.basepoint))).run
          ⟨⟨List.replicate nonceLength 7, List.replicate 200 9, []⟩, Sample.world 0⟩ =
        (.ok (), ⟨sealed, world'⟩) ∧
      («open» Sample.primitives sealed [1] (zeros _)).run Opened.zeroed =
        (.ok (), ⟨zeros _, Sample.primitives.group.asBytes s,
          Sample.primitives.group.compress (s • Sample.primitives.group.basepoint)⟩) := by
  obtain ⟨sealed, world', hseal, -, -, -, hopen⟩ := (seal_open Sample.primitives).1
    Sample.primitives_correct.aead_correct [1] (zeros _) (2 : ZMod 5)
    ⟨List.replicate nonceLength 7, List.replicate 200 9, []⟩ (Sample.world 0) (by simp)
    (by decide : (2 : ZMod 5) ≠ 0) (by simp)
  exact ⟨_, sealed, world', rfl, hseal, hopen Opened.zeroed⟩

end AuraOpaque.Core.Envelope
