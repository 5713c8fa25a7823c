import AuraOpaque.Relay.State
import AuraOpaque.Core.Crypto

/-!
# The relay's key pair

A key pair is generated, or restored from its bytes; both ways the public key is
the one of the private key.
-/

namespace AuraOpaque.Relay

open AuraOpaque.Foundation AuraOpaque.Core

variable {P : Primitives} {keypair : ResponderKeyPair} {w w' : World}

/-- The public key belongs to the private key, which is a nonzero scalar. -/
def ResponderKeyPair.Matches (P : Primitives) (keypair : ResponderKeyPair) : Prop :=
  ∃ s : P.group.Scalar, s ≠ 0 ∧ keypair.privateKey = P.group.asBytes s ∧
    keypair.publicKey = P.group.compress (s • P.group.basepoint)

theorem ResponderKeyPair.matches_of_scalarmultBase
    (h : scalarmultBase P keypair.privateKey = .ok keypair.publicKey) : keypair.Matches P := by
  rcases scalarmultBase_cases P keypair.privateKey with ⟨s, hs, hprivate, hpublic⟩ | ⟨-, herr⟩
  · rw [h] at hpublic
    exact ⟨s, hs, hprivate, Outcome.ok.inj hpublic⟩
  · rw [h] at herr
    cases herr

theorem ResponderKeyPair.Matches.valid (h : keypair.Matches P) :
    validatePublicKey P keypair.publicKey.toList = .ok () := by
  obtain ⟨s, hs, -, hpublic⟩ := h
  rw [validatePublicKey_eq_ok_iff, hpublic]
  exact ⟨_, smul_ne_zero hs P.group.basepoint_ne_zero, rfl⟩

theorem ResponderKeyPair.generate_ok
    (h : (ResponderKeyPair.generate P).run w = (.ok keypair, w')) : keypair.Matches P := by
  obtain ⟨privateKey, w₁, -, h⟩ := Cmd.run_bind_eq_ok_iff.mp h
  obtain ⟨publicKey, w₂, hpublic, h⟩ := Cmd.run_bind_eq_ok_iff.mp h
  cases h
  exact matches_of_scalarmultBase (Prod.mk.inj hpublic).1

/-- What is restored is what was handed in, and nothing but matching keys is restored. -/
theorem ResponderKeyPair.fromKeys_eq_ok_iff {privateKey publicKey : List UInt8} :
    ResponderKeyPair.fromKeys P privateKey publicKey = .ok keypair ↔
      keypair.Matches P ∧ privateKey = keypair.privateKey.toList ∧
        publicKey = keypair.publicKey.toList := by
  constructor
  · intro h
    unfold ResponderKeyPair.fromKeys at h
    obtain ⟨-, -, h⟩ := Outcome.bind_eq_ok_iff.mp h
    obtain ⟨-, -, h⟩ := Outcome.bind_eq_ok_iff.mp h
    obtain ⟨sk, hsk, h⟩ := Outcome.bind_eq_ok_iff.mp h
    obtain ⟨derived, hderived, h⟩ := Outcome.bind_eq_ok_iff.mp h
    obtain ⟨_, hsame, h⟩ := Outcome.bind_eq_ok_iff.mp h
    obtain ⟨sk', hprivate, h⟩ := Outcome.bind_eq_ok_iff.mp h
    obtain ⟨pk, hpublic, h⟩ := Outcome.bind_eq_ok_iff.mp h
    cases h
    have hlist : privateKey = sk.toList :=
      tryInto_eq_some_iff.mp (Outcome.okOr_eq_ok_iff.mp hsk)
    have hlist' : privateKey = sk'.toList := copyFromSlice_eq_ok_iff.mp hprivate
    have hpk : publicKey = pk.toList := copyFromSlice_eq_ok_iff.mp hpublic
    have hequal : publicKey = derived.toList := by
      simpa [Outcome.failIf_eq_ok_iff] using hsame
    obtain rfl : sk = sk' := List.Vector.toList_injective (hlist.symm.trans hlist')
    obtain rfl : derived = pk := List.Vector.toList_injective (hequal.symm.trans hpk)
    exact ⟨matches_of_scalarmultBase hderived, hlist, hpk⟩
  · rintro ⟨hmatches, rfl, rfl⟩
    have hvalid := hmatches.valid
    obtain ⟨s, hs, hprivate, hpublic⟩ := hmatches
    have hderived : scalarmultBase P keypair.privateKey = .ok keypair.publicKey := by
      rw [hprivate, hpublic, scalarmultBase_asBytes P hs]
    simp [ResponderKeyPair.fromKeys, hvalid, hderived]

/-- A responder under a matching key pair, with the evaluator of a nonzero seed. -/
def OpaqueResponder.Sound (P : Primitives) (responder : OpaqueResponder) : Prop :=
  responder.keypair.Matches P ∧ ∃ seed : Bytes oprfSeedLength, seed ≠ zeros _ ∧
    responder.evaluator = (InMemoryEvaluator.mk seed).toOprfEvaluator P

theorem OpaqueResponder.new_ok {oprfSeed : Bytes oprfSeedLength} {responder : OpaqueResponder}
    (hkeypair : keypair.Matches P) (h : OpaqueResponder.new P keypair oprfSeed = .ok responder) :
    responder.Sound P := by
  unfold OpaqueResponder.new InMemoryEvaluator.new at h
  obtain ⟨-, -, h⟩ := Outcome.bind_eq_ok_iff.mp h
  obtain ⟨evaluator, hevaluator, h⟩ := Outcome.bind_eq_ok_iff.mp h
  obtain ⟨_, hseed, hevaluator⟩ := Outcome.bind_eq_ok_iff.mp hevaluator
  cases hevaluator
  cases h
  refine ⟨hkeypair, oprfSeed, ?_, rfl⟩
  rw [Outcome.failIf_eq_ok_iff, Bool.not_eq_true, isAllZero_toList_eq_false_iff] at hseed
  exact hseed

end AuraOpaque.Relay
