import AuraOpaque.Core.Sample

/-!
# What blinding leaves of the input

The three steps of the oblivious PRF on honest values give a value without the
blind in it, and an evaluated element is accepted exactly when it encodes a
point other than the identity.
-/

namespace AuraOpaque.Core.Oprf

open AuraOpaque.Foundation

variable (P : Primitives)

/-- The string that the finalizing hash is taken of. -/
def finalizeMessage (input : List UInt8) (point : P.group.Point) : List UInt8 :=
  Labels.oprfContext ++ [finalizeDomain] ++ input ++ (P.group.compress point).toList

theorem finalizeMessage_inj {input : List UInt8} {p q : P.group.Point} :
    finalizeMessage P input p = finalizeMessage P input q ↔ p = q := by
  constructor
  · intro h
    exact P.group.compress_injective (List.Vector.toList_injective (List.append_cancel_left h))
  · rintro rfl
    rfl

theorem sha512Multi_finalizeMessage (input : List UInt8) (p : P.group.Point) :
    sha512Multi P [Labels.oprfContext, [finalizeDomain], input, (P.group.compress p).toList] =
      P.sha512 (finalizeMessage P input p) := by
  simp [sha512Multi, finalizeMessage]

theorem finalize_eq {input : List UInt8} {blind : P.group.Scalar} {p : P.group.Point}
    (hinput : input ≠ []) (hblind : blind ≠ 0) (hp : p ≠ 0) :
    finalize P input (P.group.asBytes blind) (P.group.compress p) =
      .ok (P.sha512 (finalizeMessage P input (blind⁻¹ • p))) := by
  rw [finalize_compress P (List.isEmpty_eq_false_iff.mpr hinput) hblind hp,
    sha512Multi_finalizeMessage]

/-- Only the encoding of a point other than the identity gets through the unblinding. -/
theorem finalize_ok {input : List UInt8} {blind : P.group.Scalar}
    {evaluatedElement : Bytes publicKeyLength} {out : Bytes hashLength} (hblind : blind ≠ 0)
    (h : finalize P input (P.group.asBytes blind) evaluatedElement = .ok out) :
    ∃ p, p ≠ 0 ∧ evaluatedElement = P.group.compress p := by
  obtain ⟨-, -, h⟩ := Outcome.bind_eq_ok_iff.mp h
  rw [scalarInvert_asBytes P hblind, Outcome.ok_bind] at h
  obtain ⟨unblinded, hmul, -⟩ := Outcome.bind_eq_ok_iff.mp h
  obtain ⟨s, p, -, hp, -, helement, -⟩ := (scalarMult_eq_ok_iff P).mp hmul
  exact ⟨p, hp, helement⟩

/--
Blinding, evaluating and finalizing give the PRF value whatever the blind was,
and of all evaluated elements just the encodings of points are accepted, no two
of them with one hashed string.
-/
theorem oblivious_evaluation {input : List UInt8} (hinput : input ≠ []) {r : P.group.Scalar}
    (hr : r ≠ 0) :
    hashToGroup P input = .ok (P.group.compress (inputPoint P input)) ∧
    (inputPoint P input ≠ 0 → ∀ k : P.group.Scalar, k ≠ 0 → ∀ (f : BlindFrame) (w : World),
      (randomNonzeroScalar P).run f.world = (.ok (P.group.asBytes r), w) →
      ∃ f' evaluated, (blind P input).run f = (.ok (), f') ∧
        f'.blindScalar = P.group.asBytes r ∧
        evaluate P f'.blindedElement (P.group.asBytes k) = .ok evaluated ∧
        finalize P input f'.blindScalar evaluated =
          .ok (P.sha512 (finalizeMessage P input (k • inputPoint P input)))) ∧
    (∀ element, (∃ out, finalize P input (P.group.asBytes r) element = .ok out) ↔
      ∃ p, p ≠ 0 ∧ element = P.group.compress p) ∧
    (∀ p, p ≠ 0 → finalize P input (P.group.asBytes r) (P.group.compress p) =
      .ok (P.sha512 (finalizeMessage P input (r⁻¹ • p)))) ∧
    ∀ p q, P.group.compress p ≠ P.group.compress q →
      finalizeMessage P input (r⁻¹ • p) ≠ finalizeMessage P input (r⁻¹ • q) := by
  have hnonempty := List.isEmpty_eq_false_iff.mpr hinput
  refine ⟨hashToGroup_eq P hnonempty, ?_, ?_, ?_, ?_⟩
  · intro hpoint k hk f w hdraw
    have hblinded : r • inputPoint P input ≠ 0 := smul_ne_zero hr hpoint
    refine ⟨_, _, blind_draw P hnonempty hpoint hr hdraw, rfl, evaluate_eq P hk hblinded, ?_⟩
    rw [finalize_blinded P hnonempty hr hk hpoint, output, sha512Multi_finalizeMessage]
  · intro element
    constructor
    · rintro ⟨out, h⟩
      exact finalize_ok P hr h
    · rintro ⟨p, hp, rfl⟩
      exact ⟨_, finalize_eq P hinput hr hp⟩
  · intro p hp
    exact finalize_eq P hinput hr hp
  · intro p q hne h
    have hpoints : r⁻¹ • p = r⁻¹ • q := (finalizeMessage_inj P).mp h
    exact hne (congrArg P.group.compress (smul_right_injective _ (inv_ne_zero hr) hpoints))

theorem oblivious_evaluation_sample : ∃ f evaluated,
    (blind Sample.primitives [1]).run ⟨zeros _, zeros _, Sample.world 0⟩ = (.ok (), f) ∧
      f.blindScalar = Sample.encode 31 1 ∧
      evaluate Sample.primitives f.blindedElement (Sample.encode 31 2) = .ok evaluated ∧
      finalize Sample.primitives [1] f.blindScalar evaluated =
        .ok (Sample.digest (finalizeMessage Sample.primitives [1]
          (show ZMod 5 from (2 : ZMod 5) • (1 : ZMod 5)))) := by
  have hpoint : inputPoint Sample.primitives [1] ≠ 0 := by
    change (1 : ZMod 5) ≠ 0
    decide
  have hdraw : (randomNonzeroScalar Sample.primitives).run (Sample.world 0) =
      (.ok (Sample.encode 31 1), (Sample.world 0).advance hashLength) := by
    rw [randomNonzeroScalar, randomNonzeroScalarLoop,
      Cmd.run_bind_ok (randomBytes_run (by decide) _)]
    rfl
  have h := @oblivious_evaluation Sample.primitives [1] (by simp) (1 : ZMod 5)
    (by decide : (1 : ZMod 5) ≠ 0)
  exact h.2.1 hpoint (2 : ZMod 5) (by decide : (2 : ZMod 5) ≠ 0)
    ⟨zeros _, zeros _, Sample.world 0⟩ _ hdraw

end AuraOpaque.Core.Oprf
