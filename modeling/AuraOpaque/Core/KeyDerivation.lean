import AuraOpaque.Core.Oprf
import AuraOpaque.Core.Sample
import AuraOpaque.Foundation.Collision

/-!
# Expanded keys and account keys

Expansion cuts one stream to the length of its buffer.  An account key is the
first candidate that is not zero, and account and counter stay apart in the
message that is hashed for it.
-/

namespace AuraOpaque.Core

open AuraOpaque.Foundation
open Outcome (failIf okOr)

variable (P : Primitives)

/-! ## Expansion -/

theorem keyDerivationExpand_refuses {prk info : List UInt8} {n : ℕ} (okm : Bytes n)
    (h : prk = [] ∨ n = 0 ∨ 255 * hashLength < n) :
    (keyDerivationExpand P prk info).run okm = (.err .invalidInput, okm) := by
  by_cases hempty : prk.isEmpty || n == 0
  · rw [keyDerivationExpand, Cmd.run_bind_err]
    rw [Cmd.run_failIf, Outcome.failIf_pos _ hempty]
  · have hblocks : 255 < (n + hashLength - 1) / hashLength := by
      simp only [Bool.or_eq_true, List.isEmpty_iff, beq_iff_eq, not_or] at hempty
      have hmax := (h.resolve_left hempty.1).resolve_left hempty.2
      simp only [hashLength] at hmax ⊢
      omega
    rw [keyDerivationExpand, Cmd.run_bind_ok (by rw [Cmd.run_failIf, Outcome.failIf_neg _ hempty]),
      Cmd.run_bind_err]
    rw [Cmd.run_failIf, Outcome.failIf_pos _ hblocks]

/-- A successful expansion has written the stream of its inputs. -/
theorem keyDerivationExpand_ok {prk info : List UInt8} {n : ℕ} {okm okm' : Bytes n} {u : Unit}
    (h : (keyDerivationExpand P prk info).run okm = (.ok u, okm')) :
    okm'.toList = Hkdf.output (P.hmac prk) info n := by
  by_cases hlength : prk = [] ∨ n = 0 ∨ 255 * hashLength < n
  · rw [keyDerivationExpand_refuses P okm hlength] at h
    cases h
  · simp only [not_or, not_lt, hashLength] at hlength
    obtain ⟨okm'', hrun, hstream⟩ := @keyDerivationExpand_run P prk info n okm hlength.1
      (by omega) hlength.2.2
    rw [h] at hrun
    cases hrun
    exact hstream

/-- Expansion is that of RFC 5869, and an expansion of other length is cut from the same stream. -/
theorem keyDerivationExpand_rfc (prk info : List UInt8) :
    (∀ (n : ℕ) (okm : Bytes n), prk ≠ [] → 1 ≤ n → n ≤ 255 * 64 →
      ∃ okm', (keyDerivationExpand P prk info).run okm = (.ok (), okm') ∧
        ∀ k, n ≤ k * 64 → okm'.toList = (Hkdf.stream (P.hmac prk) info k).take n) ∧
    (∀ (n : ℕ) (okm : Bytes n), (n = 0 ∨ 255 * 64 < n ∨ prk = []) →
      (keyDerivationExpand P prk info).run okm = (.err .invalidInput, okm)) ∧
    ∀ (m n : ℕ) (short short' : Bytes m) (long long' : Bytes n), m ≤ n →
      (keyDerivationExpand P prk info).run short = (.ok (), short') →
      (keyDerivationExpand P prk info).run long = (.ok (), long') →
      short'.toList <+: long'.toList := by
  refine ⟨?_, ?_, ?_⟩
  · intro n okm hprk hpos hmax
    obtain ⟨okm', hrun, hokm⟩ := @keyDerivationExpand_run P prk info n okm hprk hpos hmax
    refine ⟨okm', hrun, fun k hk => ?_⟩
    rw [hokm, Hkdf.output_eq_take _ _ (by decide) hk]
  · intro n okm h
    exact keyDerivationExpand_refuses P okm (by tauto)
  · intro m n short short' long long' hmn hshort hlong
    rw [keyDerivationExpand_ok P hshort, keyDerivationExpand_ok P hlong]
    exact Hkdf.output_prefix _ _ (by decide) hmn

/-! ## Account keys -/

/--
The key is the least counter's candidate that is not zero, and it is an error
when all are zero.  Other accounts and counters give other messages, so a
candidate comes up twice only by a collision.
-/
theorem deriveOprfKey_least {relaySecret accountId : List UInt8} (hsecret : relaySecret ≠ [])
    (haccount : accountId ≠ []) :
    ((∃ c, oprfKeyCandidate P (oprfSeed P relaySecret) accountId c ≠ 0 ∧
        (∀ d < c, oprfKeyCandidate P (oprfSeed P relaySecret) accountId d = 0) ∧
        deriveOprfKey P relaySecret accountId =
          .ok (P.group.asBytes (oprfKeyCandidate P (oprfSeed P relaySecret) accountId c))) ∨
      deriveOprfKey P relaySecret accountId = .err .cryptoError) ∧
    (deriveOprfKey P relaySecret accountId = .err .cryptoError ↔
      ∀ c, oprfKeyCandidate P (oprfSeed P relaySecret) accountId c = 0) ∧
    (∀ key, deriveOprfKey P relaySecret accountId = .ok key →
      ∃ s, s ≠ 0 ∧ P.group.fromCanonicalBytes key = some s ∧ ∀ p, p ≠ 0 →
        Oprf.evaluate P (P.group.compress p) key = .ok (P.group.compress (s • p))) ∧
    (∀ accountId' c c', oprfKeyMessage accountId c = oprfKeyMessage accountId' c' →
      accountId = accountId' ∧ c = c') ∧
    ∀ accountId' c c', (accountId, c) ≠ (accountId', c') →
      oprfKeyCandidate P (oprfSeed P relaySecret) accountId c =
        oprfKeyCandidate P (oprfSeed P relaySecret) accountId' c' →
      Collides (P.hmac (oprfSeed P relaySecret).toList)
          [oprfKeyMessage accountId c, oprfKeyMessage accountId' c'] ∨
        Collides P.group.fromBytesModOrderWide
          [P.hmac (oprfSeed P relaySecret).toList (oprfKeyMessage accountId c),
            P.hmac (oprfSeed P relaySecret).toList (oprfKeyMessage accountId' c')] := by
  have hcases := deriveOprfKey_cases P hsecret haccount
  refine ⟨hcases.imp id And.right, ?_, ?_, ?_, ?_⟩
  · constructor
    · intro herr
      rcases hcases with ⟨c, -, -, hok⟩ | ⟨hzero, -⟩
      · rw [herr] at hok
        cases hok
      · exact hzero
    · intro hzero
      rcases hcases with ⟨c, hc, -, -⟩ | ⟨-, herr⟩
      · exact absurd (hzero c) hc
      · exact herr
  · intro key hkey
    obtain ⟨s, hs, rfl⟩ := deriveOprfKey_ok P hkey
    exact ⟨s, hs, P.group.fromCanonicalBytes_asBytes s, fun p hp => Oprf.evaluate_eq P hs hp⟩
  · intro accountId' c c' h
    exact oprfKeyMessage_inj.mp h
  · intro accountId' c c' hne heq
    -- equal candidates: the reduction or, below it, the keyed hash took two values together
    rw [oprfKeyCandidate, oprfKeyCandidate] at heq
    rcases eq_or_collides_pair heq with hmac | hreduction
    · refine .inl ((eq_or_collides_pair hmac).resolve_left fun hmessage => ?_)
      obtain ⟨haccounts, hcounters⟩ := oprfKeyMessage_inj.mp hmessage
      exact hne (by rw [haccounts, hcounters])
    · exact .inr hreduction

theorem deriveOprfKey_least_sample : ∃ c,
    oprfKeyCandidate Sample.primitives (oprfSeed Sample.primitives [1]) [1] c ≠ 0 ∧
      (∀ d < c, oprfKeyCandidate Sample.primitives (oprfSeed Sample.primitives [1]) [1] d = 0) ∧
      deriveOprfKey Sample.primitives [1] [1] = .ok (Sample.primitives.group.asBytes
        (oprfKeyCandidate Sample.primitives (oprfSeed Sample.primitives [1]) [1] c)) := by
  have h := @deriveOprfKey_least Sample.primitives [1] [1] (by simp) (by simp)
  refine h.1.resolve_right fun herr => ?_
  rw [Sample.deriveOprfKey_eq (by simp) (by simp)] at herr
  cases herr

end AuraOpaque.Core
