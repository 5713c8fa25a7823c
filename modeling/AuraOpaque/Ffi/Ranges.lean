import AuraOpaque.Ffi.Contract
import AuraOpaque.Foundation.Footprint

/-!
# The callers' ranges

Which bytes an entry point reads and which it writes.  The checks of the
arguments keep them apart, and what a call does depends on the memory through
the bytes that it reads alone.
-/

namespace AuraOpaque.Ffi

open AuraOpaque.Foundation AuraOpaque.Core

variable (P : Primitives)

/-! ## Ranges -/

structure Range where
  address : ℕ
  length : ℕ

namespace Range

/-- No byte is in both. -/
def Apart (r r' : Range) : Prop :=
  ∀ a, ¬ ((r.address ≤ a ∧ a < r.address + r.length) ∧
    (r'.address ≤ a ∧ a < r'.address + r'.length))

/-- The range ends within the address space. -/
def Fits (r : Range) : Prop := r.address + r.length < addressSpace

theorem apart_iff {r r' : Range} (hr : r.length ≠ 0) (hr' : r'.length ≠ 0) :
    r.Apart r' ↔ ¬ (r.address < r'.address + r'.length ∧ r'.address < r.address + r.length) := by
  constructor
  · intro h hoverlap
    exact h (max r.address r'.address) (by omega)
  · intro h a ha
    exact h (by omega)

end Range

theorem rangesOverlap_eq_false_iff {left leftLen right rightLen : ℕ} (hleft : leftLen ≠ 0)
    (hright : rightLen ≠ 0) :
    rangesOverlap left leftLen right rightLen = false ↔
      (Range.mk left leftLen).Fits ∧ (Range.mk right rightLen).Fits ∧
        (Range.mk left leftLen).Apart (Range.mk right rightLen) := by
  rw [Range.apart_iff hleft hright, Range.Fits, Range.Fits, rangesOverlap,
    if_neg (by simp [hleft, hright])]
  by_cases hl : left + leftLen < addressSpace <;> by_cases hr : right + rightLen < addressSpace <;>
    simp [checkedAdd, hl, hr]

theorem Range.apart_of_check {left leftLen right rightLen : ℕ}
    (h : ¬ rangesOverlap left leftLen right rightLen = true) :
    (Range.mk left leftLen).Apart (Range.mk right rightLen) := by
  by_cases hempty : leftLen = 0 ∨ rightLen = 0
  · intro a ha
    dsimp only at ha
    omega
  · rw [not_or] at hempty
    rw [Bool.not_eq_true, rangesOverlap_eq_false_iff hempty.1 hempty.2] at h
    exact h.2.2

theorem Range.fits_of_check {left leftLen right rightLen : ℕ} (hleft : leftLen ≠ 0)
    (hright : rightLen ≠ 0) (h : ¬ rangesOverlap left leftLen right rightLen = true) :
    (Range.mk left leftLen).Fits ∧ (Range.mk right rightLen).Fits := by
  rw [Bool.not_eq_true, rangesOverlap_eq_false_iff hleft hright] at h
  exact ⟨h.1, h.2.1⟩

/-! ## The entry points with byte outputs -/

inductive OutputCall where
  | agent (call : AgentCall) (strike : Strike AgentStateHandle)
  | relay (call : RelayCall) (strike : Strike Relay.ResponderState)
  | createRegistrationResponse (args : RelayCreateRegistrationResponse) (panics : Bool)
  | buildCredentials (args : RelayBuildCredentials) (panics : Bool)

namespace OutputCall

def program : OutputCall → Entry ℤ
  | agent call strike => call.program P strike
  | relay call strike => call.program P strike
  | createRegistrationResponse args panics => opaqueRelayCreateRegistrationResponse P args panics
  | buildCredentials args panics => opaqueRelayBuildCredentials P args panics

/-- The arguments pass the checks that come before anything else. -/
def Checked : OutputCall → Prop
  | agent (.createRegistrationRequest args) _ =>
      ¬ SecureKeyOutOfRange args.secureKeyLength ∧ ¬ args.Malformed
  | agent (.finalizeRegistration args) _ => ¬ args.Malformed
  | agent (.generateKe1 args) _ => ¬ SecureKeyOutOfRange args.secureKeyLength ∧ ¬ args.Malformed
  | agent (.generateKe3 args) _ => ¬ args.Malformed
  | agent (.finish args) _ => ¬ args.Malformed
  | relay (.generateKe2 args) _ => ¬ args.Malformed ∧ ¬ args.BadCredentials
  | relay (.finish args) _ => ¬ args.Malformed
  | createRegistrationResponse args _ => ¬ args.Malformed
  | buildCredentials args _ => ¬ args.Malformed

/-- The callers' bytes that the call reads. -/
def inputs : OutputCall → List Range
  | agent (.createRegistrationRequest args) _ => [⟨args.secureKey, args.secureKeyLength⟩]
  | agent (.finalizeRegistration args) _ => [⟨args.response, args.responseLength⟩]
  | agent (.generateKe1 args) _ =>
      [⟨args.secureKey, args.secureKeyLength⟩, ⟨args.accountId, args.accountIdLength⟩]
  | agent (.generateKe3 args) _ => [⟨args.ke2, args.ke2Length⟩]
  | agent (.finish _) _ => []
  | relay (.generateKe2 args) _ =>
      [⟨args.ke1Data, args.ke1Length⟩, ⟨args.accountId, args.accountIdLength⟩,
        ⟨args.credentialsData, args.credentialsLength⟩]
  | relay (.finish args) _ => [⟨args.ke3Data, args.ke3Length⟩]
  | createRegistrationResponse args _ =>
      [⟨args.requestData, args.requestLength⟩, ⟨args.accountId, args.accountIdLength⟩]
  | buildCredentials args _ => [⟨args.registrationRecord, args.recordLength⟩]

/-- The callers' bytes that the call writes when it succeeds. -/
def outputs : OutputCall → List Range
  | agent (.createRegistrationRequest args) _ => [⟨args.requestOut, registrationRequestWireLength⟩]
  | agent (.finalizeRegistration args) _ => [⟨args.recordOut, registrationRecordLength⟩]
  | agent (.generateKe1 args) _ => [⟨args.ke1Out, ke1Length⟩]
  | agent (.generateKe3 args) _ => [⟨args.ke3Out, ke3Length⟩]
  | agent (.finish args) _ =>
      [⟨args.sessionKeyOut, hashLength⟩, ⟨args.exportKeyOut, exportKeyLength⟩]
  | relay (.generateKe2 args) _ => [⟨args.ke2Data, ke2Length⟩]
  | relay (.finish args) _ => [⟨args.sessionKey, hashLength⟩]
  | createRegistrationResponse args _ => [⟨args.responseData, registrationResponseWireLength⟩]
  | buildCredentials args _ => [⟨args.credentialsOut, responderCredentialsLength⟩]

/-! ## What the checks give -/

/-- Two checks in a row. -/
theorem rejectIf_rejectIf {p q : Prop} [Decidable p] [Decidable q] (h : ¬ (¬ p ∧ ¬ q))
    (error : OpaqueError) (next : Unit → Entry ℤ) :
    (Entry.rejectIf p error >>= fun _ => Entry.rejectIf q error >>= next) =
      .exit error.toCInt := by
  by_cases hp : p
  · exact Entry.rejectIf_pos hp error _
  · rw [Entry.rejectIf_neg hp]
    exact Entry.rejectIf_pos (by tauto) error next

theorem program_of_not_checked {call : OutputCall} (h : ¬ call.Checked) :
    call.program P = .exit OpaqueError.invalidInput.toCInt := by
  cases call with
  | agent call strike =>
      cases call with
      | createRegistrationRequest args => exact rejectIf_rejectIf h _ _
      | finalizeRegistration args => exact Entry.rejectIf_pos (not_not.mp h) _ _
      | generateKe1 args => exact rejectIf_rejectIf h _ _
      | generateKe3 args => exact Entry.rejectIf_pos (not_not.mp h) _ _
      | finish args => exact Entry.rejectIf_pos (not_not.mp h) _ _
  | relay call strike =>
      cases call with
      | generateKe2 args => exact rejectIf_rejectIf h _ _
      | finish args => exact Entry.rejectIf_pos (not_not.mp h) _ _
  | createRegistrationResponse args panics => exact Entry.rejectIf_pos (not_not.mp h) _ _
  | buildCredentials args panics => exact Entry.rejectIf_pos (not_not.mp h) _ _

end OutputCall

/-- Outputs within the address space, apart from all inputs and from each other. -/
structure Separated (inputs outputs : List Range) : Prop where
  fits : ∀ o ∈ outputs, o.Fits
  apart : ∀ o ∈ outputs, ∀ i ∈ inputs, i.Apart o
  disjoint : outputs.Pairwise Range.Apart

/-- One output, checked against every input, one of them not empty. -/
theorem separated_of_checks {inputs : List Range} {address length : ℕ} (hlength : length ≠ 0)
    (hchecks : ∀ i ∈ inputs, ¬ rangesOverlap i.address i.length address length = true)
    (hinput : ∃ i ∈ inputs, i.length ≠ 0) : Separated inputs [⟨address, length⟩] where
  fits := by
    obtain ⟨i, hi, hpos⟩ := hinput
    simpa using (Range.fits_of_check hpos hlength (hchecks i hi)).2
  apart := by
    simpa using fun i hi => Range.apart_of_check (hchecks i hi)
  disjoint := List.pairwise_singleton _ _

namespace OutputCall

theorem separated {call : OutputCall} (h : call.Checked) :
    Separated call.inputs call.outputs := by
  cases call with
  | agent call strike =>
      cases call with
      | createRegistrationRequest args =>
          obtain ⟨hkey, hwell⟩ := h
          simp only [CreateRegistrationRequest.Malformed, not_or] at hwell
          refine separated_of_checks (by decide) ?_ ?_
          · simpa [inputs] using hwell.2.2.2
          · simp [inputs]
            omega
      | finalizeRegistration args =>
          simp only [Checked, FinalizeRegistration.Malformed, not_or, not_not] at h
          refine separated_of_checks (by decide) ?_ ?_
          · simpa [inputs] using h.2.2.2.2
          · simp [inputs, h.2.1]
      | generateKe1 args =>
          obtain ⟨hkey, hwell⟩ := h
          simp only [GenerateKe1.Malformed, not_or] at hwell
          refine separated_of_checks (by decide) ?_ ?_
          · simpa [inputs] using hwell.2.2.2.2.2.2
          · simp [inputs]
            omega
      | generateKe3 args =>
          simp only [Checked, GenerateKe3.Malformed, not_or, not_not] at h
          refine separated_of_checks (by decide) ?_ ?_
          · simpa [inputs] using h.2.2.2.2
          · simp [inputs, h.2.1]
      | finish args =>
          simp only [Checked, AgentFinish.Malformed, not_or] at h
          have hfits := Range.fits_of_check (by decide) (by decide) h.2.2.2.2
          refine ⟨?_, ?_, ?_⟩
          · simpa [outputs] using hfits
          · simp [inputs]
          · simpa [outputs] using Range.apart_of_check h.2.2.2.2
  | relay call strike =>
      cases call with
      | generateKe2 args =>
          obtain ⟨hwell, hcredentials⟩ := h
          simp only [RelayGenerateKe2.Malformed, not_or, not_not] at hwell
          refine separated_of_checks (by decide) ?_ ?_
          · simp only [inputs, List.forall_mem_cons, List.not_mem_nil, false_implies, implies_true,
              and_true]
            refine ⟨hwell.2.2.2.2.2.2.2.1, hwell.2.2.2.2.2.2.2.2, ?_⟩
            -- the length is that of a record, or zero, and then no byte is in the range
            by_cases hempty : args.credentialsLength = 0
            · simp [rangesOverlap, hempty]
            · simp only [RelayGenerateKe2.BadCredentials, not_and, Classical.not_imp, not_or]
                at hcredentials
              exact (hcredentials hempty).2.2
          · simp [inputs, hwell.2.1]
      | finish args =>
          simp only [Checked, RelayFinish.Malformed, not_or, not_not] at h
          refine separated_of_checks (by decide) ?_ ?_
          · simpa [inputs] using h.2.2.2.2
          · simp [inputs, h.2.1]
  | createRegistrationResponse args panics =>
      simp only [Checked, RelayCreateRegistrationResponse.Malformed, not_or, not_not] at h
      refine separated_of_checks (by decide) ?_ ?_
      · simpa [inputs] using h.2.2.2.2.2.2.2
      · simp [inputs, h.2.1]
  | buildCredentials args panics =>
      simp only [Checked, RelayBuildCredentials.Malformed, not_or, not_not] at h
      refine separated_of_checks (by decide) ?_ ?_
      · simpa [inputs] using h.2.2.2.2
      · simp [inputs, h.2.1]

end OutputCall

end AuraOpaque.Ffi
