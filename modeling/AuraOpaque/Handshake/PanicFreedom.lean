import AuraOpaque.Agent.PanicFreedom
import AuraOpaque.Relay.PanicFreedom
import AuraOpaque.Core.Wire

/-!
# No operation panics

Both parties, all messages, whatever the arguments and whatever came before.
-/

namespace AuraOpaque.Handshake

open AuraOpaque.Foundation AuraOpaque.Core
open Agent (AgentRun InitiatorState)
open Relay (OpaqueResponder ResponderKeyPair)

variable (P : Primitives)

/-- The client's operations in a given session, on any arguments and outputs. -/
structure ClientPanicFree (s : InitiatorState) : Prop where
  createRegistrationRequest : ∀ secureKey request w,
    ((Agent.createRegistrationRequest P secureKey).run ⟨request, s, w⟩).1 ≠ .panic
  finalizeRegistration : ∀ initiator response record w,
    ((Agent.finalizeRegistration P initiator response).run ⟨record, s, w⟩).1 ≠ .panic
  generateKe1 : ∀ secureKey accountId ke1 w,
    ((Agent.generateKe1 P secureKey accountId).run ⟨ke1, s, w⟩).1 ≠ .panic
  generateKe3 : ∀ initiator ke2Data ke3 w,
    ((Agent.generateKe3 P initiator ke2Data).run ⟨ke3, s, w⟩).1 ≠ .panic
  initiatorFinish : ∀ output w, (Agent.initiatorFinish.run ⟨output, s, w⟩).1 ≠ .panic

/-- The relay's operations, in any session and with any stored credentials. -/
structure RelayPanicFree (responder : OpaqueResponder) : Prop where
  createRegistrationResponse : ∀ request accountId response,
    ((Relay.createRegistrationResponse P responder request accountId).run response).1 ≠ .panic
  buildCredentials : ∀ record credentials,
    ((Relay.buildCredentials P record).run credentials).1 ≠ .panic
  generateKe2 : ∀ ke1Data accountId credentials f,
    ((Relay.generateKe2 P responder ke1Data accountId credentials).run f).1 ≠ .panic
  responderFinish : ∀ ke3Data f, ((Relay.responderFinish ke3Data).run f).1 ≠ .panic

/-- A parser and a writer of one message. -/
structure WirePanicFree {α β : Type} (parse : List UInt8 → OpaqueResult α)
    (write : β → (n : ℕ) → Cmd OpaqueError (Bytes n) Unit) : Prop where
  parse : ∀ data, parse data ≠ .panic
  write : ∀ b n buffer, ((write b n).run buffer).1 ≠ .panic

theorem wirePanicFree {α β : Type} {total : ℕ} {parse : List UInt8 → OpaqueResult α}
    {write : β → (n : ℕ) → Cmd OpaqueError (Bytes n) Unit} {written : β → List (List UInt8)}
    {lengths readLengths : List ℕ} {slices : α → List (List UInt8)} {view : β → α} {args : α → β}
    (hparse : Protocol.Reads parse slices readLengths)
    (hexact : Protocol.WireExact total write parse written lengths slices view args) :
    WirePanicFree parse write where
  parse := hparse.ne_panic
  write b n buffer hpanic := by
    have herr := hexact.write_err b n buffer (by rw [hpanic]; simp)
    rw [herr] at hpanic
    cases hpanic

structure MessagesPanicFree : Prop where
  registrationRequest : WirePanicFree Protocol.parseRegistrationRequest
    fun payload _ => Protocol.writeRegistrationRequest payload
  registrationResponse : WirePanicFree Protocol.parseRegistrationResponse
    fun (r : Protocol.RegistrationResponseRef) _ =>
      Protocol.writeRegistrationResponse r.evaluatedElement r.responderPublicKey
  registrationRecord : WirePanicFree Protocol.parseRegistrationRecord
    fun (p : Protocol.RecordParts) _ =>
      Protocol.writeRegistrationRecord p.credentialStorage p.initiatorPublicKey
  ke1 : WirePanicFree Protocol.parseKe1 fun (r : Protocol.Ke1Ref) _ =>
    Protocol.writeKe1 r.credentialRequest r.initiatorPublicKey r.initiatorNonce
      r.pqEphemeralPublicKey
  ke2 : WirePanicFree Protocol.parseKe2 fun (r : Protocol.Ke2Ref) _ =>
    Protocol.writeKe2 r.responderNonce r.responderPublicKey r.credentialResponse r.responderMac
      r.kemCiphertext
  ke3 : WirePanicFree Protocol.parseKe3 fun (r : Protocol.Ke3Ref) _ =>
    Protocol.writeKe3 r.initiatorMac

theorem messages_panicFree : MessagesPanicFree where
  registrationRequest :=
    wirePanicFree Protocol.parseRegistrationRequest_reads Protocol.registrationRequest_exact
  registrationResponse :=
    wirePanicFree Protocol.parseRegistrationResponse_reads Protocol.registrationResponse_exact
  registrationRecord :=
    wirePanicFree Protocol.parseRegistrationRecord_reads Protocol.registrationRecord_exact
  ke1 := wirePanicFree Protocol.parseKe1_reads Protocol.ke1_exact
  ke2 := wirePanicFree Protocol.parseKe2_reads Protocol.ke2_exact
  ke3 := wirePanicFree Protocol.parseKe3_reads Protocol.ke3_exact

theorem clientPanicFree_of_fits {s : InitiatorState} (hs : s.Fits) : ClientPanicFree P s where
  createRegistrationRequest secureKey request w :=
    (Agent.createRegistrationRequest_safe P secureKey ⟨request, s, w⟩ hs).1
  finalizeRegistration initiator response record w :=
    (Agent.finalizeRegistration_safe P initiator response ⟨record, s, w⟩ hs).1
  generateKe1 secureKey accountId ke1 w :=
    (Agent.generateKe1_safe P secureKey accountId ⟨ke1, s, w⟩ hs).1
  generateKe3 initiator ke2Data ke3 w :=
    (Agent.generateKe3_safe P initiator ke2Data ⟨ke3, s, w⟩ hs).1
  initiatorFinish output w := (Agent.initiatorFinish_safe ⟨output, s, w⟩ hs).1

theorem relayPanicFree {responder : OpaqueResponder}
    (hevaluator : responder.evaluator.NeverPanics) : RelayPanicFree P responder where
  createRegistrationResponse request accountId response :=
    (Relay.createRegistrationResponse_safe P hevaluator request accountId response trivial).1
  buildCredentials record credentials :=
    (Relay.buildCredentials_safe P record credentials trivial).1
  generateKe2 ke1Data accountId credentials f :=
    (Relay.generateKe2_safe P hevaluator ke1Data accountId credentials f trivial).1
  responderFinish ke3Data f := (Relay.responderFinish_safe ke3Data f trivial).1

/--
In every reachable session the client does not panic; nor does a relay whose
evaluator does not, as the one in memory; nor do key pairs, parsers and writers.
-/
theorem protocol_core_panic_free :
    (∀ createdAt history s, AgentRun P createdAt history s → ClientPanicFree P s) ∧
    (∀ responder : OpaqueResponder, responder.evaluator.NeverPanics →
      RelayPanicFree P responder) ∧
    (∀ oprfSeed, (InMemoryEvaluator.toOprfEvaluator P ⟨oprfSeed⟩).NeverPanics) ∧
    (∀ privateKey publicKey, ResponderKeyPair.fromKeys P privateKey publicKey ≠ .panic) ∧
    MessagesPanicFree :=
  ⟨fun _ _ _ hrun => clientPanicFree_of_fits P (Agent.run_fits hrun),
    fun _ hevaluator => relayPanicFree P hevaluator,
    fun oprfSeed => InMemoryEvaluator.neverPanics P ⟨oprfSeed⟩,
    Relay.fromKeys_ne_panic P, messages_panicFree⟩

/-- A zeroized session and a relay with a seed in memory. -/
theorem protocol_core_panic_free_sample :
    ClientPanicFree Sample.primitives (InitiatorState.newAt 0).zeroize ∧
    RelayPanicFree Sample.primitives ⟨⟨zeros _, zeros _⟩,
      InMemoryEvaluator.toOprfEvaluator Sample.primitives ⟨zeros _⟩⟩ := by
  obtain ⟨hclient, hrelay, hevaluator, -⟩ := protocol_core_panic_free Sample.primitives
  refine ⟨hclient 0 [⟨.zeroize, .ok ()⟩] _ (.single ?_), hrelay _ (hevaluator _)⟩
  exact ⟨⟨fun _ => 0, fun _ => 0⟩, rfl⟩

end AuraOpaque.Handshake
