import AuraOpaque.Foundation.Answers
import AuraOpaque.Agent.Errors
import AuraOpaque.Relay.Errors
import AuraOpaque.Ffi.Ownership
import AuraOpaque.Ffi.Records

/-!
# Return codes

The codes of each entry point.  The two that consult the evaluator of a relay pass
on what it reports; the interface itself builds one kind of evaluator only.  The
codes that the C header reserves are never returned, and a handle is busy only while
another call has it.
-/

namespace AuraOpaque.Ffi

open AuraOpaque.Foundation AuraOpaque.Core

variable {P : Primitives}

/-! ## Codes and handles of each call -/

/-- `opaque_error_string`. -/
def opaqueErrorString : ℤ → String
  | 0 => "success"
  | -1 => "invalid input parameter"
  | -2 => "cryptographic operation failed"
  | -3 => "protocol message has invalid format or length"
  | -4 => "validation failed"
  | -5 => "authentication or protocol validation failed"
  | -6 => "invalid public key"
  | -7 => "account already registered"
  | -8 => "malformed ML-KEM key or ciphertext"
  | -9 => "envelope has invalid format"
  | -10 => "unsupported protocol version"
  | -99 => "internal FFI panic"
  | -100 => "handle is busy"
  | -101 => "provided credentials record is malformed"
  | _ => "unknown error"

/-- The codes of a call on a client's session. -/
def AgentCall.codes : AgentCall → List ℤ
  | createRegistrationRequest _ => [0, -1, -2, -5, -99]
  | finalizeRegistration _ => [0, -1, -2, -5, -6, -10, -99]
  | generateKe1 _ => [0, -1, -2, -5, -99]
  | generateKe3 _ => [0, -1, -2, -5, -6, -10, -99]
  | finish _ => [0, -1, -5, -99]

namespace Call

/-- The handles that a call works through. -/
def uses : Call → List (Handle Kind)
  | relayKeypairGetPublicKey args _ => [⟨.relayKeypair, args.handle⟩]
  | relayCreate args _ => [⟨.relayKeypair, args.keypairHandle⟩]
  | relayCreateRegistrationResponse args _ => [⟨.relay, args.relayHandle⟩]
  | stateful call => call.handles
  | _ => []

/-- The codes of a call that finds no handle busy, with what evaluators report besides. -/
def codes (reported : List OpaqueError) : Call → List ℤ
  | agentCreate _ _ => [0, -1, -6, -99]
  | agentTryDestroy _ => [0, -1]
  | agentStateCreate _ _ => [0, -1, -99]
  | agentStateTryDestroy _ => [0, -1]
  | relayKeypairGenerate _ _ => [0, -1, -2, -99]
  | relayKeypairTryDestroy _ => [0, -1]
  | relayKeypairGetPublicKey _ _ => [0, -1, -99]
  | relayCreate _ _ => [0, -1, -99]
  | relayCreateWithKeys _ _ => [0, -1, -99]
  | relayTryDestroy _ => [0, -1]
  | relayStateCreate _ _ => [0, -1, -99]
  | relayStateTryDestroy _ => [0, -1]
  | relayCreateRegistrationResponse _ _ =>
      [0, -1, -2, -10, -99] ++ reported.map OpaqueError.toCInt
  | relayBuildCredentials _ _ => [0, -1, -6, -10, -99]
  | stateful (.agent call _) => call.codes
  | stateful (.relay (.generateKe2 _) _) =>
      [0, -1, -2, -5, -6, -10, -99, -101] ++ reported.map OpaqueError.toCInt
  | stateful (.relay (.finish _) _) => [0, -1, -5, -10, -99]

end Call

/-! ## Evaluators -/

def libraryErrors : List OpaqueError :=
  [.invalidInput, .cryptoError, .invalidProtocolMessage, .validationError, .authenticationError,
    .invalidPublicKey, .alreadyRegistered, .invalidKemInput, .invalidEnvelope, .unsupportedVersion]

/-- What an evaluator that the interface builds can report, and what others may. -/
def evaluatorErrors (reported : List OpaqueError) : List OpaqueError :=
  .invalidInput :: .cryptoError :: reported

def Store.Evaluates (reported : List OpaqueError) (store : Store) : Prop :=
  ∀ address, (store.relays address).evaluator.Raises (· ∈ evaluatorErrors reported)

section Evaluators

variable {reported : List OpaqueError} {codes : List ℤ}

theorem inMemory_raises (evaluator : InMemoryEvaluator) :
    (evaluator.toOprfEvaluator P).Raises (· ∈ evaluatorErrors reported) :=
  evaluator.raises P ⟨by simp [evaluatorErrors], by simp [evaluatorErrors]⟩

theorem responder_new_raises {keypair : Relay.ResponderKeyPair} {oprfSeed : Bytes oprfSeedLength}
    {responder : Relay.OpaqueResponder}
    (h : Relay.OpaqueResponder.new P keypair oprfSeed = .ok responder) :
    responder.evaluator.Raises (· ∈ evaluatorErrors reported) := by
  obtain ⟨-, -, h⟩ := Outcome.bind_eq_ok_iff.mp h
  obtain ⟨evaluator, -, h⟩ := Outcome.bind_eq_ok_iff.mp h
  cases h
  exact inMemory_raises evaluator

theorem Store.Evaluates.update {store : Store} (h : store.Evaluates reported) (address : ℕ)
    {responder : Relay.OpaqueResponder}
    (hresponder : responder.evaluator.Raises (· ∈ evaluatorErrors reported)) :
    Store.Evaluates reported
      { store with relays := Function.update store.relays address responder } := by
  intro address'
  by_cases hsame : address' = address
  · subst hsame
    simpa using hresponder
  · simpa [Function.update_of_ne hsame] using h address'

/-- The codes of what an evaluator reports. -/
theorem toCInt_mem_of_evaluator (hinput : -1 ∈ codes) (hcrypto : -2 ∈ codes)
    (hreported : ∀ e ∈ reported, e.toCInt ∈ codes) :
    ∀ e, e ∈ evaluatorErrors reported → e.toCInt ∈ codes := by
  intro e he
  rcases List.mem_cons.mp he with rfl | he
  · exact hinput
  rcases List.mem_cons.mp he with rfl | he
  · exact hcrypto
  · exact hreported e he

end Evaluators

/-! ## Commands -/

section Commands

variable {α β H : Type} {codes : List ℤ}

theorem withCode_raises {code : OpaqueError → ℤ} {o : OpaqueResult α}
    (ho : o.Raises fun e => code e ∈ codes) : (withCode code o).Raises (· ∈ codes) := by
  intro c h
  cases o with
  | ok a => cases h
  | err e =>
      cases h
      exact ho e rfl
  | panic => cases h

/-- The command fails with the codes, and leaves the relays alone. -/
structure Works (codes : List ℤ) (c : Cmd ℤ Store α) : Prop where
  raises : c.Raises (· ∈ codes)
  relays : ∀ store, (c.run store).2.relays = store.relays

namespace Works

theorem bind {c : Cmd ℤ Store α} {f : α → Cmd ℤ Store β} (hc : Works codes c)
    (hf : ∀ a, Works codes (f a)) : Works codes (c >>= f) where
  raises := .bind hc.raises fun a => (hf a).raises
  relays store := by
    have hfirst := hc.relays store
    rw [Cmd.run_bind]
    rcases hrun : c.run store with ⟨a | _ | _, store'⟩ <;> rw [hrun] at hfirst
    · exact ((hf a).relays store').trans hfirst
    · exact hfirst
    · exact hfirst

theorem get : Works codes (Cmd.get : Cmd ℤ Store Store) := ⟨.get, fun _ => rfl⟩

theorem lift {o : Outcome ℤ α} (h : o.Raises (· ∈ codes)) :
    Works codes (liftM o : Cmd ℤ Store α) :=
  ⟨.lift h, fun _ => rfl⟩

theorem cmdLift {o : Outcome ℤ α} (h : o.Raises (· ∈ codes)) :
    Works codes (Cmd.lift o : Cmd ℤ Store α) :=
  ⟨.cmdLift h, fun _ => rfl⟩

theorem writeMemory (address : ℕ) (bytes : List UInt8) :
    Works codes (Cmd.modify fun store : Store =>
      { store with memory := store.memory.write address bytes }) :=
  ⟨.modify _, fun _ => rfl⟩

theorem onWorld {code : OpaqueError → ℤ} {c : Cmd OpaqueError World α}
    (hc : c.Raises fun e => code e ∈ codes) : Works codes (onWorld code c) :=
  ⟨fun store => withCode_raises (hc store.world), fun _ => rfl⟩

theorem injectTestPanic (panics : Bool) : Works codes (injectTestPanic panics) := by
  cases panics with
  | false => exact ⟨.pure (), fun _ => rfl⟩
  | true => exact ⟨fun _ => .panic, fun _ => rfl⟩

end Works

/-! ## Operations on a session -/

theorem onSession_raises {St Out : Type} {errors : OpaqueError → Prop} {read : H → St}
    {write : St → H → H} {out : Out} {c : Op Out St Unit} (hc : c.Raises errors) :
    (onSession read write out c).Raises errors := by
  intro f
  have hraises := hc ⟨out, read f.state, f.world⟩
  unfold onSession
  dsimp only
  rcases hrun : c.run ⟨out, read f.state, f.world⟩ with ⟨_ | e | _, g⟩ <;> rw [hrun] at hraises
  · exact .ok _
  · exact .err (hraises e rfl)
  · exact .panic

theorem beforeCommit_raises {errors : OpaqueError → Prop} (strike : Strike H)
    {c : Op Memory H α} (hc : c.Raises errors) : (beforeCommit strike c).Raises errors := by
  cases strike with
  | none => exact hc
  | some strike => exact fun _ => .panic

theorem runStateful_mem {invalidate : H → H} {operation : Op Memory H Unit} (hzero : 0 ∈ codes)
    (hpanic : -99 ∈ codes) (hraises : operation.Raises fun e => e.toCInt ∈ codes)
    (f : Frame Memory H) : (runStateful invalidate operation f).1 ∈ codes := by
  have hf := hraises f
  unfold runStateful
  rcases hrun : operation.run f with ⟨_ | e | _, g⟩ <;> rw [hrun] at hf
  · exact hzero
  · exact hf e rfl
  · exact hpanic

end Commands

/-! ## Parts of an entry point -/

section Parts

variable {α β : Type} {uses tried : List (Handle Kind)} {codes : List ℤ}
  {reported : List OpaqueError} {kind : Kind} {handle : ℕ}

/-- The call uses the handles and answers with the codes, or says that a handle is busy. -/
abbrev AnswersWith (reported : List OpaqueError) (uses : List (Handle Kind)) (codes : List ℤ)
    (entry : Entry ℤ) (tried : List (Handle Kind)) : Prop :=
  entry.Answers (Store.Evaluates reported) (· ∈ uses) (· ∈ codes) ffiBusy tried

theorem AnswersWith.rejectIf {p : Prop} [Decidable p] {error : OpaqueError}
    {next : Unit → Entry ℤ} (hcode : error.toCInt ∈ codes)
    (hnext : ¬ p → AnswersWith reported uses codes (next ()) tried) :
    AnswersWith reported uses codes (Entry.rejectIf p error >>= next) tried := by
  unfold Entry.rejectIf Program.exitIf
  split
  · exact hcode
  · next hp => exact hnext hp

theorem AnswersWith.clear {slot : Slot Kind} {next : Unit → Entry ℤ}
    (hnext : AnswersWith reported uses codes (next ()) tried) :
    AnswersWith reported uses codes (.clear slot (.ret ()) >>= next) tried :=
  hnext

theorem AnswersWith.acquire {next : Unit → Entry ℤ} (huses : ⟨kind, handle⟩ ∈ uses)
    (hcode : -1 ∈ codes) (hout : ⟨kind, handle⟩ ∉ tried)
    (hnext : AnswersWith reported uses codes (next ()) (⟨kind, handle⟩ :: tried)) :
    AnswersWith reported uses codes (acquire kind handle >>= next) tried := by
  unfold Ffi.acquire
  split
  · exact hcode
  · exact ⟨huses, hout, rfl, hnext⟩

/-- What follows gets what the command returns. -/
theorem AnswersWith.work {c : Cmd ℤ Store β} {next : β → Entry ℤ} (hpanic : -99 ∈ codes)
    (hc : Works codes c)
    (hnext : ∀ store b store', c.run store = (.ok b, store') →
      AnswersWith reported uses codes (next b) tried) :
    AnswersWith reported uses codes (Entry.work c >>= next) tried := by
  unfold Entry.work
  simp only [Program.act_bind, Program.ret_bind, AnswersWith, Program.Answers]
  intro store hstore
  have hcode := hc.raises store
  have hrelays := hc.relays store
  rcases hrun : c.run store with ⟨b | code | _, store'⟩ <;> rw [hrun] at hcode hrelays <;>
    refine ⟨fun address => ?_, ?_⟩
  · exact hrelays.symm ▸ hstore address
  · exact hnext store b store' hrun
  · exact hrelays.symm ▸ hstore address
  · exact hcode code rfl
  · exact hrelays.symm ▸ hstore address
  · exact hpanic

theorem AnswersWith.acquireAgent {next : Agent.OpaqueInitiator → Entry ℤ}
    (huses : ⟨.agent, handle⟩ ∈ uses) (hcode : -1 ∈ codes)
    (hnext : ∀ b, AnswersWith reported uses codes (next b) [⟨.agent, handle⟩]) :
    AnswersWith reported uses codes (acquireAgent handle >>= next) [] := by
  unfold Ffi.acquireAgent
  rw [Program.bind_assoc]
  refine .acquire huses hcode List.not_mem_nil fun store hstore => ?_
  exact ⟨hstore, hnext (store.agents handle)⟩

theorem AnswersWith.acquireRelay {next : Relay.OpaqueResponder → Entry ℤ}
    (huses : ⟨.relay, handle⟩ ∈ uses) (hcode : -1 ∈ codes)
    (hnext : ∀ responder : Relay.OpaqueResponder,
      responder.evaluator.Raises (· ∈ evaluatorErrors reported) →
      AnswersWith reported uses codes (next responder) [⟨.relay, handle⟩]) :
    AnswersWith reported uses codes (acquireRelay handle >>= next) [] := by
  unfold Ffi.acquireRelay
  rw [Program.bind_assoc]
  refine .acquire huses hcode List.not_mem_nil fun store hstore => ?_
  exact ⟨hstore, hnext (store.relays handle) (hstore handle)⟩

theorem AnswersWith.acquireRelayKeypair {next : RelayKeypairHandle → Entry ℤ}
    (huses : ⟨.relayKeypair, handle⟩ ∈ uses) (hcode : -1 ∈ codes)
    (hnext : ∀ b, AnswersWith reported uses codes (next b) [⟨.relayKeypair, handle⟩]) :
    AnswersWith reported uses codes (acquireRelayKeypair handle >>= next) [] := by
  unfold Ffi.acquireRelayKeypair
  rw [Program.bind_assoc]
  refine .acquire huses hcode List.not_mem_nil fun store hstore => ?_
  exact ⟨hstore, hnext (store.relayKeypairs handle)⟩

theorem AnswersWith.onAgentState {operation : Op Memory AgentStateHandle Unit} (hzero : 0 ∈ codes)
    (hpanic : -99 ∈ codes) (hraises : operation.Raises fun e => e.toCInt ∈ codes) :
    AnswersWith reported uses codes (onAgentState handle operation) tried :=
  fun _ hstore => ⟨hstore, runStateful_mem hzero hpanic hraises _⟩

theorem AnswersWith.onRelayState {operation : Op Memory Relay.ResponderState Unit}
    (hzero : 0 ∈ codes) (hpanic : -99 ∈ codes)
    (hraises : operation.Raises fun e => e.toCInt ∈ codes) :
    AnswersWith reported uses codes (onRelayState handle operation) tried :=
  fun _ hstore => ⟨hstore, runStateful_mem hzero hpanic hraises _⟩

/-- A new object is published, and zero returned. -/
theorem AnswersWith.publish {slot : Slot Kind} {create : ℕ → Store → Store} (hzero : 0 ∈ codes)
    (hcreate : ∀ address store, store.Evaluates reported →
      (create address store).Evaluates reported) :
    AnswersWith reported uses codes
      (.publish slot create (.ret ()) >>= fun _ => (pure 0 : Entry ℤ)) tried :=
  ⟨hcreate, hzero⟩

theorem AnswersWith.tryDestroy {handlePtr : ℕ} {drop : ℕ → Store → Store}
    (hdrop : ∀ address store, store.Evaluates reported → (drop address store).Evaluates reported) :
    AnswersWith reported uses [0, -1] (tryDestroy kind handlePtr drop) [] := by
  unfold Ffi.tryDestroy
  refine .rejectIf (by decide) fun _ handle => ?_
  change AnswersWith _ _ _ (Program.exitIf (handle = null) 0 >>= _) _
  unfold Program.exitIf
  split
  · exact List.mem_cons_self
  · exact ⟨List.not_mem_nil, rfl, hdrop handle, List.mem_cons_self⟩

end Parts

/-! ## The entry points -/

section Entries

variable {reported : List OpaqueError}

/-- One operation on a client's session, with the agent's handle taken before. -/
theorem AnswersWith.onClient {agentHandle stateHandle : ℕ} {codes : List ℤ}
    {operation : Agent.OpaqueInitiator → Op Memory AgentStateHandle Unit} (hzero : 0 ∈ codes)
    (hinvalid : -1 ∈ codes) (hpanic : -99 ∈ codes)
    (hraises : ∀ initiator, (operation initiator).Raises fun e => e.toCInt ∈ codes) :
    AnswersWith reported [⟨.agent, agentHandle⟩, ⟨.agentState, stateHandle⟩] codes (do
      let initiator ← Ffi.acquireAgent agentHandle
      acquireAgentState stateHandle
      Ffi.onAgentState stateHandle (operation initiator)) [] := by
  refine .acquireAgent (by simp) hinvalid fun initiator => ?_
  exact .acquire (by simp) hinvalid (by simp) (.onAgentState hzero hpanic (hraises initiator))

theorem createRegistrationRequest_answers (args : CreateRegistrationRequest)
    (strike : Strike AgentStateHandle) :
    AnswersWith reported [⟨.agent, args.agentHandle⟩, ⟨.agentState, args.stateHandle⟩]
      [0, -1, -2, -5, -99] (opaqueAgentCreateRegistrationRequest P args strike) [] := by
  refine .rejectIf (by decide) fun _ => .rejectIf (by decide) fun _ => ?_
  refine .onClient (by decide) (by decide) (by decide) fun _ => ?_
  refine .bind (beforeCommit_raises strike (.bind .getOut fun _ => ?_)) fun _ => .modifyOut
  refine .bind (onSession_raises ((Agent.createRegistrationRequest_raises P _).mono (by decide)))
    fun _ => ?_
  exact .cmdLift (Cmd.Raises.fill
    (Protocol.registrationRequest_exact.write_raises (by decide) _ _) _)

theorem finalizeRegistration_answers (args : FinalizeRegistration)
    (strike : Strike AgentStateHandle) :
    AnswersWith reported [⟨.agent, args.agentHandle⟩, ⟨.agentState, args.stateHandle⟩]
      [0, -1, -2, -5, -6, -10, -99] (opaqueAgentFinalizeRegistration P args strike) [] := by
  refine .rejectIf (by decide) fun _ => .onClient (by decide) (by decide) (by decide) fun _ => ?_
  refine .bind (beforeCommit_raises strike (.bind .getOut fun _ => ?_)) fun _ => .modifyOut
  refine .bind (onSession_raises ((Agent.finalizeRegistration_raises P _ _).mono (by decide)))
    fun record => ?_
  exact .cmdLift (Cmd.Raises.fill (Protocol.registrationRecord_exact.write_raises (by decide)
    ⟨record.envelope, record.initiatorPublicKey.toList⟩ _) _)

theorem generateKe1_answers (args : GenerateKe1) (strike : Strike AgentStateHandle) :
    AnswersWith reported [⟨.agent, args.agentHandle⟩, ⟨.agentState, args.stateHandle⟩]
      [0, -1, -2, -5, -99] (opaqueAgentGenerateKe1 P args strike) [] := by
  refine .rejectIf (by decide) fun _ => .rejectIf (by decide) fun _ => ?_
  refine .onClient (by decide) (by decide) (by decide) fun _ => ?_
  refine .bind (beforeCommit_raises strike (.bind .getOut fun _ => ?_)) fun _ => .modifyOut
  refine .bind (onSession_raises ((Agent.generateKe1_raises P _ _).mono (by decide))) fun ke1 => ?_
  exact .cmdLift (Cmd.Raises.fill (Protocol.ke1_exact.write_raises (by decide)
    ⟨ke1.credentialRequest.toList, ke1.initiatorPublicKey.toList, ke1.initiatorNonce.toList,
      ke1.pqEphemeralPublicKey.toList⟩ _) _)

theorem generateKe3_answers (args : GenerateKe3) (strike : Strike AgentStateHandle) :
    AnswersWith reported [⟨.agent, args.agentHandle⟩, ⟨.agentState, args.stateHandle⟩]
      [0, -1, -2, -5, -6, -10, -99] (opaqueAgentGenerateKe3 P args strike) [] := by
  refine .rejectIf (by decide) fun _ => .onClient (by decide) (by decide) (by decide) fun _ => ?_
  refine .bind (beforeCommit_raises strike (.bind .getOut fun _ => .bind .modifyState fun _ => ?_))
    fun _ => .bind .modifyOut fun _ => .modifyState
  refine .bind (onSession_raises ((Agent.generateKe3_raises P _ _).mono (by decide))) fun ke3 => ?_
  exact .cmdLift (Cmd.Raises.fill
    (Protocol.ke3_exact.write_raises (by decide) ⟨ke3.initiatorMac.toList⟩ _) _)

theorem agentFinish_answers (args : AgentFinish) (strike : Strike AgentStateHandle) :
    AnswersWith reported [⟨.agent, args.agentHandle⟩, ⟨.agentState, args.stateHandle⟩]
      [0, -1, -5, -99] (opaqueAgentFinish args strike) [] := by
  refine .rejectIf (by decide) fun _ => .onClient (by decide) (by decide) (by decide) fun _ => ?_
  refine .bind (beforeCommit_raises strike (.bind .getState fun _ => ?_)) fun _ =>
    .bind .modifyOut fun _ => .bind .modifyOut fun _ => .modifyState
  exact .bind (.failIf (by decide)) fun _ =>
    onSession_raises (Agent.initiatorFinish_raises.mono (by decide))

theorem agentCall_answers (call : AgentCall) (strike : Strike AgentStateHandle) :
    AnswersWith reported (StatefulCall.agent call strike).handles call.codes
      (call.program P strike) [] := by
  cases call with
  | createRegistrationRequest args => exact createRegistrationRequest_answers args strike
  | finalizeRegistration args => exact finalizeRegistration_answers args strike
  | generateKe1 args => exact generateKe1_answers args strike
  | generateKe3 args => exact generateKe3_answers args strike
  | finish args => exact agentFinish_answers args strike

theorem decodeCredentials_raises {codes : List ℤ} (hinvalid : -1 ∈ codes)
    (hcorrupted : -101 ∈ codes) (responder : Relay.OpaqueResponder) (input : List UInt8)
    (length : ℕ) : (decodeCredentials P responder input length).Raises (· ∈ codes) := by
  unfold decodeCredentials credentialWire
  refine .bind ?_ fun _ => .bind (withCode_raises fun _ _ => hcorrupted) fun _ => ?_
  · split_ifs
    · exact copyFromSlice_raises _ _
    · exact withCode_raises fun _ _ => hinvalid
    · exact .err hinvalid
  · refine .bind (withCode_raises fun _ _ => hcorrupted) fun _ => ?_
    refine .bind (.failIf hcorrupted) fun _ => ?_
    split_ifs
    · exact .bind (copyFromSlice_raises _ _) fun _ =>
        .bind (copyFromSlice_raises _ _) fun _ => .ok _
    · exact .ok _
    · exact .err hinvalid

theorem relayGenerateKe2_answers (args : RelayGenerateKe2) (strike : Strike Relay.ResponderState) :
    AnswersWith reported [⟨.relay, args.relayHandle⟩, ⟨.relayState, args.stateHandle⟩]
      ([0, -1, -2, -5, -6, -10, -99, -101] ++ reported.map OpaqueError.toCInt)
      (opaqueRelayGenerateKe2 P args strike) [] := by
  have hown : ∀ code ∈ [0, -1, -2, -5, -6, -10, -99, -101],
      code ∈ [0, -1, -2, -5, -6, -10, -99, -101] ++ reported.map OpaqueError.toCInt :=
    fun _ => List.mem_append_left _
  have hreported : ∀ e ∈ reported, e.toCInt ∈
      [0, -1, -2, -5, -6, -10, -99, -101] ++ reported.map OpaqueError.toCInt :=
    fun e he => List.mem_append_right _ (List.mem_map_of_mem he)
  have hzero := hown 0 (by decide)
  have hinvalid := hown (-1) (by decide)
  have hpanic := hown (-99) (by decide)
  refine .rejectIf hinvalid fun _ => .rejectIf hinvalid fun _ => ?_
  refine .acquireRelay (by simp) hinvalid fun responder hevaluator => ?_
  refine .work hpanic (.bind .get fun _ => .lift ?_) fun _ creds _ _ => ?_
  · exact decodeCredentials_raises hinvalid (hown (-101) (by decide)) _ _ _
  refine .acquire (by simp) hinvalid (by simp) (.onRelayState hzero hpanic ?_)
  refine .bind (beforeCommit_raises strike (.bind .getOut fun _ => ?_)) fun _ => .modifyOut
  refine .bind (onSession_raises (Relay.generateKe2_raises P (hevaluator.mono ?_) ?_ _ _ _))
    fun ke2 => ?_
  · exact toCInt_mem_of_evaluator hinvalid (hown (-2) (by decide)) hreported
  · have hlisted : ∀ e ∈ Relay.ke2Errors, e.toCInt ∈ [0, -1, -2, -5, -6, -10, -99, -101] := by
      decide
    exact fun e he => hown _ (hlisted e he)
  · exact .cmdLift (Cmd.Raises.fill (Protocol.ke2_exact.write_raises (hown (-5) (by decide))
      ⟨ke2.responderNonce.toList, ke2.responderPublicKey.toList, ke2.credentialResponse.toList,
        ke2.responderMac.toList, ke2.kemCiphertext.toList⟩ _) _)

theorem relayFinish_answers (args : RelayFinish) (strike : Strike Relay.ResponderState) :
    AnswersWith reported [⟨.relay, args.relayHandle⟩, ⟨.relayState, args.stateHandle⟩]
      [0, -1, -5, -10, -99] (opaqueRelayFinish args strike) [] := by
  refine .rejectIf (by decide) fun _ => .acquireRelay (by simp) (by decide) fun _ _ => ?_
  refine .acquire (by simp) (by decide) (by simp) (.onRelayState (by decide) (by decide) ?_)
  refine .bind (beforeCommit_raises strike (.bind .getOut fun _ => ?_)) fun _ => .modifyOut
  exact onSession_raises ((Relay.responderFinish_raises _).mono (by decide))

/-- The parts of a response have the lengths that its writer checks. -/
theorem responseWire_raises {errors : OpaqueError → Prop}
    (data : Bytes registrationResponseLength) :
    (do
      let evaluatedElement ← slice data.toList 0 publicKeyLength
      let responderPublicKey ← slice data.toList publicKeyLength registrationResponseLength
      Cmd.fill (zeros registrationResponseWireLength)
        (Protocol.writeRegistrationResponse evaluatedElement responderPublicKey) :
      OpaqueResult (Bytes registrationResponseWireLength)).Raises errors := by
  rw [slice_eq_ok (by simp) (by simp), Outcome.ok_bind, slice_eq_ok (by simp) (by simp),
    Outcome.ok_bind]
  have hsized : Protocol.Sized Protocol.registrationResponseFieldLengths
      [(data.toList.drop 0).take (publicKeyLength - 0),
        (data.toList.drop publicKeyLength).take
          (registrationResponseLength - publicKeyLength)] := by
    simp [Protocol.Sized, Protocol.registrationResponseFieldLengths]
  rw [(Protocol.writeRegistrationResponse_writes hsized le_rfl).fill hsized.encode_length]
  exact .ok _

theorem createRegistrationResponse_answers (args : RelayCreateRegistrationResponse)
    (panics : Bool) :
    AnswersWith reported [⟨.relay, args.relayHandle⟩]
      ([0, -1, -2, -10, -99] ++ reported.map OpaqueError.toCInt)
      (opaqueRelayCreateRegistrationResponse P args panics) [] := by
  have hown : ∀ code ∈ [0, -1, -2, -10, -99],
      code ∈ [0, -1, -2, -10, -99] ++ reported.map OpaqueError.toCInt :=
    fun _ => List.mem_append_left _
  have hreported : ∀ e ∈ reported,
      e.toCInt ∈ [0, -1, -2, -10, -99] ++ reported.map OpaqueError.toCInt :=
    fun e he => List.mem_append_right _ (List.mem_map_of_mem he)
  have hinvalid := hown (-1) (by decide)
  refine .rejectIf hinvalid fun hwell => ?_
  have hlength : args.requestLength = registrationRequestWireLength := by
    simp only [RelayCreateRegistrationResponse.Malformed, not_or, not_not] at hwell
    exact hwell.2.1
  refine .acquireRelay List.mem_cons_self hinvalid fun responder hevaluator => ?_
  refine .work (hown (-99) (by decide)) ?_ fun _ _ _ _ => hown 0 (by decide)
  refine .bind .get fun store => .bind (.lift (withCode_raises (.bind ?_ fun response => ?_)))
    fun wire => .bind (.injectTestPanic _) fun _ => .writeMemory _ _
  · refine Cmd.Raises.fill
      (Relay.createRegistrationResponse_raises P (hevaluator.mono ?_) ?_ ?_ _) _
    · exact toCInt_mem_of_evaluator hinvalid (hown (-2) (by decide)) hreported
    · have hlisted : ∀ e ∈ Relay.responseErrors, e.toCInt ∈ [0, -1, -2, -10, -99] := by decide
      exact fun e he => hown _ (hlisted e he)
    · simp [hlength]
  · exact responseWire_raises response.data

theorem buildCredentials_answers (args : RelayBuildCredentials) (panics : Bool) :
    AnswersWith reported [] [0, -1, -6, -10, -99] (opaqueRelayBuildCredentials P args panics)
      [] := by
  refine .rejectIf (by decide) fun hwell => .work (by decide) ?_ fun _ _ _ _ => List.mem_cons_self
  refine .bind .get fun store => .bind (.lift (withCode_raises ?_)) fun wire =>
    .bind (.injectTestPanic _) fun _ => .writeMemory _ _
  have hlength := RelayBuildCredentials.length_record hwell store.memory
  rcases decoders_agree (P := P) hlength with ⟨creds, -, -, hwire⟩ | ⟨e, hbuilt, -, hwire⟩
  · rw [hwire]
    exact .ok _
  · rw [hwire]
    have hlisted : ∀ e ∈ Relay.recordErrors, e.toCInt ∈ [0, -1, -6, -10, -99] := by decide
    exact .err (hlisted e (Cmd.Raises.fill_at (Relay.buildCredentials_raises P hlength) e hbuilt))

theorem keypairGetPublicKey_answers (args : RelayKeypairGetPublicKey) (panics : Bool) :
    AnswersWith reported [⟨.relayKeypair, args.handle⟩] [0, -1, -99]
      (opaqueRelayKeypairGetPublicKey args panics) [] := by
  refine .rejectIf (by decide) fun _ => ?_
  refine .acquireRelayKeypair List.mem_cons_self (by decide) fun kh => ?_
  refine .work (by decide) ?_ fun _ _ _ _ => List.mem_cons_self
  exact .bind (.injectTestPanic _) fun _ => .writeMemory _ _

theorem agentCreate_answers (args : AgentCreate) (panics : Bool) :
    AnswersWith reported [] [0, -1, -6, -99] (opaqueAgentCreate P args panics) [] := by
  refine .rejectIf (by decide) fun _ => .clear (.rejectIf (by decide) fun _ => ?_)
  refine .work (by decide) (.bind .get fun _ => .lift (withCode_raises ?_))
    fun _ initiator _ _ => ?_
  · exact .bind (validatePublicKey_raises P (by decide) _) fun _ =>
      .bind (copyFromSlice_raises _ _) fun _ => .ok _
  · exact .work (by decide) (.injectTestPanic _) fun _ _ _ _ =>
      .publish List.mem_cons_self fun _ _ h => h

theorem agentStateCreate_answers (handle : ℕ) (panics : Bool) :
    AnswersWith reported [] [0, -1, -99] (opaqueAgentStateCreate handle panics) [] := by
  refine .rejectIf (by decide) fun _ =>
    .clear (.work (by decide) (.onWorld ?_) fun _ state _ _ => ?_)
  · exact .bind now_raises fun _ => .pure _
  · exact .work (by decide) (.injectTestPanic _) fun _ _ _ _ =>
      .publish List.mem_cons_self fun _ _ h => h

theorem relayStateCreate_answers (handle : ℕ) (panics : Bool) :
    AnswersWith reported [] [0, -1, -99] (opaqueRelayStateCreate handle panics) [] := by
  refine .rejectIf (by decide) fun _ =>
    .clear (.work (by decide) (.onWorld ?_) fun _ state _ _ => ?_)
  · exact .bind now_raises fun _ => .pure _
  · exact .work (by decide) (.injectTestPanic _) fun _ _ _ _ =>
      .publish List.mem_cons_self fun _ _ h => h

theorem keypairGenerate_answers (handle : ℕ) (panics : Bool) :
    AnswersWith reported [] [0, -1, -2, -99] (opaqueRelayKeypairGenerate P handle panics) [] := by
  have hcrypto : -2 ∈ [0, -1, -2, -99] := by decide
  refine .rejectIf (by decide) fun _ => .clear ?_
  refine .work (by decide) (.onWorld fun _ _ _ => hcrypto) fun _ keypair _ _ => ?_
  refine .work (by decide) (.onWorld fun _ _ _ => hcrypto) fun _ seed _ _ => ?_
  exact .work (by decide) (.injectTestPanic _) fun _ _ _ _ =>
    .publish List.mem_cons_self fun _ _ h => h

theorem publishResponder_answers {uses tried : List (Handle Kind)} {address : ℕ}
    {responder : Relay.OpaqueResponder} {panics : Bool}
    (hresponder : responder.evaluator.Raises (· ∈ evaluatorErrors reported)) :
    AnswersWith reported uses [0, -1, -99] (publishResponder address responder panics) tried :=
  .work (by decide) (.injectTestPanic _) fun _ _ _ _ =>
    .publish List.mem_cons_self fun _ _ h => h.update _ hresponder

/-- A result of the library that comes out without a code. -/
theorem withCode_eq_ok {α : Type} {code : OpaqueError → ℤ} {o : OpaqueResult α} {a : α}
    (h : withCode code o = .ok a) : o = .ok a := by
  cases o with
  | ok b =>
      cases h
      rfl
  | err e => cases h
  | panic => cases h

theorem relayCreate_answers (args : RelayCreate) (panics : Bool) :
    AnswersWith reported [⟨.relayKeypair, args.keypairHandle⟩] [0, -1, -99]
      (opaqueRelayCreate P args panics) [] := by
  have hinvalid : -1 ∈ [0, -1, -99] := by decide
  refine .rejectIf hinvalid fun _ => .clear ?_
  refine .acquireRelayKeypair List.mem_cons_self hinvalid fun kh => ?_
  refine AnswersWith.work (by decide) (.lift (withCode_raises fun _ _ => hinvalid))
    fun _ responder _ hrun => ?_
  rw [Cmd.run_liftM, Prod.mk.injEq] at hrun
  exact publishResponder_answers (responder_new_raises (withCode_eq_ok hrun.1))

theorem relayCreateWithKeys_answers (args : RelayCreateWithKeys) (panics : Bool) :
    AnswersWith reported [] [0, -1, -99] (opaqueRelayCreateWithKeys P args panics) [] := by
  have hinvalid : -1 ∈ [0, -1, -99] := by decide
  refine .rejectIf hinvalid fun _ => .clear (.rejectIf hinvalid fun _ => ?_)
  refine .work (by decide) ?_ fun store responder _ hrun => ?_
  · refine .bind .get fun _ => .bind (.cmdLift (copyFromSlice_raises _ _)) fun seed => ?_
    refine .bind (.lift (withCode_raises fun _ _ => hinvalid)) fun keypair => ?_
    exact .lift (withCode_raises fun _ _ => hinvalid)
  · obtain ⟨_, _, -, hrun⟩ := Cmd.run_bind_eq_ok_iff.mp hrun
    obtain ⟨_, _, -, hrun⟩ := Cmd.run_bind_eq_ok_iff.mp hrun
    obtain ⟨_, _, -, hrun⟩ := Cmd.run_bind_eq_ok_iff.mp hrun
    rw [Cmd.run_liftM, Prod.mk.injEq] at hrun
    exact publishResponder_answers (responder_new_raises (withCode_eq_ok hrun.1))

theorem Call.answers (call : Call) :
    AnswersWith reported call.uses (call.codes reported) (call.program P) [] := by
  cases call with
  | agentCreate args panics => exact agentCreate_answers args panics
  | agentTryDestroy handlePtr => exact .tryDestroy fun _ _ h => h
  | agentStateCreate handle panics => exact agentStateCreate_answers handle panics
  | agentStateTryDestroy handlePtr => exact .tryDestroy fun _ _ h => h
  | relayKeypairGenerate handle panics => exact keypairGenerate_answers handle panics
  | relayKeypairTryDestroy handlePtr => exact .tryDestroy fun _ _ h => h
  | relayKeypairGetPublicKey args panics => exact keypairGetPublicKey_answers args panics
  | relayCreate args panics => exact relayCreate_answers args panics
  | relayCreateWithKeys args panics => exact relayCreateWithKeys_answers args panics
  | relayTryDestroy handlePtr =>
      exact .tryDestroy fun address _ h => h.update address (inMemory_raises _)
  | relayStateCreate handle panics => exact relayStateCreate_answers handle panics
  | relayStateTryDestroy handlePtr => exact .tryDestroy fun _ _ h => h
  | relayCreateRegistrationResponse args panics =>
      exact createRegistrationResponse_answers args panics
  | relayBuildCredentials args panics => exact buildCredentials_answers args panics
  | stateful call =>
      cases call with
      | agent call strike => exact agentCall_answers call strike
      | relay call strike =>
          cases call with
          | generateKe2 args => exact relayGenerateKe2_answers args strike
          | finish args => exact relayFinish_answers args strike

end Entries

/-- Nothing is known of the evaluators when they may report everything. -/
theorem Call.answers_always (call : Call) :
    (call.program P).Answers (fun _ => True) (· ∈ call.uses)
      (· ∈ call.codes libraryErrors) ffiBusy [] := by
  refine call.answers.always fun store address => ?_
  have hall : ∀ e, e ∈ evaluatorErrors libraryErrors := by
    intro e
    cases e <;> decide
  exact ⟨fun _ _ e _ => hall e, fun _ e _ => hall e⟩

/-! ## Runs -/

section Runs

variable {ι : Type} [DecidableEq ι] {calls : ι → Call} {history : List (Label ι Kind Store ℤ)}
  {start pool : Pool ι Kind Store ℤ} {l : Label ι Kind Store ℤ} {code : ℤ}
  {reported : List OpaqueError}

/-- The codes of the header that no call returns. -/
def reservedCodes : List ℤ := [-3, -4, -8, -9]

/-- All codes of all entry points. -/
def interfaceCodes : List ℤ := [0, -1, -2, -5, -6, -7, -10, -99, -101]

theorem Call.codes_subset (call : Call) :
    ∀ code ∈ call.codes reported, code ∈ interfaceCodes := by
  have hreported : ∀ code ∈ reported.map OpaqueError.toCInt, code ∈ interfaceCodes := by
    intro code hcode
    obtain ⟨e, -, rfl⟩ := List.mem_map.mp hcode
    cases e <;> decide
  have happend {own : List ℤ} (hown : ∀ code ∈ own, code ∈ interfaceCodes) :
      ∀ code ∈ own ++ reported.map OpaqueError.toCInt, code ∈ interfaceCodes :=
    List.forall_mem_append.mpr ⟨hown, hreported⟩
  cases call with
  | relayCreateRegistrationResponse args panics => exact happend (by decide)
  | stateful call =>
      cases call with
      | agent call strike => cases call <;> simp [codes, AgentCall.codes, interfaceCodes]
      | relay call strike =>
          cases call with
          | generateKe2 args => exact happend (by decide)
          | finish args => simp [codes, interfaceCodes]
  | _ => simp [codes, interfaceCodes]

theorem Call.codes_not_reserved (call : Call) :
    ∀ code ∈ call.codes reported, code ∉ reservedCodes := by
  have hall : ∀ code ∈ interfaceCodes, code ∉ reservedCodes := by decide
  exact fun code hcode => hall code (call.codes_subset code hcode)

theorem Call.busy_not_mem (call : Call) : ffiBusy ∉ call.codes reported :=
  fun hmem => absurd (call.codes_subset _ hmem) (by decide)

/-- What a returned call said, and whether it had a reason to. -/
structure Answered (P : Primitives) (reported : List OpaqueError) (calls : ι → Call)
    (start : Pool ι Kind Store ℤ) (history : List (Label ι Kind Store ℤ)) (i : ι) (code : ℤ) :
    Prop where
  answer : code ∈ (calls i).codes reported ∨ code = ffiBusy
  unreserved : code ∉ reservedCodes
  /-- Another call had one of its handles, or the one that it was to destroy, as it tried it. -/
  contended : code = ffiBusy →
    Contended (callsOf P calls) (fun i => (· ∈ (calls i).uses)) start history i

/--
Any calls, interleaved in any way: every call that returns answers with one of its codes,
never with a reserved one, and it finds a handle busy only while another call has it.
-/
theorem calls_answered (hstart : start.Quiet) (hrelays : start.shared.data.Evaluates reported)
    (hrun : Run (Interleaves (callsOf P calls)) start history pool) (hl : l ∈ history)
    (he : l.event = .returned code) : Answered P reported calls start history l.call code := by
  have hstatus := (callsOf_orderly hstart hrun).returned l hl code he
  have hanswers := run_answers hstart hrelays (fun _ _ => callsOf_orderly hstart)
    (fun i => (calls i).answers) hrun
  have hanswer := hanswers.status l.call
  rw [hstatus.1] at hanswer
  rcases hanswer with hcode | ⟨rfl, hcontended⟩
  · refine ⟨.inl hcode, (calls l.call).codes_not_reserved code hcode, ?_⟩
    rintro rfl
    exact absurd hcode (calls l.call).busy_not_mem
  · exact ⟨.inr rfl, by decide, fun _ => hcontended⟩

/-- The second of two calls on one key pair finds the first one there. -/
theorem calls_answered_sample : ∃ history : List (Label Bool Kind Store ℤ),
    (∃ l ∈ history, l.call = true ∧ l.event = .returned ffiBusy) ∧
      Answered Sample.primitives [] (fun _ => .relayKeypairGetPublicKey ⟨5, 100, 32⟩ false)
        sampleStart history true ffiBusy := by
  obtain ⟨history, pool, hrun, -, l, hl, hcall, he⟩ := sample_run
  have hrelays : sampleStart.shared.data.Evaluates [] := fun _ => inMemory_raises _
  have hanswered := calls_answered sampleStart_quiet hrelays hrun hl he
  rw [hcall] at hanswered
  exact ⟨history, ⟨l, hl, hcall, he⟩, hanswered⟩

end Runs

end AuraOpaque.Ffi
