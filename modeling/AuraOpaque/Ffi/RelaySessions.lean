import AuraOpaque.Ffi.Sessions

/-!
# Relay sessions under many callers

The same for the sessions of a relay.  A call for a KE2 decodes the credentials
before it gets to the session, so it may have found other bytes in the caller's
buffer than are there when it answers.
-/

namespace AuraOpaque.Ffi

open AuraOpaque.Foundation AuraOpaque.Core
open Protocol (encode)

variable (P : Primitives)

/-! ## One call -/

namespace RelayCall

/-- Credentials that the call can have decoded, from bytes of the length it was given. -/
def Decoded (call : RelayCall) (data : Store) (creds : Relay.ResponderCredentials) : Prop :=
  match call with
  | generateKe2 args =>
      ∃ bytes, bytes.length = args.credentialsLength ∧
        decodeCredentials P (data.relays args.relayHandle) bytes args.credentialsLength = .ok creds
  | finish _ => creds = .new

/-- The operation of the library that the call stands for, on a store. -/
def library (call : RelayCall) (data : Store) (creds : Relay.ResponderCredentials) : Relay.Call :=
  match call with
  | generateKe2 args =>
      .generateKe2 (data.relays args.relayHandle) (data.memory.read args.ke1Data args.ke1Length)
        (data.memory.read args.accountId args.accountIdLength) creds .new
  | finish args => .responderFinish (data.memory.read args.ke3Data args.ke3Length) (zeros _)

/-- What the library hands out, and where the caller wants it. -/
def delivered (call : RelayCall) (data : Store) (creds : Relay.ResponderCredentials) :
    List (ℕ × List UInt8) :=
  let state := data.relayStates call.stateHandle
  match call with
  | generateKe2 args =>
      let ke2 := ((Relay.generateKe2 P (data.relays args.relayHandle)
        (data.memory.read args.ke1Data args.ke1Length)
        (data.memory.read args.accountId args.accountIdLength) creds).run
          ⟨.new, state, data.world⟩).2.out
      [(args.ke2Data, encode [ke2.responderNonce.toList, ke2.responderPublicKey.toList,
        ke2.credentialResponse.toList, ke2.responderMac.toList, ke2.kemCiphertext.toList])]
  | finish args => [(args.sessionKey, state.sessionKey.toList)]

/-- The call did all that it documents, and its step is the step of the library. -/
structure Follows (call : RelayCall) (data data' : Store) (creds : Relay.ResponderCredentials) :
    Prop where
  decoded : call.Decoded P data creds
  source : (data.relayStates call.stateHandle).phase = call.operation.source
  target : (data'.relayStates call.stateHandle).phase = call.operation.target
  lengths : (call.delivered P data creds).map (fun o => o.2.length) = call.documented
  committed : data.memory.Commits data'.memory (call.delivered P data creds)
  library : Relay.Step P (data.relayStates call.stateHandle)
    ⟨call.library data creds, .ok (), data'.relayStates call.stateHandle⟩
    (data'.relayStates call.stateHandle)

/-- What a call that got to its session did there. -/
def Works (call : RelayCall) (code : ℤ) (data data' : Store) : Prop :=
  (code = 0 ∧ ∃ creds, call.Follows P data data' creds) ∨ (code ≠ 0 ∧ call.Invalidates data data')

end RelayCall

section Call

variable {P} {strike : Strike Relay.ResponderState} {data : Store}

theorem onRelayState_works (call : RelayCall) {α : Type}
    {body : Op Memory Relay.ResponderState α} {commit : α → Op Memory Relay.ResponderState Unit}
    (hbody : KeepsMemory body)
    (hcommit : ∀ a f, ∃ f', (commit a).run f = (.ok (), f'))
    (hfollows : ∀ a g g',
      body.run ⟨data.memory, data.relayStates call.stateHandle, data.world⟩ = (.ok a, g) →
      (commit a).run g = (.ok (), g') →
      ∃ creds, call.Follows P data (withRelayFrame data call.stateHandle g') creds) :
    Program.Performs (fun code data' => call.Works P code data data') data
      (onRelayState call.stateHandle (beforeCommit strike body >>= commit)) := by
  refine ⟨_, rfl, ?_⟩
  unfold runRelayStateful
  rcases @runStateful_cases _ _ invalidateRelayState strike body commit hbody hcommit
      ⟨data.memory, data.relayStates call.stateHandle, data.world⟩ with
    ⟨a, g, g', hrun, hdone, hok⟩ | ⟨code, state, w, hcode, hfail⟩
  · rw [hok]
    exact .inl ⟨rfl, hfollows a g g' hrun hdone⟩
  · rw [hfail]
    exact .inr ⟨hcode, call.invalidates state w⟩

/-- The KE2 went out as it was encoded, and the session is as the library left it. -/
theorem generateKe2_works (args : RelayGenerateKe2) {creds : Relay.ResponderCredentials}
    (hdecoded : (RelayCall.generateKe2 args).Decoded P data creds) :
    Program.Performs (fun code data' => (RelayCall.generateKe2 args).Works P code data data') data
      (onRelayState args.stateHandle
        (generateKe2Operation P (data.relays args.relayHandle) creds args strike)) := by
  refine onRelayState_works (.generateKe2 args) (fun m => ?_) (fun wire f => ⟨_, rfl⟩) ?_
  · exact .bind (fun _ hf => hf) fun _ => .bind (KeepsMemory.onSession m) fun _ _ hf => hf
  · intro wire g g' hrun hdone
    rw [Cmd.run_bind_ok (Op.run_getOut _)] at hrun
    obtain ⟨cf, hlibrary, hfill, rfl⟩ := onSession_fill_ok hrun
    cases hdone
    dsimp only [RelayCall.stateHandle, id] at hlibrary
    rcases Relay.generateKe2_ends _ _ _ _ _ _ hlibrary with ⟨-, hsource, htarget, -⟩ | ⟨hfail, -⟩
    · have hsized : Protocol.Sized Protocol.ke2FieldLengths
          [cf.out.responderNonce.toList, cf.out.responderPublicKey.toList,
            cf.out.credentialResponse.toList, cf.out.responderMac.toList,
            cf.out.kemCiphertext.toList] := by
        simp [Protocol.Sized]
      have hwire :=
        Protocol.wire_of_fill hfill (Protocol.writeKe2_writes hsized le_rfl) hsized rfl
      have hdelivered : (RelayCall.generateKe2 args).delivered P data creds =
          [(args.ke2Data, wire.toList)] := by
        simp only [RelayCall.delivered, RelayCall.stateHandle, hlibrary, hwire]
      refine ⟨creds, hdecoded, hsource, ?_, ?_, ?_, ?_⟩
      · rw [withRelayFrame_relayStates]
        exact htarget
      · rw [hdelivered]
        simp [RelayCall.documented]
      · rw [hdelivered]
        exact Memory.commits_write
      · refine ⟨rfl, data.world, ?_⟩
        rw [withRelayFrame_relayStates]
        exact congrArg (fun x => (x.1, x.2.state)) hlibrary
    · cases hfail

theorem finish_works (args : RelayFinish) :
    Program.Performs (fun code data' => (RelayCall.finish args).Works P code data data') data
      (onRelayState args.stateHandle (relayFinishOperation args strike)) := by
  refine onRelayState_works (.finish args) (fun m => ?_) (fun sk f => ⟨_, rfl⟩) ?_
  · exact .bind (fun _ hf => hf) fun _ => KeepsMemory.onSession m
  · intro sk g g' hrun hdone
    rw [Cmd.run_bind_ok (Op.run_getOut _)] at hrun
    obtain ⟨cf, hlibrary, rfl, rfl⟩ := onSession_ok hrun
    cases hdone
    dsimp only [RelayCall.stateHandle, id] at hlibrary
    have hstep := congrArg (fun x => (x.1, x.2.state)) hlibrary
    rcases Relay.responderFinish_cases _ _ with
      ⟨hawaits, -, hfinished⟩ | ⟨e, s', w, hfailed, -⟩
    · rw [hfinished] at hlibrary
      cases hlibrary
      refine ⟨.new, rfl, hawaits.phase, ?_, by simp [RelayCall.delivered, RelayCall.documented],
        Memory.commits_write, rfl, data.world, ?_⟩
      · rw [withRelayFrame_relayStates]
        rfl
      · rw [withRelayFrame_relayStates]
        exact hstep
    · rw [hfailed] at hlibrary
      cases hlibrary

end Call

/-! ## Calls that wait for their session -/

section Serves

variable {address handle : ℕ} {R : ℤ → Store → Store → Prop} {held : List (Handle Kind)}
  {seen : Store}

/-- The call goes on to the relay's session at the address, or is turned away with an error. -/
abbrev ServesRelay (address : ℕ) (R : ℤ → Store → Store → Prop) (entry : Entry ℤ)
    (held : List (Handle Kind)) (seen : Store) : Prop :=
  entry.Serves Store.objects ⟨.relayState, address⟩ (· ≠ 0) R held seen

theorem ServesRelay.rejectIf {p : Prop} [Decidable p] {error : OpaqueError}
    {next : Unit → Entry ℤ} (hnext : ServesRelay address R (next ()) held seen) :
    ServesRelay address R (Entry.rejectIf p error >>= next) held seen := by
  unfold Entry.rejectIf Program.exitIf
  split
  · exact error.toCInt_neg.ne
  · exact hnext

theorem ServesRelay.acquireRelay {next : Relay.OpaqueResponder → Entry ℤ}
    (hnext : ∀ data : Store,
      ServesRelay address R (next (data.relays handle)) [⟨.relay, handle⟩] data) :
    ServesRelay address R (acquireRelay handle >>= next) [] seen := by
  unfold Ffi.acquireRelay Ffi.acquire
  rw [Program.bind_assoc]
  split
  · exact handleAccessToInt_ne_zero _
  · intro data _
    exact .inr ⟨nofun, fun data' _ => hnext data', handleAccessToInt_ne_zero .busy⟩

theorem ServesRelay.work {β : Type} {c : Cmd ℤ Store β} {next : β → Entry ℤ}
    (hsame : ∀ data, (c.run data).2 = data) (hcode : ∀ data, Diagnosed (c.run data).1)
    (hnext : ∀ data b, Store.objects.AgreeOn held data seen → (c.run data).1 = .ok b →
      ServesRelay address R (next b) held data) :
    ServesRelay address R (Entry.work c >>= next) held seen := by
  unfold Entry.work
  simp only [Program.act_bind, Program.ret_bind, ServesRelay, Program.Serves]
  intro data hagree
  have hstore := hsame data
  have hfail := hcode data
  rcases hrun : c.run data with ⟨b | code | _, data'⟩ <;> rw [hrun] at hstore hfail
  · obtain rfl : data' = data := hstore
    exact hnext _ b hagree (by rw [hrun])
  · exact (hfail code rfl).1
  · exact (by decide : ffiPanic ≠ 0)

theorem ServesRelay.acquireSession {next : Unit → Entry ℤ}
    (hnext : ∀ data, Store.objects.AgreeOn held data seen →
      Program.Performs (fun code data' => R code data data') data (next ())) :
    ServesRelay address R (acquire .relayState address >>= next) held seen := by
  unfold Ffi.acquire
  split
  · exact handleAccessToInt_ne_zero _
  · intro data hagree
    refine .inl ⟨rfl, ⟨_, handleAccessToInt_ne_zero .busy, rfl⟩, fun data' hagree' => ?_⟩
    exact hnext data' fun h hmem =>
      (hagree' h (List.mem_cons_of_mem _ hmem)).trans (hagree h hmem)

theorem relayCall_serves {P : Primitives} (call : RelayCall)
    (strike : Strike Relay.ResponderState) :
    ServesRelay call.stateHandle (call.Works P) (call.program P strike) [] seen := by
  cases call with
  | generateKe2 args =>
      refine .rejectIf (.rejectIf (.acquireRelay fun data => ?_))
      refine .work (fun _ => rfl) (fun _ => decodeCredentials_diagnosed _ _ _) ?_
      intro data' creds hagree hcreds
      refine .acquireSession fun data'' hagree' => ?_
      have hrelay : data''.relays args.relayHandle = data.relays args.relayHandle :=
        Object.relay.inj ((hagree' _ List.mem_cons_self).trans (hagree _ List.mem_cons_self))
      rw [← hrelay] at hcreds ⊢
      exact generateKe2_works args ⟨_, Memory.length_read _ _ _, hcreds⟩
  | finish args =>
      refine .rejectIf (.acquireRelay fun data => .acquireSession fun data' _ => ?_)
      exact finish_works args

end Serves

/-! ## Runs -/

section Runs

variable {P} {ι : Type} {calls : ι → Call} {address createdAt : ℕ}
  {start mid pool : Pool ι Kind Store ℤ} {past later : List (Label ι Kind Store ℤ)}

/-- The call is one on the relay's session at the address. -/
def Call.OnRelay (address : ℕ) : Call → Prop
  | .stateful (.relay call _) => call.stateHandle = address
  | _ => False

/-- What the call did to the relay's session that it is for. -/
def Call.WorksOnRelay (P : Primitives) : Call → ℤ → Store → Store → Prop
  | .stateful (.relay call _) => call.Works P
  | _ => fun _ _ _ => False

/-- The operation of the library that a call on a relay's session is for. -/
def Call.relayOperation : Call → Option Relay.Operation
  | .stateful (.relay call _) => some call.operation
  | _ => none

theorem Call.OnRelay.exists {call : Call} (h : call.OnRelay address) :
    ∃ relayCall strike, call = .stateful (.relay relayCall strike) ∧
      relayCall.stateHandle = address := by
  cases call with
  | stateful call =>
      cases call with
      | agent => cases h
      | relay call strike => exact ⟨call, strike, rfl, h⟩
  | _ => cases h

theorem Call.OnRelay.serves {call : Call} (h : call.OnRelay address) (data : Store) :
    (call.program P).Serves Store.objects ⟨.relayState, address⟩ (· ≠ 0) (call.WorksOnRelay P) []
      data := by
  obtain ⟨relayCall, strike, rfl, rfl⟩ := h.exists
  exact relayCall_serves relayCall strike

theorem Call.avoids_relay {call : Call} (h : ¬ call.OnRelay address) :
    (call.program P).Avoids ⟨.relayState, address⟩ := by
  refine call.answers_always.avoids fun hmem => h ?_
  cases call with
  | stateful call =>
      cases call with
      | agent call strike => cases call <;> simp [Call.uses, StatefulCall.handles] at hmem
      | relay call strike =>
          simp [Call.uses, StatefulCall.handles] at hmem
          exact hmem.symm
  | _ => simp [Call.uses] at hmem

theorem relaySource_ne_finished (op : Relay.Operation) : op.source ≠ .finished := by
  cases op <;> decide

/-- The step of the library that an entry of a log stands for. -/
def StandsFor (calls : ι → Call) (entry : Label ι Kind Store ℤ × ℤ) (event : Relay.Event) : Prop :=
  ∃ call strike creds, calls entry.1.call = .stateful (.relay call strike) ∧
    event = ⟨call.library entry.1.before.data creds, .ok (),
      entry.1.after.data.relayStates call.stateHandle⟩

/--
The calls on a session succeed up to some point, and fail from there on.  While they
succeed, the session is the one of the library; once one has failed, it is over.
-/
structure RelayHistory (P : Primitives) (calls : ι → Call) (createdAt : ℕ)
    (good bad : List (Label ι Kind Store ℤ × ℤ)) (state : Relay.ResponderState) : Prop where
  succeeded : ∀ entry ∈ good, entry.2 = 0
  failed : ∀ entry ∈ bad, entry.2 ≠ 0
  library : ∃ events s, List.Forall₂ (StandsFor calls) good events ∧
    Relay.RelayRun P createdAt events s ∧ (bad = [] → state = s)
  ended : bad ≠ [] → state.Terminal

theorem RelayHistory.step {good bad : List (Label ι Kind Store ℤ × ℤ)}
    {state : Relay.ResponderState} {entry : Label ι Kind Store ℤ × ℤ} {call : RelayCall}
    {strike : Strike Relay.ResponderState} (hist : RelayHistory P calls createdAt good bad state)
    (hcall : calls entry.1.call = .stateful (.relay call strike))
    (hbefore : entry.1.before.data.relayStates call.stateHandle = state)
    (hworks : call.Works P entry.2 entry.1.before.data entry.1.after.data) :
    ∃ good' bad', good' ++ bad' = (good ++ bad) ++ [entry] ∧
      RelayHistory P calls createdAt good' bad'
        (entry.1.after.data.relayStates call.stateHandle) := by
  obtain ⟨events, s, hevents, hrun, hstate⟩ := hist.library
  rcases hworks with ⟨hzero, creds, hfollows⟩ | ⟨hne, hinvalidates⟩
  · -- nothing succeeds on a session that is over
    have hbad : bad = [] := by
      by_contra hbad
      have hsource := hfollows.source
      rw [hbefore, (hist.ended hbad).phase] at hsource
      exact relaySource_ne_finished _ hsource.symm
    subst hbad
    have hstep := hfollows.library
    rw [hbefore, hstate rfl] at hstep
    refine ⟨good ++ [entry], [], by simp, ?_⟩
    constructor
    · intro entry' hmem
      rcases mem_snoc.mp hmem with hold | rfl
      · exact hist.succeeded entry' hold
      · exact hzero
    · exact nofun
    · refine ⟨_, _, List.rel_append hevents (.cons ⟨call, strike, creds, hcall, rfl⟩ .nil),
        hrun.snoc hstep, fun _ => rfl⟩
    · exact fun h => absurd rfl h
  · refine ⟨good, bad ++ [entry], by simp, ?_⟩
    constructor
    · exact hist.succeeded
    · intro entry' hmem
      rcases mem_snoc.mp hmem with hold | rfl
      · exact hist.failed entry' hold
      · exact hne
    · exact ⟨events, s, hevents, hrun, by simp⟩
    · exact fun _ => hinvalidates.dead

theorem exists_relayHistory {log : List (Label ι Kind Store ℤ × ℤ)} {o : Object}
    (hrun : Run (Logged Store.objects (fun i => (calls i).OnRelay address)
      ⟨.relayState, address⟩ fun i => (calls i).WorksOnRelay P)
        (.relayState (.newAt createdAt)) log o) :
    ∃ good bad state, log = good ++ bad ∧ o = .relayState state ∧
      RelayHistory P calls createdAt good bad state := by
  induction hrun with
  | nil =>
      exact ⟨[], [], _, rfl, rfl, nofun, nofun, ⟨[], _, .nil, .nil, fun _ => rfl⟩,
        fun h => absurd rfl h⟩
  | @snoc log o o' entry hrun hlast ih =>
      obtain ⟨good, bad, state, rfl, rfl, hist⟩ := ih
      obtain ⟨call, strike, hcall, rfl⟩ := hlast.serves.exists
      have hdone := hlast.done
      rw [hcall] at hdone
      have hbefore := Object.relayState.inj hlast.before
      obtain ⟨good', bad', happend, hist'⟩ := hist.step hcall hbefore hdone
      exact ⟨good', bad', _, happend.symm, hlast.after.symm, hist'⟩

/-- The phase of a relay's session. -/
def Object.relayPhase : Object → Relay.ResponderPhase
  | .relayState state => state.phase
  | _ => .created

theorem relayLog_governs (fresh : Process → ℕ) :
    ((relayStages P fresh).onLog (fun i => (calls i).relayOperation) (0 : ℤ)).Governs
      Object.relayPhase (Logged Store.objects (fun i => (calls i).OnRelay address)
        ⟨.relayState, address⟩ fun i => (calls i).WorksOnRelay P) := by
  intro o entry o' hlogged
  obtain ⟨call, strike, hcall, haddress⟩ := hlogged.serves.exists
  have hworks : call.Works P entry.2 entry.1.before.data entry.1.after.data := by
    have hdone := hlogged.done
    rw [hcall] at hdone
    exact hdone
  have hbefore : o = .relayState (entry.1.before.data.relayStates call.stateHandle) := by
    rw [haddress]
    exact hlogged.before.symm
  have hafter : o' = .relayState (entry.1.after.data.relayStates call.stateHandle) := by
    rw [haddress]
    exact hlogged.after.symm
  subst hbefore hafter
  rcases hworks with ⟨hzero, creds, hfollows⟩ | ⟨hne, hinvalidates⟩
  · refine .inr (.inl ⟨call.operation, ?_, trivial, decide_eq_true hzero, hfollows.source,
      hfollows.target⟩)
    simp [Stages.onLog, hcall, Call.relayOperation]
  · exact .inr (.inr ⟨trivial, decide_eq_false hne, hinvalidates.dead.phase⟩)

/-- A step in which a call for the operation did all that it documents. -/
def RelayCommits (P : Primitives) (calls : ι → Call) (address : ℕ) (op : Relay.Operation)
    (l : Label ι Kind Store ℤ) : Prop :=
  ∃ call strike creds, calls l.call = .stateful (.relay call strike) ∧
    call.stateHandle = address ∧ call.operation = op ∧
    call.Follows P l.before.data l.after.data creds

theorem relayCommits_of_logged {o o' : Object} {entry : Label ι Kind Store ℤ × ℤ}
    {op : Relay.Operation}
    (hlogged : Logged Store.objects (fun i => (calls i).OnRelay address)
      ⟨.relayState, address⟩ (fun i => (calls i).WorksOnRelay P) o entry o')
    (hop : (calls entry.1.call).relayOperation = some op) (hzero : entry.2 = 0) :
    RelayCommits P calls address op entry.1 := by
  obtain ⟨call, strike, hcall, haddress⟩ := hlogged.serves.exists
  have hdone := hlogged.done
  rw [hcall] at hdone hop
  rcases hdone with ⟨-, creds, hfollows⟩ | ⟨hne, -⟩
  · exact ⟨call, strike, creds, hcall, haddress, Option.some.inj hop, hfollows⟩
  · exact absurd hzero hne

variable [DecidableEq ι]

/-- A call on the relay's session that began after `mid` and returned zero. -/
abbrev RelaySucceeded (calls : ι → Call) (address : ℕ) (mid pool : Pool ι Kind Store ℤ) :
    Relay.Operation → ι → Prop :=
  Pool.Succeeded (fun i => (calls i).OnRelay address) (fun i => (calls i).relayOperation) (0 : ℤ)
    mid pool

/-- What the calls on one session can have returned, however they met. -/
structure RelayOneShot (P : Primitives) (calls : ι → Call) (address : ℕ)
    (mid : Pool ι Kind Store ℤ) (later : List (Label ι Kind Store ℤ))
    (pool : Pool ι Kind Store ℤ) : Prop where
  once : ∀ i j op, RelaySucceeded calls address mid pool op i →
    RelaySucceeded calls address mid pool op j → i = j
  /-- The key leaves after the KE2, and nothing happened to the session in between. -/
  preceded : ∀ i, RelaySucceeded calls address mid pool .responderFinish i →
    ∃ l l', [l, l'].Sublist later ∧ l'.call = i ∧ RelayCommits P calls address .generateKe2 l ∧
      RelayCommits P calls address .responderFinish l' ∧
      l.after.data.relayStates address = l'.before.data.relayStates address

/--
Calls from any number of threads, interleaved in any way: as long as a relay's session is
not destroyed, the calls on it take effect one after the other, each with the code that it
returns.  Up to the first that fails they are a run of the library's relay, and after it
nothing succeeds.  One KE2 and one key leave at most, the key after the KE2.
-/
theorem relay_session_serial (hstart : start.Quiet)
    (hpast : Run (Interleaves (callsOf P calls)) start past mid)
    (hlive : mid.shared.live ⟨.relayState, address⟩ = true)
    (hnew : mid.shared.data.relayStates address = .newAt createdAt)
    (hlater : Run (Interleaves (callsOf P calls)) mid later pool)
    (hkept : ∀ l ∈ later, l.event ≠ .freed ⟨.relayState, address⟩) :
    (∃ good bad, Serial Store.objects (fun i => (calls i).OnRelay address) ⟨.relayState, address⟩
        (· ≠ 0) (fun i => (calls i).WorksOnRelay P) mid later pool (good ++ bad) ∧
      RelayHistory P calls createdAt good bad (pool.shared.data.relayStates address)) ∧
    RelayOneShot P calls address mid later pool := by
  obtain ⟨log, serial⟩ := run_serial hstart (fun _ _ => callsOf_orderly hstart)
    (fun i => (calls i).keeps) (fun i hi => hi.serves) (fun i hi => Call.avoids_relay hi)
    hpast hlive hlater hkept
  have hgoverns := @relayLog_governs P ι calls address fun _ => 1
  have hrefusal : ¬ (0 : ℤ) ≠ 0 := fun h => h rfl
  refine ⟨?_, ⟨fun i j op hi hj => ?_, fun i hi => ?_⟩⟩
  · have hrun := serial.run
    have hobject : Store.object ⟨.relayState, address⟩ mid.shared.data =
        .relayState (.newAt createdAt) := congrArg Object.relayState hnew
    change Run _ (Store.object ⟨.relayState, address⟩ mid.shared.data) _ _ at hrun
    rw [hobject] at hrun
    obtain ⟨good, bad, state, rfl, hfinal, hist⟩ := exists_relayHistory hrun
    have hstate : pool.shared.data.relayStates address = state := Object.relayState.inj hfinal
    exact ⟨good, bad, serial, hstate ▸ hist⟩
  · exact serial.unique hrefusal hgoverns hi hj rfl
  · obtain ⟨event, entry, hevent, hentry, hsub, hop, hzero, hcall, hzero', hsame⟩ :=
      serial.preceded .generateKe2 hrefusal hgoverns rfl
        (fun op h => by cases op <;> first | rfl | cases h) nofun
        (fun h => by
          have hphase : (mid.shared.data.relayStates address).phase = .ke2Generated := h
          rw [hnew] at hphase
          cases hphase) hi
    obtain ⟨past, s, s', -, hlogged⟩ := serial.run.step_of_mem hevent
    obtain ⟨past', t, t', -, hlogged'⟩ := serial.run.step_of_mem hentry
    refine ⟨event.1, entry.1, hsub, hcall, relayCommits_of_logged hlogged hop hzero,
      relayCommits_of_logged hlogged' ?_ hzero', Object.relayState.inj hsame⟩
    rw [hcall]
    exact hi.operation

/-- Two threads answer one KE1 in one session, each with a relay of its own. -/
def sampleAnswers (second : Bool) : StatefulCall :=
  .relay (.generateKe2 { sampleKe2Args with relayHandle := if second then 2 else 1 }) none

def sampleKe2s : Bool → Call := fun second => .stateful (sampleAnswers second)

/-- Before the two calls. -/
def sampleAskedTwice (memory : Memory) : Pool Bool Kind Store ℤ :=
  ⟨fun _ => .pending, sampleAsked memory⟩

theorem sampleAskedTwice_quiet {memory : Memory} : (sampleAskedTwice memory).Quiet :=
  ⟨fun _ => rfl, fun _ _ => rfl, fun _ h => absurd rfl h, fun _ _ _ h => absurd rfl h⟩

theorem sampleKe2s_run : ∃ memory later pool code,
    Run (Interleaves (callsOf Sample.primitives sampleKe2s)) (sampleAskedTwice memory) later pool ∧
      (∀ l ∈ later, ∀ h, l.event ≠ .freed h) ∧
      [true, false, true].Sublist (later.map Label.call) ∧
      pool.status false = .returned 0 ∧ pool.status true = .returned code := by
  obtain ⟨memory, s, cf, rfl, -, hcreds, hlibrary⟩ := sampleKe2_library
  obtain ⟨next, hfirst⟩ := @relayGenerateKe2_program Sample.primitives
    { sampleKe2Args with relayHandle := 2 } none (by decide) (by decide)
  obtain ⟨later, pool, code, hrun, hkept, horder, hzero, hcode⟩ :=
    @exists_overtaken Sample.primitives sampleAnswers (sampleAskedTwice memory) _ _
      sampleAskedTwice_quiet (fun _ => rfl) hfirst
  refine ⟨memory, later, pool, code, hrun, hkept, horder, ?_, hcode⟩
  have hidle : Idle ((sampleAsked memory).lock ⟨.relay, 2⟩) ⟨.relay, sampleKe2Args.relayHandle⟩
      ⟨.relayState, sampleKe2Args.stateHandle⟩ :=
    ⟨by decide, by decide, (Shared.lock_inUse_of_ne (by decide)).trans rfl,
      (Shared.lock_inUse_of_ne (by decide)).trans rfl⟩
  have hleaves := @relayGenerateKe2_commits Sample.primitives (fun _ => 1)
    ((sampleAsked memory).lock ⟨.relay, 2⟩) sampleKe2Args .new cf (by decide) hidle
    (by rw [Shared.lock_data]; exact hcreds) (by rw [Shared.lock_data]; exact hlibrary)
  rw [hzero]
  exact congrArg Status.returned hleaves.code

/-- The second answer is refused, and the session is what the first one made of it. -/
theorem relay_session_serial_sample : ∃ memory later pool good bad code,
    [true, false, true].Sublist (later.map Label.call) ∧
      pool.status false = .returned 0 ∧ pool.status true = .returned code ∧ code ≠ 0 ∧
      Serial Store.objects (fun second => (sampleKe2s second).OnRelay 1) ⟨.relayState, 1⟩ (· ≠ 0)
        (fun second => (sampleKe2s second).WorksOnRelay Sample.primitives)
        (sampleAskedTwice memory) later pool (good ++ bad) ∧
      RelayHistory Sample.primitives sampleKe2s 0 good bad (pool.shared.data.relayStates 1) ∧
      RelayOneShot Sample.primitives sampleKe2s 1 (sampleAskedTwice memory) later pool := by
  obtain ⟨memory, later, pool, code, hrun, hkept, horder, hzero, hcode⟩ := sampleKe2s_run
  obtain ⟨⟨good, bad, serial, hist⟩, honce⟩ := @relay_session_serial _ _ _ 1 0 _ _ _ _ _ _
    sampleAskedTwice_quiet .nil rfl rfl hrun fun l hl => hkept l hl _
  refine ⟨memory, later, pool, good, bad, code, horder, hzero, hcode, ?_, serial, hist, honce⟩
  rintro rfl
  have hsame : false = true := honce.once false true .generateKe2
    ⟨rfl, rfl, rfl, hzero⟩ ⟨rfl, rfl, rfl, hcode⟩
  cases hsame

end Runs

end AuraOpaque.Ffi
