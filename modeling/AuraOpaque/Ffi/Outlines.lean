import AuraOpaque.Ffi.Contract
import AuraOpaque.Foundation.Custody

/-!
# Outlines of the entry points

What each entry point leaves behind, whatever other calls do meanwhile.
-/

namespace AuraOpaque.Ffi

open AuraOpaque.Foundation AuraOpaque.Core

/-! ## Commands with codes of failures -/

section Reports

variable {α β : Type}

def Reports (c : Cmd ℤ Store α) : Prop := ∀ store, Diagnosed (c.run store).1

namespace Reports

theorem bind {c : Cmd ℤ Store α} {k : α → Cmd ℤ Store β} (hc : Reports c)
    (hk : ∀ a, Reports (k a)) : Reports (c >>= k) := by
  intro store code h
  rcases hrun : (c >>= k).run store with ⟨o, store'⟩
  rw [hrun] at h
  cases h
  rcases Cmd.run_bind_eq_err_iff.mp hrun with hfail | ⟨a, store₁, -, hfail⟩
  · exact hc store code (by rw [hfail])
  · exact hk a store₁ code (by rw [hfail])

theorem lift {o : Outcome ℤ α} (h : Diagnosed o) : Reports (liftM o : Cmd ℤ Store α) :=
  fun _ => h

theorem cmdLift {o : Outcome ℤ α} (h : Diagnosed o) : Reports (Cmd.lift o : Cmd ℤ Store α) :=
  fun _ => h

theorem get : Reports (Cmd.get : Cmd ℤ Store Store) := fun store => .pure store

theorem modify (f : Store → Store) : Reports (Cmd.modify f : Cmd ℤ Store Unit) :=
  fun _ => .pure ()

theorem onWorld {code : OpaqueError → ℤ} (hcode : ∀ e, FailureCode (code e))
    (c : Cmd OpaqueError World α) : Reports (onWorld code c) :=
  fun _ => .withCode hcode _

theorem injectTestPanic (panics : Bool) : Reports (injectTestPanic panics) := by
  intro store code h
  cases panics <;> cases h

end Reports

end Reports

/-! ## Parts of an entry point -/

section Parts

variable {slot : Option (Slot Kind)} {Q : ℤ → Ghost Kind → Prop} {g : Ghost Kind} {β : Type}

/-- The call may leave here with any failure, whatever it has changed. -/
structure MayFail (Q : ℤ → Ghost Kind → Prop) (g : Ghost Kind) : Prop where
  unclaimed : ∀ h, g.claim ≠ .taken h
  fails : ∀ code touched, FailureCode code → Q code { g with touched }

theorem outline_rejectIf {p : Prop} [Decidable p] {error : OpaqueError} {next : Unit → Entry ℤ}
    (hg : MayFail Q g) (hnext : ¬ p → Outline slot Q (next ()) g) :
    Outline slot Q (Entry.rejectIf p error >>= next) g := by
  unfold Entry.rejectIf Program.exitIf
  split
  · exact ⟨hg.unclaimed, hg.fails _ _ (toCInt_failure error)⟩
  · next hp => exact hnext hp

theorem outline_work {c : Cmd ℤ Store β} {next : β → Entry ℤ} (hg : MayFail Q g)
    (hc : Reports c) (hnext : ∀ b touched, Outline slot Q (next b) { g with touched }) :
    Outline slot Q (Entry.work c >>= next) g := by
  unfold Entry.work
  simp only [Program.act_bind, Program.ret_bind, Outline]
  intro store
  have hcode := hc store
  rcases hrun : c.run store with ⟨b | code | _, store'⟩ <;> rw [hrun] at hcode
  · exact hnext b _
  · exact ⟨hg.unclaimed, hg.fails code _ (hcode code rfl)⟩
  · exact ⟨hg.unclaimed, hg.fails ffiPanic _ (by decide)⟩

/-- A step that changes nothing is not on record. -/
theorem touched_of_same (g : Ghost Kind) (store : Store) :
    { g with touched := g.touched ∨ store ≠ store } = g := by
  simp

theorem outline_check {c : Cmd ℤ Store β} {next : β → Entry ℤ} (hg : MayFail Q g)
    (hc : Reports c) (hsame : ∀ store, (c.run store).2 = store)
    (hnext : ∀ b, Outline slot Q (next b) g) : Outline slot Q (Entry.work c >>= next) g := by
  unfold Entry.work
  simp only [Program.act_bind, Program.ret_bind, Outline]
  intro store
  have hcode := hc store
  have hkept := hsame store
  rcases hrun : c.run store with ⟨b | code | _, store'⟩ <;> rw [hrun] at hcode hkept <;>
    dsimp only at hkept ⊢ <;> subst hkept
  · rw [touched_of_same]
    exact hnext b
  · exact ⟨hg.unclaimed, hg.fails code _ (hcode code rfl)⟩
  · exact ⟨hg.unclaimed, hg.fails ffiPanic _ (by decide)⟩

theorem outline_read {f : Store → β} {next : β → Entry ℤ}
    (hnext : ∀ b, Outline slot Q (next b) g) :
    Outline slot Q (.act (fun store => (.ok (f store), store)) next) g := by
  intro store
  dsimp only
  rw [touched_of_same]
  exact hnext (f store)

theorem outline_acquire {kind : Kind} {handle : ℕ} {next : Unit → Entry ℤ} (hg : MayFail Q g)
    (hbusy : Q ffiBusy g) (hnext : Outline slot Q (next ()) g) :
    Outline slot Q (acquire kind handle >>= next) g := by
  unfold acquire
  split
  · exact ⟨hg.unclaimed, hg.fails _ _ (toCInt_failure .invalidInput)⟩
  · intro taken
    cases taken
    · exact ⟨hg.unclaimed, hbusy⟩
    · exact hnext

theorem outline_acquireAgent {address : ℕ} {next : Agent.OpaqueInitiator → Entry ℤ}
    (hg : MayFail Q g) (hbusy : Q ffiBusy g) (hnext : ∀ b, Outline slot Q (next b) g) :
    Outline slot Q (acquireAgent address >>= next) g := by
  unfold acquireAgent
  rw [Program.bind_assoc]
  exact outline_acquire hg hbusy (outline_read hnext)

theorem outline_acquireRelay {address : ℕ} {next : Relay.OpaqueResponder → Entry ℤ}
    (hg : MayFail Q g) (hbusy : Q ffiBusy g) (hnext : ∀ b, Outline slot Q (next b) g) :
    Outline slot Q (acquireRelay address >>= next) g := by
  unfold acquireRelay
  rw [Program.bind_assoc]
  exact outline_acquire hg hbusy (outline_read hnext)

theorem outline_acquireRelayKeypair {address : ℕ} {next : RelayKeypairHandle → Entry ℤ}
    (hg : MayFail Q g) (hbusy : Q ffiBusy g) (hnext : ∀ b, Outline slot Q (next b) g) :
    Outline slot Q (acquireRelayKeypair address >>= next) g := by
  unfold acquireRelayKeypair
  rw [Program.bind_assoc]
  exact outline_acquire hg hbusy (outline_read hnext)

theorem runStateful_code {H : Type} (invalidate : H → H) (operation : Op Memory H Unit)
    (f : Frame Memory H) : (runStateful invalidate operation f).1 ≠ ffiBusy := by
  rcases runStateful_code_cases invalidate operation f with
    hcode | ⟨e, hcode⟩ | hcode <;> rw [hcode]
  · exact (by decide : (0 : ℤ) ≠ ffiBusy)
  · exact (toCInt_failure e).2
  · exact (by decide : ffiPanic ≠ ffiBusy)

theorem outline_onAgentState {handle : ℕ} {operation : Op Memory AgentStateHandle Unit}
    (hg : MayFail Q g) (hdone : ∀ code touched, code ≠ ffiBusy → Q code { g with touched }) :
    Outline slot Q (onAgentState handle operation) g :=
  fun _ => ⟨hg.unclaimed, hdone _ _ (runStateful_code _ _ _)⟩

theorem outline_onRelayState {handle : ℕ} {operation : Op Memory Relay.ResponderState Unit}
    (hg : MayFail Q g) (hdone : ∀ code touched, code ≠ ffiBusy → Q code { g with touched }) :
    Outline slot Q (onRelayState handle operation) g :=
  fun _ => ⟨hg.unclaimed, hdone _ _ (runStateful_code _ _ _)⟩

end Parts

/-! ## Calls that use handles -/

abbrev begins (content : ℕ) : Ghost Kind := ⟨content, .none, False, False⟩

def UsePost (code : ℤ) (g : Ghost Kind) : Prop :=
  g.claim = .none ∧ (g.touched → code ≠ ffiBusy)

section Uses

variable {P : Primitives} {slot : Option (Slot Kind)} {content : ℕ}

theorem mayFail_use {g : Ghost Kind} (hclaim : g.claim = .none) : MayFail UsePost g where
  unclaimed h := by rw [hclaim]; nofun
  fails _ _ hcode := ⟨hclaim, fun _ => hcode.2⟩

theorem busy_use : UsePost ffiBusy (begins content) := ⟨rfl, fun h => h.elim⟩

theorem agentCall_outline (call : AgentCall) (strike : Strike AgentStateHandle) :
    Outline slot UsePost (call.program P strike) (begins content) := by
  have hfail : MayFail UsePost (begins content) := mayFail_use rfl
  have hstate : ∀ handle operation,
      Outline slot UsePost (onAgentState handle operation) (begins content) :=
    fun _ _ => outline_onAgentState hfail fun _ _ hcode => ⟨rfl, fun _ => hcode⟩
  cases call with
  | createRegistrationRequest args =>
      refine outline_rejectIf hfail fun _ => outline_rejectIf hfail fun _ => ?_
      refine outline_acquireAgent hfail busy_use fun _ => ?_
      exact outline_acquire hfail busy_use (hstate _ _)
  | finalizeRegistration args =>
      refine outline_rejectIf hfail fun _ => outline_acquireAgent hfail busy_use fun _ => ?_
      exact outline_acquire hfail busy_use (hstate _ _)
  | generateKe1 args =>
      refine outline_rejectIf hfail fun _ => outline_rejectIf hfail fun _ => ?_
      refine outline_acquireAgent hfail busy_use fun _ => ?_
      exact outline_acquire hfail busy_use (hstate _ _)
  | generateKe3 args =>
      refine outline_rejectIf hfail fun _ => outline_acquireAgent hfail busy_use fun _ => ?_
      exact outline_acquire hfail busy_use (hstate _ _)
  | finish args =>
      refine outline_rejectIf hfail fun _ => outline_acquireAgent hfail busy_use fun _ => ?_
      exact outline_acquire hfail busy_use (hstate _ _)

theorem relayCall_outline (call : RelayCall) (strike : Strike Relay.ResponderState) :
    Outline slot UsePost (call.program P strike) (begins content) := by
  have hfail : MayFail UsePost (begins content) := mayFail_use rfl
  have hstate : ∀ handle operation,
      Outline slot UsePost (onRelayState handle operation) (begins content) :=
    fun _ _ => outline_onRelayState hfail fun _ _ hcode => ⟨rfl, fun _ => hcode⟩
  cases call with
  | generateKe2 args =>
      refine outline_rejectIf hfail fun _ => outline_rejectIf hfail fun _ => ?_
      refine outline_acquireRelay hfail busy_use fun _ => ?_
      refine outline_check hfail ?_ (fun _ => rfl) fun _ => ?_
      · exact .bind .get fun _ => .lift (decodeCredentials_diagnosed _ _ _)
      · exact outline_acquire hfail busy_use (hstate _ _)
  | finish args =>
      refine outline_rejectIf hfail fun _ => outline_acquireRelay hfail busy_use fun _ => ?_
      exact outline_acquire hfail busy_use (hstate _ _)

theorem keypairGetPublicKey_outline (args : RelayKeypairGetPublicKey) (panics : Bool) :
    Outline slot UsePost (opaqueRelayKeypairGetPublicKey args panics) (begins content) := by
  have hfail : MayFail UsePost (begins content) := mayFail_use rfl
  refine outline_rejectIf hfail fun _ => outline_acquireRelayKeypair hfail busy_use fun _ => ?_
  refine outline_work hfail (.bind (.injectTestPanic _) fun _ => .modify _) fun _ touched => ?_
  exact ⟨nofun, rfl, fun _ => by decide⟩

theorem createRegistrationResponse_outline (args : RelayCreateRegistrationResponse)
    (panics : Bool) :
    Outline slot UsePost (opaqueRelayCreateRegistrationResponse P args panics)
      (begins content) := by
  have hfail : MayFail UsePost (begins content) := mayFail_use rfl
  refine outline_rejectIf hfail fun _ => outline_acquireRelay hfail busy_use fun _ => ?_
  refine outline_work hfail ?_ fun _ touched => ⟨nofun, rfl, fun _ => by decide⟩
  refine .bind .get fun _ => .bind (.lift (.withCode toCInt_failure _)) fun _ => ?_
  exact .bind (.injectTestPanic _) fun _ => .modify _

theorem buildCredentials_outline (args : RelayBuildCredentials) (panics : Bool) :
    Outline slot UsePost (opaqueRelayBuildCredentials P args panics) (begins content) := by
  have hfail : MayFail UsePost (begins content) := mayFail_use rfl
  refine outline_rejectIf hfail fun _ => ?_
  refine outline_work hfail ?_ fun _ touched => ⟨nofun, rfl, fun _ => by decide⟩
  refine .bind .get fun _ => .bind (.lift (.withCode toCInt_failure _)) fun _ => ?_
  exact .bind (.injectTestPanic _) fun _ => .modify _

end Uses

/-! ## Constructors -/

def slotAt (kind : Kind) (address : ℕ) : Option (Slot Kind) :=
  if address = null then none else some ⟨kind, address⟩

/-- After a constructor: its slot holds a pointer exactly when it returned zero. -/
def CreatePost (slot : Option (Slot Kind)) (code : ℤ) (g : Ghost Kind) : Prop :=
  g.claim = .none ∧ (g.touched → code ≠ ffiBusy) ∧
    ((slot ≠ none ∧ g.content ≠ 0) ↔ code = 0)

section Creates

variable {P : Primitives} {content : ℕ}

theorem mayFail_create {slot : Option (Slot Kind)} {g : Ghost Kind} (hclaim : g.claim = .none)
    (hcontent : slot ≠ none → g.content = 0) : MayFail (CreatePost slot) g where
  unclaimed h := by rw [hclaim]; nofun
  fails _ _ hcode :=
    ⟨hclaim, fun _ => hcode.2, iff_of_false (fun h => h.2 (hcontent h.1)) hcode.1⟩

/-- What is left of a constructor once its slot has been cleared. -/
theorem outline_constructor {kind : Kind} {address : ℕ} {next : Unit → Entry ℤ}
    (hnext : address ≠ null → ∀ slot, slot = some ⟨kind, address⟩ →
      MayFail (CreatePost slot) ⟨0, .none, False, True⟩ →
      Outline slot (CreatePost slot) (next ()) ⟨0, .none, False, True⟩) :
    Outline (slotAt kind address) (CreatePost (slotAt kind address))
      (Entry.rejectIf (address = null) .invalidInput >>= fun _ =>
        .clear ⟨kind, address⟩ (.ret ()) >>= next) (begins content) := by
  by_cases hnull : address = null
  · have hslot : slotAt kind address = none := if_pos hnull
    refine outline_rejectIf (mayFail_create rfl fun h => absurd hslot h) fun h => ?_
    exact absurd hnull h
  · have hslot : slotAt kind address = some ⟨kind, address⟩ := if_neg hnull
    unfold Entry.rejectIf Program.exitIf
    rw [if_neg hnull]
    exact ⟨hslot, hnext hnull _ hslot (mayFail_create rfl fun _ => rfl)⟩

theorem outline_publish {slot : Slot Kind} {create : ℕ → Store → Store} {g : Ghost Kind}
    (hclaim : g.claim = .none) :
    Outline (some slot) (CreatePost (some slot))
      (.publish slot create (.ret ()) >>= fun _ => (pure 0 : Entry ℤ)) g := by
  refine ⟨rfl, fun address hne => ⟨fun h => ?_, hclaim, fun _ => by decide, ?_⟩⟩
  · show g.claim ≠ .taken h
    rw [hclaim]
    nofun
  · exact iff_of_true ⟨nofun, hne⟩ rfl

theorem agentCreate_outline (args : AgentCreate) (panics : Bool) :
    Outline (slotAt .agent args.handle) (CreatePost (slotAt .agent args.handle))
      (opaqueAgentCreate P args panics) (begins content) := by
  refine outline_constructor fun _ slot hslot hfail => ?_
  subst hslot
  refine outline_rejectIf hfail fun _ => outline_work hfail ?_ fun initiator touched => ?_
  · exact .bind .get fun _ => .lift (.withCode toCInt_failure _)
  · refine outline_work (mayFail_create rfl fun _ => rfl) (.injectTestPanic _) fun _ _ => ?_
    exact outline_publish rfl

theorem agentStateCreate_outline (address : ℕ) (panics : Bool) :
    Outline (slotAt .agentState address) (CreatePost (slotAt .agentState address))
      (opaqueAgentStateCreate address panics) (begins content) := by
  refine outline_constructor fun _ slot hslot hfail => ?_
  subst hslot
  refine outline_work hfail (.onWorld toCInt_failure _) fun _ _ => ?_
  refine outline_work (mayFail_create rfl fun _ => rfl) (.injectTestPanic _) fun _ _ => ?_
  exact outline_publish rfl

theorem relayStateCreate_outline (address : ℕ) (panics : Bool) :
    Outline (slotAt .relayState address) (CreatePost (slotAt .relayState address))
      (opaqueRelayStateCreate address panics) (begins content) := by
  refine outline_constructor fun _ slot hslot hfail => ?_
  subst hslot
  refine outline_work hfail (.onWorld toCInt_failure _) fun _ _ => ?_
  refine outline_work (mayFail_create rfl fun _ => rfl) (.injectTestPanic _) fun _ _ => ?_
  exact outline_publish rfl

theorem keypairGenerate_outline (address : ℕ) (panics : Bool) :
    Outline (slotAt .relayKeypair address) (CreatePost (slotAt .relayKeypair address))
      (opaqueRelayKeypairGenerate P address panics) (begins content) := by
  have hcrypto : ∀ _ : OpaqueError, FailureCode OpaqueError.cryptoError.toCInt :=
    fun _ => toCInt_failure _
  refine outline_constructor fun _ slot hslot hfail => ?_
  subst hslot
  refine outline_work hfail (.onWorld hcrypto _) fun _ _ => ?_
  refine outline_work (mayFail_create rfl fun _ => rfl) (.onWorld hcrypto _) fun _ _ => ?_
  refine outline_work (mayFail_create rfl fun _ => rfl) (.injectTestPanic _) fun _ _ => ?_
  exact outline_publish rfl

theorem publishResponder_outline {address : ℕ} {responder : Relay.OpaqueResponder}
    {panics : Bool} {g : Ghost Kind} (hclaim : g.claim = .none) (hcontent : g.content = 0) :
    Outline (some ⟨.relay, address⟩) (CreatePost (some ⟨.relay, address⟩))
      (publishResponder address responder panics) g := by
  refine outline_work (mayFail_create hclaim fun _ => hcontent) (.injectTestPanic _) fun _ _ => ?_
  exact outline_publish hclaim

theorem relayCreate_outline (args : RelayCreate) (panics : Bool) :
    Outline (slotAt .relay args.handle) (CreatePost (slotAt .relay args.handle))
      (opaqueRelayCreate P args panics) (begins content) := by
  have hinvalid : ∀ _ : OpaqueError, FailureCode OpaqueError.invalidInput.toCInt :=
    fun _ => toCInt_failure _
  refine outline_constructor fun _ slot hslot hfail => ?_
  subst hslot
  refine outline_acquireRelayKeypair hfail ⟨rfl, fun h => h.elim, ?_⟩ fun kh => ?_
  · exact iff_of_false (fun h => h.2 rfl) (by decide)
  · refine outline_work hfail (.lift (.withCode hinvalid _)) fun _ _ => ?_
    exact publishResponder_outline rfl rfl

theorem relayCreateWithKeys_outline (args : RelayCreateWithKeys) (panics : Bool) :
    Outline (slotAt .relay args.handle) (CreatePost (slotAt .relay args.handle))
      (opaqueRelayCreateWithKeys P args panics) (begins content) := by
  have hinvalid : ∀ _ : OpaqueError, FailureCode OpaqueError.invalidInput.toCInt :=
    fun _ => toCInt_failure _
  refine outline_constructor fun _ slot hslot hfail => ?_
  subst hslot
  refine outline_rejectIf hfail fun _ => outline_work hfail ?_ fun _ _ => ?_
  · refine .bind .get fun _ => .bind (.cmdLift (.copyFromSlice _ _)) fun _ => ?_
    exact .bind (.lift (.withCode hinvalid _)) fun _ => .lift (.withCode hinvalid _)
  · exact publishResponder_outline rfl rfl

end Creates

/-! ## Destructors -/

/--
After a destructor: zero leaves the slot empty, busy leaves everything as it was,
and an object is gone only with zero.
-/
def DestroyPost (code : ℤ) (g : Ghost Kind) : Prop :=
  (code = 0 → g.content = 0) ∧
    (code = ffiBusy → ¬ g.touched ∧ ¬ g.wrote ∧ g.claim = .none) ∧
    ∀ h, g.claim = .freed h → code = 0

theorem tryDestroy_outline {kind : Kind} {address : ℕ} {drop : ℕ → Store → Store} {content : ℕ} :
    Outline (slotAt kind address) DestroyPost (tryDestroy kind address drop)
      (begins content) := by
  have hunclaimed : ∀ h : Handle Kind, (begins content).claim ≠ .taken h := nofun
  have hbusy : DestroyPost ffiBusy (begins content) :=
    ⟨fun h => absurd h (by decide), fun _ => ⟨id, id, rfl⟩, nofun⟩
  unfold tryDestroy Entry.rejectIf Program.exitIf
  by_cases hnull : address = null
  · rw [if_pos hnull]
    exact ⟨hunclaimed, fun h => absurd h (by decide), fun h => absurd h (by decide), nofun⟩
  · have hslot : slotAt kind address = some ⟨kind, address⟩ := if_neg hnull
    rw [if_neg hnull]
    refine ⟨hslot, ?_⟩
    change Outline _ _ ((if content = null then .exit 0 else .ret ()) >>= _) _
    by_cases hempty : content = null
    · rw [if_pos hempty]
      exact ⟨hunclaimed, fun _ => hempty, fun h => absurd h (by decide), nofun⟩
    · rw [if_neg hempty]
      refine ⟨rfl, hempty, ⟨_, hslot, rfl⟩, ⟨hunclaimed, hbusy⟩, hslot, rfl, rfl, nofun, ?_⟩
      exact ⟨fun _ => rfl, fun h => absurd h (by decide), fun _ _ => rfl⟩

end AuraOpaque.Ffi
