import AuraOpaque.Swift.Library

/-!
# Jobs abide

Every job of the two classes takes the lock of the agent before that of the state,
calls the C interface with pointers that it has read under their locks, once at most,
and ends with a result that says what it did.
-/

namespace AuraOpaque.Swift

open AuraOpaque.Foundation
open AuraOpaque.Core (Primitives)
open AuraOpaque.Ffi (AgentCall AgentStateHandle StatefulCall Strike null)

/-! ## Results -/

/-- The first check of its arguments that a method fails. -/
def Method.rejection : Method → Option OpaqueError
  | createRegistrationRequest password _ =>
      if password.isEmpty then some (.invalidInput "Password cannot be empty") else none
  | finalizeRegistration response _ =>
      if response.count ≠ Constants.registrationResponseLength then
        some (.invalidInput s!"Response must be {Constants.registrationResponseLength} bytes")
      else none
  | generateKE1 password accountId _ =>
      if password.isEmpty then some (.invalidInput "Password cannot be empty")
      else if accountId.isEmpty then
        some (.invalidInput "Account identifier cannot be empty")
      else if accountId.count > Constants.maxAccountIdLength then
        some (.invalidInput
          s!"Account identifier must be at most {Constants.maxAccountIdLength} bytes")
      else none
  | generateKE3 ke2 _ =>
      if ke2.count ≠ Constants.ke2Length then
        some (.invalidInput s!"KE2 must be {Constants.ke2Length} bytes")
      else none
  | finish _ _ => none

/-- The lengths of the messages and keys that a method returns. -/
def Method.lengths : Method → List ℕ
  | createRegistrationRequest _ _ => [33]
  | finalizeRegistration _ _ => [201]
  | generateKE1 _ _ _ => [1273]
  | generateKE3 _ _ => [65]
  | finish _ _ => [64, 32]

def Method.codes : Method → List ℤ
  | createRegistrationRequest _ _ => [0, -1, -2, -5, -99]
  | finalizeRegistration _ _ => [0, -1, -2, -5, -6, -10, -99]
  | generateKE1 _ _ _ => [0, -1, -2, -5, -99]
  | generateKE3 _ _ => [0, -1, -2, -5, -6, -10, -99]
  | finish _ _ => [0, -1, -5, -99]

namespace Job

def rejection : Job → Option OpaqueError
  | initAgent _ initialized key _ =>
      if initialized = false then some .notInitialized
      else if key.count ≠ Constants.publicKeyLength then
        some (.invalidInput s!"Relay public key must be {Constants.publicKeyLength} bytes")
      else none
  | method m _ _ _ => m.rejection
  | _ => none

def lengths : Job → List ℕ
  | method m _ _ _ => m.lengths
  | _ => []

/-- The objects that a job is called on. -/
def objects : Job → List Instance
  | method _ agent state _ => [.agent agent, .state state]
  | deinitAgent agent => [.agent agent]
  | dispose state => [.state state]
  | _ => []

/-- The result on an object that has been disposed of already. -/
def ofDisposed : Job → Result
  | method _ _ _ _ => .error .invalidState
  | _ => .ok []

/-- The codes of the native call that a job makes. -/
def codes : Job → List ℤ
  | initAgent _ _ _ _ => [0, -1, -6, -99]
  | createState _ _ => [0, -1, -99]
  | method m _ _ _ => m.codes
  | deinitAgent _ => [0]
  | dispose _ => [0]

/-- How a job can end, with what it knows of what it did. -/
inductive Reports (job : Job) : Result → Grip Instance ℤ → Prop where
  | rejected {error : OpaqueError} {g : Grip Instance ℤ} (hrejection : job.rejection = some error)
      (hcode : g.code = none) : Reports job (.error error) g
  | disposed {o : Instance} {g : Grip Instance ℤ} (haccepted : job.rejection = none)
      (ho : o ∈ job.objects) (hmissing : g.missing = some o) (hcode : g.code = none) :
      Reports job job.ofDisposed g
  | failed {code : ℤ} {g : Grip Instance ℤ} (haccepted : job.rejection = none)
      (hcode : g.code = some code) (hmem : code ∈ job.codes) (hne : code ≠ 0) :
      Reports job (.error (.fromCode code)) g
  | done {bytes : List (List UInt8)} {g : Grip Instance ℤ} (haccepted : job.rejection = none)
      (hcode : g.code = some 0) (hlengths : bytes.map List.length = job.lengths) :
      Reports job (.ok bytes) g

end Job

/-! ## Statements -/

section Statements

variable {P : Primitives} {job : Job} {g : Grip Instance ℤ}

theorem abides_guardElse {p : Prop} [Decidable p] {error : OpaqueError} {next : Action Result}
    (hheld : g.held = []) (hstake : g.stake = .none) (hcode : g.code = none)
    (hrejection : ¬ p → job.rejection = some error)
    (hnext : p → next.Abides (library P) job.Reports g) :
    (guardElse p error next).Abides (library P) job.Reports g := by
  unfold guardElse
  split
  · next hp => exact hnext hp
  · next hp => exact ⟨hheld, hstake, .rejected (hrejection hp) hcode⟩

/-- An initializer after its call: it keeps the pointer, or there is none. -/
theorem abides_adopt {o : Instance} {code : ℤ} (haccepted : job.rejection = none)
    (hcodes : code ∈ job.codes) (hlengths : job.lengths = []) (hheld : g.held = [])
    (hcode : g.code = some code) (hborn : code = 0 → g.stake = .born o)
    (hnone : code ≠ 0 → g.stake = .none) :
    (adopt o code).Abides (library P) job.Reports g := by
  unfold adopt guardElse
  split
  · next hzero =>
      refine ⟨hborn hzero, fun address hne => ?_⟩
      dsimp only
      rw [if_pos hne]
      exact ⟨rfl, hheld, rfl, .done haccepted (hcode.trans (congrArg some hzero)) hlengths.symm⟩
  · next hfailed => exact ⟨hheld, hnone hfailed, .failed haccepted hcode hcodes hfailed⟩

/-- The pointer is taken out under the lock, and given back afterwards. -/
theorem abides_relinquish {o : Instance} {destroy : Native} (haccepted : job.rejection = none)
    (ho : o ∈ job.objects) (hgone : job.ofDisposed = .ok []) (hlengths : job.lengths = [])
    (heffect : destroy.effect = .destroys o) (hcodes : destroy.codes = [0]) (href : o ∈ g.refs)
    (hheld : g.held = []) (hstake : g.stake = .none) (hcode : g.code = none) :
    (relinquish o destroy).Abides (library P) job.Reports g := by
  have hnone : ∀ o' ∈ g.held, (library P).rank o' < (library P).rank o := by simp [hheld]
  refine ⟨href, hnone, List.mem_cons_self, fun address => ?_⟩
  refine ⟨List.mem_cons_self, hstake, address, by simp [Grip.learn], List.mem_cons_self, ?_⟩
  simp only [Grip.learn, Grip.takeOut, Grip.drop, List.erase_cons_head]
  by_cases hnil : address = null
  · rw [if_neg (not_not.mpr hnil)]
    refine ⟨hheld, if_pos hnil, ?_⟩
    rw [← hgone]
    exact .disposed haccepted ho (if_pos hnil) hcode
  · rw [if_pos hnil]
    refine ⟨hcode, ?_, fun code hmem => ?_⟩
    · have hdoomed : (if address = 0 then Stake.none else Stake.doomed o) = .doomed o := if_neg hnil
      simpa [Grip.Entitled, library, heffect] using hdoomed
    · have hmem' : code ∈ destroy.codes := hmem
      obtain rfl : code = 0 := by simpa [hcodes] using hmem'
      refine ⟨hheld, ?_, .done haccepted rfl hlengths.symm⟩
      simp [Grip.after, library, heffect]

end Statements

/-! ## Methods -/

section Methods

variable {P : Primitives} {g : Grip Instance ℤ} {m : Method} {agent state : Variable}
  {strike : Strike AgentStateHandle}

/-- Both pointers have been read, under locks that are still there. -/
theorem entitled_onState (agent state : Variable) {call : AgentCall} {handle stateHandle : ℕ}
    (hcall : (StatefulCall.agent call strike).handles =
      [⟨.agent, handle⟩, ⟨.agentState, stateHandle⟩])
    (hagent : .agent agent ∈ g.held) (hstate : .state state ∈ g.held)
    (hhandle : g.known (.agent agent) = some handle)
    (hstateHandle : g.known (.state state) = some stateHandle)
    (hne : handle ≠ null) (hstateNe : stateHandle ≠ null) :
    g.Entitled (library P) (.onState call strike) := by
  simp only [Grip.Entitled, library, Native.effect, hcall, List.forall_mem_cons]
  refine ⟨⟨.agent agent, hagent, hhandle, hne, rfl⟩, ?_, by simp⟩
  exact ⟨.state state, hstate, hstateHandle, hstateNe, rfl⟩

/-- The pointers are read under both locks, and what the call leaves is read under the first. -/
theorem abides_onState {call : ℕ → ℕ → AgentCall} {outputs : List Data}
    (haccepted : m.rejection = none) (hlengths : outputs.map Data.count = m.lengths)
    (hcall : ∀ handle stateHandle, (StatefulCall.agent (call handle stateHandle) strike).handles =
      [⟨.agent, handle⟩, ⟨.agentState, stateHandle⟩])
    (hanswers : ∀ handle stateHandle, (call handle stateHandle).codes = m.codes)
    (hagent : .agent agent ∈ g.refs) (hstate : .state state ∈ g.refs) (hheld : g.held = [])
    (hstake : g.stake = .none) (hcode : g.code = none) :
    (onState agent state call strike outputs).Abides (library P)
      (Job.method m agent state strike).Reports g := by
  simp only [onState, withHandle, withLock, Routine.lock_bind, Routine.get_bind, Routine.done_bind]
  refine ⟨hagent, by simp [hheld], List.mem_cons_self, fun handle => ?_⟩
  dsimp only
  by_cases hnil : handle = null
  · rw [if_neg (not_not.mpr hnil)]
    refine ⟨List.mem_cons_self, ?_, hstake, ?_⟩
    · simp [Grip.learn, Grip.drop, hheld]
    · exact .disposed haccepted List.mem_cons_self (if_pos hnil) hcode
  · rw [if_pos hnil]
    refine ⟨hstate, ?_, List.mem_cons_self, fun stateHandle => ?_⟩
    · simp [Grip.learn, hheld, library, Instance.rank]
    dsimp only
    by_cases hstateNil : stateHandle = null
    · rw [if_neg (not_not.mpr hstateNil)]
      refine ⟨List.mem_cons_self, ?_, ?_, hstake, ?_⟩
      · simp [Grip.learn, Grip.drop, hheld]
      · simp [Grip.learn, Grip.drop, hheld]
      · exact .disposed haccepted (by simp [Job.objects]) (if_pos hstateNil) hcode
    · rw [if_pos hstateNil]
      refine ⟨hcode, ?_, fun code hmem => ?_⟩
      · refine entitled_onState agent state (hcall handle stateHandle) ?_ ?_ ?_ ?_ hnil hstateNil
        · simp [Grip.learn]
        · simp [Grip.learn]
        · simp [Grip.learn]
        · simp [Grip.learn]
      · have hcodes : code ∈ m.codes := hanswers handle stateHandle ▸ hmem
        by_cases hzero : code = 0
        · subst hzero
          refine ⟨List.mem_cons_self, fun store => ⟨?_, ?_, hstake, .done haccepted rfl ?_⟩⟩
          · simp [Grip.learn, Grip.drop, Grip.after]
          · simp [Grip.learn, Grip.drop, Grip.after, hheld]
          · rw [List.map_map]
            have hcounts : outputs.map Data.count = (Job.method m agent state strike).lengths :=
              hlengths
            simpa [Function.comp_def, Ffi.Memory.read] using hcounts
        · refine ⟨List.mem_cons_self, ?_⟩
          change Routine.Abides (library P) _ (Routine.bind (if code = 0 then _ else .done _) _) _
          rw [if_neg hzero]
          refine ⟨?_, ?_, hstake, .failed haccepted rfl hcodes hzero⟩
          · simp [Grip.learn, Grip.drop, Grip.after]
          · simp [Grip.learn, Grip.drop, Grip.after, hheld]

end Methods

/-! ## Jobs -/

section Jobs

variable {P : Primitives}

/-- The grip of a method on its two objects. -/
abbrev called (objects : List Instance) : Grip Instance ℤ :=
  ⟨objects, [], fun _ => none, .none, none, none⟩

theorem method_abides (m : Method) (agent state : Variable) (strike : Strike AgentStateHandle) :
    (m.body agent state strike).Abides (library P) (Job.method m agent state strike).Reports
      (called [.state state, .agent agent]) := by
  have hagent : Instance.agent agent ∈ [Instance.state state, .agent agent] := by simp
  have hstate : Instance.state state ∈ [Instance.state state, .agent agent] := by simp
  cases m with
  | createRegistrationRequest password request =>
      refine abides_guardElse rfl rfl rfl (fun h => ?_) fun h => ?_
      · simp_all [Job.rejection, Method.rejection]
      · refine abides_onState ?_ rfl (fun _ _ => rfl) (fun _ _ => rfl) hagent hstate rfl rfl rfl
        simp_all [Method.rejection]
  | finalizeRegistration response record =>
      refine abides_guardElse rfl rfl rfl (fun h => ?_) fun h => ?_
      · simp_all [Job.rejection, Method.rejection]
      · refine abides_onState ?_ rfl (fun _ _ => rfl) (fun _ _ => rfl) hagent hstate rfl rfl rfl
        simp_all [Method.rejection]
  | generateKE1 password accountId ke1 =>
      refine abides_guardElse rfl rfl rfl (fun h => ?_) fun hpassword => ?_
      · simp_all [Job.rejection, Method.rejection]
      refine abides_guardElse rfl rfl rfl (fun h => ?_) fun haccount => ?_
      · simp_all [Job.rejection, Method.rejection]
      refine abides_guardElse rfl rfl rfl (fun h => ?_) fun hlength => ?_
      · simp_all [Job.rejection, Method.rejection]
      · refine abides_onState ?_ rfl (fun _ _ => rfl) (fun _ _ => rfl) hagent hstate rfl rfl rfl
        simp_all [Method.rejection]
  | generateKE3 ke2 ke3 =>
      refine abides_guardElse rfl rfl rfl (fun h => ?_) fun h => ?_
      · simp_all [Job.rejection, Method.rejection]
      · refine abides_onState ?_ rfl (fun _ _ => rfl) (fun _ _ => rfl) hagent hstate rfl rfl rfl
        simp_all [Method.rejection]
  | finish sessionKey exportKey =>
      exact abides_onState rfl rfl (fun _ _ => rfl) (fun _ _ => rfl) hagent hstate rfl rfl rfl

/-- A constructor gets its object, or there is none. -/
theorem abides_create {job : Job} {o : Instance} {create : Native}
    (haccepted : job.rejection = none) (hcodes : job.codes = create.codes)
    (hlengths : job.lengths = []) (heffect : create.effect = .creates o) :
    (callNative create >>= adopt o).Abides (library P) job.Reports (.before (some o)) := by
  refine ⟨rfl, ?_, fun code hmem => ?_⟩
  · simp [Grip.Entitled, library, heffect, Grip.before]
  · have hmem' : code ∈ create.codes := hmem
    refine abides_adopt haccepted (hcodes ▸ hmem') hlengths rfl rfl (fun hzero => ?_) fun hne => ?_
    · simp [Grip.after, library, heffect, hzero]
    · simp [Grip.after, library, heffect, hne]

theorem Job.abides (job : Job) :
    job.routine.Abides (library P) job.Reports (.before job.creates) := by
  cases job with
  | initAgent agent initialized key panics =>
      unfold Job.routine Swift.initAgent
      by_cases haccepted : initialized = true ∧ key.count = Constants.publicKeyLength
      · obtain ⟨hinitialized, hcount⟩ := haccepted
        simp only [guardElse, hinitialized, hcount, Job.creates, and_self, if_true]
        exact abides_create (by simp [Job.rejection, hcount]) rfl rfl rfl
      · simp only [Job.creates, if_neg haccepted]
        refine abides_guardElse rfl rfl rfl (fun h => ?_) fun hinitialized => ?_
        · simp_all [Job.rejection]
        refine abides_guardElse rfl rfl rfl (fun h => ?_) fun hcount => ?_
        · simp_all [Job.rejection]
        · exact absurd ⟨hinitialized, hcount⟩ haccepted
  | createState state panics => exact abides_create rfl rfl rfl rfl
  | method m agent state strike => exact ⟨rfl, rfl, rfl, rfl, method_abides m agent state strike⟩
  | deinitAgent agent =>
      refine ⟨rfl, rfl, ?_⟩
      exact abides_relinquish rfl List.mem_cons_self rfl rfl rfl rfl List.mem_cons_self rfl rfl rfl
  | dispose state =>
      refine ⟨rfl, rfl, ?_⟩
      exact abides_relinquish rfl List.mem_cons_self rfl rfl rfl rfl List.mem_cons_self rfl rfl rfl

end Jobs

end AuraOpaque.Swift
