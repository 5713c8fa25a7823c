import AuraOpaque.Foundation.Ownership
import AuraOpaque.Foundation.Stages

/-!
# Calls on one object, one after the other

A call that serves a handle leaves with a refusal, or takes the flag of the
handle and does one step on the object behind it; that step settles the code it
returns.  However such calls are interleaved with each other and with calls that
leave the object alone, the object goes through a sequential run of their steps,
in the order in which they were made, and every call returns the code that its
step settled.
-/

namespace AuraOpaque.Foundation

variable {κ δ ρ ι γ ω : Type}

/-! ## Programs -/

/-- Two stores have the same objects behind some handles. -/
def Objects.AgreeOn (O : Objects κ δ γ ω) (held : List (Handle κ)) (data data' : δ) : Prop :=
  ∀ h ∈ held, O.object h data = O.object h data'

namespace Program

/-- One step on the data, which settles the code; it may rely on what is held. -/
def Decides (O : Objects κ δ γ ω) (R : ρ → δ → δ → Prop) (p : Program κ δ ρ ρ)
    (held : List (Handle κ)) (seen : δ) : Prop :=
  ∀ data, O.AgreeOn held data seen → Performs (fun code data' => R code data data') data p

/--
The program leaves with a refusal, or takes the flag and does its one step.  What
it has seen of the objects that it holds stays as it is until then.
-/
def Serves (O : Objects κ δ γ ω) (h : Handle κ) (refusal : ρ → Prop) (R : ρ → δ → δ → Prop) :
    Program κ δ ρ ρ → List (Handle κ) → δ → Prop
  | .ret code, _, _ => refusal code
  | .exit code, _, _ => refusal code
  | .acquire h' next, held, seen => ∀ data, O.AgreeOn held data seen →
      (h' = h ∧ (∃ code, refusal code ∧ next false = .exit code) ∧
        (next true).Decides O R (h :: held) data) ∨
      (h' ≠ h ∧ Serves O h refusal R (next true) (h' :: held) data ∧
        Serves O h refusal R (next false) held data)
  | .act step next, held, seen => ∀ data, O.AgreeOn held data seen →
      match (step data).1 with
      | .ok b => Serves O h refusal R (next b) held (step data).2
      | .error code => refusal code
  | _, _, _ => False

/-- The program never takes the flag under a guard. -/
def Avoids (h : Handle κ) : Program κ δ ρ ρ → Prop
  | .ret _ => True
  | .exit _ => True
  | .acquire h' next => h' ≠ h ∧ ∀ taken, Avoids h (next taken)
  | .release _ next => Avoids h next
  | .act step next => ∀ data b, (step data).1 = .ok b → Avoids h (next b)
  | .load _ next => ∀ address, Avoids h (next address)
  | .clear _ next => Avoids h next
  | .claim _ next => ∀ taken, Avoids h (next taken)
  | .publish _ _ next => Avoids h next
  | .dispose _ _ next => Avoids h next

section Rules

variable {O : Objects κ δ γ ω} {h : Handle κ} {refusal : ρ → Prop} {R : ρ → δ → δ → Prop}
  {p : Program κ δ ρ ρ} {held : List (Handle κ)} {seen seen' : δ} {code : ρ}

theorem Performs.and {good good' : ρ → δ → Prop} {data : δ} (hp : p.Performs good data)
    (hp' : p.Performs good' data) :
    p.Performs (fun code data' => good code data' ∧ good' code data') data := by
  cases p with
  | act step next =>
      rcases hstep : step data with ⟨code | b, data'⟩ <;>
        simp only [Performs, hstep] at hp hp' ⊢
      · exact ⟨hp, hp'⟩
      · obtain ⟨code, hcode, hgood⟩ := hp
        obtain ⟨code', hcode', hgood'⟩ := hp'
        obtain rfl : code = code' := Option.some.inj (hcode.symm.trans hcode')
        exact ⟨code, hcode, hgood, hgood'⟩
  | _ => cases hp

theorem Serves.refusal_of_code (hp : p.Serves O h refusal R held seen)
    (hcode : p.code = some code) : refusal code := by
  cases p with
  | ret c =>
      cases hcode
      exact hp
  | exit c =>
      cases hcode
      exact hp
  | _ => cases hcode

theorem Decides.code_eq_none (hp : p.Decides O R held seen) : p.code = none := by
  cases p with
  | act => rfl
  | _ => cases hp seen fun _ _ => rfl

theorem Serves.congr (hp : p.Serves O h refusal R held seen)
    (hagree : O.AgreeOn held seen' seen) : p.Serves O h refusal R held seen' := by
  cases p with
  | ret c => exact hp
  | exit c => exact hp
  | acquire h' next => exact fun data hdata => hp data fun g hg => (hdata g hg).trans (hagree g hg)
  | act step next => exact fun data hdata => hp data fun g hg => (hdata g hg).trans (hagree g hg)
  | _ => cases hp

theorem Decides.congr (hp : p.Decides O R held seen) (hagree : O.AgreeOn held seen' seen) :
    p.Decides O R held seen' :=
  fun data hdata => hp data fun g hg => (hdata g hg).trans (hagree g hg)

/-- What the program sees before it takes the flag is what it holds. -/
def Looks (O : Objects κ δ γ ω) (h : Handle κ) :
    Program κ δ ρ ρ → List (Handle κ) → Prop
  | .acquire h' next, held => h' ≠ h → Looks O h (next true) (h' :: held) ∧
      Looks O h (next false) held
  | .act step next, held => (∀ data data', O.AgreeOn held data data' →
      (step data).1 = (step data').1) ∧ ∀ b, Looks O h (next b) held
  | _, _ => True

theorem Admits.and {good good' : ρ → δ → Prop} {data : δ} {success : ρ}
    (hp : p.Admits good data h success) (hp' : p.Admits good' data h success) :
    p.Admits (fun code data' => good code data' ∧ good' code data') data h success := by
  induction p with
  | ret code => exact hp
  | exit code => exact hp
  | acquire h' next ih =>
      rcases hp with ⟨rfl, hexit, hperforms⟩ | ⟨hne, hnext⟩
      · rcases hp' with ⟨-, -, hperforms'⟩ | ⟨hne, -⟩
        · exact .inl ⟨rfl, hexit, hperforms.and hperforms'⟩
        · exact absurd rfl hne
      · rcases hp' with ⟨rfl, -⟩ | ⟨-, hnext'⟩
        · exact absurd rfl hne
        · exact .inr ⟨hne, fun taken => ih taken (hnext taken) (hnext' taken)⟩
  | act step next ih =>
      simp only [Admits] at hp hp' ⊢
      obtain ⟨hdata, hnext⟩ := hp
      obtain ⟨-, hnext'⟩ := hp'
      refine ⟨hdata, ?_⟩
      rcases hresult : (step data).1 with code | b <;> rw [hresult] at hnext hnext'
      · exact hnext
      · exact ih b hnext hnext'
  | _ => cases hp

/-- A call that is admitted whatever it finds serves the handle in any company. -/
theorem Admits.serves {success : ρ} {held : List (Handle κ)} {seen : δ}
    (hp : ∀ data, O.AgreeOn held data seen →
      p.Admits (fun code data' => R code data data') data h success)
    (hlooks : p.Looks O h held) : p.Serves O h (· ≠ success) R held seen := by
  induction p generalizing held seen with
  | ret code => exact hp seen fun _ _ => rfl
  | exit code => exact hp seen fun _ _ => rfl
  | acquire h' next ih =>
      intro data hdata
      have hagree : ∀ data' held', (∀ g ∈ held, g ∈ held') → O.AgreeOn held' data' data →
          O.AgreeOn held data' seen :=
        fun data' held' hsub hdata' g hg => (hdata' g (hsub g hg)).trans (hdata g hg)
      by_cases hh : h' = h
      · subst hh
        have hin : ∀ data', O.AgreeOn held data' seen →
            (∃ code, code ≠ success ∧ next false = .exit code) ∧
              Performs (fun code after => R code data' after) data' (next true) := by
          intro data' hdata'
          rcases hp data' hdata' with ⟨-, hexit, hperforms⟩ | ⟨hne, -⟩
          · exact ⟨hexit, hperforms⟩
          · exact absurd rfl hne
        refine .inl ⟨rfl, (hin data hdata).1, fun data' hdata' => ?_⟩
        exact (hin data' (hagree _ _ (fun _ => List.mem_cons_of_mem _) hdata')).2
      · have hout : ∀ data', O.AgreeOn held data' seen → ∀ taken,
            (next taken).Admits (fun code after => R code data' after) data' h success := by
          intro data' hdata'
          rcases hp data' hdata' with ⟨rfl, -⟩ | ⟨-, hnext⟩
          · exact absurd rfl hh
          · exact hnext
        refine .inr ⟨hh, ih true (fun data' hdata' => ?_) (hlooks hh).1,
          ih false (fun data' hdata' => ?_) (hlooks hh).2⟩
        · exact hout data' (hagree _ _ (fun _ => List.mem_cons_of_mem _) hdata') true
        · exact hout data' (hagree _ _ (fun _ hg => hg) hdata') false
  | act step next ih =>
      simp only [Admits] at hp
      intro data hdata
      obtain ⟨hsame, hnext⟩ := hp data hdata
      rcases hresult : (step data).1 with code | b <;> rw [hresult] at hnext
      · exact hnext
      · refine ih b (fun data' hdata' => ?_) (hlooks.2 b)
        rw [hsame] at hdata'
        obtain ⟨-, hnext'⟩ := hp data' fun g hg => (hdata' g hg).trans (hdata g hg)
        rw [hlooks.1 data' data hdata', hresult] at hnext'
        exact hnext'
  | _ => cases hp seen fun _ _ => rfl

end Rules

end Program

/-! ## Steps -/

section Steps

variable [DecidableEq κ] {O : Objects κ δ γ ω} {r r' : Running κ δ ρ} {s s' : Shared κ δ}
  {e : Event κ ρ} {h : Handle κ} {refusal : ρ → Prop} {R : ρ → δ → δ → Prop}

/-- A call that has not taken the flag of a live object leaves the object alone. -/
theorem Moves.object_kept (hmove : Moves r s e r' s') (hr : r.program.KeepsTo O r.guards)
    (hout : h ∉ r.guards) (hlive : s.live h = true) (he : e ≠ .freed h) :
    O.object h s'.data = O.object h s.data := by
  cases hmove with
  | @act β step next b guards claim s data hstep =>
      have hkept := hr.1.writes s.data h hout
      rwa [hstep] at hkept
  | @fail β step next code guards claim s data hstep =>
      have hkept := hr.1.writes s.data h hout
      rwa [hstep] at hkept
  | @publish slot create next guards claim s address hne hfresh =>
      refine hr.1 address s.data h ?_
      rintro rfl
      rw [hfresh] at hlive
      cases hlive
  | @dispose h' wipe next guards s =>
      refine hr.1 s.data h ?_
      rintro rfl
      exact he rfl
  | _ => rfl

theorem Moves.avoids (hmove : Moves r s e r' s') (hr : r.program.Avoids h)
    (hout : h ∉ r.guards) : r'.program.Avoids h ∧ h ∉ r'.guards := by
  cases hmove with
  | acquire => exact ⟨hr.2 true, by simpa [Ne.symm hr.1] using hout⟩
  | busy => exact ⟨hr.2 false, hout⟩
  | release => exact ⟨hr, fun hmem => hout (List.mem_of_mem_erase hmem)⟩
  | @act β step next b guards claim s data hstep => exact ⟨hr s.data b (by rw [hstep]), hout⟩
  | fail => exact ⟨trivial, hout⟩
  | load => exact ⟨hr _, hout⟩
  | clear => exact ⟨hr, hout⟩
  | claim => exact ⟨hr true, hout⟩
  | refused => exact ⟨hr false, hout⟩
  | publish => exact ⟨hr, hout⟩
  | dispose => exact ⟨hr, hout⟩
  | drop => exact ⟨hr, fun hmem => hout (List.mem_cons_of_mem _ hmem)⟩

/-- Where a call that serves the handle stands. -/
inductive Attends (O : Objects κ δ γ ω) (h : Handle κ) (refusal : ρ → Prop)
    (R : ρ → δ → δ → Prop) (r : Running κ δ ρ) (data : δ) : Prop where
  | before (hserves : r.program.Serves O h refusal R r.guards data) (hout : h ∉ r.guards)
  | inside (hdecides : r.program.Decides O R r.guards data) (hin : h ∈ r.guards)
  | settled (code : ρ) (hcode : r.program.code = some code)

/-- Before it takes the flag a call goes on to it, or leaves with a refusal. -/
theorem Moves.serves (hmove : Moves r s e r' s')
    (hr : r.program.Serves O h refusal R r.guards s.data) (hout : h ∉ r.guards) :
    (r'.program.Serves O h refusal R r'.guards s'.data ∧ h ∉ r'.guards) ∨
      (r'.program.Decides O R r'.guards s'.data ∧ h ∈ r'.guards) := by
  cases hmove with
  | acquire =>
      rcases hr _ fun _ _ => rfl with ⟨rfl, -, hdecides⟩ | ⟨hne, hnext, -⟩
      · exact .inr ⟨hdecides, List.mem_cons_self⟩
      · exact .inl ⟨hnext, by simpa [Ne.symm hne] using hout⟩
  | busy =>
      rcases hr _ fun _ _ => rfl with ⟨rfl, ⟨code, hrefusal, hexit⟩, -⟩ | ⟨hne, -, hnext⟩
      · rw [hexit]
        exact .inl ⟨hrefusal, hout⟩
      · exact .inl ⟨hnext, hout⟩
  | @act β step next b guards claim s data hstep =>
      have hnext := hr s.data fun _ _ => rfl
      rw [hstep] at hnext
      exact .inl ⟨hnext, hout⟩
  | @fail β step next code guards claim s data hstep =>
      have hnext := hr s.data fun _ _ => rfl
      rw [hstep] at hnext
      exact .inl ⟨hnext, hout⟩
  | @drop program code h' guards claim s hcode =>
      refine .inl ⟨?_, fun hmem => hout (List.mem_cons_of_mem _ hmem)⟩
      have hrefusal := hr.refusal_of_code hcode
      cases program with
      | ret c =>
          cases hcode
          exact hrefusal
      | exit c =>
          cases hcode
          exact hrefusal
      | _ => cases hcode
  | _ => cases hr

theorem Moves.decides (hmove : Moves r s e r' s') (hr : r.program.Decides O R r.guards s.data) :
    ∃ code, r'.program.code = some code ∧ R code s.data s'.data := by
  have hnext := hr s.data fun _ _ => rfl
  cases hmove with
  | @act β step next b guards claim s data hstep =>
      simp only [Program.Performs, hstep] at hnext
      exact hnext
  | @fail β step next code guards claim s data hstep =>
      simp only [Program.Performs, hstep] at hnext
      exact ⟨code, rfl, hnext⟩
  | drop hcode =>
      rw [hr.code_eq_none] at hcode
      cases hcode
  | _ => cases hnext

/-- A call whose code is settled gives back its flags and does nothing else. -/
theorem Moves.of_code {code : ρ} (hmove : Moves r s e r' s')
    (hcode : r.program.code = some code) :
    r'.program = r.program ∧ s'.data = s.data ∧ ∀ h ∈ r'.guards, h ∈ r.guards := by
  cases hmove with
  | drop => exact ⟨rfl, rfl, fun h hmem => List.mem_cons_of_mem _ hmem⟩
  | _ => cases hcode

theorem Moves.attends (hmove : Moves r s e r' s') (hr : Attends O h refusal R r s.data) :
    Attends O h refusal R r' s'.data := by
  cases hr with
  | before hserves hout =>
      rcases hmove.serves hserves hout with ⟨hserves', hout'⟩ | ⟨hdecides, hin⟩
      · exact .before hserves' hout'
      · exact .inside hdecides hin
  | inside hdecides hin =>
      obtain ⟨code, hcode, -⟩ := hmove.decides hdecides
      exact .settled code hcode
  | settled code hcode =>
      obtain ⟨hsame, -, -⟩ := hmove.of_code hcode
      exact .settled code (hsame ▸ hcode)

omit [DecidableEq κ] in
theorem Attends.congr {data data' : δ} (hr : Attends O h refusal R r data)
    (hagree : O.AgreeOn r.guards data' data) : Attends O h refusal R r data' := by
  cases hr with
  | before hserves hout => exact .before (hserves.congr hagree) hout
  | inside hdecides hin => exact .inside (hdecides.congr hagree) hin
  | settled code hcode => exact .settled code hcode

end Steps

/-! ## The log of one object -/

section Log

variable {O : Objects κ δ γ ω} {calls : Calls ι κ δ ρ} {serves : ι → Prop} {h : Handle κ}
  {refusal : ρ → Prop} {R : ι → ρ → δ → δ → Prop} {start mid pool pool' : Pool ι κ δ ρ}
  {past later : List (Label ι κ δ ρ)} {l : Label ι κ δ ρ} {log : List (Label ι κ δ ρ × ρ)}

/-- A step on the object, with the code that it settled. -/
structure Logged (O : Objects κ δ γ ω) (serves : ι → Prop) (h : Handle κ)
    (R : ι → ρ → δ → δ → Prop) (o : γ) (entry : Label ι κ δ ρ × ρ) (o' : γ) : Prop where
  serves : serves entry.1.call
  before : O.object h entry.1.before.data = o
  after : O.object h entry.1.after.data = o'
  done : R entry.1.call entry.2 entry.1.before.data entry.1.after.data

/-- The call returns the code, or has returned it. -/
def Status.Settled : Status κ δ ρ → ρ → Prop
  | .pending, _ => False
  | .running r, code => r.program.code = some code
  | .returned code', code => code' = code

/--
What the steps after `mid` made of the object: the steps on it, in their order, are a
run of the object, and each of them settled what its call returns.  A call that did no
step on the object can only be refused.
-/
structure Serial (O : Objects κ δ γ ω) (serves : ι → Prop) (h : Handle κ)
    (refusal : ρ → Prop) (R : ι → ρ → δ → δ → Prop) (mid : Pool ι κ δ ρ)
    (later : List (Label ι κ δ ρ)) (pool : Pool ι κ δ ρ) (log : List (Label ι κ δ ρ × ρ)) :
    Prop where
  live : pool.shared.live h = true
  steps : (log.map Prod.fst).Sublist later
  run : Run (Logged O serves h R) (O.object h mid.shared.data) log (O.object h pool.shared.data)
  settled : ∀ entry ∈ log, (pool.status entry.1.call).Settled entry.2
  others : ∀ i, serves i → mid.status i = .pending → (∀ entry ∈ log, entry.1.call ≠ i) →
    ∀ code, (pool.status i).Settled code → refusal code

/-- A call that came later is on the log with the code it returned, or it was refused. -/
theorem Serial.answered (serial : Serial O serves h refusal R mid later pool log) {i : ι}
    {code : ρ} (hi : serves i) (hpending : mid.status i = .pending)
    (hreturned : pool.status i = .returned code) :
    refusal code ∨ ∃ entry ∈ log, entry.1.call = i ∧ entry.2 = code := by
  have hsettled : (pool.status i).Settled code := by
    rw [hreturned]
    rfl
  by_cases hlogged : ∃ entry ∈ log, entry.1.call = i
  · obtain ⟨entry, hentry, rfl⟩ := hlogged
    have hcode := serial.settled entry hentry
    rw [hreturned] at hcode
    exact .inr ⟨entry, hentry, rfl, Eq.symm hcode⟩
  · exact .inl (serial.others i hi hpending
      (fun entry hentry hcall => hlogged ⟨entry, hentry, hcall⟩) code hsettled)

variable [DecidableEq ι] {i : ι} {r r' : Running κ δ ρ} {e : Event κ ρ} {s' : Shared κ δ}
  {status : Status κ δ ρ}

/-- A step that leaves the object alone, and settles only what was settled or a refusal. -/
theorem Serial.aside (serial : Serial O serves h refusal R mid later pool log)
    (hlive : s'.live h = true)
    (hobject : O.object h s'.data = O.object h pool.shared.data)
    (hsettled : ∀ code, (pool.status i).Settled code → status.Settled code)
    (hnew : serves i → ∀ code, status.Settled code →
      (pool.status i).Settled code ∨ refusal code) :
    Serial O serves h refusal R mid (later ++ [l]) (pool.set i status s') log where
  live := hlive
  steps := serial.steps.trans (List.sublist_append_left _ _)
  run := by
    change Run _ _ log (O.object h s'.data)
    rw [hobject]
    exact serial.run
  settled entry hentry := by
    have hbefore := serial.settled entry hentry
    rw [Pool.status_set]
    split
    · next hi =>
        rw [hi] at hbefore
        exact hsettled _ hbefore
    · exact hbefore
  others j hj hpending hnone code hcode := by
    rw [Pool.status_set] at hcode
    split at hcode
    · next hji =>
        subst hji
        rcases hnew hj code hcode with hold | hrefusal
        · exact serial.others j hj hpending hnone code hold
        · exact hrefusal
    · exact serial.others j hj hpending hnone code hcode

/-- A step on the object. -/
theorem Serial.work (serial : Serial O serves h refusal R mid later pool log) {code : ρ}
    (hi : serves i) (hopen : ∀ code, ¬ (pool.status i).Settled code) (hlive : s'.live h = true)
    (hdone : R i code pool.shared.data s'.data) (hsettled : status.Settled code) :
    Serial O serves h refusal R mid (later ++ [⟨i, e, pool.shared, s'⟩])
      (pool.set i status s') (log ++ [(⟨i, e, pool.shared, s'⟩, code)]) where
  live := hlive
  steps := by
    rw [List.map_append]
    exact serial.steps.append (List.Sublist.refl _)
  run := serial.run.snoc ⟨hi, rfl, rfl, hdone⟩
  settled entry hentry := by
    rw [Pool.status_set]
    rcases mem_snoc.mp hentry with hold | rfl
    · have hbefore := serial.settled entry hold
      split
      · next hcall =>
          rw [hcall] at hbefore
          exact absurd hbefore (hopen _)
      · exact hbefore
    · rw [if_pos rfl]
      exact hsettled
  others j hj hpending hnone code' hcode' := by
    have hji : j ≠ i := Ne.symm (hnone _ (mem_snoc.mpr (.inr rfl)))
    rw [Pool.status_set, if_neg hji] at hcode'
    exact serial.others j hj hpending (fun entry hentry => hnone entry (mem_snoc.mpr (.inl hentry)))
      code' hcode'

/-- A call that is under way makes a step. -/
theorem Serial.move [DecidableEq κ] (serial : Serial O serves h refusal R mid later pool log)
    (hrunning : pool.status i = .running r) (hmove : Moves r pool.shared e r' s')
    (hkeeps : r.program.KeepsTo O r.guards) (hout : ¬ serves i → h ∉ r.guards)
    (hattends : serves i → Attends O h refusal (R i) r pool.shared.data) (he : e ≠ .freed h) :
    ∃ log', Serial O serves h refusal R mid (later ++ [⟨i, e, pool.shared, s'⟩])
      (pool.set i (.running r') s') log' := by
  have hlive := hmove.live_kept serial.live he
  have hsettled : ∀ code, (pool.status i).Settled code →
      (Status.running r' : Status κ δ ρ).Settled code := by
    intro code hcode
    rw [hrunning] at hcode
    exact (congrArg Program.code (hmove.of_code hcode).1).trans hcode
  by_cases hi : serves i
  · cases hattends hi with
    | before hserves hout =>
        refine ⟨log, serial.aside hlive (hmove.object_kept hkeeps hout serial.live he) hsettled ?_⟩
        intro _ code hcode
        rcases hmove.serves hserves hout with ⟨hserves', -⟩ | ⟨hdecides, -⟩
        · exact .inr (hserves'.refusal_of_code hcode)
        · rw [Status.Settled, hdecides.code_eq_none] at hcode
          cases hcode
    | inside hdecides hin =>
        obtain ⟨code, hcode, hdone⟩ := hmove.decides hdecides
        refine ⟨_, serial.work hi (fun code' hsame => ?_) hlive hdone hcode⟩
        rw [hrunning, Status.Settled, hdecides.code_eq_none] at hsame
        cases hsame
    | settled code hcode =>
        obtain ⟨hprogram, hdata, -⟩ := hmove.of_code hcode
        refine ⟨log, serial.aside hlive (congrArg _ hdata) hsettled fun _ code' hcode' => .inl ?_⟩
        rw [hrunning]
        exact (congrArg Program.code hprogram).symm.trans hcode'
  · refine ⟨log, serial.aside hlive ?_ hsettled fun hserves => absurd hserves hi⟩
    exact hmove.object_kept hkeeps (hout hi) serial.live he

theorem Serial.begin (serial : Serial O serves h refusal R mid later pool log)
    (hpending : pool.status i = .pending)
    (hserves : serves i → ∀ data, (calls.program i).Serves O h refusal (R i) [] data) :
    Serial O serves h refusal R mid (later ++ [l])
      (pool.set i (.running ⟨calls.program i, [], .none⟩) pool.shared) log := by
  refine serial.aside serial.live rfl (fun code hcode => ?_) fun hi code hcode => ?_
  · rw [hpending] at hcode
    cases hcode
  · exact .inr ((hserves hi pool.shared.data).refusal_of_code hcode)

theorem Serial.finish (serial : Serial O serves h refusal R mid later pool log)
    {program : Program κ δ ρ ρ} {claim : Claim κ} {code : ρ}
    (hrunning : pool.status i = .running ⟨program, [], claim⟩)
    (hcode : program.code = some code) :
    Serial O serves h refusal R mid (later ++ [l]) (pool.set i (.returned code) pool.shared)
      log := by
  refine serial.aside serial.live rfl (fun code' hsame => ?_) fun _ code' hsame => .inl ?_
  · rw [hrunning] at hsame
    exact Option.some.inj (hcode.symm.trans hsame)
  · obtain rfl : code = code' := hsame
    rw [hrunning]
    exact hcode

variable [DecidableEq κ] {Q : ι → ρ → Ghost κ → Prop} {history : List (Label ι κ δ ρ)}

/-- What a call holds, the others leave as it is. -/
theorem Orderly.agreeOn (o : Orderly calls Q history pool) {j : ι} {g : Running κ δ ρ}
    (hkeeps : r.program.KeepsTo O r.guards) (hr : pool.status i = .running r)
    (hmove : Moves r pool.shared e r' s') (hg : pool.status j = .running g) (hne : j ≠ i) :
    O.AgreeOn g.guards s'.data pool.shared.data := by
  intro h hmem
  by_contra hchange
  have hheld : 0 < (pool.status j).holds h := by
    rw [hg]
    exact Running.holds_of_mem hmem
  rcases hmove.changes hkeeps hchange with hpos | ⟨hgone, -⟩
  · exact hne (o.exclusive j i h hheld (by rw [hr]; exact hpos))
  · rw [o.heldLive j h hheld] at hgone
    cases hgone

theorem run_attends (hstart : start.Quiet)
    (horderly : ∀ history pool, Run (Interleaves calls) start history pool →
      Orderly calls Q history pool)
    (hkeeps : ∀ i, (calls.program i).KeepsTo O [])
    (hserves : ∀ i, serves i → ∀ data, (calls.program i).Serves O h refusal (R i) [] data)
    (hrun : Run (Interleaves calls) start history pool) (j : ι) (hj : serves j)
    (g : Running κ δ ρ) (hg : pool.status j = .running g) :
    Attends O h refusal (R j) g pool.shared.data := by
  induction hrun generalizing g with
  | nil =>
      rw [hstart.pending j] at hg
      cases hg
  | @snoc history pool pool' l hrun hlast ih =>
      cases hlast with
      | @start i hpending hslot =>
          rcases Pool.running_set hg with ⟨rfl, rfl⟩ | ⟨-, hold⟩
          · exact .before (hserves j hj _) List.not_mem_nil
          · exact ih g hold
      | @finish i program claim code hrunning hcode =>
          rw [Pool.status_set] at hg
          split at hg
          · cases hg
          · exact ih g hg
      | @move i r e r' s' hrunning hmove =>
          rcases Pool.running_set hg with ⟨rfl, rfl⟩ | ⟨hne, hold⟩
          · exact hmove.attends (ih r hrunning)
          · have hkept := run_keepsTo hstart hkeeps hrun hrunning
            exact (ih g hold).congr
              ((horderly _ _ hrun).agreeOn hkept hrunning hmove hold hne)

/-- While the object is there, every interleaving is a sequential run on it. -/
theorem run_serial (hstart : start.Quiet)
    (horderly : ∀ history pool, Run (Interleaves calls) start history pool →
      Orderly calls Q history pool)
    (hkeeps : ∀ i, (calls.program i).KeepsTo O [])
    (hserves : ∀ i, serves i → ∀ data, (calls.program i).Serves O h refusal (R i) [] data)
    (havoids : ∀ i, ¬ serves i → (calls.program i).Avoids h)
    (hpast : Run (Interleaves calls) start past mid) (hlive : mid.shared.live h = true)
    (hlater : Run (Interleaves calls) mid later pool) (hfreed : ∀ l ∈ later, l.event ≠ .freed h) :
    ∃ log, Serial O serves h refusal R mid later pool log := by
  induction hlater with
  | nil =>
      refine ⟨[], hlive, .slnil, .nil, by simp, fun i _ hpending _ code hcode => ?_⟩
      rw [hpending] at hcode
      cases hcode
  | @snoc later pool pool' l hlater hlast ih =>
      obtain ⟨log, serial⟩ := ih fun l hl => hfreed l (List.mem_append_left _ hl)
      have hrun := hpast.append hlater
      cases hlast with
      | @start i hpending hslot => exact ⟨log, serial.begin hpending (hserves i)⟩
      | @finish i program claim code hrunning hcode => exact ⟨log, serial.finish hrunning hcode⟩
      | @move i r e r' s' hrunning hmove =>
          have hout : ¬ serves i → h ∉ r.guards := fun hi =>
            (run_running (I := fun i r => ¬ serves i → r.program.Avoids h ∧ h ∉ r.guards) hstart
              (fun j hj => ⟨havoids j hj, List.not_mem_nil⟩)
              (fun j r s e r' s' hr hmoves hj => hmoves.avoids (hr hj).1 (hr hj).2)
              hrun hrunning hi).2
          exact serial.move hrunning hmove (run_keepsTo hstart hkeeps hrun hrunning) hout
            (fun hi => run_attends hstart horderly hkeeps hserves hrun i hi r hrunning)
            (hfreed _ (mem_snoc.mpr (.inr rfl)))

end Log

/-! ## Objects that go through stages -/

section Stages

variable {O : Objects κ δ γ ω} {serves : ι → Prop} {h : Handle κ} {refusal : ρ → Prop}
  {R : ι → ρ → δ → δ → Prop} {mid pool : Pool ι κ δ ρ} {later : List (Label ι κ δ ρ)}
  {log : List (Label ι κ δ ρ × ρ)} {Op Ph : Type} [DecidableEq ρ]

/-- The stages of a session, for the entries of its log. -/
def Stages.onLog {ℓ : Type} (stages : Stages ℓ Op Ph) (operation : ι → Option Op) (success : ρ) :
    Stages (Label ι κ δ ρ × ρ) Op Ph :=
  { stages with
    operation := fun entry => operation entry.1.call
    admitted := fun _ => True
    ok := fun entry => decide (entry.2 = success) }

/-- A call for an operation that began after `mid` and returned the code of a success. -/
structure Pool.Succeeded (serves : ι → Prop) (operation : ι → Option Op) (success : ρ)
    (mid pool : Pool ι κ δ ρ) (op : Op) (i : ι) : Prop where
  serves : serves i
  operation : operation i = some op
  pending : mid.status i = .pending
  returned : pool.status i = .returned success

variable {ℓ : Type} {stages : Stages ℓ Op Ph} {operation : ι → Option Op} {success : ρ}
  {phase : γ → Ph} {op op' : Op} {i j : ι}

omit [DecidableEq ρ] in
theorem Serial.exists_entry (serial : Serial O serves h refusal R mid later pool log)
    (hrefusal : ¬ refusal success) (hi : Pool.Succeeded serves operation success mid pool op i) :
    ∃ entry ∈ log, entry.1.call = i ∧ entry.2 = success := by
  rcases serial.answered hi.serves hi.pending hi.returned with hrefused | hentry
  · exact absurd hrefused hrefusal
  · exact hentry

/-- Of all calls for operations that start in one phase, one succeeds at most. -/
theorem Serial.unique [DecidableEq Op] [DecidableEq Ph]
    (serial : Serial O serves h refusal R mid later pool log) (hrefusal : ¬ refusal success)
    (hgoverns : (stages.onLog operation success).Governs phase (Logged O serves h R))
    (hi : Pool.Succeeded serves operation success mid pool op i)
    (hj : Pool.Succeeded serves operation success mid pool op' j)
    (hsource : stages.source op = stages.source op') : i = j := by
  obtain ⟨entry, hentry, hcall, hcode⟩ := serial.exists_entry hrefusal hi
  obtain ⟨entry', hentry', hcall', hcode'⟩ := serial.exists_entry hrefusal hj
  have hfrom : (stages.onLog operation success).succeedsFrom (stages.source op) entry = true := by
    simp [Stages.succeedsFrom, Stages.onLog, hcall, hi.operation, hcode]
  have hfrom' : (stages.onLog operation success).succeedsFrom (stages.source op) entry' = true := by
    simp [Stages.succeedsFrom, Stages.onLog, hcall', hj.operation, hcode', hsource]
  have hsame := eq_of_countP_le_one (hgoverns.count_from_le_one (stages.source op) serial.run)
    hentry hentry' hfrom hfrom'
  rw [← hcall, ← hcall', hsame]

/-- A success comes right after the success of the operation that leads to it. -/
theorem Serial.preceded [DecidableEq Op]
    (serial : Serial O serves h refusal R mid later pool log) (earlier : Op)
    (hrefusal : ¬ refusal success)
    (hgoverns : (stages.onLog operation success).Governs phase (Logged O serves h R))
    (hsource : stages.source op = stages.target earlier)
    (htarget : ∀ op', stages.target op' = stages.target earlier → op' = earlier)
    (hterminal : stages.target earlier ≠ stages.terminal)
    (hstart : phase (O.object h mid.shared.data) ≠ stages.target earlier)
    (hi : Pool.Succeeded serves operation success mid pool op i) :
    ∃ event entry, event ∈ log ∧ entry ∈ log ∧ [event.1, entry.1].Sublist later ∧
      operation event.1.call = some earlier ∧ event.2 = success ∧
      entry.1.call = i ∧ entry.2 = success ∧
      O.object h event.1.after.data = O.object h entry.1.before.data := by
  obtain ⟨entry, hentry, hcall, hcode⟩ := serial.exists_entry hrefusal hi
  obtain ⟨before, after, rfl⟩ := List.append_of_mem hentry
  have hop : (stages.onLog operation success).succeeds op entry = true :=
    Stages.succeeds_iff.mpr ⟨(congrArg operation hcall).trans hi.operation, decide_eq_true hcode⟩
  obtain ⟨past, event, between, rfl, hevent, hquiet⟩ :=
    hgoverns.preceded hsource htarget hterminal hstart serial.run hop
  obtain rfl : between = [] := by
    rw [List.eq_nil_iff_forall_not_mem]
    exact fun l hl => hquiet l hl trivial
  obtain ⟨hcalled, hok⟩ := Stages.succeeds_iff.mp hevent
  have hpair : [event.1, entry.1].Sublist
      (((past ++ [event]) ++ entry :: after).map Prod.fst) := by
    rw [List.append_assoc, List.map_append]
    simp only [List.singleton_append, List.map_cons]
    exact List.sublist_append_of_sublist_right
      (List.Sublist.cons_cons _ (List.Sublist.cons_cons _ (List.nil_sublist _)))
  refine ⟨event, entry, by simp, hentry, hpair.trans serial.steps, hcalled, of_decide_eq_true hok,
    hcall, hcode, ?_⟩
  have hrun := serial.run
  rw [List.append_assoc] at hrun
  obtain ⟨o, -, hrest⟩ := hrun.split
  obtain ⟨o', _, hfirst, hsecond⟩ := hrest.split_at
  exact hfirst.step_of_single.after.trans hsecond.before.symm

end Stages

/-! ## A call that nobody interrupts -/

section Uninterrupted

variable [DecidableEq κ] [DecidableEq ι] {calls : Calls ι κ δ ρ} {pool : Pool ι κ δ ρ} {i : ι}
  {r : Running κ δ ρ} {s : Shared κ δ} {x y : Running κ δ ρ × Shared κ δ}
  {events : List (Event κ ρ)}

/-- Nothing but steps of the call, and none that disposes of an object. -/
def Uninterrupted (i : ι) (later : List (Label ι κ δ ρ)) : Prop :=
  ∀ l ∈ later, l.call = i ∧ ∀ h, l.event ≠ .freed h

omit [DecidableEq ι] in
theorem Moves.plain {e : Event κ ρ} {r' : Running κ δ ρ} {s' : Shared κ δ}
    (hmove : Moves r s e r' s') (hr : r.program.Plain s.live) :
    r'.program.Plain s'.live ∧ ∀ h, e ≠ .freed h := by
  cases hmove with
  | acquire => exact ⟨hr.2 true, nofun⟩
  | busy => exact ⟨hr.2 false, nofun⟩
  | act => exact ⟨hr _, nofun⟩
  | fail => exact ⟨trivial, nofun⟩
  | drop => exact ⟨hr, nofun⟩
  | _ => cases hr

theorem lift_alone (hrun : Run Alone x events y) (hplain : x.1.program.Plain x.2.live)
    (hr : pool.status i = .running x.1) (hs : pool.shared = x.2) :
    ∃ later, Run (Interleaves calls) pool later (pool.set i (.running y.1) y.2) ∧
      Uninterrupted i later ∧ y.1.program.Plain y.2.live := by
  induction hrun with
  | nil =>
      rw [Pool.set_self hr hs]
      exact ⟨[], .nil, fun l hl => absurd hl List.not_mem_nil, hplain⟩
  | @snoc events y z e hrun hlast ih =>
      obtain ⟨later, hlater, halone, hy⟩ := ih
      obtain ⟨hz, he⟩ := hlast.plain hy
      have hstep : Interleaves calls (pool.set i (.running y.1) y.2) ⟨i, e, y.2, z.2⟩
          ((pool.set i (.running y.1) y.2).set i (.running z.1) z.2) :=
        .move (by rw [Pool.status_set, if_pos rfl]) hlast
      rw [Pool.set_set] at hstep
      refine ⟨_, hlater.snoc hstep, fun l hl => ?_, hz⟩
      rcases mem_snoc.mp hl with hold | rfl
      · exact halone l hold
      · exact ⟨rfl, he⟩

/-- Left alone from here on, a call that is under way returns what it computes on its own. -/
theorem run_rest {p : Program κ δ ρ ρ} {guards : List (Handle κ)}
    (hrunning : pool.status i = .running ⟨p, guards, .none⟩) (hplain : p.Plain pool.shared.live)
    (fresh : Shared κ δ → ℕ) :
    ∃ later, Run (Interleaves calls) pool later
        (pool.set i (.returned (p.exec fresh guards [] pool.shared).code)
          (p.exec fresh guards [] pool.shared).shared) ∧
      Uninterrupted i later ∧ i ∈ later.map Label.call := by
  obtain ⟨events, q, hrun, hcode, -⟩ := hplain.exec_run fresh guards []
  obtain ⟨later, hlater, halone, -⟩ :=
    @lift_alone κ δ ρ ι _ _ calls _ i _ _ _ hrun hplain hrunning rfl
  set ending := p.exec fresh guards [] pool.shared
  have hfinish : Interleaves calls (pool.set i (.running ⟨q, [], .none⟩) ending.shared)
      ⟨i, .returned ending.code, ending.shared, ending.shared⟩
      ((pool.set i (.running ⟨q, [], .none⟩) ending.shared).set i (.returned ending.code)
        ending.shared) :=
    .finish (by rw [Pool.status_set, if_pos rfl]) hcode
  rw [Pool.set_set] at hfinish
  refine ⟨_, hlater.snoc hfinish, fun l hl => ?_, by simp⟩
  rcases mem_snoc.mp hl with hold | rfl
  · exact halone l hold
  · exact ⟨rfl, nofun⟩

/-- Started and left alone, a call returns what it computes on its own. -/
theorem run_uninterrupted (hpending : pool.status i = .pending) (hslot : calls.slot i = none)
    (hplain : (calls.program i).Plain pool.shared.live) (fresh : Shared κ δ → ℕ) :
    ∃ later, Run (Interleaves calls) pool later
        (pool.set i (.returned ((calls.program i).exec fresh [] [] pool.shared).code)
          ((calls.program i).exec fresh [] [] pool.shared).shared) ∧
      Uninterrupted i later ∧ i ∈ later.map Label.call := by
  have hstart : Interleaves calls pool ⟨i, .started, pool.shared, pool.shared⟩
      (pool.set i (.running ⟨calls.program i, [], .none⟩) pool.shared) :=
    .start hpending fun j r k _ hk => by rw [hslot] at hk; cases hk
  have hrunning : (pool.set i (.running ⟨calls.program i, [], .none⟩) pool.shared).status i =
      .running ⟨calls.program i, [], .none⟩ := by
    rw [Pool.status_set, if_pos rfl]
  obtain ⟨later, hlater, halone, -⟩ :=
    @run_rest κ δ ρ ι _ _ calls _ i _ _ hrunning hplain fresh
  rw [Pool.set_set] at hlater
  refine ⟨_, hlater.cons hstart, fun l hl => ?_, by simp⟩
  rcases List.mem_cons.mp hl with rfl | hmem
  · exact ⟨rfl, nofun⟩
  · exact halone l hmem

/--
One call has taken the flag that it needs first when another one comes, is made and returns;
then it goes on.
-/
theorem run_overtaken {j : ι} {h : Handle κ} {next : Bool → Program κ δ ρ ρ} (hne : i ≠ j)
    (hpending : ∀ k, pool.status k = .pending) (hslot : ∀ k, calls.slot k = none)
    (hplain : ∀ k, (calls.program k).Plain pool.shared.live)
    (hfirst : calls.program j = .acquire h next) (hfree : pool.shared.inUse h = false)
    (fresh : Shared κ δ → ℕ) :
    ∃ later pool', Run (Interleaves calls) pool later pool' ∧
      (∀ l ∈ later, ∀ h, l.event ≠ .freed h) ∧ [j, i, j].Sublist (later.map Label.call) ∧
      pool'.status i =
        .returned ((calls.program i).exec fresh [] [] (pool.shared.lock h)).code ∧
      ∃ code, pool'.status j = .returned code := by
  obtain ⟨hlive, hnext⟩ := hfirst ▸ hplain j
  have hstart : Interleaves calls pool ⟨j, .started, pool.shared, pool.shared⟩
      (pool.set j (.running ⟨calls.program j, [], .none⟩) pool.shared) :=
    .start (hpending j) fun _ _ k _ hk => by rw [hslot] at hk; cases hk
  have htakes : Interleaves calls (pool.set j (.running ⟨calls.program j, [], .none⟩) pool.shared)
      ⟨j, .acquired h, pool.shared, pool.shared.lock h⟩
      ((pool.set j (.running ⟨calls.program j, [], .none⟩) pool.shared).set j
        (.running ⟨next true, [h], .none⟩) (pool.shared.lock h)) := by
    rw [hfirst]
    exact .move (by rw [Pool.status_set, if_pos rfl]) (.acquire hlive hfree)
  rw [Pool.set_set] at htakes
  set begun := pool.set j (.running ⟨next true, [h], .none⟩) (pool.shared.lock h)
  have hother : begun.status i = .pending := by
    rw [Pool.status_set, if_neg hne, hpending]
  obtain ⟨whole, hwhole, hwholeAlone, hwholeCall⟩ :=
    @run_uninterrupted κ δ ρ ι _ _ calls begun i hother (hslot i) (hplain i) fresh
  set ending := (calls.program i).exec fresh [] [] begun.shared
  have hwaits : (begun.set i (.returned ending.code) ending.shared).status j =
      .running ⟨next true, [h], .none⟩ := by
    rw [Pool.status_set, if_neg hne.symm, Pool.status_set, if_pos rfl]
  have hrest : (next true).Plain ending.shared.live := by
    have hsame : ending.shared.live = pool.shared.live :=
      (hplain i).exec_live fresh [] [] rfl
    rw [hsame]
    exact hnext true
  obtain ⟨rest, hrestRun, hrestAlone, hrestCall⟩ :=
    @run_rest κ δ ρ ι _ _ calls _ j _ _ hwaits hrest fresh
  refine ⟨_, _, (((Run.single hstart).snoc htakes).append hwhole).append hrestRun,
    fun l hl => ?_, ?_, ?_, _, by rw [Pool.status_set, if_pos rfl]⟩
  · rcases List.mem_append.mp hl with hold | hmem
    · rcases List.mem_append.mp hold with hfirst | hmem
      · rcases mem_snoc.mp hfirst with hsingle | rfl
        · obtain rfl := List.mem_singleton.mp hsingle
          exact nofun
        · exact nofun
      · exact (hwholeAlone l hmem).2
    · exact (hrestAlone l hmem).2
  · simp only [List.map_append]
    exact ((List.singleton_sublist.mpr (by simp)).append
      (List.singleton_sublist.mpr hwholeCall)).append (List.singleton_sublist.mpr hrestCall)
  · rw [Pool.status_set, if_neg hne, Pool.status_set, if_pos rfl]
    rfl

end Uninterrupted

end AuraOpaque.Foundation
