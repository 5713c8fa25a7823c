import AuraOpaque.Foundation.Custody

/-!
# Objects belong to whoever holds their flag

Behind every handle there is an object.  A program keeps to its handles when no
step of it reads or writes an object whose flag it has not taken, apart from an
object that it creates or disposes of.  Calls of such programs may be interleaved
in any way: two of them never work on one object at the same time, an object
changes under its flag alone, and no call works on an object that is gone.
-/

namespace AuraOpaque.Foundation

variable {κ δ ρ ι γ ω : Type}

/-! ## Running calls -/

section Running

variable [DecidableEq κ] [DecidableEq ι] {calls : Calls ι κ δ ρ} {start pool : Pool ι κ δ ρ}
  {history : List (Label ι κ δ ρ)}

/-- What every call keeps by its own steps holds of all calls that are under way. -/
theorem run_running {I : ι → Running κ δ ρ → Prop} (hstart : start.Quiet)
    (hbegin : ∀ i, I i ⟨calls.program i, [], .none⟩)
    (hmove : ∀ i r s e r' s', I i r → Moves r s e r' s' → I i r')
    (hrun : Run (Interleaves calls) start history pool) {i : ι} {r : Running κ δ ρ}
    (hr : pool.status i = .running r) : I i r := by
  have hall : ∀ i r, pool.status i = .running r → I i r := by
    refine hrun.stateInvariant (I := fun pool => ∀ i r, pool.status i = .running r → I i r) ?_ ?_
    · intro i r hr
      rw [hstart.pending i] at hr
      cases hr
    · intro pool l pool' ih hstep j r' hr'
      cases hstep with
      | @start i hpending hslot =>
          rcases Pool.running_set hr' with ⟨rfl, rfl⟩ | ⟨-, hold⟩
          · exact hbegin j
          · exact ih j r' hold
      | @move i r e r₁ s' hrunning hmoves =>
          rcases Pool.running_set hr' with ⟨rfl, rfl⟩ | ⟨-, hold⟩
          · exact hmove j r _ e r₁ s' (ih j r hrunning) hmoves
          · exact ih j r' hold
      | @finish i program claim code hrunning hcode =>
          rw [Pool.status_set] at hr'
          split at hr'
          · cases hr'
          · exact ih j r' hr'
  exact hall i r hr

end Running

/-! ## Locality -/

/-- The objects behind the handles, and what is behind none of them. -/
structure Objects (κ δ γ ω : Type) where
  object : Handle κ → δ → γ
  rest : δ → ω

namespace Objects

variable {O : Objects κ δ γ ω} {β : Type} {step : δ → Except ρ β × δ} {held : List (Handle κ)}
  {h : Handle κ} {data data' : δ}

/-- The two stores differ in one object at most. -/
structure AgreeOff (O : Objects κ δ γ ω) (h : Handle κ) (data data' : δ) : Prop where
  others : ∀ h', h' ≠ h → O.object h' data = O.object h' data'
  rest : O.rest data = O.rest data'

/-- The step neither reads nor writes one object. -/
def Independent (O : Objects κ δ γ ω) (h : Handle κ) (step : δ → Except ρ β × δ) : Prop :=
  ∀ data data', O.AgreeOff h data data' →
    (step data).1 = (step data').1 ∧ O.AgreeOff h (step data).2 (step data').2 ∧
      O.object h (step data).2 = O.object h data

/-- The step writes no other objects than those behind some handles. -/
def Writes (O : Objects κ δ γ ω) (held : List (Handle κ)) (step : δ → Except ρ β × δ) : Prop :=
  ∀ data, ∀ h ∉ held, O.object h (step data).2 = O.object h data

/-- The two stores are the same to a call that holds some handles. -/
structure Agree (O : Objects κ δ γ ω) (held : List (Handle κ)) (data data' : δ) : Prop where
  held : ∀ h ∈ held, O.object h data = O.object h data'
  rest : O.rest data = O.rest data'

/-- The step reads no other objects than those behind some handles. -/
def Reads (O : Objects κ δ γ ω) (held : List (Handle κ)) (step : δ → Except ρ β × δ) : Prop :=
  ∀ data data', O.Agree held data data' →
    (step data).1 = (step data').1 ∧ O.Agree held (step data).2 (step data').2

structure Local (O : Objects κ δ γ ω) (held : List (Handle κ)) (step : δ → Except ρ β × δ) :
    Prop where
  writes : O.Writes held step
  reads : O.Reads held step

/-- Whoever holds everything that a step is local to does without the other objects. -/
theorem Local.independent (hstep : O.Local held step) (hh : h ∉ held) : O.Independent h step := by
  intro data data' hagree
  have hheld : O.Agree held data data' := by
    refine ⟨fun h' hmem => hagree.others h' ?_, hagree.rest⟩
    rintro rfl
    exact hh hmem
  obtain ⟨hresult, hafter⟩ := hstep.reads data data' hheld
  refine ⟨hresult, ⟨fun h' hne => ?_, hafter.rest⟩, hstep.writes data h hh⟩
  by_cases hmem : h' ∈ held
  · exact hafter.held h' hmem
  · rw [hstep.writes data h' hmem, hstep.writes data' h' hmem]
    exact hagree.others h' hne

end Objects

/-! ## Programs that keep to their handles -/

namespace Program

variable {O : Objects κ δ γ ω} [DecidableEq κ]

/--
Every step is local to the flags that are held at it.  A new object is written by
the step that publishes it, one that is disposed of by that step alone.
-/
def KeepsTo (O : Objects κ δ γ ω) : Program κ δ ρ ρ → List (Handle κ) → Prop
  | .ret _, _ => True
  | .exit _, _ => True
  | .acquire h next, held => KeepsTo O (next true) (h :: held) ∧ KeepsTo O (next false) held
  | .release h next, held => KeepsTo O next (held.erase h)
  | .act step next, held => O.Local held step ∧ ∀ b, KeepsTo O (next b) held
  | .load _ next, held => ∀ address, KeepsTo O (next address) held
  | .clear _ next, held => KeepsTo O next held
  | .claim _ next, held => ∀ taken, KeepsTo O (next taken) held
  | .publish slot create next, held =>
      (∀ address data, ∀ h, h ≠ ⟨slot.kind, address⟩ →
        O.object h (create address data) = O.object h data) ∧ KeepsTo O next held
  | .dispose h wipe next, held =>
      (∀ data, ∀ h', h' ≠ h → O.object h' (wipe data) = O.object h' data) ∧ KeepsTo O next held

/-- The next step reads or writes the object, which is there before the step. -/
def Accesses (O : Objects κ δ γ ω) (h : Handle κ) : Program κ δ ρ ρ → Prop
  | .act step _ => ¬ O.Independent h step
  | .dispose h' _ _ => h' = h
  | _ => False

theorem KeepsTo.of_code {p : Program κ δ ρ ρ} {code : ρ} (hcode : p.code = some code)
    (held : List (Handle κ)) : p.KeepsTo O held := by
  cases p with
  | ret c => trivial
  | exit c => trivial
  | _ => cases hcode

end Program

section Steps

variable [DecidableEq κ] {O : Objects κ δ γ ω} {r r' : Running κ δ ρ} {s s' : Shared κ δ}
  {e : Event κ ρ} {h : Handle κ}

theorem Moves.keepsTo (hmove : Moves r s e r' s') (hr : r.program.KeepsTo O r.guards) :
    r'.program.KeepsTo O r'.guards := by
  cases hmove with
  | acquire => exact hr.1
  | busy => exact hr.2
  | release => exact hr
  | act => exact hr.2 _
  | fail => trivial
  | load => exact hr _
  | clear => exact hr
  | claim => exact hr true
  | refused => exact hr false
  | publish => exact hr.2
  | dispose => exact hr.2
  | drop hcode => exact .of_code hcode _

theorem Moves.live_kept (hmove : Moves r s e r' s') (hlive : s.live h = true)
    (he : e ≠ .freed h) : s'.live h = true := by
  cases hmove with
  | @publish slot create next guards claim s address hne hfresh =>
      by_cases hh : h = ⟨slot.kind, address⟩
      · subst hh
        exact Shared.publish_live_self
      · exact (Shared.publish_live_of_ne hh).trans hlive
  | @dispose h' wipe next guards s =>
      have hh : h ≠ h' := by
        rintro rfl
        exact he rfl
      exact (Shared.dispose_live_of_ne hh).trans hlive
  | _ => exact hlive

theorem Running.holds_of_mem (hmem : h ∈ r.guards) : 0 < r.holds h := by
  have hcount := List.count_pos_iff.mpr hmem
  unfold Running.holds
  omega

omit [DecidableEq κ] in
theorem Objects.Writes.mem {β : Type} {step : δ → Except ρ β × δ} {held : List (Handle κ)}
    {data : δ} (hstep : O.Writes held step)
    (hchange : O.object h (step data).2 ≠ O.object h data) : h ∈ held := by
  by_contra hout
  exact hchange (hstep data h hout)

/-- What the next step works on, the call holds: an object of its own or one to dispose of. -/
theorem Program.Accesses.holds (haccess : r.program.Accesses O h)
    (hr : r.program.KeepsTo O r.guards)
    (hclaim : ∀ h' wipe next, r.program = .dispose h' wipe next → r.claim = .taken h') :
    0 < r.holds h := by
  obtain ⟨program, guards, claim⟩ := r
  cases program with
  | act step next =>
      have hmem : h ∈ guards := by
        by_contra hout
        exact haccess (hr.1.independent hout)
      exact Running.holds_of_mem hmem
  | dispose h' wipe next =>
      obtain rfl : h' = h := haccess
      have htaken : claim = .taken h' := hclaim h' wipe next rfl
      simp [Running.holds, htaken]
  | _ => cases haccess

/-- An object that a step changes is held by the call, or it is new. -/
theorem Moves.changes (hmove : Moves r s e r' s') (hr : r.program.KeepsTo O r.guards)
    (hchange : O.object h s'.data ≠ O.object h s.data) :
    0 < r.holds h ∨ s.live h = false ∧ s'.live h = true := by
  cases hmove with
  | @act β step next b guards claim s data hstep =>
      have hdata : (step s.data).2 = data := by rw [hstep]
      exact .inl (Running.holds_of_mem (hr.1.writes.mem (hdata ▸ hchange)))
  | @fail β step next code guards claim s data hstep =>
      have hdata : (step s.data).2 = data := by rw [hstep]
      exact .inl (Running.holds_of_mem (hr.1.writes.mem (hdata ▸ hchange)))
  | @publish slot create next guards claim s address hne hfresh =>
      by_cases hh : h = ⟨slot.kind, address⟩
      · subst hh
        exact .inr ⟨hfresh, Shared.publish_live_self⟩
      · exact absurd (hr.1 address s.data h hh) hchange
  | @dispose h' wipe next guards s =>
      by_cases hh : h = h'
      · subst hh
        exact .inl (by simp [Running.holds])
      · exact absurd (hr.1 s.data h hh) hchange
  | _ => exact absurd rfl hchange

end Steps

/-! ## Runs -/

section Runs

variable [DecidableEq κ] [DecidableEq ι] {O : Objects κ δ γ ω} {calls : Calls ι κ δ ρ}
  {Q : ι → ρ → Ghost κ → Prop} {start pool pool' : Pool ι κ δ ρ}
  {history : List (Label ι κ δ ρ)} {l : Label ι κ δ ρ} {h : Handle κ}

/-- The next step of a call that is under way reads or writes the object. -/
def Pool.Accesses (pool : Pool ι κ δ ρ) (O : Objects κ δ γ ω) (i : ι) (h : Handle κ) : Prop :=
  ∃ r, pool.status i = .running r ∧ r.program.Accesses O h

/-- A call has the object to itself: it is there, and nobody else has its flag. -/
structure Pool.Owns (pool : Pool ι κ δ ρ) (i : ι) (h : Handle κ) : Prop where
  live : pool.shared.live h = true
  holds : pool.Holds i h
  alone : ∀ j, pool.Holds j h → j = i

theorem Orderly.owns (o : Orderly calls Q history pool) {i : ι} (hheld : pool.Holds i h) :
    pool.Owns i h where
  live := o.heldLive i h (Pool.holds_iff.mp hheld)
  holds := hheld
  alone j hj := o.exclusive j i h (Pool.holds_iff.mp hj) (Pool.holds_iff.mp hheld)

theorem run_keepsTo (hstart : start.Quiet) (hkeeps : ∀ i, (calls.program i).KeepsTo O [])
    (hrun : Run (Interleaves calls) start history pool) {i : ι} {r : Running κ δ ρ}
    (hr : pool.status i = .running r) : r.program.KeepsTo O r.guards :=
  run_running (I := fun _ r => r.program.KeepsTo O r.guards) hstart hkeeps
    (fun _ _ _ _ _ _ hr hmove => hmove.keepsTo hr) hrun hr

/-- No call is about to work on an object that it does not own. -/
theorem Orderly.access_owns (o : Orderly calls Q history pool) (hstart : start.Quiet)
    (hkeeps : ∀ i, (calls.program i).KeepsTo O [])
    (hrun : Run (Interleaves calls) start history pool) {i : ι}
    (haccess : pool.Accesses O i h) : pool.Owns i h := by
  obtain ⟨r, hr, haccess⟩ := haccess
  obtain ⟨g, hg⟩ := o.outlined i r hr
  refine o.owns ⟨r, hr, haccess.holds (run_keepsTo hstart hkeeps hrun hr) ?_⟩
  intro h' wipe next hprogram
  have houtline := hg.outline
  rw [hprogram] at houtline
  rw [← hg.fits.claim]
  exact houtline.1

/-- A step changes an object of the call that makes it, or one that it creates. -/
theorem Orderly.change_owns (o : Orderly calls Q history pool) (hstart : start.Quiet)
    (hkeeps : ∀ i, (calls.program i).KeepsTo O [])
    (hrun : Run (Interleaves calls) start history pool) (hstep : Interleaves calls pool l pool')
    (hchange : O.object h l.after.data ≠ O.object h l.before.data) :
    pool.Owns l.call h ∨ l.before.live h = false ∧ l.after.live h = true := by
  cases hstep with
  | start => exact absurd rfl hchange
  | finish => exact absurd rfl hchange
  | @move i r e r' s' hr hmove =>
      rcases hmove.changes (run_keepsTo hstart hkeeps hrun hr) hchange with hheld | hnew
      · exact .inl (o.owns ⟨r, hr, hheld⟩)
      · exact .inr hnew

end Runs

end AuraOpaque.Foundation
