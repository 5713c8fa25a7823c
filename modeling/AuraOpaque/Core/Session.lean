import AuraOpaque.Core.Environment

/-!
# Operations on a session with phases

Every protocol operation first checks its input and the phase, then works on
the session, and then moves it to its next phase.  The notions here say what
each part may do to the session, whatever the ending, and how the parts combine
into a statement about the whole operation.  The two sides instantiate them.
-/

namespace AuraOpaque.Core

open AuraOpaque.Foundation

variable {Out St Ph α β : Type}

/-! ## Parts that keep a property of the session -/

abbrev Keeps (J : St → Prop) (c : Op Out St α) : Prop :=
  Cmd.Preserves (fun f : Frame Out St => J f.state) c

namespace Keeps

variable {J : St → Prop}

theorem of_run {c : Op Out St α} {f f' : Frame Out St} {o : OpaqueResult α} (hc : Keeps J c)
    (hrun : c.run f = (o, f')) (hs : J f.state) : J f'.state := by
  have hkept := hc f hs
  rwa [hrun] at hkept

theorem bind {c : Op Out St α} {k : α → Op Out St β} (hc : Keeps J c)
    (hk : ∀ a, Keeps J (k a)) : Keeps J (c >>= k) :=
  Cmd.Preserves.bind hc hk

theorem pure (a : α) : Keeps J (Pure.pure a : Op Out St α) := Cmd.Preserves.pure a

theorem lift (o : OpaqueResult α) : Keeps J (liftM o : Op Out St α) := Cmd.Preserves.lift o

theorem cmdLift (o : OpaqueResult α) : Keeps J (Cmd.lift o : Op Out St α) :=
  fun _ hs => hs

theorem okOr (o : Option α) (e : OpaqueError) : Keeps J (Cmd.okOr o e : Op Out St α) :=
  fun _ hs => hs

theorem failIf {p : Prop} [Decidable p] (e : OpaqueError) :
    Keeps J (Cmd.failIf p e : Op Out St Unit) :=
  Cmd.Preserves.failIf e

theorem getState : Keeps J (Op.getState : Op Out St St) := fun _ hs => hs

theorem getOut : Keeps J (Op.getOut : Op Out St Out) := fun _ hs => hs

theorem onWorld (c : Cmd OpaqueError World α) : Keeps J (Op.onWorld c : Op Out St α) :=
  fun _ hs => hs

theorem modifyOut (g : Out → Out) : Keeps J (Op.modifyOut g : Op Out St Unit) := fun _ hs => hs

theorem modifyState {g : St → St} (h : ∀ s, J s → J (g s)) :
    Keeps J (Op.modifyState g : Op Out St Unit) :=
  fun f hs => h f.state hs

theorem abortIf {p : Prop} [Decidable p] {g : St → St} (e : OpaqueError) (h : ∀ s, J s → J (g s)) :
    Keeps J (Cmd.abortIf p (fun f => { f with state := g f.state }) e : Op Out St Unit) := by
  intro f hs
  by_cases hp : p
  · rw [Cmd.run_abortIf, if_pos hp]
    exact h f.state hs
  · rw [Cmd.run_abortIf, if_neg hp]
    exact hs

theorem onErr {c : Op Out St α} {g : St → St} (hc : Keeps J c) (h : ∀ s, J s → J (g s)) :
    Keeps J (Cmd.onErr c fun f => { f with state := g f.state }) := by
  intro f hs
  have hkept := hc f hs
  rcases hrun : c.run f with ⟨a | e | _, f'⟩ <;> rw [hrun] at hkept <;> simp only [Cmd.onErr, hrun]
  · exact hkept
  · exact h f'.state hkept
  · exact hkept

/-- A command on a component whose changes `J` does not see. -/
theorem zoom {τ : Type} {read : Frame Out St → τ} {write : τ → Frame Out St → Frame Out St}
    {c : Cmd OpaqueError τ α} (h : ∀ t f, J f.state → J (write t f).state) :
    Keeps J (Cmd.zoom read write c) :=
  fun f hs => h _ f hs

end Keeps

/-! ## Checks -/

section Checks

variable (phase : St → Ph) (invalidate : St → St)

/--
In the given phase, the checks pass, fail without a trace, or invalidate the
session; only the world moves besides.
-/
def Guarded (p : Ph) (c : Op Out St α) : Prop :=
  ∀ f : Frame Out St, phase f.state = p →
    (∃ a w, c.run f = (.ok a, { f with world := w })) ∨
    (∃ o w, (∀ a, o ≠ .ok a) ∧ c.run f = (o, { f with world := w })) ∨
    (∃ e w, c.run f = (.err e, { f with state := invalidate f.state, world := w }))

/-- The same from any phase; in another phase than the given one the checks fail. -/
def Screens (p : Ph) (c : Op Out St α) : Prop :=
  ∀ f : Frame Out St,
    (phase f.state = p ∧ ∃ a w, c.run f = (.ok a, { f with world := w })) ∨
    (∃ o w, (∀ a, o ≠ .ok a) ∧ c.run f = (o, { f with world := w })) ∨
    (phase f.state = p ∧
      ∃ e w, c.run f = (.err e, { f with state := invalidate f.state, world := w }))

variable {phase invalidate} {p : Ph}

namespace Guarded

theorem lift (o : OpaqueResult α) :
    Guarded phase invalidate p (liftM o : Op Out St α) := by
  intro f _
  cases o with
  | ok a => exact .inl ⟨a, f.world, rfl⟩
  | err e => exact .inr (.inl ⟨.err e, f.world, by simp, rfl⟩)
  | panic => exact .inr (.inl ⟨.panic, f.world, by simp, rfl⟩)

theorem pure (a : α) : Guarded phase invalidate p (Pure.pure a : Op Out St α) :=
  fun f _ => .inl ⟨a, f.world, rfl⟩

theorem getState : Guarded phase invalidate p (Op.getState : Op Out St St) :=
  fun f _ => .inl ⟨f.state, f.world, rfl⟩

theorem failIf {q : Prop} [Decidable q] (e : OpaqueError) :
    Guarded phase invalidate p (Cmd.failIf q e : Op Out St Unit) :=
  lift (Outcome.failIf q e)

theorem abortIf {q : Prop} [Decidable q] (e : OpaqueError) :
    Guarded phase invalidate p
      (Cmd.abortIf q (fun f => { f with state := invalidate f.state }) e : Op Out St Unit) := by
  intro f _
  by_cases hq : q
  · exact .inr (.inr ⟨e, f.world, by rw [Cmd.run_abortIf, if_pos hq]⟩)
  · exact .inl ⟨(), f.world, by rw [Cmd.run_abortIf, if_neg hq]⟩

theorem bind {c : Op Out St α} {k : α → Op Out St β} (hc : Guarded phase invalidate p c)
    (hk : ∀ a, Guarded phase invalidate p (k a)) : Guarded phase invalidate p (c >>= k) := by
  intro f hp
  rcases hc f hp with ⟨a, w, hrun⟩ | ⟨o, w, hne, hrun⟩ | ⟨e, w, hrun⟩
  · rw [Cmd.run_bind_ok hrun]
    exact hk a { f with world := w } hp
  · refine .inr (.inl ?_)
    cases o with
    | ok a => exact absurd rfl (hne a)
    | err e => exact ⟨.err e, w, by simp, Cmd.run_bind_err hrun⟩
    | panic => exact ⟨.panic, w, by simp, Cmd.run_bind_panic hrun⟩
  · exact .inr (.inr ⟨e, w, Cmd.run_bind_err hrun⟩)

end Guarded

namespace Screens

theorem phaseCheck [DecidableEq Ph] {e : OpaqueError} {k : Op Out St α}
    (hk : Guarded phase invalidate p k) :
    Screens phase invalidate p (do
      let state ← Op.getState
      Cmd.failIf (phase state ≠ p) e
      k) := by
  intro f
  rw [Cmd.run_bind_ok (Op.run_getState f)]
  by_cases hp : phase f.state = p
  · rw [Cmd.run_bind_ok (by rw [Cmd.run_failIf, Outcome.failIf_neg _ (not_not.mpr hp)])]
    rcases hk f hp with hok | herr | hinvalid
    · exact .inl ⟨hp, hok⟩
    · exact .inr (.inl herr)
    · exact .inr (.inr ⟨hp, hinvalid⟩)
  · exact .inr (.inl ⟨.err e, f.world, by simp, Cmd.run_bind_err (by
      rw [Cmd.run_failIf, Outcome.failIf_pos _ hp])⟩)

theorem failIf {q : Prop} [Decidable q] (e : OpaqueError) {k : Op Out St α}
    (hk : Screens phase invalidate p k) :
    Screens phase invalidate p (Cmd.failIf q e >>= fun _ => k) := by
  intro f
  by_cases hq : q
  · exact .inr (.inl ⟨.err e, f.world, by simp, Cmd.run_bind_err (by
      rw [Cmd.run_failIf, Outcome.failIf_pos _ hq])⟩)
  · rw [Cmd.run_bind_ok (by rw [Cmd.run_failIf, Outcome.failIf_neg _ hq])]
    exact hk f

/-- Checks of the phase first, other checks afterwards. -/
theorem bind {c : Op Out St α} {k : α → Op Out St β} (hc : Screens phase invalidate p c)
    (hk : ∀ a, Guarded phase invalidate p (k a)) : Screens phase invalidate p (c >>= k) := by
  intro f
  rcases hc f with ⟨hp, a, w, hrun⟩ | ⟨o, w, hne, hrun⟩ | ⟨hp, e, w, hrun⟩
  · rw [Cmd.run_bind_ok hrun]
    rcases hk a { f with world := w } hp with hok | herr | hinvalid
    · exact .inl ⟨hp, hok⟩
    · exact .inr (.inl herr)
    · exact .inr (.inr ⟨hp, hinvalid⟩)
  · refine .inr (.inl ?_)
    cases o with
    | ok a => exact absurd rfl (hne a)
    | err e => exact ⟨.err e, w, by simp, Cmd.run_bind_err hrun⟩
    | panic => exact ⟨.panic, w, by simp, Cmd.run_bind_panic hrun⟩
  · exact .inr (.inr ⟨hp, e, w, Cmd.run_bind_err hrun⟩)

end Screens

end Checks

/-! ## Whole operations -/

/--
How an operation ends.  It succeeds from `source` to `target` with `done`, or it
leaves the session as it was, or, called in phase `source`, it leaves it at the
same stage or dead.
-/
def Ends (phase : St → Ph) (same : St → St → Prop) (dead : St → Prop) (source target : Ph)
    (done : St → St → Prop) (c : Op Out St α) : Prop :=
  ∀ f f' : Frame Out St, ∀ o, c.run f = (o, f') →
    (o.isOk ∧ phase f.state = source ∧ phase f'.state = target ∧ done f.state f'.state) ∨
    (o.isOk = false ∧ (f'.state = f.state ∨
      phase f.state = source ∧ (same f.state f'.state ∨ dead f'.state)))

section Ends

variable {phase : St → Ph} {invalidate : St → St} {same : St → St → Prop} {dead : St → Prop}
  {source target : Ph} {done : St → St → Prop} {γ : Type}

/-- Checks, work that stays at the stage, and a conclusion that cannot fail. -/
theorem Ends.of_blocks {checks : Op Out St α} {body : α → Op Out St β}
    {commit : β → Op Out St γ} (hchecks : Screens phase invalidate source checks)
    (hsame : ∀ s, phase s = source → same s s)
    (hdead : ∀ s, dead (invalidate s))
    (hbody : ∀ a s₀, phase s₀ = source → Keeps (same s₀) (body a))
    (hcommit : ∀ b s₀ f, phase s₀ = source → same s₀ f.state → ∃ c f',
      (commit b).run f = (.ok c, f') ∧ phase f'.state = target ∧ done s₀ f'.state) :
    Ends phase same dead source target done (do
      let a ← checks
      let b ← body a
      commit b) := by
  intro f f' o hrun
  rcases hchecks f with ⟨hp, a, w, hpass⟩ | ⟨r, w, hne, hfail⟩ | ⟨hp, e, w, hinvalid⟩
  · rw [Cmd.run_bind_ok hpass] at hrun
    have hkeeps := hbody a f.state hp { f with world := w } (hsame _ hp)
    rcases hbodyRun : (body a).run { f with world := w } with ⟨b | e | _, g⟩ <;>
      rw [hbodyRun] at hkeeps
    · rw [Cmd.run_bind_ok hbodyRun] at hrun
      obtain ⟨c, g', hcommitRun, htarget, hdone⟩ := hcommit b f.state g hp hkeeps
      rw [hcommitRun] at hrun
      cases hrun
      exact .inl ⟨rfl, hp, htarget, hdone⟩
    · rw [Cmd.run_bind_err hbodyRun] at hrun
      cases hrun
      exact .inr ⟨rfl, .inr ⟨hp, .inl hkeeps⟩⟩
    · rw [Cmd.run_bind_panic hbodyRun] at hrun
      cases hrun
      exact .inr ⟨rfl, .inr ⟨hp, .inl hkeeps⟩⟩
  · refine .inr ?_
    cases r with
    | ok a => exact absurd rfl (hne a)
    | err e =>
        rw [Cmd.run_bind_err hfail] at hrun
        cases hrun
        exact ⟨rfl, .inl rfl⟩
    | panic =>
        rw [Cmd.run_bind_panic hfail] at hrun
        cases hrun
        exact ⟨rfl, .inl rfl⟩
  · rw [Cmd.run_bind_err hinvalid] at hrun
    cases hrun
    exact .inr ⟨rfl, .inr ⟨hp, .inr (hdead _)⟩⟩

theorem Ends.of_blocks_onErr {checks : Op Out St α} {body : α → Op Out St β}
    {commit : β → Op Out St γ} (hchecks : Screens phase invalidate source checks)
    (hsame : ∀ s, phase s = source → same s s)
    (hdead : ∀ s, dead (invalidate s))
    (hbody : ∀ a s₀, phase s₀ = source → Keeps (same s₀) (body a))
    (hcommit : ∀ b s₀ f, phase s₀ = source → same s₀ f.state → ∃ c f',
      (commit b).run f = (.ok c, f') ∧ phase f'.state = target ∧ done s₀ f'.state) :
    Ends phase same dead source target done (do
      let a ← checks
      Cmd.onErr (do
        let b ← body a
        commit b) fun f => { f with state := invalidate f.state }) := by
  intro f f' o hrun
  have hplain := Ends.of_blocks hchecks hsame hdead hbody hcommit f
  rw [Cmd.run_bind] at hplain hrun
  rcases hchecksRun : checks.run f with ⟨a | e | _, g⟩ <;> rw [hchecksRun] at hrun hplain
  · unfold Cmd.onErr at hrun
    simp only at hrun hplain
    rcases hwork : (body a >>= commit).run g with ⟨c | e | _, g'⟩ <;>
      rw [hwork] at hrun hplain <;> cases hrun
    · exact hplain _ _ rfl
    · rcases hchecks f with ⟨hp, -⟩ | ⟨r, w, hne, hfail⟩ | ⟨hp, -⟩
      · exact .inr ⟨rfl, .inr ⟨hp, .inr (hdead _)⟩⟩
      · rw [hchecksRun] at hfail
        cases hfail
        exact absurd rfl (hne a)
      · exact .inr ⟨rfl, .inr ⟨hp, .inr (hdead _)⟩⟩
    · exact hplain _ _ rfl
  · exact hplain _ _ hrun
  · exact hplain _ _ hrun

theorem Ends.discard {c : Op Out St α} (h : Ends phase same dead source target done c) :
    Ends phase same dead source target done (c >>= fun _ => (Pure.pure () : Op Out St Unit)) := by
  intro f f' o hrun
  rcases hc : c.run f with ⟨r, g⟩
  cases r with
  | ok a =>
      rw [Cmd.run_bind_ok hc] at hrun
      cases hrun
      exact h f _ _ hc
  | err e =>
      rw [Cmd.run_bind_err hc] at hrun
      cases hrun
      exact h f _ _ hc
  | panic =>
      rw [Cmd.run_bind_panic hc] at hrun
      cases hrun
      exact h f _ _ hc

end Ends

end AuraOpaque.Core
