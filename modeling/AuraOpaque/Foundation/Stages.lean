import AuraOpaque.Foundation.Run

/-!
# One-way sessions

A session goes through phases of rising rank.  A call on it is turned away, or
makes the transition of its operation, or ends the session.  Then no operation
succeeds twice, and one that starts where another ends comes after it, with no
admitted call in between.
-/

namespace AuraOpaque.Foundation

variable {σ ℓ Op Ph : Type*}

/-- What the calls of a session are, and what the operations do to its phase. -/
structure Stages (ℓ Op Ph : Type*) where
  operation : ℓ → Option Op
  admitted : ℓ → Prop
  ok : ℓ → Bool
  source : Op → Ph
  target : Op → Ph
  terminal : Ph
  rank : Ph → ℕ
  rank_lt : ∀ op, rank (source op) < rank (target op)
  rank_le : ∀ p, rank p ≤ rank terminal

namespace Stages

variable (stages : Stages ℓ Op Ph)

/-- The three ends of a call. -/
def Governs (phase : σ → Ph) (step : σ → ℓ → σ → Prop) : Prop :=
  ∀ s label t, step s label t →
    (¬ stages.admitted label ∧ stages.ok label = false ∧ t = s) ∨
    (∃ op, stages.operation label = some op ∧ stages.admitted label ∧ stages.ok label = true ∧
      phase s = stages.source op ∧ phase t = stages.target op) ∨
    (stages.admitted label ∧ stages.ok label = false ∧ phase t = stages.terminal)

def succeeds [DecidableEq Op] (op : Op) (label : ℓ) : Bool :=
  decide (stages.operation label = some op) && stages.ok label

variable {stages} [DecidableEq Op] {phase : σ → Ph} {step : σ → ℓ → σ → Prop} {s t start : σ}
  {label : ℓ} {history before after : List ℓ} {op earlier : Op}

theorem succeeds_iff :
    stages.succeeds op label = true ↔
      stages.operation label = some op ∧ stages.ok label = true := by
  simp [succeeds]

omit [DecidableEq Op] in
theorem Governs.rank_mono (h : stages.Governs phase step) (hstep : step s label t) :
    stages.rank (phase s) ≤ stages.rank (phase t) := by
  rcases h s label t hstep with ⟨-, -, rfl⟩ | ⟨op, -, -, -, hsource, htarget⟩ | ⟨-, -, hterminal⟩
  · exact Nat.le_refl _
  · rw [hsource, htarget]
    exact Nat.le_of_lt (stages.rank_lt op)
  · rw [hterminal]
    exact stages.rank_le _

theorem Governs.success (h : stages.Governs phase step) (hstep : step s label t)
    (hop : stages.succeeds op label = true) :
    phase s = stages.source op ∧ phase t = stages.target op := by
  obtain ⟨hcalled, hok⟩ := succeeds_iff.mp hop
  rcases h s label t hstep with
    ⟨-, hfail, -⟩ | ⟨op', hcalled', -, -, hsource, htarget⟩ | ⟨-, hfail, -⟩
  · rw [hok] at hfail
    cases hfail
  · obtain rfl := Option.some.inj (hcalled.symm.trans hcalled')
    exact ⟨hsource, htarget⟩
  · rw [hok] at hfail
    cases hfail

theorem Governs.count_le_one (h : stages.Governs phase step) (op : Op)
    (hrun : Run step start history s) : history.countP (stages.succeeds op) ≤ 1 := by
  refine @Run.count_le_one _ _ _ _ _ _ _ (fun s => stages.rank (phase s))
    (stages.rank (stages.source op)) hrun (fun _ _ _ hstep => h.rank_mono hstep) ?_
  intro s label t hstep hop
  obtain ⟨hsource, htarget⟩ := h.success hstep hop
  exact ⟨congrArg stages.rank hsource, by rw [htarget]; exact stages.rank_lt op⟩

/-- Operations that start in one phase share their one success. -/
def succeedsFrom [DecidableEq Ph] (stages : Stages ℓ Op Ph) (p : Ph) (label : ℓ) : Bool :=
  (stages.operation label).any (fun op => decide (stages.source op = p)) && stages.ok label

theorem Governs.count_from_le_one [DecidableEq Ph] (h : stages.Governs phase step) (p : Ph)
    (hrun : Run step start history s) : history.countP (stages.succeedsFrom p) ≤ 1 := by
  refine @Run.count_le_one _ _ _ _ _ _ _ (fun s => stages.rank (phase s))
    (stages.rank p) hrun (fun _ _ _ hstep => h.rank_mono hstep) ?_
  intro s label t hstep hsucceeds
  obtain ⟨hfrom, hok⟩ := Bool.and_eq_true_iff.mp hsucceeds
  obtain ⟨op, hcalled, hp⟩ := (Option.any_eq_true _ _).mp hfrom
  obtain ⟨hsource, htarget⟩ := h.success hstep (succeeds_iff.mpr ⟨hcalled, hok⟩)
  obtain rfl : stages.source op = p := of_decide_eq_true hp
  exact ⟨congrArg stages.rank hsource, by rw [htarget]; exact stages.rank_lt op⟩

/-- A phase that one operation alone ends in comes from it, and stays until the next admission. -/
theorem Governs.preceded (h : stages.Governs phase step)
    (hsource : stages.source op = stages.target earlier)
    (htarget : ∀ op', stages.target op' = stages.target earlier → op' = earlier)
    (hterminal : stages.target earlier ≠ stages.terminal)
    (hstart : phase start ≠ stages.target earlier)
    (hrun : Run step start (before ++ label :: after) s)
    (hop : stages.succeeds op label = true) :
    ∃ past event between, before = past ++ event :: between ∧
      stages.succeeds earlier event = true ∧ ∀ l ∈ between, ¬ stages.admitted l := by
  refine @Run.preceded_quietly _ _ _ _ _ (fun l => stages.succeeds op l = true)
    (fun l => stages.succeeds earlier l = true) (fun l => ¬ stages.admitted l)
    (fun s => phase s = stages.target earlier) hstart ?_ ?_ _ _ _ hrun hop
  · intro s label t hstep hop
    exact (h.success hstep hop).1.trans hsource
  · intro s label t hstep hphase
    rcases h s label t hstep with
      ⟨hquiet, -, rfl⟩ | ⟨op', hcalled, -, hok, -, hends⟩ | ⟨-, -, hends⟩
    · exact .inr ⟨hphase, hquiet⟩
    · obtain rfl := htarget op' (hends.symm.trans hphase)
      exact .inl (succeeds_iff.mpr ⟨hcalled, hok⟩)
    · exact absurd (hphase.symm.trans hends) hterminal

end Stages

end AuraOpaque.Foundation
