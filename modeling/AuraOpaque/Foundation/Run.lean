import Mathlib.Data.List.Basic
import Mathlib.Data.List.Count

/-!
# Runs of labelled transition systems

A run carries the list of its labels, oldest first.  Three rules cover what the
session proofs need: a property of history and state that steps preserve holds
at the end of every run; an event that only happens at one rank and leaves it
for good happens at most once; an event that needs a state brought about by
another event comes after one.
-/

namespace AuraOpaque.Foundation

variable {σ ℓ : Type*} {step : σ → ℓ → σ → Prop}

theorem mem_snoc {history : List ℓ} {l label : ℓ} :
    l ∈ history ++ [label] ↔ l ∈ history ∨ l = label := by
  rw [List.mem_append, List.mem_singleton]

/-- What holds of one entry at most holds of one alone. -/
theorem eq_of_countP_le_one {p : ℓ → Bool} {history : List ℓ} {l l' : ℓ}
    (hcount : history.countP p ≤ 1) (hl : l ∈ history) (hl' : l' ∈ history) (hp : p l)
    (hp' : p l') : l = l' := by
  have hmem : l ∈ history.filter p := List.mem_filter.mpr ⟨hl, hp⟩
  have hmem' : l' ∈ history.filter p := List.mem_filter.mpr ⟨hl', hp'⟩
  rw [List.countP_eq_length_filter] at hcount
  obtain ⟨x, hx⟩ := List.length_eq_one_iff.mp
    (Nat.le_antisymm hcount (List.length_pos_of_mem hmem))
  rw [hx, List.mem_singleton] at hmem hmem'
  exact hmem.trans hmem'.symm

inductive Run (step : σ → ℓ → σ → Prop) (start : σ) : List ℓ → σ → Prop where
  | nil : Run step start [] start
  | snoc {history : List ℓ} {s t : σ} {label : ℓ} (run : Run step start history s)
      (last : step s label t) : Run step start (history ++ [label]) t

namespace Run

variable {start s t : σ} {history : List ℓ}

theorem single {label : ℓ} (h : step s label t) : Run step s [label] t :=
  @snoc σ ℓ step s [] s t label .nil h

theorem step_of_single {label : ℓ} (h : Run step s [label] t) : step s label t := by
  generalize hall : [label] = all at h
  cases h with
  | nil => cases hall
  | @snoc history s' t' label' hrun hlast =>
      obtain ⟨rfl, hlabel⟩ := List.append_inj' (show [] ++ [label] = _ from hall) rfl
      cases hlabel
      generalize hnil : ([] : List ℓ) = none at hrun
      cases hrun with
      | nil => exact hlast
      | snoc => simp at hnil

theorem cons {label : ℓ} (h : step start label s) (hrun : Run step s history t) :
    Run step start (label :: history) t := by
  induction hrun with
  | nil => exact single h
  | snoc _ hlast ih => exact snoc ih hlast

theorem append {later : List ℓ} (hrun : Run step start history s) (hlater : Run step s later t) :
    Run step start (history ++ later) t := by
  induction hlater with
  | nil => rwa [List.append_nil]
  | snoc _ hlast ih =>
      rw [← List.append_assoc]
      exact ih.snoc hlast

theorem invariant {I : List ℓ → σ → Prop} (hrun : Run step start history s)
    (hstart : I [] start)
    (hstep : ∀ history s label t, I history s → step s label t → I (history ++ [label]) t) :
    I history s := by
  induction hrun with
  | nil => exact hstart
  | snoc _ hlast ih => exact hstep _ _ _ _ ih hlast

theorem stateInvariant {I : σ → Prop} (hrun : Run step start history s) (hstart : I start)
    (hstep : ∀ s label t, I s → step s label t → I t) : I s :=
  @invariant σ ℓ step start s history (fun _ s => I s) hrun hstart
    (fun _ s label t hs h => hstep s label t hs h)

theorem split {before after : List ℓ} (hrun : Run step start (before ++ after) t) :
    ∃ s, Run step start before s ∧ Run step s after t := by
  generalize hall : before ++ after = all at hrun
  induction hrun generalizing after with
  | nil =>
      obtain ⟨rfl, rfl⟩ := List.append_eq_nil_iff.mp hall
      exact ⟨start, .nil, .nil⟩
  | @snoc all s t label hrun hlast ih =>
      rcases List.eq_nil_or_concat after with rfl | ⟨rest, last, rfl⟩
      · rw [List.append_nil] at hall
        subst hall
        exact ⟨t, hrun.snoc hlast, .nil⟩
      · rw [List.concat_eq_append, ← List.append_assoc] at hall
        obtain ⟨rfl, hlabel⟩ := List.append_inj' hall rfl
        cases hlabel
        obtain ⟨mid, hbefore, hrest⟩ := ih rfl
        refine ⟨mid, hbefore, ?_⟩
        rw [List.concat_eq_append]
        exact hrest.snoc hlast

theorem split_at {before after : List ℓ} {label : ℓ}
    (hrun : Run step start (before ++ label :: after) t) :
    ∃ s s', Run step start before s ∧ step s label s' := by
  rw [← List.singleton_append, ← List.append_assoc] at hrun
  obtain ⟨s', hbefore, -⟩ := hrun.split
  generalize hall : before ++ [label] = all at hbefore
  cases hbefore with
  | nil => simp at hall
  | snoc hrun hlast =>
      obtain ⟨rfl, hlabel⟩ := List.append_inj' hall rfl
      cases hlabel
      exact ⟨_, _, hrun, hlast⟩

theorem step_of_mem {label : ℓ} (hrun : Run step start history t) (hmem : label ∈ history) :
    ∃ before s s', Run step start before s ∧ step s label s' := by
  obtain ⟨before, after, rfl⟩ := List.append_of_mem hmem
  obtain ⟨s, s', hbefore, hstep⟩ := hrun.split_at
  exact ⟨before, s, s', hbefore, hstep⟩

/--
Ranks never fall.  An event that only happens at rank `k`, and leads above it,
happens at most once.
-/
theorem count_le_one {p : ℓ → Bool} {rank : σ → ℕ} {k : ℕ} (hrun : Run step start history s)
    (hmono : ∀ s label t, step s label t → rank s ≤ rank t)
    (hjump : ∀ s label t, step s label t → p label → rank s = k ∧ k < rank t) :
    history.countP p ≤ 1 := by
  have hinv : history.countP p = 0 ∨ (history.countP p = 1 ∧ k < rank s) := by
    refine @invariant σ ℓ step start s history
      (fun history s => history.countP p = 0 ∨ (history.countP p = 1 ∧ k < rank s))
      hrun (.inl rfl) ?_
    intro history s label t hinv hstep
    have hle := hmono s label t hstep
    rw [List.countP_append, List.countP_singleton]
    cases hp : p label with
    | false =>
        rcases hinv with hzero | ⟨hone, hlt⟩
        · exact .inl (by simpa using hzero)
        · exact .inr ⟨by simpa using hone, by omega⟩
    | true =>
        obtain ⟨hrank, hlt⟩ := hjump s label t hstep hp
        rcases hinv with hzero | ⟨-, habove⟩
        · exact .inr ⟨by simp [hzero], hlt⟩
        · omega
  omega

/-- An event that needs `Q` comes after an event that brings `Q` about. -/
theorem preceded {p q : ℓ → Prop} {Q : σ → Prop} (hstart : ¬ Q start)
    (hneeds : ∀ s label t, step s label t → p label → Q s)
    (hbrings : ∀ s label t, step s label t → Q t → Q s ∨ q label)
    {before after : List ℓ} {label : ℓ} (hrun : Run step start (before ++ label :: after) t)
    (hp : p label) : ∃ earlier ∈ before, q earlier := by
  obtain ⟨s, s', hbefore, hstep⟩ := hrun.split_at
  have hinv : Q s → ∃ earlier ∈ before, q earlier := by
    refine @invariant σ ℓ step start s before
      (fun history s => Q s → ∃ earlier ∈ history, q earlier) hbefore
      (fun h => absurd h hstart) ?_
    intro history s label t hinv hstep hQ
    rcases hbrings s label t hstep hQ with hs | hq
    · obtain ⟨earlier, hmem, hearlier⟩ := hinv hs
      exact ⟨earlier, List.mem_append_left _ hmem, hearlier⟩
    · exact ⟨label, by simp, hq⟩
  exact hinv (hneeds s label s' hstep hp)

/-- The same, with nothing but quiet events in between. -/
theorem preceded_quietly {p q quiet : ℓ → Prop} {Q : σ → Prop} (hstart : ¬ Q start)
    (hneeds : ∀ s label t, step s label t → p label → Q s)
    (hbrings : ∀ s label t, step s label t → Q t → q label ∨ Q s ∧ quiet label)
    {before after : List ℓ} {label : ℓ} (hrun : Run step start (before ++ label :: after) t)
    (hp : p label) : ∃ past earlier between, before = past ++ earlier :: between ∧
      q earlier ∧ ∀ l ∈ between, quiet l := by
  obtain ⟨s, s', hbefore, hstep⟩ := hrun.split_at
  have hinv : Q s → ∃ past earlier between, before = past ++ earlier :: between ∧
      q earlier ∧ ∀ l ∈ between, quiet l := by
    refine @invariant σ ℓ step start s before
      (fun history s => Q s → ∃ past earlier between, history = past ++ earlier :: between ∧
        q earlier ∧ ∀ l ∈ between, quiet l) hbefore (fun h => absurd h hstart) ?_
    intro history s label t hinv hstep hQ
    rcases hbrings s label t hstep hQ with hq | ⟨hs, hquiet⟩
    · exact ⟨history, label, [], rfl, hq, by simp⟩
    · obtain ⟨past, earlier, between, rfl, hq, hbetween⟩ := hinv hs
      refine ⟨past, earlier, between ++ [label], by simp, hq, fun l hl => ?_⟩
      rcases mem_snoc.mp hl with hl | rfl
      · exact hbetween l hl
      · exact hquiet
  exact hinv (hneeds s label s' hstep hp)

/-- A run seen through a map: what the map does not see changes nothing in its view. -/
theorem project {τ ℓ' : Type*} {step' : τ → ℓ' → τ → Prop} {view : σ → τ} {see : ℓ → Option ℓ'}
    (hseen : ∀ s label t label', step s label t → see label = some label' →
      step' (view s) label' (view t))
    (hunseen : ∀ s label t, step s label t → see label = none → view t = view s)
    (hrun : Run step start history s) :
    Run step' (view start) (history.filterMap see) (view s) := by
  induction hrun with
  | nil => exact .nil
  | @snoc history s t label _ hlast ih =>
      rw [List.filterMap_append]
      cases hsee : see label with
      | none =>
          rw [hunseen s label t hlast hsee]
          simpa [hsee] using ih
      | some label' =>
          have hstep := ih.snoc (hseen s label t label' hlast hsee)
          simpa [hsee] using hstep

/-- What holds now and not at the start has been entered at some step, and has held since. -/
theorem entered {Q : σ → Prop} (hstart : ¬ Q start) (hrun : Run step start history s) (hs : Q s) :
    ∃ past label between u u', history = past ++ label :: between ∧ Run step start past u ∧
      step u label u' ∧ ¬ Q u ∧ Q u' ∧
        Run (fun s label t => step s label t ∧ Q s ∧ Q t) u' between s := by
  induction hrun with
  | nil => exact absurd hs hstart
  | @snoc history s t label hrun hlast ih =>
      by_cases hQ : Q s
      · obtain ⟨past, entry, between, u, u', rfl, hpast, hentry, hu, hu', hsince⟩ := ih hQ
        exact ⟨past, entry, between ++ [label], u, u', by simp, hpast, hentry, hu, hu',
          hsince.snoc ⟨hlast, hQ, hs⟩⟩
      · exact ⟨history, label, [], s, t, rfl, hrun, hlast, hQ, hs, .nil⟩

theorem mono {step' : σ → ℓ → σ → Prop} (h : ∀ s label t, step s label t → step' s label t)
    (hrun : Run step start history s) : Run step' start history s := by
  induction hrun with
  | nil => exact .nil
  | snoc _ hlast ih => exact ih.snoc (h _ _ _ hlast)

end Run

end AuraOpaque.Foundation
