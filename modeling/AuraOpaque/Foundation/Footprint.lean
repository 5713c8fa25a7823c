import AuraOpaque.Foundation.Handles

/-!
# One call on two stores

What a call reads is what two stores must share for it to go the same way on
both.  The judgement runs along the program, with both stores at hand.
-/

namespace AuraOpaque.Foundation.Program

variable {κ δ ρ : Type}

/--
The program goes the same way on `data` and on `data'`.  It leaves both alone up
to its last step, and `good` relates its code to what it then makes of them.
-/
def Twins (good : ρ → δ → δ → Prop) (data data' : δ) : Program κ δ ρ ρ → Prop
  | .ret code => good code data data'
  | .exit code => good code data data'
  | .acquire _ next => ∀ taken, Twins good data data' (next taken)
  | .act step next => (step data').1 = (step data).1 ∧
      match (step data).1 with
      | .ok b =>
          ((step data).2 = data ∧ (step data').2 = data' ∧ Twins good data data' (next b)) ∨
            ∃ code, (next b).code = some code ∧ good code (step data).2 (step data').2
      | .error code => good code (step data).2 (step data').2
  | _ => False

section Exec

variable [DecidableEq κ] {good : ρ → δ → δ → Prop} {data' : δ} {p : Program κ δ ρ ρ}

theorem Twins.exec {s : Shared κ δ} (hp : Twins good s.data data' p) (fresh : Shared κ δ → ℕ)
    (guards acquired : List (Handle κ)) :
    (p.exec fresh guards acquired { s with data := data' }).code =
        (p.exec fresh guards acquired s).code ∧
      (p.exec fresh guards acquired { s with data := data' }).acquired =
        (p.exec fresh guards acquired s).acquired ∧
      good (p.exec fresh guards acquired s).code (p.exec fresh guards acquired s).shared.data
        (p.exec fresh guards acquired { s with data := data' }).shared.data := by
  induction p generalizing guards acquired s with
  | ret code => exact ⟨rfl, rfl, by simpa [Program.exec, Twins] using hp⟩
  | exit code => exact ⟨rfl, rfl, by simpa [Program.exec, Twins] using hp⟩
  | acquire h next ih =>
      cases hflag : s.inUse h <;> simp only [Program.exec, hflag]
      · exact @ih true (s.lock h) (hp true) (h :: guards) (acquired ++ [h])
      · exact ih false (hp false) guards acquired
  | act step next ih =>
      simp only [Twins] at hp
      obtain ⟨hsame, hnext⟩ := hp
      rcases hstep : step s.data with ⟨code | b, data⟩ <;>
        rcases hstep' : step data' with ⟨code' | b', data₁'⟩ <;> rw [hstep, hstep'] at hsame <;>
        cases hsame <;> rw [hstep] at hnext <;> simp only [Program.exec, hstep, hstep'] <;>
        dsimp only at hnext
      · exact ⟨trivial, trivial, by simpa [hstep'] using hnext⟩
      · rcases hnext with ⟨rfl, hkept, hnext⟩ | ⟨code, hcode, hgood⟩
        · rw [hstep'] at hkept
          cases hkept
          exact ih b hnext guards acquired
        · rw [exec_of_code hcode, exec_of_code hcode]
          exact ⟨rfl, rfl, by simpa [hstep'] using hgood⟩
  | _ => cases hp

end Exec

end AuraOpaque.Foundation.Program
