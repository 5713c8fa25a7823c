import AuraOpaque.Core.PqKem

/-!
# Random bytes are used once

The tape is read from front to back.  Whatever a command does and however it
ends, the bytes that it has drawn are gone, and what is drawn later lies behind
them.
-/

namespace AuraOpaque.Core

open AuraOpaque.Foundation

/-! ## Later worlds -/

namespace World

/-- `later` has `n` bytes less on its tape. -/
def Past (w : World) (n : ℕ) (later : World) : Prop := later.tape = fun i => w.tape (i + n)

/-- Some of the tape may have been used. -/
def Later (w later : World) : Prop := ∃ n, w.Past n later

variable {w w' w'' : World}

theorem Past.trans {m n : ℕ} (h : w.Past m w') (h' : w'.Past n w'') : w.Past (m + n) w'' := by
  unfold Past at *
  rw [h', h]
  funext i
  change w.tape (i + n + m) = w.tape (i + (m + n))
  congr 1
  omega

theorem Later.refl (w : World) : w.Later w := ⟨0, rfl⟩

theorem Later.trans (h : w.Later w') (h' : w'.Later w'') : w.Later w'' := by
  obtain ⟨m, hm⟩ := h
  obtain ⟨n, hn⟩ := h'
  exact ⟨m + n, hm.trans hn⟩

theorem past_advance (w : World) (n : ℕ) : w.Past n (w.advance n) := rfl

theorem later_advance (w : World) (n : ℕ) : w.Later (w.advance n) := ⟨n, rfl⟩

theorem later_tick (w : World) : w.Later w.tick := ⟨0, rfl⟩

end World

/-! ## Commands that only go forward -/

/-- Whatever the ending, the tape has at most become shorter. -/
def Flows {σ α : Type} (world : σ → World) (c : Cmd OpaqueError σ α) : Prop :=
  ∀ s, (world s).Later (world (c.run s).2)

namespace Flows

variable {σ α β : Type} {world : σ → World}

theorem bind {c : Cmd OpaqueError σ α} {k : α → Cmd OpaqueError σ β} (hc : Flows world c)
    (hk : ∀ a, Flows world (k a)) : Flows world (c >>= k) := by
  intro s
  have hfirst := hc s
  rw [Cmd.run_bind]
  rcases hrun : c.run s with ⟨a | e | _, t⟩ <;> rw [hrun] at hfirst
  · exact hfirst.trans (hk a t)
  · exact hfirst
  · exact hfirst

theorem of_same {c : Cmd OpaqueError σ α} (h : ∀ s, world (c.run s).2 = world s) :
    Flows world c := by
  intro s
  rw [h]
  exact .refl _

theorem pure (a : α) : Flows world (Pure.pure a : Cmd OpaqueError σ α) := of_same fun _ => rfl

theorem lift (o : OpaqueResult α) : Flows world (liftM o : Cmd OpaqueError σ α) :=
  of_same fun _ => rfl

theorem cmdLift (o : OpaqueResult α) : Flows world (Cmd.lift o : Cmd OpaqueError σ α) :=
  of_same fun _ => rfl

theorem throw (e : OpaqueError) : Flows world (Cmd.throw e : Cmd OpaqueError σ α) :=
  of_same fun _ => rfl

theorem failIf {p : Prop} [Decidable p] (e : OpaqueError) :
    Flows world (Cmd.failIf p e : Cmd OpaqueError σ Unit) :=
  of_same fun _ => rfl

theorem okOr (o : Option α) (e : OpaqueError) :
    Flows world (Cmd.okOr o e : Cmd OpaqueError σ α) :=
  of_same fun _ => rfl

theorem abortIf {p : Prop} [Decidable p] {g : σ → σ} (e : OpaqueError)
    (hg : ∀ s, world (g s) = world s) : Flows world (Cmd.abortIf p g e) := by
  refine of_same fun s => ?_
  by_cases hp : p
  · rw [Cmd.run_abortIf, if_pos hp]
    exact hg s
  · rw [Cmd.run_abortIf, if_neg hp]

theorem onErr {c : Cmd OpaqueError σ α} {g : σ → σ} (hc : Flows world c)
    (hg : ∀ s, world (g s) = world s) : Flows world (c.onErr g) := by
  intro s
  have hflows := hc s
  rcases hrun : c.run s with ⟨a | e | _, t⟩ <;> rw [hrun] at hflows <;>
    simp only [Cmd.onErr, hrun]
  · exact hflows
  · rw [hg]
    exact hflows
  · exact hflows

variable {Out St : Type}

theorem getState : Flows Frame.world (Op.getState : Op Out St St) := of_same fun _ => rfl

theorem getOut : Flows Frame.world (Op.getOut : Op Out St Out) := of_same fun _ => rfl

theorem modifyState (g : St → St) : Flows Frame.world (Op.modifyState g : Op Out St Unit) :=
  of_same fun _ => rfl

theorem modifyOut (g : Out → Out) : Flows Frame.world (Op.modifyOut g : Op Out St Unit) :=
  of_same fun _ => rfl

theorem onWorld {c : Cmd OpaqueError World α} (hc : Flows id c) :
    Flows Frame.world (Op.onWorld c : Op Out St α) :=
  fun f => hc f.world

/-- A command on a part that the world is not in. -/
theorem zoom {τ : Type} {read : Frame Out St → τ} {write : τ → Frame Out St → Frame Out St}
    (c : Cmd OpaqueError τ α) (h : ∀ t f, (write t f).world = f.world) :
    Flows Frame.world (Cmd.zoom read write c) :=
  of_same fun f => h _ f

end Flows

/-! ## The generator and the clock -/

theorem draw_flows (n : ℕ) : Flows id (World.draw n) := fun w => w.later_advance n

theorem now_flows : Flows id World.now := fun w => w.later_tick

theorem randomBytes_flows (n : ℕ) : Flows id (randomBytes n) :=
  .bind (.failIf _) fun _ => draw_flows n

variable (P : Primitives)

theorem randomNonzeroScalarLoop_flows (attempts : ℕ) :
    Flows id (randomNonzeroScalarLoop P attempts) := by
  induction attempts with
  | zero => exact .throw _
  | succ attempts ih =>
      refine .bind (randomBytes_flows _) fun wide => ?_
      dsimp only
      split
      · exact .pure _
      · exact ih

theorem randomNonzeroScalar_flows : Flows id (randomNonzeroScalar P) :=
  randomNonzeroScalarLoop_flows P 256

theorem PqKem.encapsulate_flows (publicKey : List UInt8) :
    Flows id (PqKem.encapsulate P publicKey) := by
  refine .bind (.failIf _) fun _ => .bind (.okOr _ _) fun _ => .bind (.okOr _ _) fun _ => ?_
  exact .bind (.failIf _) fun _ => .bind (draw_flows 32) fun _ => .pure _

/-! ## Where a scalar comes from -/

theorem tapeScalar_congr {tape tape' : ℕ → UInt8} {offset : ℕ}
    (h : ∀ i, offset ≤ i → i < offset + hashLength → tape' i = tape i) :
    tapeScalar P tape' offset = tapeScalar P tape offset := by
  have hwindow : World.window (fun i => tape' (i + offset)) hashLength =
      World.window (fun i => tape (i + offset)) hashLength := by
    apply congrArg List.Vector.ofFn
    funext i
    apply h
    · omega
    · omega
  rw [tapeScalar, hwindow]
  rfl

/-- The first of the draws that is not reduced to zero. -/
structure FirstScalar (tape : ℕ → UInt8) (k : ℕ) : Prop where
  found : k < 256
  rejected : ∀ j < k, tapeScalar P tape (j * hashLength) = 0
  accepted : tapeScalar P tape (k * hashLength) ≠ 0

variable {P} in
/-- Of the tape up to the draw only the zeros matter, of the draw only the scalar. -/
theorem FirstScalar.congr {tape tape' : ℕ → UInt8} {k : ℕ} (h : FirstScalar P tape k)
    (hbefore : ∀ i < k * hashLength, tape' i = tape i)
    (hscalar : tapeScalar P tape' (k * hashLength) ≠ 0) : FirstScalar P tape' k where
  found := h.found
  rejected j hj := by
    have hle : (j + 1) * hashLength ≤ k * hashLength := Nat.mul_le_mul_right _ hj
    rw [Nat.succ_mul] at hle
    rw [tapeScalar_congr P fun i _ hi => hbefore i (by omega)]
    exact h.rejected j hj
  accepted := hscalar

theorem randomNonzeroScalarLoop_eq_ok_iff {attempts : ℕ} {w v : World}
    {b : Bytes privateKeyLength} :
    (randomNonzeroScalarLoop P attempts).run w = (.ok b, v) ↔
      ∃ k < attempts, (∀ j < k, tapeScalar P w.tape (j * hashLength) = 0) ∧
        tapeScalar P w.tape (k * hashLength) ≠ 0 ∧
        b = P.group.asBytes (tapeScalar P w.tape (k * hashLength)) ∧
        v = w.advance ((k + 1) * hashLength) := by
  induction attempts generalizing w with
  | zero =>
      constructor
      · intro h
        cases h
      · rintro ⟨k, hk, -⟩
        exact absurd hk (Nat.not_lt_zero k)
  | succ attempts ih =>
      have hshift : ∀ j, tapeScalar P (w.advance hashLength).tape (j * hashLength) =
          tapeScalar P w.tape ((j + 1) * hashLength) := by
        intro j
        simp [tapeScalar, Nat.add_assoc, Nat.succ_mul]
      rw [randomNonzeroScalarLoop_succ]
      by_cases hzero : tapeScalar P w.tape 0 = 0
      · rw [if_neg (not_not.mpr hzero), ih]
        constructor
        · rintro ⟨k, hk, hrejected, haccepted, rfl, rfl⟩
          refine ⟨k + 1, by omega, fun j hj => ?_, ?_, ?_, ?_⟩
          · cases j with
            | zero => simpa using hzero
            | succ j => exact (hshift j).symm.trans (hrejected j (by omega))
          · exact fun h => haccepted ((hshift k).trans h)
          · exact congrArg P.group.asBytes (hshift k)
          · rw [World.advance_advance, Nat.succ_mul (k + 1)]
        · rintro ⟨k, hk, hrejected, haccepted, rfl, rfl⟩
          cases k with
          | zero => exact absurd (by simpa using hzero) haccepted
          | succ k =>
              refine ⟨k, by omega, fun j hj => ?_, ?_, ?_, ?_⟩
              · exact (hshift j).trans (hrejected (j + 1) (by omega))
              · exact fun h => haccepted ((hshift k).symm.trans h)
              · exact congrArg P.group.asBytes (hshift k).symm
              · rw [World.advance_advance, Nat.succ_mul (k + 1)]
      · rw [if_pos hzero]
        constructor
        · intro h
          cases h
          exact ⟨0, by omega, fun j hj => absurd hj (Nat.not_lt_zero j), by simpa using hzero,
            by simp, by simp⟩
        · rintro ⟨k, hk, hrejected, -, rfl, rfl⟩
          cases k with
          | zero => simp
          | succ k => exact absurd (by simpa using hrejected 0 (by omega)) hzero

theorem randomNonzeroScalar_eq_ok_iff {w v : World} {b : Bytes privateKeyLength} :
    (randomNonzeroScalar P).run w = (.ok b, v) ↔ ∃ k, FirstScalar P w.tape k ∧
      b = P.group.asBytes (tapeScalar P w.tape (k * hashLength)) ∧
      v = w.advance ((k + 1) * hashLength) := by
  rw [randomNonzeroScalar, randomNonzeroScalarLoop_eq_ok_iff]
  constructor
  · rintro ⟨k, hk, hrejected, haccepted, hb, hv⟩
    exact ⟨k, ⟨hk, hrejected, haccepted⟩, hb, hv⟩
  · rintro ⟨k, ⟨hk, hrejected, haccepted⟩, hb, hv⟩
    exact ⟨k, hk, hrejected, haccepted, hb, hv⟩

end AuraOpaque.Core
