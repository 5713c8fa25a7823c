import AuraOpaque.Swift.Agent

/-!
# What the classes rely on

The calls that the two classes make do to the objects what their effects say, lose
no pointer, and drop their guards at their end.
-/

namespace AuraOpaque.Swift

open AuraOpaque.Foundation
open AuraOpaque.Core (Primitives)
open AuraOpaque.Ffi (Entry Kind Store StatefulCall null slotAt)

variable {P : Primitives}

/-! ## Effects -/

theorem place_injective : Function.Injective Instance.place := by
  rintro (⟨a, ha⟩ | ⟨a, ha⟩) (⟨b, hb⟩ | ⟨b, hb⟩) h <;> simp [Instance.place] at h ⊢ <;> exact h

/-- The slot of a call is the place of the object that it creates or destroys. -/
theorem library_slot (native : Native) : (library P).slot native = native.call.slot := by
  cases native with
  | agentCreate agent key panics => exact (if_neg agent.nonnull).symm
  | agentDestroy agent => exact (if_neg agent.nonnull).symm
  | agentStateCreate state panics => exact (if_neg state.nonnull).symm
  | agentStateDestroy state => exact (if_neg state.nonnull).symm
  | onState call strike => rfl

theorem library_uses (native : Native) : (library P).uses native = native.call.uses := by
  cases native <;> rfl

/-- A call of the classes, whatever the relays in the process are like. -/
abbrev AnswersAlways (uses : List (Handle Kind)) (codes : List ℤ) (entry : Entry ℤ) : Prop :=
  entry.Answers (fun _ => True) (· ∈ uses) (· ∈ codes) Ffi.ffiBusy []

/-- With a variable to look into, the only code of a destructor is zero. -/
theorem tryDestroy_answers {uses : List (Handle Kind)} {kind : Kind} {handlePtr : ℕ}
    {drop : ℕ → Store → Store} (h : handlePtr ≠ null) :
    AnswersAlways uses [0] (Ffi.tryDestroy kind handlePtr drop) := by
  unfold Ffi.tryDestroy
  refine Program.exitIf_cases (motive := AnswersAlways _ _) (fun hnull => ?_) fun _ handle => ?_
  · exact absurd hnull h
  refine Program.exitIf_cases (motive := AnswersAlways _ _) (fun _ => ?_) fun _ => ?_
  · exact List.mem_cons_self
  · exact ⟨List.not_mem_nil, rfl, fun _ _ => trivial, List.mem_cons_self⟩

theorem Native.answers (native : Native) :
    AnswersAlways native.call.uses native.codes (native.call.program P) := by
  cases native with
  | agentCreate agent key panics => exact Ffi.Call.answers_always _
  | agentDestroy agent => exact tryDestroy_answers agent.nonnull
  | agentStateCreate state panics => exact Ffi.Call.answers_always _
  | agentStateDestroy state => exact tryDestroy_answers state.nonnull
  | onState call strike => exact Ffi.Call.answers_always _

/-- A constructor leaves a pointer exactly when it returns zero. -/
theorem content_of_createPost {kind : Kind} {address content : ℕ} {code : ℤ} {g : Ghost Kind}
    (h : Ffi.CreatePost (slotAt kind address) code g) (hne : address ≠ null)
    (hcontent : g.content = content) : content ≠ 0 ↔ code = 0 := by
  rw [← h.2.2, hcontent]
  simp [slotAt, hne]

theorem library_lawful : (library P).Lawful where
  place_injective := place_injective
  outline native content := by
    rw [library_slot]
    exact native.call.outline content
  answers native := by
    rw [library_uses]
    exact native.answers
  created := by
    intro native o code g heffect hpost
    cases native with
    | agentCreate agent key panics => exact content_of_createPost hpost agent.nonnull rfl
    | agentStateCreate state panics => exact content_of_createPost hpost state.nonnull rfl
    | _ => cases heffect
  destroyed := by
    intro native o code g heffect hcode hpost
    cases native with
    | agentDestroy agent => exact hpost.1 (List.mem_singleton.mp hcode)
    | agentStateDestroy state => exact hpost.1 (List.mem_singleton.mp hcode)
    | _ => cases heffect

/-! ## Pointers -/

section Thrifty

variable {content : ℕ} {own : Claim Kind}

theorem thrifty_rejectIf {p : Prop} [Decidable p] {error : Core.OpaqueError}
    {next : Unit → Entry ℤ} (hnext : (next ()).Thrifty content own) :
    (Entry.rejectIf p error >>= next).Thrifty content own :=
  Program.exitIf_cases (motive := (Program.Thrifty · content own)) (fun _ => trivial) fun _ => hnext

theorem thrifty_tryDestroy {kind : Kind} {handlePtr : ℕ} {drop : ℕ → Store → Store} :
    (Ffi.tryDestroy kind handlePtr drop).Thrifty content .none := by
  refine thrifty_rejectIf ?_
  refine Program.exitIf_cases (motive := (Program.Thrifty · content _)) (fun _ => ?_) fun _ => ?_
  · trivial
  · exact ⟨trivial, fun _ => rfl, trivial⟩

theorem library_thrifty : (library P).Thrifty := by
  intro native content hcontent
  cases native with
  | agentCreate agent key panics =>
      obtain rfl := hcontent _ rfl
      refine thrifty_rejectIf ⟨fun h => absurd rfl h, thrifty_rejectIf ?_⟩
      exact fun _ _ => ⟨rfl, fun _ => trivial⟩
  | agentDestroy agent => exact thrifty_tryDestroy
  | agentStateCreate state panics =>
      obtain rfl := hcontent _ rfl
      refine thrifty_rejectIf ⟨fun h => absurd rfl h, ?_⟩
      exact fun _ _ => ⟨rfl, fun _ => trivial⟩
  | agentStateDestroy state => exact thrifty_tryDestroy
  | onState call strike =>
      have hplain := @StatefulCall.plain P (fun _ => true) (.agent call strike) fun _ _ _ => rfl
      exact hplain.thrifty content .none

end Thrifty

/-! ## Guards -/

section Scoped

theorem scoped_rejectIf {p : Prop} [Decidable p] {error : Core.OpaqueError}
    {next : Unit → Entry ℤ} (hnext : (next ()).Scoped) :
    (Entry.rejectIf p error >>= next).Scoped :=
  Program.exitIf_cases (motive := Program.Scoped) (fun _ => trivial) fun _ => hnext

theorem library_scoped (native : Native) : ((library P).program native).Scoped := by
  cases native with
  | agentCreate agent key panics =>
      exact scoped_rejectIf (scoped_rejectIf fun _ _ => trivial)
  | agentDestroy agent => exact Ffi.Call.tryDestroy_unguarded.scoped
  | agentStateCreate state panics =>
      exact scoped_rejectIf fun _ _ => trivial
  | agentStateDestroy state => exact Ffi.Call.tryDestroy_unguarded.scoped
  | onState call strike =>
      have hplain := @StatefulCall.plain P (fun _ => true) (.agent call strike) fun _ _ _ => rfl
      exact hplain.scoped

theorem rank_le (o : Instance) : (library P).rank o ≤ 1 := by
  cases o <;> simp [library, Instance.rank]

end Scoped

end AuraOpaque.Swift
