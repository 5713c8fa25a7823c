import AuraOpaque.Ffi.Relay

/-!
# Admission and commitment

How a stateful call is put together: checks that leave with an error, two
acquisitions, and one operation on the session that writes the callers' buffers
as its last act.  Each part has a rule for `Program.Admits`.
-/

namespace AuraOpaque.Ffi

open AuraOpaque.Foundation AuraOpaque.Core

/-! ## Ranges of the callers' memory -/

namespace Memory

variable {m : Memory} {address : ℕ} {bytes : List UInt8}

@[simp] theorem length_read (m : Memory) (address length : ℕ) :
    (m.read address length).length = length := by
  simp [read]

theorem read_write : (m.write address bytes).read address bytes.length = bytes := by
  apply List.ext_getElem
  · simp
  · intro i hi hi'
    simp [read, write, List.getElem?_eq_getElem hi']

theorem write_beyond {a : ℕ} (h : a < address ∨ address + bytes.length ≤ a) :
    m.write address bytes a = m a := by
  unfold write
  split
  · have hlen : bytes.length ≤ a - address := by omega
    rw [List.getD_eq_getElem?_getD, List.getElem?_eq_none hlen]
    rfl
  · rfl

theorem read_write_beyond {a length : ℕ}
    (h : a + length ≤ address ∨ address + bytes.length ≤ a) :
    (m.write address bytes).read a length = m.read a length := by
  unfold read
  refine List.map_congr_left fun i hi => write_beyond ?_
  have hlt := List.mem_range.mp hi
  omega

structure Commits (m m' : Memory) (outputs : List (ℕ × List UInt8)) : Prop where
  written : ∀ o ∈ outputs, m'.read o.1 o.2.length = o.2
  beyond : ∀ a, (∀ o ∈ outputs, a < o.1 ∨ o.1 + o.2.length ≤ a) → m' a = m a

theorem commits_write : m.Commits (m.write address bytes) [(address, bytes)] where
  written := by simp [read_write]
  beyond a h := write_beyond (by simpa using h)

theorem commits_write_write {address' : ℕ} {bytes' : List UInt8}
    (h : address + bytes.length ≤ address' ∨ address' + bytes'.length ≤ address) :
    m.Commits ((m.write address bytes).write address' bytes')
      [(address, bytes), (address', bytes')] where
  written := by
    simp only [List.forall_mem_cons, List.not_mem_nil, false_implies, implies_true, and_true]
    exact ⟨(read_write_beyond h).trans read_write, read_write⟩
  beyond a ha := by
    simp only [List.forall_mem_cons, List.not_mem_nil, false_implies, implies_true,
      and_true] at ha
    exact (write_beyond ha.2).trans (write_beyond ha.1)

end Memory

theorem apart_of_rangesOverlap {left leftLen right rightLen : ℕ} (hleft : leftLen ≠ 0)
    (hright : rightLen ≠ 0) (h : ¬ rangesOverlap left leftLen right rightLen = true) :
    left + leftLen ≤ right ∨ right + rightLen ≤ left := by
  unfold rangesOverlap checkedAdd at h
  rw [if_neg (by omega)] at h
  split at h
  · simp at h
  · simp at h
  · next leftEnd rightEnd hl hr =>
      split at hl <;> cases hl
      split at hr <;> cases hr
      simp only [Bool.and_eq_true, decide_eq_true_eq] at h
      omega

/-! ## Codes of the library -/

section Codes

variable {α β : Type} {o : Outcome ℤ α}

/-- Neither success nor refusal. -/
abbrev FailureCode (code : ℤ) : Prop := code ≠ 0 ∧ code ≠ ffiBusy

theorem toCInt_failure (e : OpaqueError) : FailureCode e.toCInt := by
  cases e <;> decide

def Diagnosed (o : Outcome ℤ α) : Prop := ∀ code, o = .err code → FailureCode code

namespace Diagnosed

theorem pure (a : α) : Diagnosed (Pure.pure a : Outcome ℤ α) := by
  intro code h
  cases h

theorem err {code : ℤ} (h : FailureCode code) : Diagnosed (.err code : Outcome ℤ α) := by
  intro code' h'
  cases h'
  exact h

theorem withCode {code : OpaqueError → ℤ} (hcode : ∀ e, FailureCode (code e))
    (o : OpaqueResult α) : Diagnosed (withCode code o) := by
  intro c h
  cases o <;> cases h
  exact hcode _

theorem failIf {p : Prop} [Decidable p] {code : ℤ} (h : FailureCode code) :
    Diagnosed (Outcome.failIf p code) := by
  unfold Outcome.failIf
  split
  · exact .err h
  · exact .pure ()

theorem copyFromSlice (n : ℕ) (source : List α) :
    Diagnosed (copyFromSlice n source : Outcome ℤ (List.Vector α n)) := by
  intro code h
  unfold Foundation.copyFromSlice at h
  split at h <;> cases h

theorem bind {k : α → Outcome ℤ β} (ho : Diagnosed o) (hk : ∀ a, Diagnosed (k a)) :
    Diagnosed (o >>= k) := by
  intro code h
  cases o with
  | ok a => exact hk a code h
  | err e => cases h; exact ho _ rfl
  | panic => cases h

end Diagnosed

end Codes

/-! ## Calls that admit a session -/

section Admits

variable {kind : Kind} {handle : ℕ} {data : Store} {good : ℤ → Store → Prop}

/-- The call is turned away with an error, or goes on to its one step on the session. -/
abbrev AdmitsTo (kind : Kind) (handle : ℕ) (data : Store) (good : ℤ → Store → Prop)
    (entry : Entry ℤ) : Prop :=
  entry.Admits good data ⟨kind, handle⟩ 0

theorem handleAccessToInt_ne_zero (e : HandleAccessError) : handleAccessToInt e ≠ 0 := by
  cases e <;> decide

theorem Entry.rejectIf_pos {p : Prop} [Decidable p] (hp : p) (error : OpaqueError)
    (next : Unit → Entry ℤ) : Entry.rejectIf p error >>= next = .exit error.toCInt := by
  rw [Entry.rejectIf, Program.exitIf, if_pos hp, Program.exit_bind]

theorem Entry.rejectIf_neg {p : Prop} [Decidable p] (hp : ¬ p) (error : OpaqueError)
    (next : Unit → Entry ℤ) : Entry.rejectIf p error >>= next = next () := by
  rw [Entry.rejectIf, Program.exitIf, if_neg hp, Program.ret_bind]

theorem AdmitsTo.rejectIf {p : Prop} [Decidable p] {error : OpaqueError} {next : Unit → Entry ℤ}
    (hnext : ¬ p → AdmitsTo kind handle data good (next ())) :
    AdmitsTo kind handle data good (Entry.rejectIf p error >>= next) := by
  unfold Entry.rejectIf Program.exitIf
  split
  · exact error.toCInt_neg.ne
  · next hp => exact hnext hp

theorem AdmitsTo.work {β : Type} {c : Cmd ℤ Store β} {next : β → Entry ℤ}
    (hsame : (c.run data).2 = data) (hcode : Diagnosed (c.run data).1)
    (hnext : ∀ b, (c.run data).1 = .ok b → AdmitsTo kind handle data good (next b)) :
    AdmitsTo kind handle data good (Entry.work c >>= next) := by
  unfold Entry.work
  simp only [Program.act_bind, Program.ret_bind, AdmitsTo, Program.Admits]
  rcases hrun : c.run data with ⟨b | code | _, data'⟩ <;> rw [hrun] at hsame <;> cases hsame
  · exact ⟨rfl, hnext b (by rw [hrun])⟩
  · exact ⟨rfl, (hcode code (by rw [hrun])).1⟩
  · exact ⟨rfl, (by decide : ffiPanic ≠ 0)⟩

theorem AdmitsTo.acquireOther {kind' : Kind} {handle' : ℕ} {next : Unit → Entry ℤ}
    (hkind : kind' ≠ kind) (hnext : AdmitsTo kind handle data good (next ())) :
    AdmitsTo kind handle data good (acquire kind' handle' >>= next) := by
  unfold acquire
  split
  · exact handleAccessToInt_ne_zero _
  · refine .inr ⟨fun h => hkind (congrArg Handle.kind h), fun taken => ?_⟩
    cases taken
    · exact handleAccessToInt_ne_zero _
    · exact hnext

theorem AdmitsTo.acquireAgent {address : ℕ} {next : Agent.OpaqueInitiator → Entry ℤ}
    (hkind : kind ≠ .agent)
    (hnext : AdmitsTo kind handle data good (next (data.agents address))) :
    AdmitsTo kind handle data good (acquireAgent address >>= next) := by
  unfold Ffi.acquireAgent
  rw [Program.bind_assoc]
  exact .acquireOther hkind.symm ⟨rfl, hnext⟩

theorem AdmitsTo.acquireRelay {address : ℕ} {next : Relay.OpaqueResponder → Entry ℤ}
    (hkind : kind ≠ .relay)
    (hnext : AdmitsTo kind handle data good (next (data.relays address))) :
    AdmitsTo kind handle data good (acquireRelay address >>= next) := by
  unfold Ffi.acquireRelay
  rw [Program.bind_assoc]
  exact .acquireOther hkind.symm ⟨rfl, hnext⟩

theorem AdmitsTo.acquireSession {next : Unit → Entry ℤ}
    (hnext : Program.Performs good data (next ())) :
    AdmitsTo kind handle data good (acquire kind handle >>= next) := by
  unfold acquire
  split
  · exact handleAccessToInt_ne_zero _
  · exact .inl ⟨rfl, ⟨_, handleAccessToInt_ne_zero .busy, rfl⟩, hnext⟩

end Admits

/-! ## Operations that commit at the end -/

section Operations

variable {H St Out α : Type} {read : H → St} {write : St → H → H} {out : Out}
  {c : Op Out St Unit} {f g : Frame Memory H}

abbrev KeepsMemory (c : Op Memory H α) : Prop :=
  ∀ m : Memory, Cmd.Preserves (fun f : Frame Memory H => f.out = m) c

theorem KeepsMemory.onSession : KeepsMemory (onSession read write out c) := by
  intro m f hf
  unfold Ffi.onSession
  rcases hrun : c.run ⟨out, read f.state, f.world⟩ with ⟨_ | e | _, cf⟩ <;>
    simpa only [hrun] using hf

/-- The codes of an operation: zero, the code of an error, or that of a panic. -/
theorem runStateful_code_cases (invalidate : H → H) (operation : Op Memory H Unit)
    (f : Frame Memory H) :
    (runStateful invalidate operation f).1 = 0 ∨
      (∃ e : OpaqueError, (runStateful invalidate operation f).1 = e.toCInt) ∨
      (runStateful invalidate operation f).1 = ffiPanic := by
  unfold runStateful
  rcases operation.run f with ⟨_ | e | _, f'⟩
  · exact .inl rfl
  · exact .inr (.inl ⟨e, rfl⟩)
  · exact .inr (.inr rfl)

theorem onSession_run {cf : Frame Out St} {o : Outcome OpaqueError Unit}
    (h : c.run ⟨out, read f.state, f.world⟩ = (o, cf)) :
    (onSession read write out c).run f =
      (o >>= fun _ => .ok cf.out,
        { f with state := write cf.state f.state, world := cf.world }) := by
  cases o <;> simp only [onSession, h] <;> rfl

theorem onSession_ok {o : Out} (h : (onSession read write out c).run f = (.ok o, g)) :
    ∃ cf, c.run ⟨out, read f.state, f.world⟩ = (.ok (), cf) ∧ o = cf.out ∧
      g = { f with state := write cf.state f.state, world := cf.world } := by
  rw [onSession] at h
  rcases hrun : c.run ⟨out, read f.state, f.world⟩ with ⟨_ | e | _, cf⟩ <;>
    simp only [hrun] at h <;> cases h
  exact ⟨cf, rfl, rfl, rfl⟩

theorem onSession_fill_ok {n : ℕ} {serialize : Out → Cmd OpaqueError (Bytes n) Unit}
    {wire : Bytes n}
    (h : (onSession read write out c >>= fun o =>
      (Cmd.lift (Cmd.fill (zeros n) (serialize o)) : Op Memory H (Bytes n))).run f =
        (.ok wire, g)) :
    ∃ cf, c.run ⟨out, read f.state, f.world⟩ = (.ok (), cf) ∧
      Cmd.fill (zeros n) (serialize cf.out) = .ok wire ∧
      g = { f with state := write cf.state f.state, world := cf.world } := by
  obtain ⟨o, g', hlibrary, hfill⟩ := Cmd.run_bind_eq_ok_iff.mp h
  obtain ⟨cf, hrun, rfl, rfl⟩ := onSession_ok hlibrary
  rw [Cmd.run_lift, Prod.mk.injEq] at hfill
  exact ⟨cf, hrun, hfill.1, hfill.2.symm⟩

/--
The operation committed, or the session was invalidated with the buffers as they
were: an error and a panic end alike, wherever they come from.
-/
theorem runStateful_cases {invalidate : H → H} {strike : Strike H} {body : Op Memory H α}
    {commit : α → Op Memory H Unit} (hbody : KeepsMemory body)
    (hcommit : ∀ a f, ∃ f', (commit a).run f = (.ok (), f')) (f : Frame Memory H) :
    (∃ a g g', body.run f = (.ok a, g) ∧ (commit a).run g = (.ok (), g') ∧
      runStateful invalidate (beforeCommit strike body >>= commit) f = (0, g')) ∨
    (∃ code h w, code ≠ 0 ∧
      runStateful invalidate (beforeCommit strike body >>= commit) f =
        (code, ⟨f.out, invalidate h, w⟩)) := by
  unfold runStateful
  cases strike with
  | some left => exact .inr ⟨ffiPanic, left.1, left.2, by decide, rfl⟩
  | none =>
      have hmemory := hbody f.out f rfl
      rcases hrun : body.run f with ⟨a | e | _, g⟩ <;> rw [hrun] at hmemory <;>
        dsimp only at hmemory <;> simp only [beforeCommit]
      · obtain ⟨g', hdone⟩ := hcommit a g
        refine .inl ⟨a, g, g', rfl, hdone, ?_⟩
        rw [Cmd.run_bind_ok hrun, hdone]
      · rw [Cmd.run_bind_err hrun, ← hmemory]
        exact .inr ⟨_, _, _, e.toCInt_neg.ne, rfl⟩
      · rw [Cmd.run_bind_panic hrun, ← hmemory]
        exact .inr ⟨ffiPanic, _, _, by decide, rfl⟩

end Operations

end AuraOpaque.Ffi
