import AuraOpaque.Foundation.Command
import Mathlib.Data.Vector.Basic
import Mathlib.Data.Vector.MapLemmas
import Mathlib.Algebra.Ring.Nat

/-!
# Byte strings, arrays and checked slices

Slices are lists and fixed-size arrays are length-indexed vectors.  Every
operation that can index out of bounds is partial: it unwinds instead of
returning a wrong value, as the bounds checks of the source language do.
-/

namespace AuraOpaque.Foundation

abbrev Bytes (n : ℕ) := List.Vector UInt8 n

/-- `[0u8; n]`. -/
def zeros (n : ℕ) : Bytes n := List.Vector.replicate n 0

@[simp] theorem zeros_toList (n : ℕ) : (zeros n).toList = List.replicate n 0 := rfl

def ofList {α : Type} {n : ℕ} (source : List α) (h : source.length = n) : List.Vector α n :=
  ⟨source, h⟩

@[simp] theorem toList_ofList {α : Type} {n : ℕ} (source : List α) (h : source.length = n) :
    (ofList source h).toList = source := rfl

@[simp] theorem ofList_toList {α : Type} {n : ℕ} (v : List.Vector α n)
    (h : v.toList.length = n) : ofList v.toList h = v := rfl

/-- Fields of fixed length can be told apart in a row. -/
theorem toList_append_inj {α : Type} {n : ℕ} {v v' : List.Vector α n} {l l' : List α}
    (h : v.toList ++ l = v'.toList ++ l') : v = v' ∧ l = l' := by
  obtain ⟨hvector, hrest⟩ := List.append_inj h (by simp)
  exact ⟨List.Vector.toList_injective hvector, hrest⟩

theorem isEmpty_toList {α : Type} {n : ℕ} (hpos : 0 < n) (v : List.Vector α n) :
    v.toList.isEmpty = false := by
  rw [List.isEmpty_eq_false_iff, ← List.length_pos_iff, List.Vector.toList_length]
  exact hpos

section Slices

variable {ε α : Type} {n : ℕ}

/-- `&buffer[lo..hi]`. -/
def slice (buffer : List α) (lo hi : ℕ) : Outcome ε (List α) :=
  if lo ≤ hi ∧ hi ≤ buffer.length then .ok ((buffer.drop lo).take (hi - lo)) else .panic

/-- `buffer[lo..hi].copy_from_slice(source)`. -/
def splice (buffer : List.Vector α n) (lo hi : ℕ) (source : List α) :
    Outcome ε (List.Vector α n) :=
  if h : lo ≤ hi ∧ hi ≤ n ∧ source.length = hi - lo then
    .ok (ofList (buffer.toList.take lo ++ source ++ buffer.toList.drop hi) (by
      simp only [List.length_append, List.length_take, List.length_drop,
        List.Vector.toList_length]
      omega))
  else .panic

/-- `array.copy_from_slice(source)` for a whole array of `n` elements. -/
def copyFromSlice (n : ℕ) (source : List α) : Outcome ε (List.Vector α n) :=
  if h : source.length = n then .ok (ofList source h) else .panic

/-- `slice.try_into()` for an array of `n` elements. -/
def tryInto (n : ℕ) (source : List α) : Option (List.Vector α n) :=
  if h : source.length = n then some (ofList source h) else none

theorem slice_eq_ok {buffer : List α} {lo hi : ℕ} (h : lo ≤ hi) (h' : hi ≤ buffer.length) :
    (slice buffer lo hi : Outcome ε (List α)) = .ok ((buffer.drop lo).take (hi - lo)) := by
  simp [slice, h, h']

theorem slice_append (before part after : List α) {lo hi : ℕ} (hlo : lo = before.length)
    (hhi : hi = before.length + part.length) :
    (slice (before ++ (part ++ after)) lo hi : Outcome ε (List α)) = .ok part := by
  subst hlo hhi
  rw [slice_eq_ok (by omega) (by simp)]
  simp

theorem slice_left (part after : List α) {hi : ℕ} (hhi : hi = part.length) :
    (slice (part ++ after) 0 hi : Outcome ε (List α)) = .ok part := by
  simpa using @slice_append ε α [] part after 0 hi rfl (by simpa using hhi)

theorem slice_right (before part : List α) {lo hi : ℕ} (hlo : lo = before.length)
    (hhi : hi = before.length + part.length) :
    (slice (before ++ part) lo hi : Outcome ε (List α)) = .ok part := by
  simpa using @slice_append ε α before part [] lo hi hlo hhi

theorem eq_append_of_slice {buffer before after : List α} {mid : ℕ}
    (hbefore : (slice buffer 0 mid : Outcome ε (List α)) = .ok before)
    (hafter : (slice buffer mid buffer.length : Outcome ε (List α)) = .ok after) :
    buffer = before ++ after := by
  unfold slice at hbefore hafter
  split at hbefore <;> split at hafter <;> cases hbefore <;> cases hafter
  have hrest : (buffer.drop mid).take (buffer.length - mid) = buffer.drop mid :=
    List.take_of_length_le (by simp)
  rw [hrest, List.drop_zero, Nat.sub_zero, List.take_append_drop]

/-- Writing at the end of what is already written moves the frontier. -/
theorem splice_toList {buffer : List.Vector α n} {written rest source : List α} {lo hi : ℕ}
    (hbuffer : buffer.toList = written ++ rest) (hlo : lo = written.length)
    (hhi : hi = lo + source.length) (hfits : source.length ≤ rest.length) :
    ∃ buffer' : List.Vector α n,
      (splice buffer lo hi source : Outcome ε (List.Vector α n)) = .ok buffer' ∧
        buffer'.toList = (written ++ source) ++ rest.drop source.length := by
  have hlen : written.length + rest.length = n := by
    have := congrArg List.length hbuffer
    simpa using this.symm
  have hbounds : lo ≤ hi ∧ hi ≤ n ∧ source.length = hi - lo := by omega
  refine ⟨_, dif_pos hbounds, ?_⟩
  subst hlo hhi
  rw [toList_ofList, hbuffer, List.take_left, List.drop_append,
    List.drop_of_length_le (Nat.le_add_right _ _)]
  simp

theorem splice_whole {buffer : List.Vector α n} {source : List α} {hi : ℕ}
    (h : source.length = n) (hhi : hi = n) :
    (splice buffer 0 hi source : Outcome ε (List.Vector α n)) = .ok (ofList source h) := by
  have hbounds : 0 ≤ hi ∧ hi ≤ n ∧ source.length = hi - 0 := by omega
  rw [splice, dif_pos hbounds]
  congr 1
  apply List.Vector.toList_injective
  rw [toList_ofList, toList_ofList, List.drop_of_length_le (by simp; omega)]
  simp

@[simp] theorem copyFromSlice_toList (v : List.Vector α n) :
    (copyFromSlice n v.toList : Outcome ε (List.Vector α n)) = .ok v := by
  rw [copyFromSlice, dif_pos v.toList_length]
  rfl

theorem copyFromSlice_eq_ok {source : List α} (h : source.length = n) :
    (copyFromSlice n source : Outcome ε (List.Vector α n)) = .ok (ofList source h) := by
  rw [copyFromSlice, dif_pos h]

theorem copyFromSlice_eq_ok_iff {source : List α} {v : List.Vector α n} :
    (copyFromSlice n source : Outcome ε (List.Vector α n)) = .ok v ↔ source = v.toList := by
  constructor
  · intro h
    unfold copyFromSlice at h
    split at h
    · cases h
      rfl
    · cases h
  · rintro rfl
    exact copyFromSlice_toList v

@[simp] theorem tryInto_toList (v : List.Vector α n) : tryInto n v.toList = some v := by
  rw [tryInto, dif_pos v.toList_length]
  rfl

theorem tryInto_eq_some {source : List α} (h : source.length = n) :
    tryInto n source = some (ofList source h) := by
  rw [tryInto, dif_pos h]

theorem tryInto_eq_some_iff {source : List α} {v : List.Vector α n} :
    tryInto n source = some v ↔ source = v.toList := by
  constructor
  · intro h
    unfold tryInto at h
    split at h
    · cases h
      rfl
    · cases h
  · rintro rfl
    exact tryInto_toList v

theorem slice_ne_panic {buffer : List α} {lo hi : ℕ} (h : lo ≤ hi) (h' : hi ≤ buffer.length) :
    (slice buffer lo hi : Outcome ε (List α)) ≠ .panic := by
  rw [slice_eq_ok h h']
  exact Outcome.ok_ne_panic

theorem length_of_slice {buffer part : List α} {lo hi : ℕ}
    (h : (slice buffer lo hi : Outcome ε (List α)) = .ok part) : part.length = hi - lo := by
  unfold slice at h
  split at h
  · cases h
    simp
    omega
  · cases h

theorem copyFromSlice_ne_panic {source : List α} (h : source.length = n) :
    (copyFromSlice n source : Outcome ε (List.Vector α n)) ≠ .panic := by
  rw [copyFromSlice_eq_ok h]
  exact Outcome.ok_ne_panic

theorem copy_slice_safe {σ β : Type} {I : σ → Prop} {buffer : List α} {lo hi : ℕ}
    {f : List.Vector α n → Cmd ε σ β} (h : lo ≤ hi) (h' : hi ≤ buffer.length) (hn : hi - lo = n)
    (hf : ∀ a, Cmd.Safe I (f a)) :
    Cmd.Safe I (Cmd.lift (slice buffer lo hi) >>= fun part =>
      Cmd.lift (copyFromSlice n part) >>= f) := by
  refine .cmdLift_bind (slice_ne_panic h h') fun part hpart => ?_
  exact .bind (.cmdLift (copyFromSlice_ne_panic ((length_of_slice hpart).trans hn))) hf

theorem splice_ne_panic {buffer : List.Vector α n} {lo hi : ℕ} {source : List α} (h : lo ≤ hi)
    (h' : hi ≤ n) (hlen : source.length = hi - lo) :
    (splice buffer lo hi source : Outcome ε (List.Vector α n)) ≠ .panic := by
  rw [splice, dif_pos ⟨h, h', hlen⟩]
  exact Outcome.ok_ne_panic

/-- `buffer[lo..hi].copy_from_slice(source)` on the buffer that the command fills. -/
def spliceAt (lo hi : ℕ) (source : List α) : Cmd ε (List.Vector α n) Unit where
  run buffer :=
    match (splice buffer lo hi source : Outcome ε (List.Vector α n)) with
    | .ok buffer' => (.ok (), buffer')
    | .err e => (.err e, buffer)
    | .panic => (.panic, buffer)

/-! Copies panic, but they report no errors. -/

section Errors

variable {errors : ε → Prop}

theorem slice_raises (buffer : List α) (lo hi : ℕ) :
    (slice buffer lo hi : Outcome ε (List α)).Raises errors := by
  unfold slice
  split
  · exact .ok _
  · exact .panic

theorem splice_raises (buffer : List.Vector α n) (lo hi : ℕ) (source : List α) :
    (splice buffer lo hi source : Outcome ε (List.Vector α n)).Raises errors := by
  unfold splice
  split
  · exact .ok _
  · exact .panic

theorem copyFromSlice_raises (n : ℕ) (source : List α) :
    (copyFromSlice n source : Outcome ε (List.Vector α n)).Raises errors := by
  unfold copyFromSlice
  split
  · exact .ok _
  · exact .panic

theorem spliceAt_raises (lo hi : ℕ) (source : List α) :
    (spliceAt lo hi source : Cmd ε (List.Vector α n) Unit).Raises errors := by
  intro buffer
  have hraises := @splice_raises ε α n errors buffer lo hi source
  rcases hsplice : (splice buffer lo hi source : Outcome ε _) with _ | e | _ <;>
    rw [hsplice] at hraises <;> simp only [spliceAt, hsplice]
  · exact .ok ()
  · exact .err (hraises e rfl)
  · exact .panic

end Errors

/-- The command succeeds and overwrites the elements from `lo` on by `source`. -/
def Writes (lo : ℕ) (source : List α) (c : Cmd ε (List.Vector α n) Unit) : Prop :=
  lo + source.length ≤ n → ∀ buffer : List.Vector α n, ∃ buffer' : List.Vector α n,
    c.run buffer = (.ok (), buffer') ∧
      buffer'.toList =
        buffer.toList.take lo ++ source ++ buffer.toList.drop (lo + source.length)

theorem Writes.spliceAt {lo hi : ℕ} {source : List α} (hhi : hi = lo + source.length) :
    Writes lo source (spliceAt lo hi source : Cmd ε (List.Vector α n) Unit) := by
  intro hfits buffer
  have hsplit : buffer.toList = buffer.toList.take lo ++ buffer.toList.drop lo := by simp
  have hlo : lo = (buffer.toList.take lo).length := by simp; omega
  obtain ⟨buffer', hrun, hlist⟩ :=
    @splice_toList ε α n buffer _ _ source lo hi hsplit hlo hhi (by simp; omega)
  refine ⟨buffer', ?_, ?_⟩
  · rw [Foundation.spliceAt]
    simp only [hrun]
  · rw [hlist, List.drop_drop]

theorem Writes.andThen {lo mid : ℕ} {source source' : List α}
    {c d : Cmd ε (List.Vector α n) Unit} (hc : Writes lo source c)
    (hd : Writes mid source' d) (hmid : mid = lo + source.length) :
    Writes lo (source ++ source') (c >>= fun _ => d) := by
  subst hmid
  intro hfits buffer
  rw [List.length_append] at hfits
  obtain ⟨buffer₁, hrun₁, hlist₁⟩ := hc (by omega) buffer
  obtain ⟨buffer₂, hrun₂, hlist₂⟩ := hd (by omega) buffer₁
  have hwritten : (buffer.toList.take lo ++ source).length = lo + source.length := by
    simp; omega
  refine ⟨buffer₂, ?_, ?_⟩
  · rw [Cmd.run_bind_ok hrun₁, hrun₂]
  · rw [hlist₂, hlist₁, List.take_append_of_le_length (by omega),
      List.take_of_length_le (by omega), List.drop_append, List.drop_drop,
      List.drop_of_length_le (by omega), hwritten]
    simp [Nat.add_assoc]

theorem Writes.spliceThen {lo hi : ℕ} {source source' : List α} {d : Cmd ε (List.Vector α n) Unit}
    (hhi : hi = lo + source.length) (hd : Writes hi source' d) :
    Writes lo (source ++ source') (Foundation.spliceAt lo hi source >>= fun _ => d) :=
  Writes.andThen (.spliceAt hhi) hd hhi

theorem Writes.safe {lo : ℕ} {source : List α} {c : Cmd ε (List.Vector α n) Unit}
    (h : Writes lo source c) (hfits : lo + source.length ≤ n) :
    Cmd.Safe (fun _ => True) c := by
  intro buffer _
  obtain ⟨buffer', hrun, -⟩ := h hfits buffer
  rw [hrun]
  exact ⟨Outcome.ok_ne_panic, trivial⟩

/-- A command that writes the whole buffer leaves nothing of its old contents. -/
theorem Writes.fill {source : List α} {c : Cmd ε (List.Vector α n) Unit} (hc : Writes 0 source c)
    (hlen : source.length = n) (fresh : List.Vector α n) :
    Cmd.fill fresh c = .ok (ofList source hlen) := by
  obtain ⟨buffer, hrun, hlist⟩ := hc (by omega) fresh
  rw [Cmd.fill_eq_ok_iff, hrun]
  congr 1
  apply List.Vector.toList_injective
  rw [hlist, toList_ofList, List.drop_of_length_le (by simp; omega)]
  simp

/-- A buffer that is written front to back, with the position of the next write. -/
structure Cursor (α : Type) (n : ℕ) where
  buffer : List.Vector α n
  off : ℕ

def Cursor.written (c : Cursor α n) : List α := c.buffer.toList.take c.off

/-- `buffer[off..off + data.len()].copy_from_slice(data); off += data.len()`. -/
def Cursor.append (data : List α) : Cmd ε (Cursor α n) Unit where
  run c :=
    match (splice c.buffer c.off (c.off + data.length) data : Outcome ε (List.Vector α n)) with
    | .ok buffer => (.ok (), ⟨buffer, c.off + data.length⟩)
    | .err e => (.err e, c)
    | .panic => (.panic, c)

theorem Cursor.append_raises {errors : ε → Prop} (data : List α) :
    (Cursor.append data : Cmd ε (Cursor α n) Unit).Raises errors := by
  intro c
  have hraises := @splice_raises ε α n errors c.buffer c.off (c.off + data.length) data
  rcases hsplice : (splice c.buffer c.off (c.off + data.length) data : Outcome ε _) with
    _ | e | _ <;> rw [hsplice] at hraises <;> simp only [Cursor.append, hsplice]
  · exact .ok ()
  · exact .err (hraises e rfl)
  · exact .panic

/-- Where there is room, the command appends `data`. -/
def Appends (data : List α) (cmd : Cmd ε (Cursor α n) Unit) : Prop :=
  ∀ c : Cursor α n, c.off + data.length ≤ n → ∃ c' : Cursor α n,
    cmd.run c = (.ok (), c') ∧ c'.off = c.off + data.length ∧
      c'.written = c.written ++ data

theorem Appends.append (data : List α) :
    Appends data (Cursor.append data : Cmd ε (Cursor α n) Unit) := by
  intro c hroom
  have hsplit : c.buffer.toList = c.written ++ c.buffer.toList.drop c.off := by
    simp [Cursor.written]
  have hoff : c.off = c.written.length := by simp [Cursor.written]; omega
  obtain ⟨buffer', hrun, hlist⟩ :=
    @splice_toList ε α n c.buffer _ _ data c.off _ hsplit hoff rfl (by simp; omega)
  refine ⟨⟨buffer', c.off + data.length⟩, ?_, rfl, ?_⟩
  · rw [Cursor.append]
    simp only [hrun]
  · rw [Cursor.written, hlist, List.take_append_of_le_length (by simp; omega),
      List.take_of_length_le (by simp; omega)]

theorem Appends.andThen {data data' : List α} {c d : Cmd ε (Cursor α n) Unit}
    (hc : Appends data c) (hd : Appends data' d) :
    Appends (data ++ data') (c >>= fun _ => d) := by
  intro s hroom
  rw [List.length_append] at hroom
  obtain ⟨s₁, hrun₁, hoff₁, hwritten₁⟩ := hc s (by omega)
  obtain ⟨s₂, hrun₂, hoff₂, hwritten₂⟩ := hd s₁ (by omega)
  refine ⟨s₂, ?_, ?_, ?_⟩
  · rw [Cmd.run_bind_ok hrun₁, hrun₂]
  · rw [hoff₂, hoff₁, List.length_append, Nat.add_assoc]
  · rw [hwritten₂, hwritten₁, List.append_assoc]

theorem Appends.appendThen {data data' : List α} {d : Cmd ε (Cursor α n) Unit}
    (hd : Appends data' d) : Appends (data ++ data') (Cursor.append data >>= fun _ => d) :=
  (Appends.append data).andThen hd

/-- Reading back the written part of a buffer filled from its start. -/
theorem Appends.fill {data : List α} {cmd : Cmd ε (Cursor α n) Unit} (h : Appends data cmd)
    (hfits : data.length ≤ n) (fresh : List.Vector α n) :
    ∃ c : Cursor α n, Cmd.fill ⟨fresh, 0⟩ cmd = .ok c ∧
      (slice c.buffer.toList 0 c.off : Outcome ε (List α)) = .ok data := by
  obtain ⟨c, hrun, hoff, hwritten⟩ := h ⟨fresh, 0⟩ (by simpa using hfits)
  refine ⟨c, Cmd.fill_eq_ok_iff.mpr hrun, ?_⟩
  have hle : c.off ≤ c.buffer.toList.length := by
    rw [hoff, List.Vector.toList_length]
    simpa using hfits
  have hread : c.buffer.toList.take c.off = data := by
    rw [← Cursor.written, hwritten]
    simp [Cursor.written]
  rw [slice_eq_ok (Nat.zero_le _) hle, List.drop_zero, Nat.sub_zero, hread]

end Slices

/-! ## Framings -/

section Framing

variable {ε α : Type}

theorem slice_flatten (before : List (List α)) (part : List α) (after : List (List α))
    {lo hi : ℕ} (hlo : lo = before.flatten.length) (hhi : hi = lo + part.length) :
    (slice (before ++ part :: after).flatten lo hi : Outcome ε (List α)) = .ok part := by
  rw [List.flatten_append, List.flatten_cons]
  exact slice_append _ _ _ hlo (by omega)

theorem exists_parts (data : List α) (lengths : List ℕ) (h : data.length = lengths.sum) :
    ∃ parts : List (List α), parts.map List.length = lengths ∧ data = parts.flatten := by
  induction lengths generalizing data with
  | nil => exact ⟨[], rfl, by simpa using h⟩
  | cons length lengths ih =>
      rw [List.sum_cons] at h
      obtain ⟨parts, hparts, hrest⟩ := ih (data.drop length) (by simp; omega)
      refine ⟨data.take length :: parts, ?_, ?_⟩
      · simp [hparts]
        omega
      · rw [List.flatten_cons, ← hrest, List.take_append_drop]

/-- Concatenations of parts of the same lengths agree only part by part. -/
theorem flatten_injective_of_lengths {parts parts' : List (List α)}
    (hlen : parts.map List.length = parts'.map List.length)
    (h : parts.flatten = parts'.flatten) : parts = parts' := by
  induction parts generalizing parts' with
  | nil =>
      cases parts' with
      | nil => rfl
      | cons => simp at hlen
  | cons part parts ih =>
      cases parts' with
      | nil => simp at hlen
      | cons part' parts' =>
          simp only [List.map_cons, List.cons.injEq] at hlen
          simp only [List.flatten_cons] at h
          obtain ⟨hpart, hrest⟩ := List.append_inj h hlen.1
          rw [hpart, ih hlen.2 hrest]

end Framing

/-! ## Zero bytes and exclusive or -/

/-- All bytes are zero, by accumulating their disjunction. -/
def isAllZero (data : List UInt8) : Bool := data.foldl (· ||| ·) 0 == 0

private theorem foldl_or_eq_zero_iff (data : List UInt8) (acc : UInt8) :
    data.foldl (· ||| ·) acc = 0 ↔ acc = 0 ∧ ∀ b ∈ data, b = 0 := by
  induction data generalizing acc with
  | nil => simp
  | cons b data ih =>
      rw [List.foldl_cons, ih, UInt8.or_eq_zero_iff]
      simp [and_assoc]

theorem isAllZero_iff {data : List UInt8} : isAllZero data = true ↔ ∀ b ∈ data, b = 0 := by
  simp [isAllZero, foldl_or_eq_zero_iff]

theorem isAllZero_toList_iff {n : ℕ} {v : Bytes n} :
    isAllZero v.toList = true ↔ v = zeros n := by
  rw [isAllZero_iff, ← List.Vector.toList_injective.eq_iff, zeros_toList,
    List.eq_replicate_iff]
  simp

theorem isAllZero_toList_eq_false_iff {n : ℕ} {v : Bytes n} :
    isAllZero v.toList = false ↔ v ≠ zeros n := by
  rw [← Bool.not_eq_true, isAllZero_toList_iff]

def xorBytes {n : ℕ} (a b : Bytes n) : Bytes n := List.Vector.map₂ (· ^^^ ·) a b

theorem getD_xorBytes {n : ℕ} (a b : Bytes n) (i : ℕ) :
    (xorBytes a b).toList.getD i 0 = a.toList.getD i 0 ^^^ b.toList.getD i 0 := by
  obtain ⟨a, ha⟩ := a
  obtain ⟨b, hb⟩ := b
  change (List.zipWith (· ^^^ ·) a b).getD i 0 = a.getD i 0 ^^^ b.getD i 0
  simp only [List.getD_eq_getElem?_getD, List.getElem?_zipWith]
  by_cases hi : i < n <;> simp [ha, hb, hi]

/-- A one-time pad applied twice disappears. -/
@[simp] theorem xorBytes_cancel {n : ℕ} (a pad : Bytes n) :
    xorBytes (xorBytes a pad) pad = a := by
  apply List.Vector.ext
  intro i
  simp only [xorBytes, List.Vector.get_map₂]
  rw [UInt8.xor_assoc, UInt8.xor_self, UInt8.xor_zero]

end AuraOpaque.Foundation
