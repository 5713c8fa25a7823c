import AuraOpaque.Foundation.Bytes

/-!
# HKDF expansion, abstractly

`T(0)` is empty and `T(i)` is the keyed function at `T(i-1) ‖ info ‖ i`; the
output is a prefix of `T(1) ‖ T(2) ‖ …`.  The keyed function is a parameter.
-/

namespace AuraOpaque.Foundation.Hkdf

variable {h : ℕ} (prf : List UInt8 → Bytes h) (info : List UInt8)

def block : ℕ → List UInt8
  | 0 => []
  | i + 1 => (prf (block i ++ info ++ [UInt8.ofNat (i + 1)])).toList

/-- `T(1) ‖ … ‖ T(k)`. -/
def stream : ℕ → List UInt8
  | 0 => []
  | k + 1 => stream k ++ block prf info (k + 1)

@[simp] theorem block_succ_length (i : ℕ) : (block prf info (i + 1)).length = h := by
  simp [block]

@[simp] theorem stream_length (k : ℕ) : (stream prf info k).length = k * h := by
  induction k with
  | zero => simp [stream]
  | succ k ih => simp [stream, ih, Nat.succ_mul]

theorem stream_prefix {k l : ℕ} (hkl : k ≤ l) : stream prf info k <+: stream prf info l := by
  induction l with
  | zero =>
      obtain rfl : k = 0 := by omega
      exact List.prefix_rfl
  | succ l ih =>
      rcases Nat.lt_or_eq_of_le hkl with hlt | rfl
      · exact (ih (by omega)).trans (List.prefix_append _ _)
      · exact List.prefix_rfl

/-- A cut of the stream does not depend on how many blocks were made for it. -/
theorem take_stream {k l n : ℕ} (hk : n ≤ k * h) (hl : n ≤ l * h) :
    (stream prf info k).take n = (stream prf info l).take n := by
  rcases Nat.le_total k l with hkl | hlk
  · obtain ⟨rest, hrest⟩ := stream_prefix prf info hkl
    rw [← hrest, List.take_append_of_le_length (by simpa using hk)]
  · obtain ⟨rest, hrest⟩ := stream_prefix prf info hlk
    rw [← hrest, List.take_append_of_le_length (by simpa using hl)]

/-- The first `n` bytes of the stream. -/
def output (n : ℕ) : List UInt8 := (stream prf info ((n + h - 1) / h)).take n

/-- Rounding up to whole blocks leaves room for `n` bytes. -/
private theorem le_blocks (hpos : 0 < h) (n : ℕ) : n ≤ (n + h - 1) / h * h := by
  have := Nat.div_add_mod (n + h - 1) h
  have := Nat.mod_lt (n + h - 1) hpos
  have := Nat.mul_comm h ((n + h - 1) / h)
  omega

theorem output_length (hpos : 0 < h) (n : ℕ) : (output prf info n).length = n := by
  simp [output, le_blocks hpos n]

theorem output_eq_take (hpos : 0 < h) {k n : ℕ} (hk : n ≤ k * h) :
    output prf info n = (stream prf info k).take n :=
  take_stream prf info (le_blocks hpos n) hk

theorem output_prefix (hpos : 0 < h) {m n : ℕ} (hmn : m ≤ n) :
    output prf info m <+: output prf info n := by
  have hn := le_blocks hpos n
  rw [output_eq_take prf info hpos (hmn.trans hn), output_eq_take prf info hpos hn]
  exact List.take_prefix_take_left hmn

/-- One block is the keyed function at `info ‖ 1`. -/
theorem output_block (hpos : 0 < h) : output prf info h = (prf (info ++ [1])).toList := by
  have hblocks : (h + h - 1) / h = 1 := by
    rw [show h + h - 1 = (h - 1) + h by omega, Nat.add_div_right _ hpos,
      Nat.div_eq_of_lt (by omega)]
  rw [output, hblocks]
  simp [stream, block]

/-- Every output starts like the first block. -/
theorem output_head (hpos : 0 < h) {n : ℕ} (hn : 0 < n) :
    (output prf info n).head? = (prf (info ++ [1])).toList.head? := by
  have hblocks : 1 ≤ (n + h - 1) / h := (Nat.one_le_div_iff hpos).mpr (by omega)
  obtain ⟨rest, hstream⟩ := stream_prefix prf info hblocks
  have hne : (prf (info ++ [1])).toList ≠ [] := by
    rw [← List.length_pos_iff, List.Vector.toList_length]
    exact hpos
  rw [output, List.head?_take, if_neg (by omega), ← hstream, List.head?_append]
  simp [stream, block, List.head?_eq_some_head hne]

end AuraOpaque.Foundation.Hkdf
