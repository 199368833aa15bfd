import Mathlib.Data.Rat.Floor
import Listening.Training.Dataset
import Listening.Proofs.Runs

/-!
# Training samples are the full sliding windows

For a window size `m` and a stride `s ≥ 1`, the windows of a sequence of `n` tokens start at
`0, s, 2s, …` while the start lies below `n - m`. Counting them is a ceiling division: there are
`max 0 ⌈(n - m) / s⌉` (`count_eq_ceil`). Every start that is counted leaves room for `m + 1`
tokens (`room_of_lt_count`), so no slice is clamped: the `k`-th input is the `m` tokens from
`k · s` on and its target the `m` tokens one further (`windows_full`).

Drawing samples from a text runs its encoding and cuts the windows of the identifiers it gets
(`execute_samples`), so a data set built from any encoded text consists of exactly these windows
(`samples_are_full_windows`).
-/

namespace Listening.Training

open Listening Listening.World

/-- With a positive step, the positions from zero are the multiples of the step before the stop. -/
theorem steps_zero_of_pos (stop step : Int) (positive : 0 < step) :
    steps 0 stop step =
      (List.range ((stop + step - 1) / step).toNat).map fun (k : Nat) => step * k := by
  simp [steps, positive]

/-- A cut point inside the list is the position itself. -/
theorem cutPoint_of_le {length position : Nat} (inside : position ≤ length) :
    cutPoint length position = position := by
  simp [cutPoint, inside]

/-- A slice between two cut points inside the list is the sublist between them. -/
theorem slice_natCast {α : Type} (items : List α) {start stop : Nat} (inside : stop ≤ items.length)
    (ordered : start ≤ stop) :
    slice items start stop = items.extract start stop := by
  simp [slice, cutPoint_of_le inside, cutPoint_of_le (ordered.trans inside)]

/-- The number of windows is `⌈(n - m) / s⌉` when that is positive, and none otherwise. -/
theorem count_eq_ceil (n m s : Nat) (positive : 0 < s) :
    ((((n : Int) - m + s - 1) / s).toNat : Int) = max 0 ⌈((n : ℚ) - m) / s⌉ := by
  have ceil : ⌈((n : ℚ) - m) / s⌉ = -(((m : Int) - n) / s) := by
    have := Rat.ceil_intCast_div_natCast ((n : Int) - m) s
    push_cast at this
    simpa using this
  -- `⌈x / s⌉ = -⌊-x / s⌋`, and adding `s - 1` before a floor division gives the same.
  have shifted : ((n : Int) - m + s - 1) / s = -(((m : Int) - n) / s) := by
    have split := Int.mul_ediv_add_emod ((m : Int) - n) s
    have lower := Int.emod_nonneg ((m : Int) - n) (by omega : (s : Int) ≠ 0)
    have upper := Int.emod_lt_of_pos ((m : Int) - n) (by omega : (0 : Int) < s)
    have rearranged : (n : Int) - m + s - 1 =
        (s - 1 - ((m : Int) - n) % s) + s * (-(((m : Int) - n) / s)) := by linarith
    rw [rearranged, Int.add_mul_ediv_left _ _ (by omega),
      Int.ediv_eq_zero_of_lt (by omega) (by omega), zero_add]
  rw [Int.toNat_eq_max, shifted, ceil, max_comm]

/-- A window counted among the first `⌈(n - m) / s⌉` leaves room for a full target. -/
theorem room_of_lt_count {n m s k : Nat} (positive : 0 < s)
    (counted : k < (((n : Int) - m + s - 1) / s).toNat) : k * s + m < n := by
  have below : ((k : Int) + 1) * s ≤ (n : Int) - m + s - 1 :=
    (Int.le_ediv_iff_mul_le (by omega)).mp (by omega)
  have product : ((k : Int) + 1) * s = k * s + s := by ring
  have : (k : Int) * s + m < n := by linarith
  exact_mod_cast this

/-- With a positive stride, the windows are cut at the counted multiples of the stride. -/
theorem windows_of_pos {α : Type} (ids : List α) (m s : Nat) (positive : 0 < s) :
    windows ids m s = .ok ((List.range ((((ids.length : Int) - m + s - 1) / s).toNat)).map
      fun k => (slice ids (k * s : Nat) (k * s + m : Nat),
        slice ids (k * s + 1 : Nat) (k * s + m + 1 : Nat))) := by
  simp only [windows, Nat.cast_eq_zero, positive.ne', if_false, windowStarts,
    steps_zero_of_pos _ _ (by omega : (0 : Int) < s), List.map_map]
  congr 2
  funext k
  simp only [Function.comp_apply]
  push_cast
  rw [mul_comm]

/-- The windows of a sequence are its full sliding windows: `⌈(n - m) / s⌉` of them (none when
that is not positive), the `k`-th taking the `m` tokens from `k · s` on, with the `m` tokens one
further as its target, and leaving room for both. -/
theorem windows_full {α : Type} (ids : List α) (m s : Nat) (positive : 0 < s) :
    ∃ items, windows ids m s = .ok items ∧
      (items.length : Int) = max 0 ⌈((ids.length : ℚ) - m) / s⌉ ∧
      ∀ k (counted : k < items.length),
        items[k] = (ids.extract (k * s) (k * s + m), ids.extract (k * s + 1) (k * s + m + 1)) ∧
          k * s + m < ids.length := by
  refine ⟨_, windows_of_pos ids m s positive, ?_, ?_⟩
  · simpa using count_eq_ceil ids.length m s positive
  · intro k counted
    simp only [List.length_map, List.length_range] at counted
    have room := room_of_lt_count positive counted
    simp only [List.getElem_map, List.getElem_range]
    refine ⟨?_, room⟩
    rw [slice_natCast ids (by omega) (by omega), slice_natCast ids (by omega) (by omega)]

/-- Drawing samples from a text runs its encoding and cuts the windows of the identifiers. -/
theorem execute_samples (encoding text : String) (world : Encodings) (ids : List Datum)
    (encoded : (world.table.find? (·.1 == text)).map (·.2) = some ids) (size stride : Int) :
    (Scripted.execute (samples encoding text size stride) world).1 =
      match windows ids size stride with
      | .ok cut => .ok cut
      | .error fault => .error (.raised .wrongValue fault.message) := by
  change (Scripted.runFrom (samples encoding text size stride) { world := world }).1 = _
  simp only [samples, encodeWith, Scripted.runFrom_bind, Scripted.runFrom_call,
    Scripted.runFrom_world, encoded, Scripted.runFrom_pure]
  cases windows ids size stride <;> rfl

/-- The samples drawn from a text encoded as `n` identifiers, with window size `m` and stride
`s ≥ 1`, are `⌈(n - m) / s⌉` windows (none when that is not positive); the `k`-th is the `m`
identifiers from `k · s` on with the `m` identifiers one further, so every input and every target
holds exactly `m` identifiers. -/
theorem samples_are_full_windows (encoding text : String) (world : Encodings) (ids : List Datum)
    (encoded : (world.table.find? (·.1 == text)).map (·.2) = some ids) (m s : Nat)
    (positive : 0 < s) :
    ∃ items, (Scripted.execute (samples encoding text m s) world).1 = .ok items ∧
      (items.length : Int) = max 0 ⌈((ids.length : ℚ) - m) / s⌉ ∧
      ∀ k (counted : k < items.length),
        items[k] = (ids.extract (k * s) (k * s + m), ids.extract (k * s + 1) (k * s + m + 1)) ∧
          items[k].1.length = m ∧ items[k].2.length = m := by
  obtain ⟨items, cut, count, each⟩ := windows_full ids m s positive
  refine ⟨items, by rw [execute_samples encoding text world ids encoded, cut], count, ?_⟩
  intro k counted
  obtain ⟨item, room⟩ := each k counted
  refine ⟨item, ?_, ?_⟩ <;> simp only [item, List.extract_eq_take_drop, List.length_take,
    List.length_drop] <;> omega

/-- Seven identifiers cut with window size three and stride two give two windows, at `0` and `2`. -/
theorem samples_are_full_windows_of_seven :
    let ids : List Datum := [.int 10, .int 11, .int 12, .int 13, .int 14, .int 15, .int 16]
    let world : Encodings := ⟨[("t", ids)]⟩
    (world.table.find? (·.1 == "t")).map (·.2) = some ids ∧ 0 < 2 ∧
      ∃ items, (Scripted.execute (samples "gpt2" "t" (3 : Nat) (2 : Nat)) world).1 = .ok items ∧
        (items.length : Int) = max 0 ⌈((ids.length : ℚ) - (3 : Nat)) / (2 : Nat)⌉ ∧
        ∀ k (counted : k < items.length),
          items[k] = (ids.extract (k * 2) (k * 2 + 3), ids.extract (k * 2 + 1) (k * 2 + 3 + 1)) ∧
            items[k].1.length = 3 ∧ items[k].2.length = 3 :=
  ⟨rfl, by decide, samples_are_full_windows "gpt2" "t" _ _ rfl 3 2 (by decide)⟩

end Listening.Training
