import Mathlib.Algebra.Order.Ring.Nat
import Mathlib.Data.List.Nodup
import Mathlib.Data.List.Perm.Subperm
import Mathlib.Data.Nat.ModEq
import Mathlib.Logic.Function.Iterate
import Mathlib.Tactic.Ring

set_option autoImplicit false

namespace SprAccelProfiling.Lcg

def step (b c x : Nat) : Nat := (b + 1) * x + c

def geometric (a : Nat) : Nat → Nat
  | 0 => 0
  | n + 1 => a * geometric a n + 1

theorem geometric_add (a n m : Nat) : geometric a (n + m) = a ^ m * geometric a n + geometric a m := by
  induction m with
  | zero => simp [geometric]
  | succ m ih =>
      rw [Nat.add_succ, geometric, ih, geometric, pow_succ]
      ring

theorem iterate_step (b c n x : Nat) : (step b c)^[n] x = x + geometric (b + 1) n * (b * x + c) := by
  induction n with
  | zero => simp [geometric]
  | succ n ih =>
      rw [Function.iterate_succ_apply', ih, step, geometric]
      ring

theorem two_power_dvd_odd (m value odd : Nat) : 2 ^ m ∣ value * (2 * odd + 1) ↔ 2 ^ m ∣ value := by
  constructor
  · intro divides
    have coprime : Nat.Coprime (2 ^ m) (2 * odd + 1) := by
      apply Nat.Coprime.pow_left
      simp
    exact coprime.dvd_of_dvd_mul_right divides
  · intro divides
    exact Dvd.dvd.mul_right divides _

section TwoPower

variable (b : Nat) (four : 4 ∣ b)

include four

theorem power_mod_four (n : Nat) : (b + 1) ^ n % 4 = 1 := by
  obtain ⟨q, rfl⟩ := four
  induction n with
  | zero => rfl
  | succ n ih =>
      rw [pow_succ, Nat.mul_mod, ih, Nat.one_mul, Nat.mod_mod]
      omega

theorem geometric_mod_two (n : Nat) : geometric (b + 1) n % 2 = n % 2 := by
  obtain ⟨q, rfl⟩ := four
  induction n with
  | zero => rfl
  | succ n ih =>
      have split : geometric (4 * q + 1) (n + 1) =
          2 * (2 * q * geometric (4 * q + 1) n) + (geometric (4 * q + 1) n + 1) := by
        rw [geometric]
        ring
      rw [split]
      omega

theorem geometric_double (n : Nat) : ∃ odd, geometric (b + 1) (2 * n) = 2 * (geometric (b + 1) n * (2 * odd + 1)) := by
  have residue := power_mod_four b four n
  refine ⟨(b + 1) ^ n / 4, ?_⟩
  have power : (b + 1) ^ n = 4 * ((b + 1) ^ n / 4) + 1 := by omega
  rw [Nat.two_mul, geometric_add]
  nth_rewrite 1 [power]
  ring

theorem two_power_dvd_geometric (m n : Nat) : 2 ^ m ∣ geometric (b + 1) n ↔ 2 ^ m ∣ n := by
  induction m generalizing n with
  | zero => simp
  | succ m ih =>
      have parity := geometric_mod_two b four n
      by_cases even : n % 2 = 0
      · obtain ⟨half, rfl⟩ : ∃ half, n = 2 * half := ⟨n / 2, by omega⟩
        obtain ⟨odd, double⟩ := geometric_double b four half
        rw [double, pow_succ, Nat.mul_comm (2 ^ m) 2, Nat.mul_dvd_mul_iff_left (by decide),
          Nat.mul_dvd_mul_iff_left (by decide), two_power_dvd_odd, ih]
      · have two : 2 ∣ 2 ^ (m + 1) := Dvd.intro_left (2 ^ m) (pow_succ 2 m).symm
        constructor
        · intro divides
          have impossible := Nat.dvd_trans two divides
          omega
        · intro divides
          have impossible := Nat.dvd_trans two divides
          omega

end TwoPower

section Period

variable (b c : Nat) (four : 4 ∣ b) (odd : c % 2 = 1)

include four odd

-- The full period theorem for a modulus that is a power of two.
theorem returns_iff (m n x : Nat) : (step b c)^[n] x % 2 ^ m = x % 2 ^ m ↔ 2 ^ m ∣ n := by
  have increment : ∃ k, b * x + c = 2 * k + 1 := by
    obtain ⟨q, rfl⟩ := four
    refine ⟨2 * q * x + c / 2, ?_⟩
    have half : c = 2 * (c / 2) + 1 := by omega
    nth_rewrite 1 [half]
    ring
  obtain ⟨k, shape⟩ := increment
  have moved : (x ≡ (step b c)^[n] x [MOD 2 ^ m]) ↔ 2 ^ m ∣ n := by
    rw [iterate_step, Nat.modEq_iff_dvd' (Nat.le_add_right x _), Nat.add_sub_cancel_left, shape, two_power_dvd_odd,
      two_power_dvd_geometric b four]
  exact ⟨fun same => moved.mp same.symm, fun divides => (moved.mpr divides).symm⟩

theorem window_earlier (m start i j x : Nat) (order : i ≤ j) (within : j < 2 ^ m)
    (same : (step b c)^[start + i] x % 2 ^ m = (step b c)^[start + j] x % 2 ^ m) : i = j := by
  have later : (step b c)^[start + j] x = (step b c)^[j - i] ((step b c)^[start + i] x) := by
    rw [← Function.iterate_add_apply]
    congr 1
    omega
  rw [later] at same
  have divides := (returns_iff b c four odd m (j - i) _).mp same.symm
  have zero := Nat.eq_zero_of_dvd_of_lt divides (by omega)
  omega

theorem window_perm (m start x : Nat) :
    ((List.range (2 ^ m)).map (fun k => (step b c)^[start + k] x % 2 ^ m)).Perm (List.range (2 ^ m)) := by
  have distinct : ((List.range (2 ^ m)).map (fun k => (step b c)^[start + k] x % 2 ^ m)).Nodup := by
    apply List.Nodup.map_on _ List.nodup_range
    intro i first j second same
    rcases Nat.le_total i j with order | order
    · exact window_earlier b c four odd m start i j x order (List.mem_range.mp second) same
    · exact (window_earlier b c four odd m start j i x order (List.mem_range.mp first) same.symm).symm
  have below : (List.range (2 ^ m)).map (fun k => (step b c)^[start + k] x % 2 ^ m) ⊆ List.range (2 ^ m) := by
    intro value member
    obtain ⟨k, _, rfl⟩ := List.mem_map.mp member
    exact List.mem_range.mpr (Nat.mod_lt _ (Nat.two_pow_pos m))
  exact (distinct.subperm below).perm_of_length_le (by rw [List.length_map])

theorem window_count (m start x : Nat) (p : Nat → Bool) :
    (List.range (2 ^ m)).countP (fun k => p ((step b c)^[start + k] x % 2 ^ m)) = (List.range (2 ^ m)).countP p := by
  have moved := (window_perm b c four odd m start x).countP_eq p
  rw [List.countP_map] at moved
  exact moved

end Period

theorem count_quotient (width count : Nat) (p : Nat → Bool) (positive : 0 < width) :
    (List.range (count * width)).countP (fun r => p (r / width)) = width * (List.range count).countP p := by
  induction count with
  | zero => simp
  | succ count ih =>
      have block : ∀ r ∈ List.range width, p ((count * width + r) / width) = p count := by
        intro r inside
        rw [Nat.mul_comm count width, Nat.mul_add_div positive, Nat.div_eq_of_lt (List.mem_range.mp inside),
          Nat.add_zero]
      have last : (List.range width).countP (fun r => p ((count * width + r) / width)) = width * [count].countP p := by
        rw [List.countP_congr (fun r inside => by rw [block r inside])]
        cases chosen : p count with
        | true => simp [chosen]
        | false => simp [chosen]
      rw [Nat.succ_mul, List.range_add, List.countP_append, ih, List.countP_map, List.range_succ, List.countP_append,
        Nat.mul_add, ← last]
      rfl

end SprAccelProfiling.Lcg
