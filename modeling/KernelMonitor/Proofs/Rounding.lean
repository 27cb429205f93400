import KernelMonitor.Layout
import Mathlib.Data.Rat.Floor
import Mathlib.Order.Bounds.Basic

/-! # Rounding to an alignment

`roundDown` finds the largest multiple at or below, for every nonzero alignment. `roundUp` finds
the least multiple at or above while `a + (b - 1)` does not wrap and is `0` past it, and the
kernel's footprint in KiB inherits both halves.
-/

namespace KernelMonitor

/-! ### Multiples around a natural number -/

section Multiples

variable {x b : ℕ}

theorem le_of_dvd_of_lt_add {y m : ℕ} (hy : b ∣ y) (hm : b ∣ m) (h : y < m + b) : y ≤ m := by
  obtain ⟨q, rfl⟩ := hy
  obtain ⟨j, rfl⟩ := hm
  have hq : q < j + 1 := Nat.lt_of_mul_lt_mul_left (by rw [Nat.mul_succ]; exact h)
  exact Nat.mul_le_mul_left b (Nat.le_of_lt_succ hq)

theorem isGreatest_sub_mod (hb : 0 < b) : IsGreatest {m | b ∣ m ∧ m ≤ x} (x - x % b) := by
  refine ⟨⟨Nat.dvd_sub_mod x, Nat.sub_le x _⟩, ?_⟩
  rintro m ⟨hm, hmx⟩
  -- `x - x % b` lies within `b` of `x`, so no multiple at or below `x` passes it
  have hgap : m < x - x % b + b := by
    have := Nat.mod_lt x hb
    omega
  exact le_of_dvd_of_lt_add hm (Nat.dvd_sub_mod x) hgap

theorem isLeast_sub_mod_add_pred (hb : 0 < b) :
    IsLeast {m | b ∣ m ∧ x ≤ m} ((x + b - 1) - (x + b - 1) % b) := by
  have hr := Nat.mod_lt (x + b - 1) hb
  refine ⟨⟨Nat.dvd_sub_mod _, by omega⟩, ?_⟩
  rintro m ⟨hm, hxm⟩
  exact le_of_dvd_of_lt_add (Nat.dvd_sub_mod _) hm (by omega)

theorem natCeil_div_eq_of_isLeast {n : ℕ} (hb : 0 < b) (h : IsLeast {m | b ∣ m ∧ x ≤ m} (b * n)) :
    ⌈(x : ℚ) / b⌉₊ = n := by
  have hb' : (0 : ℚ) < b := by exact_mod_cast hb
  apply le_antisymm
  · rw [Nat.ceil_le, div_le_iff₀ hb']
    exact_mod_cast (by rw [Nat.mul_comm]; exact h.1.2 : x ≤ n * b)
  · -- `b` times the ceiling is a multiple of `b` covering `x`, and `b * n` is the least one
    have hcov : x ≤ b * ⌈(x : ℚ) / b⌉₊ := by
      have hle := Nat.le_ceil ((x : ℚ) / b)
      rw [div_le_iff₀ hb'] at hle
      exact_mod_cast (by rw [mul_comm]; exact hle : (x : ℚ) ≤ b * ⌈(x : ℚ) / b⌉₊)
    exact Nat.le_of_mul_le_mul_left (h.2 ⟨Nat.dvd_mul_right _ _, hcov⟩) hb

end Multiples

/-! ### The two roundings on words -/

theorem roundDown_toNat (a b : UInt32) : (roundDown a b).toNat = a.toNat - a.toNat % b.toNat := by
  have hle : a % b ≤ a := by
    rw [UInt32.le_iff_toNat_le, UInt32.toNat_mod]
    exact Nat.mod_le _ _
  rw [roundDown, UInt32.toNat_sub_of_le _ _ hle, UInt32.toNat_mod]

theorem roundUp_toNat (a : UInt32) {b : UInt32} (hb : 0 < b) :
    (roundUp a b).toNat =
      (a.toNat + b.toNat - 1) % 4294967296 - (a.toNat + b.toNat - 1) % 4294967296 % b.toNat := by
  have hb1 : (1 : UInt32) ≤ b := by
    rw [UInt32.le_iff_toNat_le]
    exact UInt32.lt_iff_toNat_lt.mp hb
  have hpred : (b - 1).toNat = b.toNat - 1 := UInt32.toNat_sub_of_le _ _ hb1
  have hsum : (a + (b - 1)).toNat = (a.toNat + b.toNat - 1) % 4294967296 := by
    rw [UInt32.toNat_add, hpred]
    have := UInt32.lt_iff_toNat_lt.mp hb
    congr 1
    omega
  rw [roundUp, roundDown_toNat, hsum]

theorem roundDown_isGreatest (a : UInt32) {b : UInt32} (hb : 0 < b) :
    IsGreatest {m | b.toNat ∣ m ∧ m ≤ a.toNat} (roundDown a b).toNat := by
  rw [roundDown_toNat]
  exact isGreatest_sub_mod (UInt32.lt_iff_toNat_lt.mp hb)

theorem roundUp_isLeast {a b : UInt32} (hb : 0 < b) (hfit : a.toNat + b.toNat - 1 < 4294967296) :
    IsLeast {m | b.toNat ∣ m ∧ a.toNat ≤ m} (roundUp a b).toNat := by
  rw [roundUp_toNat a hb, Nat.mod_eq_of_lt hfit]
  exact isLeast_sub_mod_add_pred (UInt32.lt_iff_toNat_lt.mp hb)

/-- `roundUp a b` is the largest multiple of `b` at or below the sum `a + b - 1` modulo
`2 ^ 32`, wrapped or not. -/
theorem roundUp_isGreatest (a : UInt32) {b : UInt32} (hb : 0 < b) :
    IsGreatest {m | b.toNat ∣ m ∧ m ≤ (a.toNat + b.toNat - 1) % 4294967296} (roundUp a b).toNat := by
  rw [roundUp_toNat a hb]
  exact isGreatest_sub_mod (UInt32.lt_iff_toNat_lt.mp hb)

theorem roundUp_eq_zero_of_wraps {a b : UInt32} (hb : 0 < b)
    (hwrap : 4294967296 ≤ a.toNat + b.toNat - 1) : roundUp a b = 0 := by
  have ha := a.toNat_lt
  have hwrapped : (a.toNat + b.toNat - 1) % 4294967296 < b.toNat := by
    have hb' := b.toNat_lt
    rw [Nat.mod_eq_sub_mod hwrap, Nat.mod_eq_of_lt (by omega)]
    omega
  apply UInt32.toNat_inj.mp
  rw [roundUp_toNat a hb, Nat.mod_eq_of_lt hwrapped, Nat.sub_self]
  rfl

/-! ### The footprint of the kernel image -/

namespace Layout

theorem size_toNat (l : Layout) :
    (l.imageEnd - l.entry).toNat = (l.imageEnd.toNat + 4294967296 - l.entry.toNat) % 4294967296 := by
  rw [UInt32.toNat_sub]
  have := l.entry.toNat_lt
  congr 1
  omega

theorem footprintKiB_toNat (l : Layout) :
    l.footprintKiB.toNat = (roundUp (l.imageEnd - l.entry) 1024).toNat / 1024 := by
  rw [footprintKiB, UInt32.toNat_div]
  rfl

theorem footprintKiB_eq_ceil (l : Layout)
    (hfit : (l.imageEnd - l.entry).toNat ≤ 4294967296 - 1024) :
    l.footprintKiB.toNat = ⌈((l.imageEnd - l.entry).toNat : ℚ) / 1024⌉₊ := by
  have hleast := @roundUp_isLeast (l.imageEnd - l.entry) 1024 (by decide)
    (by change _ + 1024 - 1 < _; omega)
  -- the rounded size is a multiple of 1024, so it is 1024 times the footprint
  have hmul : (roundUp (l.imageEnd - l.entry) 1024).toNat =
      1024 * ((roundUp (l.imageEnd - l.entry) 1024).toNat / 1024) :=
    (Nat.mul_div_cancel' hleast.1.1).symm
  have h1024 : (1024 : UInt32).toNat = 1024 := rfl
  rw [hmul, h1024] at hleast
  have hceil := natCeil_div_eq_of_isLeast (by decide) hleast
  rw [Nat.cast_ofNat] at hceil
  rw [footprintKiB_toNat, hceil]

theorem footprintKiB_eq_zero (l : Layout)
    (hwrap : 4294967296 - 1024 < (l.imageEnd - l.entry).toNat) : l.footprintKiB = 0 := by
  have hzero := @roundUp_eq_zero_of_wraps (l.imageEnd - l.entry) 1024 (by decide)
    (by change _ ≤ _ + 1024 - 1; omega)
  rw [footprintKiB, hzero]
  rfl

end Layout

/-- Both roundings find the nearest multiples of any nonzero alignment, a power of two or not.
`roundDown a b` is the largest multiple of `b` at or below `a`. `roundUp a b` is the largest
multiple of `b` at or below the sum `a + b - 1` modulo `2 ^ 32`: the least multiple of `b` at or
above `a` while that sum stays below `2 ^ 32`, and `0` once it wraps. So the footprint of a kernel image whose size `d`, from the entry
point to the end modulo `2 ^ 32`, is at most `2 ^ 32 - 1024` is `d` KiB rounded up, and the
footprint of a larger image is `0`. -/
theorem rounding_finds_nearest_multiples :
    (∀ a b : UInt32, 0 < b →
      IsGreatest {m | b.toNat ∣ m ∧ m ≤ a.toNat} (roundDown a b).toNat) ∧
    (∀ a b : UInt32, 0 < b → a.toNat + b.toNat - 1 < 4294967296 →
      IsLeast {m | b.toNat ∣ m ∧ a.toNat ≤ m} (roundUp a b).toNat) ∧
    (∀ a b : UInt32, 0 < b →
      IsGreatest {m | b.toNat ∣ m ∧ m ≤ (a.toNat + b.toNat - 1) % 4294967296} (roundUp a b).toNat) ∧
    (∀ a b : UInt32, 0 < b → 4294967296 ≤ a.toNat + b.toNat - 1 → roundUp a b = 0) ∧
    (∀ l : Layout,
      (l.imageEnd.toNat + 4294967296 - l.entry.toNat) % 4294967296 ≤ 4294967296 - 1024 →
        l.footprintKiB.toNat =
          ⌈(((l.imageEnd.toNat + 4294967296 - l.entry.toNat) % 4294967296 : ℕ) : ℚ) / 1024⌉₊) ∧
    (∀ l : Layout,
      4294967296 - 1024 < (l.imageEnd.toNat + 4294967296 - l.entry.toNat) % 4294967296 →
        l.footprintKiB = 0) :=
  ⟨fun a _ hb => roundDown_isGreatest a hb,
    fun _ _ hb hfit => roundUp_isLeast hb hfit,
    fun a _ hb => roundUp_isGreatest a hb,
    fun _ _ hb hwrap => roundUp_eq_zero_of_wraps hb hwrap,
    fun l hfit => by
      rw [← Layout.size_toNat] at hfit ⊢
      exact l.footprintKiB_eq_ceil hfit,
    fun l hwrap => by
      rw [← Layout.size_toNat] at hwrap
      exact l.footprintKiB_eq_zero hwrap⟩

/-- The footprint falls off a cliff at the top KiB: an image of `2 ^ 32 - 1024` bytes takes
4194303 KiB, and one a byte larger takes none. -/
theorem footprint_vanishes_past_top_kib :
    (((⟨0, 0x400, 0, 0, 0⟩ : Layout).imageEnd.toNat + 4294967296 -
        (⟨0, 0x400, 0, 0, 0⟩ : Layout).entry.toNat) % 4294967296 ≤ 4294967296 - 1024 ∧
      (⟨0, 0x400, 0, 0, 0⟩ : Layout).footprintKiB.toNat = ⌈((4294967296 - 1024 : ℕ) : ℚ) / 1024⌉₊) ∧
    (4294967296 - 1024 < ((⟨0, 0x3ff, 0, 0, 0⟩ : Layout).imageEnd.toNat + 4294967296 -
        (⟨0, 0x3ff, 0, 0, 0⟩ : Layout).entry.toNat) % 4294967296 ∧
      (⟨0, 0x3ff, 0, 0, 0⟩ : Layout).footprintKiB = 0) :=
  ⟨⟨by decide, rounding_finds_nearest_multiples.2.2.2.2.1 _ (by decide)⟩,
    ⟨by decide, rounding_finds_nearest_multiples.2.2.2.2.2 _ (by decide)⟩⟩

end KernelMonitor
