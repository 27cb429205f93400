import KernelMonitor.Memory

/-! # Writing words and zeroing frames

A write of one word changes the four bytes it covers and nothing else; on aligned addresses it is
a point update. Zeroing a frame inside memory writes its 1024 words in turn, so it clears exactly
that frame; it faults only for a frame that starts past the top of the 32-bit space.
-/

namespace KernelMonitor

theorem toUInt32_toNat_of_lt {n : Nat} (h : n < 4294967296) : n.toUInt32.toNat = n := by
  simp [Nat.toUInt32, Nat.mod_eq_of_lt h]

namespace PhysMem

variable {m m' : PhysMem} {pa v : UInt32}

theorem write32?_eq_some_iff :
    m.write32? pa v = some m' ↔ m.contains pa 4 ∧ m' = { m with log := .word pa v :: m.log } := by
  unfold write32?
  by_cases hc : m.contains pa 4
  · simp only [hc, if_true, Option.some.injEq, true_and]
    exact eq_comm
  · simp [hc]

theorem write32?_eq_none_iff : m.write32? pa v = none ↔ m.contains pa 4 = false := by
  unfold write32?
  split <;> simp_all

theorem frames_of_write32? (h : m.write32? pa v = some m') : m'.frames = m.frames := by
  obtain ⟨-, rfl⟩ := write32?_eq_some_iff.mp h
  rfl

theorem contains_of_write32? (h : m.write32? pa v = some m') : m.contains pa 4 :=
  (write32?_eq_some_iff.mp h).1

theorem contains_congr (h : m'.frames = m.frames) (a : UInt32) (n : Nat) :
    m'.contains a n = m.contains a n := by
  unfold contains size
  rw [h]

theorem byte_of_write32? (h : m.write32? pa v = some m') (a : Nat) :
    m'.byte a = if pa.toNat ≤ a ∧ a < pa.toNat + 4 then
      (v >>> (8 * (a - pa.toNat)).toUInt32).toUInt8 else m.byte a := by
  obtain ⟨-, rfl⟩ := write32?_eq_some_iff.mp h
  simp only [byte, byteIn, Store.byteAt?]
  split <;> rfl

theorem byte_write32?_of_lt_or_le (h : m.write32? pa v = some m') {a : Nat}
    (ha : a < pa.toNat ∨ pa.toNat + 4 ≤ a) : m'.byte a = m.byte a := by
  rw [byte_of_write32? h, if_neg (by omega)]

theorem wordOf_bytes (v : UInt32) :
    wordOf v.toUInt8 (v >>> 8).toUInt8 (v >>> 16).toUInt8 (v >>> 24).toUInt8 = v := by
  apply UInt32.toBitVec_inj.mp
  ext i hi
  simp [wordOf, -UInt32.toUInt32_toUInt8]
  grind

theorem read32?_write32?_self (h : m.write32? pa v = some m') : m'.read32? pa = some v := by
  have hc : m'.contains pa 4 := by
    rw [contains_congr (frames_of_write32? h)]
    exact contains_of_write32? h
  have hb : ∀ i < 4, m'.byte (pa.toNat + i) = (v >>> (8 * i).toUInt32).toUInt8 := fun i hi => by
    rw [byte_of_write32? h, if_pos (by omega), Nat.add_sub_cancel_left]
  have h0 : m'.byte pa.toNat = v.toUInt8 := by simpa using hb 0 (by omega)
  simp only [read32?, hc, if_true, h0, hb 1 (by omega), hb 2 (by omega), hb 3 (by omega)]
  exact congrArg some (wordOf_bytes v)

theorem read32?_write32?_of_disjoint (h : m.write32? pa v = some m') {b : UInt32}
    (hd : b.toNat + 4 ≤ pa.toNat ∨ pa.toNat + 4 ≤ b.toNat) : m'.read32? b = m.read32? b := by
  simp only [read32?, contains_congr (frames_of_write32? h)]
  split
  · rw [byte_write32?_of_lt_or_le h (by omega), byte_write32?_of_lt_or_le h (by omega),
      byte_write32?_of_lt_or_le h (by omega), byte_write32?_of_lt_or_le h (by omega)]
  · rfl

theorem read32?_write32?_of_aligned (h : m.write32? pa v = some m') {b : UInt32}
    (hpa : pa.toNat % 4 = 0) (hb : b.toNat % 4 = 0) :
    m'.read32? b = if b = pa then some v else m.read32? b := by
  split
  · subst b
    exact read32?_write32?_self h
  · rename_i hne
    have hne' : b.toNat ≠ pa.toNat := fun e => hne (UInt32.toNat_inj.mp e)
    exact read32?_write32?_of_disjoint h (by omega)

theorem size_congr (h : m'.frames = m.frames) : m'.size = m.size := by
  unfold size
  rw [h]

/-! ## Zeroing a frame -/

theorem mem_pageWordOffsets {off : UInt32} :
    off ∈ pageWordOffsets ↔ ∃ i < 1024, off = (4 * i).toUInt32 := by
  simp only [pageWordOffsets, List.mem_map, List.mem_range]
  exact ⟨fun ⟨i, hi, e⟩ => ⟨i, hi, e.symm⟩, fun ⟨i, hi, e⟩ => ⟨i, hi, e.symm⟩⟩

theorem toNat_of_mem_pageWordOffsets {off : UInt32} (h : off ∈ pageWordOffsets) :
    off.toNat % 4 = 0 ∧ off.toNat + 4 ≤ 4096 := by
  obtain ⟨i, hi, rfl⟩ := mem_pageWordOffsets.mp h
  rw [toUInt32_toNat_of_lt (by omega)]
  omega

theorem exists_pageWordOffsets_iff {b a : Nat} :
    (∃ off ∈ pageWordOffsets, b + off.toNat ≤ a ∧ a < b + off.toNat + 4) ↔ b ≤ a ∧ a < b + 4096 := by
  constructor
  · rintro ⟨off, hoff, h⟩
    have := toNat_of_mem_pageWordOffsets hoff
    omega
  · rintro ⟨h₁, h₂⟩
    -- the word of `a` is the one at offset `4 * ((a - b) / 4)`
    refine ⟨(4 * ((a - b) / 4)).toUInt32, mem_pageWordOffsets.mpr ⟨_, by omega, rfl⟩, ?_⟩
    rw [toUInt32_toNat_of_lt (by omega)]
    omega

/-- Zeroing the words at `base + off` for every offset, each inside memory and below `2 ^ 32`,
never stops early, keeps the number of frames, and clears exactly the bytes those words cover. -/
theorem zeroWords_eq (base : UInt32) (offs : List UInt32) (m : PhysMem)
    (hin : ∀ off ∈ offs, base.toNat + off.toNat + 4 ≤ m.size)
    (hword : ∀ off ∈ offs, base.toNat + off.toNat + 4 ≤ 4294967296) :
    ∃ m', zeroWords (fun (m : PhysMem) pa v => pure (m.write32? pa v)) base offs m =
        .ok (some (), m') ∧ m'.frames = m.frames ∧
      ∀ a, m'.byte a = if ∃ off ∈ offs, base.toNat + off.toNat ≤ a ∧ a < base.toNat + off.toNat + 4
        then 0 else m.byte a := by
  induction offs generalizing m with
  | nil => exact ⟨m, rfl, rfl, fun a => by simp⟩
  | cons off offs ih =>
    have hlt := hword off List.mem_cons_self
    have hpa : (base + off).toNat = base.toNat + off.toNat := by
      rw [UInt32.toNat_add]
      omega
    have hc : m.contains (base + off) 4 = true := by
      unfold contains
      rw [hpa]
      exact decide_eq_true (hin off List.mem_cons_self)
    obtain ⟨m₁, hw⟩ : ∃ m₁, m.write32? (base + off) 0 = some m₁ :=
      ⟨_, write32?_eq_some_iff.mpr ⟨hc, rfl⟩⟩
    have hf₁ := frames_of_write32? hw
    obtain ⟨m', hrun, hf', hb'⟩ := ih m₁
      (fun o ho => by rw [size_congr hf₁]; exact hin o (List.mem_cons_of_mem _ ho))
      (fun o ho => hword o (List.mem_cons_of_mem _ ho))
    refine ⟨m', ?_, hf'.trans hf₁, fun a => ?_⟩
    · simp only [zeroWords, addExact_eq_ok (by omega : base.toNat + off.toNat < 4294967296), hw,
        bind, Except.bind, pure, Except.pure]
      exact hrun
    · rw [hb', byte_of_write32? hw, hpa]
      simp only [List.mem_cons, exists_eq_or_imp]
      by_cases h₁ : base.toNat + off.toNat ≤ a ∧ a < base.toNat + off.toNat + 4
      · simp [h₁]
      · simp only [h₁, false_or]
        split <;> simp_all

/-- `m'` is `m` with page frame `f` filled with zeros and every other byte as it was. -/
structure FrameZeroed (m : PhysMem) (f : UInt32) (m' : PhysMem) : Prop where
  frames : m'.frames = m.frames
  byte : ∀ a, m'.byte a = if a / 4096 = f.toNat then 0 else m.byte a

variable {f : UInt32}

theorem zeroFrame_of_not_containsFrame (h : m.containsFrame f = false) :
    m.zeroFrame f = .ok (none, m) := by
  rw [zeroFrame, zeroFrameWith, if_neg (by simp [h])]
  rfl

theorem zeroFrame_of_le (h : m.containsFrame f = true) (hf : 1048576 ≤ f.toNat) :
    m.zeroFrame f = .error .mulOverflow := by
  have hb : frameBase f = .error .mulOverflow := by
    rw [frameBase, mulExact, if_neg (by rw [show pageSize.toNat = 4096 from rfl]; omega)]
  rw [zeroFrame, zeroFrameWith, if_pos h, hb]
  rfl

theorem zeroFrame_of_lt (h : m.containsFrame f = true) (hf : f.toNat < 1048576) :
    ∃ m', m.zeroFrame f = .ok (some (), m') ∧ m.FrameZeroed f m' := by
  have hin : f.toNat < m.frames := of_decide_eq_true h
  have hs : (f * pageSize).toNat = f.toNat * 4096 := by
    rw [UInt32.toNat_mul, show pageSize.toNat = 4096 from rfl]
    omega
  have hb : frameBase f = .ok (f * pageSize) :=
    mulExact_eq_ok (by rw [show pageSize.toNat = 4096 from rfl]; omega)
  obtain ⟨m', hrun, hframes, hbyte⟩ := zeroWords_eq (f * pageSize) pageWordOffsets m
    (fun off ho => by
      have := (toNat_of_mem_pageWordOffsets ho).2
      have hle : (f.toNat + 1) * 4096 ≤ m.frames * 4096 := Nat.mul_le_mul_right _ hin
      rw [hs, size]
      omega)
    (fun off ho => by have := (toNat_of_mem_pageWordOffsets ho).2; omega)
  refine ⟨m', ?_, hframes, fun a => ?_⟩
  · rw [zeroFrame, zeroFrameWith, if_pos h, hb]
    simp only [bind, Except.bind]
    exact hrun
  · -- the words of the frame cover exactly the bytes of the frame
    have hiff : (∃ off ∈ pageWordOffsets, (f * pageSize).toNat + off.toNat ≤ a ∧
        a < (f * pageSize).toNat + off.toNat + 4) ↔ a / 4096 = f.toNat := by
      rw [hs, exists_pageWordOffsets_iff]
      constructor <;> intro h <;> omega
    rw [hbyte]
    by_cases ha : a / 4096 = f.toNat
    · rw [if_pos (hiff.mpr ha), if_pos ha]
    · rw [if_neg (mt hiff.mp ha), if_neg ha]

theorem wordOf_zero : wordOf 0 0 0 0 = 0 := by decide

/-- Zeroing a frame inside memory clears the aligned words inside it and leaves every other
aligned word. -/
theorem FrameZeroed.read32? (h : m.FrameZeroed f m') (hf : f.toNat < m.frames) {b : UInt32}
    (hb : b.toNat % 4 = 0) :
    m'.read32? b = if b.toNat / 4096 = f.toNat then some 0 else m.read32? b := by
  simp only [PhysMem.read32?, contains_congr h.frames, h.byte]
  by_cases hin : b.toNat / 4096 = f.toNat
  · have hle : (f.toNat + 1) * 4096 ≤ m.frames * 4096 := Nat.mul_le_mul_right _ hf
    have hc : m.contains b 4 = true := by
      simp only [contains, size]
      exact decide_eq_true (by omega)
    have h1 : (b.toNat + 1) / 4096 = f.toNat := by omega
    have h2 : (b.toNat + 2) / 4096 = f.toNat := by omega
    have h3 : (b.toNat + 3) / 4096 = f.toNat := by omega
    rw [if_pos hc, if_pos hin, if_pos hin, if_pos h1, if_pos h2, if_pos h3, wordOf_zero]
  · have h1 : ¬(b.toNat + 1) / 4096 = f.toNat := by omega
    have h2 : ¬(b.toNat + 2) / 4096 = f.toNat := by omega
    have h3 : ¬(b.toNat + 3) / 4096 = f.toNat := by omega
    rw [if_neg hin, if_neg hin, if_neg h1, if_neg h2, if_neg h3]

theorem read32?_blank {n : Nat} {b : UInt32} (h : b.toNat + 4 ≤ n * 4096) :
    (blank n).read32? b = some 0 := by
  have hc : (blank n).contains b 4 = true := by
    simp only [contains, size, blank]
    exact decide_eq_true (by omega)
  rw [PhysMem.read32?, if_pos hc]
  simp only [byte, blank, byteIn, wordOf_zero]

end PhysMem

end KernelMonitor
