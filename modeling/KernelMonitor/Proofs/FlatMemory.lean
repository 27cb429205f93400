import KernelMonitor.Proofs.PageTables
import KernelMonitor.Proofs.VirtualRead

/-! # Memory as a flat array of bytes

The specification of physical memory: one array of `frames * 4096` bytes, all zero at first,
read and written in little-endian words. The write log agrees with it call by call, and a
sequence of calls on two memories that agree call by call gets the same answers.
-/

namespace KernelMonitor

/-- The number whose bytes, least significant first, are `b0`, `b1`, `b2`, `b3`. -/
def leValue (b0 b1 b2 b3 : UInt8) : Nat :=
  b0.toNat + 256 * b1.toNat + 65536 * b2.toNat + 16777216 * b3.toNat

/-- Byte `i` of `v`, least significant first. -/
def leByte (v : UInt32) (i : Nat) : UInt8 := (v.toNat / 256 ^ i % 256).toUInt8

/-- Memory as one flat array of `size` bytes; the bytes from `size` on are never used. -/
structure FlatMem where
  size : Nat
  byte : Nat → UInt8

namespace FlatMem

def zeros (size : Nat) : FlatMem := ⟨size, fun _ => 0⟩

/-- The little-endian word of the four bytes from `pa`, if they lie in the array. -/
def read32? (f : FlatMem) (pa : UInt32) : Option UInt32 :=
  if pa.toNat + 4 ≤ f.size then
    some (leValue (f.byte pa.toNat) (f.byte (pa.toNat + 1)) (f.byte (pa.toNat + 2))
      (f.byte (pa.toNat + 3))).toUInt32
  else none

/-- The array with the bytes of `v`, least significant first, at `pa` to `pa + 3`, if they lie
in the array. -/
def write32? (f : FlatMem) (pa v : UInt32) : Option FlatMem :=
  if pa.toNat + 4 ≤ f.size then
    some ⟨f.size, fun a => if pa.toNat ≤ a ∧ a < pa.toNat + 4 then leByte v (a - pa.toNat)
      else f.byte a⟩
  else none

/-- The array with the 4096 bytes of page frame `frame` set to zero, if they lie in the array. -/
def zeroFrame? (f : FlatMem) (frame : UInt32) : Option FlatMem :=
  if (frame.toNat + 1) * 4096 ≤ f.size then
    some ⟨f.size, fun a => if a / 4096 = frame.toNat then 0 else f.byte a⟩
  else none

end FlatMem

/-! ## Bytes of a word -/

theorem toNat_eq_leValue (x : UInt32) :
    x.toNat = leValue x.toUInt8 (x >>> 8).toUInt8 (x >>> 16).toUInt8 (x >>> 24).toUInt8 := by
  have hx := x.toNat_lt
  simp only [leValue, UInt32.toNat_toUInt8, UInt32.toNat_shiftRight]
  simp only [UInt32.reduceToNat, Nat.reduceMod, Nat.shiftRight_eq_div_pow]
  omega

namespace PhysMem

theorem wordOf_eq_leValue (b0 b1 b2 b3 : UInt8) :
    wordOf b0 b1 b2 b3 = (leValue b0 b1 b2 b3).toUInt32 := by
  apply UInt32.toNat_inj.mp
  rw [toNat_eq_leValue (wordOf b0 b1 b2 b3), wordOf_toUInt8, wordOf_shiftRight_8,
    wordOf_shiftRight_16, wordOf_shiftRight_24, UInt32.toNat_ofNat']
  have h0 := b0.toNat_lt
  have h1 := b1.toNat_lt
  have h2 := b2.toNat_lt
  have h3 := b3.toNat_lt
  simp only [leValue] at *
  omega

end PhysMem

theorem toUInt8_shiftRight_eq_leByte (v : UInt32) {i : Nat} (hi : i < 4) :
    (v >>> (8 * i).toUInt32).toUInt8 = leByte v i := by
  apply UInt8.toNat_inj.mp
  rw [leByte, UInt32.toNat_toUInt8, UInt32.toNat_shiftRight, Nat.shiftRight_eq_div_pow,
    Nat.toUInt8, UInt8.toNat_ofNat', toUInt32_toNat_of_lt (by omega),
    Nat.mod_eq_of_lt (show 8 * i < 32 by omega), Nat.pow_mul]
  simp only [Nat.reducePow, Nat.mod_mod]

/-! ## Sequences of calls -/

/-- A call on physical memory: read a word, write a word, or fill a page frame with zeros. -/
inductive MemOp where
  | read (pa : UInt32)
  | write (pa v : UInt32)
  | zero (frame : UInt32)
  deriving DecidableEq, Repr

/-- What a call answers: the word read, or whether the write or the zeroing was done. -/
inductive MemAnswer where
  | word (w : Option UInt32)
  | done (ok : Bool)
  deriving DecidableEq, Repr

/-- A memory that answers the three calls. A call may fault; a write or a zeroing it refuses
gives `none`. -/
structure MemCalls (σ : Type) where
  read32 : σ → UInt32 → Except Fault (Option UInt32)
  write32 : σ → UInt32 → UInt32 → Except Fault (Option σ)
  zeroFrame : σ → UInt32 → Except Fault (Option Unit × σ)

namespace MemCalls

variable {σ τ : Type}

/-- Answers one call. A refused write leaves the memory as it was. -/
def step (c : MemCalls σ) (s : σ) : MemOp → Except Fault (MemAnswer × σ)
  | .read pa => do pure (.word (← c.read32 s pa), s)
  | .write pa v => do
    match ← c.write32 s pa v with
    | some s' => pure (.done true, s')
    | none => pure (.done false, s)
  | .zero frame => do
    let (r, s') ← c.zeroFrame s frame
    pure (.done r.isSome, s')

/-- Answers the calls in order, with the memory they leave; a fault stops the sequence. -/
def run (c : MemCalls σ) (s : σ) : List MemOp → Except Fault (List MemAnswer × σ)
  | [] => pure ([], s)
  | op :: ops => do
    let (a, s') ← c.step s op
    let (as, s'') ← c.run s' ops
    pure (a :: as, s'')

theorem step_rel {c : MemCalls σ} {d : MemCalls τ} {R : σ → τ → Prop} {s : σ} {t : τ}
    (h : R s t)
    (hread : ∀ pa, ∃ w, c.read32 s pa = .ok w ∧ d.read32 t pa = .ok w)
    (hwrite : ∀ pa v, ∃ os ot, c.write32 s pa v = .ok os ∧ d.write32 t pa v = .ok ot ∧
      Option.Rel R os ot)
    (hzero : ∀ fr, ∃ r s' t', c.zeroFrame s fr = .ok (r, s') ∧ d.zeroFrame t fr = .ok (r, t') ∧
      R s' t')
    (op : MemOp) : ∃ a s' t', c.step s op = .ok (a, s') ∧ d.step t op = .ok (a, t') ∧ R s' t' := by
  cases op with
  | read pa =>
    obtain ⟨w, hc, hd⟩ := hread pa
    refine ⟨.word w, s, t, ?_, ?_, h⟩ <;> simp [step, hc, hd, bind, Except.bind, pure, Except.pure]
  | write pa v =>
    obtain ⟨os, ot, hc, hd, hr⟩ := hwrite pa v
    cases hr with
    | some hr' =>
      refine ⟨.done true, _, _, ?_, ?_, hr'⟩ <;>
        simp [step, hc, hd, bind, Except.bind, pure, Except.pure]
    | none =>
      refine ⟨.done false, s, t, ?_, ?_, h⟩ <;>
        simp [step, hc, hd, bind, Except.bind, pure, Except.pure]
  | zero fr =>
    obtain ⟨r, s', t', hc, hd, hr⟩ := hzero fr
    refine ⟨.done r.isSome, s', t', ?_, ?_, hr⟩ <;>
      simp [step, hc, hd, bind, Except.bind, pure, Except.pure]

/-- The run lemma: memories related so that every call gets the same answer and keeps them
related get the same answers to every sequence of calls, and neither faults. -/
theorem run_rel {c : MemCalls σ} {d : MemCalls τ} {R : σ → τ → Prop}
    (hstep : ∀ s t op, R s t →
      ∃ a s' t', c.step s op = .ok (a, s') ∧ d.step t op = .ok (a, t') ∧ R s' t')
    {s : σ} {t : τ} (h : R s t) (ops : List MemOp) :
    ∃ as s' t', c.run s ops = .ok (as, s') ∧ d.run t ops = .ok (as, t') ∧ R s' t' := by
  induction ops generalizing s t with
  | nil => exact ⟨[], s, t, rfl, rfl, h⟩
  | cons op ops ih =>
    obtain ⟨a, s₁, t₁, hc, hd, h₁⟩ := hstep s t op h
    obtain ⟨as, s', t', hcs, hds, h'⟩ := ih h₁
    refine ⟨a :: as, s', t', ?_, ?_, h'⟩
    · simp only [run, hc, hcs, bind, Except.bind, pure, Except.pure]
    · simp only [run, hd, hds, bind, Except.bind, pure, Except.pure]

end MemCalls

/-- The flat array, answering calls; it never faults. -/
def FlatMem.calls : MemCalls FlatMem :=
  ⟨fun f pa => pure (f.read32? pa), fun f pa v => pure (f.write32? pa v),
    fun f fr => pure (match f.zeroFrame? fr with | some f' => (some (), f') | none => (none, f))⟩

/-! ## Agreeing with the flat array, one call at a time -/

/-- The model's memory and a flat array have the same size and the same bytes. -/
structure Agrees (m : PhysMem) (f : FlatMem) : Prop where
  size_eq : m.size = f.size
  byte_eq : ∀ a < m.size, m.byte a = f.byte a

namespace Agrees

variable {m : PhysMem} {f : FlatMem}

theorem read32? (h : Agrees m f) (pa : UInt32) : m.read32? pa = f.read32? pa := by
  unfold PhysMem.read32? PhysMem.contains FlatMem.read32?
  by_cases hin : pa.toNat + 4 ≤ m.size
  · rw [if_pos (by simpa using hin), if_pos (h.size_eq ▸ hin)]
    dsimp only
    rw [h.byte_eq _ (by omega),
      h.byte_eq _ (by omega), h.byte_eq _ (by omega), h.byte_eq _ (by omega),
      PhysMem.wordOf_eq_leValue]
  · rw [if_neg (by simpa using hin), if_neg (h.size_eq ▸ hin)]

theorem write32? (h : Agrees m f) (pa v : UInt32) :
    Option.Rel Agrees (m.write32? pa v) (f.write32? pa v) := by
  by_cases hin : pa.toNat + 4 ≤ m.size
  · have hm : m.write32? pa v = some { m with log := .word pa v :: m.log } :=
      PhysMem.write32?_eq_some_iff.mpr ⟨by simpa [PhysMem.contains] using hin, rfl⟩
    rw [hm, FlatMem.write32?, if_pos (h.size_eq ▸ hin)]
    refine .some ⟨h.size_eq, fun a ha => ?_⟩
    -- inside the word both lay down the same byte, outside it both keep the old one
    rw [PhysMem.byte_of_write32? hm]
    dsimp only
    split
    · rw [toUInt8_shiftRight_eq_leByte v (by omega)]
    · exact h.byte_eq a ha
  · have hm : m.write32? pa v = none := by
      simp [PhysMem.write32?, PhysMem.contains, hin]
    rw [hm, FlatMem.write32?, if_neg (h.size_eq ▸ hin)]
    exact .none

theorem zeroFrame (h : Agrees m f) (hm : m.frames ≤ 1048576) (fr : UInt32) :
    ∃ r m' f', m.zeroFrame fr = .ok (r, m') ∧ FlatMem.calls.zeroFrame f fr = .ok (r, f') ∧
      Agrees m' f' := by
  by_cases hin : fr.toNat < m.frames
  · obtain ⟨m', hz, hzero⟩ := PhysMem.zeroFrame_of_lt (decide_eq_true hin) (by omega)
    have hf : (fr.toNat + 1) * 4096 ≤ f.size := by
      rw [← h.size_eq, PhysMem.size]
      exact Nat.mul_le_mul_right _ hin
    refine ⟨some (), m', ⟨f.size, fun a => if a / 4096 = fr.toNat then 0 else f.byte a⟩, hz,
      by simp only [FlatMem.calls, FlatMem.zeroFrame?, if_pos hf]; rfl,
      (PhysMem.size_congr hzero.frames).trans h.size_eq, fun a ha => ?_⟩
    -- inside the frame both hold zero, outside it both keep the old byte
    rw [hzero.byte]
    dsimp only
    split
    · rfl
    · exact h.byte_eq a (by rwa [← PhysMem.size_congr hzero.frames])
  · have hf : ¬ (fr.toNat + 1) * 4096 ≤ f.size := by
      rw [← h.size_eq, PhysMem.size]
      intro hle
      exact hin (by omega)
    exact ⟨none, m, f, PhysMem.zeroFrame_of_not_containsFrame (by simpa [PhysMem.containsFrame] using hin),
      by simp only [FlatMem.calls, FlatMem.zeroFrame?, if_neg hf]; rfl, h⟩

end Agrees

end KernelMonitor
