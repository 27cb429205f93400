import KernelMonitor.SparseMemory
import KernelMonitor.Proofs.FlatMemory

/-! # The sparse test memory refines the flat array

Over at most `2 ^ 20` frames the frame map answers every sequence of word reads, word writes and
frame zeroings as the flat array does, never faults, and keeps only frames below its size, each
of 4096 bytes. It agrees with the write log call by call, zeroing loop included.
-/

namespace KernelMonitor

section Loop

variable {M N : Type} {w₁ : M → UInt32 → UInt32 → Except Fault (Option M)}
  {w₂ : N → UInt32 → UInt32 → Except Fault (Option N)} {R : M → N → Prop}

/-- The zeroing loop on two memories whose word writes of zero agree: where the second one's loop
ends, the first one's ends too, with the same answer and related memories. -/
theorem zeroWords_sim
    (hw : ∀ a b pa ob, R a b → w₂ b pa 0 = .ok ob → ∃ oa, w₁ a pa 0 = .ok oa ∧ Option.Rel R oa ob)
    (base : UInt32) (offs : List UInt32) {a : M} {b b' : N} {r : Option Unit} (hab : R a b)
    (h : zeroWords w₂ base offs b = .ok (r, b')) :
    ∃ a', zeroWords w₁ base offs a = .ok (r, a') ∧ R a' b' := by
  induction offs generalizing a b with
  | nil =>
    simp only [zeroWords, pure, Except.pure, Except.ok.injEq, Prod.mk.injEq] at h
    obtain ⟨rfl, rfl⟩ := h
    exact ⟨a, rfl, hab⟩
  | cons off offs ih =>
    rcases hadd : addExact base off with e | pa
    · simp [zeroWords, hadd, bind, Except.bind] at h
    rcases hw₂ : w₂ b pa 0 with e | ob
    · simp [zeroWords, hadd, hw₂, bind, Except.bind] at h
    obtain ⟨oa, hw₁, hrel⟩ := hw a b pa ob hab hw₂
    cases hrel with
    | none =>
      simp only [zeroWords, hadd, hw₂, bind, Except.bind, pure, Except.pure, Except.ok.injEq,
        Prod.mk.injEq] at h
      obtain ⟨rfl, rfl⟩ := h
      exact ⟨a, by simp only [zeroWords, hadd, hw₁, bind, Except.bind, pure, Except.pure], hab⟩
    | some hr =>
      simp only [zeroWords, hadd, hw₂, bind, Except.bind] at h
      obtain ⟨a', h', hr'⟩ := ih hr h
      exact ⟨a', by simp only [zeroWords, hadd, hw₁, bind, Except.bind]; exact h', hr'⟩

theorem zeroFrameWith_sim {c₁ : M → UInt32 → Bool} {c₂ : N → UInt32 → Bool}
    (hc : ∀ a b f, R a b → c₁ a f = c₂ b f)
    (hw : ∀ a b pa ob, R a b → w₂ b pa 0 = .ok ob → ∃ oa, w₁ a pa 0 = .ok oa ∧ Option.Rel R oa ob)
    {a : M} {b b' : N} {f : UInt32} {r : Option Unit} (hab : R a b)
    (h : zeroFrameWith c₂ w₂ b f = .ok (r, b')) :
    ∃ a', zeroFrameWith c₁ w₁ a f = .ok (r, a') ∧ R a' b' := by
  unfold zeroFrameWith at h ⊢
  rw [hc a b f hab]
  by_cases hcf : c₂ b f = true
  · rw [if_pos hcf] at h ⊢
    obtain ⟨base, hb, hz⟩ := except_bind_eq_ok.mp h
    obtain ⟨a', ha', hr⟩ := zeroWords_sim hw base pageWordOffsets hab hz
    exact ⟨a', except_bind_eq_ok.mpr ⟨base, hb, ha'⟩, hr⟩
  · rw [if_neg hcf] at h ⊢
    cases h
    exact ⟨a, rfl, hab⟩

end Loop

namespace SparseMem

theorem div_pageSize_toNat (pa : UInt32) : (pa / pageSize).toNat = pa.toNat / 4096 :=
  UInt32.toNat_div pa pageSize

theorem mod_pageSize_toNat (pa : UInt32) : (pa % pageSize).toNat = pa.toNat % 4096 :=
  UInt32.toNat_mod pa pageSize

theorem eq_of_div_of_mod {p q : UInt32} (hd : q / pageSize = p / pageSize)
    (hm : (q % pageSize).toNat = (p % pageSize).toNat) : q = p := by
  have hd' := congrArg UInt32.toNat hd
  rw [div_pageSize_toNat, div_pageSize_toNat] at hd'
  rw [mod_pageSize_toNat, mod_pageSize_toNat] at hm
  apply UInt32.toNat_inj.mp
  omega

variable {s : SparseMem}

/-- Every frame held has 4096 bytes. -/
def FullFrames (s : SparseMem) : Prop :=
  ∀ (k : UInt32) (fr : Array UInt8), s.frames[k]? = some fr → fr.size = 4096

theorem byte_eq (h : s.FullFrames) (pa : UInt32) :
    s.byte pa = .ok (match s.frames[pa / pageSize]? with
      | none => 0
      | some fr => fr[(pa % pageSize).toNat]?.getD 0) := by
  have hi : (pa % pageSize).toNat < 4096 := by
    rw [mod_pageSize_toNat]
    omega
  unfold byte
  rcases hk : s.frames[pa / pageSize]? with _ | fr
  · rfl
  · have hs := h _ _ hk
    dsimp only
    rw [dif_pos (by omega), getElem?_pos fr _ (by omega), Option.getD_some]
    rfl

theorem setByte_eq (h : s.FullFrames) (pa : UInt32) (b : UInt8) :
    ∃ s', s.setByte pa b = .ok s' ∧ s'.maxFrames = s.maxFrames ∧ s'.FullFrames ∧
      (∀ k, k ≠ pa / pageSize → s'.frames[k]? = s.frames[k]?) ∧
      ∀ q, s'.byte q = if q = pa then .ok b else s.byte q := by
  have hi : (pa % pageSize).toNat < 4096 := by
    rw [mod_pageSize_toNat]
    omega
  have hfr : (s.frames.getD (pa / pageSize) (Array.replicate 4096 0)).size = 4096 := by
    rw [Std.TreeMap.getD_eq_getD_getElem?]
    rcases hk : s.frames[pa / pageSize]? with _ | fr
    · simp
    · exact h _ _ hk
  have hfull : FullFrames ⟨s.maxFrames, s.frames.insert (pa / pageSize)
      ((s.frames.getD (pa / pageSize) (Array.replicate 4096 0)).set (pa % pageSize).toNat b
        (by omega))⟩ := by
    intro k fr hk
    simp only [Std.TreeMap.getElem?_insert, Std.LawfulEqCmp.compare_eq_iff_eq] at hk
    split at hk
    · cases hk
      rw [Array.size_set, hfr]
    · exact h _ _ hk
  refine ⟨_, dif_pos (by omega), rfl, hfull, ?other, ?byte⟩
  case other =>
    intro k hk
    simp only [Std.TreeMap.getElem?_insert, Std.LawfulEqCmp.compare_eq_iff_eq]
    rw [if_neg (Ne.symm hk)]
  case byte =>
    intro q
    rw [byte_eq hfull q, byte_eq h q]
    simp only [Std.TreeMap.getElem?_insert, Std.LawfulEqCmp.compare_eq_iff_eq]
    by_cases hd : pa / pageSize = q / pageSize
    · -- the frame written: the new byte at the address, the old frame's bytes elsewhere
      rw [if_pos hd]
      dsimp only
      rw [Array.getElem?_set]
      by_cases hm : (pa % pageSize).toNat = (q % pageSize).toNat
      · rw [if_pos hm, if_pos (eq_of_div_of_mod hd.symm hm.symm)]
        rfl
      · rw [if_neg hm, if_neg (fun e => hm (by rw [e])), Std.TreeMap.getD_eq_getD_getElem?, hd]
        rcases hk : s.frames[q / pageSize]? with _ | fr
        · -- a fresh frame holds zeros
          dsimp only
          rw [Option.getD_none, Array.getElem?_replicate]
          split <;> rfl
        · rfl
    · rw [if_neg hd, if_neg (fun e => hd (by rw [e]))]

/-- The frame map holds the bytes of the write log: as many frames, frames held only below that
number and each of 4096 bytes, and the same byte at every address inside memory. -/
structure Agrees (s : SparseMem) (m : PhysMem) : Prop where
  frames : s.maxFrames.toNat = m.frames
  keys : ∀ k fr, s.frames[k]? = some fr → k < s.maxFrames
  full : s.FullFrames
  byte : ∀ pa : UInt32, pa.toNat < m.size → s.byte pa = .ok (m.byte pa.toNat)

variable {m : PhysMem}

theorem Agrees.contains (h : s.Agrees m) (pa : UInt32) (n : Nat) :
    s.contains pa n = m.contains pa n := by
  unfold SparseMem.contains PhysMem.contains PhysMem.size
  rw [h.frames]

theorem Agrees.containsFrame (h : s.Agrees m) (f : UInt32) :
    s.containsFrame f = m.containsFrame f := by
  unfold SparseMem.containsFrame PhysMem.containsFrame
  rw [← h.frames]
  simp only [UInt32.lt_iff_toNat_lt]

theorem addExact_of_contains (hm : m.frames ≤ 1048576) {pa : UInt32} (hc : m.contains pa 4 = true)
    {i : UInt32} (hi : i.toNat < 4) :
    addExact pa i = .ok (pa + i) ∧ (pa + i).toNat = pa.toNat + i.toNat := by
  have hin : pa.toNat + 4 ≤ m.frames * 4096 := of_decide_eq_true hc
  refine ⟨addExact_eq_ok (by omega), ?_⟩
  rw [UInt32.toNat_add]
  omega

theorem Agrees.read32 (h : s.Agrees m) (hm : m.frames ≤ 1048576) (pa : UInt32) :
    s.read32 pa = .ok (m.read32? pa) := by
  unfold SparseMem.read32 PhysMem.read32?
  rw [h.contains]
  by_cases hc : m.contains pa 4 = true
  · have hin : pa.toNat + 4 ≤ m.size := of_decide_eq_true hc
    have hb : ∀ i : UInt32, i.toNat < 4 → addExact pa i = .ok (pa + i) ∧
        s.byte (pa + i) = .ok (m.byte (pa.toNat + i.toNat)) := fun i hi => by
      obtain ⟨ha, hn⟩ := addExact_of_contains hm hc hi
      exact ⟨ha, by rw [h.byte _ (by omega), hn]⟩
    obtain ⟨a0, b0⟩ := hb 0 (by decide)
    obtain ⟨a1, b1⟩ := hb 1 (by decide)
    obtain ⟨a2, b2⟩ := hb 2 (by decide)
    obtain ⟨a3, b3⟩ := hb 3 (by decide)
    simp only [UInt32.reduceToNat, Nat.add_zero] at b0 b1 b2 b3
    rw [if_pos hc, if_pos hc]
    simp only [a0, a1, a2, a3, b0, b1, b2, b3, bind, Except.bind, pure, Except.pure]
  · rw [if_neg hc, if_neg hc]
    rfl

theorem setByte_keys_lt {s' : SparseMem} {pa : UInt32}
    (hk : ∀ k fr, s.frames[k]? = some fr → k < s.maxFrames) (hpa : pa / pageSize < s.maxFrames)
    (hmax : s'.maxFrames = s.maxFrames)
    (hother : ∀ k, k ≠ pa / pageSize → s'.frames[k]? = s.frames[k]?) :
    ∀ k fr, s'.frames[k]? = some fr → k < s'.maxFrames := by
  intro k fr hk'
  rw [hmax]
  by_cases e : k = pa / pageSize
  · exact e ▸ hpa
  · exact hk k fr (by rw [← hother k e]; exact hk')

/-- A word write, read a byte at a time, is four byte writes at `pa` to `pa + 3`, the top byte
last. -/
theorem PhysMem.byte_of_write32?_layers {m' : PhysMem} {pa v : UInt32}
    (hw : m.write32? pa v = some m') (hn : pa.toNat + 4 ≤ 4294967296) (q : UInt32) :
    m'.byte q.toNat =
      if q = pa + 3 then (v >>> 24).toUInt8 else if q = pa + 2 then (v >>> 16).toUInt8
      else if q = pa + 1 then (v >>> 8).toUInt8 else if q = pa + 0 then v.toUInt8
      else m.byte q.toNat := by
  have hoff : ∀ i : UInt32, i.toNat < 4 → (q = pa + i ↔ q.toNat = pa.toNat + i.toNat) :=
    fun i hi => by
      rw [← UInt32.toNat_inj, UInt32.toNat_add]
      omega
  rw [PhysMem.byte_of_write32? hw]
  by_cases e₃ : q.toNat = pa.toNat + 3
  · rw [if_pos (by omega), if_pos ((hoff 3 (by decide)).mpr e₃), e₃, Nat.add_sub_cancel_left]
    rfl
  rw [if_neg (mt (hoff 3 (by decide)).mp e₃)]
  by_cases e₂ : q.toNat = pa.toNat + 2
  · rw [if_pos (by omega), if_pos ((hoff 2 (by decide)).mpr e₂), e₂, Nat.add_sub_cancel_left]
    rfl
  rw [if_neg (mt (hoff 2 (by decide)).mp e₂)]
  by_cases e₁ : q.toNat = pa.toNat + 1
  · rw [if_pos (by omega), if_pos ((hoff 1 (by decide)).mpr e₁), e₁, Nat.add_sub_cancel_left]
    rfl
  rw [if_neg (mt (hoff 1 (by decide)).mp e₁)]
  by_cases e₀ : q.toNat = pa.toNat
  · rw [if_pos (by omega), if_pos ((hoff 0 (by decide)).mpr (by rw [e₀]; rfl)), e₀, Nat.sub_self]
    simp
  rw [if_neg (mt (hoff 0 (by decide)).mp (by simpa using e₀)),
    if_neg (by omega)]

theorem Agrees.write32 (h : s.Agrees m) (hm : m.frames ≤ 1048576) (pa v : UInt32) :
    ∃ os, s.write32 pa v = .ok os ∧ Option.Rel Agrees os (m.write32? pa v) := by
  by_cases hc : m.contains pa 4 = true
  · have hin : pa.toNat + 4 ≤ m.frames * 4096 := of_decide_eq_true hc
    obtain ⟨a0, n0⟩ := addExact_of_contains hm hc (i := 0) (by decide)
    obtain ⟨a1, n1⟩ := addExact_of_contains hm hc (i := 1) (by decide)
    obtain ⟨a2, n2⟩ := addExact_of_contains hm hc (i := 2) (by decide)
    obtain ⟨a3, n3⟩ := addExact_of_contains hm hc (i := 3) (by decide)
    simp only [UInt32.reduceToNat, Nat.add_zero] at n0 n1 n2 n3
    obtain ⟨s₁, h₁, hf₁, hfull₁, hk₁, hb₁⟩ := setByte_eq h.full (pa + 0) v.toUInt8
    obtain ⟨s₂, h₂, hf₂, hfull₂, hk₂, hb₂⟩ := setByte_eq hfull₁ (pa + 1) (v >>> 8).toUInt8
    obtain ⟨s₃, h₃, hf₃, hfull₃, hk₃, hb₃⟩ := setByte_eq hfull₂ (pa + 2) (v >>> 16).toUInt8
    obtain ⟨s₄, h₄, hf₄, hfull₄, hk₄, hb₄⟩ := setByte_eq hfull₃ (pa + 3) (v >>> 24).toUInt8
    obtain ⟨m', hw⟩ : ∃ m', m.write32? pa v = some m' :=
      ⟨_, PhysMem.write32?_eq_some_iff.mpr ⟨hc, rfl⟩⟩
    have hmf : m'.frames = m.frames := PhysMem.frames_of_write32? hw
    refine ⟨some s₄, ?_, ?_⟩
    · unfold SparseMem.write32
      rw [h.contains, if_pos hc]
      simp only [a0, a1, a2, a3, h₁, h₂, h₃, h₄, bind, Except.bind, pure, Except.pure]
    rw [hw]
    refine .some ⟨by rw [hf₄, hf₃, hf₂, hf₁, hmf]; exact h.frames, ?keys, hfull₄, ?byte⟩
    case keys =>
      -- each byte written lies in memory, so its frame is below the frame count
      have hkey : ∀ i : UInt32, (pa + i).toNat < m.frames * 4096 →
          (pa + i) / pageSize < s.maxFrames := by
        intro i hq
        rw [UInt32.lt_iff_toNat_lt, div_pageSize_toNat, h.frames]
        omega
      have k₁ := setByte_keys_lt h.keys (hkey 0 (by omega)) hf₁ hk₁
      have k₂ := setByte_keys_lt k₁ (hf₁ ▸ hkey 1 (by omega)) hf₂ hk₂
      have k₃ := setByte_keys_lt k₂ (hf₂ ▸ hf₁ ▸ hkey 2 (by omega)) hf₃ hk₃
      exact setByte_keys_lt k₃ (hf₃ ▸ hf₂ ▸ hf₁ ▸ hkey 3 (by omega)) hf₄ hk₄
    case byte =>
      intro q hq
      rw [PhysMem.size_congr hmf] at hq
      rw [hb₄, hb₃, hb₂, hb₁, PhysMem.byte_of_write32?_layers hw (by omega) q]
      split_ifs <;> first | rfl | exact h.byte q hq
  · have hc' : s.contains pa 4 = false := by rw [h.contains]; simpa using hc
    have hw : m.write32? pa v = none := by
      rw [PhysMem.write32?_eq_none_iff]
      simpa using hc
    refine ⟨none, ?_, by rw [hw]; exact .none⟩
    unfold SparseMem.write32
    rw [if_neg (by simp [hc'])]
    rfl

theorem Agrees.zeroFrame (h : s.Agrees m) (hm : m.frames ≤ 1048576) (f : UInt32) :
    ∃ r s' m', s.zeroFrame f = .ok (r, s') ∧ m.zeroFrame f = .ok (r, m') ∧ s'.Agrees m' ∧
      m'.frames = m.frames := by
  obtain ⟨r, m', hz, hmf⟩ : ∃ r m', m.zeroFrame f = .ok (r, m') ∧ m'.frames = m.frames := by
    cases hc : m.containsFrame f
    · exact ⟨none, m, PhysMem.zeroFrame_of_not_containsFrame hc, rfl⟩
    · have hf : f.toNat < m.frames := of_decide_eq_true hc
      obtain ⟨m', hz, hzero⟩ := PhysMem.zeroFrame_of_lt hc (by omega)
      exact ⟨some (), m', hz, hzero.frames⟩
  -- each word write of zero on the log is matched on the frame map
  let R : SparseMem → PhysMem → Prop := fun a b => a.Agrees b ∧ b.frames ≤ 1048576
  have hw : ∀ (a : SparseMem) (b : PhysMem) (pa : UInt32) (ob : Option PhysMem), R a b →
      (pure (b.write32? pa 0) : Except Fault _) = .ok ob →
      ∃ oa, a.write32 pa 0 = .ok oa ∧ Option.Rel R oa ob := by
    intro a b pa ob ⟨hab, hb⟩ hob
    obtain rfl : b.write32? pa 0 = ob := Except.ok.inj hob
    obtain ⟨oa, ha, hrel⟩ := hab.write32 hb pa 0
    refine ⟨oa, ha, ?_⟩
    rcases hwb : b.write32? pa 0 with _ | b'
    · rw [hwb] at hrel
      cases hrel
      exact .none
    · rw [hwb] at hrel
      cases hrel with
      | some hr => exact .some ⟨hr, by rw [PhysMem.frames_of_write32? hwb]; exact hb⟩
  obtain ⟨s', hs, hrel, -⟩ := zeroFrameWith_sim (R := R)
    (fun a b f hab => hab.1.containsFrame f) hw ⟨h, hm⟩ hz
  exact ⟨r, s', m', hs, hz, hrel, hmf⟩

def calls : MemCalls SparseMem := ⟨read32, write32, zeroFrame⟩

theorem agrees_empty (n : UInt32) : (empty n).Agrees (PhysMem.blank n.toNat) where
  frames := rfl
  keys _ _ hk := by simp [empty] at hk
  full _ _ hk := by simp [empty] at hk
  byte _ _ := by simp [byte, empty, PhysMem.blank, PhysMem.byte, PhysMem.byteIn]; rfl

/-- One call on the frame map and on the flat array, with a log between them that agrees with
both: the same answer, no fault, and a log that agrees with both afterwards. -/
theorem calls_step (n : UInt32) (hn : n.toNat ≤ 1048576) {s : SparseMem} {f : FlatMem} {m : PhysMem}
    (hsm : s.Agrees m) (hmf : KernelMonitor.Agrees m f) (hmn : m.frames = n.toNat) (op : MemOp) :
    ∃ a s' f', calls.step s op = .ok (a, s') ∧ FlatMem.calls.step f op = .ok (a, f') ∧
      ∃ m' : PhysMem, s'.Agrees m' ∧ KernelMonitor.Agrees m' f' ∧ m'.frames = n.toNat := by
  have hm : m.frames ≤ 1048576 := by omega
  refine MemCalls.step_rel (R := fun (s : SparseMem) (f : FlatMem) => ∃ m' : PhysMem,
    s.Agrees m' ∧ KernelMonitor.Agrees m' f ∧ m'.frames = n.toNat) ⟨m, hsm, hmf, hmn⟩ (fun pa => ?_)
    (fun pa v => ?_) (fun fr => ?_) op
  · exact ⟨_, hsm.read32 hm pa, by rw [hmf.read32? pa]; rfl⟩
  · obtain ⟨os, hs, hrel⟩ := hsm.write32 hm pa v
    have hrel' := hmf.write32? pa v
    refine ⟨os, f.write32? pa v, hs, rfl, ?_⟩
    generalize f.write32? pa v = of at hrel' ⊢
    rcases hw : m.write32? pa v with _ | m'
    · rw [hw] at hrel hrel'
      cases hrel
      cases hrel'
      exact .none
    · rw [hw] at hrel hrel'
      cases hrel with
      | some hr =>
        cases hrel' with
        | some hr' => exact .some ⟨m', hr, hr', (PhysMem.frames_of_write32? hw).trans hmn⟩
  · obtain ⟨r, s', m', hs, hz, hsm', hmf'⟩ := hsm.zeroFrame hm fr
    obtain ⟨r', m'', f', hz', hf', hmf''⟩ := hmf.zeroFrame hm fr
    rw [hz] at hz'
    obtain ⟨rfl, rfl⟩ := Prod.mk.inj (Except.ok.inj hz')
    exact ⟨r, s', f', hs, hf', m', hsm', hmf'', hmf'.trans hmn⟩

end SparseMem

/-- The sparse memory of the test machine, with at most `2 ^ 20` frames, behaves as a flat array
of `n * 4096` bytes, all zero at first: through any sequence of word reads, word writes and
frame zeroings it never faults and gives the array's answers, so a read returns the
little-endian word of the four bytes from its address exactly when they lie below `n * 4096`,
and a write is done under the same condition and changes those four bytes only, across a frame
boundary too. Afterwards it holds the array's bytes, keeps its size, and holds only frames below
`n`, each of 4096 bytes. -/
theorem sparseMem_refines_flat_array (n : UInt32) (hn : n.toNat ≤ 1048576) (ops : List MemOp) :
    ∃ answers s f, SparseMem.calls.run (SparseMem.empty n) ops = .ok (answers, s) ∧
      FlatMem.calls.run (FlatMem.zeros (n.toNat * 4096)) ops = .ok (answers, f) ∧
      s.maxFrames = n ∧ f.size = n.toNat * 4096 ∧
      (∀ pa : UInt32, pa.toNat < f.size → s.byte pa = .ok (f.byte pa.toNat)) ∧
      ∀ k fr, s.frames[k]? = some fr → k < n ∧ fr.size = 4096 := by
  -- the frame map and the array agree through a write log of `n` frames between them
  have hstart : ∃ m : PhysMem, (SparseMem.empty n).Agrees m ∧
      Agrees m (FlatMem.zeros (n.toNat * 4096)) ∧ m.frames = n.toNat :=
    ⟨PhysMem.blank n.toNat, SparseMem.agrees_empty n, ⟨rfl, fun _ _ => rfl⟩, rfl⟩
  obtain ⟨answers, s, f, hs, hf, m, hsm, hmf, hmn⟩ := MemCalls.run_rel
    (R := fun (s : SparseMem) (f : FlatMem) => ∃ m : PhysMem,
      s.Agrees m ∧ Agrees m f ∧ m.frames = n.toNat)
    (fun _ _ op ⟨_, hsm, hmf, hmn⟩ => SparseMem.calls_step n hn hsm hmf hmn op) hstart ops
  have hmax : s.maxFrames = n := UInt32.toNat_inj.mp (hsm.frames.trans hmn)
  refine ⟨answers, s, f, hs, hf, hmax, by rw [← hmf.size_eq, PhysMem.size, hmn], fun pa hpa => ?_,
    fun k fr hk => ⟨hmax ▸ hsm.keys k fr hk, hsm.full k fr hk⟩⟩
  rw [← hmf.size_eq] at hpa
  rw [hsm.byte pa hpa, hmf.byte_eq _ hpa]

/-- The largest memory: a word written across the last frame boundary reads back, and a word
read past the top is refused. -/
theorem sparseMem_refines_flat_array_at_top :
    (1048576 : UInt32).toNat ≤ 1048576 ∧
      ∃ (answers : List MemAnswer) (s : SparseMem) (f : FlatMem), SparseMem.calls.run (SparseMem.empty 1048576)
          [.write 0xffffeffe 0x12345678, .read 0xffffeffe, .read 0xfffffffd, .zero 0xfffff] =
            .ok (answers, s) ∧
        FlatMem.calls.run (FlatMem.zeros ((1048576 : UInt32).toNat * 4096))
          [.write 0xffffeffe 0x12345678, .read 0xffffeffe, .read 0xfffffffd, .zero 0xfffff] =
            .ok (answers, f) ∧
        s.maxFrames = 1048576 ∧ f.size = (1048576 : UInt32).toNat * 4096 ∧
        (∀ pa : UInt32, pa.toNat < f.size → s.byte pa = .ok (f.byte pa.toNat)) ∧
        ∀ (k : UInt32) (fr : Array UInt8), s.frames[k]? = some fr → k < 1048576 ∧ fr.size = 4096 :=
  ⟨by decide, sparseMem_refines_flat_array 1048576 (by decide) _⟩

end KernelMonitor
