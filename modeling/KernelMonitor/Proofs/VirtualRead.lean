import KernelMonitor.Proofs.PageTables
import KernelMonitor.Proofs.Rounding

/-! # Reading a word through the page tables

A word inside its page is one physical read; a word across a page end is read byte by byte, each
byte translated on its own. Both agree with reading its four bytes one at a time, so the trailing
bytes come from the next virtual page.
-/

namespace KernelMonitor

namespace PhysMem

variable {b0 b1 b2 b3 : UInt8}

@[simp] theorem wordOf_toUInt8 : (wordOf b0 b1 b2 b3).toUInt8 = b0 := by
  apply UInt8.toBitVec_inj.mp
  ext i hi
  simp [wordOf]

@[simp] theorem wordOf_shiftRight_8 : (wordOf b0 b1 b2 b3 >>> 8).toUInt8 = b1 := by
  apply UInt8.toBitVec_inj.mp
  ext i hi
  simp [wordOf]
  grind

@[simp] theorem wordOf_shiftRight_16 : (wordOf b0 b1 b2 b3 >>> 16).toUInt8 = b2 := by
  apply UInt8.toBitVec_inj.mp
  ext i hi
  simp [wordOf]
  grind

@[simp] theorem wordOf_shiftRight_24 : (wordOf b0 b1 b2 b3 >>> 24).toUInt8 = b3 := by
  apply UInt8.toBitVec_inj.mp
  ext i hi
  simp [wordOf]
  grind

variable {m : PhysMem}

theorem size_mod_four (m : PhysMem) : m.size % 4 = 0 := by
  unfold size
  omega

theorem read32?_eq_some_iff {pa w : UInt32} :
    m.read32? pa = some w ↔ pa.toNat + 4 ≤ m.size ∧
      w = wordOf (m.byte pa.toNat) (m.byte (pa.toNat + 1)) (m.byte (pa.toNat + 2))
        (m.byte (pa.toNat + 3)) := by
  unfold read32? contains
  by_cases h : pa.toNat + 4 ≤ m.size
  · simp [h, eq_comm]
  · simp [h]

theorem read32?_of_le {pa : UInt32} (h : pa.toNat + 4 ≤ m.size) :
    m.read32? pa = some (wordOf (m.byte pa.toNat) (m.byte (pa.toNat + 1))
      (m.byte (pa.toNat + 2)) (m.byte (pa.toNat + 3))) :=
  read32?_eq_some_iff.mpr ⟨h, rfl⟩

theorem read32?_of_lt {pa : UInt32} (h : m.size < pa.toNat + 4) : m.read32? pa = none := by
  unfold read32? contains
  simp only [decide_eq_true_eq]
  rw [if_neg (by omega)]

theorem wordOf_shiftRight_mod (f : Nat → UInt8) (a : Nat) (pa : UInt32) :
    (wordOf (f a) (f (a + 1)) (f (a + 2)) (f (a + 3)) >>> (pa % 4 * 8)).toUInt8 =
      f (a + pa.toNat % 4) := by
  have hmod : (pa % 4).toNat = pa.toNat % 4 := UInt32.toNat_mod pa 4
  have hr : pa % 4 = 0 ∨ pa % 4 = 1 ∨ pa % 4 = 2 ∨ pa % 4 = 3 := by
    simp only [← UInt32.toNat_inj, hmod, UInt32.reduceToNat]
    omega
  rcases hr with h | h | h | h <;> simp [h, ← hmod]

/-- A byte read out of the aligned word that holds it is the byte itself, and it can be read
exactly when it lies in memory: memory ends on a word boundary. -/
theorem byte_of_aligned_read32? (pa : UInt32) :
    (m.read32? (pa - pa % 4)).bind (fun w => some (w >>> (pa % 4 * 8)).toUInt8) =
      if pa.toNat < m.size then some (m.byte pa.toNat) else none := by
  have hmod : (pa % 4).toNat = pa.toNat % 4 := UInt32.toNat_mod pa 4
  have hle : pa % 4 ≤ pa := UInt32.le_iff_toNat_le.mpr (by rw [hmod]; exact Nat.mod_le _ _)
  have hbase : (pa - pa % 4).toNat = pa.toNat - pa.toNat % 4 := by
    rw [UInt32.toNat_sub_of_le _ _ hle, hmod]
  have hsize := size_mod_four m
  by_cases hin : pa.toNat < m.size
  · rw [read32?_of_le (by omega), if_pos hin, Option.bind_some, hbase,
      wordOf_shiftRight_mod m.byte, Nat.sub_add_cancel (Nat.mod_le _ _)]
  · rw [read32?_of_lt (by omega), if_neg hin, Option.bind_none]

end PhysMem

theorem roundDown_pageSize_toNat (a : UInt32) :
    (roundDown a pageSize).toNat = a.toNat - a.toNat % 4096 :=
  roundDown_toNat a pageSize

theorem Entry.frameAddr_or_pageOffset_toNat (e : Entry) (a : UInt32) :
    (e.frameAddr ||| pageOffset a).toNat = e.frameAddr.toNat + a.toNat % 4096 := by
  have hand : e.frameAddr &&& pageOffset a = 0 := by
    rw [Entry.frameAddr, pageOffset, UInt32.and_assoc, ← UInt32.and_assoc (~~~Entry.flagMask),
      UInt32.and_comm (~~~Entry.flagMask) a, UInt32.and_assoc a,
      show ~~~Entry.flagMask &&& 0xfff = 0 by decide]
    simp
  have hadd : e.frameAddr ||| pageOffset a = e.frameAddr + pageOffset a := by
    apply UInt32.toBitVec_inj.mp
    rw [UInt32.toBitVec_or, UInt32.toBitVec_add, BitVec.add_eq_or_of_and_eq_zero]
    rw [← UInt32.toBitVec_and, hand]
    rfl
  have hle := e.frameAddr_toNat_le
  rw [hadd, UInt32.toNat_add, pageOffset_toNat]
  omega

namespace PageDir

/-- The byte at a virtual address, straight from memory: the byte at the physical address the
address maps to, when that lies in memory. -/
def byteAt? (d : PageDir) (m : PhysMem) (va : UInt32) : Option UInt8 := do
  let t ← d.resolve? m va
  if t.pa.toNat < m.size then some (m.byte t.pa.toNat) else none

/-- The little-endian word of the four bytes from `va`, each translated on its own, when all
four addresses lie below the top of the address space. -/
def bytewise32? (d : PageDir) (m : PhysMem) (va : UInt32) : Option UInt32 :=
  if va.toNat + 3 ≤ 0xffffffff then do
    let b0 ← d.byteAt? m va
    let b1 ← d.byteAt? m (va + 1)
    let b2 ← d.byteAt? m (va + 2)
    let b3 ← d.byteAt? m (va + 3)
    some (PhysMem.wordOf b0 b1 b2 b3)
  else none

variable {d : PageDir} {m : PhysMem} {va : UInt32}

theorem readByte?_eq_byteAt? (d : PageDir) (m : PhysMem) (va : UInt32) :
    d.readByte? m va = d.byteAt? m va := by
  unfold readByte? byteAt?
  rcases d.resolve? m va with _ | t
  · rfl
  · exact m.byte_of_aligned_read32? t.pa

theorem toNat_add_of_lt_pageEnd {i : UInt32} (hi : va.toNat % 4096 + i.toNat < 4096) :
    (va + i).toNat = va.toNat + i.toNat := by
  rw [UInt32.toNat_add]
  have := va.toNat_lt
  omega

theorem pageNumber_add {i : UInt32} (hi : va.toNat % 4096 + i.toNat < 4096) :
    pageNumber (va + i) = pageNumber va := by
  apply UInt32.toNat_inj.mp
  rw [pageNumber_toNat, pageNumber_toNat, toNat_add_of_lt_pageEnd hi]
  omega

theorem pa_toNat_of_resolve? {t : Mapping} (h : d.resolve? m va = some t) :
    t.va = va ∧ t.pa.toNat = t.entry.frameAddr.toNat + va.toNat % 4096 := by
  rcases hl : d.lookup? m va with _ | slot
  · rw [resolve?_of_lookup?_none hl] at h
    cases h
  · rcases hw : m.read32? slot with _ | w
    · rw [resolve?_of_read32?_none hl hw] at h
      cases h
    · rw [resolve?_of_read32? hl hw] at h
      split at h
      · cases h
        exact ⟨rfl, Entry.frameAddr_or_pageOffset_toNat _ _⟩
      · cases h

variable {i : UInt32}

theorem resolve?_add {t : Mapping} (h : d.resolve? m va = some t)
    (hi : va.toNat % 4096 + i.toNat < 4096) :
    ∃ t', d.resolve? m (va + i) = some t' ∧ t'.entry = t.entry ∧
      t'.pa.toNat = t.pa.toNat + i.toNat := by
  have he : (d.resolve? m (va + i)).map (·.entry) = (d.resolve? m va).map (·.entry) :=
    resolve?_entry_of_pageNumber_eq (pageNumber_add hi)
  rw [h, Option.map_some] at he
  obtain ⟨t', ht', hentry⟩ := Option.map_eq_some_iff.mp he
  refine ⟨t', ht', hentry, ?_⟩
  rw [(pa_toNat_of_resolve? ht').2, (pa_toNat_of_resolve? h).2, hentry,
    toNat_add_of_lt_pageEnd hi]
  omega

theorem resolve?_add_of_none (h : d.resolve? m va = none)
    (hi : va.toNat % 4096 + i.toNat < 4096) : d.resolve? m (va + i) = none := by
  have he : (d.resolve? m (va + i)).map (·.entry) = (d.resolve? m va).map (·.entry) :=
    resolve?_entry_of_pageNumber_eq (pageNumber_add hi)
  rw [h, Option.map_none] at he
  exact Option.map_eq_none_iff.mp he

theorem byteAt?_add (va i : UInt32) (hi : va.toNat % 4096 + i.toNat < 4096) :
    d.byteAt? m (va + i) = (d.resolve? m va).bind fun t =>
      if t.pa.toNat + i.toNat < m.size then some (m.byte (t.pa.toNat + i.toNat)) else none := by
  rcases h : d.resolve? m va with _ | t
  · rw [byteAt?, resolve?_add_of_none h hi]
    rfl
  · obtain ⟨t', ht', -, hpa⟩ := resolve?_add h hi
    rw [byteAt?, ht']
    simp only [Option.bind_eq_bind, Option.bind_some, hpa]

theorem addChecked?_of_lt (a b : UInt32) (h : a.toNat + b.toNat < 4294967296) :
    addChecked? a b = some (a + b) := by
  rw [addChecked?, if_pos h]

theorem addChecked?_of_le (a b : UInt32) (h : 4294967296 ≤ a.toNat + b.toNat) :
    addChecked? a b = none := by
  rw [addChecked?, if_neg (by omega)]

theorem read32?_of_resolve? {t : Mapping} (ht : d.resolve? m va = some t)
    (h : pageOffset va ≤ 0xffc) : d.read32? m va = m.read32? t.pa := by
  rw [read32?, if_pos h, ht]
  rfl

theorem read32?_of_pageOffset_le (h : pageOffset va ≤ 0xffc) :
    d.read32? m va = d.bytewise32? m va := by
  have hoff : va.toNat % 4096 ≤ 0xffc := by
    have := UInt32.le_iff_toNat_le.mp h
    rwa [pageOffset_toNat] at this
  have htop : va.toNat + 3 ≤ 0xffffffff := by
    have := va.toNat_lt
    omega
  rw [read32?, if_pos h, bytewise32?, if_pos htop,
    byteAt?_add va 1 (by simp only [UInt32.reduceToNat]; omega),
    byteAt?_add va 2 (by simp only [UInt32.reduceToNat]; omega),
    byteAt?_add va 3 (by simp only [UInt32.reduceToNat]; omega)]
  unfold byteAt?
  rcases d.resolve? m va with _ | t
  · rfl
  · by_cases hin : t.pa.toNat + 4 ≤ m.size
    · simp [PhysMem.read32?_of_le hin, show t.pa.toNat < m.size by omega,
        show t.pa.toNat + 1 < m.size by omega, show t.pa.toNat + 2 < m.size by omega,
        show t.pa.toNat + 3 < m.size by omega]
    · simp [PhysMem.read32?_of_lt (show m.size < t.pa.toNat + 4 by omega),
        show ¬ t.pa.toNat + 3 < m.size by omega]

theorem read32?_of_lt_pageOffset (h : 0xffc < pageOffset va) :
    d.read32? m va = d.bytewise32? m va := by
  rw [read32?, if_neg (by simpa using h), bytewise32?]
  simp only [readByteAt?]
  by_cases htop : va.toNat + 3 ≤ 0xffffffff
  · rw [if_pos htop, addChecked?_of_lt va 0 (by simp; omega),
      addChecked?_of_lt va 1 (by simp; omega), addChecked?_of_lt va 2 (by simp; omega),
      addChecked?_of_lt va 3 (by simp; omega)]
    simp [readByte?_eq_byteAt?]
  · rw [if_neg htop, addChecked?_of_le va 3 (by simp; omega)]
    simp

/-- Reading a word through the page tables gives the word of its four bytes, each translated on
its own: it is there exactly when its four addresses stay below the top of the address space
and each maps to a byte inside memory, inside its page or across the page end alike. -/
theorem read32?_eq_bytewise32? (d : PageDir) (m : PhysMem) (va : UInt32) :
    d.read32? m va = d.bytewise32? m va := by
  by_cases h : pageOffset va ≤ 0xffc
  · exact read32?_of_pageOffset_le h
  · exact read32?_of_lt_pageOffset (UInt32.not_le.mp h)

/- Pages `0x800000` and `0x801000` map to frames `0x300` and `0x500`: the word at `0x800ffe`
takes its upper half from frame `0x500`, not from frame `0x301` that follows `0x300`. -/
example :
    let m : PhysMem := ⟨0x8000, [.word 0x301000 0x11112222, .word 0x500000 0xddddcccc,
      .word 0x300ffc 0xbbbbaaaa, .word 0x7000004 0x500001, .word 0x7000000 0x300001,
      .word 0x1008 0x7000007]⟩
    (PageDir.ofRoot 0x1000).read32? m 0x800ffe = some 0xccccbbbb := by
  decide

end PageDir

end KernelMonitor
