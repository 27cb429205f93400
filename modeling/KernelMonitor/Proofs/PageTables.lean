import KernelMonitor.Machine
import KernelMonitor.Proofs.Dispatch
import KernelMonitor.Proofs.Paging
import Mathlib.Data.Finset.Card

/-! # Page tables as a finite map

After any sequence of mappings on a test machine, with command lines between them that leave
protections alone, every mapping succeeds and the two-level table reads as a finite map from page
numbers to entries. Memory is kept in table coordinates, where every write is a point update.
-/

namespace KernelMonitor

theorem dirIndex_lt (va : UInt32) : (dirIndex va).toNat < 1024 := by
  rw [dirIndex_toNat]
  omega

theorem tableIndex_lt (va : UInt32) : (tableIndex va).toNat < 1024 := by
  rw [tableIndex_toNat]
  omega

theorem pageNumber_eq_iff {x y : UInt32} :
    pageNumber x = pageNumber y ↔ dirIndex x = dirIndex y ∧ tableIndex x = tableIndex y := by
  rw [← UInt32.toNat_inj, ← UInt32.toNat_inj, ← UInt32.toNat_inj, pageNumber_toNat,
    pageNumber_toNat, dirIndex_toNat, dirIndex_toNat, tableIndex_toNat, tableIndex_toNat]
  have hx := x.toNat_lt
  have hy := y.toNat_lt
  omega

/-- The address of entry `i` of the directory or page table in frame `frame`. -/
def entrySlot (frame i : Nat) : UInt32 := (frame * 4096 + 4 * i).toUInt32

section EntrySlot

variable {F G i j : Nat}

theorem entrySlot_toNat (hF : F < 0x100000) (hi : i < 1024) :
    (entrySlot F i).toNat = F * 4096 + 4 * i :=
  toUInt32_toNat_of_lt (by omega)

theorem entrySlot_aligned (hF : F < 0x100000) (hi : i < 1024) : (entrySlot F i).toNat % 4 = 0 := by
  rw [entrySlot_toNat hF hi]
  omega

theorem entrySlot_eq_iff (hF : F < 0x100000) (hi : i < 1024) (hG : G < 0x100000) (hj : j < 1024) :
    entrySlot G j = entrySlot F i ↔ G = F ∧ j = i := by
  rw [← UInt32.toNat_inj, entrySlot_toNat hG hj, entrySlot_toNat hF hi]
  omega

theorem dirSlot_eq_entrySlot (va : UInt32) :
    (PageDir.ofRoot 0x1000).dirSlot va = entrySlot 1 (dirIndex va).toNat := by
  apply UInt32.toNat_inj.mp
  have hd := dirIndex_lt va
  rw [entrySlot_toNat (by omega) hd, PageDir.dirSlot, UInt32.toNat_add, UInt32.toNat_mul]
  change (4096 + (dirIndex va).toNat * 4 % 4294967296) % 4294967296 = _
  omega

theorem tableSlot_eq_entrySlot (hF : F < 0x100000) (va : UInt32) :
    PageDir.tableSlot F.toUInt32 va = entrySlot F (tableIndex va).toNat := by
  apply UInt32.toNat_inj.mp
  have ht := tableIndex_lt va
  have hs : (frameStart F.toUInt32).toNat = F * 4096 := by
    rw [frameStart, UInt32.toNat_mul, toUInt32_toNat_of_lt (by omega),
      show pageSize.toNat = 4096 from rfl]
    omega
  rw [entrySlot_toNat hF ht, PageDir.tableSlot, UInt32.toNat_add, UInt32.toNat_mul, hs]
  change (F * 4096 + (tableIndex va).toNat * 4 % 4294967296) % 4294967296 = _
  omega

end EntrySlot

namespace PhysMem

variable {m m' : PhysMem} {f v : UInt32} {F G i j : Nat}

theorem read32?_write32?_entrySlot (h : m.write32? (entrySlot F i) v = some m')
    (hF : F < 0x100000) (hi : i < 1024) (hG : G < 0x100000) (hj : j < 1024) :
    m'.read32? (entrySlot G j) = if G = F ∧ j = i then some v else m.read32? (entrySlot G j) := by
  rw [read32?_write32?_of_aligned h (entrySlot_aligned hF hi) (entrySlot_aligned hG hj)]
  simp only [entrySlot_eq_iff hF hi hG hj]

theorem FrameZeroed.read32?_entrySlot (h : m.FrameZeroed f m') (hf : f.toNat < m.frames)
    (hG : G < 0x100000) (hj : j < 1024) :
    m'.read32? (entrySlot G j) = if G = f.toNat then some 0 else m.read32? (entrySlot G j) := by
  have hd : (G * 4096 + 4 * j) / 4096 = G := by omega
  rw [h.read32? hf (entrySlot_aligned hG hj), entrySlot_toNat hG hj, hd]

theorem read32?_of_new_table {m₁ m₂ m₃ : PhysMem} {dw tw : UInt32}
    (hz : m.FrameZeroed F.toUInt32 m₁) (hin : F < m.frames)
    (hw₂ : m₁.write32? (entrySlot 1 i) dw = some m₂)
    (hw₃ : m₂.write32? (entrySlot F j) tw = some m₃) (hF : 1 < F) (hF' : F < 0x100000)
    (hi : i < 1024) (hj : j < 1024) {G k : Nat} (hG : G < 0x100000) (hk : k < 1024) :
    m₃.read32? (entrySlot G k) =
      if G = F then (if k = j then some tw else some 0)
      else if G = 1 ∧ k = i then some dw else m.read32? (entrySlot G k) := by
  have hFn : F.toUInt32.toNat = F := toUInt32_toNat_of_lt (by omega)
  rw [read32?_write32?_entrySlot hw₃ hF' hj hG hk, read32?_write32?_entrySlot hw₂ (by omega) hi hG hk,
    hz.read32?_entrySlot (by rw [hFn]; exact hin) hG hk, hFn]
  by_cases hGF : G = F
  · subst hGF
    by_cases hkj : k = j
    · rw [if_pos ⟨rfl, hkj⟩, if_pos rfl, if_pos hkj]
    · rw [if_neg (fun c => hkj c.2), if_neg (fun c => by omega), if_pos rfl, if_pos rfl, if_neg hkj]
  · rw [if_neg (fun c => hGF c.1), if_neg hGF, if_neg hGF]

theorem write32?_entrySlot (hm : m.frames = 0x8000) (hF : F < 0x8000) (hi : i < 1024)
    (v : UInt32) :
    m.write32? (entrySlot F i) v = some { m with log := .word (entrySlot F i) v :: m.log } := by
  have hc : m.contains (entrySlot F i) 4 = true := by
    simp only [contains, size, hm]
    exact decide_eq_true (by rw [entrySlot_toNat (by omega) hi]; omega)
  rw [write32?, if_pos hc]

end PhysMem

namespace Entry

theorem make_raw_toNat {f : UInt32} (fl : Flags) (hf : f.toNat < 0x100000) :
    (make f fl).raw.toNat = f.toNat * 4096 + fl.bits.toNat % 4096 := by
  have hm : (fl.bits &&& flagMask).toNat = fl.bits.toNat % 4096 := by
    rw [UInt32.toNat_and, show flagMask.toNat = 2 ^ 12 - 1 from rfl,
      Nat.and_two_pow_sub_one_eq_mod]
  have hs : (frameStart f).toNat = 2 ^ 12 * f.toNat := by
    rw [frameStart, UInt32.toNat_mul, show pageSize.toNat = 4096 from rfl]
    omega
  rw [make, UInt32.toNat_or, hm, hs, ← Nat.two_pow_add_eq_or_of_lt (by omega)]
  omega

theorem frame_make {f : UInt32} (fl : Flags) (hf : f.toNat < 0x100000) : (make f fl).frame = f := by
  apply UInt32.toNat_inj.mp
  rw [frame, UInt32.toNat_shiftRight, make_raw_toNat fl hf, Nat.shiftRight_eq_div_pow]
  simp only [show (12 : UInt32).toNat % 32 = 12 from rfl]
  omega

theorem present_iff (e : Entry) : e.present = true ↔ e.raw.toNat % 2 = 1 := by
  have h : (e.raw &&& 1).toNat = e.raw.toNat % 2 := by
    rw [UInt32.toNat_and, show (1 : UInt32).toNat = 2 ^ 1 - 1 from rfl,
      Nat.and_two_pow_sub_one_eq_mod]
  simp only [present, bne_iff_ne, ne_eq]
  rw [← UInt32.toNat_inj, h]
  simp

theorem present_make_newTableFlags {f : UInt32} (hf : f.toNat < 0x100000) :
    (make f PageDir.newTableFlags).present = true := by
  rw [present_iff, make_raw_toNat _ hf]
  change (f.toNat * 4096 + 7) % 2 = 1
  omega

end Entry

/-- A mapping asked of a test machine: the page of `va` to the frame of `pa`, with `flags`. -/
structure PageMapping where
  va : UInt32
  pa : UInt32
  flags : Flags

def PageMapping.entry (e : PageMapping) : Entry := Entry.make (pageNumber e.pa) e.flags

/-- Adds the directory index of a mapping, unless it is there already. -/
def addDir (ds : List UInt32) (e : PageMapping) : List UInt32 :=
  if dirIndex e.va ∈ ds then ds else ds ++ [dirIndex e.va]

/-- The directory indices of the mapped addresses, each once, in the order of first use: the
order in which their page tables are made. -/
def tableDirs (maps : List PageMapping) : List UInt32 := maps.foldl addDir []

/-- The frame of the page table for directory index `d`: tables take frames from 0x7000 on. -/
def tableFrame (maps : List PageMapping) (d : UInt32) : Nat := 0x7000 + (tableDirs maps).idxOf d

def lastMapping? (maps : List PageMapping) (pn : UInt32) : Option PageMapping :=
  maps.reverse.find? (fun e => pageNumber e.va == pn)

/-- The directory entry for index `d` after `maps`. -/
def dirWord (maps : List PageMapping) (d : UInt32) : UInt32 :=
  if d ∈ tableDirs maps then (Entry.make (tableFrame maps d).toUInt32 PageDir.newTableFlags).raw
  else 0

/-- The table entry for page `pn` after `maps`. -/
def pteWord (maps : List PageMapping) (pn : UInt32) : UInt32 :=
  match lastMapping? maps pn with
  | some e => e.entry.raw
  | none => 0

section TableDirs

variable {maps : List PageMapping} {e : PageMapping} {d : UInt32}

theorem mem_foldl_addDir (ds : List UInt32) :
    d ∈ maps.foldl addDir ds ↔ d ∈ ds ∨ ∃ e ∈ maps, dirIndex e.va = d := by
  induction maps generalizing ds with
  | nil => simp
  | cons e maps ih =>
    rw [List.foldl_cons, ih, addDir]
    split
    · rename_i he
      constructor
      · rintro (h | ⟨e', he', rfl⟩)
        · exact .inl h
        · exact .inr ⟨e', List.mem_cons_of_mem _ he', rfl⟩
      · rintro (h | ⟨e', he', rfl⟩)
        · exact .inl h
        · rcases List.mem_cons.mp he' with rfl | h
          · exact .inl he
          · exact .inr ⟨e', h, rfl⟩
    · simp only [List.mem_append, List.mem_cons, List.not_mem_nil, or_false, exists_eq_or_imp]
      constructor
      · rintro ((h | rfl) | h)
        · exact .inl h
        · exact .inr (.inl rfl)
        · exact .inr (.inr h)
      · rintro (h | h | h)
        · exact .inl (.inl h)
        · exact .inl (.inr h.symm)
        · exact .inr h

theorem mem_tableDirs : d ∈ tableDirs maps ↔ ∃ e ∈ maps, dirIndex e.va = d := by
  rw [tableDirs, mem_foldl_addDir]
  simp

theorem nodup_foldl_addDir {ds : List UInt32} (h : ds.Nodup) : (maps.foldl addDir ds).Nodup := by
  induction maps generalizing ds with
  | nil => exact h
  | cons e maps ih =>
    rw [List.foldl_cons]
    apply ih
    rw [addDir]
    split
    · exact h
    · rename_i he
      refine List.nodup_append.mpr ⟨h, by simp, ?_⟩
      rintro a ha b hb rfl
      rw [List.mem_singleton] at hb
      exact he (hb ▸ ha)

theorem nodup_tableDirs : (tableDirs maps).Nodup := nodup_foldl_addDir List.nodup_nil

theorem tableDirs_append_of_mem (h : dirIndex e.va ∈ tableDirs maps) :
    tableDirs (maps ++ [e]) = tableDirs maps := by
  rw [tableDirs, List.foldl_append]
  exact if_pos h

theorem tableDirs_append_of_not_mem (h : dirIndex e.va ∉ tableDirs maps) :
    tableDirs (maps ++ [e]) = tableDirs maps ++ [dirIndex e.va] := by
  rw [tableDirs, List.foldl_append]
  exact if_neg h

theorem length_tableDirs_le : (tableDirs maps).length ≤ 1024 := by
  have hnd : ((tableDirs maps).map UInt32.toNat).Nodup :=
    nodup_tableDirs.map (fun _ _ h => UInt32.toNat_inj.mp h)
  have hsub : ((tableDirs maps).map UInt32.toNat).toFinset ⊆ Finset.range 1024 := by
    intro n hn
    simp only [List.mem_toFinset, List.mem_map] at hn
    obtain ⟨d', hd', rfl⟩ := hn
    obtain ⟨e, -, rfl⟩ := mem_tableDirs.mp hd'
    exact Finset.mem_range.mpr (dirIndex_lt _)
  have hc := Finset.card_le_card hsub
  rwa [List.toFinset_card_of_nodup hnd, List.length_map, Finset.card_range] at hc

theorem length_tableDirs :
    (tableDirs maps).length = (maps.map (fun e => dirIndex e.va)).toFinset.card := by
  rw [← List.toFinset_card_of_nodup nodup_tableDirs]
  congr 1
  ext d
  simp [mem_tableDirs]

theorem le_tableFrame (d : UInt32) : 0x7000 ≤ tableFrame maps d := Nat.le_add_right _ _

theorem tableFrame_lt_length (h : d ∈ tableDirs maps) :
    tableFrame maps d < 0x7000 + (tableDirs maps).length := by
  have hi := List.idxOf_lt_length_of_mem h
  unfold tableFrame
  omega

theorem tableFrame_lt (h : d ∈ tableDirs maps) : tableFrame maps d < 0x7400 := by
  have hi := tableFrame_lt_length h
  have hl : (tableDirs maps).length ≤ 1024 := length_tableDirs_le
  omega

theorem tableFrame_append_of_mem (h : d ∈ tableDirs maps) :
    tableFrame (maps ++ [e]) d = tableFrame maps d := by
  unfold tableFrame
  by_cases he : dirIndex e.va ∈ tableDirs maps
  · rw [tableDirs_append_of_mem he]
  · rw [tableDirs_append_of_not_mem he, List.idxOf_append, if_pos h]

theorem tableFrame_append_new (h : dirIndex e.va ∉ tableDirs maps) :
    tableFrame (maps ++ [e]) (dirIndex e.va) = 0x7000 + (tableDirs maps).length := by
  unfold tableFrame
  rw [tableDirs_append_of_not_mem h, List.idxOf_append, if_neg h]
  simp

theorem tableFrame_inj {d' : UInt32} (h : d ∈ tableDirs maps) :
    tableFrame maps d' = tableFrame maps d ↔ d' = d := by
  unfold tableFrame
  rw [Nat.add_left_cancel_iff, eq_comm, List.idxOf_inj h, eq_comm]

end TableDirs

section Words

variable {maps : List PageMapping} {e : PageMapping}

theorem lastMapping?_append (pn : UInt32) :
    lastMapping? (maps ++ [e]) pn =
      if pageNumber e.va = pn then some e else lastMapping? maps pn := by
  unfold lastMapping?
  rw [List.reverse_append, List.reverse_singleton, List.singleton_append, List.find?_cons]
  by_cases h : pageNumber e.va = pn
  · rw [if_pos h, beq_iff_eq.mpr h]
  · rw [if_neg h, beq_eq_false_iff_ne.mpr h]

theorem dirIndex_of_lastMapping? {pn : UInt32} {e' : PageMapping}
    (h : lastMapping? maps pn = some e') : e' ∈ maps ∧ pageNumber e'.va = pn := by
  have hm := List.mem_of_find?_eq_some h
  have hp := List.find?_some h
  exact ⟨List.mem_reverse.mp hm, by simpa using hp⟩

theorem pteWord_append (pn : UInt32) :
    pteWord (maps ++ [e]) pn = if pageNumber e.va = pn then e.entry.raw else pteWord maps pn := by
  unfold pteWord
  rw [lastMapping?_append]
  by_cases h : pageNumber e.va = pn
  · rw [if_pos h, if_pos h]
  · rw [if_neg h, if_neg h]

theorem pteWord_of_not_mem {x : UInt32} (h : dirIndex x ∉ tableDirs maps) :
    pteWord maps (pageNumber x) = 0 := by
  unfold pteWord
  rcases hl : lastMapping? maps (pageNumber x) with _ | e'
  · rfl
  · obtain ⟨hm, hp⟩ := dirIndex_of_lastMapping? hl
    exact absurd (mem_tableDirs.mpr ⟨e', hm, (pageNumber_eq_iff.mp hp).1⟩) h

theorem dirWord_of_not_mem {d : UInt32} (h : d ∉ tableDirs maps) : dirWord maps d = 0 :=
  if_neg h

theorem dirWord_append_of_mem (h : dirIndex e.va ∈ tableDirs maps) (d : UInt32) :
    dirWord (maps ++ [e]) d = dirWord maps d := by
  unfold dirWord tableFrame
  rw [tableDirs_append_of_mem h]

theorem dirWord_append_of_not_mem (h : dirIndex e.va ∉ tableDirs maps) (d : UInt32) :
    dirWord (maps ++ [e]) d =
      if d = dirIndex e.va then
        (Entry.make (0x7000 + (tableDirs maps).length).toUInt32 PageDir.newTableFlags).raw
      else dirWord maps d := by
  by_cases hd : d = dirIndex e.va
  · subst hd
    have hm : dirIndex e.va ∈ tableDirs (maps ++ [e]) := by
      rw [tableDirs_append_of_not_mem h]
      exact List.mem_append_right _ (List.mem_singleton_self _)
    rw [if_pos rfl, dirWord, if_pos hm, tableFrame_append_new h]
  · have hm : d ∈ tableDirs (maps ++ [e]) ↔ d ∈ tableDirs maps := by
      rw [tableDirs_append_of_not_mem h, List.mem_append, List.mem_singleton]
      exact or_iff_left hd
    rw [if_neg hd, dirWord, dirWord]
    by_cases hin : d ∈ tableDirs maps
    · rw [if_pos (hm.mpr hin), if_pos hin, tableFrame_append_of_mem hin]
    · rw [if_neg (fun h' => hin (hm.mp h')), if_neg hin]

end Words

namespace PageDir

variable {σ : Type} {d : PageDir} {m m₁ m₂ : PhysMem} {va f : UInt32}
  {alloc : Option (σ → Option UInt32 × σ)} {next : σ → Option UInt32 × σ} {s s' : σ}

/-! ## One lemma for each way through a walk -/

theorem walkWith_of_table? {t : UInt32} (h : d.table? m va = some t) :
    d.walkWith m va alloc s = .ok ⟨some (tableSlot t va), m, s, []⟩ := by
  unfold walkWith
  rw [h]
  rfl

theorem walkWith_of_no_allocator (h : d.table? m va = none) :
    d.walkWith m va none s = .ok ⟨none, m, s, []⟩ := by
  rw [walkWith, h]
  rfl

theorem walkWith_of_exhausted (h : d.table? m va = none) (hn : next s = (none, s')) :
    d.walkWith m va (some next) s = .ok ⟨none, m, s', []⟩ := by
  rw [walkWith, h]
  dsimp only
  rw [hn]
  rfl

theorem walkWith_of_outside (h : d.table? m va = none) (hn : next s = (some f, s'))
    (hf : m.containsFrame f = false) :
    ∃ log, d.walkWith m va (some next) s = .ok ⟨none, m, s', log⟩ := by
  rw [walkWith, h]
  dsimp only
  rw [hn]
  dsimp only
  rw [if_neg (by simp [hf])]
  exact ⟨_, rfl⟩

theorem walkWith_of_zero_fault (h : d.table? m va = none) (hn : next s = (some f, s'))
    (hc : m.containsFrame f = true) {e : Fault} (hz : m.zeroFrame f = .error e) :
    d.walkWith m va (some next) s = .error e := by
  rw [walkWith, h]
  dsimp only
  rw [hn]
  dsimp only
  rw [if_pos hc, hz]
  rfl

theorem walkWith_of_store_refused (h : d.table? m va = none) (hn : next s = (some f, s'))
    (hc : m.containsFrame f = true) (hz : m.zeroFrame f = .ok (some (), m₁))
    (hw : m₁.write32? (d.dirSlot va) (Entry.make f newTableFlags).raw = none) :
    d.walkWith m va (some next) s = .ok ⟨none, m₁, s', []⟩ := by
  rw [walkWith, h]
  dsimp only
  rw [hn]
  dsimp only
  rw [if_pos hc, hz]
  simp only [bind, Except.bind, hw]
  rfl

theorem walkWith_of_new (h : d.table? m va = none) (hn : next s = (some f, s'))
    (hc : m.containsFrame f = true) (hz : m.zeroFrame f = .ok (some (), m₁))
    (hw : m₁.write32? (d.dirSlot va) (Entry.make f newTableFlags).raw = some m₂) :
    ∃ log, d.walkWith m va (some next) s = .ok ⟨some (tableSlot f va), m₂, s', log⟩ := by
  rw [walkWith, h]
  dsimp only
  rw [hn]
  dsimp only
  rw [if_pos hc, hz]
  simp only [bind, Except.bind, hw]
  exact ⟨_, rfl⟩

/-- Everything a walk can do when the table is missing and it has an allocator: the allocator
is called once, and then the walk stops for want of a frame, stops at a frame outside memory,
faults on a frame past the top of the 32-bit space, or zeroes the frame and then fails to store
the directory entry or stores it. -/
theorem walkWith_cases (next : σ → Option UInt32 × σ) (s : σ) (h : d.table? m va = none) :
    ((next s).1 = none ∧ d.walkWith m va (some next) s = .ok ⟨none, m, (next s).2, []⟩) ∨
    ∃ f, (next s).1 = some f ∧
      ((m.containsFrame f = false ∧
          ∃ log, d.walkWith m va (some next) s = .ok ⟨none, m, (next s).2, log⟩) ∨
        (m.containsFrame f = true ∧ 1048576 ≤ f.toNat ∧
          d.walkWith m va (some next) s = .error .mulOverflow) ∨
        (∃ m₁, m.containsFrame f = true ∧ m.FrameZeroed f m₁ ∧
          m₁.write32? (d.dirSlot va) (Entry.make f newTableFlags).raw = none ∧
          d.walkWith m va (some next) s = .ok ⟨none, m₁, (next s).2, []⟩) ∨
        (∃ m₁ m₂ log, m.containsFrame f = true ∧ m.FrameZeroed f m₁ ∧
          m₁.write32? (d.dirSlot va) (Entry.make f newTableFlags).raw = some m₂ ∧
          d.walkWith m va (some next) s = .ok ⟨some (tableSlot f va), m₂, (next s).2, log⟩)) := by
  rcases hn : next s with ⟨_ | f, s'⟩
  · exact .inl ⟨rfl, walkWith_of_exhausted h hn⟩
  refine .inr ⟨f, rfl, ?_⟩
  cases hf : m.containsFrame f
  · exact .inl ⟨rfl, walkWith_of_outside h hn hf⟩
  by_cases hbig : 1048576 ≤ f.toNat
  · exact .inr (.inl ⟨rfl, hbig, walkWith_of_zero_fault h hn hf (PhysMem.zeroFrame_of_le hf hbig)⟩)
  -- a frame inside memory and below the top is zeroed; then the directory store decides
  obtain ⟨m₁, hz, hzero⟩ := PhysMem.zeroFrame_of_lt hf (by omega)
  rcases hw : m₁.write32? (d.dirSlot va) (Entry.make f newTableFlags).raw with _ | m₂
  · exact .inr (.inr (.inl ⟨m₁, rfl, hzero, hw, walkWith_of_store_refused h hn hf hz hw⟩))
  · obtain ⟨log, hwk⟩ := walkWith_of_new h hn hf hz hw
    exact .inr (.inr (.inr ⟨m₁, m₂, log, rfl, hzero, hw, hwk⟩))

end PageDir

namespace Machine

theorem place_of_walk {m : Machine} {va pa : UInt32} {flags : Flags} {slot : UInt32}
    {mem mem' : PhysMem} {s' : FrameSupply} {log : List Note}
    (hw : m.pageDir.walk m.target.mem va m.supply = .ok ⟨some slot, mem, s', log⟩)
    (hwr : mem.write32? slot (Entry.make (pageNumber pa) flags).raw = some mem') :
    m.place va pa flags = .ok { m with target := { m.target with mem := mem' }, supply := s' } := by
  unfold place map
  rw [hw]
  simp only [bind, Except.bind, hwr]
  rfl

/-- The machine holds the page directory and tables that `maps`, asked in order, leave: the
directory in frame 1 holds an entry for each directory index in use, pointing at its table in
the frame `tableFrame` gives, each table holds the entries of the last mappings of its pages,
and the supply has handed out one frame per table. -/
structure Holds (m : Machine) (maps : List PageMapping) : Prop where
  frames : m.target.mem.frames = 0x8000
  root : m.target.root = 0x1000
  supply : m.supply =
    ⟨(0x7000 + (tableDirs maps).length).toUInt32, 0xffffffff, (tableDirs maps).length⟩
  dir : ∀ va, m.target.mem.read32? (entrySlot 1 (dirIndex va).toNat) =
    some (dirWord maps (dirIndex va))
  table : ∀ va, dirIndex va ∈ tableDirs maps →
    m.target.mem.read32? (entrySlot (tableFrame maps (dirIndex va)) (tableIndex va).toNat) =
      some (pteWord maps (pageNumber va))

variable {m m' : Machine} {maps : List PageMapping}

theorem holds_standard : standard.Holds [] where
  frames := rfl
  root := rfl
  supply := rfl
  dir va := by
    have hd := dirIndex_lt va
    rw [dirWord_of_not_mem List.not_mem_nil]
    exact PhysMem.read32?_blank (by rw [entrySlot_toNat (by omega) hd]; omega)
  table _ h := absurd h List.not_mem_nil

theorem Holds.of_target (h : m.Holds maps) (ht : m'.target = m.target)
    (hs : m'.supply = m.supply) : m'.Holds maps := by
  obtain ⟨hf, hr, hsu, hd, htab⟩ := h
  rw [← ht] at hf hr hd htab
  rw [← hs] at hsu
  exact ⟨hf, hr, hsu, hd, htab⟩

theorem Holds.pageDir (h : m.Holds maps) : m.pageDir = PageDir.ofRoot 0x1000 := by
  rw [Machine.pageDir, h.root]

theorem Holds.table? (h : m.Holds maps) (va : UInt32) :
    m.pageDir.table? m.target.mem va =
      if dirIndex va ∈ tableDirs maps then some (tableFrame maps (dirIndex va)).toUInt32
      else none := by
  rw [h.pageDir, PageDir.table?_of_read32? (by rw [dirSlot_eq_entrySlot]; exact h.dir va)]
  by_cases hin : dirIndex va ∈ tableDirs maps
  · have hF := tableFrame_lt hin
    have hFn : (tableFrame maps (dirIndex va)).toUInt32.toNat = tableFrame maps (dirIndex va) :=
      toUInt32_toNat_of_lt (by omega)
    have hc : m.target.mem.containsFrame (tableFrame maps (dirIndex va)).toUInt32 = true := by
      simp only [PhysMem.containsFrame, h.frames, hFn]
      exact decide_eq_true (by omega)
    rw [dirWord, if_pos hin, if_pos hin, Entry.present_make_newTableFlags (by omega),
      Entry.frame_make _ (by omega), hc]
    rfl
  · rw [dirWord_of_not_mem hin, if_neg hin]
    rfl


theorem Holds.place_of_mem (h : m.Holds maps) {e : PageMapping}
    (hd : dirIndex e.va ∈ tableDirs maps) :
    ∃ m', m.place e.va e.pa e.flags = .ok m' ∧ m'.Holds (maps ++ [e]) := by
  have hF := tableFrame_lt hd
  have hF' : 0x7000 ≤ tableFrame maps (dirIndex e.va) := le_tableFrame _
  have hslot : PageDir.tableSlot (tableFrame maps (dirIndex e.va)).toUInt32 e.va =
      entrySlot (tableFrame maps (dirIndex e.va)) (tableIndex e.va).toNat :=
    tableSlot_eq_entrySlot (by omega) e.va
  have hwalk : m.pageDir.walk m.target.mem e.va m.supply =
      .ok ⟨some (entrySlot (tableFrame maps (dirIndex e.va)) (tableIndex e.va).toNat), m.target.mem,
        m.supply, []⟩ := by
    rw [PageDir.walk, PageDir.walkWith_of_table? (by rw [h.table? e.va, if_pos hd]), hslot]
  obtain ⟨mem, hw⟩ : ∃ mem, m.target.mem.write32?
      (entrySlot (tableFrame maps (dirIndex e.va)) (tableIndex e.va).toNat) e.entry.raw =
        some mem :=
    ⟨_, PhysMem.write32?_entrySlot h.frames (by omega) (tableIndex_lt e.va) _⟩
  refine ⟨_, place_of_walk hwalk hw, ?frames, h.root, ?supply, ?dir, ?table⟩
  case frames => exact (PhysMem.frames_of_write32? hw).trans h.frames
  case supply =>
    rw [tableDirs_append_of_mem hd]
    exact h.supply
  case dir =>
    intro va
    dsimp only
    -- the table lies above the directory's frame
    rw [PhysMem.read32?_write32?_entrySlot hw (by omega) (tableIndex_lt e.va) (by omega)
      (dirIndex_lt va), if_neg (by omega), dirWord_append_of_mem hd]
    exact h.dir va
  case table =>
    intro va hva
    rw [tableDirs_append_of_mem hd] at hva
    have hG := tableFrame_lt hva
    dsimp only
    rw [tableFrame_append_of_mem hva, PhysMem.read32?_write32?_entrySlot hw (by omega)
      (tableIndex_lt e.va) (by omega) (tableIndex_lt va), pteWord_append]
    -- the same entry of the same table is the same page
    have hsame : (tableFrame maps (dirIndex va) = tableFrame maps (dirIndex e.va) ∧
        (tableIndex va).toNat = (tableIndex e.va).toNat) ↔ pageNumber e.va = pageNumber va := by
      rw [tableFrame_inj hd, UInt32.toNat_inj, pageNumber_eq_iff]
      exact ⟨fun ⟨h1, h2⟩ => ⟨h1.symm, h2.symm⟩, fun ⟨h1, h2⟩ => ⟨h1.symm, h2.symm⟩⟩
    by_cases hp : pageNumber e.va = pageNumber va
    · rw [if_pos (hsame.mpr hp), if_pos hp]
    · rw [if_neg (fun c => hp (hsame.mp c)), if_neg hp]
      exact h.table va hva

theorem Holds.take (h : m.Holds maps) (hn : (tableDirs maps).length < 1024) :
    m.supply.take = (some (0x7000 + (tableDirs maps).length).toUInt32,
      ⟨(0x7000 + ((tableDirs maps).length + 1)).toUInt32, 0xffffffff,
        (tableDirs maps).length + 1⟩) := by
  have hF : (0x7000 + (tableDirs maps).length).toUInt32.toNat = 0x7000 + (tableDirs maps).length :=
    toUInt32_toNat_of_lt (by omega)
  have hlt : (0x7000 + (tableDirs maps).length).toUInt32 < 0xffffffff := by
    rw [UInt32.lt_iff_toNat_lt, hF]
    change _ < 4294967295
    omega
  have hnext : (0x7000 + (tableDirs maps).length).toUInt32 + 1 =
      (0x7000 + ((tableDirs maps).length + 1)).toUInt32 := by
    apply UInt32.toNat_inj.mp
    rw [UInt32.toNat_add, hF, toUInt32_toNat_of_lt (by omega)]
    change (_ + 1) % 4294967296 = _
    omega
  rw [h.supply, FrameSupply.take, if_pos hlt, hnext]

theorem Holds.place_of_not_mem (h : m.Holds maps) {e : PageMapping}
    (hd : dirIndex e.va ∉ tableDirs maps) :
    ∃ m', m.place e.va e.pa e.flags = .ok m' ∧ m'.Holds (maps ++ [e]) := by
  have hn : (tableDirs maps).length < 1024 := by
    have hl : (tableDirs (maps ++ [e])).length ≤ 1024 := length_tableDirs_le
    rw [tableDirs_append_of_not_mem hd, List.length_append, List.length_singleton] at hl
    omega
  have htake := h.take hn
  generalize hFdef : 0x7000 + (tableDirs maps).length = F at htake
  have hFn : F.toUInt32.toNat = F := toUInt32_toNat_of_lt (by omega)
  have hc : m.target.mem.containsFrame F.toUInt32 = true := by
    simp only [PhysMem.containsFrame, h.frames, hFn]
    exact decide_eq_true (by omega)
  obtain ⟨mem₁, hz, hzero⟩ := PhysMem.zeroFrame_of_lt hc (by omega)
  have hf₁ : mem₁.frames = 0x8000 := hzero.frames.trans h.frames
  obtain ⟨mem₂, hw₂⟩ : ∃ mem₂, mem₁.write32? (entrySlot 1 (dirIndex e.va).toNat)
      (Entry.make F.toUInt32 PageDir.newTableFlags).raw = some mem₂ :=
    ⟨_, PhysMem.write32?_entrySlot hf₁ (by omega) (dirIndex_lt e.va) _⟩
  have hf₂ : mem₂.frames = 0x8000 := (PhysMem.frames_of_write32? hw₂).trans hf₁
  obtain ⟨mem₃, hw₃⟩ : ∃ mem₃, mem₂.write32? (entrySlot F (tableIndex e.va).toNat) e.entry.raw =
      some mem₃ :=
    ⟨_, PhysMem.write32?_entrySlot hf₂ (by omega) (tableIndex_lt e.va) _⟩
  have hnone : m.pageDir.table? m.target.mem e.va = none := by
    rw [h.table? e.va, if_neg hd]
  obtain ⟨log, hwalk⟩ := PageDir.walkWith_of_new hnone htake hc hz
    (by rw [h.pageDir, dirSlot_eq_entrySlot]; exact hw₂)
  rw [tableSlot_eq_entrySlot (by omega)] at hwalk
  have hread : ∀ {G k : Nat}, G < 0x100000 → k < 1024 → mem₃.read32? (entrySlot G k) =
      if G = F then (if k = (tableIndex e.va).toNat then some e.entry.raw else some 0)
      else if G = 1 ∧ k = (dirIndex e.va).toNat then
        some (Entry.make F.toUInt32 PageDir.newTableFlags).raw
      else m.target.mem.read32? (entrySlot G k) := fun hG hk =>
    PhysMem.read32?_of_new_table hzero (by rw [h.frames]; omega) hw₂ hw₃ (by omega) (by omega) (dirIndex_lt e.va)
      (tableIndex_lt e.va) hG hk
  refine ⟨_, place_of_walk hwalk hw₃, ?frames, h.root, ?supply, ?dir, ?table⟩
  case frames => exact (PhysMem.frames_of_write32? hw₃).trans hf₂
  case supply =>
    rw [tableDirs_append_of_not_mem hd, List.length_append, List.length_singleton]
  case dir =>
    intro va
    dsimp only
    rw [hread (by omega) (dirIndex_lt va), if_neg (by omega), dirWord_append_of_not_mem hd, hFdef]
    by_cases hdi : dirIndex va = dirIndex e.va
    · rw [if_pos ⟨rfl, congrArg UInt32.toNat hdi⟩, if_pos hdi]
    · rw [if_neg (fun c => hdi (UInt32.toNat_inj.mp c.2)), if_neg hdi]
      exact h.dir va
  case table =>
    intro va hva
    rw [tableDirs_append_of_not_mem hd, List.mem_append, List.mem_singleton] at hva
    dsimp only
    rw [pteWord_append]
    by_cases hdi : dirIndex va = dirIndex e.va
    · -- the page lies in the new table, which holds only the entry just stored
      have hsame : (tableIndex va).toNat = (tableIndex e.va).toNat ↔
          pageNumber e.va = pageNumber va := by
        rw [UInt32.toNat_inj, pageNumber_eq_iff]
        exact ⟨fun ht => ⟨hdi.symm, ht.symm⟩, fun hp => hp.2.symm⟩
      rw [hdi, tableFrame_append_new hd, hFdef, hread (by omega) (tableIndex_lt va), if_pos rfl]
      by_cases hp : pageNumber e.va = pageNumber va
      · rw [if_pos (hsame.mpr hp), if_pos hp]
      · rw [if_neg (fun c => hp (hsame.mp c)), if_neg hp, pteWord_of_not_mem (hdi ▸ hd)]
    · -- an older table, below the new one and above the directory
      have hva' := hva.resolve_right hdi
      have hG := tableFrame_lt_length hva'
      have hG' : 0x7000 ≤ tableFrame maps (dirIndex va) := le_tableFrame _
      have hp : pageNumber e.va ≠ pageNumber va := fun hp =>
        hdi (pageNumber_eq_iff.mp hp).1.symm
      rw [tableFrame_append_of_mem hva', hread (by omega) (tableIndex_lt va), if_neg (by omega),
        if_neg (fun c => by omega), if_neg hp]
      exact h.table va hva'

theorem Holds.place (h : m.Holds maps) (e : PageMapping) :
    ∃ m', m.place e.va e.pa e.flags = .ok m' ∧ m'.Holds (maps ++ [e]) := by
  by_cases hd : dirIndex e.va ∈ tableDirs maps
  · exact h.place_of_mem hd
  · exact h.place_of_not_mem hd

theorem words_of_tokenize {line : String} {ws : List String} (h : tokenize line = .ok ws) :
    words line = ws := by
  unfold tokenize at h
  dsimp only at h
  split at h
  · exact Except.ok.inj h
  · cases h

theorem Holds.command (h : m.Holds maps) (setup : Setup) (p : WritePolicy) {line : String}
    (hl : (words line).head? ≠ some "modifyperm") :
    (m.command { setup with registry := Registry.builtin } p line).machine.Holds maps := by
  have hmem : (runLine { setup with registry := Registry.builtin } p m.target m.tf {} line).mem =
      m.target.mem := by
    have he := congrArg LineEffect.mem (runLine_effect setup p m.target m.tf {} line)
    rcases lineEffect_mem m.target m.tf line with hm | ⟨args, r, htok, -⟩
    · exact he.trans hm
    · exact absurd (by rw [words_of_tokenize htok]; rfl) hl
  refine h.of_target ?_ rfl
  simp only [Machine.command, Machine.withMem, hmem]

theorem Holds.entry? (h : m.Holds maps) (x : UInt32) :
    m.entry? x =
      if dirIndex x ∈ tableDirs maps then some ⟨pteWord maps (pageNumber x)⟩ else none := by
  unfold Machine.entry? PageDir.lookup?
  rw [h.table? x]
  by_cases hin : dirIndex x ∈ tableDirs maps
  · have hF := tableFrame_lt hin
    rw [if_pos hin, if_pos hin, Option.map_some, Option.bind_some,
      tableSlot_eq_entrySlot (by omega), h.table x hin]
    rfl
  · rw [if_neg hin, if_neg hin]
    rfl

/-- The entries as the mappings give them: the last mapping of the page, the zero entry for a
page never mapped under a directory index in use, and none for the rest. -/
theorem Holds.entry?_eq (h : m.Holds maps) (x : UInt32) :
    m.entry? x =
      match lastMapping? maps (pageNumber x) with
      | some e => some e.entry
      | none => if maps.any (fun e => dirIndex e.va == dirIndex x) then some ⟨0⟩ else none := by
  rw [h.entry? x]
  rcases hl : lastMapping? maps (pageNumber x) with _ | e
  · have hw : pteWord maps (pageNumber x) = 0 := by rw [pteWord, hl]
    have hin : dirIndex x ∈ tableDirs maps ↔
        maps.any (fun e => dirIndex e.va == dirIndex x) = true := by
      rw [mem_tableDirs, List.any_eq_true]
      simp only [beq_iff_eq]
    by_cases hd : dirIndex x ∈ tableDirs maps
    · rw [if_pos hd, if_pos (hin.mp hd), hw]
    · rw [if_neg hd, if_neg (fun c => hd (hin.mpr c))]
  · obtain ⟨hm, hp⟩ := dirIndex_of_lastMapping? hl
    have hd : dirIndex x ∈ tableDirs maps :=
      mem_tableDirs.mpr ⟨e, hm, (pageNumber_eq_iff.mp hp).1⟩
    rw [if_pos hd, pteWord, hl]

end Machine

/-- One thing done to a test machine: a mapping, or a command line on a fresh console. -/
inductive MachineOp
  | map (e : PageMapping)
  | command (line : String)

def MachineOp.mappings : List MachineOp → List PageMapping
  | [] => []
  | .map e :: ops => e :: mappings ops
  | .command _ :: ops => mappings ops

namespace Machine

/-- Does `ops` in order; a mapping that cannot be made stops the run. -/
def perform (setup : Setup) (p : WritePolicy) : Machine → List MachineOp → Except Fault Machine
  | m, [] => .ok m
  | m, .map e :: ops => do perform setup p (← m.place e.va e.pa e.flags) ops
  | m, .command line :: ops => perform setup p (m.command setup p line).machine ops

variable {m : Machine} {maps : List PageMapping}

/-- The run lemma: under the built-in commands, with no line that changes protections, every
mapping of a run succeeds and the tables afterwards hold all mappings made. -/
theorem Holds.perform (h : m.Holds maps) (setup : Setup) (p : WritePolicy) (ops : List MachineOp)
    (hops : ∀ line, .command line ∈ ops → (words line).head? ≠ some "modifyperm") :
    ∃ m', m.perform { setup with registry := Registry.builtin } p ops = .ok m' ∧
      m'.Holds (maps ++ MachineOp.mappings ops) := by
  induction ops generalizing m maps with
  | nil => exact ⟨m, rfl, by simpa [MachineOp.mappings] using h⟩
  | cons op ops ih =>
    have hrest : ∀ line, .command line ∈ ops → (words line).head? ≠ some "modifyperm" :=
      fun line hl => hops line (List.mem_cons_of_mem _ hl)
    cases op with
    | map e =>
      obtain ⟨m₁, hp, h₁⟩ := h.place e
      obtain ⟨m', hr, h'⟩ := ih h₁ hrest
      refine ⟨m', ?_, ?_⟩
      · rw [Machine.perform, hp]
        exact hr
      · simpa [MachineOp.mappings] using h'
    | command line =>
      exact ih (h.command setup p (hops line List.mem_cons_self)) hrest

end Machine

/-- A test machine's page tables read as a finite map from page numbers to entries. Starting
from the standard machine, any run of mappings, with command lines between them under the
built-in commands that do not change protections, makes every mapping, takes one frame from
the supply for each directory index mapped, and leaves for each address the entry of the last
mapping of its page; a page never mapped has the zero entry when another page of its directory
index was mapped, and no entry otherwise. -/
theorem perform_tables_hold_last_mappings (setup : Setup) (p : WritePolicy) (ops : List MachineOp)
    (hops : ∀ line, .command line ∈ ops → (words line).head? ≠ some "modifyperm") :
    ∃ m, Machine.standard.perform { setup with registry := Registry.builtin } p ops = .ok m ∧
      m.supply.requests = ((MachineOp.mappings ops).map (fun e => dirIndex e.va)).toFinset.card ∧
      ∀ x, m.entry? x =
        match lastMapping? (MachineOp.mappings ops) (pageNumber x) with
        | some e => some (Entry.make (pageNumber e.pa) e.flags)
        | none =>
          if (MachineOp.mappings ops).any (fun e => dirIndex e.va == dirIndex x) then some ⟨0⟩
          else none := by
  obtain ⟨m, hrun, h⟩ := Machine.holds_standard.perform setup p ops hops
  rw [List.nil_append] at h
  refine ⟨m, hrun, ?_, h.entry?_eq⟩
  rw [h.supply, ← length_tableDirs]

/-- Two mappings of one page, a third page under the same directory index, and `kerninfo` in
between. -/
theorem perform_tables_remap_around_kerninfo :
    let ops : List MachineOp := [.map ⟨0x400000, 0x1000, Flags.writable⟩, .command "kerninfo",
      .map ⟨0x400123, 0x2000, Flags.present⟩, .map ⟨0x401000, 0x3000, Flags.present⟩]
    let setup : Setup := {}
    (∀ line, .command line ∈ ops → (words line).head? ≠ some "modifyperm") ∧
    ∃ m, Machine.standard.perform { setup with registry := Registry.builtin } .unlimited ops =
        .ok m ∧
      m.supply.requests = ((MachineOp.mappings ops).map (fun e => dirIndex e.va)).toFinset.card ∧
      ∀ x, m.entry? x =
        match lastMapping? (MachineOp.mappings ops) (pageNumber x) with
        | some e => some (Entry.make (pageNumber e.pa) e.flags)
        | none =>
          if (MachineOp.mappings ops).any (fun e => dirIndex e.va == dirIndex x) then some ⟨0⟩
          else none := by
  intro ops setup
  have hops : ∀ line, .command line ∈ ops → (words line).head? ≠ some "modifyperm" := by
    intro line hl
    simp only [ops, List.mem_cons, List.not_mem_nil, reduceCtorEq, MachineOp.command.injEq,
      false_or, or_false] at hl
    subst hl
    decide
  exact ⟨hops, perform_tables_hold_last_mappings setup .unlimited ops hops⟩

end KernelMonitor
