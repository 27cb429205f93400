import KernelMonitor.Proofs.PermissionChecks

/-! # Walking the page directory with any frame allocator

A walk without an allocator is a lookup; a walk that finds no table calls the allocator once and,
for a frame and a directory entry inside memory, writes the zeroed frame and the new entry and
nothing else. A walk that returns no slot leaves memory as it was, except after a refused
directory store.
-/

namespace KernelMonitor

theorem pageBase_or_pageOffset (a : UInt32) : pageBase a ||| pageOffset a = a := by
  rw [pageBase, pageOffset, show (0xfffff000 : UInt32) = ~~~0xfff by decide]
  apply UInt32.toBitVec_inj.mp
  ext i hi
  simp only [UInt32.toBitVec_or, UInt32.toBitVec_and, UInt32.toBitVec_not, BitVec.getElem_or,
    BitVec.getElem_and, BitVec.getElem_not]
  cases (0xfff : UInt32).toBitVec[i] <;> simp

theorem pageBase_toNat (a : UInt32) : (pageBase a).toNat = a.toNat / 4096 * 4096 := by
  have h := Entry.frameAddr_or_pageOffset_toNat ⟨a⟩ a
  rw [Entry.frameAddr_eq_pageBase] at h
  dsimp only at h
  rw [pageBase_or_pageOffset] at h
  omega

namespace PhysMem

variable {m m₁ m₂ : PhysMem} {f p v : UInt32}

theorem byte_of_zero_write (hz : m.FrameZeroed f m₁) (hw : m₁.write32? p v = some m₂)
    {b : Nat} (hb : b < p.toNat ∨ p.toNat + 4 ≤ b) :
    m₂.byte b = if b / 4096 = f.toNat then 0 else m.byte b := by
  rw [byte_write32?_of_lt_or_le hw hb, hz.byte]

theorem read32?_of_zero_write (hz : m.FrameZeroed f m₁) (hf : f.toNat < m.frames)
    (hw : m₁.write32? p v = some m₂) (hp : p.toNat % 4 = 0) {b : UInt32} (hb : b.toNat % 4 = 0)
    (hbp : b ≠ p) (hbf : b.toNat / 4096 ≠ f.toNat) : m₂.read32? b = m.read32? b := by
  rw [read32?_write32?_of_aligned hw hp hb, if_neg hbp, hz.read32? hf hb, if_neg hbf]

end PhysMem

namespace PageDir

section Slots

variable {cr3 x y : UInt32}

theorem dirSlot_toNat :
    ((ofRoot cr3).dirSlot x).toNat = cr3.toNat / 4096 * 4096 + 4 * (dirIndex x).toNat := by
  have hd := dirIndex_lt x
  have hr := pageBase_toNat cr3
  have hr' := pageBase_toNat_le cr3
  rw [dirSlot, UInt32.toNat_add, UInt32.toNat_mul]
  change ((pageBase cr3).toNat + (dirIndex x).toNat * 4 % 4294967296) % 4294967296 = _
  omega

theorem dirSlot_div : ((ofRoot cr3).dirSlot x).toNat / 4096 = (pageNumber cr3).toNat := by
  have hd := dirIndex_lt x
  rw [dirSlot_toNat, pageNumber_toNat]
  omega

theorem dirSlot_eq_iff :
    (ofRoot cr3).dirSlot x = (ofRoot cr3).dirSlot y ↔ dirIndex x = dirIndex y := by
  rw [← UInt32.toNat_inj, dirSlot_toNat, dirSlot_toNat, ← UInt32.toNat_inj]
  omega

theorem pageNumber_root : pageNumber (ofRoot cr3).root = pageNumber cr3 := by
  apply UInt32.toNat_inj.mp
  rw [pageNumber_toNat, pageNumber_toNat]
  change (pageBase cr3).toNat / 4096 = _
  rw [pageBase_toNat]
  omega

theorem contains_dirSlot {m : PhysMem} (h : (pageNumber cr3).toNat < m.frames) :
    m.contains ((ofRoot cr3).dirSlot x) 4 = true := by
  have hd := dirIndex_lt x
  have hn := pageNumber_toNat cr3
  simp only [PhysMem.contains, PhysMem.size]
  apply decide_eq_true
  rw [dirSlot_toNat]
  omega

theorem tableSlot_toNat {t : UInt32} (ht : t.toNat < 1048576) :
    (tableSlot t x).toNat = t.toNat * 4096 + 4 * (tableIndex x).toNat := by
  have hi := tableIndex_lt x
  rw [tableSlot, frameStart, UInt32.toNat_add, UInt32.toNat_mul, UInt32.toNat_mul,
    show pageSize.toNat = 4096 from rfl, show (4 : UInt32).toNat = 4 from rfl]
  omega

theorem tableSlot_eq (t x : UInt32) : tableSlot t x = t * 4096 + 4 * tableIndex x := by
  rw [tableSlot, frameStart, UInt32.mul_comm (tableIndex x)]
  rfl

end Slots

variable {σ : Type} {d : PageDir} {m m₁ m₂ : PhysMem} {va f : UInt32}
  {alloc : Option (σ → Option UInt32 × σ)} {next : σ → Option UInt32 × σ} {s s' : σ}

/-! ## What a walk does -/

theorem walkWith_without_allocator (d : PageDir) (m : PhysMem) (va : UInt32) (s : σ) :
    d.walkWith m va none s = .ok ⟨d.lookup? m va, m, s, []⟩ := by
  rcases h : d.table? m va with _ | t
  · rw [walkWith_of_no_allocator h, lookup?, h]
    rfl
  · rw [walkWith_of_table? h, lookup?, h]
    rfl

theorem walkWith_of_lookup? {slot : UInt32} (h : d.lookup? m va = some slot) :
    d.walkWith m va alloc s = .ok ⟨some slot, m, s, []⟩ := by
  obtain ⟨t, ht, rfl⟩ := Option.map_eq_some_iff.mp h
  exact walkWith_of_table? ht

theorem table?_eq_none_of_lookup? (h : d.lookup? m va = none) : d.table? m va = none :=
  Option.map_eq_none_iff.mp h

/-- A walk over a memory of at most `2 ^ 20` frames never faults, and when it finds no table
it calls the allocator exactly once, whatever follows. -/
theorem walkWith_ok_state (next : σ → Option UInt32 × σ) (s : σ) (hm : m.frames ≤ 1048576)
    (h : d.lookup? m va = none) :
    ∃ w, d.walkWith m va (some next) s = .ok w ∧ w.state = (next s).2 := by
  rcases walkWith_cases next s (table?_eq_none_of_lookup? h) with
    ⟨-, hw⟩ | ⟨f, -, ⟨-, log, hw⟩ | ⟨hc, hbig, -⟩ | ⟨m₁, -, -, -, hw⟩ | ⟨m₁, m₂, log, -, -, -, hw⟩⟩
  · exact ⟨_, hw, rfl⟩
  · exact ⟨_, hw, rfl⟩
  -- a frame inside memory lies below `2 ^ 20`, so zeroing it cannot fault
  · have : f.toNat < m.frames := of_decide_eq_true hc
    omega
  · exact ⟨_, hw, rfl⟩
  · exact ⟨_, hw, rfl⟩

theorem walkWith_new_table (h : d.lookup? m va = none) (hn : (next s).1 = some f)
    (hf : f.toNat < m.frames) (hdir : m.contains (d.dirSlot va) 4 = true) {w : WalkOf σ}
    (hw : d.walkWith m va (some next) s = .ok w) :
    ∃ m₁, m.FrameZeroed f m₁ ∧
      m₁.write32? (d.dirSlot va) (Entry.make f newTableFlags).raw = some w.mem ∧
      w.slot = some (tableSlot f va) := by
  rcases walkWith_cases next s (table?_eq_none_of_lookup? h) with
    ⟨hn', -⟩ | ⟨f', hn', ⟨hout, -⟩ | ⟨-, -, hwk⟩ | ⟨m₁, -, hz, hw', -⟩ | ⟨m₁, m₂, log, -, hz, hw', hwk⟩⟩
  · rw [hn] at hn'
    cases hn'
  all_goals
    obtain rfl : f' = f := Option.some_inj.mp (hn'.symm.trans hn)
  · exact absurd hout (by simp [PhysMem.containsFrame, hf])
  · rw [hwk] at hw
    cases hw
  -- the directory entry lies in memory, so its store cannot fail
  · have hc := PhysMem.write32?_eq_none_iff.mp hw'
    rw [PhysMem.contains_congr hz.frames, hdir] at hc
    cases hc
  · rw [hwk] at hw
    cases hw
    exact ⟨m₁, hz, hw', rfl⟩

/-! ## Regions the new table does not belong to -/

theorem table?_congr {m' : PhysMem} {x : UInt32}
    (hr : m'.read32? (d.dirSlot x) = m.read32? (d.dirSlot x)) (hf : m'.frames = m.frames) :
    d.table? m' x = d.table? m x := by
  unfold table? PhysMem.containsFrame
  rw [hr, hf]

theorem resolve?_congr {m' : PhysMem} {x : UInt32} (hl : d.lookup? m' x = d.lookup? m x)
    (hr : ∀ slot, d.lookup? m x = some slot → m'.read32? slot = m.read32? slot) :
    d.resolve? m' x = d.resolve? m x := by
  rcases h : d.lookup? m x with _ | slot
  · rw [resolve?_of_lookup?_none h, resolve?_of_lookup?_none (hl.trans h)]
  · simp [resolve?, hl, h, hr slot h]

/-- What a walk `w` that made the page table for `va` in frame `f` left behind: the slot of `va`
in the new table; the new directory entry, and away from it frame `f` zeroed and every other
byte as before; the whole 4 MiB region of `va` finding the new table, so that no later walk there
calls an allocator; and, when `f` was neither the directory nor a page table already, every other
region with its table as before, and its translations as before unless the slot one of them
reads is the new directory entry. -/
structure MadeTable (d : PageDir) (m : PhysMem) (va f : UInt32) (w : WalkOf σ) : Prop where
  slot : w.slot = some (f * 4096 + 4 * tableIndex va)
  frames : w.mem.frames = m.frames
  entry : w.mem.read32? (d.dirSlot va) = some (Entry.make f newTableFlags).raw
  bytes : ∀ b : Nat, b < (d.dirSlot va).toNat ∨ (d.dirSlot va).toNat + 4 ≤ b →
    w.mem.byte b = if b / 4096 = f.toNat then 0 else m.byte b
  region : ∀ x, dirIndex x = dirIndex va →
    d.lookup? w.mem x = some (f * 4096 + 4 * tableIndex x)
  later : ∀ x, dirIndex x = dirIndex va → ∀ {τ : Type} (next : τ → Option UInt32 × τ) (t : τ),
    d.walkWith w.mem x (some next) t = .ok ⟨some (f * 4096 + 4 * tableIndex x), w.mem, t, []⟩
  others : pageNumber d.root ≠ f → (∀ y, d.table? m y ≠ some f) → ∀ x, dirIndex x ≠ dirIndex va →
    d.lookup? w.mem x = d.lookup? m x ∧
      (d.lookup? m x ≠ some (d.dirSlot va) → d.resolve? w.mem x = d.resolve? m x)

theorem lookup?_of_new_entry (hm : m.frames ≤ 1048576) (hf : f.toNat < m.frames)
    (he : m.read32? (d.dirSlot va) = some (Entry.make f newTableFlags).raw) {x : UInt32}
    (hx : dirIndex x = dirIndex va) : d.lookup? m x = some (f * 4096 + 4 * tableIndex x) := by
  have hd : d.dirSlot x = d.dirSlot va := by simp only [dirSlot, hx]
  have hin : m.containsFrame f = true := decide_eq_true hf
  have hf' : f.toNat < 0x100000 := by omega
  rw [lookup?, table?_of_read32? (hd ▸ he), Entry.present_make_newTableFlags hf',
    Entry.frame_make _ hf', hin, Bool.and_self, if_pos rfl, Option.map_some, tableSlot_eq]

section OtherRegions

variable {cr3 x v : UInt32}

theorem lookup?_of_zero_write (hz : m.FrameZeroed f m₁) (hf : f.toNat < m.frames)
    (hw : m₁.write32? ((ofRoot cr3).dirSlot va) v = some m₂) (hroot : pageNumber cr3 ≠ f)
    (hx : dirIndex x ≠ dirIndex va) : (ofRoot cr3).lookup? m₂ x = (ofRoot cr3).lookup? m x := by
  have hframes : m₂.frames = m.frames := (PhysMem.frames_of_write32? hw).trans hz.frames
  have hdir : m₂.read32? ((ofRoot cr3).dirSlot x) = m.read32? ((ofRoot cr3).dirSlot x) :=
    PhysMem.read32?_of_zero_write hz hf hw (dirSlot_aligned cr3 va) (dirSlot_aligned cr3 x)
      (mt dirSlot_eq_iff.mp hx) (by rw [dirSlot_div]; exact fun e => hroot (UInt32.toNat_inj.mp e))
  rw [lookup?, lookup?, table?_congr hdir hframes]

theorem resolve?_of_zero_write (hz : m.FrameZeroed f m₁) (hf : f.toNat < m.frames)
    (hw : m₁.write32? ((ofRoot cr3).dirSlot va) v = some m₂) (hroot : pageNumber cr3 ≠ f)
    (htab : ∀ y, (ofRoot cr3).table? m y ≠ some f) (hx : dirIndex x ≠ dirIndex va)
    (hne : (ofRoot cr3).lookup? m x ≠ some ((ofRoot cr3).dirSlot va)) :
    (ofRoot cr3).resolve? m₂ x = (ofRoot cr3).resolve? m x := by
  refine resolve?_congr (lookup?_of_zero_write hz hf hw hroot hx) fun slot hs => ?_
  have hsd : slot ≠ (ofRoot cr3).dirSlot va := fun e => hne (e ▸ hs)
  -- the table entry of `x` lies in its own table, which is not frame `f`
  obtain ⟨t, ht, rfl⟩ := Option.map_eq_some_iff.mp hs
  have htf : t ≠ f := fun e => htab x (e ▸ ht)
  have htl := table?_toNat_lt ht
  have hi := tableIndex_lt x
  refine PhysMem.read32?_of_zero_write hz hf hw (dirSlot_aligned cr3 va) (tableSlot_aligned t x)
    hsd ?_
  rw [tableSlot_toNat htl]
  intro e
  exact htf (UInt32.toNat_inj.mp (by omega))

end OtherRegions

theorem madeTable_of_new {cr3 : UInt32} {w : WalkOf σ} (hm : m.frames ≤ 1048576)
    (hf : f.toNat < m.frames) (hz : m.FrameZeroed f m₁)
    (hw : m₁.write32? ((ofRoot cr3).dirSlot va) (Entry.make f newTableFlags).raw = some w.mem)
    (hslot : w.slot = some (tableSlot f va)) : MadeTable (ofRoot cr3) m va f w := by
  have hframes : w.mem.frames = m.frames := (PhysMem.frames_of_write32? hw).trans hz.frames
  have hentry := PhysMem.read32?_write32?_self hw
  have hregion : ∀ x, dirIndex x = dirIndex va →
      (ofRoot cr3).lookup? w.mem x = some (f * 4096 + 4 * tableIndex x) := fun x hx =>
    lookup?_of_new_entry (hframes ▸ hm) (hframes ▸ hf) hentry hx
  refine ⟨hslot.trans (by rw [tableSlot_eq]), hframes, hentry,
    fun b hb => PhysMem.byte_of_zero_write hz hw hb, hregion,
    fun x hx _ next t => walkWith_of_lookup? (hregion x hx), fun hroot htab x hx => ?_⟩
  rw [pageNumber_root] at hroot
  exact ⟨lookup?_of_zero_write hz hf hw hroot hx, resolve?_of_zero_write hz hf hw hroot htab hx⟩

/-- A walk of the directory of `cr3`, over a memory of at most `2 ^ 20` frames: without an
allocator it is a lookup and writes nothing; when the table exists it returns its slot and calls
no allocator; otherwise it returns after calling the allocator once, and when the allocator gives
a frame inside memory and the directory lies inside memory, the walk makes the table there
(`MadeTable`). -/
theorem walkWith_finds_or_makes_table (cr3 : UInt32) (m : PhysMem) (hm : m.frames ≤ 1048576)
    (va : UInt32) (next : σ → Option UInt32 × σ) (s : σ) :
    (ofRoot cr3).walkWith m va none s = .ok ⟨(ofRoot cr3).lookup? m va, m, s, []⟩ ∧
    (∀ slot, (ofRoot cr3).lookup? m va = some slot →
      (ofRoot cr3).walkWith m va (some next) s = .ok ⟨some slot, m, s, []⟩) ∧
    ((ofRoot cr3).lookup? m va = none →
      ∃ w, (ofRoot cr3).walkWith m va (some next) s = .ok w ∧ w.state = (next s).2 ∧
        ∀ f, (next s).1 = some f → f.toNat < m.frames → (pageNumber cr3).toNat < m.frames →
          MadeTable (ofRoot cr3) m va f w) := by
  refine ⟨walkWith_without_allocator _ m va s, fun _ h => walkWith_of_lookup? h, fun h => ?_⟩
  obtain ⟨w, hw, hstate⟩ := walkWith_ok_state next s hm h
  refine ⟨w, hw, hstate, fun f hn hf hroot => ?_⟩
  obtain ⟨m₁, hz, hwr, hslot⟩ := walkWith_new_table h hn hf (contains_dirSlot hroot) hw
  exact madeTable_of_new hm hf hz hwr hslot

/-- The walk of the crate's test: page 0x803000 of an empty directory at 0x1000, with frames
handed out from 0x500 and a word of garbage in frame 0x500, makes the table in frame 0x500. -/
theorem walkWith_makes_table_over_garbage :
    (PhysMem.mk 0x8000 [.word 0x500010 0xffffffff]).frames ≤ 1048576 ∧
      ∃ w, (ofRoot 0x1000).walkWith ⟨0x8000, [.word 0x500010 0xffffffff]⟩ 0x803000
          (some FrameSupply.take) (⟨0x500, 0xffffffff, 0⟩ : FrameSupply) = .ok w ∧
        MadeTable (ofRoot 0x1000) ⟨0x8000, [.word 0x500010 0xffffffff]⟩ 0x803000 0x500 w := by
  have h := walkWith_finds_or_makes_table 0x1000 ⟨0x8000, [.word 0x500010 0xffffffff]⟩
    (by decide) 0x803000 FrameSupply.take ⟨0x500, 0xffffffff, 0⟩
  obtain ⟨w, hw, -, hmade⟩ := h.2.2 (by decide)
  exact ⟨by decide, w, hw, hmade 0x500 rfl (by decide) (by decide)⟩

/-- A directory entry at 0x1004 that points back at the directory frame 1 makes the directory the
page table of the region at 0x400000. A walk for address 0 then makes its table in frame 0x7000,
which is neither the directory nor a table, and the new directory entry becomes the table entry
of 0x400000: that page, unmapped before, now translates. -/
theorem walkWith_maps_page_through_self_map :
    (ofRoot 0x1000).lookup? ⟨0x8000, [.word 0x1004 0x1001]⟩ 0 = none ∧
      (FrameSupply.take ⟨0x7000, 0xffffffff, 0⟩).1 = some 0x7000 ∧
      (0x7000 : UInt32).toNat < 0x8000 ∧ (pageNumber 0x1000).toNat < 0x8000 ∧
      pageNumber (ofRoot 0x1000).root ≠ 0x7000 ∧
      (∀ y, (ofRoot 0x1000).table? ⟨0x8000, [.word 0x1004 0x1001]⟩ y ≠ some 0x7000) ∧
      dirIndex 0x400000 ≠ dirIndex 0 ∧
      (ofRoot 0x1000).resolve? ⟨0x8000, [.word 0x1004 0x1001]⟩ 0x400000 = none ∧
      ∃ w, (ofRoot 0x1000).walkWith ⟨0x8000, [.word 0x1004 0x1001]⟩ 0 (some FrameSupply.take)
          (⟨0x7000, 0xffffffff, 0⟩ : FrameSupply) = .ok w ∧
        (ofRoot 0x1000).resolve? w.mem 0x400000 = some ⟨0x400000, ⟨0x7000007⟩, 0x7000000⟩ := by
  have hb : (PhysMem.blank 0x8000).write32? 0x1004 0x1001 = some ⟨0x8000, [.word 0x1004 0x1001]⟩ :=
    PhysMem.write32?_eq_some_iff.mpr ⟨by decide, rfl⟩
  -- every directory entry reads as the self-map or as zero
  have htab : ∀ y, (ofRoot 0x1000).table? ⟨0x8000, [.word 0x1004 0x1001]⟩ y ≠ some 0x7000 := by
    intro y
    have hread : PhysMem.read32? ⟨0x8000, [.word 0x1004 0x1001]⟩ ((ofRoot 0x1000).dirSlot y) =
        some 0x1001 ∨
        PhysMem.read32? ⟨0x8000, [.word 0x1004 0x1001]⟩ ((ofRoot 0x1000).dirSlot y) = some 0 := by
      rw [PhysMem.read32?_write32?_of_aligned hb (by decide) (dirSlot_aligned 0x1000 y)]
      split
      · exact .inl rfl
      · have hd := dirIndex_lt y
        exact .inr (PhysMem.read32?_blank
          (by rw [dirSlot_toNat, show (0x1000 : UInt32).toNat = 4096 from rfl]; omega))
    rcases hread with hr | hr <;> rw [table?_of_read32? hr] <;> decide
  have hl : (ofRoot 0x1000).lookup? ⟨0x8000, [.word 0x1004 0x1001]⟩ 0 = none := by decide
  -- the walk takes frame 0x7000, zeroes it and stores the directory entry at 0x1000
  obtain ⟨w, hw, -⟩ := walkWith_ok_state FrameSupply.take ⟨0x7000, 0xffffffff, 0⟩
    (by decide) hl
  obtain ⟨m₁, hz, hwr, hslot⟩ := walkWith_new_table hl rfl (by decide)
    (contains_dirSlot (by decide)) hw
  have hmade := madeTable_of_new (by decide) (by decide) hz hwr hslot
  -- the self-mapped entry makes the new directory entry the table entry of 0x400000
  have hlook : (ofRoot 0x1000).lookup? w.mem 0x400000 = some ((ofRoot 0x1000).dirSlot 0) := by
    rw [(hmade.others (by decide) htab 0x400000 (by decide)).1]
    decide
  have he : w.mem.read32? ((ofRoot 0x1000).dirSlot 0) = some 0x7000007 :=
    hmade.entry.trans (by decide)
  have hres : (ofRoot 0x1000).resolve? w.mem 0x400000 = some ⟨0x400000, ⟨0x7000007⟩, 0x7000000⟩ := by
    simp only [resolve?, hlook, Option.bind_eq_bind, Option.bind_some, he]
    decide
  exact ⟨hl, rfl, by decide, by decide, by decide, htab, by decide, by decide, w, hw, hres⟩

/-! ## A walk that fails -/

/-- A walk that returns no slot leaves memory exactly as it was, with one exception: the table
is missing, the allocator gives a frame inside memory, and the directory entry lies outside
memory. The frame is zeroed before the entry is stored, the store fails, and nothing else is
written. -/
theorem walkWith_failure_keeps_memory (d : PageDir) (m : PhysMem) (va : UInt32)
    (alloc : Option (σ → Option UInt32 × σ)) (s : σ) {w : WalkOf σ}
    (hw : d.walkWith m va alloc s = .ok w) (h : w.slot = none) :
    w.mem = m ∨
      ∃ next f, alloc = some next ∧ d.lookup? m va = none ∧ (next s).1 = some f ∧
        f.toNat < m.frames ∧ m.contains (d.dirSlot va) 4 = false ∧ w.mem.frames = m.frames ∧
        ∀ b, w.mem.byte b = if b / 4096 = f.toNat then 0 else m.byte b := by
  rcases ht : d.table? m va with _ | t
  · have hl : d.lookup? m va = none := by rw [lookup?, ht]; rfl
    cases alloc with
    | none =>
      rw [walkWith_of_no_allocator ht] at hw
      cases hw
      exact .inl rfl
    | some next =>
      rcases walkWith_cases next s ht with
        ⟨-, hwk⟩ | ⟨f, hn, ⟨-, log, hwk⟩ | ⟨-, -, hwk⟩ | ⟨m₁, hc, hz, hwr, hwk⟩ |
          ⟨m₁, m₂, log, -, -, -, hwk⟩⟩ <;> rw [hwk] at hw <;> cases hw
      · exact .inl rfl
      · exact .inl rfl
      · have hc₁ := PhysMem.write32?_eq_none_iff.mp hwr
        rw [PhysMem.contains_congr hz.frames] at hc₁
        exact .inr ⟨next, f, rfl, hl, hn, of_decide_eq_true hc, hc₁, hz.frames, hz.byte⟩
      · cases h
  · rw [walkWith_of_table? ht] at hw
    cases hw
    cases h

/-- The walk of address 0 with the directory at 0x10000000, outside a memory of 0x8000 frames
that holds 5 at 0x7000000: it takes frame 0x7000, zeroes it, and fails to store the entry. -/
theorem walkWith_refused_outside_directory :
    ∃ m₁, (ofRoot 0x10000000).walkWith ⟨0x8000, [.word 0x7000000 5]⟩ 0 (some FrameSupply.take)
        (⟨0x7000, 0xffffffff, 0⟩ : FrameSupply) = .ok ⟨none, m₁, ⟨0x7001, 0xffffffff, 1⟩, []⟩ ∧
      PhysMem.FrameZeroed ⟨0x8000, [.word 0x7000000 5]⟩ 0x7000 m₁ := by
  have ht : (ofRoot 0x10000000).table? ⟨0x8000, [.word 0x7000000 5]⟩ 0 = none :=
    table?_of_read32?_none (by decide)
  obtain ⟨m₁, hz, hzero⟩ := PhysMem.zeroFrame_of_lt
    (m := ⟨0x8000, [.word 0x7000000 5]⟩) (f := 0x7000) (by decide) (by decide)
  have hwr : m₁.write32? ((ofRoot 0x10000000).dirSlot 0)
      (Entry.make 0x7000 newTableFlags).raw = none := by
    rw [PhysMem.write32?_eq_none_iff, PhysMem.contains_congr hzero.frames]
    decide
  exact ⟨m₁, walkWith_of_store_refused ht rfl (by decide) hz hwr, hzero⟩

/-- With the directory at 0x10000000, outside a memory of 0x8000 frames, a walk for address 0
takes frame 0x7000, zeroes it, and fails to store the directory entry: the word 5 at 0x7000000
is gone although the walk returned no slot. -/
theorem walkWith_zeroes_frame_before_refused_store :
    ∃ w, (ofRoot 0x10000000).walkWith ⟨0x8000, [.word 0x7000000 5]⟩ 0 (some FrameSupply.take)
        (⟨0x7000, 0xffffffff, 0⟩ : FrameSupply) = .ok w ∧
      w.slot = none ∧ w.mem.read32? 0x7000000 = some 0 ∧
      PhysMem.read32? ⟨0x8000, [.word 0x7000000 5]⟩ 0x7000000 = some 5 := by
  obtain ⟨m₁, hw, hzero⟩ := walkWith_refused_outside_directory
  refine ⟨_, hw, rfl, ?_, by decide⟩
  rw [hzero.read32? (by decide) (by decide), if_pos (by decide)]

/-- The same walk, read by the failure lemma: it is the exception, frame 0x7000 zeroed. -/
theorem walkWith_failure_outside_directory :
    ∃ w, (ofRoot 0x10000000).walkWith ⟨0x8000, [.word 0x7000000 5]⟩ 0 (some FrameSupply.take)
        (⟨0x7000, 0xffffffff, 0⟩ : FrameSupply) = .ok w ∧ w.slot = none ∧
      (w.mem = ⟨0x8000, [.word 0x7000000 5]⟩ ∨
        ∃ next f, some FrameSupply.take = some next ∧
          (ofRoot 0x10000000).lookup? ⟨0x8000, [.word 0x7000000 5]⟩ 0 = none ∧
          (next ⟨0x7000, 0xffffffff, 0⟩).1 = some f ∧ f.toNat < 0x8000 ∧
          PhysMem.contains ⟨0x8000, [.word 0x7000000 5]⟩ ((ofRoot 0x10000000).dirSlot 0) 4 =
            false ∧
          w.mem.frames = 0x8000 ∧
          ∀ b, w.mem.byte b = if b / 4096 = f.toNat then 0 else
            PhysMem.byte ⟨0x8000, [.word 0x7000000 5]⟩ b) := by
  obtain ⟨m₁, hw, -⟩ := walkWith_refused_outside_directory
  exact ⟨_, hw, rfl, walkWith_failure_keeps_memory _ _ _ _ _ hw rfl⟩

end PageDir

end KernelMonitor
