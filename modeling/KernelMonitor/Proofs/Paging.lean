import KernelMonitor.Proofs.Protection

/-! # Addresses as numbers

The fields of a virtual address, read as natural numbers: the directory index is the address
divided by 4 MiB, the table index the page number modulo 1024, the offset the remainder by the
page size. A walk reads the directory and table index only, so all addresses of one page find
the same table entry and resolve through the same entry.
-/

namespace KernelMonitor

theorem dirIndex_toNat (va : UInt32) : (dirIndex va).toNat = va.toNat / 4194304 % 1024 := by
  rw [dirIndex, UInt32.toNat_and, UInt32.toNat_shiftRight, Nat.shiftRight_eq_div_pow,
    show (0x3ff : UInt32).toNat = 2 ^ 10 - 1 from rfl, Nat.and_two_pow_sub_one_eq_mod]
  rfl

theorem tableIndex_toNat (va : UInt32) : (tableIndex va).toNat = va.toNat / 4096 % 1024 := by
  rw [tableIndex, UInt32.toNat_and, UInt32.toNat_shiftRight, Nat.shiftRight_eq_div_pow,
    show (0x3ff : UInt32).toNat = 2 ^ 10 - 1 from rfl, Nat.and_two_pow_sub_one_eq_mod]
  rfl

theorem pageOffset_toNat (a : UInt32) : (pageOffset a).toNat = a.toNat % 4096 := by
  rw [pageOffset, UInt32.toNat_and, show (0xfff : UInt32).toNat = 2 ^ 12 - 1 from rfl,
    Nat.and_two_pow_sub_one_eq_mod]

theorem pageNumber_toNat (a : UInt32) : (pageNumber a).toNat = a.toNat / 4096 := by
  rw [pageNumber, UInt32.toNat_shiftRight, Nat.shiftRight_eq_div_pow]
  rfl

theorem Entry.frame_toNat_lt (e : Entry) : e.frame.toNat < 1048576 := by
  have h := e.raw.toNat_lt
  rw [Entry.frame, UInt32.toNat_shiftRight, Nat.shiftRight_eq_div_pow]
  simp only [show (12 : UInt32).toNat % 32 = 12 from rfl]
  omega

namespace PageDir

variable {d : PageDir} {m : PhysMem} {x y : UInt32}

/-- A page table found by a walk lies in one of the first 2 ^ 20 frames: its number is the
top twenty bits of a directory entry. -/
theorem table?_toNat_lt {t : UInt32} (h : d.table? m x = some t) : t.toNat < 1048576 := by
  rcases hr : m.read32? (d.dirSlot x) with _ | w
  · rw [table?_of_read32?_none hr] at h
    cases h
  · rw [table?_of_read32? hr] at h
    split at h
    · cases h
      exact Entry.frame_toNat_lt _
    · cases h

theorem lookup?_of_pageNumber_eq (h : pageNumber x = pageNumber y) :
    d.lookup? m x = d.lookup? m y := by
  have hn := congrArg UInt32.toNat h
  rw [pageNumber_toNat, pageNumber_toNat] at hn
  have hd : dirIndex x = dirIndex y := by
    apply UInt32.toNat_inj.mp
    rw [dirIndex_toNat, dirIndex_toNat]
    omega
  have ht : tableIndex x = tableIndex y := by
    apply UInt32.toNat_inj.mp
    rw [tableIndex_toNat, tableIndex_toNat, hn]
  simp only [lookup?, table?, dirSlot, tableSlot, hd, ht]

theorem resolve?_entry_of_pageNumber_eq (h : pageNumber x = pageNumber y) :
    (d.resolve? m x).map (·.entry) = (d.resolve? m y).map (·.entry) := by
  have hl : d.lookup? m x = d.lookup? m y := lookup?_of_pageNumber_eq h
  rcases hs : d.lookup? m y with _ | slot
  · rw [resolve?_of_lookup?_none hs, resolve?_of_lookup?_none (hl.trans hs)]
  · rcases hw : m.read32? slot with _ | w
    · rw [resolve?_of_read32?_none hs hw, resolve?_of_read32?_none (hl.trans hs) hw]
    · rw [resolve?_of_read32? hs hw, resolve?_of_read32? (hl.trans hs) hw]
      split <;> rfl

end PageDir

end KernelMonitor
