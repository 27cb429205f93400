import KernelMonitor.Monitor.Mappings
import KernelMonitor.Proofs.Memory
import Mathlib.Tactic.IntervalCases

/-! # Changing the protection of a mapping

A walk of the page directory reads an entry's PRESENT bit and frame only, so rewriting the
protection bits of one entry leaves every walk as it was; only the entry read from the rewritten
slot changes.
-/

namespace KernelMonitor

namespace Flags

/-- Flags that lie within the protection bits, WRITABLE and USER. -/
def Protective (f : Flags) : Prop := f.bits &&& ~~~protection.bits = 0

instance (f : Flags) : Decidable f.Protective := inferInstanceAs (Decidable (_ = _))

theorem protective_empty : empty.Protective := by decide

theorem Protective.union {f g : Flags} (hf : f.Protective) (hg : g.Protective) :
    (f.union g).Protective := by
  show (f.bits ||| g.bits) &&& ~~~protection.bits = 0
  rw [← UInt32.toBitVec_inj, UInt32.toBitVec_and, UInt32.toBitVec_or, BitVec.and_or_distrib_right,
    ← UInt32.toBitVec_and, ← UInt32.toBitVec_and, hf, hg]
  rfl

end Flags

theorem parsePerm_protective {cs : List Char} {f : Flags} (h : parsePerm cs = .ok f) :
    f.Protective := by
  induction cs using parsePerm.induct generalizing f with
  | case1 =>
    cases h
    exact Flags.protective_empty
  -- a `w` or a `u` adds its one protection flag to the flags of the rest of the word
  | case2 r ih | case3 r ih =>
    rcases hr : parsePerm r with _ | g
    · simp [parsePerm, hr, Except.map] at h
    · simp only [parsePerm, hr, Except.map, Except.ok.injEq] at h
      subst h
      exact Flags.Protective.union (by decide) (ih hr)
  | case4 c r hw hu =>
    simp [parsePerm] at h

theorem permArg_protective {rest : List String} {f : Flags} (h : permArg rest = .ok f) :
    f.Protective := by
  cases rest with
  | nil =>
    cases h
    exact Flags.protective_empty
  | cons p _ =>
    simp only [permArg] at h
    split at h
    · rename_i hp
      cases h
      exact parsePerm_protective hp
    · cases h

namespace Entry

/-- Every bit of an entry but its protection: the frame, PRESENT and the other flags. -/
def mapBits (e : Entry) : UInt32 := e.raw &&& ~~~Flags.protection.bits

variable {e e' : Entry}

theorem raw_and_eq_of_mapBits_eq (h : e.mapBits = e'.mapBits) (c : UInt32)
    (hc : ~~~Flags.protection.bits &&& c = c) : e.raw &&& c = e'.raw &&& c := by
  unfold mapBits at h
  rw [← hc, ← UInt32.and_assoc, ← UInt32.and_assoc, h]

theorem present_eq_of_mapBits_eq (h : e.mapBits = e'.mapBits) : e.present = e'.present := by
  simp only [present, raw_and_eq_of_mapBits_eq h 1 (by decide)]

theorem frameAddr_eq_of_mapBits_eq (h : e.mapBits = e'.mapBits) :
    e.frameAddr = e'.frameAddr :=
  raw_and_eq_of_mapBits_eq h _ (by decide)

theorem frame_eq_mapBits_shift (e : Entry) : e.frame = e.mapBits >>> 12 := by
  apply UInt32.toBitVec_inj.mp
  ext i hi
  simp only [frame, mapBits, Flags.protection, UInt32.toBitVec_shiftRight, UInt32.toBitVec_and]
  interval_cases i <;> simp

theorem frame_eq_of_mapBits_eq (h : e.mapBits = e'.mapBits) : e.frame = e'.frame := by
  rw [frame_eq_mapBits_shift, frame_eq_mapBits_shift, h]

theorem mapBits_apply {f : Flags} (hf : f.Protective) (op : PermOp) :
    (e.apply op f).mapBits = e.mapBits := by
  unfold Flags.Protective at hf
  have hf' := congrArg (fun (v : UInt32) (i : Nat) => v.toBitVec.getLsbD i) hf
  cases op with
  | clear =>
    simp only [apply, clearProtection, mapBits, UInt32.and_assoc, UInt32.and_self]
  -- setting or toggling bits of `f` touches no bit outside the protection
  | set | change =>
    apply UInt32.toBitVec_inj.mp
    ext i hi
    have := congrFun hf' i
    simp [apply, setFlags, clearProtection, toggle, mapBits, flagMask] at this ⊢
    grind

end Entry

namespace PageDir

theorem pageBase_aligned (a : UInt32) : (pageBase a).toNat % 4 = 0 := by
  simp only [pageBase, UInt32.toNat_and]
  rw [show (4 : Nat) = 2 ^ 2 from rfl, Nat.and_mod_two_pow]
  simp

theorem dirSlot_aligned (cr3 va : UInt32) : ((ofRoot cr3).dirSlot va).toNat % 4 = 0 := by
  have hr := pageBase_aligned cr3
  simp only [dirSlot, ofRoot, UInt32.toNat_add, UInt32.toNat_mul] at hr ⊢
  simp
  omega

theorem tableSlot_aligned (table va : UInt32) : (tableSlot table va).toNat % 4 = 0 := by
  simp only [tableSlot, frameStart, pageSize, UInt32.toNat_add, UInt32.toNat_mul]
  simp
  omega

variable {d : PageDir} {m : PhysMem} {va slot w : UInt32}

theorem lookup?_aligned (h : d.lookup? m va = some slot) : slot.toNat % 4 = 0 := by
  obtain ⟨table, -, rfl⟩ := Option.map_eq_some_iff.mp h
  exact tableSlot_aligned table va

theorem table?_of_read32? (h : m.read32? (d.dirSlot va) = some w) :
    d.table? m va =
      if (Entry.mk w).present && m.containsFrame (Entry.mk w).frame then some (Entry.mk w).frame
      else none := by
  simp [table?, h]

theorem table?_of_read32?_none (h : m.read32? (d.dirSlot va) = none) : d.table? m va = none := by
  simp [table?, h]

theorem resolve?_of_read32? (hl : d.lookup? m va = some slot) (h : m.read32? slot = some w) :
    d.resolve? m va =
      if (Entry.mk w).present then some ⟨va, ⟨w⟩, (Entry.mk w).frameAddr ||| pageOffset va⟩
      else none := by
  simp [resolve?, hl, h]

theorem resolve?_of_read32?_none (hl : d.lookup? m va = some slot) (h : m.read32? slot = none) :
    d.resolve? m va = none := by
  simp [resolve?, hl, h]

theorem resolve?_of_lookup?_none (hl : d.lookup? m va = none) : d.resolve? m va = none := by
  simp [resolve?, hl]

end PageDir

namespace PhysMem

/-- `m'` is `m` with the aligned word at `slot` rewritten in its protection bits only: every
aligned word keeps its other bits, and every aligned word but the one at `slot` reads as before. -/
structure ProtectionEdit (m m' : PhysMem) (slot : UInt32) : Prop where
  frames_eq : m'.frames = m.frames
  read_mapBits : ∀ a : UInt32, a.toNat % 4 = 0 →
    (m'.read32? a).map (fun w => (Entry.mk w).mapBits) =
      (m.read32? a).map (fun w => (Entry.mk w).mapBits)
  read_of_ne : ∀ a : UInt32, a.toNat % 4 = 0 → a ≠ slot → m'.read32? a = m.read32? a

variable {m m' : PhysMem} {slot old new : UInt32}

theorem protectionEdit_of_write32? (hw : m.write32? slot new = some m') (hs : slot.toNat % 4 = 0)
    (hold : m.read32? slot = some old) (hb : (Entry.mk new).mapBits = (Entry.mk old).mapBits) :
    ProtectionEdit m m' slot where
  frames_eq := frames_of_write32? hw
  read_mapBits a ha := by
    rw [read32?_write32?_of_aligned hw hs ha]
    split
    · subst a
      simp [hold, hb]
    · rfl
  read_of_ne a ha hne := by
    rw [read32?_write32?_of_aligned hw hs ha, if_neg hne]

theorem ProtectionEdit.read32?_eq_some (he : ProtectionEdit m m' slot) {a w : UInt32}
    (ha : a.toNat % 4 = 0) (h : m.read32? a = some w) :
    ∃ w', m'.read32? a = some w' ∧ (Entry.mk w').mapBits = (Entry.mk w).mapBits := by
  have hr := he.read_mapBits a ha
  rw [h, Option.map_some] at hr
  obtain ⟨w', hw', hb⟩ := Option.map_eq_some_iff.mp hr
  exact ⟨w', hw', hb⟩

theorem ProtectionEdit.read32?_eq_none (he : ProtectionEdit m m' slot) {a : UInt32}
    (ha : a.toNat % 4 = 0) (h : m.read32? a = none) : m'.read32? a = none := by
  have hr := he.read_mapBits a ha
  rw [h, Option.map_none] at hr
  exact Option.map_eq_none_iff.mp hr

end PhysMem

namespace PageDir

variable {m m' : PhysMem} {slot : UInt32}

/-- A walk reads the directory entry's PRESENT bit and frame only, so it finds the same page
table after a protection edit, even of the directory entry itself. -/
theorem table?_of_protectionEdit (he : m.ProtectionEdit m' slot) (cr3 va : UInt32) :
    (ofRoot cr3).table? m' va = (ofRoot cr3).table? m va := by
  have ha := dirSlot_aligned cr3 va
  rcases h : m.read32? ((ofRoot cr3).dirSlot va) with _ | w
  · rw [table?_of_read32?_none h, table?_of_read32?_none (he.read32?_eq_none ha h)]
  · obtain ⟨w', hw', hb⟩ := he.read32?_eq_some ha h
    rw [table?_of_read32? h, table?_of_read32? hw', Entry.present_eq_of_mapBits_eq hb,
      Entry.frame_eq_of_mapBits_eq hb]
    unfold PhysMem.containsFrame
    rw [he.frames_eq]

theorem lookup?_of_protectionEdit (he : m.ProtectionEdit m' slot) (cr3 va : UInt32) :
    (ofRoot cr3).lookup? m' va = (ofRoot cr3).lookup? m va := by
  simp only [lookup?, table?_of_protectionEdit he]

/-- After a protection edit every address resolves as before, to the same frame and physical
address, through an entry that differs at most in its protection. -/
theorem resolve?_of_protectionEdit (he : m.ProtectionEdit m' slot) (cr3 va : UInt32) :
    ((ofRoot cr3).resolve? m' va).map (fun t => (t.entry.frameAddr, t.pa, t.entry.mapBits)) =
      ((ofRoot cr3).resolve? m va).map (fun t => (t.entry.frameAddr, t.pa, t.entry.mapBits)) := by
  have hl := lookup?_of_protectionEdit he cr3 va
  rcases hs : (ofRoot cr3).lookup? m va with _ | s
  · rw [resolve?_of_lookup?_none (hl.trans hs), resolve?_of_lookup?_none hs]
  · have ha := lookup?_aligned hs
    rcases h : m.read32? s with _ | w
    · rw [resolve?_of_read32?_none (hl.trans hs) (he.read32?_eq_none ha h),
        resolve?_of_read32?_none hs h]
    · obtain ⟨w', hw', hb⟩ := he.read32?_eq_some ha h
      rw [resolve?_of_read32? (hl.trans hs) hw', resolve?_of_read32? hs h,
        Entry.present_eq_of_mapBits_eq hb]
      split <;> simp [Entry.frameAddr_eq_of_mapBits_eq hb, hb]

theorem resolve?_of_protectionEdit_of_ne (he : m.ProtectionEdit m' slot) (cr3 va : UInt32)
    (hne : (ofRoot cr3).lookup? m va ≠ some slot) :
    (ofRoot cr3).resolve? m' va = (ofRoot cr3).resolve? m va := by
  have hl := lookup?_of_protectionEdit he cr3 va
  rcases hs : (ofRoot cr3).lookup? m va with _ | s
  · rw [resolve?_of_lookup?_none (hl.trans hs), resolve?_of_lookup?_none hs]
  · have hr := he.read_of_ne s (lookup?_aligned hs) (fun e => hne (e ▸ hs))
    rcases h : m.read32? s with _ | w
    · rw [resolve?_of_read32?_none (hl.trans hs) (hr.trans h), resolve?_of_read32?_none hs h]
    · rw [resolve?_of_read32? (hl.trans hs) (hr.trans h), resolve?_of_read32? hs h]

end PageDir

theorem except_bind_eq_ok {ε α β : Type} {x : Except ε α} {f : α → Except ε β} {b : β} :
    x >>= f = .ok b ↔ ∃ a, x = .ok a ∧ f a = .ok b := by
  cases x <;> simp [bind, Except.bind]

theorem orFail_eq_ok {α : Type} {e : MonitorError} {o : Option α} {a : α} :
    orFail e o = .ok a ↔ o = some a := by
  cases o <;> simp [orFail]

/-- What a successful `modifyperm` did: it read an address, a permission and an operation from
its words, found the table entry of the address present, and wrote the entry back with its
protection changed. -/
theorem modifyperm_eq_ok {t : Target} {argv : List String} {mem : PhysMem} {r : Record}
    (h : modifyperm t argv = .ok (mem, r)) :
    ∃ name opWord addrWord rest va perm op slot old,
      argv = name :: opWord :: addrWord :: rest ∧ parseNonzeroHex? addrWord = some va ∧
      permArg rest = .ok perm ∧ PermOp.parse? opWord = some op ∧
      (PageDir.ofRoot t.root).lookup? t.mem va = some slot ∧ t.mem.read32? slot = some old ∧
      (Entry.mk old).present ∧
      t.mem.write32? slot ((Entry.mk old).apply op perm).raw = some mem := by
  unfold modifyperm at h
  split at h
  · rename_i name opWord addrWord rest
    simp only [except_bind_eq_ok, orFail_eq_ok] at h
    obtain ⟨va, hva, perm, hperm, op, hop, slot, hslot, old, hold, h⟩ := h
    split at h
    · cases h
    · rename_i hp
      simp only [except_bind_eq_ok, orFail_eq_ok] at h
      obtain ⟨mem', hw, h⟩ := h
      cases h
      exact ⟨name, opWord, addrWord, rest, va, perm, op, slot, old, rfl, hva, hperm, hop, hslot,
        hold, by simpa using hp, hw⟩
  · cases h

/-- `modifyperm` rewrites the table entry of the address it is given and never creates, removes
or redirects a mapping: every address finds the same table entry slot, and resolves, or not, to
the same frame and physical address through an entry that differs at most in its WRITABLE and
USER bits, and that differs not at all unless its slot is the rewritten one. -/
theorem modifyperm_keeps_translations {t : Target} {argv : List String} {mem : PhysMem}
    {r : Record} (h : modifyperm t argv = .ok (mem, r)) :
    let d := PageDir.ofRoot t.root
    ∃ addrWord va slot v, argv[2]? = some addrWord ∧ parseNonzeroHex? addrWord = some va ∧
      d.lookup? t.mem va = some slot ∧ t.mem.write32? slot v = some mem ∧
      ∀ x, d.lookup? mem x = d.lookup? t.mem x ∧
        (d.resolve? mem x).map (fun m => (m.entry.frameAddr, m.pa, m.entry.mapBits)) =
          (d.resolve? t.mem x).map (fun m => (m.entry.frameAddr, m.pa, m.entry.mapBits)) ∧
        (d.lookup? t.mem x ≠ some slot → d.resolve? mem x = d.resolve? t.mem x) := by
  obtain ⟨name, opWord, addrWord, rest, va, perm, op, slot, old, rfl, hva, hperm, -, hslot, hold,
    -, hw⟩ := modifyperm_eq_ok h
  have he : t.mem.ProtectionEdit mem slot :=
    PhysMem.protectionEdit_of_write32? hw (PageDir.lookup?_aligned hslot) hold
      (Entry.mapBits_apply (permArg_protective hperm) op)
  refine ⟨addrWord, va, slot, _, rfl, hva, hslot, hw, fun x => ⟨?_, ?_, ?_⟩⟩
  · exact PageDir.lookup?_of_protectionEdit he t.root x
  · exact PageDir.resolve?_of_protectionEdit he t.root x
  · exact PageDir.resolve?_of_protectionEdit_of_ne he t.root x

set_option maxRecDepth 4000 in
theorem modifyperm_set_user_keeps_translations :
    let t : Target := ⟨⟨0x8000, [.word 0x2004 0x5003, .word 0x1000 0x2007]⟩, 0x1000, 0⟩
    let argv := ["modifyperm", "set", "1000", "u"]
    let mem : PhysMem := ⟨0x8000, [.word 0x2004 0x5005, .word 0x2004 0x5003, .word 0x1000 0x2007]⟩
    let r : Record := ⟨.info, "modifyperm: Set VirtAddr(0x1000) PteFlags(USER): Pte(0x5000, " ++
      "PteFlags(PRESENT | WRITABLE)) -> Pte(0x5000, PteFlags(PRESENT | USER))"⟩
    modifyperm t argv = .ok (mem, r) ∧
      let d := PageDir.ofRoot t.root
      ∃ addrWord va slot v, argv[2]? = some addrWord ∧ parseNonzeroHex? addrWord = some va ∧
        d.lookup? t.mem va = some slot ∧ t.mem.write32? slot v = some mem ∧
        ∀ x, d.lookup? mem x = d.lookup? t.mem x ∧
          (d.resolve? mem x).map (fun m => (m.entry.frameAddr, m.pa, m.entry.mapBits)) =
            (d.resolve? t.mem x).map (fun m => (m.entry.frameAddr, m.pa, m.entry.mapBits)) ∧
          (d.lookup? t.mem x ≠ some slot → d.resolve? mem x = d.resolve? t.mem x) := by
  intro t argv mem r
  have h : modifyperm t argv = .ok (mem, r) := by
    dsimp only [t, argv, mem, r]
    rfl
  exact ⟨h, modifyperm_keeps_translations h⟩

end KernelMonitor
