import KernelMonitor.Proofs.PermissionChecks
import KernelMonitor.Proofs.PageTables
import Mathlib.Data.List.DropRight

/-! # Runs of protection changes

A run of `set`, `clear` and `change` operations keeps every bit of an entry but WRITABLE and
USER, and leaves in those a normal form: the last `set` or `clear`, flipped by every later
`change`. No operation touches the frame address.
-/

namespace KernelMonitor

namespace Entry

/-- The entry after the operations of `ops`, in order. -/
def applyAll (e : Entry) (ops : List (PermOp × Flags)) : Entry :=
  ops.foldl (fun e o => e.apply o.1 o.2) e

@[simp] theorem applyAll_nil (e : Entry) : e.applyAll [] = e := rfl

theorem applyAll_snoc (e : Entry) (ops : List (PermOp × Flags)) (o : PermOp × Flags) :
    e.applyAll (ops ++ [o]) = (e.applyAll ops).apply o.1 o.2 := by
  rw [applyAll, List.foldl_append, List.foldl_cons, List.foldl_nil]
  rfl

end Entry

/-! ## The normal form -/

/-- The protection the last stretch of `change` operations of a run starts from: the flags of
the last `set`, nothing when the last `set` or `clear` is a `clear`, and `p` when the run has
neither. -/
def runBase (p : UInt32) (ops : List (PermOp × Flags)) : UInt32 :=
  match (ops.rdropWhile (·.1 == .change)).getLast? with
  | some (.set, f) => f.bits
  | some _ => 0
  | none => p

/-- The flags of the `change` operations after the last `set` or `clear`, xor-ed together. -/
def runFlips (ops : List (PermOp × Flags)) : UInt32 :=
  ((ops.rtakeWhile (·.1 == .change)).map (·.2.bits)).foldl (· ^^^ ·) 0

section NormalForm

variable {p : UInt32} {ops : List (PermOp × Flags)} {f : Flags}

@[simp] theorem runBase_nil : runBase p [] = p := rfl

@[simp] theorem runFlips_nil : runFlips [] = 0 := rfl

theorem runBase_snoc_change : runBase p (ops ++ [(.change, f)]) = runBase p ops := by
  rw [runBase, List.rdropWhile_concat_pos _ _ _ rfl]
  rfl

theorem runBase_snoc_set : runBase p (ops ++ [(.set, f)]) = f.bits := by
  rw [runBase, List.rdropWhile_concat_neg _ _ _ (by simp), List.getLast?_concat]

theorem runBase_snoc_clear : runBase p (ops ++ [(.clear, f)]) = 0 := by
  rw [runBase, List.rdropWhile_concat_neg _ _ _ (by simp), List.getLast?_concat]

theorem runFlips_snoc_change : runFlips (ops ++ [(.change, f)]) = runFlips ops ^^^ f.bits := by
  rw [runFlips, List.rtakeWhile_concat_pos _ _ _ rfl, List.map_append, List.foldl_append]
  rfl

theorem runFlips_snoc_of_ne {op : PermOp} (h : op ≠ .change) :
    runFlips (ops ++ [(op, f)]) = 0 := by
  rw [runFlips, List.rtakeWhile_concat_neg _ _ _ (by simpa using h)]
  rfl

theorem normalForm_snoc (op : PermOp) :
    runBase p (ops ++ [(op, f)]) ^^^ runFlips (ops ++ [(op, f)]) =
      op.protectionAfter (runBase p ops ^^^ runFlips ops) f.bits := by
  cases op with
  | set => rw [runBase_snoc_set, runFlips_snoc_of_ne (by decide), UInt32.xor_zero]; rfl
  | clear => rw [runBase_snoc_clear, runFlips_snoc_of_ne (by decide)]; rfl
  | change =>
    rw [runBase_snoc_change, runFlips_snoc_change, PermOp.protectionAfter, UInt32.xor_assoc]

end NormalForm

/-- A run of operations with flags within the protection keeps every bit of the entry but
WRITABLE and USER, and leaves in those the normal form: the base of the run flipped by its last
`change` operations. -/
theorem Entry.applyAll_normal_form (e : Entry) (ops : List (PermOp × Flags))
    (hops : ∀ o ∈ ops, o.2.Protective) :
    (e.applyAll ops).mapBits = e.mapBits ∧
      (e.applyAll ops).raw &&& Flags.protection.bits =
        runBase (e.raw &&& Flags.protection.bits) ops ^^^ runFlips ops := by
  induction ops using List.reverseRecOn with
  | nil => simp
  -- the last operation sees the normal form of the run before it
  | append_singleton ops o ih =>
    obtain ⟨hops', ho⟩ : (∀ o ∈ ops, o.2.Protective) ∧ o.2.Protective := by
      simpa [or_imp, forall_and] using hops
    obtain ⟨hmap, hprot⟩ := ih hops'
    obtain ⟨op, f⟩ := o
    rw [applyAll_snoc]
    exact ⟨(mapBits_apply ho op).trans hmap, by rw [protection_apply ho op, hprot, normalForm_snoc]⟩

/-! ## Single operations, for any flags -/

section Bits

variable {a f m : UInt32}

theorem or_and_and_not : (a ||| (f &&& m)) &&& ~~~m = a &&& ~~~m := by
  apply UInt32.toBitVec_inj.mp
  simp only [UInt32.toBitVec_and, UInt32.toBitVec_or, UInt32.toBitVec_not]
  rw [BitVec.and_or_distrib_right, BitVec.and_assoc, BitVec.and_not_self]
  simp

theorem xor_and_and_not : (a ^^^ (f &&& m)) &&& ~~~m = a &&& ~~~m := by
  apply UInt32.toBitVec_inj.mp
  ext i hi
  simp only [UInt32.toBitVec_and, UInt32.toBitVec_xor, UInt32.toBitVec_not, BitVec.getElem_and,
    BitVec.getElem_xor, BitVec.getElem_not]
  -- a bit of the mask is cleared on both sides; elsewhere `f` contributes nothing
  cases m.toBitVec[i] <;> simp

end Bits

namespace Entry

variable {e : Entry} {f g : Flags}

@[simp] theorem frameAddr_setFlags : (e.setFlags f).frameAddr = e.frameAddr := or_and_and_not

@[simp] theorem frameAddr_toggle : (e.toggle f).frameAddr = e.frameAddr := xor_and_and_not

@[simp] theorem frameAddr_clearProtection : e.clearProtection.frameAddr = e.frameAddr := by
  rw [frameAddr, clearProtection, UInt32.and_assoc]
  rfl

theorem frameAddr_apply (op : PermOp) : (e.apply op f).frameAddr = e.frameAddr := by
  cases op <;> simp [apply]

theorem toggle_toggle : (e.toggle f).toggle f = e := by
  rw [toggle, toggle, UInt32.xor_assoc, UInt32.xor_self, UInt32.xor_zero]

theorem clearProtection_clearProtection :
    e.clearProtection.clearProtection = e.clearProtection := by
  rw [clearProtection, clearProtection, UInt32.and_assoc, UInt32.and_self]

theorem protection_apply_clear : (e.apply .clear f).raw &&& Flags.protection.bits = 0 := by
  have h : ~~~Flags.protection.bits &&& Flags.protection.bits = 0 := by decide
  rw [apply, clearProtection, UInt32.and_assoc, h, UInt32.and_zero]

theorem apply_set_apply_set : (e.apply .set f).apply .set f = e.apply .set f := by
  simp only [apply, clearProtection, setFlags, Entry.mk.injEq]
  apply UInt32.toBitVec_inj.mp
  ext i hi
  simp only [UInt32.toBitVec_and, UInt32.toBitVec_or, UInt32.toBitVec_not, BitVec.getElem_and,
    BitVec.getElem_or, BitVec.getElem_not]
  cases (Flags.protection.bits).toBitVec[i] <;> simp

theorem frameStart_and_flagMask (n : UInt32) : frameStart n &&& flagMask = 0 := by
  apply UInt32.toNat_inj.mp
  rw [UInt32.toNat_and, show flagMask.toNat = 2 ^ 12 - 1 from rfl, Nat.and_two_pow_sub_one_eq_mod,
    frameStart, UInt32.toNat_mul, show pageSize.toNat = 4096 from rfl]
  simp only [UInt32.toNat_zero]
  omega

theorem flags_make (n : UInt32) (fl : Flags) : (make n fl).flags = ⟨fl.bits &&& flagMask⟩ := by
  simp only [make, flags, Flags.mk.injEq]
  apply UInt32.toBitVec_inj.mp
  have h := congrArg UInt32.toBitVec (frameStart_and_flagMask n)
  simp only [UInt32.toBitVec_and, UInt32.toBitVec_or, UInt32.toBitVec_zero] at h ⊢
  rw [BitVec.and_or_distrib_right, h, BitVec.and_assoc, BitVec.and_self]
  simp

theorem ofFrame_decodes {n : UInt32} (hn : n.toNat < 1048576) (fl : Flags) :
    ∃ e, ofFrame n fl = .ok e ∧ e.frame = n ∧ e.flags = ⟨fl.bits &&& 0xfff⟩ := by
  refine ⟨make n fl, ?_, frame_make fl hn, flags_make n fl⟩
  rw [ofFrame, frameBase, mulExact_eq_ok (by rw [show pageSize.toNat = 4096 from rfl]; omega)]
  rfl

end Entry

/-- Protection changes with flags within WRITABLE and USER, in any number and order, keep every
other bit of the entry and leave the normal form in those two: the flags of the last `set`
(nothing after a last `clear`, the entry's own if there is neither), flipped by the flags of each
later `change`. With any flags, `change` twice is no change, `set` and `clear` are idempotent, a
`clear` after a `set` leaves no protection, and no operation touches the frame address. An entry
made for a frame below `2 ^ 20` reads back that frame and the low twelve bits of its flags. -/
theorem Entry.protection_runs_normal_form (e : Entry) (ops : List (PermOp × Flags))
    (hops : ∀ o ∈ ops, o.2.Protective) (f g : Flags) (op : PermOp) (n : UInt32)
    (hn : n.toNat < 1048576) :
    ((e.applyAll ops).mapBits = e.mapBits ∧
      (e.applyAll ops).raw &&& Flags.protection.bits =
        runBase (e.raw &&& Flags.protection.bits) ops ^^^ runFlips ops) ∧
    (e.apply .change f).apply .change f = e ∧
    (e.apply .set f).apply .set f = e.apply .set f ∧
    (e.apply .clear f).apply .clear g = e.apply .clear f ∧
    ((e.apply .set f).apply .clear g).raw &&& Flags.protection.bits = 0 ∧
    (e.setFlags f).frameAddr = e.frameAddr ∧ e.clearProtection.frameAddr = e.frameAddr ∧
    (e.toggle f).frameAddr = e.frameAddr ∧ (e.apply op f).frameAddr = e.frameAddr ∧
    ∃ e', ofFrame n f = .ok e' ∧ e'.frame = n ∧ e'.flags = ⟨f.bits &&& 0xfff⟩ :=
  ⟨e.applyAll_normal_form ops hops, toggle_toggle, apply_set_apply_set,
    clearProtection_clearProtection, protection_apply_clear, frameAddr_setFlags,
    frameAddr_clearProtection, frameAddr_toggle, frameAddr_apply op, ofFrame_decodes hn f⟩

/-- From an entry with every bit set, `change w`, `set wu`, `change u`, `change w` leave no
protection: the last `set` gives WRITABLE and USER, and the two later changes flip both. -/
theorem Entry.protection_run_flips_back_to_none :
    (∀ o ∈ [(PermOp.change, Flags.writable), (.set, Flags.protection), (.change, Flags.user),
        (.change, Flags.writable)], o.2.Protective) ∧ (0x1234 : UInt32).toNat < 1048576 ∧
      (Entry.applyAll ⟨0xffffffff⟩ [(.change, Flags.writable), (.set, Flags.protection),
        (.change, Flags.user), (.change, Flags.writable)]).raw &&& Flags.protection.bits = 0 := by
  have hops : ∀ o ∈ [(PermOp.change, Flags.writable), (.set, Flags.protection),
      (.change, Flags.user), (.change, Flags.writable)], o.2.Protective := by
    simp only [List.mem_cons, List.not_mem_nil, or_false, forall_eq_or_imp, forall_eq]
    decide
  have h := (Entry.protection_runs_normal_form ⟨0xffffffff⟩ _ hops Flags.empty Flags.empty .set
    0x1234 (by decide)).1.2
  exact ⟨hops, by decide, h.trans (by decide)⟩

end KernelMonitor
