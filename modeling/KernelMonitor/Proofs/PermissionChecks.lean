import KernelMonitor.Proofs.VirtualRead

/-! # The checks of `modifyperm`

`modifyperm` answers with the first of its checks that fails, in a fixed order. When all pass it
rewrites the table entry, which cannot fail, keeping every bit but WRITABLE and USER; those
become what the operation asks for.
-/

namespace KernelMonitor

/-- The first character of a permission word that is neither `w` nor `u`. -/
def badPermChar? (p : String) : Option Char := p.toList.find? fun c => c != 'w' && c != 'u'

/-- The protection a permission word asks for: WRITABLE if it holds a `w`, USER if it holds a
`u`. -/
def askedProtection (p : String) : UInt32 :=
  (if 'w' ∈ p.toList then Flags.writable.bits else 0) |||
    (if 'u' ∈ p.toList then Flags.user.bits else 0)

namespace PermOp

def letters : PermOp → List Char
  | .set => ['s']
  | .clear => ['c', 'l']
  | .change => ['c', 'h']

/-- The protection bits an operation leaves, from the old ones and the asked ones. -/
def protectionAfter : PermOp → UInt32 → UInt32 → UInt32
  | .set, _, asked => asked
  | .clear, _, _ => 0
  | .change, old, asked => old ^^^ asked

end PermOp

section Words

variable {cs : List Char}

theorem parsePerm_of_find?_none (h : cs.find? (fun c => c != 'w' && c != 'u') = none) :
    parsePerm cs = .ok ⟨(if 'w' ∈ cs then Flags.writable.bits else 0) |||
      (if 'u' ∈ cs then Flags.user.bits else 0)⟩ := by
  induction cs using parsePerm.induct with
  | case1 => rfl
  -- a `w` or a `u` adds its flag to what the rest of the word asks for
  | case2 r ih | case3 r ih =>
    rw [List.find?_cons_of_neg (by decide)] at h
    rw [parsePerm, ih h]
    simp only [Except.map, Flags.union, Flags.writable, Flags.user, List.mem_cons, true_or,
      if_true, Except.ok.injEq, Flags.mk.injEq]
    by_cases hw : 'w' ∈ r <;> by_cases hu : 'u' ∈ r <;> simp [hw, hu] <;> decide
  | case4 c r hw hu =>
    rw [List.find?_cons_of_pos (by simpa using ⟨hw, hu⟩)] at h
    cases h

theorem parsePerm_of_find?_some {c : Char}
    (h : cs.find? (fun c => c != 'w' && c != 'u') = some c) : parsePerm cs = .error c := by
  induction cs using parsePerm.induct with
  | case1 => cases h
  | case2 r ih | case3 r ih =>
    rw [List.find?_cons_of_neg (by decide)] at h
    rw [parsePerm, ih h]
    rfl
  | case4 c' r hw hu =>
    rw [List.find?_cons_of_pos (by simpa using ⟨hw, hu⟩)] at h
    cases h
    unfold parsePerm
    split <;> simp_all

variable {rest : List String}

theorem permArg_of_badPermChar? {c : Char} (h : rest.head?.bind badPermChar? = some c) :
    permArg rest = .error (.invalidPermission c) := by
  cases rest with
  | nil => cases h
  | cons p _ =>
    rw [permArg, parsePerm_of_find?_some h]

theorem permArg_of_badPermChar?_none (h : rest.head?.bind badPermChar? = none) :
    permArg rest = .ok ⟨(rest.head?.map askedProtection).getD 0⟩ := by
  cases rest with
  | nil => rfl
  | cons p _ =>
    rw [permArg, parsePerm_of_find?_none h]
    rfl

namespace PermOp

variable {word : String} {op : PermOp}

theorem parse?_of_letters (h : op.letters <+: word.toList) : parse? word = some op := by
  obtain ⟨r, hr⟩ := h
  unfold parse?
  cases op <;> simp only [letters, List.cons_append, List.nil_append] at hr <;> rw [← hr] <;> rfl

theorem parse?_of_not_letters (h : ∀ op : PermOp, ¬ op.letters <+: word.toList) :
    parse? word = none := by
  unfold parse?
  split
  · rename_i r hr
    exact absurd ⟨r, by rw [hr]; rfl⟩ (h .set)
  · rename_i r hr
    exact absurd ⟨r, by rw [hr]; rfl⟩ (h .clear)
  · rename_i r hr
    exact absurd ⟨r, by rw [hr]; rfl⟩ (h .change)
  · rfl

end PermOp

end Words

/-- Changing the protection by flags within it leaves in WRITABLE and USER exactly what the
operation asks for: the flags, nothing, or the old protection flipped by them. -/
theorem Entry.protection_apply {e : Entry} {f : Flags} (hf : f.Protective) (op : PermOp) :
    (e.apply op f).raw &&& Flags.protection.bits =
      op.protectionAfter (e.raw &&& Flags.protection.bits) f.bits := by
  -- bit by bit: the flags lie inside the protection, and the protection inside the flag bits
  have hp : Flags.protection.bits &&& Entry.flagMask = Flags.protection.bits := by decide
  unfold Flags.Protective at hf
  apply UInt32.toBitVec_inj.mp
  ext i hi
  have h1 := congrArg (fun v : UInt32 => v.toBitVec.getLsbD i) hf
  have h2 := congrArg (fun v : UInt32 => v.toBitVec.getLsbD i) hp
  simp only [UInt32.toBitVec_and, UInt32.toBitVec_not, BitVec.getLsbD_and, BitVec.getLsbD_not,
    UInt32.toBitVec_zero, BitVec.getLsbD_zero] at h1 h2
  cases op
  case set =>
    simp only [Entry.apply, Entry.setFlags, Entry.clearProtection, PermOp.protectionAfter,
      UInt32.toBitVec_and, UInt32.toBitVec_or, UInt32.toBitVec_not, BitVec.getElem_and,
      BitVec.getElem_or, BitVec.getElem_not]
    grind
  case clear =>
    simp only [Entry.apply, Entry.clearProtection, PermOp.protectionAfter, UInt32.toBitVec_and,
      UInt32.toBitVec_not, UInt32.toBitVec_zero, BitVec.getElem_and, BitVec.getElem_not,
      BitVec.getElem_zero]
    grind
  case change =>
    simp only [Entry.apply, Entry.toggle, PermOp.protectionAfter, UInt32.toBitVec_and,
      UInt32.toBitVec_xor, BitVec.getElem_and, BitVec.getElem_xor]
    grind

namespace PageDir

variable {d : PageDir} {m : PhysMem} {va table slot : UInt32}

theorem containsFrame_of_table? (h : d.table? m va = some table) :
    m.containsFrame table = true := by
  rcases hr : m.read32? (d.dirSlot va) with _ | w
  · rw [table?_of_read32?_none hr] at h
    cases h
  · rw [table?_of_read32? hr] at h
    split at h
    · rename_i hc
      cases h
      exact (Bool.and_eq_true _ _).mp hc |>.2
    · cases h

/-- A table entry found by a walk lies inside memory: its table is a frame of memory, below the
top of the address space, and the entry is one of that frame's words. -/
theorem lookup?_toNat_add_four_le (h : d.lookup? m va = some slot) :
    slot.toNat + 4 ≤ m.size := by
  obtain ⟨table, ht, rfl⟩ := Option.map_eq_some_iff.mp h
  have hlt := table?_toNat_lt ht
  have hin : table.toNat < m.frames := of_decide_eq_true (containsFrame_of_table? ht)
  have hi := tableIndex_lt va
  have hslot : (tableSlot table va).toNat = table.toNat * 4096 + (tableIndex va).toNat * 4 := by
    rw [tableSlot, frameStart, UInt32.toNat_add, UInt32.toNat_mul, UInt32.toNat_mul,
      show pageSize.toNat = 4096 from rfl, show (4 : UInt32).toNat = 4 from rfl]
    omega
  rw [hslot, PhysMem.size]
  omega

end PageDir

section Command

theorem parseNonzeroHex?_of_zero {s : String} (h : parseHex s = 0) : parseNonzeroHex? s = none := by
  rw [parseNonzeroHex?, h]
  rfl

theorem parseNonzeroHex?_of_ne_zero {s : String} (h : parseHex s ≠ 0) :
    parseNonzeroHex? s = some (parseHex s) := by
  unfold parseNonzeroHex?
  split
  · contradiction
  · rfl

variable {t : Target} {name opWord addrWord : String} {rest : List String}

theorem modifyperm_of_length_lt {argv : List String} (h : argv.length < 3) :
    modifyperm t argv = .error .notEnoughArguments := by
  match argv, h with
  | [], _ | [_], _ | [_, _], _ => rfl

theorem modifyperm_of_address_zero (h : parseHex addrWord = 0) :
    modifyperm t (name :: opWord :: addrWord :: rest) = .error .illegalAddress := by
  simp only [modifyperm, parseNonzeroHex?_of_zero h, orFail]
  rfl

theorem modifyperm_of_badPermChar? (hva : parseHex addrWord ≠ 0) {c : Char}
    (hc : rest.head?.bind badPermChar? = some c) :
    modifyperm t (name :: opWord :: addrWord :: rest) = .error (.invalidPermission c) := by
  simp only [modifyperm, parseNonzeroHex?_of_ne_zero hva, orFail, permArg_of_badPermChar? hc]
  rfl

theorem modifyperm_of_parse?_none (hva : parseHex addrWord ≠ 0)
    (hc : rest.head?.bind badPermChar? = none) (hop : PermOp.parse? opWord = none) :
    modifyperm t (name :: opWord :: addrWord :: rest) = .error .invalidOperation := by
  simp only [modifyperm, parseNonzeroHex?_of_ne_zero hva, orFail, permArg_of_badPermChar?_none hc,
    hop]
  rfl

variable {op : PermOp}

theorem modifyperm_of_lookup?_none (hva : parseHex addrWord ≠ 0)
    (hc : rest.head?.bind badPermChar? = none) (hop : PermOp.parse? opWord = some op)
    (hl : (PageDir.ofRoot t.root).lookup? t.mem (parseHex addrWord) = none) :
    modifyperm t (name :: opWord :: addrWord :: rest) =
      .error (.pageNotFound (parseHex addrWord)) := by
  simp only [modifyperm, parseNonzeroHex?_of_ne_zero hva, orFail, permArg_of_badPermChar?_none hc,
    hop, hl, bind, Except.bind]

variable {slot old : UInt32}

theorem modifyperm_of_not_present (hva : parseHex addrWord ≠ 0)
    (hc : rest.head?.bind badPermChar? = none) (hop : PermOp.parse? opWord = some op)
    (hl : (PageDir.ofRoot t.root).lookup? t.mem (parseHex addrWord) = some slot)
    (hr : t.mem.read32? slot = some old) (hp : (Entry.mk old).present = false) :
    modifyperm t (name :: opWord :: addrWord :: rest) =
      .error (.pageNotFound (parseHex addrWord)) := by
  simp only [modifyperm, parseNonzeroHex?_of_ne_zero hva, orFail, permArg_of_badPermChar?_none hc,
    hop, hl, hr, hp, bind, Except.bind]
  rfl

theorem modifyperm_of_present (hva : parseHex addrWord ≠ 0)
    (hc : rest.head?.bind badPermChar? = none) (hop : PermOp.parse? opWord = some op)
    (hl : (PageDir.ofRoot t.root).lookup? t.mem (parseHex addrWord) = some slot)
    (hr : t.mem.read32? slot = some old) (hp : (Entry.mk old).present = true) :
    ∃ mem r, modifyperm t (name :: opWord :: addrWord :: rest) = .ok (mem, r) ∧
      t.mem.write32? slot
        ((Entry.mk old).apply op ⟨(rest.head?.map askedProtection).getD 0⟩).raw = some mem := by
  have hin := PageDir.lookup?_toNat_add_four_le hl
  obtain ⟨mem, hw⟩ : ∃ mem, t.mem.write32? slot
      ((Entry.mk old).apply op ⟨(rest.head?.map askedProtection).getD 0⟩).raw = some mem := by
    unfold PhysMem.write32? PhysMem.contains
    rw [if_pos (decide_eq_true hin)]
    exact ⟨_, rfl⟩
  refine ⟨mem, ?_⟩
  simp only [modifyperm, parseNonzeroHex?_of_ne_zero hva, orFail, permArg_of_badPermChar?_none hc,
    hop, hl, hr, hp, hw, bind, Except.bind]
  exact ⟨_, rfl, trivial⟩

end Command

/-- `modifyperm` answers with the first of its checks that fails, in this order: fewer than three
words; a zero address; a permission word with a character other than `w` and `u`, named by the
first such character; an operation word that starts with none of `s`, `cl` and `ch`; no table
entry for the address, or one that is not present. Words past the permission word are never
read. When every check passes, the entry's word can be read and written back: the new entry keeps
every bit but WRITABLE and USER, and those become what the operation makes of the old ones and
of the protection the permission word asks for. -/
theorem modifyperm_checks_in_order (t : Target) (argv : List String) :
    (argv.length < 3 → modifyperm t argv = .error .notEnoughArguments) ∧
    ∀ name opWord addrWord rest, argv = name :: opWord :: addrWord :: rest →
      let va := parseHex addrWord
      let bad := rest.head?.bind badPermChar?
      let asked := (rest.head?.map askedProtection).getD 0
      let d := PageDir.ofRoot t.root
      (va = 0 → modifyperm t argv = .error .illegalAddress) ∧
      (va ≠ 0 → ∀ c, bad = some c → modifyperm t argv = .error (.invalidPermission c)) ∧
      (va ≠ 0 → bad = none → (∀ op : PermOp, ¬ op.letters <+: opWord.toList) →
        modifyperm t argv = .error .invalidOperation) ∧
      ∀ op : PermOp, va ≠ 0 → bad = none → op.letters <+: opWord.toList →
        (d.lookup? t.mem va = none → modifyperm t argv = .error (.pageNotFound va)) ∧
        ∀ slot, d.lookup? t.mem va = some slot → ∃ old, t.mem.read32? slot = some old ∧
          ((Entry.mk old).present = false → modifyperm t argv = .error (.pageNotFound va)) ∧
          ((Entry.mk old).present = true → ∃ new mem r, modifyperm t argv = .ok (mem, r) ∧
            t.mem.write32? slot new = some mem ∧ (Entry.mk new).mapBits = (Entry.mk old).mapBits ∧
            new &&& Flags.protection.bits =
              op.protectionAfter (old &&& Flags.protection.bits) asked) := by
  refine ⟨modifyperm_of_length_lt, ?_⟩
  rintro name opWord addrWord rest rfl va bad asked d
  refine ⟨modifyperm_of_address_zero, fun hva c hc => modifyperm_of_badPermChar? hva hc,
    fun hva hc hop => modifyperm_of_parse?_none hva hc (PermOp.parse?_of_not_letters hop), ?_⟩
  intro op hva hc hletters
  have hop := PermOp.parse?_of_letters hletters
  refine ⟨modifyperm_of_lookup?_none hva hc hop, ?_⟩
  intro slot hl
  -- the entry of a table a walk finds is a word of memory
  obtain ⟨old, hr⟩ : ∃ old, t.mem.read32? slot = some old :=
    ⟨_, PhysMem.read32?_of_le (PageDir.lookup?_toNat_add_four_le hl)⟩
  refine ⟨old, hr, modifyperm_of_not_present hva hc hop hl hr, fun hp => ?_⟩
  obtain ⟨mem, r, hm, hw⟩ := modifyperm_of_present hva hc hop hl hr hp
  have hasked : (⟨asked⟩ : Flags).Protective :=
    permArg_protective (permArg_of_badPermChar?_none hc)
  exact ⟨_, mem, r, hm, hw, Entry.mapBits_apply hasked op, Entry.protection_apply hasked op⟩

/-- The entry of `0x1000` is present and writable at slot `0x2004`: `modifyperm set 1000 u` passes
every check and leaves USER as its only protection. -/
theorem modifyperm_set_user_passes_checks :
    let t : Target := ⟨⟨0x8000, [.word 0x2004 0x5003, .word 0x1000 0x2007]⟩, 0x1000, 0⟩
    let argv := ["modifyperm", "set", "1000", "u"]
    parseHex "1000" ≠ 0 ∧ (["u"].head?.bind badPermChar?) = none ∧
      PermOp.set.letters <+: "set".toList ∧
      (PageDir.ofRoot t.root).lookup? t.mem (parseHex "1000") = some 0x2004 ∧
      t.mem.read32? 0x2004 = some 0x5003 ∧ (Entry.mk 0x5003).present = true ∧
      ∃ new mem r, modifyperm t argv = .ok (mem, r) ∧ t.mem.write32? 0x2004 new = some mem ∧
        (Entry.mk new).mapBits = (Entry.mk 0x5003).mapBits ∧
        new &&& Flags.protection.bits = Flags.user.bits := by
  intro t argv
  have hva : parseHex "1000" ≠ 0 := by decide
  have hc : (["u"].head?.bind badPermChar?) = none := by decide
  have hset : PermOp.set.letters <+: "set".toList := by decide
  have hl : (PageDir.ofRoot t.root).lookup? t.mem (parseHex "1000") = some 0x2004 := by decide
  have hr : t.mem.read32? 0x2004 = some 0x5003 := by decide
  have hp : (Entry.mk 0x5003).present = true := by decide
  obtain ⟨old, hold, -, hpresent⟩ :=
    (((modifyperm_checks_in_order t argv).2 _ _ _ _ rfl).2.2.2 .set hva hc hset).2 _ hl
  rw [hr, Option.some.injEq] at hold
  subst hold
  exact ⟨hva, hc, hset, hl, hr, hp, hpresent hp⟩

end KernelMonitor
