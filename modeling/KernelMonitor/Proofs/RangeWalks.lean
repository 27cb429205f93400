import KernelMonitor.Proofs.Content
import KernelMonitor.Proofs.VirtualRead

/-! # Walking a range in strides

`showmappings` walks its range a page at a time and `content p` a word at a time; both visit
exactly the addresses `start + k * step` below `end`, none wrapping. `content p` reads each word
little-endian and stops at the first word outside memory, naming it.
-/

namespace KernelMonitor

open Text

/-- The addresses `start`, `start + step`, `start + 2 * step`, … below `stop`. -/
def strideFrom (step start stop : Nat) : List Nat :=
  List.range' start ((stop - start + step - 1) / step) step

section Stride

variable {step start stop : Nat}

theorem strideFrom_of_le (h : stop ≤ start) : strideFrom step start stop = [] := by
  rw [strideFrom, Nat.sub_eq_zero_of_le h, Nat.zero_add]
  rcases Nat.eq_zero_or_pos step with rfl | hs
  · rfl
  · rw [Nat.div_eq_of_lt (by omega), List.range'_zero]

theorem strideFrom_of_lt (hs : 0 < step) (h : start < stop) :
    strideFrom step start stop = start :: strideFrom step (start + step) stop := by
  -- the count of the rest is one less: ⌈d / step⌉ = ⌈(d - step) / step⌉ + 1 for `0 < d`
  have hcount : (stop - start + step - 1) / step = (stop - (start + step) + step - 1) / step + 1 := by
    rw [show stop - start + step - 1 = stop - start - 1 + step by omega, Nat.add_div_right _ hs]
    congr 1
    rcases Nat.lt_or_ge (stop - start) (step + 1) with hd | hd
    · rw [Nat.div_eq_of_lt (by omega), Nat.div_eq_of_lt (by omega)]
    · congr 1
      omega
  rw [strideFrom, hcount, List.range'_succ]
  rfl

theorem length_strideFrom : (strideFrom step start stop).length = (stop - start + step - 1) / step :=
  List.length_range'


theorem lt_of_mem_strideFrom (hs : 0 < step) {a : Nat} (ha : a ∈ strideFrom step start stop) :
    a < stop := by
  obtain ⟨k, hk, rfl⟩ := List.mem_range'.mp ha
  -- `k < ⌈d / step⌉` says `(k + 1) * step ≤ d + step - 1`
  have hk' : (k + 1) * step ≤ stop - start + step - 1 := (Nat.le_div_iff_mul_le hs).mp hk
  rw [Nat.add_mul, Nat.one_mul, Nat.mul_comm] at hk'
  omega

theorem getElem_strideFrom (hs : 0 < step) {k : Nat} (hk : k < (strideFrom step start stop).length) :
    (strideFrom step start stop)[k] = start + step * k ∧ start + step * k < stop := by
  have he : (strideFrom step start stop)[k] = start + step * k := List.getElem_range' hk
  exact ⟨he, he ▸ lt_of_mem_strideFrom hs (List.getElem_mem hk)⟩

/-- A loop below `stop` that goes on to `n` only while `n` lies in the address space does what
the walk from `n` does: past the top there is nothing left below `stop` either. -/
theorem ite_lt_top_eq_forM {μ : Type → Type} [Monad μ] {f : Nat → μ Unit} {n : Nat} {k : μ Unit}
    (hstop : stop < 4294967296) (hk : k = (strideFrom step n stop).forM f) :
    (if n < 4294967296 then k else pure ()) = (strideFrom step n stop).forM f := by
  split
  · exact hk
  · rw [strideFrom_of_le (by omega)]
    rfl

end Stride

section Mappings

variable {d : PageDir} {m : PhysMem}

theorem printMappings_eq_forM {stop : Nat} (hstop : stop < 4294967296) (va : Nat) :
    printMappings d m stop va =
      (strideFrom 4096 va stop).forM fun v => Print.emitAll (mappingLine d m v.toUInt32) := by
  fun_induction printMappings d m stop va with
  | case1 va hlt ih =>
    rw [ite_lt_top_eq_forM hstop ih, strideFrom_of_lt (by omega) hlt, List.forM_eq_forM,
      List.forM_cons, ← List.forM_eq_forM]
  | case2 va hge =>
    rw [strideFrom_of_le (by omega)]
    rfl

end Mappings

section Words

variable {m : PhysMem}

/-- What `content p` does at the word at `pa`: print its line, with the address's alias in the
direct map and the word read little-endian from the bytes of memory; or, for a word that does
not lie in memory, stop with the error that names it. -/
def physWord (m : PhysMem) (pa : Nat) : Print Unit :=
  if pa + 4 ≤ m.size then
    Print.emitAll ["pa: 0x", hex pa, "\t va: 0x", hex ((pa + 0xF0000000) % 4294967296),
      "\t content:0x", hex (PhysMem.wordOf (m.byte pa) (m.byte (pa + 1)) (m.byte (pa + 2))
        (m.byte (pa + 3))).toNat, "\n"]
  else throw (.physOutOfRange pa.toUInt32)

variable {pa : Nat}

theorem physWord_of_read32?_none (hpa : pa < 4294967296) (h : m.read32? pa.toUInt32 = none) :
    physWord m pa = throw (.physOutOfRange pa.toUInt32) := by
  have hout : m.size < pa + 4 := by
    by_contra hle
    rw [PhysMem.read32?_of_le (by rw [toUInt32_toNat_of_lt hpa]; omega)] at h
    cases h
  rw [physWord, if_neg (by omega)]

theorem physWord_of_read32? {w : UInt32} (hpa : pa < 4294967296)
    (h : m.read32? pa.toUInt32 = some w) : physWord m pa = Print.emitAll (physLine pa w) := by
  obtain ⟨hin, rfl⟩ := PhysMem.read32?_eq_some_iff.mp h
  have hva : (pa.toUInt32 + kernelBase).toNat = (pa + 0xF0000000) % 4294967296 := by
    rw [UInt32.toNat_add, toUInt32_toNat_of_lt hpa]
    rfl
  rw [toUInt32_toNat_of_lt hpa] at hin ⊢
  rw [physWord, if_pos hin, physLine, hva]

theorem printPhys_eq_forM {stop : Nat} (hstop : stop < 4294967296) (pa : Nat) :
    printPhys m stop pa = (strideFrom 4 pa stop).forM (physWord m) := by
  fun_induction printPhys m stop pa with
  | case1 pa hlt hnone =>
    rw [strideFrom_of_lt (by omega) hlt, List.forM_eq_forM, List.forM_cons,
      physWord_of_read32?_none (by omega) hnone, Print.throw_bind]
  | case2 pa hlt w hw ih =>
    rw [ite_lt_top_eq_forM hstop ih, strideFrom_of_lt (by omega) hlt, List.forM_eq_forM,
      List.forM_cons, physWord_of_read32? (by omega) hw, ← List.forM_eq_forM]
  | case3 pa hge =>
    rw [strideFrom_of_le (by omega)]
    rfl

end Words

section Commands

variable (t : Target) (a b : String) {A B : UInt32}

/-- `showmappings start end`, for `0 < start ≤ end`, prints its header and then, for each page
address `start + 4096 * k` below `end` in increasing order, the mapping line of that page: its
frame and the PRESENT, WRITABLE and USER labels of its entry when the address resolves, and
`Page unmapped` when it does not. There are ⌈(end - start) / 4096⌉ lines and no address wraps
past the top of the address space. Words after the second are ignored, and memory is left as it
was. -/
theorem showmappings_lists_pages_in_strides (rest : List String) (hA : 0 < A) (hAB : A ≤ B)
    (ha : parseHex a = A) (hb : parseHex b = B) :
    showmappings t ("showmappings" :: a :: b :: rest) =
        (do
          Print.emit mappingHeader
          (strideFrom 4096 A.toNat B.toNat).forM
            fun va => Print.emitAll (mappingLine (PageDir.ofRoot t.root) t.mem va.toUInt32)
          pure .next) ∧
      (strideFrom 4096 A.toNat B.toNat).length = (B.toNat - A.toNat + 4095) / 4096 ∧
      (∀ k (hk : k < (strideFrom 4096 A.toNat B.toNat).length),
        (strideFrom 4096 A.toNat B.toNat)[k] = A.toNat + 4096 * k ∧
          A.toNat + 4096 * k < B.toNat) ∧
      ∀ setup p tf s,
        (Builtin.showmappings.run setup p t ("showmappings" :: a :: b :: rest) tf s).mem =
          t.mem := by
  have hr := parseRange_eq_ok ha hb (fun h0 => by simp [h0] at hA) hAB
  refine ⟨?_, by rw [length_strideFrom]; omega, fun k hk => getElem_strideFrom (by omega) hk,
    fun _ _ _ _ => (ofPrint_mem_tf _ _ _ _ _).1⟩
  simp only [showmappings, hr, Print.ofExcept, pure_bind]
  rw [printMappings_eq_forM B.toNat_lt]

/-- At the top of the address space: `showmappings fffff000 ffffffff` lists one page. -/
theorem showmappings_lists_top_page :
    let t : Target := ⟨PhysMem.blank 0x8000, 0x1000, 0⟩
    let A : UInt32 := 0xfffff000
    let B : UInt32 := 0xffffffff
    (0 < A ∧ A ≤ B ∧ parseHex "fffff000" = A ∧ parseHex "ffffffff" = B) ∧
    showmappings t ["showmappings", "fffff000", "ffffffff"] =
        (do
          Print.emit mappingHeader
          (strideFrom 4096 A.toNat B.toNat).forM
            fun va => Print.emitAll (mappingLine (PageDir.ofRoot t.root) t.mem va.toUInt32)
          pure .next) ∧
      (strideFrom 4096 A.toNat B.toNat).length = (B.toNat - A.toNat + 4095) / 4096 ∧
      (∀ k (hk : k < (strideFrom 4096 A.toNat B.toNat).length),
        (strideFrom 4096 A.toNat B.toNat)[k] = A.toNat + 4096 * k ∧
          A.toNat + 4096 * k < B.toNat) ∧
      ∀ setup p tf s,
        (Builtin.showmappings.run setup p t ["showmappings", "fffff000", "ffffffff"] tf s).mem =
          t.mem := by
  intro t A B
  have hyps : 0 < A ∧ A ≤ B ∧ parseHex "fffff000" = A ∧ parseHex "ffffffff" = B :=
    ⟨by decide, by decide, by decide, by decide⟩
  obtain ⟨hA, hAB, ha, hb⟩ := hyps
  exact ⟨⟨hA, hAB, ha, hb⟩, showmappings_lists_pages_in_strides t _ _ [] hA hAB ha hb⟩

/-- `content p start end`, for `0 < start ≤ end`, dumps the words at `start + 4 * k` below `end`
in increasing order: each line holds the address, its alias `address + 0xF0000000` in the direct
map, wrapped at the top of the address space, and the word of the four bytes from the address,
least significant first. There are ⌈(end - start) / 4⌉ words and no address wraps. The dump
stops, reporting the address outside physical memory, at the first word whose four bytes do not
all lie in memory. -/
theorem content_phys_dumps_words_in_strides (hA : 0 < A) (hAB : A ≤ B) (ha : parseHex a = A)
    (hb : parseHex b = B) :
    content t ["content", "p", a, b] =
        (do (strideFrom 4 A.toNat B.toNat).forM (physWord t.mem); pure .next) ∧
      (strideFrom 4 A.toNat B.toNat).length = (B.toNat - A.toNat + 3) / 4 ∧
      ∀ k (hk : k < (strideFrom 4 A.toNat B.toNat).length),
        (strideFrom 4 A.toNat B.toNat)[k] = A.toNat + 4 * k ∧ A.toNat + 4 * k < B.toNat := by
  have hr := parseRange_eq_ok ha hb (fun h0 => by simp [h0] at hA) hAB
  refine ⟨?_, by rw [length_strideFrom]; omega, fun k hk => getElem_strideFrom (by omega) hk⟩
  rw [content_phys hr, printPhys_eq_forM B.toNat_lt]

/-- Two frames of memory dumped from six bytes below their end to two bytes past it: the last
word lies in memory and the next one straddles its end. -/
theorem content_phys_dumps_end_of_memory :
    let t : Target := ⟨PhysMem.blank 2, 0x1000, 0⟩
    let A : UInt32 := 0x1ffa
    let B : UInt32 := 0x2002
    (0 < A ∧ A ≤ B ∧ parseHex "1ffa" = A ∧ parseHex "2002" = B) ∧
    content t ["content", "p", "1ffa", "2002"] =
        (do (strideFrom 4 A.toNat B.toNat).forM (physWord t.mem); pure .next) ∧
      (strideFrom 4 A.toNat B.toNat).length = (B.toNat - A.toNat + 3) / 4 ∧
      ∀ k (hk : k < (strideFrom 4 A.toNat B.toNat).length),
        (strideFrom 4 A.toNat B.toNat)[k] = A.toNat + 4 * k ∧ A.toNat + 4 * k < B.toNat := by
  intro t A B
  have hyps : 0 < A ∧ A ≤ B ∧ parseHex "1ffa" = A ∧ parseHex "2002" = B :=
    ⟨by decide, by decide, by decide, by decide⟩
  obtain ⟨hA, hAB, ha, hb⟩ := hyps
  exact ⟨⟨hA, hAB, ha, hb⟩, content_phys_dumps_words_in_strides t _ _ hA hAB ha hb⟩

end Commands

end KernelMonitor
