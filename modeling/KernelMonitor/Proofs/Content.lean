import KernelMonitor.Proofs.Output
import KernelMonitor.Proofs.Paging

/-! # The two dumps agree on the direct map

Where the direct map sends every page of a range to the frame of the same number, `content p`
over a word-aligned range and `content v` over its direct-map image print the same words, read
from the same physical addresses, and stop at the same word outside memory.
-/

namespace KernelMonitor

open Text

/-- The line of `content p` for the word `w` at `pa`: the address, its direct-map address and
the word. -/
def physRow (pa w : UInt32) : List String :=
  ["pa: 0x", hex pa.toNat, "\t va: 0x", hex (pa + kernelBase).toNat, "\t content:0x", hex w.toNat,
   "\n"]

/-- The line of `content v` for the word `w` at `pa`, seen at its direct-map address. -/
def virtRow (pa w : UInt32) : List String :=
  ["va:0x", hex (pa + kernelBase).toNat, "\tpa:0x", hex pa.toNat, "\tcontent:0x", hex w.toNat, "\n"]

/-- Prints a line for each word of physical memory from `pa` on, four bytes apart, below
`stop`, and stops at the first word outside memory. -/
def dumpWords (row : UInt32 → UInt32 → List String) (m : PhysMem) (stop pa : Nat) :
    Print Unit :=
  if pa < stop then
    match m.read32? pa.toUInt32 with
    | none => throw (.physOutOfRange pa.toUInt32)
    | some w => do
      Print.emitAll (row pa.toUInt32 w)
      dumpWords row m stop (pa + 4)
  else pure ()
termination_by stop - pa

section Dump

variable {row : UInt32 → UInt32 → List String} {m : PhysMem}

theorem dumpWords_of_le {stop pa : Nat} (h : stop ≤ pa) : dumpWords row m stop pa = pure () := by
  rw [dumpWords, if_neg (by omega)]

theorem dumpWords_of_lt {stop pa : Nat} (h : pa < stop) :
    dumpWords row m stop pa =
      (match m.read32? pa.toUInt32 with
      | none => throw (.physOutOfRange pa.toUInt32)
      | some w => do
        Print.emitAll (row pa.toUInt32 w)
        dumpWords row m stop (pa + 4)) := by
  rw [dumpWords, if_pos h]

theorem dumpWords_split {stop pa q : Nat} (hpa : pa % 4 = 0) (hq : q % 4 = 0) (hle : pa ≤ q) :
    dumpWords row m stop pa =
      dumpWords row m (min stop q) pa >>= fun _ => dumpWords row m stop q := by
  induction h : q - pa using Nat.strong_induction_on generalizing pa with
  | _ n ih =>
    by_cases hs : pa < min stop q
    · rw [dumpWords_of_lt (show pa < stop by omega), dumpWords_of_lt hs]
      rcases m.read32? pa.toUInt32 with _ | w
      · exact (Print.throw_bind _ _).symm
      · simp only [bind_assoc]
        congr 1
        funext _
        exact ih (q - (pa + 4)) (by omega) (by omega) (by omega) rfl
    · rw [dumpWords_of_le (show min stop q ≤ pa by omega), pure_bind]
      by_cases hq' : stop ≤ q
      · rw [dumpWords_of_le (show stop ≤ pa by omega), dumpWords_of_le hq']
      · have : pa = q := by omega
        rw [this]

end Dump

section Direct

variable {d : PageDir} {m : PhysMem}

theorem printPhys_eq_dumpWords {stop : Nat} (hstop : stop ≤ 4294967292) (pa : Nat) :
    printPhys m stop pa = dumpWords physRow m stop pa := by
  induction h : stop - pa using Nat.strong_induction_on generalizing pa with
  | _ n ih =>
    by_cases hs : pa < stop
    · rw [printPhys, if_pos hs, dumpWords_of_lt hs]
      rcases m.read32? pa.toUInt32 with _ | w
      · rfl
      · have hrow : physLine pa w = physRow pa.toUInt32 w := by
          simp only [physLine, physRow, toUInt32_toNat_of_lt (show pa < 4294967296 by omega)]
        simp only [hrow, if_pos (show pa + 4 < 4294967296 by omega)]
        congr 1
        funext _
        exact ih (stop - (pa + 4)) (by omega) (pa + 4) rfl
    · rw [printPhys, if_neg hs, dumpWords_of_le (by omega)]

theorem exact_ok_bind {α β : Type} (a : α) (k : α → Print β) : Print.exact (.ok a) >>= k = k a :=
  pure_bind a k

theorem printPage_of_lt {page frame last off : UInt32} (hoff : off < last)
    (h4 : off.toNat + 4 < 4294967296) :
    printPage d m page frame last off =
      (Print.exact (addExact frame off) >>= fun pa => pageWord d m page pa off >>= fun w =>
        Print.exact (addExact page off) >>= fun va => Print.emitAll (virtLine va pa w) >>= fun _ =>
          printPage d m page frame last (off + 4)) := by
  rw [printPage, dif_pos hoff]
  refine congrArg (_ >>= ·) (funext fun pa => congrArg (_ >>= ·) (funext fun w =>
    congrArg (_ >>= ·) (funext fun va =>
      congrArg (Print.emitAll (virtLine va pa w) >>= ·) (funext fun _ => ?_))))
  split
  · rename_i next h
    rw [addExact_eq_ok h4] at h
    cases h
    rfl
  · rename_i h
    rw [addExact_eq_ok h4] at h
    cases h

theorem printPage_of_le {page frame last off : UInt32} (hoff : last ≤ off) :
    printPage d m page frame last off = pure () := by
  rw [printPage, dif_neg (by simpa using hoff)]

/-- The page at the direct-map address of frame `F` is dumped as the words of `F`: every offset
of a word-aligned walk stays below the last whole word of the page, so each word is one
physical read. -/
theorem printPage_direct {F last : UInt32} (hF : F.toNat + 0xF0001000 ≤ 4294967296)
    (hlast : last.toNat ≤ 4096) (off : UInt32) (hoff : off.toNat % 4 = 0) :
    printPage d m (F + kernelBase) F last off =
      dumpWords virtRow m (F.toNat + last.toNat) (F.toNat + off.toNat) := by
  induction h : last.toNat - off.toNat using Nat.strong_induction_on generalizing off with
  | _ n ih =>
    by_cases hs : off < last
    · have hs' := UInt32.lt_iff_toNat_lt.mp hs
      have hk : kernelBase.toNat = 0xF0000000 := rfl
      have hpa : (F.toNat + off.toNat).toUInt32 = F + off := by
        apply UInt32.toNat_inj.mp
        rw [toUInt32_toNat_of_lt (by omega), UInt32.toNat_add]
        omega
      have hfour : (off + 4).toNat = off.toNat + 4 := by
        rw [UInt32.toNat_add]
        change (off.toNat + 4) % 4294967296 = _
        omega
      -- both sums are exact: the frame and its direct-map page lie a page below the top
      have hsum : addExact F off = .ok (F + off) := addExact_eq_ok (by omega)
      have hsum' : addExact (F + kernelBase) off = .ok (F + off + kernelBase) := by
        rw [addExact_eq_ok (by rw [UInt32.toNat_add, hk]; omega), UInt32.add_assoc,
          UInt32.add_comm kernelBase, ← UInt32.add_assoc]
      have hword : pageWord d m (F + kernelBase) (F + off) off =
          Print.ofExcept (orFail (.physOutOfRange (F + off)) (m.read32? (F + off))) := by
        rw [pageWord, if_pos (UInt32.le_iff_toNat_le.mpr (by change _ ≤ 4092; omega))]
        rcases m.read32? (F + off) with _ | w <;> rfl
      rw [printPage_of_lt hs (by omega), dumpWords_of_lt (by omega), hpa, hsum, exact_ok_bind,
        hword]
      simp only [hsum', exact_ok_bind]
      rcases m.read32? (F + off) with _ | w
      · exact Print.throw_bind _ _
      · rw [orFail, Print.ofExcept_ok_bind]
        congr 1
        funext _
        rw [ih (last.toNat - (off + 4).toNat) (by omega) (off + 4) (by omega) rfl, hfour,
          Nat.add_assoc]
    · rw [printPage_of_le (by simpa using hs), dumpWords_of_le (by
        have := UInt32.le_iff_toNat_le.mp (UInt32.not_lt.mp hs)
        omega)]

theorem printVirt_direct {lo stop : Nat} (hstop : stop ≤ 0x0fffffff)
    (hmap : ∀ P, P % 4096 = 0 → P < stop → lo < P + 4096 →
      ∃ t, d.resolve? m (P + 0xF0000000).toUInt32 = some t ∧ t.entry.frameAddr.toNat = P)
    (pa : Nat) (h4 : pa % 4 = 0) (hlo : lo ≤ pa) :
    printVirt d m (stop + 0xF0000000) (pa + 0xF0000000) = dumpWords virtRow m stop pa := by
  induction h : stop - pa using Nat.strong_induction_on generalizing pa with
  | _ n ih =>
    by_cases hs : pa < stop
    · obtain ⟨t, ht, hframe⟩ := hmap (pa - pa % 4096) (by omega) (by omega) (by omega)
      have hpage : pageNumber (pa + 0xF0000000).toUInt32 =
          pageNumber (pa - pa % 4096 + 0xF0000000).toUInt32 := by
        apply UInt32.toNat_inj.mp
        rw [pageNumber_toNat, pageNumber_toNat, toUInt32_toNat_of_lt (by omega),
          toUInt32_toNat_of_lt (by omega)]
        omega
      have he : (d.resolve? m (pa + 0xF0000000).toUInt32).map (·.entry) = some t.entry := by
        rw [PageDir.resolve?_entry_of_pageNumber_eq hpage, ht]
        rfl
      obtain ⟨t', ht', hentry⟩ := Option.map_eq_some_iff.mp he
      have hfr : t'.entry.frameAddr.toNat = pa - pa % 4096 := by rw [hentry]; exact hframe
      rw [printVirt, if_pos (by omega), ht']
      dsimp only
      have hpg : pa + 0xF0000000 - (pa + 0xF0000000) % 4096 = pa - pa % 4096 + 0xF0000000 := by
        omega
      have hoff : (pa + 0xF0000000) % 4096 = pa % 4096 := by omega
      have hV : (pa - pa % 4096 + 0xF0000000).toUInt32 = t'.entry.frameAddr + kernelBase := by
        apply UInt32.toNat_inj.mp
        have hk : kernelBase.toNat = 0xF0000000 := rfl
        rw [toUInt32_toNat_of_lt (by omega), UInt32.toNat_add, hfr, hk]
        omega
      have hnext : (if pa - pa % 4096 + 0xF0000000 + 4096 < 4294967296 then
            printVirt d m (stop + 0xF0000000) (pa - pa % 4096 + 0xF0000000 + 4096)
          else pure ()) = dumpWords virtRow m stop (pa - pa % 4096 + 4096) := by
        split
        · rw [show pa - pa % 4096 + 0xF0000000 + 4096 = pa - pa % 4096 + 4096 + 0xF0000000 by
            omega]
          exact ih _ (by omega) _ (by omega) (by omega) rfl
        · rw [dumpWords_of_le (by omega)]
      -- the page's words end at `stop` on the page of `stop`, and at the page's end before it
      have hlast : pa - pa % 4096 + (if (pa + 0xF0000000) / 4096 = (stop + 0xF0000000) / 4096 then
          (stop + 0xF0000000) % 4096 else 4096) = min stop (pa - pa % 4096 + 4096) := by
        split <;> omega
      have hF : t'.entry.frameAddr.toNat + 0xF0001000 ≤ 4294967296 := by omega
      have hl : (if (pa + 0xF0000000) / 4096 = (stop + 0xF0000000) / 4096 then
          (stop + 0xF0000000) % 4096 else 4096).toUInt32.toNat =
          if (pa + 0xF0000000) / 4096 = (stop + 0xF0000000) / 4096 then
            (stop + 0xF0000000) % 4096 else 4096 :=
        toUInt32_toNat_of_lt (by split <;> omega)
      have ho : (pa % 4096).toUInt32.toNat = pa % 4096 := toUInt32_toNat_of_lt (by omega)
      rw [hpg, hoff, hV, printPage_direct hF (by rw [hl]; split <;> omega) _ (by rw [ho]; omega),
        hnext, hfr, hl, ho, hlast, show pa - pa % 4096 + pa % 4096 = pa by omega]
      exact (dumpWords_split h4 (by omega) (by omega)).symm
    · rw [printVirt, if_neg (by omega), dumpWords_of_le (by omega)]

end Direct

section Command

variable {t : Target} {a b : String} {A B : UInt32}

theorem parseRange_eq_ok (ha : parseHex a = A) (hb : parseHex b = B) (hA : A ≠ 0) (hAB : A ≤ B) :
    parseRange a b = .ok (A, B) := by
  have hB : B ≠ 0 := by
    rintro rfl
    exact hA (UInt32.le_zero_iff.mp hAB)
  simp [parseRange, parseNonzeroHex?, ha, hb, hAB]

theorem content_phys (h : parseRange a b = .ok (A, B)) :
    content t ["content", "p", a, b] = (do printPhys t.mem B.toNat A.toNat; pure .next) := by
  simp [content, h, Print.ofExcept]

theorem content_virt (h : parseRange a b = .ok (A, B)) :
    content t ["content", "v", a, b] =
      (do printVirt (PageDir.ofRoot t.root) t.mem B.toNat A.toNat; pure .next) := by
  simp [content, h, Print.ofExcept]

end Command

section DirectMap

variable {m : PhysMem} {root A B : UInt32}

theorem toNat_add_kernelBase {x : UInt32} (h : x ≤ 0x0fffffff) :
    (x + kernelBase).toNat = x.toNat + 0xF0000000 := by
  have hx : x.toNat ≤ 0x0fffffff := UInt32.le_iff_toNat_le.mp h
  have hk : kernelBase.toNat = 0xF0000000 := rfl
  rw [UInt32.toNat_add, hk]
  omega

theorem direct_map_pages_toNat (hB : B ≤ 0x0fffffff)
    (hmap : ∀ P : UInt32, pageOffset P = 0 → P < B → A.toNat < P.toNat + 4096 →
      ∃ t, (PageDir.ofRoot root).resolve? m (P + kernelBase) = some t ∧ t.entry.frameAddr = P) :
    ∀ P, P % 4096 = 0 → P < B.toNat → A.toNat < P + 4096 →
      ∃ t, (PageDir.ofRoot root).resolve? m (P + 0xF0000000).toUInt32 = some t ∧
        t.entry.frameAddr.toNat = P := by
  intro P hP hPB hAP
  have hBn : B.toNat ≤ 0x0fffffff := UInt32.le_iff_toNat_le.mp hB
  have hPn : P.toUInt32.toNat = P := toUInt32_toNat_of_lt (by omega)
  obtain ⟨t, ht, hf⟩ := hmap P.toUInt32
    (UInt32.toNat_inj.mp (by rw [pageOffset_toNat, hPn, hP]; rfl))
    (UInt32.lt_iff_toNat_lt.mpr (by omega)) (by omega)
  have hPk : (P + 0xF0000000).toUInt32 = P.toUInt32 + kernelBase := by
    apply UInt32.toNat_inj.mp
    have hP' : P.toUInt32 ≤ 0x0fffffff :=
      UInt32.le_iff_toNat_le.mpr (by rw [hPn]; change P ≤ 268435455; omega)
    rw [toUInt32_toNat_of_lt (by omega), toNat_add_kernelBase hP', hPn]
  exact ⟨t, by rw [hPk, ht], by rw [hf, hPn]⟩

end DirectMap

/-- On the direct map, `content p A B` and `content v` of the direct-map image of `[A, B)` dump
alike, for a word-aligned `A` and `0 < A ≤ B < 0x10000000`: line for line the same word from the
same physical and virtual address, in the same number of lines, and they stop at the same word
outside memory with the same error. Each page that meets `[A, B)` must be mapped at its
direct-map address to the frame of its own address. -/
theorem content_views_agree_on_direct_map (m : PhysMem) (root ebp A B : UInt32)
    (a b a' b' : String) (hA : 0 < A) (hAB : A ≤ B) (hB : B ≤ 0x0fffffff) (h4 : A % 4 = 0)
    (ha : parseHex a = A) (hb : parseHex b = B)
    (ha' : parseHex a' = A + kernelBase) (hb' : parseHex b' = B + kernelBase)
    (hmap : ∀ P : UInt32, pageOffset P = 0 → P < B → A.toNat < P.toNat + 4096 →
      ∃ t, (PageDir.ofRoot root).resolve? m (P + kernelBase) = some t ∧ t.entry.frameAddr = P) :
    content ⟨m, root, ebp⟩ ["content", "p", a, b] =
        (do dumpWords physRow m B.toNat A.toNat; pure .next) ∧
      content ⟨m, root, ebp⟩ ["content", "v", a', b'] =
        (do dumpWords virtRow m B.toNat A.toNat; pure .next) := by
  have hAn : A.toNat ≤ B.toNat := UInt32.le_iff_toNat_le.mp hAB
  have hBn : B.toNat ≤ 0x0fffffff := UInt32.le_iff_toNat_le.mp hB
  have hA0 : A ≠ 0 := fun h0 => by simp [h0] at hA
  have h4n : A.toNat % 4 = 0 := by
    have := congrArg UInt32.toNat h4
    rwa [UInt32.toNat_mod] at this
  have hAk := toNat_add_kernelBase (UInt32.le_trans hAB hB)
  have hBk := toNat_add_kernelBase hB
  constructor
  · rw [content_phys (parseRange_eq_ok ha hb hA0 hAB), printPhys_eq_dumpWords (by omega)]
  · have hAk0 : A + kernelBase ≠ 0 := fun h0 => by
      have := congrArg UInt32.toNat h0
      rw [hAk] at this
      simp at this
    have hABk : A + kernelBase ≤ B + kernelBase := by
      rw [UInt32.le_iff_toNat_le, hAk, hBk]
      omega
    rw [content_virt (parseRange_eq_ok ha' hb' hAk0 hABk), hAk, hBk,
      printVirt_direct hBn (direct_map_pages_toNat hB hmap) A.toNat h4n le_rfl]

/-- Two pages of physical memory from `0x200000`, mapped at their direct-map addresses through
one page table at frame `0x7000`, dumped across the page boundary. -/
theorem content_views_agree_on_two_pages :
    let m : PhysMem :=
      ⟨0x8000, [.word 0x7000804 0x201003, .word 0x7000800 0x200003, .word 0x1f00 0x7000007]⟩
    let A : UInt32 := 0x200ff0
    let B : UInt32 := 0x201010
    (0 < A ∧ A ≤ B ∧ B ≤ 0x0fffffff ∧ A % 4 = 0 ∧
      parseHex "200ff0" = A ∧ parseHex "201010" = B ∧
      parseHex "f0200ff0" = A + kernelBase ∧ parseHex "f0201010" = B + kernelBase ∧
      ∀ P : UInt32, pageOffset P = 0 → P < B → A.toNat < P.toNat + 4096 →
        ∃ t, (PageDir.ofRoot 0x1000).resolve? m (P + kernelBase) = some t ∧
          t.entry.frameAddr = P) ∧
    content ⟨m, 0x1000, 0⟩ ["content", "p", "200ff0", "201010"] =
        (do dumpWords physRow m B.toNat A.toNat; pure .next) ∧
      content ⟨m, 0x1000, 0⟩ ["content", "v", "f0200ff0", "f0201010"] =
        (do dumpWords virtRow m B.toNat A.toNat; pure .next) := by
  intro m A B
  have hmap : ∀ P : UInt32, pageOffset P = 0 → P < B → A.toNat < P.toNat + 4096 →
      ∃ t, (PageDir.ofRoot 0x1000).resolve? m (P + kernelBase) = some t ∧
        t.entry.frameAddr = P := by
    intro P h0 hPB hAP
    have hoff := pageOffset_toNat P
    rw [h0] at hoff
    have hlt := UInt32.lt_iff_toNat_lt.mp hPB
    have hP : P.toNat = 0x200000 ∨ P.toNat = 0x201000 := by
      have hA : A.toNat = 0x200ff0 := rfl
      have hB : B.toNat = 0x201010 := rfl
      rw [hA] at hAP
      rw [hB] at hlt
      simp only [UInt32.toNat_zero] at hoff
      omega
    rcases hP with h | h
    · rw [UInt32.toNat_inj.mp (h.trans rfl : P.toNat = (0x200000 : UInt32).toNat)]
      exact ⟨⟨0xF0200000, ⟨0x200003⟩, 0x200000⟩, by decide, by decide⟩
    · rw [UInt32.toNat_inj.mp (h.trans rfl : P.toNat = (0x201000 : UInt32).toNat)]
      exact ⟨⟨0xF0201000, ⟨0x201003⟩, 0x201000⟩, by decide, by decide⟩
  have hyps : 0 < A ∧ A ≤ B ∧ B ≤ 0x0fffffff ∧ A % 4 = 0 ∧
      parseHex "200ff0" = A ∧ parseHex "201010" = B ∧
      parseHex "f0200ff0" = A + kernelBase ∧ parseHex "f0201010" = B + kernelBase :=
    ⟨by decide, by decide, by decide, by decide, by decide, by decide, by decide, by decide⟩
  obtain ⟨hA, hAB, hB, h4, ha, hb, ha', hb'⟩ := hyps
  exact ⟨⟨hA, hAB, hB, h4, ha, hb, ha', hb', hmap⟩,
    content_views_agree_on_direct_map m 0x1000 0 A B _ _ _ _ hA hAB hB h4 ha hb ha' hb' hmap⟩

end KernelMonitor
