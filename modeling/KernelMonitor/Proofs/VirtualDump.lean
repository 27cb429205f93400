import KernelMonitor.Proofs.Content
import KernelMonitor.Proofs.VirtualRead

/-! # The virtual dump, word by word

`content v` walks a page at a time, but what it prints is the dump of one sequence of addresses:
four apart from `start` on its page, word-aligned on later pages, all below `end`. It stops at
the first unmapped page or unreadable word, and at the top of the address space.
-/

namespace KernelMonitor

open Text

/-- Whether a dump from `start` reads a word at `w`: on the page of `start` at the addresses four
apart from `start`, on every later page at the word-aligned ones. -/
def DumpsAt (start w : Nat) : Prop :=
  (w / 4096 = start / 4096 ∧ w % 4 = start % 4) ∨ (start / 4096 < w / 4096 ∧ w % 4 = 0)

instance (start w : Nat) : Decidable (DumpsAt start w) := inferInstanceAs (Decidable (_ ∨ _))

/-- The addresses `content v` dumps from `start` below `stop`, in increasing order. -/
def virtWords (start stop : Nat) : List Nat :=
  (List.range' start (stop - start)).filter fun w => DumpsAt start w

/-- What `content v` reports for a word of a mapped page that it cannot read: the physical
address of a word inside its page; for a word across the page end, the next page, as not found
or by the physical address it maps to. -/
def unreadable (d : PageDir) (m : PhysMem) (t : Mapping) : MonitorError :=
  if pageOffset t.va ≤ 0xffc then .physOutOfRange t.pa
  else
    let next := roundDown t.va pageSize + pageSize
    match d.resolve? m next with
    | none => .pageNotFound next
    | some t' => .physOutOfRange t'.pa

/-- The line of `content v` for the word `x` at `w`, whose page maps to the frame at `frame`. -/
def dumpLine (w : Nat) (frame x : UInt32) : List String :=
  ["va:0x", hex w, "\tpa:0x", hex (frame.toNat + w % 4096), "\tcontent:0x", hex x.toNat, "\n"]

/-- The line `content v` prints for the address `w`, or the error that ends the dump there: its
page is not mapped, or its word cannot be read. -/
def dumpWord (d : PageDir) (m : PhysMem) (w : Nat) : Print Unit :=
  match d.resolve? m w.toUInt32 with
  | none => throw (.pageNotFound w.toUInt32)
  | some t =>
    match d.read32? m w.toUInt32 with
    | none => throw (unreadable d m t)
    | some x => Print.emitAll (dumpLine w t.entry.frameAddr x)

section Words

theorem filter_range'_mod_four (a n : Nat) :
    (List.range' a n).filter (fun w => w % 4 = a % 4) = List.range' a ((n + 3) / 4) 4 := by
  induction n using Nat.strong_induction_on generalizing a with
  | _ n ih =>
    rcases Nat.lt_or_ge n 5 with hn | hn
    · -- at most one whole step: only the first address has the remainder
      interval_cases n <;> simp [List.range'_succ] <;> omega
    · have hsplit : List.range' a n = List.range' a 4 ++ List.range' (a + 4) (n - 4) := by
        rw [show a + 4 = a + 1 * 4 from rfl, List.range'_append]
        congr 1
        omega
      have hrest := ih (n - 4) (by omega) (a + 4)
      rw [show (a + 4) % 4 = a % 4 by omega] at hrest
      rw [hsplit, List.filter_append, hrest,
        show (n + 3) / 4 = (n - 4 + 3) / 4 + 1 by omega, List.range'_succ]
      simp [List.range'_succ]
      omega

variable {start stop : Nat}

theorem virtWords_of_le (h : stop ≤ start) : virtWords start stop = [] := by
  rw [virtWords, Nat.sub_eq_zero_of_le h, List.range'_zero, List.filter_nil]

theorem virtWords_of_lt (h : start < stop) :
    virtWords start stop =
      List.range' start ((min stop (start - start % 4096 + 4096) - start + 3) / 4) 4 ++
        virtWords (start - start % 4096 + 4096) stop := by
  set P := start - start % 4096 + 4096 with hP
  set c := min stop P with hc
  have hsplit : List.range' start (stop - start) =
      List.range' start (c - start) ++ List.range' c (stop - c) := by
    have happ := @List.range'_append start (c - start) (stop - c) 1
    rw [show start + 1 * (c - start) = c by omega,
      show c - start + (stop - c) = stop - start by omega] at happ
    exact happ.symm
  -- past the page of `start` the range is the one the next page starts, empty or not
  have hlater : List.range' c (stop - c) = List.range' P (stop - P) := by
    rcases Nat.le_total P stop with hPs | hsP
    · rw [show c = P by omega]
    · rw [Nat.sub_eq_zero_of_le (show stop ≤ c by omega), Nat.sub_eq_zero_of_le hsP,
        List.range'_zero, List.range'_zero]
  -- on the page of `start` the dump keeps the remainder of `start` by four
  have hfirst : (List.range' start (c - start)).filter (fun w => DumpsAt start w) =
      (List.range' start (c - start)).filter (fun w => w % 4 = start % 4) := by
    apply List.filter_congr
    intro w hw
    rw [List.mem_range'_1] at hw
    have hw' : DumpsAt start w ↔ w % 4 = start % 4 := by
      unfold DumpsAt
      omega
    rw [decide_eq_decide]
    exact hw'
  -- on later pages it keeps the word-aligned addresses, as a dump from the next page does
  have hrest : (List.range' P (stop - P)).filter (fun w => DumpsAt start w) =
      virtWords P stop := by
    unfold virtWords
    apply List.filter_congr
    intro w hw
    rw [List.mem_range'_1] at hw
    have hstart : DumpsAt start w ↔ w % 4 = 0 := by
      unfold DumpsAt
      omega
    have hnext : DumpsAt P w ↔ w % 4 = 0 := by
      unfold DumpsAt
      omega
    rw [decide_eq_decide]
    exact hstart.trans hnext.symm
  rw [virtWords, hsplit, List.filter_append, hlater, hfirst, hrest, filter_range'_mod_four]

/- On the page of `0x800ffa` the dump reads four apart from it; on the next page, the aligned
words. -/
example : virtWords 0x800ffa 0x801008 = [0x800ffa, 0x800ffe, 0x801000, 0x801004] := by
  decide

theorem virtWords_eq_cons (h : start < stop) : ∃ rest, virtWords start stop = start :: rest := by
  rw [virtWords_of_lt h,
    show (min stop (start - start % 4096 + 4096) - start + 3) / 4 =
      (min stop (start - start % 4096 + 4096) - start - 1) / 4 + 1 by omega,
    List.range'_succ]
  exact ⟨_, rfl⟩

end Words

section Page

variable {d : PageDir} {m : PhysMem}

theorem dumpWord_of_resolve?_none {w : Nat} (h : d.resolve? m w.toUInt32 = none) :
    dumpWord d m w = throw (.pageNotFound w.toUInt32) := by
  simp only [dumpWord, h]

theorem dumpWord_of_resolve? {w : Nat} {t : Mapping} (h : d.resolve? m w.toUInt32 = some t) :
    dumpWord d m w = Print.ofExcept (orFail (unreadable d m t) (d.read32? m w.toUInt32)) >>=
      fun x => Print.emitAll (dumpLine w t.entry.frameAddr x) := by
  simp only [dumpWord, h]
  rcases d.read32? m w.toUInt32 with _ | x
  · exact (Print.throw_bind _ _).symm
  · exact (Print.ofExcept_ok_bind _ _).symm

variable {P : Nat} {off : UInt32} {t : Mapping}

theorem pageWord_eq_orFail (hP : P % 4096 = 0) (hPtop : P + 4096 ≤ 4294967296)
    (hoff : off.toNat < 4096) (ht : d.resolve? m (P + off.toNat).toUInt32 = some t) :
    pageWord d m P.toUInt32 (t.entry.frameAddr + off) off =
      Print.ofExcept (orFail (unreadable d m t) (d.read32? m (P + off.toNat).toUInt32)) := by
  obtain ⟨hva, hpa⟩ := PageDir.pa_toNat_of_resolve? ht
  have hw : (P + off.toNat).toUInt32.toNat = P + off.toNat := toUInt32_toNat_of_lt (by omega)
  have hp : P.toUInt32.toNat = P := toUInt32_toNat_of_lt (by omega)
  have hpo : (pageOffset (P + off.toNat).toUInt32).toNat = off.toNat := by
    rw [pageOffset_toNat, hw]
    omega
  have hframe := t.entry.frameAddr_toNat_le
  by_cases hin : off ≤ 0xffc
  · have hle : pageOffset (P + off.toNat).toUInt32 ≤ 0xffc := UInt32.le_iff_toNat_le.mpr (by
      rw [hpo]
      exact UInt32.le_iff_toNat_le.mp hin)
    have hsum : t.entry.frameAddr + off = t.pa := by
      apply UInt32.toNat_inj.mp
      rw [hpa, UInt32.toNat_add, hw]
      omega
    rw [pageWord, if_pos hin, hsum, PageDir.read32?_of_resolve? ht hle, unreadable,
      if_pos (by rw [hva]; exact hle)]
    rcases m.read32? t.pa with _ | x <;> rfl
  · -- across the page end both read through the tables and blame the next page
    have hsum : P.toUInt32 + off = (P + off.toNat).toUInt32 := by
      apply UInt32.toNat_inj.mp
      rw [UInt32.toNat_add, hp, hw]
      omega
    have hround : roundDown t.va pageSize = P.toUInt32 := by
      apply UInt32.toNat_inj.mp
      rw [hva, roundDown_pageSize_toNat, hw, hp]
      omega
    have hlt : ¬ pageOffset t.va ≤ 0xffc := by
      rw [hva, UInt32.le_iff_toNat_le, hpo]
      exact fun h => hin (UInt32.le_iff_toNat_le.mpr h)
    rw [pageWord, if_neg hin, readAcross, addExact_eq_ok (by rw [hp]; omega), exact_ok_bind, hsum,
      unreadable, if_neg hlt, hround]
    rcases d.read32? m (P + off.toNat).toUInt32 with _ | x
    · dsimp only
      rcases d.resolve? m (P.toUInt32 + pageSize) with _ | t' <;> rfl
    · rfl

theorem virtLine_eq_dumpLine (hP : P % 4096 = 0) (hPtop : P + 4096 ≤ 4294967296)
    (hoff : off.toNat < 4096) (e : Entry) (x : UInt32) :
    virtLine (P.toUInt32 + off) (e.frameAddr + off) x = dumpLine (P + off.toNat) e.frameAddr x := by
  have hframe := e.frameAddr_toNat_le
  have hva : (P.toUInt32 + off).toNat = P + off.toNat := by
    rw [UInt32.toNat_add, toUInt32_toNat_of_lt (by omega)]
    omega
  have hpa : (e.frameAddr + off).toNat = e.frameAddr.toNat + (P + off.toNat) % 4096 := by
    rw [UInt32.toNat_add]
    omega
  rw [virtLine, dumpLine, hva, hpa]

theorem pageStep_eq_dumpWord (hP : P % 4096 = 0) (hPtop : P + 4096 ≤ 4294967296)
    (hoff : off.toNat < 4096) (ht : d.resolve? m (P + off.toNat).toUInt32 = some t)
    (k : Unit → Print Unit) :
    (Print.exact (addExact t.entry.frameAddr off) >>= fun pa =>
      pageWord d m P.toUInt32 pa off >>= fun w =>
        Print.exact (addExact P.toUInt32 off) >>= fun va =>
          Print.emitAll (virtLine va pa w) >>= k) = dumpWord d m (P + off.toNat) >>= k := by
  have hframe := t.entry.frameAddr_toNat_le
  have hp : P.toUInt32.toNat = P := toUInt32_toNat_of_lt (by omega)
  rw [addExact_eq_ok (show t.entry.frameAddr.toNat + off.toNat < _ by omega), exact_ok_bind,
    addExact_eq_ok (show P.toUInt32.toNat + off.toNat < _ by omega)]
  simp only [exact_ok_bind]
  rw [pageWord_eq_orFail hP hPtop hoff ht, dumpWord_of_resolve? ht, bind_assoc]
  simp only [virtLine_eq_dumpLine hP hPtop hoff]

variable {e : Entry}

/-- The words of a page that maps through `e`, from offset `off` on and below `last`, are the
dump's words at the addresses four apart from `P + off`. -/
theorem printPage_eq_forM (hP : P % 4096 = 0) (hPtop : P + 4096 ≤ 4294967296)
    (he : ∀ off < 4096, ∃ t, d.resolve? m (P + off).toUInt32 = some t ∧ t.entry = e)
    {last : UInt32} (hlast : last.toNat ≤ 4096) (off : UInt32) :
    printPage d m P.toUInt32 e.frameAddr last off =
      (List.range' (P + off.toNat) ((last.toNat - off.toNat + 3) / 4) 4).forM (dumpWord d m) := by
  induction h : last.toNat - off.toNat using Nat.strong_induction_on generalizing off with
  | _ n ih =>
    by_cases hs : off < last
    · have hs' := UInt32.lt_iff_toNat_lt.mp hs
      obtain ⟨t, ht, rfl⟩ := he off.toNat (by omega)
      have hfour : (off + 4).toNat = off.toNat + 4 := by
        rw [UInt32.toNat_add]
        change (off.toNat + 4) % 4294967296 = _
        omega
      have hrest := ih _ (by omega) (off + 4) rfl
      rw [printPage_of_lt hs (by omega), hrest, pageStep_eq_dumpWord hP hPtop (by omega) ht,
        show (n + 3) / 4 = (last.toNat - (off + 4).toNat + 3) / 4 + 1 by omega,
        List.range'_succ, List.forM_eq_forM, List.forM_cons, hfour, Nat.add_assoc,
        ← List.forM_eq_forM]
    · rw [printPage_of_le (UInt32.not_lt.mp hs), show (n + 3) / 4 = 0 by
        have := UInt32.le_iff_toNat_le.mp (UInt32.not_lt.mp hs)
        omega, List.range'_zero]
      rfl

end Page

section Dump

variable {d : PageDir} {m : PhysMem}

/-- The virtual dump from `va` below `stop` prints, word for word, the dump's lines for
`virtWords va stop`, and stops where one of them fails. -/
theorem printVirt_eq_forM {stop : Nat} (hstop : stop < 4294967296) (va : Nat) :
    printVirt d m stop va = (virtWords va stop).forM (dumpWord d m) := by
  fun_induction printVirt d m stop va with
  | case1 va hlt hnone =>
    obtain ⟨rest, hw⟩ := virtWords_eq_cons hlt
    rw [hw, List.forM_eq_forM, List.forM_cons, dumpWord_of_resolve?_none hnone, Print.throw_bind]
  | case2 va hlt t ht page last ih =>
    -- the page of `va` is printed through the entry that maps `va`, then the later pages
    have hpage : ∀ off < 4096, ∃ t', d.resolve? m (page + off).toUInt32 = some t' ∧
        t'.entry = t.entry := by
      intro off hoff
      have hnum : pageNumber (page + off).toUInt32 = pageNumber va.toUInt32 := by
        apply UInt32.toNat_inj.mp
        rw [pageNumber_toNat, pageNumber_toNat, toUInt32_toNat_of_lt (by omega),
          toUInt32_toNat_of_lt (by omega)]
        omega
      have he : (d.resolve? m (page + off).toUInt32).map (·.entry) =
          (d.resolve? m va.toUInt32).map (·.entry) :=
        PageDir.resolve?_entry_of_pageNumber_eq hnum
      rw [ht, Option.map_some] at he
      exact Option.map_eq_some_iff.mp he
    have hcount : (last - va % 4096 + 3) / 4 =
        (min stop (va - va % 4096 + 4096) - va + 3) / 4 := by
      simp only [last]
      split <;> omega
    have hnext : (if va - va % 4096 + 4096 < 4294967296 then
          printVirt d m stop (va - va % 4096 + 4096) else pure ()) =
        (virtWords (va - va % 4096 + 4096) stop).forM (dumpWord d m) := by
      split
      · exact ih
      · rw [virtWords_of_le (by omega)]
        rfl
    have hl : last.toUInt32.toNat = last := toUInt32_toNat_of_lt (by simp only [last]; split <;> omega)
    have ho : (va % 4096).toUInt32.toNat = va % 4096 := toUInt32_toNat_of_lt (by omega)
    rw [printPage_eq_forM (by omega) (by omega) hpage (by rw [hl]; simp only [last]; split <;> omega),
      hl, ho, show page + va % 4096 = va by omega, hcount, virtWords_of_lt hlt, hnext]
    simp only [List.forM_eq_forM, List.forM_append]
  | case3 va hge =>
    rw [virtWords_of_le (by omega)]
    rfl

end Dump

/-- `content v start end` prints, for each address of `virtWords start end` in increasing order,
the address, the frame its page maps to plus its page offset, and the word read through the page
tables there. It stops at the first of them whose page is not mapped, naming that address, or
whose word cannot be read, and prints nothing after; past the last page of the address space
there is nothing more to dump. -/
theorem content_virt_dumps_word_sequence (t : Target) (a b : String) {A B : UInt32}
    (h : parseRange a b = .ok (A, B)) :
    content t ["content", "v", a, b] =
      (do (virtWords A.toNat B.toNat).forM (dumpWord (PageDir.ofRoot t.root) t.mem); pure .next) := by
  rw [content_virt h, printVirt_eq_forM B.toNat_lt]

/-- Pages `0x800000` and `0x801000` mapped to frames `0x300` and `0x400`: the dump of
`[0x800ff8, 0x801008)` runs across the page boundary. -/
theorem content_virt_dumps_two_pages :
    let t : Target := ⟨⟨0x8000, [.word 0x400000 0xcccccccc, .word 0x300ffc 0xbbbbbbbb,
      .word 0x300ff8 0xaaaaaaaa, .word 0x7000004 0x400003, .word 0x7000000 0x300003,
      .word 0x1008 0x7000007]⟩, 0x1000, 0⟩
    let dump := dumpWord (PageDir.ofRoot t.root) t.mem
    parseRange "800ff8" "801008" = .ok (0x800ff8, 0x801008) ∧
      content t ["content", "v", "800ff8", "801008"] =
        (do (virtWords 0x800ff8 0x801008).forM dump; pure .next) := by
  intro t dump
  have h : parseRange "800ff8" "801008" = .ok (0x800ff8, 0x801008) := by rfl
  exact ⟨h, content_virt_dumps_word_sequence t _ _ h⟩

end KernelMonitor
