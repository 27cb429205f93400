import KernelMonitor.Proofs.VirtualDump

/-! # What a stopped dump reports

Every error `content p` stops with names a word outside memory. `content v` names the word it
stops at, or its physical address, except that a word across a page end is blamed on the next
page; that blame is right unless the next page holds none of its bytes or starts inside memory.
-/

namespace KernelMonitor

namespace Print

variable {α β γ : Type} {P Q : MonitorError → Prop}

/-- Every run of `x` that fails for a reason other than the console's fails with an error
satisfying `P`, whatever the console takes. -/
def Raises (x : Print α) (P : MonitorError → Prop) : Prop :=
  ∀ p s e s', x.exec p s = .ok (.error e, s') → e ≠ .console → P e

theorem raises_pure (a : α) : (pure a : Print α).Raises P := by
  intro p s e s' hx
  cases hx

theorem raises_throw {e : MonitorError} (h : P e) : (throw e : Print α).Raises P := by
  intro p s e' s' hx _
  cases hx
  exact h

theorem raises_emitAll (pieces : List String) : (emitAll pieces).Raises P := by
  intro p s e s' hx hc
  rcases exec_emitAll pieces p s with h | h <;> rw [h] at hx <;> cases hx
  exact absurd rfl hc

theorem raises_bind {x : Print α} {f : α → Print β} (hx : x.Raises P)
    (hf : ∀ a, (f a).Raises P) : (x >>= f).Raises P := by
  intro p s e s' h hc
  rw [exec_bind] at h
  rcases hr : x.exec p s with _ | ⟨r, s''⟩
  · rw [hr] at h
    cases h
  · rw [hr] at h
    cases r with
    | error e' =>
      cases h
      exact hx p s _ _ hr hc
    | ok a => exact hf a p s'' e s' h hc

theorem raises_mono {x : Print α} (hx : x.Raises P) (h : ∀ e, P e → Q e) : x.Raises Q :=
  fun p s e s' hr hc => h e (hx p s e s' hr hc)

theorem raises_forM {f : γ → Print Unit} (xs : List γ) (hf : ∀ a ∈ xs, (f a).Raises P) :
    (xs.forM f).Raises P := by
  induction xs with
  | nil => exact raises_pure ()
  | cons a as ih =>
    exact raises_bind (hf a List.mem_cons_self) fun _ =>
      ih fun b hb => hf b (List.mem_cons_of_mem a hb)

end Print

/-- What the error that stops a dump of the words `ws` says about memory and the page tables:
an address reported outside memory lies outside it, and a page reported missing is unmapped
and holds a byte of one of the words. -/
def NamesCause (d : PageDir) (m : PhysMem) (ws : List Nat) : MonitorError → Prop
  | .physOutOfRange pa => m.size < pa.toNat + 4
  | .pageNotFound va =>
    d.resolve? m va = none ∧ ∃ w ∈ ws, w ≤ va.toNat ∧ va.toNat ≤ w + 3
  | _ => True

instance (d : PageDir) (m : PhysMem) (ws : List Nat) : DecidablePred (NamesCause d m ws)
  | .physOutOfRange pa => inferInstanceAs (Decidable (m.size < pa.toNat + 4))
  | .pageNotFound va =>
    inferInstanceAs
      (Decidable (d.resolve? m va = none ∧ ∃ w ∈ ws, w ≤ va.toNat ∧ va.toNat ≤ w + 3))
  | .notEnoughArguments | .invalidArguments | .invalidParameterCount | .tooManyArguments _
  | .illegalRange | .illegalAddress | .invalidPermission _ | .invalidOperation | .invalidType
  | .stackUnreadable _ | .symbolNotFound _ | .backtraceTooDeep _ | .noTrapContext _ | .console =>
    inferInstanceAs (Decidable True)

/-- The error `content v` stops with at the address `w`: its page is unmapped, or its word
cannot be read. -/
def wordError? (d : PageDir) (m : PhysMem) (w : Nat) : Option MonitorError :=
  match d.resolve? m w.toUInt32 with
  | none => some (.pageNotFound w.toUInt32)
  | some t =>
    match d.read32? m w.toUInt32 with
    | none => some (unreadable d m t)
    | some _ => none

/-- The word at `w` runs past the end of its mapped page and cannot be read, and blaming the
next page for it is wrong: that page is unmapped but holds no byte of the word, `w` being on the
last page of the address space, or it maps to a frame whose first word lies inside memory. -/
def Misblamed (d : PageDir) (m : PhysMem) (w : Nat) : Prop :=
  d.resolve? m w.toUInt32 ≠ none ∧ d.read32? m w.toUInt32 = none ∧ 0xffc < w % 4096 ∧
    match d.resolve? m (w - w % 4096 + 4096).toUInt32 with
    | none => 0xfffff000 ≤ w
    | some t => t.pa.toNat + 4 ≤ m.size

section Physical

variable {m : PhysMem}

theorem PhysMem.size_lt_of_read32?_none {pa : UInt32} (h : m.read32? pa = none) :
    m.size < pa.toNat + 4 := by
  by_contra hle
  rw [PhysMem.read32?_of_le (by omega)] at h
  cases h

theorem printPhys_raises (stop pa : Nat) :
    (printPhys m stop pa).Raises fun e =>
      ∃ q, e = .physOutOfRange q ∧ m.size < q.toNat + 4 := by
  fun_induction printPhys m stop pa with
  | case1 pa hlt hnone =>
    exact Print.raises_throw ⟨_, rfl, PhysMem.size_lt_of_read32?_none hnone⟩
  | case2 pa hlt w hw ih =>
    refine Print.raises_bind (Print.raises_emitAll _) fun _ => ?_
    split
    · exact ih
    · exact Print.raises_pure ()
  | case3 pa hge => exact Print.raises_pure ()

end Physical

section Virtual

variable {d : PageDir} {m : PhysMem}

theorem dumpWord_of_read32?_none {w : Nat} {t : Mapping} (ht : d.resolve? m w.toUInt32 = some t)
    (hr : d.read32? m w.toUInt32 = none) : dumpWord d m w = throw (unreadable d m t) := by
  simp only [dumpWord, ht, hr]

theorem dumpWord_raises (w : Nat) : (dumpWord d m w).Raises (wordError? d m w = some ·) := by
  rcases hres : d.resolve? m w.toUInt32 with _ | t
  · rw [dumpWord_of_resolve?_none hres]
    exact Print.raises_throw (by simp only [wordError?, hres])
  rcases hread : d.read32? m w.toUInt32 with _ | x
  · rw [dumpWord_of_read32?_none hres hread]
    exact Print.raises_throw (by simp only [wordError?, hres, hread])
  · simp only [dumpWord, hres, hread]
    exact Print.raises_emitAll _

theorem roundDown_add_pageSize {w : Nat} (hw : w < 4294967296) :
    roundDown w.toUInt32 pageSize + pageSize = (w - w % 4096 + 4096).toUInt32 := by
  apply UInt32.toNat_inj.mp
  rw [UInt32.toNat_add, roundDown_pageSize_toNat, toUInt32_toNat_of_lt hw]
  simp [Nat.toUInt32, pageSize]

variable {w : Nat} {t : Mapping}

theorem pageOffset_le_iff_of_resolve? (ht : d.resolve? m w.toUInt32 = some t)
    (hw : w < 4294967296) : pageOffset t.va ≤ 0xffc ↔ w % 4096 ≤ 0xffc := by
  rw [UInt32.le_iff_toNat_le, (PageDir.pa_toNat_of_resolve? ht).1, pageOffset_toNat,
    toUInt32_toNat_of_lt hw]
  rfl

theorem unreadable_of_le (ht : d.resolve? m w.toUInt32 = some t) (hw : w < 4294967296)
    (hin : w % 4096 ≤ 0xffc) : unreadable d m t = .physOutOfRange t.pa := by
  rw [unreadable, if_pos ((pageOffset_le_iff_of_resolve? ht hw).mpr hin)]

section Across

variable (ht : d.resolve? m w.toUInt32 = some t) (hw : w < 4294967296) (hin : 0xffc < w % 4096)
include ht hw hin

theorem unreadable_of_next_none (hn : d.resolve? m (w - w % 4096 + 4096).toUInt32 = none) :
    unreadable d m t = .pageNotFound (w - w % 4096 + 4096).toUInt32 := by
  rw [unreadable, if_neg (mt (pageOffset_le_iff_of_resolve? ht hw).mp (by omega)),
    (PageDir.pa_toNat_of_resolve? ht).1, roundDown_add_pageSize hw]
  simp only [hn]

theorem unreadable_of_next_some {t' : Mapping}
    (hn : d.resolve? m (w - w % 4096 + 4096).toUInt32 = some t') :
    unreadable d m t = .physOutOfRange t'.pa := by
  rw [unreadable, if_neg (mt (pageOffset_le_iff_of_resolve? ht hw).mp (by omega)),
    (PageDir.pa_toNat_of_resolve? ht).1, roundDown_add_pageSize hw]
  simp only [hn]

end Across

/-- For a word across the end of its page, the next page holds a byte of one of the words of a
dump above zero exactly when the page of the word is not the last of the address space. -/
theorem nextPage_holds_byte_iff {ws : List Nat} (hw : w ∈ ws)
    (hws : ∀ v ∈ ws, 0 < v ∧ v < 4294967296) (hin : 0xffc < w % 4096) :
    (∃ v ∈ ws, v ≤ (w - w % 4096 + 4096).toUInt32.toNat ∧
      (w - w % 4096 + 4096).toUInt32.toNat ≤ v + 3) ↔ ¬ 0xfffff000 ≤ w := by
  have hlt := (hws w hw).2
  by_cases hwrap : 0xfffff000 ≤ w
  · -- the next page wraps to page zero, below every word of the dump
    have h0 : (w - w % 4096 + 4096).toUInt32.toNat = 0 := by
      simp only [Nat.toUInt32, UInt32.toNat_ofNat']
      omega
    rw [h0]
    refine iff_of_false ?_ (not_not_intro hwrap)
    rintro ⟨v, hv, hv0, -⟩
    have := (hws v hv).1
    omega
  · rw [toUInt32_toNat_of_lt (by omega)]
    exact iff_of_true ⟨w, hw, by omega, by omega⟩ hwrap

/-- The error a dumped word stops `content v` with names its cause exactly when the word is not
misblamed. -/
theorem namesCause_iff_not_misblamed {ws : List Nat} {e : MonitorError} (hw : w ∈ ws)
    (hws : ∀ v ∈ ws, 0 < v ∧ v < 4294967296) (he : wordError? d m w = some e) :
    NamesCause d m ws e ↔ ¬ Misblamed d m w := by
  have hlt := (hws w hw).2
  have hw32 : w.toUInt32.toNat = w := toUInt32_toNat_of_lt hlt
  unfold wordError? at he
  rcases hres : d.resolve? m w.toUInt32 with _ | t
  · -- an unmapped page: the word itself is named
    simp only [hres, Option.some.injEq] at he
    subst he
    exact iff_of_true ⟨hres, w, hw, by omega, by omega⟩ fun hb => hb.1 hres
  rcases hread : d.read32? m w.toUInt32 with _ | x
  swap
  · simp [hres, hread] at he
  simp only [hres, hread, Option.some.injEq] at he
  subst he
  by_cases hin : w % 4096 ≤ 0xffc
  · -- inside the page: the word's physical address is named, and it lies outside memory
    have hpo : pageOffset w.toUInt32 ≤ 0xffc := by
      rw [UInt32.le_iff_toNat_le, pageOffset_toNat, hw32]
      exact hin
    have hphys : m.read32? t.pa = none := by
      rw [← PageDir.read32?_of_resolve? hres hpo, hread]
    rw [unreadable_of_le hres hlt hin]
    exact iff_of_true (PhysMem.size_lt_of_read32?_none hphys) fun hb => absurd hb.2.2.1 (by omega)
  · -- across the page end: the next page is named
    have hout : 0xffc < w % 4096 := by omega
    rcases hn : d.resolve? m (w - w % 4096 + 4096).toUInt32 with _ | t'
    · -- unmapped: right unless the next page is page zero
      rw [unreadable_of_next_none hres hlt hout hn]
      simp only [NamesCause, Misblamed, hres, hread, hn, ne_eq, reduceCtorEq, not_false_eq_true,
        true_and]
      rw [nextPage_holds_byte_iff hw hws (by omega)]
      exact ⟨fun h hb => h hb.2, fun h hwrap => h ⟨by omega, hwrap⟩⟩
    · -- mapped: right exactly when its frame starts outside memory
      rw [unreadable_of_next_some hres hlt hout hn]
      simp only [NamesCause, Misblamed, hres, hread, hn, ne_eq, reduceCtorEq, not_false_eq_true,
        true_and]
      omega

end Virtual

section Command

variable {a b : String} {A B : UInt32}

theorem mem_virtWords {start stop w : Nat} :
    w ∈ virtWords start stop ↔ start ≤ w ∧ w < stop ∧ DumpsAt start w := by
  simp only [virtWords, List.mem_filter, List.mem_range'_1, decide_eq_true_eq, and_assoc]
  constructor
  · rintro ⟨hs, hw, hd⟩
    exact ⟨hs, by omega, hd⟩
  · rintro ⟨hs, hw, hd⟩
    exact ⟨hs, by omega, hd⟩

theorem ne_zero_of_parseRange (h : parseRange a b = .ok (A, B)) : A ≠ 0 := by
  unfold parseRange at h
  split at h
  · rename_i a' b' ha hb
    split at h
    · cases h
      unfold parseNonzeroHex? at ha
      split at ha
      · cases ha
      · rename_i hne
        cases ha
        exact hne
    · cases h
  · cases h

/-- Every error that `content p start end` stops with, other than a console refusal, names a word
outside physical memory. Every such error of `content v start end` is the error of one of the
dumped words, and it names its cause, an address outside memory or an unmapped page holding a
byte of a dumped word, exactly when that word is not misblamed. -/
theorem content_errors_name_cause_unless_misblamed (t : Target) (a b : String) {A B : UInt32}
    (h : parseRange a b = .ok (A, B)) :
    let d := PageDir.ofRoot t.root
    let ws := virtWords A.toNat B.toNat
    (content t ["content", "p", a, b]).Raises
        (fun e => ∃ pa, e = .physOutOfRange pa ∧ t.mem.size < pa.toNat + 4) ∧
      (content t ["content", "v", a, b]).Raises fun e =>
        ∃ w ∈ ws, wordError? d t.mem w = some e ∧
          (NamesCause d t.mem ws e ↔ ¬ Misblamed d t.mem w) := by
  intro d ws
  refine ⟨?_, ?_⟩
  · rw [content_phys h]
    exact Print.raises_bind (printPhys_raises _ _) fun _ => Print.raises_pure _
  · -- every dumped address lies above zero and below the end of the range
    have hws : ∀ v ∈ ws, 0 < v ∧ v < 4294967296 := by
      intro v hv
      obtain ⟨hA, hB, -⟩ := mem_virtWords.mp hv
      have hA0 : A.toNat ≠ 0 := fun h0 => ne_zero_of_parseRange h (UInt32.toNat_inj.mp h0)
      exact ⟨by omega, by have := B.toNat_lt; omega⟩
    rw [content_virt h, printVirt_eq_forM B.toNat_lt]
    refine Print.raises_bind (Print.raises_forM _ fun w hw => ?_) fun _ => Print.raises_pure _
    exact Print.raises_mono (dumpWord_raises w) fun e he =>
      ⟨w, hw, he, namesCause_iff_not_misblamed hw hws he⟩

/-- Page `0x800000` mapped to frame `0x9000`, past the `0x8000` frames of memory, and page
`0x801000` to frame `0x300`: the range `[0x800ffd, 0x801000)` parses, and the dumps of it
report as above. -/
theorem content_errors_at_frame_outside_memory :
    let t : Target := ⟨⟨0x8000, [.word 0x7000004 0x300003, .word 0x7000000 0x9000003,
      .word 0x1008 0x7000007]⟩, 0x1000, 0⟩
    let d := PageDir.ofRoot t.root
    let ws := virtWords 0x800ffd 0x801000
    parseRange "800ffd" "801000" = .ok (0x800ffd, 0x801000) ∧
      (content t ["content", "p", "800ffd", "801000"]).Raises
        (fun e => ∃ pa, e = .physOutOfRange pa ∧ t.mem.size < pa.toNat + 4) ∧
      (content t ["content", "v", "800ffd", "801000"]).Raises fun e =>
        ∃ w ∈ ws, wordError? d t.mem w = some e ∧
          (NamesCause d t.mem ws e ↔ ¬ Misblamed d t.mem w) := by
  intro t d ws
  have h : parseRange "800ffd" "801000" = .ok (0x800ffd, 0x801000) := by rfl
  exact ⟨h, content_errors_name_cause_unless_misblamed t _ _ h⟩

/-- On the same two pages the word at `0x800ffd` cannot be read because its own frame lies
outside memory, yet `content v` blames the next page and names its frame `0x300000`, which
lies inside memory. -/
theorem content_virt_blames_next_page_inside_memory :
    let t : Target := ⟨⟨0x8000, [.word 0x7000004 0x300003, .word 0x7000000 0x9000003,
      .word 0x1008 0x7000007]⟩, 0x1000, 0⟩
    ¬ (content t ["content", "v", "800ffd", "801000"]).Raises
      (NamesCause (PageDir.ofRoot t.root) t.mem (virtWords 0x800ffd 0x801000)) := by
  intro t hnames
  let d := PageDir.ofRoot t.root
  let u : Mapping := ⟨0x800ffd, ⟨0x9000003⟩, 0x9000ffd⟩
  have hr : parseRange "800ffd" "801000" = .ok (0x800ffd, 0x801000) := by rfl
  have hw : virtWords (0x800ffd : UInt32).toNat (0x801000 : UInt32).toNat = [0x800ffd] := by
    decide
  have hres : d.resolve? t.mem (0x800ffd : Nat).toUInt32 = some u := by decide
  have hread : d.read32? t.mem (0x800ffd : Nat).toUInt32 = none := by decide
  have hblame : unreadable d t.mem u = .physOutOfRange 0x300000 := by decide
  have hrun : (content t ["content", "v", "800ffd", "801000"]).exec .unlimited {} =
      .ok (.error (.physOutOfRange 0x300000), {}) := by
    rw [content_virt hr, printVirt_eq_forM (UInt32.toNat_lt _), hw, List.forM_eq_forM,
      List.forM_cons, dumpWord_of_read32?_none hres hread, hblame]
    rfl
  exact absurd (hnames _ _ _ _ hrun (by decide)) (by decide)

end Command

end KernelMonitor
