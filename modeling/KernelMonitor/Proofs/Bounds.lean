import KernelMonitor.Proofs.Loop
import KernelMonitor.Proofs.SparseMemory

/-! # No word operation faults

Under the built-in commands neither a command line nor the monitor loop faults. The slots of the
page tables, the aligned word around a byte, the distance into a function, the indices of the
line table, line buffer and argument vector, and the test memory's byte addresses stay in range.
-/

namespace KernelMonitor

/-! ## Whole runs -/

theorem resumeEffect_flow_ne_fault (t : Target) (tf : Option Trapframe)
    (x : Except MonitorError (Trapframe × Record)) (f : Fault) :
    (resumeEffect t tf x).flow ≠ .fault f := by
  intro h
  rcases x with _ | _ <;> cases h

theorem Builtin.effect_flow_ne_fault (b : Builtin) (t : Target) (argv : List String)
    (tf : Option Trapframe) (f : Fault) : (b.effect t argv tf).flow ≠ .fault f := by
  cases b with
  | modifyperm =>
    simp only [Builtin.effect]
    rcases KernelMonitor.modifyperm t argv with _ | ⟨mem, _⟩ <;> intro h <;> cases h
  | proceed | step => exact resumeEffect_flow_ne_fault _ _ _ f
  | help | kerninfo | backtrace | showmappings | content =>
    intro h
    cases h

theorem lineEffect_flow_ne_fault (t : Target) (tf : Option Trapframe) (line : String)
    (f : Fault) : (lineEffect t tf line).flow ≠ .fault f := by
  unfold lineEffect
  split
  · split
    · exact Builtin.effect_flow_ne_fault _ _ _ _ f
    · intro h
      cases h
  · intro h
    cases h

theorem runLines_ending_ne_fault (root ebp : UInt32) (mem : PhysMem) (tf : Option Trapframe)
    (lines : List (String × List UInt8)) (f : Fault) :
    (runLines root ebp mem tf lines).ending ≠ .fault f := by
  induction lines generalizing mem tf with
  | nil => nofun
  | cons l lines ih =>
    obtain ⟨line, rest⟩ := l
    unfold runLines
    dsimp only
    split
    · nofun
    · nofun
    · rename_i f' h
      exact absurd h (lineEffect_flow_ne_fault _ _ _ f')
    · exact ih _ _

/-! ## Page tables and byte reads -/

namespace PageDir

theorem dirSlot_exact (cr3 va : UInt32) :
    mulExact (dirIndex va) 4 = .ok (dirIndex va * 4) ∧
      addExact (ofRoot cr3).root (dirIndex va * 4) = .ok ((ofRoot cr3).dirSlot va) := by
  have hd := dirIndex_lt va
  have hr := pageBase_toNat_le cr3
  have h4 : (4 : UInt32).toNat = 4 := rfl
  have hm : (dirIndex va * 4).toNat = (dirIndex va).toNat * 4 := by
    rw [UInt32.toNat_mul, h4]
    omega
  refine ⟨mulExact_eq_ok (by rw [h4]; omega), addExact_eq_ok ?_⟩
  rw [hm]
  change (pageBase cr3).toNat + _ < _
  omega

theorem tableSlot_exact {t : UInt32} (ht : t.toNat < 1048576) (va : UInt32) :
    frameBase t = .ok (frameStart t) ∧ mulExact (tableIndex va) 4 = .ok (tableIndex va * 4) ∧
      addExact (frameStart t) (tableIndex va * 4) = .ok (tableSlot t va) := by
  have hi := tableIndex_lt va
  have h4 : (4 : UInt32).toNat = 4 := rfl
  have hp : pageSize.toNat = 4096 := rfl
  have hs : (frameStart t).toNat = t.toNat * 4096 := by
    rw [frameStart, UInt32.toNat_mul, hp]
    omega
  have hm : (tableIndex va * 4).toNat = (tableIndex va).toNat * 4 := by
    rw [UInt32.toNat_mul, h4]
    omega
  refine ⟨mulExact_eq_ok (by rw [hp]; omega), mulExact_eq_ok (by rw [h4]; omega),
    addExact_eq_ok ?_⟩
  rw [hs, hm]
  omega

end PageDir

theorem wordStart_exact (x : UInt32) :
    subExact x (x % 4) = .ok (x - x % 4) ∧ mulExact (x % 4) 8 = .ok (x % 4 * 8) := by
  have hm : (x % 4).toNat = x.toNat % 4 := UInt32.toNat_mod x 4
  refine ⟨?_, mulExact_eq_ok ?_⟩
  · rw [subExact, if_pos (UInt32.le_iff_toNat_le.mpr (by rw [hm]; exact Nat.mod_le _ _))]
  · rw [hm]
    change x.toNat % 4 * 8 < _
    omega

/-! ## Symbols, lines and words -/

section Symbols

variable {α : Type} (p : α → Bool) (xs : List α)

theorem partitionPoint.go_le_length {base size : Nat} (h : base + size ≤ xs.length)
    (hs : 0 < size) : partitionPoint.go p xs base size ≤ xs.length := by
  induction size using Nat.strong_induction_on generalizing base with
  | _ size ih =>
    rw [partitionPoint.go]
    split
    · -- the next window is the upper or the lower half, both inside the current one
      apply ih (size - size / 2) (by omega) ?_ (by omega)
      split <;> omega
    · split <;> omega

theorem partitionPoint_le_length : partitionPoint p xs ≤ xs.length := by
  rw [partitionPoint]
  split
  · exact Nat.zero_le _
  · rename_i h
    have hl : 0 < xs.length := by
      cases xs with
      | nil => exact absurd rfl h
      | cons => simp
    exact partitionPoint.go_le_length p xs (by omega) hl

end Symbols

/-- A function contains an address exactly when the address lies at or above its start, where
the distance is exact, and that distance is below its size. -/
theorem FnSymbol.contains_iff_subExact (fn : FnSymbol) (eip : UInt32) :
    fn.contains eip = true ↔ ∃ dist, subExact eip fn.addr = .ok dist ∧ dist < fn.size := by
  unfold FnSymbol.contains subExact
  constructor
  · intro h
    simp only [Bool.and_eq_true, decide_eq_true_eq] at h
    exact ⟨_, if_pos h.1, h.2⟩
  · rintro ⟨dist, hd, hlt⟩
    split at hd
    · rename_i hle
      cases hd
      simp [hle, hlt]
    · cases hd

theorem LineEditor.readFrom_length_le {keep : Nat} {line : List Char} {echo : String}
    {input : List UInt8} (h : line.length ≤ keep) {l : String}
    (hl : (readFrom keep line echo input).line = some l) : l.length ≤ keep := by
  induction input generalizing line echo with
  | nil => cases hl
  | cons b rest ih =>
    unfold readFrom at hl
    split at hl
    · exact ih (by rw [List.length_dropLast]; omega) hl
    · split at hl
      · cases hl
        rw [String.length_ofList]
        exact h
      · split at hl
        · rename_i hp
          simp only [Bool.and_eq_true, decide_eq_true_eq] at hp
          exact ih (by rw [List.length_append, List.length_singleton]; omega) hl
        · exact ih h hl

/-- A line read into a buffer of `buflen` bytes keeps at most `buflen - 1` characters: every
kept byte is stored below the buffer's last place. -/
theorem readLine_length_le {prompt : String} {buflen : Nat} {input : List UInt8} {l : String}
    (h : (readLine prompt buflen input).line = some l) : l.length ≤ buflen - 1 :=
  LineEditor.readFrom_length_le (Nat.zero_le _) h

theorem tokenize_length_lt {line : String} {ws : List String} (h : tokenize line = .ok ws) :
    ws.length < maxArgs := by
  unfold tokenize at h
  dsimp only at h
  split at h
  · rename_i hl
    cases h
    exact hl
  · cases h

/-- Under the built-in commands no command line and no run of the monitor faults. The word
arithmetic the commands compute without a fault check (table slots, the aligned word around a
byte, the distance into a function, the searches of the symbol tables, the line buffer, the
argument vector and the test memory's byte addresses) stays in range on every input. -/
theorem monitor_runs_without_faults :
    (∀ (setup : Setup) (p : WritePolicy) (t : Target) (tf : Option Trapframe) (s : Sink)
        (line : String) (f : Fault),
      (runLine { setup with registry := Registry.builtin } p t tf s line).flow ≠ .fault f) ∧
    (∀ (setup : Setup) (p : WritePolicy) (t : Target) (tf : Option Trapframe) (s : Sink)
        (input : List UInt8) (f : Fault),
      (runMonitor { setup with registry := Registry.builtin } p t tf s input).ending ≠ .fault f) ∧
    (∀ cr3 va : UInt32, mulExact (dirIndex va) 4 = .ok (dirIndex va * 4) ∧
      addExact (PageDir.ofRoot cr3).root (dirIndex va * 4) =
        .ok ((PageDir.ofRoot cr3).dirSlot va)) ∧
    (∀ (e : Entry) (va : UInt32), frameBase e.frame = .ok (frameStart e.frame) ∧
      mulExact (tableIndex va) 4 = .ok (tableIndex va * 4) ∧
      addExact (frameStart e.frame) (tableIndex va * 4) = .ok (PageDir.tableSlot e.frame va)) ∧
    (∀ x : UInt32, subExact x (x % 4) = .ok (x - x % 4) ∧ mulExact (x % 4) 8 = .ok (x % 4 * 8)) ∧
    (∀ (fn : FnSymbol) (eip : UInt32),
      fn.contains eip = true ↔ ∃ dist, subExact eip fn.addr = .ok dist ∧ dist < fn.size) ∧
    (∀ (syms : SymbolTable) (fn : FnSymbol) (eip : UInt32),
      partitionPoint (fun f : FnSymbol => f.addr ≤ eip) syms.fns ≤ syms.fns.length ∧
      partitionPoint (fun l : LineEntry => l.addr ≤ eip) fn.lines ≤ fn.lines.length) ∧
    (∀ (prompt : String) (buflen : Nat) (input : List UInt8) (l : String),
      (readLine prompt buflen input).line = some l → l.length ≤ buflen - 1) ∧
    (∀ (line : String) (ws : List String), tokenize line = .ok ws → ws.length < maxArgs) ∧
    (∀ (s : SparseMem) (m : PhysMem), s.Agrees m → m.frames ≤ 1048576 → ∀ pa v : UInt32,
      s.read32 pa = .ok (m.read32? pa) ∧ ∃ os, s.write32 pa v = .ok os) := by
  refine ⟨fun setup p t tf s line f => ?_, fun setup p t tf s input f => ?_,
    PageDir.dirSlot_exact, fun e => PageDir.tableSlot_exact e.frame_toNat_lt, wordStart_exact,
    FnSymbol.contains_iff_subExact, fun syms fn _ =>
      ⟨partitionPoint_le_length _ syms.fns, partitionPoint_le_length _ fn.lines⟩,
    fun _ _ _ _ h => readLine_length_le h, fun _ _ h => tokenize_length_lt h,
    fun s m h hm pa v => ⟨h.read32 hm pa, (h.write32 hm pa v).imp fun _ => And.left⟩⟩
  · -- a line's flow is its effect's, which is never a fault
    have he := runLine_effect setup p t tf s line
    exact fun h => lineEffect_flow_ne_fault t tf line f (by rw [← he, LineResult.effect, h])
  · have he := runMonitor_effect setup p t tf s input
    exact fun h => runLines_ending_ne_fault t.root t.ebp t.mem tf _ f
      (by rw [← he, RunResult.effect, h])

/-- The last word of the largest test memory, whose top byte lies at `0xffffffff`, is read from
the empty frame map without a fault. -/
theorem last_word_of_largest_sparse_memory_reads :
    (SparseMem.empty 1048576).Agrees (PhysMem.blank 1048576) ∧
      (PhysMem.blank 1048576).frames ≤ 1048576 ∧
      (SparseMem.empty 1048576).read32 0xfffffffc =
        .ok ((PhysMem.blank 1048576).read32? 0xfffffffc) :=
  ⟨SparseMem.agrees_empty 1048576, Nat.le_refl _,
    (monitor_runs_without_faults.2.2.2.2.2.2.2.2.2 _ _ (SparseMem.agrees_empty 1048576)
      (Nat.le_refl _) 0xfffffffc 0).1⟩

end KernelMonitor
