import KernelMonitor.Monitor.Dispatch
import KernelMonitor.Proofs.Memory

/-! # Commands run without faults

The word operations of the built-in commands stay inside 32 bits, so no command faults: the
words a dump reads lie inside one page, and a stack slot lies a few words above its frame.
-/

namespace KernelMonitor

theorem pageBase_toNat_le (a : UInt32) : (pageBase a).toNat ≤ 0xfffff000 := by
  rw [pageBase, UInt32.toNat_and]
  exact Nat.and_le_right

theorem Entry.frameAddr_eq_pageBase (e : Entry) : e.frameAddr = pageBase e.raw := by
  rw [Entry.frameAddr, pageBase, show ~~~Entry.flagMask = (0xfffff000 : UInt32) by decide]

theorem Entry.frameAddr_toNat_le (e : Entry) : e.frameAddr.toNat ≤ 0xfffff000 := by
  rw [e.frameAddr_eq_pageBase]
  exact pageBase_toNat_le e.raw

namespace Print

variable {α β : Type}

theorem exec_bind (x : Print α) (k : α → Print β) (p : WritePolicy) (s : Sink) :
    (x >>= k).exec p s =
      match x.exec p s with
      | .ok (.ok a, s') => (k a).exec p s'
      | .ok (.error e, s') => .ok (.error e, s')
      | .error f => .error f := by
  simp only [exec, ReaderT.run_bind, ExceptT.run_bind]
  rw [StateT.run_bind]
  rcases (x.run p).run.run s with f | ⟨_ | a, s'⟩ <;> rfl

theorem exec_emit (piece : String) (p : WritePolicy) (s : Sink) :
    (emit piece).exec p s =
      .ok (if (s.write p piece).2 then .ok () else .error .console, (s.write p piece).1) := by
  change (if (s.write p piece).2 = true then (pure () : Print Unit) else throw .console).exec p
    (s.write p piece).1 = _
  rcases s.write p piece with ⟨s', _ | _⟩ <;> rfl

/-- `x` never faults, and every run of it that ends well ends with a value satisfying `post`,
whatever the console takes. -/
def Yields (x : Print α) (post : α → Prop) : Prop :=
  ∀ p s, ∃ r s', x.exec p s = .ok (r, s') ∧ ∀ a, r = .ok a → post a

variable {post : β → Prop}

theorem yields_pure {b : β} (h : post b) : (pure b : Print β).Yields post :=
  fun _ s => ⟨.ok b, s, rfl, fun _ hb => by cases hb; exact h⟩

theorem yields_throw (e : MonitorError) : (throw e : Print β).Yields post :=
  fun _ s => ⟨.error e, s, rfl, fun _ h => by cases h⟩

theorem yields_bind {q : α → Prop} {x : Print α} {k : α → Print β} (hx : x.Yields q)
    (hk : ∀ a, q a → (k a).Yields post) : (x >>= k).Yields post := by
  intro p s
  obtain ⟨r, s', hr, hq⟩ := hx p s
  rw [exec_bind, hr]
  cases r with
  | error e => exact ⟨.error e, s', rfl, fun _ h => by cases h⟩
  | ok a => exact hk a (hq a rfl) p s'

theorem yields_bind_pure {q : α → Prop} {x : Print α} {v : β} (hx : x.Yields q) :
    (x >>= fun _ => pure v).Yields (· = v) :=
  yields_bind hx fun _ _ => yields_pure rfl

theorem yields_emit (piece : String) : (emit piece).Yields fun _ => True :=
  fun p s => ⟨_, _, exec_emit piece p s, fun _ _ => trivial⟩

theorem yields_emitAll (pieces : List String) : (emitAll pieces).Yields fun _ => True := by
  induction pieces with
  | nil => exact yields_pure trivial
  | cons x xs ih => exact yields_bind (yields_emit x) fun _ _ => ih

theorem yields_ofExcept (x : Except MonitorError β) : (ofExcept x).Yields fun b => x = .ok b := by
  cases x with
  | error e => exact yields_throw e
  | ok b => exact yields_pure rfl

theorem yields_exact {x : Except Fault β} {b : β} (h : x = .ok b) : (exact x).Yields (· = b) := by
  rw [h]
  exact yields_pure rfl

end Print

open Print

/-! ## The virtual dump -/

section Dump

variable {d : PageDir} {m : PhysMem} {page frame last : UInt32}

theorem addExact_of_inside {a off : UInt32} (ha : a.toNat + 4096 ≤ 4294967296)
    (hoff : off.toNat < 4096) : addExact a off = .ok (a + off) :=
  addExact_eq_ok (by omega)

theorem readAcross_yields (hpage : page.toNat + 4096 ≤ 4294967296) {off : UInt32}
    (hoff : off.toNat < 4096) : (readAcross d m page off).Yields fun _ => True := by
  refine yields_bind (yields_exact (addExact_of_inside hpage hoff)) fun _ _ => ?_
  split
  · exact yields_pure trivial
  · dsimp only
    split <;> exact yields_throw _

theorem pageWord_yields (hpage : page.toNat + 4096 ≤ 4294967296) {pa off : UInt32}
    (hoff : off.toNat < 4096) : (pageWord d m page pa off).Yields fun _ => True := by
  unfold pageWord
  split
  · split
    · exact yields_pure trivial
    · exact yields_throw _
  · exact readAcross_yields hpage hoff

/-- The page loop never faults when the page and its frame lie a page below the top and the
loop stops inside the page. -/
theorem printPage_yields (hpage : page.toNat + 4096 ≤ 4294967296)
    (hframe : frame.toNat + 4096 ≤ 4294967296) (hlast : last.toNat ≤ 4096) (off : UInt32) :
    (printPage d m page frame last off).Yields fun _ => True := by
  fun_induction printPage d m page frame last off with
  | case1 off hoff ih =>
    have ho : off.toNat < 4096 := by
      have := UInt32.lt_iff_toNat_lt.mp hoff
      omega
    refine yields_bind (yields_exact (addExact_of_inside hframe ho)) fun pa _ => ?_
    refine yields_bind (pageWord_yields hpage ho) fun w _ => ?_
    refine yields_bind (yields_exact (addExact_of_inside hpage ho)) fun va _ => ?_
    refine yields_bind (yields_emitAll _) fun _ _ => ?_
    split
    · exact ih _ (by assumption)
    -- the next offset is at most 4096, far below the top
    · rename_i h
      rw [addExact, if_pos (by change off.toNat + 4 < 4294967296; omega)] at h
      cases h
  | case2 off hoff => exact yields_pure trivial

theorem printVirt_yields {stop : Nat} (hstop : stop < 4294967296) (va : Nat) :
    (printVirt d m stop va).Yields fun _ => True := by
  fun_induction printVirt d m stop va with
  | case1 va hlt hnone => exact yields_throw _
  | case2 va hlt t ht page last ih =>
    have hf := t.entry.frameAddr_toNat_le
    have hp : page.toUInt32.toNat = page := toUInt32_toNat_of_lt (by omega)
    have hl : last.toUInt32.toNat = last := toUInt32_toNat_of_lt (by simp only [last]; split <;> omega)
    refine yields_bind (printPage_yields (by omega) (by omega)
      (by rw [hl]; simp only [last]; split <;> omega) _) fun _ _ => ?_
    split
    · exact ih
    · exact yields_pure trivial
  | case3 va hge => exact yields_pure trivial

theorem printPhys_yields (stop pa : Nat) : (printPhys m stop pa).Yields fun _ => True := by
  fun_induction printPhys m stop pa with
  | case1 pa hlt hnone => exact yields_throw _
  | case2 pa hlt w hw ih =>
    refine yields_bind (yields_emitAll _) fun _ _ => ?_
    split
    · exact ih
    · exact yields_pure trivial
  | case3 pa hge => exact yields_pure trivial

end Dump

/-! ## The stack walk -/

section Stack

variable {d : PageDir} {m : PhysMem}

theorem stackWord_yields (ebp : UInt32) {i : UInt32} (hi : i.toNat < 7) :
    (stackWord d m ebp i).Yields fun _ => True := by
  refine yields_bind (yields_exact (mulExact_eq_ok (by change i.toNat * 4 < _; omega)))
    fun _ _ => ?_
  split
  · exact yields_pure trivial
  · exact yields_throw _

theorem readFrame_yields (ebp : UInt32) : (readFrame d m ebp).Yields fun _ => True := by
  unfold readFrame
  refine yields_bind (stackWord_yields ebp (by decide)) fun _ _ => ?_
  refine yields_bind (stackWord_yields ebp (by decide)) fun _ _ => ?_
  refine yields_bind (stackWord_yields ebp (by decide)) fun _ _ => ?_
  refine yields_bind (stackWord_yields ebp (by decide)) fun _ _ => ?_
  refine yields_bind (stackWord_yields ebp (by decide)) fun _ _ => ?_
  refine yields_bind (stackWord_yields ebp (by decide)) fun _ _ => ?_
  exact yields_bind (stackWord_yields ebp (by decide)) fun _ _ => yields_pure trivial

theorem printFrames_yields (syms : SymbolTable) (left : Nat) (ebp : UInt32) :
    (printFrames d m syms left ebp).Yields fun _ => True := by
  induction left generalizing ebp with
  | zero =>
    unfold printFrames
    split
    · exact yields_pure trivial
    · exact yields_throw _
  | succ left ih =>
    unfold printFrames
    split
    · exact yields_pure trivial
    · refine yields_bind (readFrame_yields ebp) fun f _ => ?_
      refine yields_bind (yields_emitAll _) fun _ _ => ?_
      split
      · exact yields_throw _
      · exact yields_bind (yields_emitAll _) fun _ _ => ih _

end Stack

/-! ## The printing commands -/

section Commands

variable {t : Target} {argv : List String}

theorem printMappings_yields (d : PageDir) (m : PhysMem) (stop va : Nat) :
    (printMappings d m stop va).Yields fun _ => True := by
  fun_induction printMappings d m stop va with
  | case1 va hlt ih =>
    refine yields_bind (yields_emitAll _) fun _ _ => ?_
    split
    · exact ih
    · exact yields_pure trivial
  | case2 va hge => exact yields_pure trivial

theorem showmappings_yields_next : (showmappings t argv).Yields (· = .next) := by
  unfold showmappings
  split
  · refine yields_bind (yields_ofExcept _) fun _ _ => ?_
    refine yields_bind (yields_emit _) fun _ _ => ?_
    exact yields_bind_pure (printMappings_yields _ _ _ _)
  · exact yields_throw _

theorem content_yields_next : (content t argv).Yields (· = .next) := by
  unfold content
  split
  · -- the dump is chosen, the range read, and the dump runs below its end, under 2 ^ 32
    have hrun : ∀ (a b : String) (dump : Nat → Nat → Print Unit),
        (∀ stop start : UInt32, (dump stop.toNat start.toNat).Yields fun _ => True) →
        (do
          let r ← ofExcept (parseRange a b)
          dump r.2.toNat r.1.toNat
          pure Flow.next).Yields (· = Flow.next) := by
      intro a b dump hdump
      refine yields_bind (yields_ofExcept _) fun r _ => ?_
      exact yields_bind (hdump r.2 r.1) fun _ _ => yields_pure rfl
    dsimp only
    split
    · exact yields_bind (yields_pure rfl) fun _ hd => hd ▸
        hrun _ _ _ fun stop _ => printVirt_yields (UInt32.toNat_lt stop) _
    · exact yields_bind (yields_pure rfl) fun _ hd => hd ▸ hrun _ _ _ fun _ _ => printPhys_yields _ _
    · exact yields_throw _
  · exact yields_throw _

theorem backtrace_yields_next (syms : SymbolTable) : (backtrace t syms).Yields (· = .next) :=
  yields_bind (yields_emit _) fun _ _ => yields_bind_pure (printFrames_yields syms _ _)

end Commands

end KernelMonitor
