import KernelMonitor.Monitor.Backtrace
import KernelMonitor.Monitor.Mappings
import KernelMonitor.Proofs.Output
import KernelMonitor.Proofs.Paging

/-! # Walking the stack

`backtrace` is the per-frame step applied to the first 64 pointers of the chain of saved frame
pointers, up to the first zero, then the depth error if the chain goes on. A frame that cannot be
read stops the walk with the first address in read order that fails.
-/

namespace KernelMonitor

section Reads

variable {α β : Type} {l : List α} {g : α → Option β} {err : α → MonitorError}

theorem except_map_eq_error {ε γ δ : Type} {f : γ → δ} {r : Except ε γ} {e : ε} :
    f <$> r = .error e ↔ r = .error e := by
  cases r <;> simp [Functor.map, Except.map]

theorem except_map_eq_ok {ε γ δ : Type} {f : γ → δ} {r : Except ε γ} {d : δ} :
    f <$> r = .ok d ↔ ∃ c, r = .ok c ∧ f c = d := by
  cases r <;> simp [Functor.map, Except.map]

theorem mapM_orFail_cons_of_none {a : α} (l : List α) (ha : g a = none) :
    (a :: l).mapM (fun x => orFail (err x) (g x)) = .error (err a) := by
  rw [List.mapM_cons, ha]
  rfl

theorem mapM_orFail_cons_of_some {a : α} {b : β} (l : List α) (ha : g a = some b) :
    (a :: l).mapM (fun x => orFail (err x) (g x)) =
      (b :: ·) <$> l.mapM (fun x => orFail (err x) (g x)) := by
  rw [List.mapM_cons, ha]
  rfl

theorem mapM_orFail_eq_error_iff {e : MonitorError} :
    l.mapM (fun x => orFail (err x) (g x)) = .error e ↔
      ∃ pre x post, l = pre ++ x :: post ∧ (∀ y ∈ pre, (g y).isSome) ∧ g x = none ∧ e = err x := by
  induction l with
  | nil => simp [List.mapM_nil, pure, Except.pure]
  | cons a l ih =>
    rcases ha : g a with _ | b
    · -- the first place fails: the error is its own, and no place stands before it
      rw [mapM_orFail_cons_of_none l ha]
      constructor
      · rintro ⟨⟩
        exact ⟨[], a, l, rfl, by simp, ha, rfl⟩
      · rintro ⟨_ | ⟨c, pre⟩, x, post, hl, hpre, hx, rfl⟩
        · cases hl
          rfl
        · cases hl
          simp [ha] at hpre
    · -- the first place is read: the error is that of the rest
      rw [mapM_orFail_cons_of_some l ha, except_map_eq_error, ih]
      constructor
      · rintro ⟨pre, x, post, rfl, hpre, hx, rfl⟩
        exact ⟨a :: pre, x, post, rfl, List.forall_mem_cons.mpr ⟨by simp [ha], hpre⟩, hx, rfl⟩
      · rintro ⟨_ | ⟨c, pre⟩, x, post, hl, hpre, hx, rfl⟩
        · cases hl
          simp [ha] at hx
        · cases hl
          exact ⟨pre, x, post, rfl, fun y hy => hpre y (List.mem_cons_of_mem _ hy), hx, rfl⟩

theorem mapM_orFail_eq_ok_iff {ws : List β} :
    l.mapM (fun x => orFail (err x) (g x)) = .ok ws ↔ l.map g = ws.map some := by
  induction l generalizing ws with
  | nil => rcases ws with _ | ⟨w, ws⟩ <;> simp [List.mapM_nil, pure, Except.pure]
  | cons a l ih =>
    rcases ha : g a with _ | b
    · rw [mapM_orFail_cons_of_none l ha]
      rcases ws with _ | ⟨w, ws⟩ <;> simp [ha]
    · -- the words are `b` and the words of the rest
      rw [mapM_orFail_cons_of_some l ha, except_map_eq_ok]
      rcases ws with _ | ⟨w, ws⟩
      · simp
      · simp only [List.map_cons, ha, List.cons.injEq, Option.some.injEq, ← ih]
        constructor
        · rintro ⟨bs, hbs, rfl, rfl⟩
          exact ⟨rfl, hbs⟩
        · rintro ⟨rfl, hbs⟩
          exact ⟨ws, hbs, rfl, rfl⟩

end Reads

section Frame

variable (d : PageDir) (m : PhysMem)

/-- The word `off` bytes above the frame pointer `e`: none when the address passes the top of
the address space or the word cannot be read. -/
def stackRead? (e : UInt32) (off : Nat) : Option UInt32 :=
  if e.toNat + off < 4294967296 then d.read32? m (e + off.toUInt32) else none

/-- The offsets of a frame's words in the order the walk reads them: the five arguments, the
saved frame pointer, the return address. -/
def frameReadOrder : List Nat := [8, 12, 16, 20, 24, 0, 4]

/-- The words of the frame at `e` in read order, or the error naming the address of the first
that cannot be read. -/
def frameWords? (e : UInt32) : Except MonitorError (List UInt32) :=
  frameReadOrder.mapM fun off => orFail (.stackUnreadable (e + off.toUInt32)) (stackRead? d m e off)

def frameOfWords (e : UInt32) (ws : List UInt32) : StackFrame :=
  ⟨e, ws.getD 5 0, ws.getD 6 0, ws.take 5⟩

variable {d m}

theorem stackWord_eq_orFail (e : UInt32) {i : UInt32} {off : Nat} (hi : i.toNat * 4 = off)
    (hoff : off < 28) :
    stackWord d m e i =
      Print.ofExcept (orFail (.stackUnreadable (e + off.toUInt32)) (stackRead? d m e off)) := by
  have hmul : mulExact i 4 = .ok off.toUInt32 := by
    rw [mulExact_eq_ok (by change i.toNat * 4 < _; omega)]
    congr 1
    apply UInt32.toNat_inj.mp
    rw [UInt32.toNat_mul, toUInt32_toNat_of_lt (by omega)]
    change i.toNat * 4 % 4294967296 = off
    omega
  -- the checked sum and the read are the read of `stackRead?`
  have hread : (addChecked? e off.toUInt32).bind (d.read32? m) = stackRead? d m e off := by
    unfold addChecked? stackRead?
    rw [toUInt32_toNat_of_lt (by omega)]
    split <;> rfl
  unfold stackWord
  rw [hmul, Print.exact, pure_bind, hread]
  rcases stackRead? d m e off with _ | w <;> rfl

theorem readFrame_eq_frameWords? (e : UInt32) :
    readFrame d m e = Print.ofExcept (frameOfWords e <$> frameWords? d m e) := by
  unfold readFrame frameWords? frameReadOrder
  rw [stackWord_eq_orFail e (by decide : (2 : UInt32).toNat * 4 = 8) (by decide),
    stackWord_eq_orFail e (by decide : (3 : UInt32).toNat * 4 = 12) (by decide),
    stackWord_eq_orFail e (by decide : (4 : UInt32).toNat * 4 = 16) (by decide),
    stackWord_eq_orFail e (by decide : (5 : UInt32).toNat * 4 = 20) (by decide),
    stackWord_eq_orFail e (by decide : (6 : UInt32).toNat * 4 = 24) (by decide),
    stackWord_eq_orFail e (by decide : (0 : UInt32).toNat * 4 = 0) (by decide),
    stackWord_eq_orFail e (by decide : (1 : UInt32).toNat * 4 = 4) (by decide)]
  simp only [List.mapM_cons, List.mapM_nil, map_bind, bind_assoc, pure_bind, map_pure,
    Print.ofExcept_bind, Print.ofExcept_pure]
  rfl

theorem savedEbp_frameOfWords {e : UInt32} {ws : List UInt32} (h : frameWords? d m e = .ok ws) :
    (frameOfWords e ws).savedEbp = (d.read32? m e).getD 0 := by
  have hmap := mapM_orFail_eq_ok_iff.mp h
  have h5 := congrArg (fun l => l[5]?) hmap
  simp only [frameReadOrder, List.map_cons, List.map_nil, List.getElem?_map] at h5
  have hread : stackRead? d m e 0 = d.read32? m e := by
    have := e.toNat_lt
    rw [stackRead?, if_pos (by omega)]
    exact congrArg (d.read32? m) (UInt32.add_zero e)
  show ws.getD 5 0 = _
  rw [List.getD_eq_getElem?_getD]
  rcases hw : ws[5]? with _ | w
  · rw [hw] at h5
    cases h5
  · rw [hw] at h5
    simp only [Option.map_some, List.getElem?_cons_succ, List.getElem?_cons_zero] at h5
    rw [← hread, Option.some.inj h5]

end Frame

section Walk

variable (d : PageDir) (m : PhysMem) (syms : SymbolTable)

/-- One step of the walk, at a nonzero frame pointer `e`: the frame's line, then the line of
the function its return address lies in, or the error that there is none. A frame that cannot be
read prints nothing, and the walk stops with the error `frameWords?` gives. -/
def frameTrace (e : UInt32) : Print Unit := do
  let f := frameOfWords e (← Print.ofExcept (frameWords? d m e))
  Print.emitAll (frameLine f)
  match syms.lookup? f.eip with
  | none => throw (.symbolNotFound f.eip)
  | some info => Print.emitAll (sourceLine info f.eip)

/-- The frame pointers of the chain from `e`, at most `n` of them and up to the first zero: `e`,
the word at `e`, the word at that, and so on. Where the word at a pointer cannot be read the
chain ends there, as the walk does at that frame. -/
def framePointers : Nat → UInt32 → List UInt32
  | 0, _ => []
  | n + 1, e => if e = 0 then [] else e :: framePointers n ((d.read32? m e).getD 0)

/-- The frame pointer `n` links down the chain from `e`, or zero once the chain reached zero. -/
def pointerAfter : Nat → UInt32 → UInt32
  | 0, e => e
  | n + 1, e => if e = 0 then 0 else pointerAfter n ((d.read32? m e).getD 0)

theorem length_framePointers_le (n : Nat) (e : UInt32) : (framePointers d m n e).length ≤ n := by
  induction n generalizing e with
  | zero => exact Nat.le_refl _
  | succ n ih =>
    rw [framePointers]
    split
    · exact Nat.zero_le _
    · exact Nat.succ_le_succ (ih _)

variable {d m syms}

/-- The walk with room for `n` more frames is the step at each pointer of the chain, then the
depth error when the pointer after `n` links is not zero. -/
theorem printFrames_eq_forM (n : Nat) (e : UInt32) :
    printFrames d m syms n e =
      ((framePointers d m n e).forM (frameTrace d m syms) >>= fun _ =>
        if pointerAfter d m n e = 0 then pure () else throw (.backtraceTooDeep maxBacktraceDepth)) := by
  induction n generalizing e with
  | zero =>
    rw [printFrames, framePointers, pointerAfter, List.forM_eq_forM, List.forM_nil, pure_bind]
  | succ n ih =>
    by_cases he : e = 0
    · rw [printFrames, if_pos he, framePointers, if_pos he, pointerAfter, if_pos he,
        List.forM_eq_forM, List.forM_nil, pure_bind, if_pos rfl]
    · rw [printFrames, if_neg he, framePointers, if_neg he, pointerAfter, if_neg he,
        List.forM_eq_forM, List.forM_cons, bind_assoc, frameTrace]
      dsimp only
      rw [readFrame_eq_frameWords?]
      rcases hw : frameWords? d m e with err | ws
      · rfl
      · -- a frame read whole goes on at its saved frame pointer
        simp only [Functor.map, Except.map, Print.ofExcept_ok_bind, bind_assoc]
        rw [savedEbp_frameOfWords hw, ih, List.forM_eq_forM]
        congr 1
        funext u
        rcases syms.lookup? (frameOfWords e ws).eip with _ | info
        · exact (Print.throw_bind _ _).symm
        · dsimp only

end Walk

/-- `backtrace` prints its header and walks the chain of frame pointers from the current one. At
each of the chain's first 64 pointers, up to the first zero, it reads the frame's seven words in
the order of `frameReadOrder` and prints the frame and its function. It stops at the first frame
it cannot read, naming the first address in read order whose word is past the top of the address
space or cannot be read through the page tables, and printing nothing for that frame; or, after
the frame's line, at the first return address that no function holds. It ends normally at a zero
pointer, and with the depth error when the pointer after 64 frames is not zero: it prints at most
64 frames and reads at most seven words for each. -/
theorem backtrace_walks_frame_chain (t : Target) (syms : SymbolTable) :
    let d := PageDir.ofRoot t.root
    backtrace t syms =
      (Print.emit "Stack backtrace:\n" >>= fun _ =>
        (framePointers d t.mem maxBacktraceDepth t.ebp).forM (frameTrace d t.mem syms) >>= fun _ =>
          if pointerAfter d t.mem maxBacktraceDepth t.ebp = 0 then pure .next
          else throw (.backtraceTooDeep maxBacktraceDepth)) ∧
    (framePointers d t.mem maxBacktraceDepth t.ebp).length ≤ maxBacktraceDepth ∧
    ∀ e, (∀ err, frameWords? d t.mem e = .error err ↔
        ∃ pre off post, frameReadOrder = pre ++ off :: post ∧
          (∀ o ∈ pre, (stackRead? d t.mem e o).isSome) ∧ stackRead? d t.mem e off = none ∧
          err = .stackUnreadable (e + off.toUInt32)) ∧
      ∀ ws, frameWords? d t.mem e = .ok ws ↔ frameReadOrder.map (stackRead? d t.mem e) = ws.map some := by
  intro d
  refine ⟨?_, length_framePointers_le d t.mem _ _, fun e =>
    ⟨fun _ => mapM_orFail_eq_error_iff, fun _ => mapM_orFail_eq_ok_iff⟩⟩
  rw [backtrace, printFrames_eq_forM, bind_assoc]
  congr 1
  funext u
  congr 1
  funext u'
  split
  · exact pure_bind _ _
  · exact Print.throw_bind _ _

end KernelMonitor
