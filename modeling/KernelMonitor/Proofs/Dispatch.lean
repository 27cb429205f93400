import KernelMonitor.Proofs.FaultFree
import KernelMonitor.Proofs.Protection

/-! # What a command line does to the machine

Under the built-in commands a line changes memory only through `modifyperm` and the trap frame
only through `c` or `si`, and what it does to the machine does not depend on what the console
takes.
-/

namespace KernelMonitor

open Print

/-- What running a line does to the machine: how the monitor goes on, and memory and trap frame
afterwards. -/
structure LineEffect where
  flow : Flow
  mem : PhysMem
  tf : Option Trapframe

/-- The effect of a command's report: a command that fails lets the monitor read on. -/
def Report.effect (r : Report) : LineEffect :=
  ⟨match r.ending with
    | .ok flow => flow
    | .error _ => .next, r.mem, r.tf⟩

def LineResult.effect (r : LineResult) : LineEffect := ⟨r.flow, r.mem, r.tf⟩

theorem finishLine_effect (p : WritePolicy) (r : Report) : (finishLine p r).effect = r.effect := by
  unfold finishLine Report.effect LineResult.effect
  split
  next flow h => simp [h]
  next h => simp [h]
  next _ e _ h =>
    obtain ⟨res, s', hx, -⟩ := yields_emitAll (e.pieces ++ ["\n"]) p r.sink
    rw [hx]
    rcases res with _ | _ <;> simp [h]

theorem finishLine_mem_tf (p : WritePolicy) (r : Report) :
    (finishLine p r).mem = r.mem ∧ (finishLine p r).tf = r.tf :=
  ⟨congrArg LineEffect.mem (finishLine_effect p r), congrArg LineEffect.tf (finishLine_effect p r)⟩

theorem ofPrint_effect {p : WritePolicy} {t : Target} {tf : Option Trapframe} {s : Sink}
    {x : Print Flow} (hx : x.Yields (· = .next)) :
    (Report.ofPrint p t tf s x).effect = ⟨.next, t.mem, tf⟩ := by
  obtain ⟨r, s', h, hr⟩ := hx p s
  unfold Report.ofPrint Report.effect
  rw [h]
  rcases r with _ | flow
  · rfl
  · simp only [LineEffect.mk.injEq, and_true]
    exact hr flow rfl

theorem ofPrint_mem_tf (p : WritePolicy) (t : Target) (tf : Option Trapframe) (s : Sink)
    (x : Print Flow) :
    (Report.ofPrint p t tf s x).mem = t.mem ∧ (Report.ofPrint p t tf s x).tf = tf := by
  unfold Report.ofPrint
  split <;> exact ⟨rfl, rfl⟩

/-- The effect of `c` or `si`: the monitor resumes with the frame `resume` made, or reads on. -/
def resumeEffect (t : Target) (tf : Option Trapframe) :
    Except MonitorError (Trapframe × Record) → LineEffect
  | .ok (f, _) => ⟨.resume, t.mem, some f⟩
  | .error _ => ⟨.next, t.mem, tf⟩

section Resume

variable {setup : Setup} {p : WritePolicy} {t : Target} {tf : Option Trapframe} {s : Sink}

theorem resumeEffect_mem (x : Except MonitorError (Trapframe × Record)) :
    (resumeEffect t tf x).mem = t.mem := by
  rcases x with _ | _ <;> rfl

theorem resumeEffect_of_not {name what : String} {args : List String} {on : Bool}
    (h : args ≠ [] ∨ tf = none) :
    resumeEffect t tf (resume (name :: args) tf what on) = ⟨.next, t.mem, tf⟩ := by
  unfold resume
  rcases h with h | rfl
  · rw [if_pos (by simpa using h)]
    rfl
  · split <;> rfl

theorem resumeReport_effect (x : Except MonitorError (Trapframe × Record)) :
    (Builtin.run.resumeReport t tf s x).effect = resumeEffect t tf x := by
  rcases x with _ | _ <;> rfl

theorem resumeReport_of_error {x : Except MonitorError (Trapframe × Record)} {e : MonitorError}
    (h : (Builtin.run.resumeReport t tf s x).ending = .error e) :
    (Builtin.run.resumeReport t tf s x).mem = t.mem ∧
      (Builtin.run.resumeReport t tf s x).tf = tf := by
  rcases x with _ | _
  · exact ⟨rfl, rfl⟩
  · cases h

end Resume

/-- What a built-in command does to the machine, whatever the console takes: `modifyperm` may
write memory, `c` and `si` may set the trap frame and leave the monitor, and every other command
only prints. -/
def Builtin.effect (b : Builtin) (t : Target) (argv : List String) (tf : Option Trapframe) :
    LineEffect :=
  match b with
  | .modifyperm =>
    match KernelMonitor.modifyperm t argv with
    | .ok (mem, _) => ⟨.next, mem, tf⟩
    | .error _ => ⟨.next, t.mem, tf⟩
  | .proceed => resumeEffect t tf (resume argv tf "continue" false)
  | .step => resumeEffect t tf (resume argv tf "step" true)
  | _ => ⟨.next, t.mem, tf⟩

theorem Builtin.run_effect (b : Builtin) (setup : Setup) (p : WritePolicy) (t : Target)
    (argv : List String) (tf : Option Trapframe) (s : Sink) :
    (b.run setup p t argv tf s).effect = b.effect t argv tf := by
  cases b with
  | help => exact ofPrint_effect (yields_bind_pure (yields_emitAll _))
  | kerninfo => exact ofPrint_effect (yields_bind_pure (yields_emitAll _))
  | backtrace => exact ofPrint_effect (backtrace_yields_next _)
  | showmappings => exact ofPrint_effect showmappings_yields_next
  | content => exact ofPrint_effect content_yields_next
  | modifyperm =>
    simp only [run, effect]
    rcases KernelMonitor.modifyperm t argv with _ | ⟨mem, _⟩ <;> rfl
  | proceed | step => exact resumeReport_effect _

theorem Registry.find?_builtin (n : String) :
    Registry.builtin.find? n = (Builtin.ofName? n).map Command.ofBuiltin := by
  simp only [Registry.find?, Registry.builtin, Builtin.ofName?, List.find?_map]
  rfl

theorem Builtin.name_of_ofName? {n : String} {b : Builtin} (h : Builtin.ofName? n = some b) :
    b.name = n := by
  simpa using List.find?_some h

/-- What a line does to the machine under the built-in commands, whatever the console takes. -/
def lineEffect (t : Target) (tf : Option Trapframe) (line : String) : LineEffect :=
  match tokenize line with
  | .ok (name :: args) =>
    match Builtin.ofName? name with
    | some b => b.effect t (name :: args) tf
    | none => ⟨.next, t.mem, tf⟩
  | _ => ⟨.next, t.mem, tf⟩

/-- The step of the monitor loop: under the built-in commands, how the monitor goes on after a
line and what the line leaves in memory and trap frame is the line's effect, whatever the
console takes and whatever it received before. -/
theorem runLine_effect (setup : Setup) (p : WritePolicy) (t : Target) (tf : Option Trapframe)
    (s : Sink) (line : String) :
    (runLine { setup with registry := Registry.builtin } p t tf s line).effect =
      lineEffect t tf line := by
  unfold runLine lineEffect
  rcases h : tokenize line with e | _ | ⟨name, args⟩
  · exact finishLine_effect p _
  · rfl
  · dsimp only
    rw [Registry.find?_builtin]
    rcases Builtin.ofName? name with _ | b
    · simp only [Option.map_none, finishLine_effect]
      exact ofPrint_effect (yields_bind_pure (yields_emitAll _))
    · simp only [Option.map_some, finishLine_effect]
      exact Builtin.run_effect b _ p t _ tf s

/-- The trap flag a line resumes the trapped program with: its words are exactly `c`, which
clears the flag, or exactly `si`, which sets it. -/
def resumeFlag? (line : String) : Option Bool :=
  match tokenize line with
  | .ok ["c"] => some false
  | .ok ["si"] => some true
  | _ => none

theorem lineEffect_of_resumeFlag? {t : Target} {f : Trapframe} {line : String} {b : Bool}
    (h : resumeFlag? line = some b) :
    lineEffect t (some f) line = ⟨.resume, t.mem, some (f.withSingleStep b)⟩ := by
  unfold resumeFlag? at h
  unfold lineEffect
  split at h
  next hc =>
    cases h
    rw [hc]
    rfl
  next hs =>
    cases h
    rw [hs]
    rfl
  next => cases h

theorem lineEffect_of_not_resume {t : Target} {tf : Option Trapframe} {line : String}
    (h : tf = none ∨ resumeFlag? line = none) :
    (lineEffect t tf line).flow = .next ∧ (lineEffect t tf line).tf = tf := by
  unfold lineEffect
  rcases htok : tokenize line with e | _ | ⟨name, args⟩
  · exact ⟨rfl, rfl⟩
  · exact ⟨rfl, rfl⟩
  · dsimp only
    rcases hb : Builtin.ofName? name with _ | b
    · exact ⟨rfl, rfl⟩
    · cases b with
      | modifyperm =>
        simp only [Builtin.effect]
        split <;> exact ⟨rfl, rfl⟩
      | proceed | step =>
        -- the bare word `c` or `si` is what `resumeFlag?` reads, so it meets no trap frame here
        have hargs : args ≠ [] ∨ tf = none := by
          rcases h with h | h
          · exact .inr h
          · left
            rintro rfl
            rw [← Builtin.name_of_ofName? hb] at htok
            simp [resumeFlag?, htok, Builtin.name] at h
        simp only [Builtin.effect, resumeEffect_of_not hargs, and_self]
      | help | kerninfo | backtrace | showmappings | content => exact ⟨rfl, rfl⟩

/-- A line changes memory only as a successful `modifyperm` does. -/
theorem lineEffect_mem (t : Target) (tf : Option Trapframe) (line : String) :
    (lineEffect t tf line).mem = t.mem ∨
      ∃ args r, tokenize line = .ok ("modifyperm" :: args) ∧
        modifyperm t ("modifyperm" :: args) = .ok ((lineEffect t tf line).mem, r) := by
  unfold lineEffect
  rcases htok : tokenize line with e | _ | ⟨name, args⟩
  · exact .inl rfl
  · exact .inl rfl
  · dsimp only
    rcases hb : Builtin.ofName? name with _ | b
    · exact .inl rfl
    · cases b with
      | modifyperm =>
        have hn := Builtin.name_of_ofName? hb
        subst hn
        simp only [Builtin.effect]
        rcases hm : modifyperm t (Builtin.modifyperm.name :: args) with e | ⟨mem, r⟩
        · exact .inl rfl
        · exact .inr ⟨args, r, rfl, hm⟩
      | proceed | step => exact .inl (resumeEffect_mem _)
      | help | kerninfo | backtrace | showmappings | content => exact .inl rfl

namespace Trapframe

theorem withSingleStep_eq (f : Trapframe) (on : Bool) :
    f.withSingleStep on = { f with eflags := (f.withSingleStep on).eflags } := rfl

theorem eflags_withSingleStep_and_not (f : Trapframe) (on : Bool) :
    (f.withSingleStep on).eflags &&& ~~~trapFlag = f.eflags &&& ~~~trapFlag := by
  apply UInt32.toBitVec_inj.mp
  ext i hi
  cases on <;> simp only [withSingleStep, Bool.false_eq_true, reduceIte, UInt32.toBitVec_and,
    UInt32.toBitVec_or, UInt32.toBitVec_not, BitVec.getElem_and, BitVec.getElem_or,
    BitVec.getElem_not] <;> grind

theorem singleStep_withSingleStep (f : Trapframe) (on : Bool) :
    (f.withSingleStep on).singleStep = on := by
  have h : (f.withSingleStep on).eflags &&& trapFlag = if on then trapFlag else 0 := by
    apply UInt32.toBitVec_inj.mp
    ext i hi
    cases on <;> simp only [withSingleStep, Bool.false_eq_true, reduceIte, UInt32.toBitVec_and,
      UInt32.toBitVec_or, UInt32.toBitVec_not, BitVec.getElem_and, BitVec.getElem_or,
      BitVec.getElem_not, UInt32.toBitVec_zero, BitVec.getElem_zero] <;> grind
  rw [singleStep, h]
  cases on <;> decide

end Trapframe

/-- A line fails when it has too many words, names no command, or names a command that ends
with an error. -/
def LineFails (setup : Setup) (p : WritePolicy) (t : Target) (tf : Option Trapframe) (s : Sink)
    (line : String) : Prop :=
  match tokenize line with
  | .error _ => True
  | .ok [] => False
  | .ok (name :: args) =>
    match setup.registry.find? name with
    | none => True
    | some cmd => ∃ e, (cmd.run setup p t (name :: args) tf s).ending = .error e

section Failure

variable {setup : Setup} {p : WritePolicy} {t : Target} {tf : Option Trapframe} {s : Sink}

theorem Builtin.run_of_error {b : Builtin} {argv : List String} {e : MonitorError}
    (h : (b.run setup p t argv tf s).ending = .error e) :
    (b.run setup p t argv tf s).mem = t.mem ∧ (b.run setup p t argv tf s).tf = tf := by
  cases b with
  | modifyperm =>
    simp only [Builtin.run] at h ⊢
    split at h
    · cases h
    · exact ⟨rfl, rfl⟩
  | proceed | step => exact resumeReport_of_error h
  | help | kerninfo | backtrace | showmappings | content => exact ofPrint_mem_tf _ _ _ _ _

theorem runLine_of_lineFails {line : String}
    (h : LineFails { setup with registry := Registry.builtin } p t tf s line) :
    (runLine { setup with registry := Registry.builtin } p t tf s line).mem = t.mem ∧
      (runLine { setup with registry := Registry.builtin } p t tf s line).tf = tf := by
  unfold LineFails at h
  unfold runLine
  rcases htok : tokenize line with e | _ | ⟨name, args⟩ <;> simp only [htok] at h
  · exact finishLine_mem_tf p _
  · dsimp only at h ⊢
    rw [Registry.find?_builtin] at h ⊢
    rcases hb : Builtin.ofName? name with _ | b <;> simp only [hb, Option.map] at h ⊢
    · obtain ⟨hm, ht⟩ := finishLine_mem_tf p (unknownCommand p t tf s name)
      obtain ⟨hm', ht'⟩ := ofPrint_mem_tf p t tf s _
      exact ⟨hm.trans hm', ht.trans ht'⟩
    · -- the command found is a built-in, which fails without a trace
      obtain ⟨e, he⟩ := h
      obtain ⟨hm, ht⟩ := Builtin.run_of_error he
      obtain ⟨hm', ht'⟩ := finishLine_mem_tf p (b.run { setup with registry := Registry.builtin }
        p t (name :: args) tf s)
      exact ⟨hm'.trans hm, ht'.trans ht⟩

end Failure

/-- Under the built-in commands a line changes memory only by a successful `modifyperm`, and
then only in the one word at the table-entry slot of the address it names; it changes the trap
frame only when its words are exactly `c` or `si` and a trap frame is there, and then only the
trap flag of EFLAGS; and a line that fails changes neither. -/
theorem runLine_changes_only_entry_and_trap_flag (setup : Setup) (p : WritePolicy) (t : Target)
    (tf : Option Trapframe) (s : Sink) (line : String) :
    let builtins := { setup with registry := Registry.builtin }
    let r := runLine builtins p t tf s line
    (r.mem = t.mem ∨
      ∃ opWord addrWord rest va slot v rec,
        tokenize line = .ok ("modifyperm" :: opWord :: addrWord :: rest) ∧
        modifyperm t ("modifyperm" :: opWord :: addrWord :: rest) = .ok (r.mem, rec) ∧
        parseNonzeroHex? addrWord = some va ∧
        (PageDir.ofRoot t.root).lookup? t.mem va = some slot ∧
        t.mem.write32? slot v = some r.mem) ∧
    (r.tf = tf ∨
      ∃ f f' b, tf = some f ∧ resumeFlag? line = some b ∧ r.tf = some f' ∧
        f' = { f with eflags := f'.eflags } ∧
        f'.eflags &&& ~~~Trapframe.trapFlag = f.eflags &&& ~~~Trapframe.trapFlag ∧
        f'.singleStep = b) ∧
    (LineFails builtins p t tf s line → r.mem = t.mem ∧ r.tf = tf) := by
  intro builtins r
  have he := runLine_effect setup p t tf s line
  have hmem : r.mem = (lineEffect t tf line).mem := congrArg LineEffect.mem he
  have htf : r.tf = (lineEffect t tf line).tf := congrArg LineEffect.tf he
  refine ⟨?_, ?_, runLine_of_lineFails⟩
  · rcases lineEffect_mem t tf line with h | ⟨args, rec, htok, hm⟩
    · exact .inl (hmem.trans h)
    · rw [← hmem] at hm
      obtain ⟨_, opWord, addrWord, rest, va, _, _, slot, _, hargs, hva, -, -, hslot, -, -, hw⟩ :=
        modifyperm_eq_ok hm
      cases hargs
      exact .inr ⟨opWord, addrWord, rest, va, slot, _, rec, htok, hm, hva, hslot, hw⟩
  · rcases tf with _ | f
    · exact .inl (htf.trans (lineEffect_of_not_resume (.inl rfl)).2)
    · rcases hb : resumeFlag? line with _ | b
      · exact .inl (htf.trans (lineEffect_of_not_resume (.inr hb)).2)
      · rw [lineEffect_of_resumeFlag? hb] at htf
        exact .inr ⟨f, _, b, rfl, rfl, htf, Trapframe.withSingleStep_eq f b,
          Trapframe.eflags_withSingleStep_and_not f b, Trapframe.singleStep_withSingleStep f b⟩

end KernelMonitor
