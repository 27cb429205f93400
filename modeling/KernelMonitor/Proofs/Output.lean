import KernelMonitor.Proofs.Dispatch

/-! # What a command line prints

A line's words decide what the console is offered under any registry: nothing for a blank line,
one error line for too many words or an unknown name, and otherwise the output of the first
command of that name, then its error line if it fails.
-/

namespace KernelMonitor

namespace Sink

/-- The console after `pieces` are offered in order, up to the first one it refuses. -/
def offer (p : WritePolicy) (s : Sink) : List String → Sink
  | [] => s
  | x :: xs => if (s.write p x).2 then (s.write p x).1.offer p xs else (s.write p x).1

end Sink

namespace Print

variable {α β : Type}

theorem ext {x y : Print α} (h : ∀ p s, x.exec p s = y.exec p s) : x = y := by
  funext p s
  exact h p s

theorem throw_bind (e : MonitorError) (k : α → Print β) : (throw e : Print α) >>= k = throw e :=
  ext fun p s => by rw [exec_bind]; rfl

theorem ofExcept_ok_bind (a : α) (k : α → Print β) : ofExcept (.ok a) >>= k = k a := by
  simp [ofExcept]

theorem ofExcept_bind (x : Except MonitorError α) (k : α → Except MonitorError β) :
    ofExcept (x >>= k) = ofExcept x >>= fun a => ofExcept (k a) := by
  cases x with
  | error e => exact (throw_bind e _).symm
  | ok a => exact (ofExcept_ok_bind a fun a => ofExcept (k a)).symm

theorem ofExcept_pure (a : α) : ofExcept (pure a : Except MonitorError α) = pure a := rfl

theorem exec_emitAll (pieces : List String) (p : WritePolicy) (s : Sink) :
    (emitAll pieces).exec p s = .ok (.ok (), s.offer p pieces) ∨
      (emitAll pieces).exec p s = .ok (.error .console, s.offer p pieces) := by
  induction pieces generalizing s with
  | nil => exact .inl rfl
  | cons x xs ih =>
    rw [emitAll, exec_bind, exec_emit, Sink.offer]
    by_cases h : (s.write p x).2
    · simp only [h, if_true]
      exact ih _
    · simp [h]

end Print

theorem Sink.out_offer_unlimited (s : Sink) (pieces : List String) :
    (s.offer .unlimited pieces).out = s.out ++ String.join pieces := by
  induction pieces generalizing s with
  | nil => exact String.append_empty.symm
  | cons x xs ih =>
    simp only [Sink.offer, Sink.write, WritePolicy.unlimited, if_true] at ih ⊢
    simp [ih, String.append_assoc]

example : (({} : Sink).offer .unlimited ["Too many arguments (max ", "16", ")", "\n"]).out =
    "Too many arguments (max 16)\n" := by
  rw [Sink.out_offer_unlimited]
  decide

section Finish

variable {p : WritePolicy} {r : Report}

theorem finishLine_of_ok {flow : Flow} (h : r.ending = .ok flow) :
    finishLine p r = ⟨flow, r.mem, r.tf, r.sink, r.log⟩ := by
  simp [finishLine, h]

theorem finishLine_of_console (h : r.ending = .error .console) :
    finishLine p r = ⟨.next, r.mem, r.tf, r.sink, r.log ++ [consoleWarning]⟩ := by
  simp [finishLine, h]

theorem finishLine_of_error {e : MonitorError} (h : r.ending = .error e) (he : e ≠ .console) :
    ∃ log, finishLine p r = ⟨.next, r.mem, r.tf, r.sink.offer p (e.pieces ++ ["\n"]), log⟩ := by
  unfold finishLine
  split
  · simp_all
  · simp_all
  · rename_i e' _ h'
    rw [h, Except.error.injEq] at h'
    subst h'
    -- the error line is logged as refused or not, and either way the console holds the offer
    rcases Print.exec_emitAll (e.pieces ++ ["\n"]) p r.sink with hx | hx <;> rw [hx]
    · exact ⟨_, rfl⟩
    · exact ⟨_, rfl⟩

end Finish

theorem Registry.find?_eq_some {reg pre post : Registry} {cmd : Command} {name : String}
    (h : reg = pre ++ cmd :: post) (hname : cmd.name = name) (hpre : ∀ c ∈ pre, c.name ≠ name) :
    reg.find? name = some cmd := by
  subst h
  rw [Registry.find?, List.find?_append, List.find?_eq_none.mpr (by simpa using hpre)]
  simp [hname]

theorem Registry.find?_eq_none {reg : Registry} {name : String} (h : ∀ c ∈ reg, c.name ≠ name) :
    reg.find? name = none :=
  List.find?_eq_none.mpr (by simpa using h)

section Lines

variable {setup : Setup} {p : WritePolicy} {t : Target} {tf : Option Trapframe} {s : Sink}
  {line : String}

theorem tokenize_of_fifteen_lt (h : 15 < (words line).length) :
    tokenize line = .error (.tooManyArguments maxArgs) := by
  rw [tokenize, if_neg (by simp only [maxArgs]; omega)]

theorem tokenize_of_le_fifteen (h : (words line).length ≤ 15) :
    tokenize line = .ok (words line) := by
  rw [tokenize, if_pos (by simp only [maxArgs]; omega)]

theorem runLine_of_too_many (h : 15 < (words line).length) :
    ∃ log, runLine setup p t tf s line =
      ⟨.next, t.mem, tf, s.offer p ["Too many arguments (max ", "16", ")", "\n"], log⟩ := by
  have he : MonitorError.tooManyArguments maxArgs ≠ .console := by decide
  rw [runLine, tokenize_of_fifteen_lt h]
  exact finishLine_of_error rfl he

theorem runLine_of_blank (h : words line = []) :
    runLine setup p t tf s line = ⟨.next, t.mem, tf, s, []⟩ := by
  rw [runLine, tokenize_of_le_fifteen (by simp [h]), h]

theorem runLine_of_unknown {name : String} {args : List String} (h : words line = name :: args)
    (hlen : (words line).length ≤ 15) (hn : ∀ c ∈ setup.registry, c.name ≠ name) :
    ∃ log, runLine setup p t tf s line =
      ⟨.next, t.mem, tf, s.offer p ["Unknown command '", name, "'\n"], log⟩ := by
  rw [runLine, tokenize_of_le_fifteen hlen, h]
  dsimp only
  rw [Registry.find?_eq_none hn]
  unfold unknownCommand Report.ofPrint
  rw [Print.exec_bind]
  rcases Print.exec_emitAll ["Unknown command '", name, "'\n"] p s with hx | hx <;> rw [hx]
  · exact ⟨_, finishLine_of_ok rfl⟩
  · exact ⟨_, finishLine_of_console rfl⟩

theorem runLine_of_find? {name : String} {args : List String} {cmd : Command}
    (h : words line = name :: args) (hlen : (words line).length ≤ 15)
    (hc : setup.registry.find? name = some cmd) :
    runLine setup p t tf s line = finishLine p (cmd.run setup p t (name :: args) tf s) := by
  rw [runLine, tokenize_of_le_fifteen hlen, h]
  dsimp only
  rw [hc]

end Lines

/-- A command line under any registry, custom commands and repeated names included. With more
than fifteen words it prints the too-many-arguments line and nothing else; with none it prints
nothing; when no command has its first word as name it prints the unknown-command line and
nothing else. Otherwise it runs the first command of that name, once, on all its words and the
trap frame, and the line ends as that run does: with its flow, or, after a failure, reading on,
with the error printed after the command's own output unless the console refused a piece. -/
theorem runLine_runs_first_command_of_name (setup : Setup) (p : WritePolicy) (t : Target)
    (tf : Option Trapframe) (s : Sink) (line : String) :
    let r := runLine setup p t tf s line
    (15 < (words line).length →
      ∃ log, r = ⟨.next, t.mem, tf, s.offer p ["Too many arguments (max ", "16", ")", "\n"], log⟩) ∧
    (words line = [] → r = ⟨.next, t.mem, tf, s, []⟩) ∧
    (∀ name args, words line = name :: args → (words line).length ≤ 15 →
      (∀ c ∈ setup.registry, c.name ≠ name) →
      ∃ log, r = ⟨.next, t.mem, tf, s.offer p ["Unknown command '", name, "'\n"], log⟩) ∧
    (∀ name args pre cmd post, words line = name :: args → (words line).length ≤ 15 →
      setup.registry = pre ++ cmd :: post → cmd.name = name → (∀ c ∈ pre, c.name ≠ name) →
      let rep := cmd.run setup p t (name :: args) tf s
      (∀ flow, rep.ending = .ok flow → r = ⟨flow, rep.mem, rep.tf, rep.sink, rep.log⟩) ∧
      (rep.ending = .error .console →
        r = ⟨.next, rep.mem, rep.tf, rep.sink, rep.log ++ [consoleWarning]⟩) ∧
      (∀ e, rep.ending = .error e → e ≠ .console →
        ∃ log, r = ⟨.next, rep.mem, rep.tf, rep.sink.offer p (e.pieces ++ ["\n"]), log⟩)) := by
  intro r
  refine ⟨runLine_of_too_many, runLine_of_blank,
    fun name args h hlen hn => runLine_of_unknown h hlen hn, ?_⟩
  intro name args pre cmd post h hlen hreg hname hpre rep
  have hr : r = finishLine p rep :=
    runLine_of_find? h hlen (Registry.find?_eq_some hreg hname hpre)
  rw [hr]
  exact ⟨fun flow => finishLine_of_ok, finishLine_of_console, fun e => finishLine_of_error⟩

/-- Behind `help`, two commands named `quit`: the line `quit now` runs the first, which leaves
the monitor, and prints nothing. -/
theorem runLine_quit_runs_first_of_two :
    let quit : Command := ⟨"quit", "leave", .fixed .exit⟩
    let stay : Command := ⟨"quit", "stay", .fixed .next⟩
    let setup : Setup := { registry := [Command.ofBuiltin .help, quit, stay] }
    let t : Target := ⟨PhysMem.blank 1, 0, 0⟩
    words "quit now" = ["quit", "now"] ∧ (words "quit now").length ≤ 15 ∧
      setup.registry = [Command.ofBuiltin .help] ++ quit :: [stay] ∧ quit.name = "quit" ∧
      (∀ c ∈ [Command.ofBuiltin .help], c.name ≠ "quit") ∧
      runLine setup .unlimited t none {} "quit now" = ⟨.exit, t.mem, none, {}, []⟩ := by
  intro quit stay setup t
  have hw : words "quit now" = ["quit", "now"] := by decide
  have hlen : (words "quit now").length ≤ 15 := by rw [hw]; decide
  have hpre : ∀ c ∈ [Command.ofBuiltin .help], c.name ≠ "quit" := by decide
  refine ⟨hw, hlen, rfl, rfl, hpre, ?_⟩
  exact ((runLine_runs_first_command_of_name setup .unlimited t none {} "quit now").2.2.2
    "quit" ["now"] [Command.ofBuiltin .help] quit [stay] hw hlen rfl rfl hpre).1 .exit rfl

end KernelMonitor
