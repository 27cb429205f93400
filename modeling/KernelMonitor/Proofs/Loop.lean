import KernelMonitor.Monitor.Loop
import KernelMonitor.Proofs.Dispatch

/-! # The monitor loop

Under the built-in commands the loop is a fold of the effects of the command lines of its input:
it stops at the first line that resumes the trapped program, and nothing the console refuses
changes how it ends or what it leaves.
-/

namespace KernelMonitor

namespace LineEditor

variable {keep : Nat}

theorem readFrom_rest_of_line_eq_none {line : List Char} {echo : String} {input : List UInt8}
    (h : (readFrom keep line echo input).line = none) : (readFrom keep line echo input).rest = [] := by
  fun_induction readFrom keep line echo input with
  | case1 => rfl
  | case3 => simp at h
  | case2 _ _ _ _ _ ih | case4 _ _ _ _ _ _ _ ih | case5 _ _ _ _ _ _ _ ih => exact ih h

theorem readFrom_split {line : List Char} {echo : String} {input : List UInt8} {l : String}
    (h : (readFrom keep line echo input).line = some l) :
    ∃ seg b, input = seg ++ b :: (readFrom keep line echo input).rest ∧ isLineEnd b := by
  fun_induction readFrom keep line echo input with
  | case1 => simp at h
  | case3 line echo b rest hb hl => exact ⟨[], b, rfl, hl⟩
  | case2 _ _ b _ _ ih | case4 _ _ b _ _ _ _ ih | case5 _ _ b _ _ _ _ ih =>
    obtain ⟨seg, c, hseg, hc⟩ := ih h
    exact ⟨b :: seg, c, congrArg (List.cons b) hseg, hc⟩

end LineEditor

theorem readLine_rest_of_line_eq_none {input : List UInt8}
    (h : (readLine monitorPrompt lineBufferSize input).line = none) :
    (readLine monitorPrompt lineBufferSize input).rest = [] :=
  LineEditor.readFrom_rest_of_line_eq_none h

theorem readLine_split {input : List UInt8} {l : String}
    (h : (readLine monitorPrompt lineBufferSize input).line = some l) :
    ∃ seg b, input = seg ++ b :: (readLine monitorPrompt lineBufferSize input).rest ∧
      LineEditor.isLineEnd b :=
  LineEditor.readFrom_split h

/-- The command lines the monitor reads from `input`, in order, each with the input left after
its line end. -/
def commandLines (input : List UInt8) : List (String × List UInt8) :=
  let r := readLine monitorPrompt lineBufferSize input
  match _h : r.line with
  | none => []
  | some line => (line, r.rest) :: commandLines r.rest
termination_by input.length
decreasing_by exact readLine_rest_lt _ _ _ (by simp [r] at _h; simp [_h])

theorem commandLines_of_none {input : List UInt8}
    (h : (readLine monitorPrompt lineBufferSize input).line = none) : commandLines input = [] := by
  rw [commandLines]
  split
  · rfl
  · simp_all

theorem commandLines_of_some {input : List UInt8} {line : String}
    (h : (readLine monitorPrompt lineBufferSize input).line = some line) :
    commandLines input =
      (line, (readLine monitorPrompt lineBufferSize input).rest) ::
        commandLines (readLine monitorPrompt lineBufferSize input).rest := by
  rw [commandLines]
  split
  · simp_all
  · rename_i l hl
    rw [h] at hl
    cases hl
    rfl

/-- Every command line ends at a carriage return or a line feed of the input: a last piece of
input with no line end is never read as a line. -/
theorem commandLines_line_end {input : List UInt8} {line : String} {rest : List UInt8}
    (h : (line, rest) ∈ commandLines input) :
    ∃ pre seg b, input = pre ++ seg ++ b :: rest ∧ LineEditor.isLineEnd b := by
  induction input using commandLines.induct with
  | case1 input r hn => simp [commandLines_of_none hn] at h
  | case2 input r l hl ih =>
    dsimp only [r] at hl ih
    rw [commandLines_of_some hl] at h
    obtain ⟨seg, b, hseg, hb⟩ := readLine_split hl
    rcases List.mem_cons.mp h with h | h
    · cases h
      exact ⟨[], seg, b, by simpa using hseg, hb⟩
    · obtain ⟨pre, seg', c, hpre, hc⟩ := ih h
      refine ⟨seg ++ b :: pre, seg', c, ?_, hc⟩
      rw [hseg, hpre]
      simp

/-- What a run of the monitor leaves as the machine sees it: how it ended, the input it did not
read, memory and trap frame. -/
structure RunEffect where
  ending : RunEnd
  rest : List UInt8
  mem : PhysMem
  tf : Option Trapframe

def RunResult.effect (r : RunResult) : RunEffect := ⟨r.ending, r.rest, r.mem, r.tf⟩

/-- The monitor loop as the machine sees it: the effects of the command lines in order, until
one leaves the monitor. -/
def runLines (root ebp : UInt32) (mem : PhysMem) (tf : Option Trapframe) :
    List (String × List UInt8) → RunEffect
  | [] => ⟨.endOfInput, [], mem, tf⟩
  | (line, rest) :: lines =>
    let e := lineEffect ⟨mem, root, ebp⟩ tf line
    match e.flow with
    | .exit => ⟨.exit, rest, e.mem, e.tf⟩
    | .resume => ⟨.resume, rest, e.mem, e.tf⟩
    | .fault f => ⟨.fault f, rest, e.mem, e.tf⟩
    | .next => runLines root ebp e.mem e.tf lines

theorem serve_of_none {setup : Setup} {p : WritePolicy} {root ebp : UInt32} {mem : PhysMem}
    {tf : Option Trapframe} {s : Sink} {log : List Record} {input : List UInt8}
    (h : (readLine monitorPrompt lineBufferSize input).line = none) :
    serve setup p root ebp mem tf s log input =
      ⟨.endOfInput, (readLine monitorPrompt lineBufferSize input).rest, mem, tf,
        s.echo (readLine monitorPrompt lineBufferSize input).echo,
        log ++ [⟨.info, "monitor: end of console input"⟩]⟩ := by
  rw [serve]
  split
  · rfl
  · simp_all

theorem serve_of_some {setup : Setup} {p : WritePolicy} {root ebp : UInt32} {mem : PhysMem}
    {tf : Option Trapframe} {s : Sink} {log : List Record} {input : List UInt8} {line : String}
    (h : (readLine monitorPrompt lineBufferSize input).line = some line) :
    serve setup p root ebp mem tf s log input =
      let r := readLine monitorPrompt lineBufferSize input
      let res := runLine setup p ⟨mem, root, ebp⟩ tf (s.echo r.echo) line
      match res.flow with
      | .exit => ⟨.exit, r.rest, res.mem, res.tf, res.sink, log ++ res.log⟩
      | .resume => ⟨.resume, r.rest, res.mem, res.tf, res.sink, log ++ res.log⟩
      | .fault f => ⟨.fault f, r.rest, res.mem, res.tf, res.sink, log ++ res.log⟩
      | .next => serve setup p root ebp res.mem res.tf res.sink (log ++ res.log) r.rest := by
  rw [serve]
  split
  · simp_all
  · rename_i l hl
    rw [h] at hl
    cases hl
    rfl

/-- The run lemma of the monitor loop: under the built-in commands, the loop ends, leaves input
unread and leaves memory and trap frame as the effects of its command lines say, whatever the
console takes. -/
theorem serve_effect (setup : Setup) (p : WritePolicy) (root ebp : UInt32) (mem : PhysMem)
    (tf : Option Trapframe) (s : Sink) (log : List Record) (input : List UInt8) :
    (serve { setup with registry := Registry.builtin } p root ebp mem tf s log input).effect =
      runLines root ebp mem tf (commandLines input) := by
  induction input using commandLines.induct generalizing mem tf s log with
  | case1 input r hn =>
    have hr : r.rest = [] := readLine_rest_of_line_eq_none hn
    rw [serve_of_none hn, commandLines_of_none hn]
    simp only [RunResult.effect, runLines]
    rw [hr]
  | case2 input r line hl ih =>
    rw [serve_of_some hl, commandLines_of_some hl]
    have he := runLine_effect setup p ⟨mem, root, ebp⟩ tf (s.echo r.echo) line
    simp only [runLines, ← he]
    generalize runLine _ p _ tf (s.echo r.echo) line = res
    rcases res with ⟨_ | _ | _ | _, mem', tf', sink', log'⟩
    · exact ih mem' tf' sink' (log ++ log')
    all_goals rfl

theorem runMonitor_effect (setup : Setup) (p : WritePolicy) (t : Target) (tf : Option Trapframe)
    (s : Sink) (input : List UInt8) :
    (runMonitor { setup with registry := Registry.builtin } p t tf s input).effect =
      runLines t.root t.ebp t.mem tf (commandLines input) := by
  unfold runMonitor
  obtain ⟨r, s', h, -⟩ := Print.yields_emitAll (bannerText _ tf) p s
  rw [h]
  rcases r with _ | _ <;> exact serve_effect setup p _ _ _ _ _ _ input

/-- A console that refuses pieces, in any pattern, changes nothing of what the monitor does to
the machine: under the built-in commands the loop ends the same way, leaves the same input
unread, and leaves the same memory and trap frame as on a console that takes everything. -/
theorem runMonitor_ignores_console_refusals (setup : Setup) (p : WritePolicy) (t : Target)
    (tf : Option Trapframe) (s : Sink) (input : List UInt8) :
    let builtins := { setup with registry := Registry.builtin }
    let r := runMonitor builtins p t tf s input
    let r₀ := runMonitor builtins WritePolicy.unlimited t tf s input
    r.ending = r₀.ending ∧ r.rest = r₀.rest ∧ r.mem = r₀.mem ∧ r.tf = r₀.tf := by
  intro builtins r r₀
  have h : r.effect = r₀.effect :=
    (runMonitor_effect setup p t tf s input).trans (runMonitor_effect setup _ t tf s input).symm
  exact ⟨congrArg RunEffect.ending h, congrArg RunEffect.rest h, congrArg RunEffect.mem h,
    congrArg RunEffect.tf h⟩

/-- The first of `lines` that resumes the trapped program, with the trap flag it asks for and
the input left after it. -/
def firstResume? (lines : List (String × List UInt8)) : Option (Bool × List UInt8) :=
  lines.findSome? fun l => (resumeFlag? l.1).map (·, l.2)

theorem firstResume?_cons_eq_none {line : String} {rest : List UInt8}
    {lines : List (String × List UInt8)} :
    firstResume? ((line, rest) :: lines) = none ↔
      resumeFlag? line = none ∧ firstResume? lines = none := by
  simp only [firstResume?, List.findSome?_cons]
  rcases resumeFlag? line with _ | b <;> simp

section Resume

variable {root ebp : UInt32} {mem : PhysMem}

theorem runLines_of_firstResume? {f : Trapframe} {lines : List (String × List UInt8)} {b : Bool}
    {rest : List UInt8} (h : firstResume? lines = some (b, rest)) :
    let e := runLines root ebp mem (some f) lines
    e.ending = .resume ∧ e.rest = rest ∧ e.tf = some (f.withSingleStep b) := by
  induction lines generalizing mem with
  | nil => simp [firstResume?] at h
  | cons l lines ih =>
    obtain ⟨line, rest'⟩ := l
    simp only [firstResume?, List.findSome?_cons] at h
    rcases hb : resumeFlag? line with _ | b'
    · -- a line that does not resume lets the loop read on with the same trap frame
      rw [hb] at h
      obtain ⟨hflow, htf⟩ := @lineEffect_of_not_resume ⟨mem, root, ebp⟩ (some f) line (.inr hb)
      simp only [runLines, hflow, htf]
      exact ih h
    · rw [hb] at h
      cases h
      simp only [runLines, lineEffect_of_resumeFlag? hb, and_self]

theorem runLines_of_not_resume {tf : Option Trapframe} {lines : List (String × List UInt8)}
    (h : tf = none ∨ firstResume? lines = none) :
    let e := runLines root ebp mem tf lines
    e.ending = .endOfInput ∧ e.rest = [] ∧ e.tf = tf := by
  induction lines generalizing mem with
  | nil => exact ⟨rfl, rfl, rfl⟩
  | cons l lines ih =>
    obtain ⟨line, rest'⟩ := l
    have hl : tf = none ∨ resumeFlag? line = none :=
      h.imp_right fun h => (firstResume?_cons_eq_none.mp h).1
    have hs : tf = none ∨ firstResume? lines = none :=
      h.imp_right fun h => (firstResume?_cons_eq_none.mp h).2
    obtain ⟨hflow, htf⟩ := @lineEffect_of_not_resume ⟨mem, root, ebp⟩ tf line hl
    simp only [runLines, hflow, htf]
    exact ih hs

end Resume

/-- Under the built-in commands the monitor resumes exactly when it has a trap frame and some
command line of its input is exactly `c` or `si`. It stops at the first such line, leaves the
input after that line's end unread, and returns the trap frame with the trap flag cleared for
`c` or set for `si`. Otherwise it reads its whole input and ends with the trap frame as it was;
it never exits. -/
theorem runMonitor_stops_at_first_resume (setup : Setup) (p : WritePolicy) (t : Target)
    (tf : Option Trapframe) (s : Sink) (input : List UInt8) :
    let r := runMonitor { setup with registry := Registry.builtin } p t tf s input
    match tf, firstResume? (commandLines input) with
    | some f, some (b, rest) =>
      r.ending = .resume ∧ r.rest = rest ∧ r.tf = some (f.withSingleStep b)
    | _, _ => r.ending = .endOfInput ∧ r.rest = [] ∧ r.tf = tf := by
  have he := runMonitor_effect setup p t tf s input
  rcases tf with _ | f
  · have hr := @runLines_of_not_resume t.root t.ebp t.mem none (commandLines input) (.inl rfl)
    rw [← he] at hr
    exact hr
  · rcases hf : firstResume? (commandLines input) with _ | ⟨b, rest⟩
    · have hr := @runLines_of_not_resume t.root t.ebp t.mem (some f) (commandLines input) (.inr hf)
      rw [← he] at hr
      exact hr
    · have hr := @runLines_of_firstResume? t.root t.ebp t.mem f (commandLines input) b rest hf
      rw [← he] at hr
      exact hr

end KernelMonitor
