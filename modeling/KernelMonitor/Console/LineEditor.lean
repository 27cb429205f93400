/-! # Line editing

A line is read byte by byte after the prompt is echoed. Backspace or delete removes the last
character, carriage return or line feed ends the line, and a printable ASCII byte is kept while
the line is shorter than the buffer allows; every other byte is dropped. Each kept byte is
echoed, a removal echoes a backspace, and the end of a line echoes a newline.
-/

namespace KernelMonitor

structure LineRead where
  line : Option String
  rest : List UInt8
  echo : String
  deriving DecidableEq, Repr

namespace LineEditor

def isLineEnd (b : UInt8) : Bool := b = 13 || b = 10

def isErase (b : UInt8) : Bool := b = 8 || b = 0x7f

def isPrintable (b : UInt8) : Bool := 0x20 ≤ b && b ≤ 0x7e

/-- Continues a line `line` of at most `keep` characters with echo `echo` so far. -/
def readFrom (keep : Nat) (line : List Char) (echo : String) : List UInt8 → LineRead
  | [] => ⟨none, [], echo⟩
  | b :: rest =>
    if isErase b && !line.isEmpty then readFrom keep line.dropLast (echo.push '\x08') rest
    else if isLineEnd b then ⟨some (String.ofList line), rest, echo.push '\n'⟩
    else if isPrintable b && line.length < keep then
      readFrom keep (line ++ [Char.ofNat b.toNat]) (echo.push (Char.ofNat b.toNat)) rest
    else readFrom keep line echo rest

end LineEditor

/-- Reads one line into a buffer of `buflen` bytes, which keeps at most `buflen - 1` characters. -/
def readLine (prompt : String) (buflen : Nat) (input : List UInt8) : LineRead :=
  LineEditor.readFrom (buflen - 1) [] prompt input

/-- Reads at most `n` lines, each after its prompt: the lines, `none` last if the input ended
first, the whole echo and the bytes not read. -/
def readLines (prompt : String) (buflen : Nat) : Nat → List UInt8 →
    List (Option String) × String × List UInt8
  | 0, input => ([], "", input)
  | n + 1, input =>
    let r := readLine prompt buflen input
    match r.line with
    | none => ([none], r.echo, r.rest)
    | some l =>
      let (ls, e, rest) := readLines prompt buflen n r.rest
      (some l :: ls, r.echo ++ e, rest)


namespace LineEditor

theorem readFrom_rest_lt (keep : Nat) (line : List Char) (echo : String) (input : List UInt8)
    (h : (readFrom keep line echo input).line.isSome) :
    (readFrom keep line echo input).rest.length < input.length := by
  induction input generalizing line echo with
  | nil => simp [readFrom] at h
  | cons b rest ih =>
    unfold readFrom at h ⊢
    split
    next hc =>
      simp only [hc, if_true] at h
      exact Nat.lt_succ_of_lt (ih _ _ h)
    next hc =>
      simp only [hc] at h
      split
      next => simp
      next hc2 =>
        simp only [hc2] at h
        split
        next hc3 =>
          simp only [hc3, if_true] at h
          exact Nat.lt_succ_of_lt (ih _ _ h)
        next hc3 =>
          simp only [hc3] at h
          exact Nat.lt_succ_of_lt (ih _ _ h)

end LineEditor

theorem readLine_rest_lt (prompt : String) (buflen : Nat) (input : List UInt8)
    (h : (readLine prompt buflen input).line.isSome) :
    (readLine prompt buflen input).rest.length < input.length :=
  LineEditor.readFrom_rest_lt _ _ _ _ h

end KernelMonitor
