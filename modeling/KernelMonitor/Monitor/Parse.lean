import KernelMonitor.Monitor.Error

/-! # Reading command arguments

A command line splits into words at tabs, carriage returns, line feeds and blanks. A number is
read in hexadecimal: leading blanks and tabs, one optional sign, a `0x` only where a digit
follows it, and the longest run of hexadecimal digits, all taken modulo `2 ^ 32`.
-/

namespace KernelMonitor

def isSeparator (c : Char) : Bool := c = '\t' || c = '\r' || c = '\n' || c = ' '

/-- The words of `cs`, given the reversed characters `cur` of the word in progress. -/
def wordsFrom (cur : List Char) : List Char → List String
  | [] => if cur.isEmpty then [] else [String.ofList cur.reverse]
  | c :: cs =>
    if isSeparator c then
      if cur.isEmpty then wordsFrom [] cs else String.ofList cur.reverse :: wordsFrom [] cs
    else wordsFrom (c :: cur) cs

/-- The words of a line: its longest runs of characters that are not separators. -/
def words (line : String) : List String := wordsFrom [] line.toList

/-- The most words a command line may have, the command name included, plus one. -/
def maxArgs : Nat := 16

/-- The words of a command line, refused when there are `maxArgs` of them or more. -/
def tokenize (line : String) : Except MonitorError (List String) :=
  let ws := words line
  if ws.length < maxArgs then .ok ws else .error (.tooManyArguments maxArgs)

def hexValue? (c : Char) : Option UInt32 :=
  if '0' ≤ c ∧ c ≤ '9' then some (c.toNat - 48).toUInt32
  else if 'a' ≤ c ∧ c ≤ 'f' then some (c.toNat - 87).toUInt32
  else if 'A' ≤ c ∧ c ≤ 'F' then some (c.toNat - 55).toUInt32
  else none

def isHexDigit (c : Char) : Bool := (hexValue? c).isSome

/-- The value of a run of hexadecimal digits read from the left, modulo `2 ^ 32`. -/
def digitsValue (acc : UInt32) : List Char → UInt32
  | [] => acc
  | c :: cs =>
    match hexValue? c with
    | some d => digitsValue (acc * 16 + d) cs
    | none => acc

/-- Drops a `0x` or `0X` that a hexadecimal digit follows. -/
def dropHexPrefix : List Char → List Char
  | '0' :: x :: d :: r => if (x = 'x' || x = 'X') && isHexDigit d then d :: r else '0' :: x :: d :: r
  | cs => cs

/-- A number in hexadecimal, modulo `2 ^ 32`; a minus sign negates it. -/
def parseHex (s : String) : UInt32 :=
  let cs := s.toList.dropWhile (fun c => c = ' ' || c = '\t')
  match cs with
  | '-' :: r => 0 - digitsValue 0 (dropHexPrefix r)
  | '+' :: r => digitsValue 0 (dropHexPrefix r)
  | r => digitsValue 0 (dropHexPrefix r)

def parseNonzeroHex? (s : String) : Option UInt32 :=
  match parseHex s with
  | 0 => none
  | v => some v

/-- A range of two nonzero hexadecimal numbers, the first at most the second. -/
def parseRange (start stop : String) : Except MonitorError (UInt32 × UInt32) :=
  match parseNonzeroHex? start, parseNonzeroHex? stop with
  | some a, some b => if a ≤ b then .ok (a, b) else .error .illegalRange
  | _, _ => .error .illegalRange

end KernelMonitor
