import KernelMonitor.Address
import KernelMonitor.Text.Escape

/-! # Monitor errors

Each way a command can fail is a constructor. Its message is written as pieces, the way the
console receives it, and it has a debug form that names the constructor.
-/

namespace KernelMonitor

open Text

/-- Why a monitor command failed. -/
inductive MonitorError where
  | notEnoughArguments
  | invalidArguments
  | invalidParameterCount
  | tooManyArguments (max : Nat)
  | illegalRange
  | illegalAddress
  | invalidPermission (c : Char)
  | invalidOperation
  | invalidType
  | pageNotFound (va : UInt32)
  | physOutOfRange (pa : UInt32)
  | stackUnreadable (va : UInt32)
  | symbolNotFound (eip : UInt32)
  | backtraceTooDeep (depth : Nat)
  | noTrapContext (what : String)
  | console
  deriving DecidableEq, Repr

namespace MonitorError

def name : MonitorError → String
  | .notEnoughArguments => "NotEnoughArguments"
  | .invalidArguments => "InvalidArguments"
  | .invalidParameterCount => "InvalidParameterCount"
  | .tooManyArguments _ => "TooManyArguments"
  | .illegalRange => "IllegalRange"
  | .illegalAddress => "IllegalAddress"
  | .invalidPermission _ => "InvalidPermission"
  | .invalidOperation => "InvalidOperation"
  | .invalidType => "InvalidType"
  | .pageNotFound _ => "PageNotFound"
  | .physOutOfRange _ => "PhysOutOfRange"
  | .stackUnreadable _ => "StackUnreadable"
  | .symbolNotFound _ => "SymbolNotFound"
  | .backtraceTooDeep _ => "BacktraceTooDeep"
  | .noTrapContext _ => "NoTrapContext"
  | .console => "Console"

def pieces : MonitorError → List String
  | .notEnoughArguments => ["Not enough arguments"]
  | .invalidArguments => ["Invalid arguments"]
  | .invalidParameterCount => ["invalid number of parameters"]
  | .tooManyArguments n => ["Too many arguments (max ", dec n, ")"]
  | .illegalRange => ["Illegal range"]
  | .illegalAddress => ["Illegal address"]
  | .invalidPermission c => ["Invalid permissions: '", c.toString, "'"]
  | .invalidOperation => ["Not a valid operation"]
  | .invalidType => ["Invalid type"]
  | .pageNotFound va => [hex va.toNat, ": Page not found"]
  | .physOutOfRange pa => [hex pa.toNat, ": outside physical memory"]
  | .stackUnreadable va => [hex va.toNat, ": stack unreadable"]
  | .symbolNotFound eip => hex8 eip ++ [": no symbol information"]
  | .backtraceTooDeep n => ["backtrace stopped after ", dec n, " frames"]
  | .noTrapContext what => [what, " error."]
  | .console => ["console write failed"]

def message (e : MonitorError) : String := String.join e.pieces

def debug : MonitorError → String
  | .tooManyArguments n => "TooManyArguments \x7b max: " ++ dec n ++ " \x7d"
  | .invalidPermission c => "InvalidPermission(" ++ quoteChar c ++ ")"
  | .pageNotFound va => "PageNotFound(" ++ virtDebug va ++ ")"
  | .physOutOfRange pa => "PhysOutOfRange(" ++ physDebug pa ++ ")"
  | .stackUnreadable va => "StackUnreadable(" ++ virtDebug va ++ ")"
  | .symbolNotFound eip => "SymbolNotFound(" ++ dec eip.toNat ++ ")"
  | .backtraceTooDeep n => "BacktraceTooDeep(" ++ dec n ++ ")"
  | .noTrapContext what => "NoTrapContext(" ++ quoteString what ++ ")"
  | .console => "Console(Error)"
  | e => e.name

end MonitorError

end KernelMonitor
