import KernelMonitor.Text.Hex
import KernelMonitor.Text.Escaped
import KernelMonitor.Text.Escape
import KernelMonitor.Fault
import KernelMonitor.Address
import KernelMonitor.Log
import KernelMonitor.Entry
import KernelMonitor.Memory
import KernelMonitor.SparseMemory
import KernelMonitor.PageDirectory
import KernelMonitor.Layout
import KernelMonitor.Trapframe
import KernelMonitor.Symbols
import KernelMonitor.Console.LineEditor
import KernelMonitor.Console.Sink
import KernelMonitor.Monitor.Error
import KernelMonitor.Monitor.Parse
import KernelMonitor.Monitor.Print
import KernelMonitor.Monitor.Command
import KernelMonitor.Monitor.Info
import KernelMonitor.Monitor.Mappings
import KernelMonitor.Monitor.Content
import KernelMonitor.Monitor.Backtrace
import KernelMonitor.Monitor.Resume
import KernelMonitor.Monitor.Dispatch
import KernelMonitor.Monitor.Loop
import KernelMonitor.Machine
import KernelMonitor.Screen
import KernelMonitor.Serial
import KernelMonitor.Proofs.Memory
import KernelMonitor.Proofs.FaultFree
import KernelMonitor.Proofs.Protection
import KernelMonitor.Proofs.Dispatch
import KernelMonitor.Proofs.Loop
import KernelMonitor.Proofs.Output
import KernelMonitor.Proofs.Paging
import KernelMonitor.Proofs.Content
import KernelMonitor.Proofs.PageTables
import KernelMonitor.Proofs.VirtualRead
import KernelMonitor.Proofs.VirtualDump
import KernelMonitor.Proofs.PermissionChecks
import KernelMonitor.Proofs.DumpErrors
import KernelMonitor.Proofs.HexReading
import KernelMonitor.Proofs.LineEditing
import KernelMonitor.Proofs.SymbolLookup
import KernelMonitor.Proofs.StackWalk
import KernelMonitor.Proofs.CommandWords
import KernelMonitor.Proofs.ProtectionRuns
import KernelMonitor.Proofs.TableWalk
import KernelMonitor.Proofs.RangeWalks
import KernelMonitor.Proofs.FlatMemory
import KernelMonitor.Proofs.SparseMemory
import KernelMonitor.Proofs.ScreenHistory
import KernelMonitor.Proofs.Rounding
import KernelMonitor.Proofs.Bounds
