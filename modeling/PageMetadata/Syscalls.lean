import PageMetadata.Text.Outline

/-! # Reaching the kernel

The kernel's four operations are system calls. Their numbers and the way of passing values are
settings, since kernels differ in both.
-/

namespace PageMetadata

open Text

/-- The numbers of the system calls. -/
structure SyscallTable where
  enable : Int64
  disable : Int64
  set : Int64
  get : Int64
deriving DecidableEq, Repr

def SyscallTable.standard : SyscallTable := ⟨469, 470, 471, 472⟩

/-- How a value is passed. -/
inductive CallingConvention where
  /-- By a pointer to the word or to the structured buffer. -/
  | pointer
  /-- In registers; only inline values can be passed. -/
  | legacy
deriving DecidableEq, Repr

def CallingConvention.name : CallingConvention → String
  | .pointer => "Pointer"
  | .legacy => "Legacy"

structure SyscallConfig where
  syscalls : SyscallTable
  convention : CallingConvention
deriving DecidableEq, Repr

namespace SyscallConfig

def standard : SyscallConfig := ⟨.standard, .pointer⟩

/-- What is said when the kernel lacks the system calls. -/
def unsupportedMessage : String :=
  "The running kernel does not implement the metadata syscalls."

private def number (value : Int64) : Outline := .atom (toString value.toInt)

def outline (config : SyscallConfig) : Outline :=
  .record "LinuxConfig"
    [("syscalls",
        .record "SyscallTable"
          [("enable", number config.syscalls.enable), ("disable", number config.syscalls.disable),
            ("set", number config.syscalls.set), ("get", number config.syscalls.get)]),
      ("convention", .atom config.convention.name)]

end SyscallConfig

end PageMetadata
