import PageMetadata.Address

/-! # Memory shared with the collaborator

A memory holds bytes at consecutive addresses. Writing outside of it has no effect, so its extent
never changes.
-/

namespace PageMetadata

structure Memory where
  base : Address
  bytes : List UInt8

namespace Memory

/-- No address is mapped. -/
def empty : Memory := ⟨.null, []⟩

/-- How far an address lies above the base. -/
def offset? (memory : Memory) (address : Address) : Option Nat :=
  if memory.base.word ≤ address.word then
    let offset := address.word.toNat - memory.base.word.toNat
    if offset < memory.bytes.length then some offset else none
  else none

def read? (memory : Memory) (address : Address) : Option UInt8 := do
  let offset ← memory.offset? address
  memory.bytes[offset]?

def write (memory : Memory) (address : Address) (byte : UInt8) : Memory :=
  match memory.offset? address with
  | none => memory
  | some offset => { memory with bytes := memory.bytes.set offset byte }

/-- The bytes are written one after another. -/
def writeAll (memory : Memory) (writes : List (Address × UInt8)) : Memory :=
  writes.foldl (fun memory (address, byte) => memory.write address byte) memory

@[simp] theorem base_write (memory : Memory) (address : Address) (byte : UInt8) :
    (memory.write address byte).base = memory.base := by
  unfold write
  split <;> rfl

@[simp] theorem length_write (memory : Memory) (address : Address) (byte : UInt8) :
    (memory.write address byte).bytes.length = memory.bytes.length := by
  unfold write
  split <;> simp

end Memory

end PageMetadata
