import RegisterMachine.Memory.Basic
import RegisterMachine.Processor.Registers

/-! # The memory bus

The processor owns no memory: it asks its host for words by address. Whatever can answer such requests
is a memory bus. With each request the host sees the registers as they are at that moment.

A bus is bounded if some `extent` bounds the addresses it can serve and reading keeps it. So a walk
upwards from any address of a bounded bus meets a failing read after finitely many steps.
-/

namespace RegisterMachine

/-- A store of words that a processor reaches by address. -/
class MemoryBus (μ : Type) where
  read : μ → Registers → Word → Except MemoryError Word × μ
  write : μ → Registers → Word → Word → Except MemoryError Unit × μ

/-- A memory bus that serves no address at or above an extent. -/
class BoundedMemory (μ : Type) [MemoryBus μ] where
  /-- No address at or above the extent can be read. -/
  extent : μ → Nat
  extent_lt (m : μ) : extent m < UInt64.size
  lt_extent_of_read {m : μ} {view : Registers} {address word : Word} :
    (MemoryBus.read m view address).1 = .ok word → address.toNat < extent m
  extent_read (m : μ) (view : Registers) (address : Word) :
    extent (MemoryBus.read m view address).2 = extent m

theorem Memory.lt_size_of_read {m : Memory} {address word : Word} (h : m.read address = .ok word) :
    address.toNat < m.size := by
  unfold Memory.read at h
  split at h
  · assumption
  · cases h

/-- Flat memory serves as a bus by itself, whatever the registers hold. -/
instance : MemoryBus Memory where
  read m _ address := (m.read address, m)
  write m _ address value := m.write address value

instance : BoundedMemory Memory where
  extent := Memory.size
  extent_lt m := m.addressable
  lt_extent_of_read h := Memory.lt_size_of_read h
  extent_read _ _ _ := rfl

end RegisterMachine
