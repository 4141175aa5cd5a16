import WorldChain.Lib.BigEndian

/-! # Byte memory

A memory gives a byte at every address. A string of bytes is written over an interval and read back from it; what is
written elsewhere does not change it. Words are strings of a fixed width, the most significant byte first.
-/

namespace ByteMemory

abbrev Memory := ℕ → UInt8

variable (memory : Memory)

def read (address length : ℕ) : List UInt8 := (List.range length).map fun position => memory (address + position)

def write (address : ℕ) (bytes : List UInt8) : Memory := fun place =>
  if address ≤ place ∧ place < address + bytes.length then bytes.getD (place - address) 0 else memory place

/-- Load a word of `width` bytes. -/
def load (width address : ℕ) : ℕ := BigEndian.ofBytes (read memory address width)

/-- Store a word of `width` bytes. -/
def store (width address value : ℕ) : Memory := write memory address (BigEndian.toBytes width value)

@[simp] theorem length_read (address length : ℕ) : (read memory address length).length = length := by
  simp [read]

variable {memory} {address place length : ℕ} {bytes : List UInt8}

theorem write_of_outside (outside : place < address ∨ address + bytes.length ≤ place) :
    write memory address bytes place = memory place :=
  if_neg (by omega)

theorem read_write (memory : Memory) (address : ℕ) (bytes : List UInt8) :
    read (write memory address bytes) address bytes.length = bytes := by
  apply List.ext_getElem (by simp)
  intro position _ inside
  simp [read, write, inside]

theorem read_write_of_disjoint (apart : place + length ≤ address ∨ address + bytes.length ≤ place) :
    read (write memory address bytes) place length = read memory place length := by
  apply List.map_congr_left
  intro position member
  have inside := List.mem_range.mp member
  exact write_of_outside (by omega)

variable {value width : ℕ}

theorem load_store (fits : value < 256 ^ width) :
    load (store memory width address value) width address = value := by
  have whole := read_write memory address (BigEndian.toBytes width value)
  rw [BigEndian.toBytes_length] at whole
  rw [load, store, whole, BigEndian.ofBytes_toBytes _ _ fits]

theorem load_write_of_disjoint (apart : place + width ≤ address ∨ address + bytes.length ≤ place) :
    load (write memory address bytes) width place = load memory width place := by
  rw [load, read_write_of_disjoint apart, load]

theorem load_store_of_disjoint {other : ℕ} (apart : place + width ≤ address ∨ address + other ≤ place) :
    load (store memory other address value) width place = load memory width place :=
  load_write_of_disjoint (by rwa [BigEndian.toBytes_length])

theorem read_store_of_disjoint (apart : place + length ≤ address ∨ address + width ≤ place) :
    read (store memory width address value) place length = read memory place length :=
  read_write_of_disjoint (by rwa [BigEndian.toBytes_length])

theorem store_of_outside (outside : place < address ∨ address + width ≤ place) :
    store memory width address value place = memory place :=
  write_of_outside (by rwa [BigEndian.toBytes_length])

end ByteMemory
