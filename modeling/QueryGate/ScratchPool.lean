/-!
# Pools of scratch buffers

Filtered queries are put together in scratch buffers, which are used again and again. A buffer
goes back to its pool empty, unless it has grown too large or the pool has enough of them.
-/

namespace QueryGate

/-- A scratch buffer. -/
structure Buffer where
  /-- Its contents. -/
  text : String := ""
  /-- The number of bytes it can hold without growing. -/
  capacity : Nat := 0
  deriving DecidableEq, Repr

namespace Buffer

/-- Appends text. A buffer that is too small grows to twice its size at least. -/
def push (buffer : Buffer) (text : String) : Buffer :=
  let contents := buffer.text ++ text
  { text := contents
    capacity :=
      if contents.utf8ByteSize ≤ buffer.capacity then buffer.capacity
      else max 8 (max (2 * buffer.capacity) contents.utf8ByteSize) }

/-- Removes the contents and keeps the room. -/
def clear (buffer : Buffer) : Buffer :=
  { buffer with text := "" }

/-- Appends a segment, behind an `&` if the buffer has contents. -/
def pushSegment (buffer : Buffer) (segment : String) : Buffer :=
  if buffer.text.isEmpty then buffer.push segment else (buffer.push "&").push segment

end Buffer

/-- A pool of idle buffers. -/
structure ScratchPool where
  /-- The greatest number of idle buffers. -/
  limit : Nat
  /-- The idle buffers, the one to be used next in front. -/
  idle : List Buffer
  deriving DecidableEq, Repr

namespace ScratchPool

/-- The greatest capacity of a buffer that is kept. -/
def maxCapacity : Nat := 65536

/-- The pool without buffers. -/
def empty (limit : Nat) : ScratchPool :=
  ⟨limit, []⟩

/-- Takes a buffer, a new one if none is idle. -/
def take (pool : ScratchPool) : Buffer × ScratchPool :=
  match pool.idle with
  | [] => ({}, pool)
  | buffer :: rest => (buffer, { pool with idle := rest })

/-- Gives a buffer back. -/
def give (pool : ScratchPool) (buffer : Buffer) : ScratchPool :=
  if buffer.capacity ≤ maxCapacity && pool.idle.length < pool.limit then
    { pool with idle := buffer.clear :: pool.idle }
  else pool

end ScratchPool

end QueryGate
