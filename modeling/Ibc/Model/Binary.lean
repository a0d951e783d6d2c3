import Ibc.Model.Time
import Ibc.Support.Binary

/-!
# Binary encodings

The encodings without tags that a host keeps its records in: borsh and SCALE. Both write a word as
eight bytes, and the fields of a record one after the other. The encodings of a height are derived
from its fields; those of a timestamp are written by hand and go through its nanoseconds.
-/

namespace Ibc

open Binary

namespace Timestamp

/-- The nanoseconds as a word. -/
def writeNanoseconds {ε : Type} (ts : Timestamp) : Result ε (List UInt8) := do
  let n ← ts.nanoseconds
  pure (writeU64 n)

/-- Every word stands for a timestamp, so this only fails when there are not enough bytes. -/
def readNanoseconds : Reader Timestamp := fun l => do
  let (n, l) ← readU64 l
  pure (fromNanoseconds n, l)

/-- The nanoseconds. -/
def borshSerialize {ε : Type} (ts : Timestamp) : Result ε (List UInt8) := ts.writeNanoseconds

/-- The nanoseconds. -/
def borshDeserialize : Reader Timestamp := readNanoseconds

/-- The nanoseconds. -/
def scaleEncode {ε : Type} (ts : Timestamp) : Result ε (List UInt8) := ts.writeNanoseconds

/-- The nanoseconds. -/
def scaleDecode : Reader Timestamp := readNanoseconds

/-- What is written for the nanoseconds is read back as the timestamp they stand for. -/
theorem readNanoseconds_eq_some {ε : Type} {ts : Timestamp} {n : ℕ}
    (hn : (ts.nanoseconds : Result ε ℕ) = .ok n) (rest : List UInt8) :
    ∃ b, (ts.writeNanoseconds : Result ε (List UInt8)) = .ok b ∧
      readNanoseconds (b ++ rest) = some (fromNanoseconds n, rest) := by
  refine ⟨writeU64 n, by simp [writeNanoseconds, hn], ?_⟩
  simp [readNanoseconds, readU64_writeU64 (nanoseconds_eq_ok.mp hn).1]

end Timestamp

namespace Height

/-- The fields in order. -/
def writeFields (h : Height) : List UInt8 := writeU64 h.revisionNumber ++ writeU64 h.revisionHeight

/-- The fields in order; a zero revision height is not refused. -/
def readFields : Reader Height := fun l => do
  let (revisionNumber, l) ← readU64 l
  let (revisionHeight, l) ← readU64 l
  pure (⟨revisionNumber, revisionHeight⟩, l)

/-- Both fields. -/
def borshDeserialize : Reader Height := readFields

/-- Both fields. -/
def scaleDecode : Reader Height := readFields

theorem readFields_writeFields {h : Height} (hnumber : h.revisionNumber < UInt64.size)
    (hheight : h.revisionHeight < UInt64.size) (rest : List UInt8) :
    readFields (h.writeFields ++ rest) = some (h, rest) := by
  simp [readFields, writeFields, readU64_writeU64 hnumber, readU64_writeU64 hheight]

end Height

end Ibc
