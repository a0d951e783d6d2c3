import Ibc.Model.Binary

/-!
# Arithmetic on timestamps

Three ranges meet in a timestamp: the words of nanoseconds it is written as, the years that a time
can hold, and zero, which is written for no time at all. Addition and subtraction check the years
only, so they lead out of what can be written.
-/

namespace Ibc

/-- One step of arithmetic. -/
inductive Shift where
  | plus (d : Duration)
  | minus (d : Duration)

namespace Shift

def apply : Shift → Timestamp → Option Timestamp
  | .plus d, ts => ts.add d
  | .minus d, ts => ts.sub d

/-- The change in nanoseconds. -/
def nanos : Shift → ℤ
  | .plus d => d
  | .minus d => -d

/-- The steps in order, none of which overflows. -/
def run (shifts : List Shift) (ts : Timestamp) : Option Timestamp :=
  shifts.foldlM (fun ts shift => shift.apply ts) ts

def total (shifts : List Shift) : ℤ := (shifts.map nanos).sum

@[simp] theorem apply_unset (shift : Shift) : shift.apply ⟨none⟩ = some ⟨none⟩ := by
  cases shift <;> rfl

theorem apply_eq_some {shift : Shift} {t : Time} {ts : Timestamp} :
    shift.apply ⟨some t⟩ = some ts ↔
      ∃ t', ts = ⟨some t'⟩ ∧ t'.unixNanos = t.unixNanos + shift.nanos := by
  cases shift with
  | plus d => exact Timestamp.add_eq_some
  | minus d => exact Timestamp.sub_eq_some

theorem run_unset (shifts : List Shift) : run shifts ⟨none⟩ = some ⟨none⟩ := by
  induction shifts with
  | nil => rfl
  | cons shift shifts ih => simpa [run] using ih

/-- A run moves the time by the sum of its steps. -/
theorem run_set {shifts : List Shift} {t : Time} {ts : Timestamp}
    (h : run shifts ⟨some t⟩ = some ts) :
    ∃ t', ts = ⟨some t'⟩ ∧ t'.unixNanos = t.unixNanos + total shifts := by
  induction shifts generalizing t with
  | nil =>
    cases h
    exact ⟨t, rfl, by simp [total]⟩
  | cons shift shifts ih =>
    obtain ⟨ts₁, hstep, hrun⟩ := Option.bind_eq_some_iff.mp h
    obtain ⟨t₁, rfl, h₁⟩ := apply_eq_some.mp hstep
    obtain ⟨t', rfl, h'⟩ := ih hrun
    refine ⟨t', rfl, ?_⟩
    rw [h', h₁]
    simp [total, add_assoc]

end Shift

/-- The nanoseconds of a timestamp exist and stand for it, and so do its two binary encodings. A
protobuf message carries the nanoseconds themselves. -/
structure Timestamp.Representable (ts : Timestamp) : Prop where
  nanoseconds : ∃ n, (ts.nanoseconds : Result Unit ℕ) = .ok n ∧ fromNanoseconds n = ts
  borsh : ∃ b, (ts.borshSerialize : Result Unit (List UInt8)) = .ok b ∧
    borshDeserialize b = some (ts, [])
  scale : ∃ b, (ts.scaleEncode : Result Unit (List UInt8)) = .ok b ∧ scaleDecode b = some (ts, [])

namespace Timestamp

/-- The representable timestamps are those that a decoder gives. -/
theorem representable_iff {ts : Timestamp} : ts.Representable ↔ ts.Decoded := by
  constructor
  · intro h
    obtain ⟨n, hn, hts⟩ := h.nanoseconds
    exact ⟨n, (nanoseconds_eq_ok.mp hn).1, hts⟩
  · intro h
    obtain ⟨n, -, hn, hts⟩ := h.nanoseconds
    obtain ⟨b, hb, hread⟩ := readNanoseconds_eq_some hn []
    rw [List.append_nil, hts] at hread
    exact ⟨⟨n, hn, hts⟩, ⟨b, hb, hread⟩, ⟨b, hb, hread⟩⟩

end Timestamp

/-- **Which timestamps can be written.** From the timestamp of a word, additions and subtractions
that all succeed lead to a representable timestamp exactly when the word is zero, or the exact sum
is a word and not zero. -/
theorem shifted_timestamp_representable {n : ℕ} (hn : n < UInt64.size) {shifts : List Shift}
    {ts : Timestamp} (hrun : Shift.run shifts (.fromNanoseconds n) = some ts) :
    ts.Representable ↔
      n = 0 ∨ (0 < n + Shift.total shifts ∧ n + Shift.total shifts < UInt64.size) := by
  rw [Timestamp.representable_iff, Timestamp.decoded_iff]
  by_cases hzero : n = 0
  · -- The unset timestamp stays unset.
    obtain rfl : ts = ⟨none⟩ := by
      rw [hzero] at hrun
      exact Option.some.inj (hrun.symm.trans (Shift.run_unset shifts))
    simp [hzero]
  · obtain ⟨t, ht⟩ : ∃ t, Timestamp.fromNanoseconds n = ⟨some t⟩ ∧ t.unixNanos = n := by
      have hrange : -62135596800000000000 ≤ (n : ℤ) ∧ (n : ℤ) ≤ 253402300799999999999 := by
        have hword : (n : ℤ) < 2 ^ 64 := Int.ofNat_lt.mpr hn
        omega
      exact ⟨⟨n, hrange⟩, by simp [Timestamp.fromNanoseconds, Time.ofUnixNanos, hzero, hrange]⟩
    rw [ht.1] at hrun
    obtain ⟨t', rfl, ht'⟩ := Shift.run_set hrun
    simp [hzero, ht', ht.2]

/-- One nanosecond more is representable. -/
theorem two_nanoseconds_representable :
    Shift.run [.plus 1] (.fromNanoseconds 1) = some (.fromNanoseconds 2) ∧
      (Timestamp.fromNanoseconds 2).Representable := by
  have hrun : Shift.run [.plus 1] (.fromNanoseconds 1) = some (.fromNanoseconds 2) := by decide
  have hsum : 0 < ((1 : ℕ) : ℤ) + Shift.total [.plus 1] ∧
      ((1 : ℕ) : ℤ) + Shift.total [.plus 1] < UInt64.size := by decide
  exact ⟨hrun, (shifted_timestamp_representable (by decide) hrun).mpr (.inr hsum)⟩

/-- The nanoseconds after a run. -/
def Shift.nanosecondsAfter (shifts : List Shift) (n : ℕ) : Option (Result Unit ℕ) :=
  (run shifts (.fromNanoseconds n)).map Timestamp.nanoseconds

/-- The epoch is written as the unset timestamp, and what is before it or after the last word is
not written at all. -/
theorem shifted_out_of_range :
    Shift.run [.minus 1] (.fromNanoseconds 1) = some ⟨some .epoch⟩ ∧
      (Timestamp.nanoseconds ⟨some .epoch⟩ : Result Unit ℕ) = .ok 0 ∧
      Timestamp.fromNanoseconds 0 ≠ ⟨some .epoch⟩ ∧
      Shift.nanosecondsAfter [.minus 2] 1 = some (.error (.panic .expect)) ∧
      Shift.nanosecondsAfter [.plus 1] (2 ^ 64 - 1) = some (.error (.panic .expect)) := by
  decide

end Ibc
