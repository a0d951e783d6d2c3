import Ibc.Support.Exec
import Mathlib.Order.Defs.LinearOrder
import Mathlib.Tactic.Linarith

/-!
# Heights and timestamps

`Height` is a revision number and a height within the revision, compared lexicographically
(`Height.cmp`, and the linear order it induces). A `Timestamp` is an optional point in time;
`checkExpiry` compares two of them and answers `invalidTimestamp` when either is unset.

Both numbers of a height are unsigned 64-bit words in the source. They are naturals here, and the
one addition that can leave the word range (`Height.add`) panics when it does.
-/

namespace Ibc

/-! ### Heights -/

/-- A block height: the revision, and the height inside it. -/
structure Height where
  revisionNumber : ℕ
  revisionHeight : ℕ
deriving DecidableEq, Repr

namespace Height

/-- A height with both numbers in the word range; a zero revision height is refused. -/
def new (revisionNumber revisionHeight : ℕ) : Option Height :=
  if revisionHeight = 0 then none else some ⟨revisionNumber, revisionHeight⟩

/-- The first height of a revision. -/
def min (revisionNumber : ℕ) : Height := ⟨revisionNumber, 1⟩

/-- The height `delta` blocks later in the same revision. -/
def add {ε : Type} (h : Height) (delta : ℕ) : Result ε Height := do
  let revisionHeight ← Result.addU64 h.revisionHeight delta
  pure ⟨h.revisionNumber, revisionHeight⟩

theorem add_eq_ok {ε : Type} {h k : Height} {delta : ℕ} :
    (h.add delta : Result ε Height) = .ok k ↔
      k = ⟨h.revisionNumber, h.revisionHeight + delta⟩ ∧
        h.revisionHeight + delta < UInt64.size := by
  simp only [add, Result.bind_eq_ok, Result.addU64_eq_ok, Result.pure_eq_ok]
  constructor
  · rintro ⟨_, ⟨rfl, hlt⟩, rfl⟩
    exact ⟨rfl, hlt⟩
  · rintro ⟨rfl, hlt⟩
    exact ⟨_, ⟨rfl, hlt⟩, rfl⟩

/-- The comparison: revisions first, then heights. -/
def cmp (h k : Height) : Ordering :=
  if h.revisionNumber < k.revisionNumber then .lt
  else if h.revisionNumber > k.revisionNumber then .gt
  else if h.revisionHeight < k.revisionHeight then .lt
  else if h.revisionHeight > k.revisionHeight then .gt
  else .eq

instance : LT Height where
  lt h k := h.revisionNumber < k.revisionNumber ∨
    (h.revisionNumber = k.revisionNumber ∧ h.revisionHeight < k.revisionHeight)

instance : LE Height where
  le h k := h.revisionNumber < k.revisionNumber ∨
    (h.revisionNumber = k.revisionNumber ∧ h.revisionHeight ≤ k.revisionHeight)

theorem lt_def {h k : Height} : h < k ↔ h.revisionNumber < k.revisionNumber ∨
    (h.revisionNumber = k.revisionNumber ∧ h.revisionHeight < k.revisionHeight) := Iff.rfl

theorem le_def {h k : Height} : h ≤ k ↔ h.revisionNumber < k.revisionNumber ∨
    (h.revisionNumber = k.revisionNumber ∧ h.revisionHeight ≤ k.revisionHeight) := Iff.rfl

instance (h k : Height) : Decidable (h < k) :=
  inferInstanceAs (Decidable (h.revisionNumber < k.revisionNumber ∨
    (h.revisionNumber = k.revisionNumber ∧ h.revisionHeight < k.revisionHeight)))

instance (h k : Height) : Decidable (h ≤ k) :=
  inferInstanceAs (Decidable (h.revisionNumber < k.revisionNumber ∨
    (h.revisionNumber = k.revisionNumber ∧ h.revisionHeight ≤ k.revisionHeight)))

instance : LinearOrder Height where
  le_refl h := by simp [le_def]
  le_trans a b c := by simp only [le_def]; omega
  le_antisymm a b := by
    rcases a with ⟨a₁, a₂⟩
    rcases b with ⟨b₁, b₂⟩
    simp only [le_def, Height.mk.injEq]
    omega
  lt_iff_le_not_ge a b := by simp only [lt_def, le_def]; omega
  le_total a b := by simp only [le_def]; omega
  toDecidableEq := inferInstance
  toDecidableLE := inferInstance
  toDecidableLT := inferInstance

/-- The source's comparison is the one of the linear order. -/
theorem cmp_eq_lt {h k : Height} : h.cmp k = .lt ↔ h < k := by
  simp only [cmp, lt_def]
  split_ifs <;> simp <;> omega

theorem cmp_eq_eq {h k : Height} : h.cmp k = .eq ↔ h = k := by
  rcases h with ⟨h₁, h₂⟩
  rcases k with ⟨k₁, k₂⟩
  simp only [cmp, Height.mk.injEq]
  split_ifs <;> simp <;> omega

/-- The text of a height, as events and error messages print it. -/
def toText (h : Height) : String := toString h.revisionNumber ++ "-" ++ toString h.revisionHeight

end Height

/-! ### Timestamps -/

/-- A span of time in nanoseconds. -/
abbrev Duration := ℕ

/-- A point in time, in nanoseconds from the Unix epoch: the years 1 to 9999. -/
structure Time where
  unixNanos : ℤ
  inRange : -62135596800000000000 ≤ unixNanos ∧ unixNanos ≤ 253402300799999999999
deriving DecidableEq

namespace Time

theorem epoch_inRange : (-62135596800000000000 : ℤ) ≤ 0 ∧ (0 : ℤ) ≤ 253402300799999999999 := by
  decide

/-- The Unix epoch. -/
def epoch : Time := ⟨0, epoch_inRange⟩

/-- The point in time with these nanoseconds, if it is in the range. -/
def ofUnixNanos (n : ℤ) : Option Time :=
  if h : -62135596800000000000 ≤ n ∧ n ≤ 253402300799999999999 then some ⟨n, h⟩ else none

/-- Addition of a duration, checked. -/
def checkedAdd (t : Time) (d : Duration) : Option Time := ofUnixNanos (t.unixNanos + d)

/-- Subtraction of a duration, checked. -/
def checkedSub (t : Time) (d : Duration) : Option Time := ofUnixNanos (t.unixNanos - d)

/-- The time passed since `t₀`, if it is not in the future. -/
def durationSince (t t₀ : Time) : Option Duration :=
  if t₀.unixNanos ≤ t.unixNanos then some (t.unixNanos - t₀.unixNanos).toNat else none

instance : LT Time := ⟨fun t t' => t.unixNanos < t'.unixNanos⟩

instance : LE Time := ⟨fun t t' => t.unixNanos ≤ t'.unixNanos⟩

theorem lt_def {t t' : Time} : t < t' ↔ t.unixNanos < t'.unixNanos := Iff.rfl

theorem le_def {t t' : Time} : t ≤ t' ↔ t.unixNanos ≤ t'.unixNanos := Iff.rfl

instance (t t' : Time) : Decidable (t < t') :=
  inferInstanceAs (Decidable (t.unixNanos < t'.unixNanos))

instance (t t' : Time) : Decidable (t ≤ t') :=
  inferInstanceAs (Decidable (t.unixNanos ≤ t'.unixNanos))

@[ext] theorem ext {t t' : Time} (h : t.unixNanos = t'.unixNanos) : t = t' := by
  cases t; cases t'; cases h; rfl

theorem ofUnixNanos_eq_some {n : ℤ} {t : Time} : ofUnixNanos n = some t ↔ t.unixNanos = n := by
  unfold ofUnixNanos
  split_ifs with hrange
  · rw [Option.some.injEq, eq_comm, Time.ext_iff]
  · simp only [false_iff]
    rintro rfl
    exact hrange t.inRange

instance : LinearOrder Time where
  le_refl t := by simp [le_def]
  le_trans a b c := by simp only [le_def]; omega
  le_antisymm a b h h' := ext (by simp only [le_def] at h h'; omega)
  lt_iff_le_not_ge a b := by simp only [lt_def, le_def]; omega
  le_total a b := by simp only [le_def]; omega
  toDecidableLE := inferInstance
  toDecidableLT := inferInstance

end Time

/-- A timestamp: a point in time, or unset. -/
structure Timestamp where
  time : Option Time
deriving DecidableEq

/-- The outcome of comparing a timestamp with a deadline. -/
inductive Expiry where
  | expired
  | notExpired
  | invalidTimestamp
deriving DecidableEq, Repr

namespace Timestamp

/-- The unset timestamp. -/
def none : Timestamp := ⟨Option.none⟩

/-- The timestamp of a 64-bit count of nanoseconds; zero stands for the unset one. -/
def fromNanoseconds (n : ℕ) : Timestamp :=
  if n = 0 then ⟨Option.none⟩ else ⟨Time.ofUnixNanos n⟩

/-- The nanoseconds of a timestamp, zero when unset. Times before the epoch, and times whose
nanoseconds do not fit a word, panic. -/
def nanoseconds {ε : Type} (ts : Timestamp) : Result ε ℕ :=
  match ts.time with
  | Option.none => .ok 0
  | some t => if 0 ≤ t.unixNanos ∧ t.unixNanos < UInt64.size then .ok t.unixNanos.toNat
      else .error (.panic .expect)

/-- Whether the timestamp is past the deadline `other`. -/
def checkExpiry (ts other : Timestamp) : Expiry :=
  match ts.time, other.time with
  | some t, some t' => if t' < t then .expired else .notExpired
  | _, _ => .invalidTimestamp

/-- Whether the timestamp is set. -/
def isSet (ts : Timestamp) : Bool := ts.time.isSome

/-- Addition of a duration, checked; the unset timestamp stays unset. -/
def add (ts : Timestamp) (d : Duration) : Option Timestamp :=
  match ts.time with
  | some t => (t.checkedAdd d).map (⟨some ·⟩)
  | Option.none => some ts

/-- Subtraction of a duration, checked; the unset timestamp stays unset. -/
def sub (ts : Timestamp) (d : Duration) : Option Timestamp :=
  match ts.time with
  | some t => (t.checkedSub d).map (⟨some ·⟩)
  | Option.none => some ts

/-- The time passed since `other`, when both are set and `other` is not later. -/
def durationSince (ts other : Timestamp) : Option Duration :=
  match ts.time, other.time with
  | some t, some t' => t.durationSince t'
  | _, _ => Option.none

/-- The order of the source: the unset timestamp is below every set one. -/
def lt (ts other : Timestamp) : Bool :=
  match ts.time, other.time with
  | _, Option.none => false
  | Option.none, some _ => true
  | some t, some t' => decide (t < t')

/-- The timestamps a decoder produces from a 64-bit word. -/
def Decoded (ts : Timestamp) : Prop := ∃ n < UInt64.size, fromNanoseconds n = ts

/-- A sum is in the range of times. -/
theorem add_eq_some {t : Time} {d : Duration} {ts : Timestamp} :
    add ⟨some t⟩ d = some ts ↔ ∃ t', ts = ⟨some t'⟩ ∧ t'.unixNanos = t.unixNanos + d := by
  simp only [add, Time.checkedAdd, Option.map_eq_some_iff, Time.ofUnixNanos_eq_some]
  exact ⟨fun ⟨t', h, hts⟩ => ⟨t', hts.symm, h⟩, fun ⟨t', hts, h⟩ => ⟨t', h, hts.symm⟩⟩

/-- A difference is in the range of times. -/
theorem sub_eq_some {t : Time} {d : Duration} {ts : Timestamp} :
    sub ⟨some t⟩ d = some ts ↔ ∃ t', ts = ⟨some t'⟩ ∧ t'.unixNanos = t.unixNanos - d := by
  simp only [sub, Time.checkedSub, Option.map_eq_some_iff, Time.ofUnixNanos_eq_some]
  exact ⟨fun ⟨t', h, hts⟩ => ⟨t', hts.symm, h⟩, fun ⟨t', hts, h⟩ => ⟨t', h, hts.symm⟩⟩

theorem checkExpiry_eq_expired {ts other : Timestamp} :
    ts.checkExpiry other = .expired ↔
      ∃ t t', ts.time = some t ∧ other.time = some t' ∧ t' < t := by
  rcases ts with ⟨_ | t⟩ <;> rcases other with ⟨_ | t'⟩ <;> simp [checkExpiry]

theorem decoded_iff {ts : Timestamp} : ts.Decoded ↔
    ∀ t, ts.time = some t → 0 < t.unixNanos ∧ t.unixNanos < UInt64.size := by
  constructor
  · rintro ⟨n, hn, rfl⟩ t ht
    simp only [fromNanoseconds, Time.ofUnixNanos] at ht
    split_ifs at ht with hzero hrange
    cases ht
    exact ⟨Int.natCast_pos.mpr (Nat.pos_of_ne_zero hzero), Int.ofNat_lt.mpr hn⟩
  · rcases ts with ⟨_ | t⟩
    · exact fun _ => ⟨0, by decide, rfl⟩
    · intro h
      obtain ⟨hpos, hlt⟩ := h t rfl
      have hnat : (t.unixNanos.toNat : ℤ) = t.unixNanos := Int.toNat_of_nonneg hpos.le
      refine ⟨t.unixNanos.toNat, by omega, ?_⟩
      simp [fromNanoseconds, Time.ofUnixNanos, hnat, t.inRange, hpos]

instance (ts : Timestamp) : Decidable ts.Decoded :=
  decidable_of_iff
    (ts.time.all fun t => decide (0 < t.unixNanos ∧ t.unixNanos < (UInt64.size : ℤ)))
    (by simp only [decoded_iff, Option.all_eq_true, decide_eq_true_eq])

/-- Nanoseconds are a word: zero for the unset timestamp, and the time itself for any other. -/
theorem nanoseconds_eq_ok {ε : Type} {ts : Timestamp} {n : ℕ} :
    (ts.nanoseconds : Result ε ℕ) = .ok n ↔ n < UInt64.size ∧
      (ts.time = Option.none ∧ n = 0 ∨ ∃ t, ts.time = some t ∧ t.unixNanos = n) := by
  rcases ts with ⟨_ | t⟩
  · simp only [nanoseconds, Except.ok.injEq, true_and, reduceCtorEq, false_and, exists_false,
      or_false]
    exact ⟨fun h => ⟨h ▸ by decide, h.symm⟩, fun h => h.2.symm⟩
  · simp only [nanoseconds, reduceCtorEq, false_and, Option.some.injEq, exists_eq_left', false_or]
    split_ifs with hrange
    · rw [Except.ok.injEq]
      omega
    · simp only [false_iff]
      omega

/-- A decoded timestamp that is set is determined by its nanoseconds. -/
theorem Decoded.time_eq {ε : Type} {ts ts' : Timestamp} {n : ℕ} {t : Time} (h : ts.Decoded)
    (hn : (ts.nanoseconds : Result ε ℕ) = .ok n) (hn' : (ts'.nanoseconds : Result ε ℕ) = .ok n)
    (ht : ts.time = some t) : ts'.time = some t := by
  obtain ⟨hpos, -⟩ := decoded_iff.mp h t ht
  obtain ⟨-, ⟨hnone, -⟩ | ⟨t₁, ht₁, heq⟩⟩ := nanoseconds_eq_ok.mp hn
  · rw [ht] at hnone
    cases hnone
  obtain rfl : t = t₁ := Option.some.inj (ht.symm.trans ht₁)
  obtain ⟨-, ⟨-, hzero⟩ | ⟨t', ht', heq'⟩⟩ := nanoseconds_eq_ok.mp hn'
  · omega
  · rw [ht', Time.ext (heq'.trans heq.symm)]

/-- A decoded timestamp has nanoseconds, and they stand for it. -/
theorem Decoded.nanoseconds {ε : Type} {ts : Timestamp} (h : ts.Decoded) :
    ∃ n < UInt64.size, (ts.nanoseconds : Result ε ℕ) = .ok n ∧ fromNanoseconds n = ts := by
  rcases ts with ⟨_ | t⟩
  · exact ⟨0, by decide, rfl, rfl⟩
  · obtain ⟨hpos, hlt⟩ := decoded_iff.mp h t rfl
    have hnat : (t.unixNanos.toNat : ℤ) = t.unixNanos := Int.toNat_of_nonneg hpos.le
    have hword : t.unixNanos.toNat < UInt64.size := by omega
    refine ⟨t.unixNanos.toNat, hword, nanoseconds_eq_ok.mpr ⟨hword, ?_⟩, ?_⟩
    · exact Or.inr ⟨t, rfl, hnat.symm⟩
    · simp [fromNanoseconds, Time.ofUnixNanos, hnat, t.inRange, hpos]

/-- Decoded timestamps with the same nanoseconds are equal. -/
theorem Decoded.eq_of_nanoseconds {ε : Type} {ts ts' : Timestamp} {n : ℕ} (h : ts.Decoded)
    (h' : ts'.Decoded) (hn : (ts.nanoseconds : Result ε ℕ) = .ok n)
    (hn' : (ts'.nanoseconds : Result ε ℕ) = .ok n) : ts = ts' := by
  obtain ⟨m, -, hm, hts⟩ := h.nanoseconds (ε := ε)
  obtain ⟨m', -, hm', hts'⟩ := h'.nanoseconds (ε := ε)
  obtain rfl : m = n := Except.ok.inj (hm.symm.trans hn)
  obtain rfl : m' = m := Except.ok.inj (hm'.symm.trans hn')
  exact hts.symm.trans hts'

end Timestamp

end Ibc
