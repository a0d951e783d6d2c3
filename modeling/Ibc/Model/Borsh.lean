import Ibc.Model.Types
import Ibc.Support.Borsh
import Ibc.Support.Exec

/-!
# Connection ends in borsh

The borsh format of a connection end is that of a record which has the seconds and the nanoseconds
of the delay for two of its fields. The format of that record is derived. A connection end is
written by way of the record, and made from one that was read.

The derived readers of the identifiers check nothing, so the ends here have any texts for them
(`UncheckedConnectionEnd`).
-/

namespace Ibc

open Borsh

/-! ### Durations -/

/-- A duration of the standard library: seconds, and nanoseconds for less than a second. -/
structure StdDuration where
  secs : UInt64
  nanos : UInt32
  nanos_lt : nanos.toNat < 1000000000
deriving DecidableEq

namespace StdDuration

theorem mod_nanos_lt (n : ℕ) : (UInt32.ofNat (n % 1000000000)).toNat < 1000000000 := by
  have hlt : n % 1000000000 < 1000000000 := Nat.mod_lt n (by decide)
  rwa [UInt32.toNat_ofNat_of_lt' (hlt.trans (by decide))]

/-- More nanoseconds than a second has are carried over; a carry that does not fit panics. -/
def new {ε : Type} (secs : UInt64) (nanos : UInt32) : Result ε StdDuration :=
  if h : nanos.toNat < 1000000000 then .ok ⟨secs, nanos, h⟩
  else do
    let carried ← Result.addU64 secs.toNat (nanos.toNat / 1000000000)
    pure ⟨.ofNat carried, .ofNat (nanos.toNat % 1000000000), mod_nanos_lt nanos.toNat⟩

/-- The number of nanoseconds. -/
def asNanos (d : StdDuration) : Duration := d.secs.toNat * 1000000000 + d.nanos.toNat

/-- Seconds and the rest. -/
def ofNanos (d : Duration) : StdDuration :=
  ⟨.ofNat (d / 1000000000), .ofNat (d % 1000000000), mod_nanos_lt d⟩

end StdDuration

/-! ### Records -/

/-- A counterparty whose identifiers are any texts. -/
structure UncheckedCounterparty where
  clientId : String
  connectionId : Option String
  pfx : CommitmentPrefix
deriving DecidableEq

/-- A connection end whose identifiers are any texts. -/
structure UncheckedConnectionEnd where
  state : ConnectionState
  clientId : String
  counterparty : UncheckedCounterparty
  versions : List ConnectionVersion
  delayPeriod : StdDuration
deriving DecidableEq

/-- The record that is written. -/
structure InnerConnectionEnd where
  state : ConnectionState
  clientId : String
  counterparty : UncheckedCounterparty
  versions : List ConnectionVersion
  delayPeriodSecs : UInt64
  delayPeriodNanos : UInt32
deriving DecidableEq

/-- The texts of the identifiers. -/
def ConnectionCounterparty.unchecked (c : ConnectionCounterparty) : UncheckedCounterparty :=
  ⟨c.clientId.str, c.connectionId.map ConnectionId.str, c.pfx⟩

/-- The texts of the identifiers, and the delay in two parts. -/
def ConnectionEnd.unchecked (c : ConnectionEnd) : UncheckedConnectionEnd :=
  ⟨c.state, c.clientId.str, c.counterparty.unchecked, c.versions, .ofNanos c.delayPeriod⟩

/-! ### Derived formats -/

/-- The position of the state in its enumeration. -/
def ConnectionState.index : ConnectionState → UInt8
  | .uninitialized => 0
  | .init => 1
  | .tryOpen => 2
  | .open => 3

/-- The state at a position. -/
def ConnectionState.ofIndex (n : UInt8) : Option ConnectionState :=
  [uninitialized, init, tryOpen, .open].find? fun s => s.index = n

theorem ConnectionState.ofIndex_eq_some {n : UInt8} {s : ConnectionState} :
    ofIndex n = some s ↔ n = s.index := by
  constructor
  · intro h
    have hindex := List.find?_some (p := fun s : ConnectionState => s.index = n) h
    exact (of_decide_eq_true hindex).symm
  · rintro rfl
    cases s <;> rfl

/-- The position. -/
def ConnectionState.borsh : Codec ConnectionState :=
  byte.via ofIndex index fun _ => ofIndex_eq_some

/-- A list of bytes. -/
def CommitmentPrefix.borsh : Codec CommitmentPrefix :=
  (list byte).equiv ⟨CommitmentPrefix.mk, CommitmentPrefix.bytes, fun _ => rfl, fun _ => rfl⟩

theorem ConnectionVersion.mk_fields (v : ConnectionVersion) : mk v.identifier v.features = v := rfl

/-- Two fields. -/
def ConnectionVersion.borsh : Codec ConnectionVersion :=
  (pair string (list string)).equiv
    ⟨fun r => ⟨r.1, r.2⟩, fun v => (v.identifier, v.features), fun _ => rfl, mk_fields⟩

/-- Three fields. -/
def UncheckedCounterparty.borsh : Codec UncheckedCounterparty :=
  (pair string (pair (option string) CommitmentPrefix.borsh)).equiv
    ⟨fun r => ⟨r.1, r.2.1, r.2.2⟩, fun c => (c.clientId, c.connectionId, c.pfx), fun _ => rfl,
      fun _ => rfl⟩

/-- Six fields. -/
def InnerConnectionEnd.borsh : Codec InnerConnectionEnd :=
  (pair ConnectionState.borsh <| pair string <| pair UncheckedCounterparty.borsh <|
    pair (list ConnectionVersion.borsh) <| pair u64 u32).equiv
    ⟨fun r => ⟨r.1, r.2.1, r.2.2.1, r.2.2.2.1, r.2.2.2.2.1, r.2.2.2.2.2⟩,
      fun c => (c.state, c.clientId, c.counterparty, c.versions, c.delayPeriodSecs,
        c.delayPeriodNanos), fun _ => rfl, fun _ => rfl⟩

/-! ### Connection ends -/

/-- How reading and writing fail: bytes that are those of no record, and counts that are no
words. -/
inductive BorshError where
  | malformed
  | tooLong
deriving DecidableEq

/-- The delay falls into its two parts. -/
def InnerConnectionEnd.ofEnd (c : UncheckedConnectionEnd) : InnerConnectionEnd where
  state := c.state
  clientId := c.clientId
  counterparty := c.counterparty
  versions := c.versions
  delayPeriodSecs := c.delayPeriod.secs
  delayPeriodNanos := c.delayPeriod.nanos

/-- The delay is made of whatever was read for its two parts. -/
def UncheckedConnectionEnd.ofInner (i : InnerConnectionEnd) :
    Result BorshError UncheckedConnectionEnd := do
  let delayPeriod ← StdDuration.new i.delayPeriodSecs i.delayPeriodNanos
  pure
    { state := i.state
      clientId := i.clientId
      counterparty := i.counterparty
      versions := i.versions
      delayPeriod }

namespace UncheckedConnectionEnd

/-- Only a text or list that is too long is not written. -/
def borshSerialize (c : UncheckedConnectionEnd) : Except BorshError Bytes :=
  Result.okOr (InnerConnectionEnd.borsh.serialize (.ofEnd c)) .tooLong

/-- Takes a connection end off the front of the bytes. -/
def borshDeserialize (b : Bytes) : Result BorshError (UncheckedConnectionEnd × Bytes) := do
  let (inner, rest) ← Result.ofExcept (·)
    (Result.okOr (InnerConnectionEnd.borsh.read b) BorshError.malformed)
  let c ← ofInner inner
  pure (c, rest)

end UncheckedConnectionEnd

end Ibc
