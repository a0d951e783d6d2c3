import Ibc.Protocol.MockRun

/-!
# The connection delay

A proof is accepted only when the consensus state it is checked against has been known for the
delay of the connection: for a span of time, and for the number of blocks the host makes of it. The
check adds both to what was recorded when the client was updated. The sum of times is checked, and
the sum of heights is not.
-/

namespace Ibc

open Result (Returns)

/-! ### Sums -/

namespace Timestamp

/-- Nothing that is unset is at or after a point in time. -/
theorem lt_eq_false {ts : Timestamp} {t : Time} :
    ts.lt ⟨some t⟩ = false ↔ ∃ now, ts.time = some now ∧ t ≤ now := by
  rcases ts with ⟨_ | now⟩ <;> simp [lt]

end Timestamp

theorem Height.returns_add {ε : Type} {h : Height} {delta : ℕ} :
    Returns (h.add delta : Result ε Height) ↔ h.revisionHeight + delta < UInt64.size := by
  simp only [add, Result.returns_bind, Result.returns_pure, implies_true, and_true, Result.addU64]
  split_ifs with hlt
  · simp [hlt]
  · simp [hlt, Result.not_returns_panic]

/-! ### Blocks -/

theorem Duration.asSecsF64_secs {n : ℕ} (hn : n < 2 ^ 53) :
    Duration.asSecsF64 (n * 1000000000) = n := by
  simp [Duration.asSecsF64, Double.round_natCast hn]

/-- Whole seconds are divided exactly. -/
theorem calculateBlockDelay_secs {blocks secs : ℕ} (hsecs : 0 < secs)
    (hlt : blocks * secs < 2 ^ 53) :
    calculateBlockDelay (blocks * secs * 1000000000) (secs * 1000000000) = blocks := by
  rcases Nat.eq_zero_or_pos blocks with rfl | hblocks
  · simp [calculateBlockDelay, Duration.asSecsF64]
  have hblocks_lt : blocks < 2 ^ 53 := (Nat.le_mul_of_pos_right blocks hsecs).trans_lt hlt
  have hsecs_lt : secs < 2 ^ 53 := (Nat.le_mul_of_pos_left secs hblocks).trans_lt hlt
  have hne : (secs : ℚ) ≠ 0 := by exact_mod_cast hsecs.ne'
  have hquot : ((blocks * secs : ℕ) : ℚ) / secs = blocks := by
    rw [Nat.cast_mul, mul_div_cancel_right₀ _ hne]
  have hword : blocks ≤ UInt64.size - 1 := by
    simp only [UInt64.size]
    omega
  have hpos : secs * 1000000000 ≠ 0 := by omega
  rw [calculateBlockDelay, if_neg hpos, Duration.asSecsF64_secs hlt,
    Duration.asSecsF64_secs hsecs_lt, hquot, Double.round_natCast hblocks_lt, Nat.ceil_natCast,
    min_eq_left hword]

-- Parts of seconds are not: 2.1 seconds are seven blocks of 0.3 seconds.
example : calculateBlockDelay 2100000000 300000000 = 8 := by decide +kernel

/-! ### The check -/

section General

variable {CS Cons μ : Type} {H : Host CS Cons μ} {s : Ctx CS Cons μ} {h updateHeight : Height}
  {conn : ConnectionEnd} {updateTime : Time}

/-- What is recorded of the update that brought the consensus state at `h`. -/
structure UpdatedAt (s : Ctx CS Cons μ) (id : ClientId) (h : Height) (updateTime : Time)
    (updateHeight : Height) : Prop where
  time : s.store.client.clientProcessedTimes (id, h) = some ⟨some updateTime⟩
  height : s.store.client.clientProcessedHeights (id, h) = some updateHeight

/-- The time of the host is set, and the delay has passed since the update. -/
def TimePassed (s : Ctx CS Cons μ) (conn : ConnectionEnd) (updateTime : Time) : Prop :=
  ∃ now, s.env.hostTimestamp.time = some now ∧
    updateTime.unixNanos + conn.delayPeriod ≤ now.unixNanos

/-- The host is as many blocks past the update as it makes of the delay. -/
def BlocksPassed (H : Host CS Cons μ) (s : Ctx CS Cons μ) (conn : ConnectionEnd)
    (updateHeight : Height) : Prop :=
  (⟨updateHeight.revisionNumber, updateHeight.revisionHeight + H.blockDelay conn.delayPeriod⟩ :
    Height) ≤ s.env.hostHeight

/-- The first half of the check: the sum of times is in the range, and not after now. A sum that is
out of the range is after every time of the host. -/
theorem timePassed_iff : TimePassed s conn updateTime ↔
    ∃ ts, Timestamp.add ⟨some updateTime⟩ conn.delayPeriod = some ts ∧
      s.env.hostTimestamp.lt ts = false := by
  constructor
  · rintro ⟨now, hnow, hle⟩
    have hrange : -62135596800000000000 ≤ updateTime.unixNanos + conn.delayPeriod ∧
        updateTime.unixNanos + conn.delayPeriod ≤ 253402300799999999999 := by
      have hlow := updateTime.inRange.1
      have hhigh := now.inRange.2
      omega
    refine ⟨⟨some ⟨_, hrange⟩⟩, Timestamp.add_eq_some.mpr ⟨_, rfl, rfl⟩, ?_⟩
    exact Timestamp.lt_eq_false.mpr ⟨now, hnow, Time.le_def.mpr hle⟩
  · rintro ⟨ts, hadd, hlt⟩
    obtain ⟨t, rfl, hsum⟩ := Timestamp.add_eq_some.mp hadd
    obtain ⟨now, hnow, hle⟩ := Timestamp.lt_eq_false.mp hlt
    exact ⟨now, hnow, hsum ▸ Time.le_def.mp hle⟩

theorem verifyConnDelayPassed_eq_ok (hup : UpdatedAt s conn.clientId h updateTime updateHeight) :
    verifyConnDelayPassed H s h conn = .ok () ↔
      TimePassed s conn updateTime ∧
        updateHeight.revisionHeight + H.blockDelay conn.delayPeriod < UInt64.size ∧
        BlocksPassed H s conn updateHeight := by
  rw [timePassed_iff, verifyConnDelayPassed_iff]
  constructor
  · rintro ⟨_, _, ts, htime, hheight, hadd, hlt, hword, hle⟩
    cases hup.time.symm.trans htime
    cases hup.height.symm.trans hheight
    exact ⟨⟨ts, hadd, hlt⟩, hword, hle⟩
  · rintro ⟨⟨ts, hadd, hlt⟩, hword, hle⟩
    exact ⟨_, _, ts, hup.time, hup.height, hadd, hlt, hword, hle⟩

/-- The check gets as far as the sum of heights when the time has passed. -/
theorem returns_verifyConnDelayPassed
    (hup : UpdatedAt s conn.clientId h updateTime updateHeight) :
    Returns (verifyConnDelayPassed H s h conn) ↔
      (TimePassed s conn updateTime →
        updateHeight.revisionHeight + H.blockDelay conn.delayPeriod < UInt64.size) := by
  rw [timePassed_iff]
  -- Only the sum of heights can panic; the other lines fail with an error.
  have hconn {α : Type} {x : Except ConnectionError α} :
      Returns (liftM x : Result ContextError α) := Result.returns_ofExcept
  have hchan {α : Type} {x : Except ChannelError α} :
      Returns (liftM x : Result ContextError α) := Result.returns_ofExcept
  simp only [verifyConnDelayPassed, Ctx.clientUpdateTime, Ctx.clientUpdateHeight, hup.time,
    hup.height, Result.returns_bind, hconn, hchan, true_and, lift_channel_eq_ok,
    lift_connection_eq_ok, Result.okOr_eq_ok, Result.ensure_eq_ok, Height.returns_add,
    Option.some.injEq, forall_eq', implies_true, and_true]
  constructor
  · rintro hsum ⟨ts, hadd, hlt⟩
    exact hsum ts hadd () hlt
  · intro hsum ts hadd _ hlt
    exact hsum ⟨ts, hadd, hlt⟩

/-- The check returns, and lets a proof through only after the delay, with sums of unbounded
integers. -/
structure DelayEnforced (H : Host CS Cons μ) (s : Ctx CS Cons μ) (h : Height) (conn : ConnectionEnd)
    (updateTime : Time) (updateHeight : Height) : Prop where
  returns : Returns (verifyConnDelayPassed H s h conn)
  time : verifyConnDelayPassed H s h conn = .ok () → TimePassed s conn updateTime
  blocks : verifyConnDelayPassed H s h conn = .ok () → BlocksPassed H s conn updateHeight

/-- **The connection delay.** It is enforced in exact arithmetic just when the sum of the update
height and the block delay is a word, or the time of the delay has not passed. -/
theorem connection_delay_enforced (hup : UpdatedAt s conn.clientId h updateTime updateHeight) :
    DelayEnforced H s h conn updateTime updateHeight ↔
      (TimePassed s conn updateTime →
        updateHeight.revisionHeight + H.blockDelay conn.delayPeriod < UInt64.size) := by
  constructor
  · intro henforced
    exact (returns_verifyConnDelayPassed hup).mp henforced.returns
  · intro hword
    refine ⟨(returns_verifyConnDelayPassed hup).mpr hword, fun hok => ?_, fun hok => ?_⟩
    · exact ((verifyConnDelayPassed_eq_ok hup).mp hok).1
    · exact ((verifyConnDelayPassed_eq_ok hup).mp hok).2.2

end General

/-! ### A sample check -/

namespace MockRun

/-- A chain that was at height 5 when its client was created, after ten nanoseconds. -/
def clientCreated : MockCtx Unit := (createClient.run host start).2

/-- A connection with a delay, in nanoseconds. -/
def delayed (delayPeriod : Duration) : ConnectionEnd :=
  ⟨.open, clientId, ⟨clientId, some connectionId, ⟨Proto.utf8 "ibc"⟩⟩, [.default], delayPeriod⟩

theorem updateTime_inRange :
    (-62135596800000000000 : ℤ) ≤ 10 ∧ (10 : ℤ) ≤ 253402300799999999999 := by
  decide

theorem lateTime_inRange :
    (-62135596800000000000 : ℤ) ≤ 10 + 2 ^ 64 ∧ (10 + 2 ^ 64 : ℤ) ≤ 253402300799999999999 := by
  decide

theorem passedTime_inRange :
    (-62135596800000000000 : ℤ) ≤ 10 + 3000000000 ∧
      (10 + 3000000000 : ℤ) ≤ 253402300799999999999 := by
  decide

/-- The same chain 2 ^ 64 nanoseconds later, which are 584 years. -/
def muchLater : MockCtx Unit :=
  { clientCreated with
    env := { clientCreated.env with hostTimestamp := ⟨some ⟨10 + 2 ^ 64, lateTime_inRange⟩⟩ } }

/-- The same chain three seconds and three blocks later. -/
def threeBlocksLater : MockCtx Unit :=
  { clientCreated with
    env := { clientCreated.env with
      hostTimestamp := ⟨some ⟨10 + 3000000000, passedTime_inRange⟩⟩, hostHeight := ⟨0, 8⟩ } }

theorem threeBlocksLater_updatedAt :
    UpdatedAt threeBlocksLater clientId ⟨0, 1⟩ ⟨10, updateTime_inRange⟩ ⟨0, 5⟩ :=
  ⟨by decide +kernel, by decide +kernel⟩

end MockRun

open MockRun

/-- A delay of three seconds, on a host with one block in a second. It has passed, and the check
with it. -/
theorem passed_delay_enforced :
    let H := mockHost codec library 1000000000
    let conn := delayed 3000000000
    verifyConnDelayPassed H clientCreated ⟨0, 1⟩ conn ≠ .ok () ∧
      verifyConnDelayPassed H threeBlocksLater ⟨0, 1⟩ conn = .ok () ∧
      DelayEnforced H threeBlocksLater ⟨0, 1⟩ conn ⟨10, updateTime_inRange⟩ ⟨0, 5⟩ :=
  ⟨by decide +kernel, by decide +kernel,
    (connection_delay_enforced threeBlocksLater_updatedAt).mpr fun _ => by decide +kernel⟩

/-- The longest delay that a word of nanoseconds holds, on a host with one block in a nanosecond.
When it has passed, the sum of heights overflows. -/
theorem longest_delay_panics :
    let conn := delayed (2 ^ 64 - 1)
    UpdatedAt muchLater conn.clientId ⟨0, 1⟩ ⟨10, updateTime_inRange⟩ ⟨0, 5⟩ ∧
      TimePassed muchLater conn ⟨10, updateTime_inRange⟩ ∧
      verifyConnDelayPassed (mockHost codec library 1) muchLater ⟨0, 1⟩ conn =
        .error (.panic .overflow) := by
  refine ⟨⟨by decide +kernel, by decide +kernel⟩, ⟨_, rfl, by decide⟩, by decide +kernel⟩

end Ibc
