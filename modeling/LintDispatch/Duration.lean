import LintDispatch.Config

/-!
# Durations
How long something may last. A duration is held as whole seconds and the nanoseconds of one more, so
a number of milliseconds is taken apart on the way in and put together again on the way out. Nothing
is lost there (`Duration.milliseconds_ofMilliseconds`): every 64-bit number of milliseconds has room
in the seconds, and comes back as itself.
-/

namespace LintDispatch

/-- A length of time. -/
structure Duration where
  seconds : UInt64
  /-- The rest, less than a second. -/
  nanoseconds : UInt32
  lt_second : nanoseconds.toNat < 1000000000
  deriving DecidableEq, Repr

namespace Duration

/-- The nanoseconds of a number of milliseconds beyond its whole seconds. -/
def restOf (ms : UInt64) : UInt32 := (ms % 1000).toUInt32 * 1000000

theorem toNat_restOf (ms : UInt64) : (restOf ms).toNat = ms.toNat % 1000 * 1000000 := by
  have hrest : (ms % 1000).toNat = ms.toNat % 1000 := by simp
  have hfactor : (1000000 : UInt32).toNat = 1000000 := rfl
  rw [restOf, UInt32.toNat_mul, UInt64.toNat_toUInt32, hrest, hfactor]
  omega

/-- A number of milliseconds as a duration. -/
def ofMilliseconds (ms : UInt64) : Duration where
  seconds := ms / 1000
  nanoseconds := restOf ms
  lt_second := by
    rw [toNat_restOf]
    omega

/-- The whole milliseconds of a duration. -/
def milliseconds (d : Duration) : Nat := d.seconds.toNat * 1000 + d.nanoseconds.toNat / 1000000

/-- The whole milliseconds as they are reported, cut off at the greatest 64-bit value. -/
def reported (d : Duration) : UInt64 := UInt64.ofNat (min d.milliseconds (UInt64.size - 1))

@[simp] theorem milliseconds_ofMilliseconds (ms : UInt64) :
    (ofMilliseconds ms).milliseconds = ms.toNat := by
  have hseconds : (ms / 1000).toNat = ms.toNat / 1000 := by simp
  rw [milliseconds, ofMilliseconds, hseconds, toNat_restOf]
  omega

@[simp] theorem reported_ofMilliseconds (ms : UInt64) : (ofMilliseconds ms).reported = ms := by
  have hlt : ms.toNat < UInt64.size := ms.toNat_lt
  have hmin : min ms.toNat (UInt64.size - 1) = ms.toNat := by omega
  rw [reported, milliseconds_ofMilliseconds, hmin, UInt64.ofNat_toNat]

end Duration

/-- The time allowed for `count` files. -/
def Config.timeout (c : Config) (count : Nat) : Duration := .ofMilliseconds (c.deadline count)

end LintDispatch
