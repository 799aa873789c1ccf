/-!
# The clock

Points in time on a clock that counts nanoseconds from its start and whose seconds have to fit
into 63 bits.
-/

namespace RecordGateway

/-- A point in time. -/
structure Moment where
  /-- The nanoseconds since the clock was started. -/
  nanoseconds : Nat
deriving DecidableEq

namespace Moment

instance : LT Moment := ⟨fun a b => a.nanoseconds < b.nanoseconds⟩

instance : LE Moment := ⟨fun a b => a.nanoseconds ≤ b.nanoseconds⟩

instance (a b : Moment) : Decidable (a < b) :=
  inferInstanceAs (Decidable (a.nanoseconds < b.nanoseconds))

instance (a b : Moment) : Decidable (a ≤ b) :=
  inferInstanceAs (Decidable (a.nanoseconds ≤ b.nanoseconds))

/-- The nanoseconds of a second. -/
def second : Nat := 1000000000

/-- The point in time a number of seconds later, if the clock reaches it. -/
def after? (m : Moment) (seconds : Nat) : Option Moment :=
  let later := m.nanoseconds + seconds * second
  if later / second < 0x8000000000000000 then some ⟨later⟩ else none

end Moment

end RecordGateway
