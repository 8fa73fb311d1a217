/-!
# Spans of Time

Lengths of time in whole seconds and nanoseconds.

## Main definitions

* `Span`: A length of time.
* `Span.ofSeconds`, `Span.ofParts`: Spans from numbers.
-/

namespace Qualifier

/-- A length of time: whole seconds, and nanoseconds short of one more. -/
structure Span where
  seconds : UInt64
  nanos : Fin 1000000000
deriving DecidableEq, Repr

namespace Span

/-- A number of whole seconds. -/
def ofSeconds (seconds : UInt64) : Span :=
  ⟨seconds, 0⟩

/-- Seconds and nanoseconds, of which whole seconds are carried over. -/
def ofParts (seconds : UInt64) (nanos : Nat) : Span :=
  ⟨seconds + UInt64.ofNat (nanos / 1000000000), ⟨nanos % 1000000000, Nat.mod_lt _ (by decide)⟩⟩

/-- The length in nanoseconds. -/
def toNanos (s : Span) : Nat :=
  s.seconds.toNat * 1000000000 + s.nanos.val

instance : LE Span :=
  ⟨fun a b => a.toNanos ≤ b.toNanos⟩

instance : LT Span :=
  ⟨fun a b => a.toNanos < b.toNanos⟩

instance (a b : Span) : Decidable (a ≤ b) :=
  inferInstanceAs (Decidable (a.toNanos ≤ b.toNanos))

instance (a b : Span) : Decidable (a < b) :=
  inferInstanceAs (Decidable (a.toNanos < b.toNanos))

end Span

end Qualifier
