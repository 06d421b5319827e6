import MandateDesk.Instant.Basic
import MandateDesk.Text.Digits

/-!
# The halt latch

The latch is tripped by conditions that need an operator. While it is tripped
no entry is sent; exits go on. The first reason stays until the latch is
cleared.
-/

namespace MandateDesk

namespace Halt

/-- Why the latch was tripped. -/
inductive Reason where
  /-- A reservation was held for too long. -/
  | staleReservation (symbol : String) (ticket : Nat)
  /-- A position lost its shape. -/
  | invariantViolation (symbol detail : String)
  /-- Another error after which nothing can go on. -/
  | fatal (detail : String)
  /-- An operator asked for it. -/
  | manual (reason : String)
deriving DecidableEq

/-- The text of a reason. -/
def Reason.text : Reason → String
  | .staleReservation symbol ticket =>
    s!"stale reservation on {symbol} (ticket {Text.decimalText ticket})"
  | .invariantViolation symbol detail =>
    s!"invariant violation on {symbol}: {detail}"
  | .fatal detail => s!"fatal: {detail}"
  | .manual reason => s!"manual: {reason}"

end Halt

/-- The latch, with the reason and the time of its first trip. -/
structure Halt where
  /-- Why and since when it is tripped. -/
  trip? : Option (Halt.Reason × Instant)
deriving DecidableEq

namespace Halt

/-- The latch before its first trip. -/
def released : Halt :=
  ⟨none⟩

instance : Inhabited Halt :=
  ⟨released⟩

/-- Whether the latch is tripped. -/
def isHalted (halt : Halt) : Bool :=
  halt.trip?.isSome

/-- Why the latch is tripped. -/
def reason? (halt : Halt) : Option Reason :=
  halt.trip?.map Prod.fst

/-- Since when the latch is tripped. -/
def since? (halt : Halt) : Option Instant :=
  halt.trip?.map Prod.snd

/-- Trips the latch, unless it is tripped already. -/
def trip (halt : Halt) (reason : Reason) (now : Instant) : Halt :=
  if halt.isHalted then halt else ⟨some (reason, now)⟩

/-- Opens the latch again. -/
def clear (_ : Halt) : Halt :=
  released

theorem isHalted_trip
    (halt : Halt)
    (reason : Reason)
    (now : Instant) :
    (halt.trip reason now).isHalted = true := by
  unfold trip
  split
  · assumption
  · rfl

/-- The first reason stays. -/
theorem trip_of_isHalted
    (halt : Halt)
    (reason : Reason)
    (now : Instant)
    (halted : halt.isHalted = true) :
    halt.trip reason now = halt := by
  simp [trip, halted]

theorem isHalted_clear (halt : Halt) : halt.clear.isHalted = false :=
  rfl

end Halt

end MandateDesk
