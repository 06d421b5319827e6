import MandateDesk.Mandate.Basic

/-!
# Aging

A mandate that waits gains authority: a bump for each full interval of its
age, up to a ceiling. Aging changes copies in front of a decision and never
the registered mandates; an interval of zero turns it off.
-/

namespace MandateDesk

/-- How authority grows with age. -/
structure Aging where
  /-- The interval of a bump, in milliseconds. -/
  interval : Nat
  /-- The authority that each interval adds. -/
  bump : Nat
  /-- The most that is added. -/
  ceiling : Nat
deriving DecidableEq

namespace Aging

/-- One more authority each second, up to ten. -/
def standard : Aging :=
  ⟨1000, 1, 10⟩

/-- No aging. -/
def off : Aging :=
  ⟨0, 0, 0⟩

/-- The largest unsigned number of 64 bits. -/
abbrev largest64 : Nat := 18446744073709551615

/-- The largest unsigned number of 32 bits. -/
abbrev largest32 : Nat := 4294967295

/-- The authority that an age adds. -/
def bumpFor (aging : Aging) (age : Nat) : Nat :=
  if aging.interval = 0 then 0
  else min (min (age / aging.interval * aging.bump) largest64) aging.ceiling

/-- A mandate with the authority of its age. -/
def aged (aging : Aging) (now : Instant) (mandate : Mandate) : Mandate :=
  { mandate with
    authority :=
      min (mandate.authority + aging.bumpFor (mandate.age now)) largest32 }

/-- Mandates with the authority of their age. -/
def apply
    (aging : Aging)
    (now : Instant)
    (mandates : List Mandate) :
    List Mandate :=
  mandates.map (aging.aged now)

theorem bumpFor_zero_interval
    (aging : Aging)
    (age : Nat)
    (off : aging.interval = 0) :
    aging.bumpFor age = 0 := by
  simp [bumpFor, off]

theorem bumpFor_le_ceiling
    (aging : Aging)
    (age : Nat) :
    aging.bumpFor age ≤ aging.ceiling := by
  unfold bumpFor
  split
  · exact Nat.zero_le _
  · exact Nat.min_le_right _ _

end Aging

end MandateDesk
