import MandateDesk.Desk.Parameters
import MandateDesk.Record.Parts

/-!
# Records of parameters

Any part of the parameters may be left out and then has its standard value.
-/

namespace MandateDesk

namespace Aging

/-- The names of the parts of aging. -/
def partNames : List String :=
  ["step_ms", "bump_per_step", "max_bump"]

/-- The record of aging. -/
def record (aging : Aging) : Json :=
  .object
    (partNames.zip
      ([aging.interval, aging.bump, aging.ceiling].map Record.ofNat))

/-- Reads aging that is written in a form. -/
def readAs? (form : Record.Form) (value : Json) : Option Aging := do
  let parts ← form.parts partNames value
  return {
    interval :=
      ← Record.defaulted? "step_ms" standard.interval form.unsigned64 parts
    bump :=
      ← Record.defaulted? "bump_per_step" standard.bump form.unsigned32 parts
    ceiling :=
      ← Record.defaulted? "max_bump" standard.ceiling form.unsigned32 parts }

/-- The aging that a record stands for. -/
def ofRecord? (value : Json) : Option Aging :=
  readAs? .strict value

end Aging

namespace Desk.Parameters

/-- The names of the parts of parameters. -/
def partNames : List String :=
  ["cycle_interval_ms", "channel_capacity", "audit_capacity",
    "max_snapshot_age_ms", "reservation_timeout_ms", "mandate_ttl_ms",
    "holder_id", "aging"]

/-- The record of parameters. -/
def record (parameters : Parameters) : Json :=
  .object
    [("cycle_interval_ms", Record.ofNat parameters.cycleInterval),
      ("channel_capacity", Record.ofNat parameters.channelCapacity),
      ("audit_capacity", Record.ofNat parameters.auditCapacity),
      ("max_snapshot_age_ms", Record.ofNat parameters.oldestSnapshot),
      ("reservation_timeout_ms", Record.ofNat parameters.reservationTimeout),
      ("mandate_ttl_ms", Record.ofNat parameters.mandateLifetime),
      ("holder_id", .string parameters.holder),
      ("aging", parameters.aging.record)]

/-- Reads parameters that are written in a form. -/
def readAs? (form : Record.Form) (value : Json) : Option Parameters := do
  let parts ← form.parts partNames value
  let number name standard :=
    Record.defaulted? name standard form.unsigned64 parts
  return {
    cycleInterval := ← number "cycle_interval_ms" standard.cycleInterval
    channelCapacity := ← number "channel_capacity" standard.channelCapacity
    auditCapacity := ← number "audit_capacity" standard.auditCapacity
    oldestSnapshot := ← number "max_snapshot_age_ms" standard.oldestSnapshot
    reservationTimeout :=
      ← number "reservation_timeout_ms" standard.reservationTimeout
    mandateLifetime := ← number "mandate_ttl_ms" standard.mandateLifetime
    holder := ← Record.defaulted? "holder_id" standard.holder form.text parts
    aging :=
      ← Record.defaulted? "aging" standard.aging (Aging.readAs? form) parts }

/-- The parameters that a record stands for. -/
def ofRecord? (value : Json) : Option Parameters :=
  readAs? .strict value

end Desk.Parameters

end MandateDesk
