import AnchorRegistry.Text.Digit

/-! Points in time, counted in microseconds, and their calendar spelling. The calendar is the proleptic
Gregorian one: a year is taken to begin in March, so that the leap day comes last, and 400 years are one
cycle of 146097 days. A `Timestamp` is a point in time together with whether its zone is known; the store
keeps times in UTC but forgets that it does. -/

namespace AnchorRegistry

/-- Microseconds since the beginning of 1970, UTC. -/
structure Instant where
  micros : Int
deriving DecidableEq

instance : Inhabited Instant := ⟨⟨0⟩⟩

structure Date where
  year : Int
  month : Nat
  day : Nat
deriving DecidableEq

namespace Date

/-- The date that many days after the first of January 1970. -/
def ofDays (days : Int) : Date :=
  let shifted := days + 719468
  let cycle := shifted / 146097
  let dayOfCycle := (shifted % 146097).toNat
  let yearOfCycle := (dayOfCycle - dayOfCycle / 1460 + dayOfCycle / 36524 - dayOfCycle / 146096) / 365
  let dayOfYear := dayOfCycle - (365 * yearOfCycle + yearOfCycle / 4 - yearOfCycle / 100)
  let monthFromMarch := (5 * dayOfYear + 2) / 153
  let month := if monthFromMarch < 10 then monthFromMarch + 3 else monthFromMarch - 9
  { year := yearOfCycle + cycle * 400 + (if month ≤ 2 then 1 else 0)
    month
    day := dayOfYear - (153 * monthFromMarch + 2) / 5 + 1 }

end Date

namespace Instant

/-- The spelling without a zone: date, time of day, and six digits of microseconds unless there are none. -/
def toText (instant : Instant) : Text :=
  let date := Date.ofDays (instant.micros / 86400000000)
  let micros := (instant.micros % 86400000000).toNat
  let seconds := micros / 1000000
  let padded := fun (width n : Nat) => (Text.ofNat n).padLeft width '0'
  let fraction := micros % 1000000
  padded 4 date.year.toNat ++ ("-" : Text) ++ padded 2 date.month ++ ("-" : Text) ++ padded 2 date.day ++
    ("T" : Text) ++ padded 2 (seconds / 3600) ++ (":" : Text) ++ padded 2 (seconds / 60 % 60) ++
    (":" : Text) ++ padded 2 (seconds % 60) ++
    (if fraction = 0 then [] else ("." : Text) ++ padded 6 fraction)

/-- The spelling with the offset of UTC. -/
def toUtcText (instant : Instant) : Text := instant.toText ++ ("+00:00" : Text)

end Instant

structure Timestamp where
  instant : Instant
  zoned : Bool
deriving DecidableEq

namespace Timestamp

/-- A time taken from the clock. -/
def ofClock (now : Instant) : Timestamp := ⟨now, true⟩

/-- What the store gives back for a time: the same instant without its zone. -/
def stored (t : Timestamp) : Timestamp := ⟨t.instant, false⟩

/-- The spelling followed by `zone` if the zone is known. -/
def toText (zone : Text) (t : Timestamp) : Text :=
  t.instant.toText ++ if t.zoned then zone else []

theorem stored_stored (t : Timestamp) : t.stored.stored = t.stored := rfl

end Timestamp

end AnchorRegistry
