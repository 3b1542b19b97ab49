import MetricDesk.Calendar.Date

/-! Moments: a day, a time of day to the microsecond, and where it is known the distance from
universal time. -/
namespace MetricDesk

/-- The offset is in seconds, positive to the east. -/
structure Moment where
  day : Date
  hour : Nat
  minute : Nat
  second : Nat
  micro : Nat
  offset : Option Int
  deriving DecidableEq

namespace Moment

/-- Microseconds since the beginning of the calendar: where the distance from universal time is
known by its clocks, otherwise by those of the moment's own place. -/
def instant (m : Moment) : Int :=
  let seconds : Int := ((m.day.ordinal * 24 + m.hour) * 60 + m.minute) * 60 + m.second
  (seconds - m.offset.getD 0) * 1000000 + m.micro

/-- Whether both or neither of two distances from universal time are known. -/
def isComparable (m n : Moment) : Bool := m.offset.isSome == n.offset.isSome

/-- `HH:MM:SS`, with microseconds if there are any. -/
def clock (m : Moment) : List Char :=
  Digits.padded 2 m.hour ++ ':' :: Digits.padded 2 m.minute ++ ':' :: Digits.padded 2 m.second
    ++ if m.micro = 0 then [] else '.' :: Digits.padded 6 m.micro

/-- `±HH:MM`, whatever seconds there are besides. -/
def shortZone (seconds : Int) : List Char :=
  let s := seconds.natAbs
  (if seconds < 0 then '-' else '+') :: Digits.padded 2 (s / 3600) ++ ':' ::
    Digits.padded 2 (s / 60 % 60)

/-- `±HH:MM`, with seconds if there are any. -/
def zone (seconds : Int) : List Char :=
  let s := seconds.natAbs
  shortZone seconds ++ if s % 60 = 0 then [] else ':' :: Digits.padded 2 (s % 60)

/-- Day and time with a character between them. -/
def text (between : Char) (m : Moment) : String :=
  m.day.iso ++ String.ofList (between :: m.clock ++ (m.offset.map zone).getD [])

def iso (m : Moment) : String := m.text 'T'

end Moment
end MetricDesk
