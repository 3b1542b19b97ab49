import MetricDesk.Failure
import MetricDesk.Seeding.Chance
import MetricDesk.Seeding.Rows

/-! Synthetic telemetry of a game: its users grow a little every day and come more often at
weekends, they are spread over platforms and countries, and chance does the rest. -/
namespace MetricDesk.Seeding

structure Game where
  name : String
  /-- The active users of a plain day. -/
  users : Number

/-- `n / 10 ^ places`. -/
def decimal (n places : Nat) : Double := Double.ofRatio false n (Nat.pow 10 places)

def one : Double := Double.ofInt 1

/-- Platforms with their shares of the users. -/
def platforms : List (String × Double) := [("ios", decimal 4 1), ("android", decimal 6 1)]

/-- Countries with their shares of the users. -/
def countries : List (String × Double) := [("US", decimal 30 2), ("GB", decimal 10 2),
  ("DE", decimal 10 2), ("IN", decimal 20 2), ("BR", decimal 15 2), ("JP", decimal 15 2)]

/-- A segment, and the shares that its platform and its country have of the users. -/
structure Slice where
  segment : Segment
  platformShare : Double
  countryShare : Double

/-- The slices platform by platform. -/
def slices : List Slice :=
  platforms.flatMap fun (platform, p) =>
    countries.map fun (country, c) => ⟨⟨platform, country⟩, p, c⟩

/-- So many days up to a day, the earliest first. If the calendar has the earliest, it has all. -/
def days (today : Date) (count : Int) : Except Failure (List Date) := do
  let earlier (n : Int) : Except Failure Date := calendar do today.shift (-(← Date.span n))
  if 0 < count then let _ ← earlier (count - 1)
  ((List.range count.toNat).reverse).mapM fun (n : Nat) => earlier n

/-! ### Games -/

/-- How many users a game may have on a plain day. -/
def usersRange : Int × Int := (5000, 50000)

def game (c : Chance) : Draw Game := do
  let name ← c.drawName
  let users ← c.whole usersRange.1 usersRange.2
  return ⟨name, .int users⟩

/-! ### Activity -/

/-- Two in a thousand more every day. -/
def trend (n : Nat) : Double := one.add ((decimal 2 3).mul (Double.ofInt n))

/-- Saturdays and Sundays have more users. -/
def weekend (day : Date) : Double := if 5 ≤ day.weekday then decimal 115 2 else one

/-- The users of a slice on the `n`-th day. -/
def activeUsers (c : Chance) (g : Game) (n : Nat) (day : Date) (slice : Slice) :
    Draw ActiveUsers := do
  let base ← liftM (arithmetic g.users.toDouble)
  let whole := (base.mul (trend n)).mul (weekend day)
  let expected := (whole.mul slice.platformShare).mul slice.countryShare
  let users ← liftM (arithmetic (expected.mul (← c.between (decimal 85 2) (decimal 115 2))).whole)
  return ⟨← c.identifier, g.name, day, slice.segment, users⟩

/-- What so many users bring in on a day, to the cent. -/
def revenue (c : Chance) (g : Game) (day : Date) (users : Int) : Draw Revenue := do
  let each ← c.between (decimal 4 2) (decimal 12 2)
  let total := ((← liftM (arithmetic (Number.toDouble (.int users)))).mul each).round 2
  let share ← c.between (decimal 3 1) (decimal 6 1)
  return ⟨← c.identifier, g.name, day, total, (total.mul share).round 2,
    (total.mul (one.sub share)).round 2⟩

/-- The active users of a day by segments, and the revenue that they bring in. -/
def activityOn (c : Chance) (g : Game) (n : Nat) (day : Date) :
    Draw (List ActiveUsers × Revenue) := do
  let active ← slices.mapM (activeUsers c g n day)
  return (active, ← revenue c g day ((active.map (·.users)).foldl (· + ·) 0))

def activity (c : Chance) (today : Date) (count : Int) (g : Game) :
    Draw (List ActiveUsers × List Revenue) := do
  let days ← liftM (days today count)
  let found ← days.zipIdx.mapM fun (day, n) => activityOn c g n day
  return (found.flatMap (·.1), found.map (·.2))

/-! ### Cohorts -/

/-- The later ages at which a cohort is counted again, with the range of the share that is left. -/
def ages : List (Nat × Double × Double) :=
  [(1, decimal 30 2, decimal 45 2), (7, decimal 8 2, decimal 18 2)]

/-- What is left of a cohort at an age. -/
def retained (c : Chance) (size : Int) (age : Nat × Double × Double) : Draw (Nat × Int) := do
  let (n, low, high) := age
  let share ← c.between low high
  let left := (← liftM (arithmetic (Number.toDouble (.int size)))).mul share
  return (n, ← liftM (arithmetic left.whole))

/-- The cohort of a slice that installs on a day, at every age. One user in twenty installs. -/
def cohort (c : Chance) (g : Game) (day : Date) (slice : Slice) : Draw (List Retention) := do
  let base ← liftM (arithmetic g.users.toDouble)
  let expected := ((base.mul (decimal 5 2)).mul slice.platformShare).mul slice.countryShare
  let size ← liftM (arithmetic (expected.mul (← c.between (decimal 7 1) (decimal 13 1))).whole)
  let counts ← ages.mapM (retained c size)
  ((0, size) :: counts).mapM fun (age, left) => do
    return ⟨← c.identifier, g.name, day, age, slice.segment, size, left⟩

def cohorts (c : Chance) (today : Date) (count : Int) (g : Game) : Draw (List Retention) := do
  let days ← liftM (days today count)
  let found ← days.mapM fun day => slices.mapM (cohort c g day)
  return found.flatten.flatten

end MetricDesk.Seeding
