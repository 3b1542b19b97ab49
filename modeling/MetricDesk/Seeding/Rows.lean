import MetricDesk.Plan.Vocabulary
import MetricDesk.Value.Basic
import MetricDesk.Warehouse.Table

/-! The rows of the warehouse's tables, as they are seeded. The order of their fields is the order
of the columns that they are inserted into. -/
namespace MetricDesk.Seeding

/-- Which part of a game's users a row is about. -/
structure Segment where
  platform : String
  country : String
  deriving DecidableEq, Repr

/-- The columns of a segment. -/
def Segment.toFields (s : Segment) : Fields := [
  (Warehouse.column .platform, .str s.platform),
  (Warehouse.column .country, .str s.country)]

/-- The users of a segment that were active on a day. -/
structure ActiveUsers where
  id : String
  game : String
  day : Date
  segment : Segment
  users : Int

def ActiveUsers.toFields (r : ActiveUsers) : Fields :=
  [("id", .str r.id), ("gameId", .str r.game), ("date", .day r.day)] ++ r.segment.toFields
    ++ [("dau", .int r.users)]

/-- What a game earned on a day, as a whole, by advertisements and by purchases. -/
structure Revenue where
  id : String
  game : String
  day : Date
  total : Double
  advertisements : Double
  purchases : Double

def Revenue.toFields (r : Revenue) : Fields := [
  ("id", .str r.id), ("gameId", .str r.game), ("date", .day r.day),
  ("totalRevenueUsd", .dbl r.total),
  ("adRevenueUsd", .dbl r.advertisements),
  ("iapRevenueUsd", .dbl r.purchases)]

/-- How many of those who installed a game on a day were active so many days later. -/
structure Retention where
  id : String
  game : String
  installed : Date
  age : Nat
  segment : Segment
  size : Int
  retained : Int

def Retention.toFields (r : Retention) : Fields :=
  [("id", .str r.id), ("gameId", .str r.game), ("installDate", .day r.installed),
    ("dayIndex", .nat r.age)] ++ r.segment.toFields
    ++ [("cohortSize", .int r.size), ("retainedUsers", .int r.retained)]

end MetricDesk.Seeding
