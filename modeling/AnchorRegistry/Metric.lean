import AnchorRegistry.Number

/-! The seven metrics of an anchor. Scores and the volume are doubles, counts and the settlement time
whole numbers that fit the 64-bit columns they are stored in. `upper?` is the largest legal value. -/

namespace AnchorRegistry

/-- The largest count or duration that a column holds. -/
def maxCount : Int := Nat.pow 2 63 - 1

inductive Metric where
  | trustScore
  | reliabilityScore
  | totalTransactions
  | successfulTransactions
  | failedTransactions
  | totalVolumeUsd
  | avgSettlementTimeMs
deriving DecidableEq

namespace Metric

/-- In the order in which a payload is read. -/
def all : List Metric :=
  [trustScore, reliabilityScore, totalTransactions, successfulTransactions, failedTransactions,
    totalVolumeUsd, avgSettlementTimeMs]

/-- In the order of the names. -/
def sorted : List Metric :=
  [avgSettlementTimeMs, failedTransactions, reliabilityScore, successfulTransactions,
    totalTransactions, totalVolumeUsd, trustScore]

def name : Metric → Text
  | trustScore => "trust_score"
  | reliabilityScore => "reliability_score"
  | totalTransactions => "total_transactions"
  | successfulTransactions => "successful_transactions"
  | failedTransactions => "failed_transactions"
  | totalVolumeUsd => "total_volume_usd"
  | avgSettlementTimeMs => "avg_settlement_time_ms"

/-- The key in JSON. -/
def wireName : Metric → Text
  | trustScore => "trustScore"
  | reliabilityScore => "reliabilityScore"
  | totalTransactions => "totalTransactions"
  | successfulTransactions => "successfulTransactions"
  | failedTransactions => "failedTransactions"
  | totalVolumeUsd => "totalVolumeUsd"
  | avgSettlementTimeMs => "avgSettlementTimeMs"

def ofName? (name : Text) : Option Metric := all.find? fun metric => metric.name = name

/-- The volume alone has no largest value. -/
def upper? : Metric → Option Number
  | trustScore => some (.double .one)
  | reliabilityScore => some (.double .oneHundred)
  | totalVolumeUsd => none
  | _ => some (.int maxCount)

theorem mem_all (metric : Metric) : metric ∈ all := by cases metric <;> decide

theorem ofName?_name (metric : Metric) : ofName? metric.name = some metric := by
  cases metric <;> decide

end Metric

end AnchorRegistry
