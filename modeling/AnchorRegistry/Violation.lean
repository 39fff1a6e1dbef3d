import AnchorRegistry.Number

/-! The ways in which a payload of the right shape can still be wrong. Each violation has a code, a
sentence for the caller and, where there is one, the field it is about. -/

namespace AnchorRegistry

inductive Violation where
  | emptyField (field : Text)
  | fieldTooLong (field : Text) (limit : Number)
  | notFinite (field : Text)
  | negativeValue (field : Text)
  | outOfRange (field : Text) (upper : Number)
  | inconsistentTotals
  | emptyUpdate
  | unknownMetric (field : Text)
  | nullMetric (field : Text)
deriving DecidableEq

namespace Violation

def code : Violation → Text
  | emptyField _ => "EMPTY_FIELD"
  | fieldTooLong .. => "FIELD_TOO_LONG"
  | notFinite _ => "NOT_FINITE"
  | negativeValue _ => "NEGATIVE_VALUE"
  | outOfRange .. => "OUT_OF_RANGE"
  | inconsistentTotals => "INCONSISTENT_TOTALS"
  | emptyUpdate => "EMPTY_UPDATE"
  | unknownMetric _ => "UNKNOWN_METRIC"
  | nullMetric _ => "NULL_METRIC"

def message : Violation → Text
  | emptyField field => field ++ (" must not be empty." : Text)
  | fieldTooLong field limit =>
    field ++ (" must be at most " : Text) ++ limit.toText ++ (" characters." : Text)
  | notFinite field => field ++ (" must be a finite number." : Text)
  | negativeValue field => field ++ (" must not be negative." : Text)
  | outOfRange field upper =>
    field ++ (" must be between 0 and " : Text) ++ upper.toText ++ ("." : Text)
  | inconsistentTotals =>
    "successful_transactions + failed_transactions exceeds total_transactions."
  | emptyUpdate => "At least one metric field is required."
  | unknownMetric field => field ++ (" is not a metric field." : Text)
  | nullMetric field => field ++ (" must not be null." : Text)

def field? : Violation → Option Text
  | emptyField field | fieldTooLong field _ | notFinite field | negativeValue field
  | outOfRange field _ | unknownMetric field | nullMetric field => some field
  | inconsistentTotals => some "total_transactions"
  | emptyUpdate => none

end Violation

end AnchorRegistry
