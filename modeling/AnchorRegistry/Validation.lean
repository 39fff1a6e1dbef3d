import AnchorRegistry.Metric
import AnchorRegistry.Text.Basic
import AnchorRegistry.Violation

/-! Checks on what a payload means. Each check gives the first violation it finds, or nothing. Texts are
measured without the blanks around them, which is how they are stored; numbers are compared exactly. -/

namespace AnchorRegistry.Validation

/-- Column widths in code points. An account is 56 characters and an asset code at most 12. -/
def maxAccountReference : Number := .int 56
def maxName : Number := .int 255
def maxHomeDomain : Number := .int 255
def maxAssetCode : Number := .int 12
def maxIssuer : Number := .int 56

/-- A text that may be absent must fit its column. -/
def optionalText (value : Option Text) (field : Text) (limit : Number) : Option Violation :=
  match value with
  | none => none
  | some t =>
    if limit.less (.int t.strip.length) then some (.fieldTooLong field limit) else none

/-- A required text must fit its column and hold something besides blanks. -/
def requiredText (value : Option Text) (field : Text) (limit : Number) : Option Violation :=
  match value with
  | none => some (.emptyField field)
  | some t => if t.strip = [] then some (.emptyField field) else optionalText (some t) field limit

def nonNegative (value : Option Number) (field : Text) : Option Violation :=
  match value with
  | none => none
  | some n =>
    if !n.isFinite then some (.notFinite field)
    else if n.isNegative then some (.negativeValue field)
    else none

def upperBound (value : Option Number) (field : Text) (upper : Number) : Option Violation :=
  match value with
  | none => none
  | some n => if upper.less n then some (.outOfRange field upper) else none

/-- Successful and failed transactions together never exceed all of them. -/
def transactionTotals (total successful failed : Int) : Option Violation :=
  if total < successful + failed then some .inconsistentTotals else none

/-- The same for any numbers, unless two of them have no sum. -/
def numericTotals? (total successful failed : Number) : Option (Option Violation) :=
  (successful.add? failed).map fun sum => if total.less sum then some .inconsistentTotals else none

def anchor (accountReference name homeDomain : Option Text) : Option Violation :=
  requiredText accountReference "account_reference" maxAccountReference <|>
    requiredText name "name" maxName <|>
    optionalText homeDomain "home_domain" maxHomeDomain

def asset (code issuer : Option Text) (totalSupply numHolders : Option Number) : Option Violation :=
  requiredText code "code" maxAssetCode <|>
    optionalText issuer "issuer" maxIssuer <|>
    nonNegative totalSupply "total_supply" <|>
    nonNegative numHolders "num_holders" <|>
    upperBound numHolders "num_holders" (.int maxCount)

/-- The violation of one supplied entry. -/
def metricEntry (name : Text) (value : Option Number) : Option Violation :=
  match Metric.ofName? name with
  | none => some (.unknownMetric name)
  | some metric =>
    match value with
    | none => some (.nullMetric name)
    | some n =>
      nonNegative (some n) name <|> metric.upper?.bind fun upper => upperBound (some n) name upper

/-- The first violation in the order of the entries; at least one entry is needed. -/
def metricsUpdate (entries : List (Text × Option Number)) : Option Violation :=
  if entries = [] then some .emptyUpdate
  else entries.findSome? fun (name, value) => metricEntry name value

end AnchorRegistry.Validation
