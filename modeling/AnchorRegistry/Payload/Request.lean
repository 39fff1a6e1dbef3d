import AnchorRegistry.Metric
import AnchorRegistry.Payload.Field

/-! The three payloads that callers send: a new anchor, an update of metrics, and a new asset. Each is
read from a JSON object, whose unknown members are ignored; every field keeps whether it was supplied. -/

namespace AnchorRegistry.Payload

/-- Reads a payload from the members of an object; no other value has members. -/
def ofMembers {α : Type} (read : List (Text × Json) → Checked α) : Json → Checked α
  | .object members => read members
  | _ => .rejected [⟨[], .notAnObject⟩]

namespace Key

def accountReference : Key := ⟨"account_reference", "accountReference"⟩
def anchorName : Key := ⟨"name", "name"⟩
def homeDomain : Key := ⟨"home_domain", "homeDomain"⟩
def description : Key := ⟨"description", "description"⟩
def code : Key := ⟨"code", "code"⟩
def issuer : Key := ⟨"issuer", "issuer"⟩
def totalSupply : Key := ⟨"total_supply", "totalSupply"⟩
def numHolders : Key := ⟨"num_holders", "numHolders"⟩

def ofMetric (metric : Metric) : Key := ⟨metric.name, metric.wireName⟩

end Key

/-- The profile of an anchor to be registered. -/
structure NewAnchor where
  accountReference : Text
  name : Text
  homeDomain : Entry Text
  description : Entry Text
deriving DecidableEq

/-- New values for some of the metrics of an anchor. -/
structure MetricsUpdate where
  trustScore : Entry Double
  reliabilityScore : Entry Double
  totalTransactions : Entry Int
  successfulTransactions : Entry Int
  failedTransactions : Entry Int
  totalVolumeUsd : Entry Double
  avgSettlementTimeMs : Entry Int
deriving DecidableEq

/-- An asset to be created; its owner is named elsewhere. -/
structure NewAsset where
  code : Text
  issuer : Entry Text
  totalSupply : Entry Double
  numHolders : Entry Int
deriving DecidableEq

namespace NewAnchor

def ofJson : Json → Checked NewAnchor :=
  ofMembers fun members =>
    NewAnchor.mk <$> required text .accountReference members <*> required text .anchorName members <*>
      optional text .homeDomain members <*> optional text .description members

/-- The fields with what was supplied for them. -/
def entries (p : NewAnchor) : List (Key × Entry Json) :=
  [(.accountReference, .given (.string p.accountReference)), (.anchorName, .given (.string p.name)),
    (.homeDomain, p.homeDomain.map .string), (.description, p.description.map .string)]

end NewAnchor

namespace MetricsUpdate

def ofJson : Json → Checked MetricsUpdate :=
  ofMembers fun members =>
    MetricsUpdate.mk <$> optional number (.ofMetric .trustScore) members <*>
      optional number (.ofMetric .reliabilityScore) members <*>
      optional whole (.ofMetric .totalTransactions) members <*>
      optional whole (.ofMetric .successfulTransactions) members <*>
      optional whole (.ofMetric .failedTransactions) members <*>
      optional number (.ofMetric .totalVolumeUsd) members <*>
      optional whole (.ofMetric .avgSettlementTimeMs) members

/-- What the update says about one metric. -/
def entry (p : MetricsUpdate) : Metric → Entry Number
  | .trustScore => p.trustScore.map .double
  | .reliabilityScore => p.reliabilityScore.map .double
  | .totalTransactions => p.totalTransactions.map .int
  | .successfulTransactions => p.successfulTransactions.map .int
  | .failedTransactions => p.failedTransactions.map .int
  | .totalVolumeUsd => p.totalVolumeUsd.map .double
  | .avgSettlementTimeMs => p.avgSettlementTimeMs.map .int

/-- Whether the caller said anything about a metric, be it null. -/
def supplies (p : MetricsUpdate) (metric : Metric) : Bool := (p.entry metric).isSupplied

/-- The supplied metrics by name, null where no value came with them. They are a set, which may be gone through in any
order; the declared order stands for each of them, because an update is accepted in all or in none
(`Validation.accepted_of_perm`). Only which of several violations is reported depends on it. -/
def changes (p : MetricsUpdate) : List (Text × Option Number) :=
  (Metric.all.filter p.supplies).map fun metric => (metric.name, (p.entry metric).value?)

def entries (p : MetricsUpdate) : List (Key × Entry Json) :=
  Metric.all.map fun metric => (.ofMetric metric, (p.entry metric).map .ofNumber)

end MetricsUpdate

namespace NewAsset

def ofJson : Json → Checked NewAsset :=
  ofMembers fun members =>
    NewAsset.mk <$> required text .code members <*> optional text .issuer members <*>
      optional number .totalSupply members <*> optional whole .numHolders members

def entries (p : NewAsset) : List (Key × Entry Json) :=
  [(.code, .given (.string p.code)), (.issuer, p.issuer.map .string),
    (.totalSupply, p.totalSupply.map .double), (.numHolders, p.numHolders.map .int)]

end NewAsset

/-- The supplied fields as an object under their wire names. -/
def suppliedObject (entries : List (Key × Entry Json)) : Json :=
  .object (entries.filterMap fun (key, entry) =>
    if entry.isSupplied then some (key.wireName, entry.value?.getD .null) else none)

end AnchorRegistry.Payload
