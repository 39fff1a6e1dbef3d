import AnchorRegistry.Identifier
import AnchorRegistry.Payload.Request
import AnchorRegistry.Timestamp

/-! Anchors and assets as rows. An anchor has a profile, which never changes after it is registered, and
metrics, which only an update of metrics changes. `stored` is what the store gives back for a row: times
without their zone and no negative zero; everything else comes back as it went in.

Identifiers are taken to come back as they went in, too. On SQLite this is so unless the 32 digits look like
a number: a column for identifiers has the affinity of numbers there, and decimal digits only, or decimal
digits with one `e` among them, come back as something else. Rows with such identifiers are left out. -/

namespace AnchorRegistry

structure Metrics where
  trustScore : Option Double := none
  reliabilityScore : Option Double := none
  totalTransactions : Int := 0
  successfulTransactions : Int := 0
  failedTransactions : Int := 0
  totalVolumeUsd : Double := .zero
  avgSettlementTimeMs : Option Int := none
deriving DecidableEq

namespace Metrics

/-- The metrics after an update: a given value replaces the old one, and all else stays. -/
def merge (m : Metrics) (p : Payload.MetricsUpdate) : Metrics where
  trustScore := p.trustScore.value? <|> m.trustScore
  reliabilityScore := p.reliabilityScore.value? <|> m.reliabilityScore
  totalTransactions := p.totalTransactions.getD m.totalTransactions
  successfulTransactions := p.successfulTransactions.getD m.successfulTransactions
  failedTransactions := p.failedTransactions.getD m.failedTransactions
  totalVolumeUsd := p.totalVolumeUsd.getD m.totalVolumeUsd
  avgSettlementTimeMs := p.avgSettlementTimeMs.value? <|> m.avgSettlementTimeMs

def stored (m : Metrics) : Metrics :=
  { m with
    trustScore := m.trustScore.map Double.dropZeroSign
    reliabilityScore := m.reliabilityScore.map Double.dropZeroSign
    totalVolumeUsd := m.totalVolumeUsd.dropZeroSign }

@[simp] theorem stored_stored (m : Metrics) : m.stored.stored = m.stored := by
  cases m
  simp [stored, Option.map_map, Function.comp_def]

end Metrics

structure Anchor where
  id : EntityId
  accountReference : Text
  name : Text
  homeDomain : Option Text
  description : Option Text
  metrics : Metrics := {}
  createdAt : Timestamp
  updatedAt : Timestamp
deriving DecidableEq

/-- The order of lists: by time of creation, then by identifier. -/
def comesBefore (createdAt : Timestamp) (id : EntityId) (createdAt' : Timestamp) (id' : EntityId) : Bool :=
  createdAt.instant.micros < createdAt'.instant.micros ||
    (createdAt.instant.micros == createdAt'.instant.micros && id.value ≤ id'.value)

namespace Anchor

def stored (a : Anchor) : Anchor :=
  { a with
    metrics := a.metrics.stored
    createdAt := a.createdAt.stored
    updatedAt := a.updatedAt.stored }

@[simp] theorem stored_stored (a : Anchor) : a.stored.stored = a.stored := by
  have created := a.createdAt.stored_stored
  have updated := a.updatedAt.stored_stored
  simp [stored, created, updated]

/-- The texts of the row, in the order of the columns. -/
def texts (a : Anchor) : List Text :=
  [a.accountReference, a.name] ++ a.homeDomain.toList ++ a.description.toList

def before (a b : Anchor) : Bool := comesBefore a.createdAt a.id b.createdAt b.id

end Anchor

structure Asset where
  id : EntityId
  anchorId : EntityId
  code : Text
  issuer : Option Text
  totalSupply : Option Double
  numHolders : Int
  createdAt : Timestamp
  updatedAt : Timestamp
deriving DecidableEq

namespace Asset

def stored (a : Asset) : Asset :=
  { a with
    totalSupply := a.totalSupply.map Double.dropZeroSign
    createdAt := a.createdAt.stored
    updatedAt := a.updatedAt.stored }

@[simp] theorem stored_stored (a : Asset) : a.stored.stored = a.stored := by
  have created := a.createdAt.stored_stored
  have updated := a.updatedAt.stored_stored
  simp [stored, Option.map_map, Function.comp_def, created, updated]

def texts (a : Asset) : List Text := [a.code] ++ a.issuer.toList

def before (a b : Asset) : Bool := comesBefore a.createdAt a.id b.createdAt b.id

end Asset

end AnchorRegistry
