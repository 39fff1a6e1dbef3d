import AnchorRegistry.Failure
import AnchorRegistry.Row

/-! Responses and what they hold: rows under their wire names, the answers to a payload that cannot be used,
and the constant answer to anything unforeseen. -/

namespace AnchorRegistry.Http

structure Response where
  status : Int
  headers : List (Text × Text) := []
  body : Option Json := none
deriving Inhabited

def wireTimestamp (t : Timestamp) : Json := .string (t.toText "Z")

def ofOptional {α : Type} (f : α → Json) (a : Option α) : Json := a.elim .null f

/-- The value of one metric as JSON. -/
def wireMetric (m : Metrics) : Metric → Json
  | .trustScore => ofOptional .double m.trustScore
  | .reliabilityScore => ofOptional .double m.reliabilityScore
  | .totalTransactions => .int m.totalTransactions
  | .successfulTransactions => .int m.successfulTransactions
  | .failedTransactions => .int m.failedTransactions
  | .totalVolumeUsd => .double m.totalVolumeUsd
  | .avgSettlementTimeMs => ofOptional .int m.avgSettlementTimeMs

/-- An anchor with its columns under their wire names (`wireAnchor_isRow`). -/
def wireAnchor (a : Anchor) : Json :=
  let profile : List (Text × Json) :=
    [("id", .string a.id.toText), ("accountReference", .string a.accountReference),
      ("name", .string a.name), ("homeDomain", .ofText? a.homeDomain),
      ("description", .ofText? a.description)]
  let metrics : List (Text × Json) :=
    Metric.all.map fun metric => (metric.wireName, wireMetric a.metrics metric)
  let times : List (Text × Json) :=
    [("createdAt", wireTimestamp a.createdAt), ("updatedAt", wireTimestamp a.updatedAt)]
  .object (profile ++ metrics ++ times)

/-- An asset with its columns under their wire names (`wireAsset_isRow`). -/
def wireAsset (a : Asset) : Json :=
  .object [("id", .string a.id.toText), ("anchorId", .string a.anchorId.toText),
    ("code", .string a.code), ("issuer", .ofText? a.issuer),
    ("totalSupply", ofOptional .double a.totalSupply), ("numHolders", .int a.numHolders),
    ("createdAt", wireTimestamp a.createdAt), ("updatedAt", wireTimestamp a.updatedAt)]

def wireDetail (detail : Payload.Detail) : Json :=
  .object [("field", .string (Text.join "." detail.path)),
    ("message", .string detail.issue.message), ("type", .string detail.issue.kind)]

/-- The answer to a body that is not the payload that was asked for. -/
def invalidPayload (details : List Payload.Detail) : Response where
  status := 400
  body := some (errorEnvelope "VALIDATION_ERROR" "Invalid request data" Category.validation.name
    Severity.error.name [("details", .array (details.map wireDetail))])

/-- An answer that has no envelope, to a request that reaches no endpoint or whose body is no text. -/
def plainDetail (status : Int) (detail : Text) : Response where
  status
  body := some (.object [("detail", .string detail)])

/-- The answer to everything unforeseen; it says nothing of the cause and not even when it arose. -/
def unforeseenResponse : Response where
  status := 500
  body := some (errorEnvelope internalCode genericFailureMessage Category.internal.name
    Severity.critical.name [])

def healthyResponse : Response where
  status := 200
  body := some (.object [("status", .string "healthy"), ("service", .string "anchor-service"),
    ("version", .string "0.1.0")])

def readyResponse : Response where
  status := 200
  body := some (.object [("status", .string "ready"),
    ("checks", .object [("database", .string "healthy"), ("schema", .string "healthy")])])

def notReadyResponse (reason : Text) : Response where
  status := 503
  body := some (.object [("status", .string "not_ready"), ("reason", .string reason)])

/-- Whether a response can be sent: every text in its body has an encoding. -/
def Response.isSendable (response : Response) : Bool := response.body.all Json.storable

end AnchorRegistry.Http
