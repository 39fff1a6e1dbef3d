import AnchorRegistry.Session
import AnchorRegistry.Text.Printable
import AnchorRegistry.Validation

/-! The operations on anchors and their assets. A write checks its payload, makes at most one commit and
returns the row as it was written; a read returns rows as the store gives them back. Whether an account is
free is decided by the store at the commit and never by looking first. A text that is no identifier names
no anchor, which is not the same as invalid input: it is looked for and not found, and the store is not
asked. -/

namespace AnchorRegistry.Repository

/-- The operations, by the names under which their faults are reported. -/
inductive Operation where
  | createAnchor
  | listAnchors
  | getAnchorById
  | getAnchorByAccount
  | updateAnchorMetrics
  | createAsset
  | listAssetsForAnchor
deriving DecidableEq

def Operation.name : Operation → Text
  | createAnchor => "create_anchor"
  | listAnchors => "list_anchors"
  | getAnchorById => "get_anchor_by_id"
  | getAnchorByAccount => "get_anchor_by_account"
  | updateAnchorMetrics => "update_anchor_metrics"
  | createAsset => "create_asset"
  | listAssetsForAnchor => "list_assets_for_anchor"

open AnchorRegistry.Action

def notice (message : Text) (extras : Log.Extras) : Action Unit :=
  log { level := .info, source := Log.Source.repository.name, message, extras }

/-- The anchor was not found under the text that the caller gave. -/
def notFound {α : Type} (raw : Text) : Action α := fail (.notFound "Anchor" raw) (some raw)

/-- The row of a new anchor: blanks around texts are dropped, and a blank domain is none. -/
def anchorRow (p : Payload.NewAnchor) (id : EntityId) (now : Instant) : Anchor where
  id
  accountReference := p.accountReference.strip
  name := p.name.strip
  homeDomain := p.homeDomain.value?.bind Text.strip?
  description := p.description.value?
  createdAt := .ofClock now
  updatedAt := .ofClock now

def assetRow (p : Payload.NewAsset) (owner id : EntityId) (now : Instant) : Asset where
  id
  anchorId := owner
  code := p.code.strip
  issuer := p.issuer.value?.bind Text.strip?
  totalSupply := p.totalSupply.value?
  numHolders := p.numHolders.getD 0
  createdAt := .ofClock now
  updatedAt := .ofClock now

def createAnchor (p : Payload.NewAnchor) : Action Anchor := do
  refuse (Validation.anchor (some p.accountReference) (some p.name) p.homeDomain.value?)
  let row := anchorRow p (← freshId) (← now)
  let account := row.accountReference
  guarded Operation.createAnchor.name <|
    onIntegrity (commitBinding .insertAnchor fun prepared store => store.insertAnchor prepared row) do
      notice "Anchor account already registered" { accountReference := some account }
      fail (.conflict (("Anchor with account '" : Text) ++ account ++ ("' already exists" : Text)))
        none (some account)
  notice "Anchor created" { anchorId := some row.id.toText, accountReference := some account }
  return row

/-- All anchors, the oldest first. -/
def listAnchors : Action (List Anchor) :=
  guarded Operation.listAnchors.name do
    let anchors ← execute fun store => store.selectAnchors fun _ => true
    return anchors.mergeSort Anchor.before

def getAnchorById (raw : Text) : Action Anchor :=
  match EntityId.parse? raw with
  | none => notFound raw
  | some id => do
    let found ← guarded Operation.getAnchorById.name <|
      execute fun store => store.selectAnchors fun a => a.id = id
    match found with
    | anchor :: _ => return anchor
    | [] => notFound raw

/-- The anchor of an account. Two anchors of one account contradict the store's rules, and neither is
preferred. -/
def getAnchorByAccount (raw : Text) : Action Anchor := do
  let account := raw.strip
  let found ← guarded Operation.getAnchorByAccount.name <|
    executeBinding .selectByAccount fun prepared store => store.selectByAccount prepared account
  match found with
  | [] => fail (.notFound "Anchor" account) none (some account)
  | [anchor] => return anchor
  | anchors =>
    let cause := Cause.invariantViolation
      (("Duplicate anchors for account '" : Text) ++ account ++ ("'" : Text))
    log { level := .critical, source := Log.Source.repository.name
          message := Text.ofNat anchors.length ++ (" anchors share one account reference" : Text)
          extras := { accountReference := some account, errorCode := some cause.code } }
    fail cause none (some account)

/-- Merges the supplied metrics into an anchor. The totals are checked after the merge. -/
def updateAnchorMetrics (raw : Text) (p : Payload.MetricsUpdate) : Action Anchor := do
  refuse (Validation.metricsUpdate p.changes) (some raw)
  let anchor ← getAnchorById raw
  let merged := anchor.metrics.merge p
  refuse (Validation.transactionTotals merged.totalTransactions merged.successfulTransactions
    merged.failedTransactions) (some anchor.id.toText)
  let row : Anchor := { anchor with metrics := merged, updatedAt := .ofClock (← now) }
  guarded Operation.updateAnchorMetrics.name (commit fun store => store.updateAnchor row)
  let names := (Metric.sorted.filter p.supplies).map Metric.name
  notice (("Anchor metrics updated: " : Text) ++ Text.quotedList names)
    { anchorId := some row.id.toText }
  return row

def createAsset (raw : Text) (p : Payload.NewAsset) : Action Asset := do
  let anchor ← getAnchorById raw
  refuse (Validation.asset (some p.code) p.issuer.value? (p.totalSupply.value?.map .double)
    (p.numHolders.value?.map .int)) (some anchor.id.toText)
  let row := assetRow p anchor.id (← freshId) (← now)
  guarded Operation.createAsset.name <|
    onIntegrity (commitBinding .insertAsset fun prepared store => store.insertAsset prepared row)
      (notFound raw)
  notice (("Asset " : Text) ++ row.code ++ (" created" : Text)) { anchorId := some anchor.id.toText }
  return row

/-- The assets of an anchor, the oldest first. -/
def listAssetsForAnchor (raw : Text) : Action (List Asset) := do
  let anchor ← getAnchorById raw
  guarded Operation.listAssetsForAnchor.name do
    let assets ← execute fun store => store.selectAssets fun a => a.anchorId = anchor.id
    return assets.mergeSort Asset.before

end AnchorRegistry.Repository
