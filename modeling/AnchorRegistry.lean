import AnchorRegistry.Engine
import AnchorRegistry.Http.Service
import AnchorRegistry.Log.Setup
import AnchorRegistry.Log.Template
import AnchorRegistry.Main
import AnchorRegistry.Migration.Config
import AnchorRegistry.Migration.Schema
import AnchorRegistry.Proofs.Addressing
import AnchorRegistry.Proofs.Alarm
import AnchorRegistry.Proofs.CallSite
import AnchorRegistry.Proofs.Commutation
import AnchorRegistry.Proofs.DatabaseUrl
import AnchorRegistry.Proofs.Effective
import AnchorRegistry.Proofs.Events
import AnchorRegistry.Proofs.History
import AnchorRegistry.Proofs.Holders
import AnchorRegistry.Proofs.Http.Concealment
import AnchorRegistry.Proofs.Http.Context
import AnchorRegistry.Proofs.Http.Dispatch
import AnchorRegistry.Proofs.Http.Logged
import AnchorRegistry.Proofs.Http.ReadBack
import AnchorRegistry.Proofs.Http.Readiness
import AnchorRegistry.Proofs.Http.Rendered
import AnchorRegistry.Proofs.Http.Status
import AnchorRegistry.Proofs.Interruption
import AnchorRegistry.Proofs.Line
import AnchorRegistry.Proofs.Listing
import AnchorRegistry.Proofs.Merge
import AnchorRegistry.Proofs.Migration
import AnchorRegistry.Proofs.Normalised
import AnchorRegistry.Proofs.Objection
import AnchorRegistry.Proofs.Precedence
import AnchorRegistry.Proofs.Registrations
import AnchorRegistry.Proofs.Transparency
