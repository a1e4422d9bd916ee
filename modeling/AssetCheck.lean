import AssetCheck.Main
import AssetCheck.Proofs.Bridge.InStep
import AssetCheck.Proofs.Build.Discipline
import AssetCheck.Proofs.Build.History
import AssetCheck.Proofs.Collect.Order
import AssetCheck.Proofs.Pipeline.RoundTrip
import AssetCheck.Proofs.Report.Persistence
import AssetCheck.Proofs.Run.Phases
import AssetCheck.Proofs.Scene.Handles
import AssetCheck.Proofs.Build.Faults
import AssetCheck.Proofs.Json.Refusals
import AssetCheck.Proofs.Build.Parameters
import AssetCheck.Proofs.Verdict
import AssetCheck.Proofs.Json.Listing
import AssetCheck.Proofs.Json.Admits
import AssetCheck.Proofs.Json.Schema
import AssetCheck.Proofs.Report.Schema
import AssetCheck.Proofs.Run.Tokens
import AssetCheck.Proofs.Scene.Cooked
import AssetCheck.Proofs.Collect.Alone
import AssetCheck.Proofs.Run.Attempts
import AssetCheck.Proofs.Scene.Refused
import AssetCheck.Proofs.Collect.Further
import AssetCheck.Proofs.Run.Outcomes
import AssetCheck.Proofs.Report.Tree
import AssetCheck.Proofs.Bridge.Requests
import AssetCheck.Proofs.AssetLists
import AssetCheck.Proofs.Chain.WayBack
import AssetCheck.Proofs.ParamValues
import AssetCheck.Proofs.Scene.Names
