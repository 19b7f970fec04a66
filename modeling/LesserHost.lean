import LesserHost.TipSplitter.Basic
import LesserHost.TipSplitter.Steps
import LesserHost.TipSplitter.Solvency
import LesserHost.Lib.RefCount
import LesserHost.TipSplitter.Hosts
import LesserHost.TipSplitter.Limits
import LesserHost.Solidity.ERC721
import LesserHost.SoulRegistry.Basic
import LesserHost.SoulRegistry.Steps
import LesserHost.SoulRegistry.Binding
import LesserHost.Go.Basic
import LesserHost.HostedGenesis.CheckpointRef
import LesserHost.HostedGenesis.TurnLedger
import LesserHost.HostedGenesis.TurnLedgerLaws
import LesserHost.ControlPlane.Store
import LesserHost.ControlPlane.Server
import LesserHost.ControlPlane.Wallet
import LesserHost.ControlPlane.PortalAuth
import LesserHost.ControlPlane.Setup
import LesserHost.ControlPlane.Endpoints
import LesserHost.ControlPlane.WalletLinks
import LesserHost.ControlPlane.WalletLogin
import LesserHost.ControlPlane.Takeover
import LesserHost.Go.Bytes
import LesserHost.Go.JSON
import LesserHost.Go.Text
import LesserHost.HostedGenesis.Declarations
import LesserHost.HostedGenesis.Candidate
import LesserHost.HostedGenesis.CandidateOps
import LesserHost.HostedGenesis.CandidateValid
import LesserHost.Lib.Trace
import LesserHost.HostedGenesis.CandidateSteps
import LesserHost.HostedGenesis.CandidateRuns
import LesserHost.HostedGenesis.OwnerReview
import LesserHost.HostedGenesis.CandidateProgress
import LesserHost.HostedGenesis.Authoring
import LesserHost.HostedGenesis.Session
import LesserHost.HostedGenesis.SessionModel
import LesserHost.HostedGenesis.SessionStore
import LesserHost.Lib.Interleave
import LesserHost.Mailbox.Message
import LesserHost.Mailbox.State
import LesserHost.Mailbox.Flags
import LesserHost.Mailbox.Pages
import LesserHost.Lib.TypedData
import LesserHost.Soul.MintPermit
import LesserHost.SoulRegistry.Permits
import LesserHost.Go.Base64
import LesserHost.Lib.Versioned
import LesserHost.HostedGenesis.SessionCommits
import LesserHost.HostedGenesis.SessionGates
import LesserHost.Go.JSONText
import LesserHost.ProvisionWorker.Job
import LesserHost.ProvisionWorker.Calls
import LesserHost.ProvisionWorker.Consent
import LesserHost.ProvisionWorker.Account
import LesserHost.ProvisionWorker.Runner
import LesserHost.ProvisionWorker.Deploy
import LesserHost.Lib.Monitor
import LesserHost.ProvisionWorker.Process
import LesserHost.ProvisionWorker.Stopped
import LesserHost.SoulLifecycle.Table
import LesserHost.SoulLifecycle.Handlers
import LesserHost.SoulLifecycle.Requests
import LesserHost.SoulLifecycle.Status
import LesserHost.SoulLifecycle.Succession
import LesserHost.Soul.Capabilities
import LesserHost.SoulContacts.Owners
import LesserHost.SoulContacts.Sync
import LesserHost.SoulLifecycle.Journal
import LesserHost.SoulLifecycle.Nonces
import LesserHost.X402.Grant
import LesserHost.X402.Counter
import LesserHost.X402.Slots
import LesserHost.Lib.Keyed
import LesserHost.SoulIndexes.Rows
import LesserHost.SoulIndexes.Mirror
import LesserHost.TipSplitter.AgentTips
import LesserHost.SoulReputation.TipCounts
import LesserHost.SoulReputation.TipWindows
import LesserHost.EmailIngress.Ingress
import LesserHost.SoulRecovery.Inventory
import LesserHost.SoulRecovery.Cursor
import LesserHost.SoulRecovery.InventoryWalk
import LesserHost.SoulReputation.TipScan
import LesserHost.SoulReputation.CommSignals
import LesserHost.SoulComm.Availability
import LesserHost.Trust.Identities
import LesserHost.HostedGenesis.FiveBodyNormal
import LesserHost.Soul.Identity
import LesserHost.TipRegistry.Operations
import LesserHost.TipRegistry.Texts
import LesserHost.TipRegistry.Log
import LesserHost.Lib.Abi
import LesserHost.SoulRotation.Handlers
import LesserHost.SoulRotation.Accepted
import LesserHost.SoulRotation.Agreement
import LesserHost.Outbound.Addresses
import LesserHost.Outbound.Fetcher
import LesserHost.Outbound.Guard
import LesserHost.Outbound.Runs
import LesserHost.HostedGenesis.Dispatch
import LesserHost.HostedGenesis.DispatchRuns
import LesserHost.HostedGenesis.FreshRun
import LesserHost.HostedGenesis.TurnsAlive
import LesserHost.ControlPlane.Bearer
import LesserHost.ControlPlane.IssuedTokens
import LesserHost.Budget.Edits
import LesserHost.Budget.Checkout
import LesserHost.Budget.PurchaseRuns
import LesserHost.ControlPlane.Passkeys
import LesserHost.ControlPlane.PasskeyRuns
import LesserHost.ControlPlane.WalletRuns
import LesserHost.Merkle.Openings
import LesserHost.Lib.IndexedList
import LesserHost.TipSplitter.Allowlist
import LesserHost.SoulRegistry.Fees
import LesserHost.SoulRegistry.SVGUtils
import LesserHost.SoulRegistration.Predecessor
import LesserHost.Go.TimeOrder
import LesserHost.Store.TimeKeys
import LesserHost.HostedGenesis.CapabilityForms
import LesserHost.TipSplitter.Batches
import LesserHost.ProvisionWorker.UpdatePersist
import LesserHost.HostedGenesis.RecoveryBudget
import LesserHost.SoulRegistration.Runs
import LesserHost.SoulRegistration.Recovered
import LesserHost.Billing.Credits
import LesserHost.Ens.Gateway
import LesserHost.Ens.Signatures
import LesserHost.Go.Runes
import LesserHost.Lib.NameHash
import LesserHost.Ens.Names
import LesserHost.Lib.HeaderBlock
import LesserHost.SoulComm.Message
import LesserHost.SoulComm.Recipients
import LesserHost.HostedGenesis.ReviewBlocks
import LesserHost.MicrovmVersions.Pruner
import LesserHost.MicrovmVersions.ActivePin
import LesserHost.SoulComm.RateLimit
import LesserHost.SoulComm.Replay
import LesserHost.Ens.Resolver
import LesserHost.Budget.Cap
