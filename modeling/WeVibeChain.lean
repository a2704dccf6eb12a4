import WeVibeChain.Shared.OrderedMap
import WeVibeChain.Shared.Counter
import WeVibeChain.Shared.Bytes
import WeVibeChain.Shared.Machine
import WeVibeChain.Shared.Words
import WeVibeChain.Shared.Wire
import WeVibeChain.BankKeeper
import WeVibeChain.EmissionsTypes
import WeVibeChain.EmissionsKeeper
import WeVibeChain.IdentityKeeper
import WeVibeChain.IdentityAliases
import WeVibeChain.EmissionsMsgServer
import WeVibeChain.EmissionsAmounts
import WeVibeChain.EmissionsRewards
import WeVibeChain.EmissionsConservation
import WeVibeChain.EmissionsAtomicity
import WeVibeChain.EmissionsSolvency
import WeVibeChain.OrgKeeper
import WeVibeChain.OrgOperations
import WeVibeChain.OrgMsgServer
import WeVibeChain.OrgChanges
import WeVibeChain.OrgViews
import WeVibeChain.OrgRegistry
import WeVibeChain.OrgConsistency
import WeVibeChain.OrgLeaders
import WeVibeChain.ReputationKeeper
import WeVibeChain.ReputationMsgServer
import WeVibeChain.ReputationProfiles
import WeVibeChain.ReputationAuthority
import WeVibeChain.MemoryTypes
import WeVibeChain.MemoryKeeper
import WeVibeChain.MemoryDecoding
import WeVibeChain.MemoryMsgServer
import WeVibeChain.MemoryAuthority
import WeVibeChain.MemoryEpochs
import WeVibeChain.EpochHooks
import WeVibeChain.MemoryRuns
import WeVibeChain.MemoryRoots
import WeVibeChain.MemoryCoverage
import WeVibeChain.UpheldReports
import WeVibeChain.BandwidthKeeper
import WeVibeChain.ServeTypes
import WeVibeChain.Preimages
import WeVibeChain.ServeKeeper
import WeVibeChain.ServeMsgServer
import WeVibeChain.ServeChanges
import WeVibeChain.ServeTallies
import WeVibeChain.ServeAuthority
import WeVibeChain.ServeRecords
import WeVibeChain.ServeDenials
import WeVibeChain.ServeViews
import WeVibeChain.ServeIsolation
import WeVibeChain.ServeCaps
import WeVibeChain.ServeAttribution
import WeVibeChain.ServeExpiry
import WeVibeChain.Application
import WeVibeChain.EventLog
import WeVibeChain.Counters
import WeVibeChain.Authority
import WeVibeChain.ClosedOrgs
import WeVibeChain.OverrideAuthority
import WeVibeChain.MemoryTotals
import WeVibeChain.ContributorTotals
import WeVibeChain.UpheldQueries
import WeVibeChain.SubmissionCaps
import WeVibeChain.BandwidthMeter
import WeVibeChain.BandwidthGenesis
import WeVibeChain.MemoryExpiry
import WeVibeChain.MemoryLimits
import WeVibeChain.OrgFeegrants
import WeVibeChain.OrgGenesis
import WeVibeChain.MemoryGenesis
import WeVibeChain.ReputationGenesis
import WeVibeChain.EmissionsGenesis
import WeVibeChain.ServeDecoding
import WeVibeChain.ServeParams
import WeVibeChain.ServeGenesis
import WeVibeChain.ReputationStats
import WeVibeChain.ReputationServes
import WeVibeChain.ReputationMemories
import WeVibeChain.ReputationListings
import WeVibeChain.ServePolicy
import WeVibeChain.PendingLimit
import WeVibeChain.MemoryScans
import WeVibeChain.ServeReceipts
import WeVibeChain.EmissionsSchedule
import WeVibeChain.OrgPrices
import WeVibeChain.EmissionsCap
import WeVibeChain.EmissionsSplit
import WeVibeChain.OrgCharges
import WeVibeChain.ServeBatches
import WeVibeChain.ReputationDomains
import WeVibeChain.UpheldPages
import WeVibeChain.AttestationKeeper
import WeVibeChain.AttestationIndex
import WeVibeChain.EmissionsBootstrap
import WeVibeChain.OrgTrials
import WeVibeChain.IdentityGenesis
import WeVibeChain.OrgMembers
import WeVibeChain.Node
import WeVibeChain.NodeRewards
import WeVibeChain.SignedTexts
import WeVibeChain.SignedRecords
import WeVibeChain.References
import WeVibeChain.Tenants
import WeVibeChain.TenantRuns
import WeVibeChain.BandwidthBytes
import WeVibeChain.ModuleFlow
