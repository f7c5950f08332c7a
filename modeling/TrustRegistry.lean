import TrustRegistry.Lib.AssocMap
import TrustRegistry.Lib.Transition
import TrustRegistry.Lib.Delimited
import TrustRegistry.Lib.Json
import TrustRegistry.Lib.JsonShape
import TrustRegistry.Lib.Trim
import TrustRegistry.Lib.Csv
import TrustRegistry.Lib.ByKey
import TrustRegistry.Lib.KeyedTable
import TrustRegistry.Lib.TwoStep
import TrustRegistry.Lib.Redelivery
import TrustRegistry.Domain
import TrustRegistry.Storage.Repository
import TrustRegistry.Domain.Key
import TrustRegistry.Storage.RecordMap
import TrustRegistry.Storage.LocalStorage
import TrustRegistry.Storage.LockedStorage
import TrustRegistry.Storage.StringKeyed
import TrustRegistry.Storage.RedisStorage
import TrustRegistry.Storage.FjallStorage
import TrustRegistry.Storage.DdbStorage
import TrustRegistry.Storage.Aliasing
import TrustRegistry.Storage.CsvRow
import TrustRegistry.Storage.CsvFileStorage
import TrustRegistry.Storage.CsvText
import TrustRegistry.Storage.CsvCrash
import TrustRegistry.Storage.CsvAtomicity
import TrustRegistry.Storage.CsvReload
import TrustRegistry.Storage.CsvConcurrency
import TrustRegistry.Storage.CsvOrdering
import TrustRegistry.Storage.MapBacked
import TrustRegistry.Storage.RecordTable
import TrustRegistry.Storage.MapRefinement
import TrustRegistry.Storage.FjallRefinement
import TrustRegistry.Storage.FjallConcurrency
import TrustRegistry.TrustTasks.Payloads
import TrustRegistry.TrustTasks.Framework
import TrustRegistry.TrustTasks.Proof
import TrustRegistry.Dedup.MessageIdStore
import TrustRegistry.Dedup.Claims
import TrustRegistry.Dedup.Dispatch
import TrustRegistry.Dedup.Attribution
import TrustRegistry.TrustTasks.Router
import TrustRegistry.TrustTasks.SpecRecords
import TrustRegistry.Capabilities.CapabilitySet
import TrustRegistry.Capabilities.StateStore
import TrustRegistry.Capabilities.GitTrust
import TrustRegistry.Capabilities.Governance
import TrustRegistry.Server.Server
import TrustRegistry.Server.Bindings
import TrustRegistry.Server.WriteGate
import TrustRegistry.Server.ReadOnlySurface
import TrustRegistry.Server.SenderIsolation
import TrustRegistry.Server.Redelivery
import TrustRegistry.Server.BindingsAgree
import TrustRegistry.Didcomm.Messages
import TrustRegistry.Didcomm.AdminMessages
import TrustRegistry.Didcomm.BaseHandler
import TrustRegistry.Didcomm.DidDocument
import TrustRegistry.Configs.DidcommConfig
import TrustRegistry.Capabilities.Atomicity
import TrustRegistry.Capabilities.Convergence
import TrustRegistry.Capabilities.GitTrustLifecycle
import TrustRegistry.Capabilities.GitTrustEffect
import TrustRegistry.Capabilities.GitTrustAuthority
import TrustRegistry.Didcomm.AdminRedelivery
import TrustRegistry.Domain.Merge
import TrustRegistry.Http.Trqp
import TrustRegistry.Http.TrqpAgree
import TrustRegistry.Client.TrqlClient
import TrustRegistry.Client.HttpsAgree
import TrustRegistry.Client.PendingReplies
import TrustRegistry.Didcomm.PublishedKeys
import TrustRegistry.Server.RecordContexts
import TrustRegistry.Client.Demux
import TrustRegistry.Client.Discovery
import TrustRegistry.Capabilities.RevokeRace
import TrustRegistry.Storage.RedisScan
import TrustRegistry.Storage.DdbConflicts
import TrustRegistry.Lib.Uri
import TrustRegistry.Didcomm.PublicUrl
import TrustRegistry.Configs.AdminDids
import TrustRegistry.Lib.JsonPath
import TrustRegistry.Domain.MergeLaws
import TrustRegistry.Lib.FirstRead
import TrustRegistry.Client.Advertised
import TrustRegistry.Didcomm.AuditTrail
import TrustRegistry.Audit.AuditLogger
import TrustRegistry.Didcomm.AdminMigration
import TrustRegistry.Didcomm.KeySecrecy
import TrustRegistry.Dedup.Lifetimes
import TrustRegistry.Tsp.RetryTransient
import TrustRegistry.Lib.CodedMap
import TrustRegistry.Storage.RecordLayout
import TrustRegistry.Storage.RedisRefinement
import TrustRegistry.Storage.DdbRefinement
import TrustRegistry.Storage.BackendsAgree
import TrustRegistry.Dedup.Applied
import TrustRegistry.Didcomm.Listener
import TrustRegistry.Didcomm.ListenerDispatch
import TrustRegistry.Lib.Past
import TrustRegistry.Tsp.Envelope
import TrustRegistry.Client.MediatorQueries
import TrustRegistry.Client.TspQueries
import TrustRegistry.Lib.SavedMap
import TrustRegistry.Capabilities.StateFile
import TrustRegistry.Server.Health
import TrustRegistry.Lib.Lines
import TrustRegistry.Configs.EnvFile
import TrustRegistry.Storage.RedisListing
import TrustRegistry.Lib.Utf8
