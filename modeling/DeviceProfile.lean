import DeviceProfile.Library.Program
import DeviceProfile.Library.Interleaving
import DeviceProfile.Library.Simulation
import DeviceProfile.Library.Batches
import DeviceProfile.Library.Balance
import DeviceProfile.Library.Rely
import DeviceProfile.Library.RemoteCall
import DeviceProfile.Library.Restart
import DeviceProfile.Library.Crash
import DeviceProfile.Library.Linearization
import DeviceProfile.Library.Run
import DeviceProfile.Library.Table
import DeviceProfile.Library.Schema
import DeviceProfile.Library.Decimal
import DeviceProfile.Library.Binary64
import DeviceProfile.Library.EachOnce
import DeviceProfile.Library.OrderedMap
import DeviceProfile.Library.Grouping
import DeviceProfile.Trust.Data
import DeviceProfile.Trust.Query
import DeviceProfile.Trust.Manager
import DeviceProfile.Trust.Frame
import DeviceProfile.Trust.Reading
import DeviceProfile.Trust.Effect
import DeviceProfile.Trust.Calls
import DeviceProfile.Trust.Integrity
import DeviceProfile.Trust.TrustDevice
import DeviceProfile.Trust.Mirror
import DeviceProfile.Trust.Rebinding
import DeviceProfile.Trust.Readback
import DeviceProfile.Trust.UpdateFrame
import DeviceProfile.Trust.Concurrency
import DeviceProfile.Trust.Notices
import DeviceProfile.Trust.Activation
import DeviceProfile.Trust.Announcement
import DeviceProfile.Trust.ActivationExact
import DeviceProfile.Trust.UpdateAtomic
import DeviceProfile.Rdb.OpenCallback
import DeviceProfile.Rdb.Upgrade
import DeviceProfile.Rdb.Migration
import DeviceProfile.Rdb.MigrationSafety
import DeviceProfile.Rdb.ProfileUpgrade
import DeviceProfile.Profile.Keys
import DeviceProfile.Profile.DbKey
import DeviceProfile.Profile.UserSegment
import DeviceProfile.Profile.Codec
import DeviceProfile.Profile.View
import DeviceProfile.Profile.RoundTrip
import DeviceProfile.Profile.KeySpace
import DeviceProfile.Cache.Online
import DeviceProfile.Cache.ProfileCache
import DeviceProfile.Cache.SwitchStatus
import DeviceProfile.Cache.SwitchAgreement
import DeviceProfile.Cache.SwitchRun
import DeviceProfile.Cache.SwitchRace
import DeviceProfile.Cache.PeerSwitch
import DeviceProfile.Profile.Store
import DeviceProfile.Profile.Manager
import DeviceProfile.Profile.Put
import DeviceProfile.Profile.Lookup
import DeviceProfile.Profile.Delete
import DeviceProfile.Profile.UserChange
import DeviceProfile.Profile.RemovedUser
import DeviceProfile.Profile.ForegroundView
import DeviceProfile.Profile.ForegroundRace
import DeviceProfile.Profile.Repair
import DeviceProfile.Profile.RepairRace
import DeviceProfile.Profile.DeleteFinal
import DeviceProfile.Profile.Service
import DeviceProfile.Profile.StartUp
import DeviceProfile.Profile.Deferred
import DeviceProfile.Profile.Partition
import DeviceProfile.Profile.Writes
import DeviceProfile.Profile.Listing
import DeviceProfile.Library.Json
import DeviceProfile.Info.ServiceInfo
import DeviceProfile.Info.Manager
import DeviceProfile.Info.Delete
import DeviceProfile.Info.Listener
import DeviceProfile.Info.LocalService
import DeviceProfile.Info.LocalServiceRace
import DeviceProfile.Trust.ServiceIds
import DeviceProfile.Library.Parcel
import DeviceProfile.Ipc.InterfaceCode
import DeviceProfile.Ipc.RemoteMethods
import DeviceProfile.Ipc.RemoteCalls
import DeviceProfile.Ipc.Marshalling
import DeviceProfile.Service.Lifecycle
import DeviceProfile.Service.LifecycleRuns
import DeviceProfile.Ipc.Restoring
import DeviceProfile.Subscribe.Data
import DeviceProfile.Library.KeyedSet
import DeviceProfile.Library.Locks
import DeviceProfile.Subscribe.Table
import DeviceProfile.Ipc.Decoding
import DeviceProfile.Subscribe.Notify
import DeviceProfile.Subscribe.Client
import DeviceProfile.Trust.TokenQuery
import DeviceProfile.Trust.PartyQuery
import DeviceProfile.Trust.QueryParams
import DeviceProfile.Trust.ParameterQuery
import DeviceProfile.Trust.QueryRuns
import DeviceProfile.Trust.SessionKeys
import DeviceProfile.Trust.RowCodec
import DeviceProfile.Profile.LockOrder
import DeviceProfile.Subscribe.Inited
import DeviceProfile.Subscribe.SyncListener
import DeviceProfile.Subscribe.SyncStart
import DeviceProfile.Subscribe.ChangeFilter
import DeviceProfile.Rdb.DeviceIcon
import DeviceProfile.Library.WriteThrough
import DeviceProfile.Cache.StoreAgreement
import DeviceProfile.Library.ReadThrough
import DeviceProfile.Static.Loader
import DeviceProfile.Static.Manager
import DeviceProfile.Static.Mirror
import DeviceProfile.Static.Version
import DeviceProfile.Rdb.DeviceProfiles
import DeviceProfile.Rdb.DeviceProfileBatch
import DeviceProfile.Kv.Adapter
import DeviceProfile.Kv.AdapterRuns
