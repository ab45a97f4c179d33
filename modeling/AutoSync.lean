import AutoSync.Lib.ErrorState
import AutoSync.Lib.Bitset
import AutoSync.Lib.OrdMap
import AutoSync.Lib.PullSync
import AutoSync.Json
import AutoSync.SyncObj
import AutoSync.Snapshot
import AutoSync.SyncManager
import AutoSync.Invariant
import AutoSync.Convergence
import AutoSync.Overlap
import AutoSync.Difference
import AutoSync.Allocation
import AutoSync.Failure
import AutoSync.Codec
import AutoSync.Network.Session
import AutoSync.Network.Host
import AutoSync.Network.Truncated
import AutoSync.Network.Reclaim
import AutoSync.ChatServer
import AutoSync.Operations
import AutoSync.Handles
import AutoSync.Rounds
import AutoSync.Outcome
import AutoSync.Network.Wire
import AutoSync.Network.Server
import AutoSync.Network.ServerRuns
import AutoSync.Network.Client
import AutoSync.Network.System
import AutoSync.Network.Refinement
import AutoSync.Network.Schedule
import AutoSync.ChatSession
import AutoSync.Network.ChatSystem
import AutoSync.Network.ChatNet
import AutoSync.Network.Lockout
