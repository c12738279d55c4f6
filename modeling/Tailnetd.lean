import Tailnetd.Text
import Tailnetd.Prefs
import Tailnetd.IpAddr
import Tailnetd.Lib.Binary64
import Tailnetd.GoDuration
import Tailnetd.DurationText
import Tailnetd.Lib.FieldWrites
import Tailnetd.Lib.Machine
import Tailnetd.Lib.Ledger
import Tailnetd.Lib.ReadModifyWrite
import Tailnetd.Lib.Epoch
import Tailnetd.Lib.SortedRuns
import Tailnetd.SysPolicy
import Tailnetd.PolicyFile
import Tailnetd.PolicyProjection
import Tailnetd.PolicyFields
import Tailnetd.RevertGuard
import Tailnetd.Checks
import Tailnetd.Config
import Tailnetd.ConfFile
import Tailnetd.Backend
import Tailnetd.Operations
import Tailnetd.Profiles
import Tailnetd.Daemon
import Tailnetd.Sections
import Tailnetd.Steps
import Tailnetd.Boot
import Tailnetd.DryRun
import Tailnetd.Supersede
import Tailnetd.EngineFields
import Tailnetd.Intent
import Tailnetd.DownWins
import Tailnetd.UpEdits
import Tailnetd.ExitNodePin
import Tailnetd.ExitNodeOverride
import Tailnetd.LoggedOut
import Tailnetd.Timer
import Tailnetd.Reconnect
import Tailnetd.Files
import Tailnetd.NodeKey
import Tailnetd.ProfileFiles
import Tailnetd.PrefsMoves
import Tailnetd.PrefsWatch
import Tailnetd.Saves
import Tailnetd.Routes
import Tailnetd.RouteSet
import Tailnetd.ConfMerge
import Tailnetd.ControlUrl
import Tailnetd.ServePorts
import Tailnetd.ServeBackend
import Tailnetd.ServeEdits
import Tailnetd.Lib.TextLines
import Tailnetd.Lib.HostPatterns
import Tailnetd.Lib.Infix
import Tailnetd.StatusReport
import Tailnetd.Lib.CommandLine
import Tailnetd.CliFlags
import Tailnetd.GetSetFlags
import Tailnetd.RevertAdvice
import Tailnetd.Ssh
import Tailnetd.StatusText
import Tailnetd.PortText
import Tailnetd.ServeDisarm
import Tailnetd.ServeExposure
import Tailnetd.ServeAccretes
import Tailnetd.ServeStatus
import Tailnetd.StatusTruth
import Tailnetd.ServeShape
import Tailnetd.Portmap
import Tailnetd.PortmapCurrent
import Tailnetd.PortmapLedger
import Tailnetd.PortmapNonce
import Tailnetd.PortmapReceive
import Tailnetd.PortmapHalves
import Tailnetd.PortmapEpoch
import Tailnetd.UpnpResponses
import Tailnetd.RoutingTable
import Tailnetd.Serve
import Tailnetd.Serving
import Tailnetd.ShieldsFunnel
import Tailnetd.ServeRaces
import Tailnetd.ServeForeground
import Tailnetd.Freshness
import Tailnetd.LiveConfig
import Tailnetd.LiveRuns
import Tailnetd.ReloadRetry
import Tailnetd.ProfileNames
import Tailnetd.ExitNodeNames
import Tailnetd.Lib.Delimited
import Tailnetd.RequestLines
import Tailnetd.SuggestionWatch
import Tailnetd.HttpProxy
import Tailnetd.HostReap
import Tailnetd.Lib.Directory
import Tailnetd.Taildrop
import Tailnetd.EpisodeTimer
import Tailnetd.Lib.Utf8Text
import Tailnetd.Lib.Radix
import Tailnetd.EnvFile
import Tailnetd.DurationBytes
import Tailnetd.DurationGrammar
import Tailnetd.LockSecret
import Tailnetd.Lib.BigEndian
import Tailnetd.Via
import Tailnetd.MountPoints
import Tailnetd.ServicePorts
import Tailnetd.Lib.BitGroups
import Tailnetd.BaseText
import Tailnetd.Lib.FirstEntry
import Tailnetd.Kubeconfig
import Tailnetd.KubeconfigFile
import Tailnetd.Lib.Permits
import Tailnetd.Auth
import Tailnetd.LocalApi
import Tailnetd.Lib.EpochWatch
import Tailnetd.StatusWatch
import Tailnetd.NotifyFrames
import Tailnetd.Lib.Dialogue
import Tailnetd.Socks5
import Tailnetd.Lib.Extremes
import Tailnetd.Update
import Tailnetd.HostNetwork
import Tailnetd.CaptivePortal
import Tailnetd.Lib.AtomicReplace
import Tailnetd.StateFiles
import Tailnetd.Lib.Markup
import Tailnetd.StatusPage
