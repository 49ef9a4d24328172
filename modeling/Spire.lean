import Spire.Runtime
import Spire.PeerTracker.Kevent
import Spire.PeerTracker.Tracker
import Spire.PeerTracker.System
import Spire.PeerTracker.RegistryProofs
import Spire.PeerTracker.ExitSignalProofs
import Spire.PeerTracker.ShutdownProofs
import Spire.Cache.Generational
import Spire.Cache.GenerationalProofs
import Spire.NodeCache.Cache
import Spire.NodeCache.RefreshProofs
import Spire.UpstreamAuthority.Disk
import Spire.UpstreamAuthority.DiskProofs
import Spire.WitMint.Ttl
import Spire.WitMint.TtlProofs
import Spire.Except
import Spire.AgentRun.Config
import Spire.AgentRun.ConfigProofs
import Spire.Template.Cli
import Spire.Template.ShowProofs
import Spire.Template.CreateProofs
import Spire.Api.Template
import Spire.Api.TemplateProofs
import Spire.CaManager.Journal
import Spire.CaManager.JournalProofs
import Spire.FetchWit.Command
import Spire.FetchWit.CommandProofs
import Spire.WitMint.Command
import Spire.WitMint.CommandProofs
