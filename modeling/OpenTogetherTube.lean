import OpenTogetherTube.Room.ClockRuns
import OpenTogetherTube.Room.PauseSticks
import OpenTogetherTube.Room.StartGrace
import OpenTogetherTube.Room.Duplicates
import OpenTogetherTube.Client.HiddenViewers
import OpenTogetherTube.Balancer.ClientTable
import OpenTogetherTube.Balancer.OldestLoad
import OpenTogetherTube.Balancer.Regions
import OpenTogetherTube.Manager.Loads
import OpenTogetherTube.Manager.LoadEpochs
import OpenTogetherTube.Manager.Unload
import OpenTogetherTube.Manager.PasswordGate
import OpenTogetherTube.Manager.Slots
import OpenTogetherTube.Manager.MessageBudget
import OpenTogetherTube.Media.AddressText
import OpenTogetherTube.Media.Redirects
import OpenTogetherTube.Media.BatchLookup
import OpenTogetherTube.Voice.Relay
import OpenTogetherTube.Room.SyncLock
import OpenTogetherTube.Manager.Names
import OpenTogetherTube.Manager.Registry
import OpenTogetherTube.Manager.VoiceRuns
import OpenTogetherTube.Room.Saves
import OpenTogetherTube.Room.Revision
import OpenTogetherTube.Room.Attendance
import OpenTogetherTube.Edge.Occupied
import OpenTogetherTube.Edge.Prepared
import OpenTogetherTube.Edge.Ranks
import OpenTogetherTube.Edge.Ballots
import OpenTogetherTube.Edge.ItemUpdates
import OpenTogetherTube.Edge.Atomic
import OpenTogetherTube.Room.Segments
import OpenTogetherTube.Room.IdleStart
import OpenTogetherTube.Room.Provenance
import OpenTogetherTube.Room.SecondsWatched
import OpenTogetherTube.Room.GrantsStorage
import OpenTogetherTube.Room.SettingsGrants
import OpenTogetherTube.Room.Promotions
import OpenTogetherTube.Room.Notes
import OpenTogetherTube.Edge.Alarm
import OpenTogetherTube.Edge.Probed
import OpenTogetherTube.Client.BufferAhead
import OpenTogetherTube.Client.Timestamp
import OpenTogetherTube.Panel.MergedTrees
import OpenTogetherTube.Panel.FilteredGroups
import OpenTogetherTube.Client.BoundedRecovery
import OpenTogetherTube.Client.Scheduling
import OpenTogetherTube.Client.EpisodeShift
import OpenTogetherTube.Client.ConnectionPhases
import OpenTogetherTube.Client.DriftCorrection
import OpenTogetherTube.Room.Enforcement
import OpenTogetherTube.Room.Reload
