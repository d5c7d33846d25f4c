import Gilbreth.Library.SaturatingInt
import Gilbreth.Library.Machine
import Gilbreth.Core.Text
import Gilbreth.Core.Time
import Gilbreth.Core.Event
import Gilbreth.Core.Content
import Gilbreth.Library.Latch
import Gilbreth.Library.KeyedTable
import Gilbreth.Core.Policy
import Gilbreth.Core.Redaction
import Gilbreth.Core.Completeness
import Gilbreth.Core.Exclusion
import Gilbreth.Core.Action
import Gilbreth.Core.Sequencer
import Gilbreth.Core.Stream
import Gilbreth.Core.NonInterference
import Gilbreth.Core.FailClosed
import Gilbreth.Core.Suppression
import Gilbreth.Store.Rows
import Gilbreth.Store.Database
import Gilbreth.Store.Prune
import Gilbreth.Store.PrunePreview
import Gilbreth.Store.ValueFree
import Gilbreth.Store.Statements
import Gilbreth.Store.RecordRoutine
import Gilbreth.Store.Insert
import Gilbreth.Store.OpenFocus
import Gilbreth.Store.Writer
import Gilbreth.Store.Recording
import Gilbreth.Store.Reset
import Gilbreth.Store.Archive
import Gilbreth.Store.WriterMachine
import Gilbreth.Store.WriterSteps
import Gilbreth.Store.EraseBoundary
import Gilbreth.Store.RowStream
import Gilbreth.Store.Replacement
import Gilbreth.Store.Books
import Gilbreth.Store.InputFrame
import Gilbreth.Store.CommandFrame
import Gilbreth.Store.Open
import Gilbreth.Store.Lifetime
import Gilbreth.Store.LossCounters
import Gilbreth.Store.ResetFrame
import Gilbreth.Store.RecordingState
import Gilbreth.Store.RequestLifecycle
import Gilbreth.Store.ExcludedStretch
import Gilbreth.Store.Timeline
import Gilbreth.Store.TimelineSteps
import Gilbreth.Store.WriterTimeline
import Gilbreth.Store.StartupRepair
import Gilbreth.Store.CrashRepair
import Gilbreth.Store.ArchiveReset
import Gilbreth.Archive.Integrity
import Gilbreth.Read.LiveFocus
import Gilbreth.Read.ActiveTotals
import Gilbreth.Store.DeletionLedger
import Gilbreth.Read.GapVerdict
import Gilbreth.Store.TitleScrub
import Gilbreth.Store.ValueFreeText
import Gilbreth.App.ConfigWriters
import Gilbreth.Read.ReplayExport
import Gilbreth.Read.ReplayValueFree
import Gilbreth.Library.InstantCode
import Gilbreth.Store.SelectorIdentity
import Gilbreth.Library.Alternation
import Gilbreth.Core.PowerPairing
import Gilbreth.Core.SleepGaps
import Gilbreth.Core.ProcessReplay
import Gilbreth.Library.SlidingWindow
import Gilbreth.Core.ProcessChurn
import Gilbreth.Core.DwellConservation
import Gilbreth.Library.BoundedRetry
import Gilbreth.Store.FlushAccounting
import Gilbreth.Store.PathFree
import Gilbreth.Read.RecordingTime
import Gilbreth.Library.OwnedCounts
import Gilbreth.Store.SelectorInterning
import Gilbreth.Store.ActionStore
import Gilbreth.Store.RecordingCounts
import Gilbreth.Library.IndexPicks
import Gilbreth.Read.Candidates
import Gilbreth.Read.ReplayVerdict
import Gilbreth.Library.Chains
import Gilbreth.Read.Interruptions
import Gilbreth.Library.GroupSums
import Gilbreth.Library.StableSort
import Gilbreth.Read.Rounding
import Gilbreth.Read.SessionHeadline
import Gilbreth.Read.IdleTime
import Gilbreth.Read.InputRuns
import Gilbreth.App.StartupRetention
import Gilbreth.Library.WallClock
import Gilbreth.Read.LocalTime
import Gilbreth.Read.WorkEpisodes
import Gilbreth.Read.WorkingSpheres
import Gilbreth.Core.ProcessContinuity
import Gilbreth.Windows.ProcessTracker
import Gilbreth.Windows.ProcessContinuity
import Gilbreth.Library.InterruptedRuns
import Gilbreth.Windows.ActionCoalescer
import Gilbreth.Windows.ActionGrouping
import Gilbreth.Windows.CoalescedActions
import Gilbreth.Macos.PasswordField
import Gilbreth.Macos.PasswordMonitor
import Gilbreth.Library.Stamps
import Gilbreth.Windows.MouseState
import Gilbreth.Windows.MouseConservation
import Gilbreth.Windows.MouseButtons
import Gilbreth.Windows.MouseClicks
import Gilbreth.Windows.MouseHistory
import Gilbreth.Windows.MousePairs
import Gilbreth.Library.Effects
import Gilbreth.Windows.KeyboardState
import Gilbreth.Windows.CaptureControls
import Gilbreth.Windows.CaptureState
import Gilbreth.Windows.PumpRule
import Gilbreth.Windows.IdleEdges
import Gilbreth.Windows.StoredIdle
import Gilbreth.Windows.PowerDwell
import Gilbreth.Windows.UnannouncedSleep
import Gilbreth.Windows.SleepReports
import Gilbreth.Library.Evidence
import Gilbreth.Windows.PasswordCache
import Gilbreth.Read.TypingBursts
import Gilbreth.Library.DelimitedLines
import Gilbreth.Windows.RecordRoutineIpc
import Gilbreth.Library.Simulation
import Gilbreth.Platforms.PointerGestures
import Gilbreth.Linux.MouseState
import Gilbreth.Linux.MouseGestures
import Gilbreth.Macos.MouseState
import Gilbreth.Macos.MouseGestures
import Gilbreth.Windows.MouseGestures
import Gilbreth.Platforms.MouseAgreement
import Gilbreth.Windows.PasswordVerdicts
import Gilbreth.Library.LastSplit
import Gilbreth.App.SecureErase
import Gilbreth.App.ArchiveArtifacts
import Gilbreth.App.Tray
import Gilbreth.App.TrayHold
import Gilbreth.App.TrayThreads
import Gilbreth.App.TrayAgreement
import Gilbreth.App.TraySettled
import Gilbreth.App.TrayRecording
import Gilbreth.Windows.SensitiveBoundaries
import Gilbreth.Windows.BoundaryAgreement
import Gilbreth.Library.FileTree
import Gilbreth.App.UninstallPurge
import Gilbreth.App.PurgeHonesty
import Gilbreth.App.PurgeOutcome
import Gilbreth.App.PurgeRetry
import Gilbreth.Library.FreshIds
import Gilbreth.Macos.GatedForeground
import Gilbreth.Macos.ForegroundPoller
