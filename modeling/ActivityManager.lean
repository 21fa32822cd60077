import ActivityManager.TaskBoardDeadlines
import ActivityManager.LifecycleLastRequest
import ActivityManager.ProcessPrioritySimulation
import ActivityManager.AppInfoList
import ActivityManager.ProcessPriorityScores
import ActivityManager.ProcessManagement
import ActivityManager.ForegroundCounting
import ActivityManager.LowMemoryKill
import ActivityManager.Library.PartialProgram
import ActivityManager.TaskLists
import ActivityManager.TaskListInvariant
import ActivityManager.ForegroundAccounting
import ActivityManager.SingleResumed
import ActivityManager.ActivityProgress
import ActivityManager.LifecycleTableBounds
import ActivityManager.HomeTask
import ActivityManager.CrashCleanup
import ActivityManager.UniqueProcess
import ActivityManager.FailedSpawns
import ActivityManager.ProcessDeath
import ActivityManager.UniqueService
import ActivityManager.UniqueTask
import ActivityManager.SystemUIAccounting
import ActivityManager.ClientChannels
import ActivityManager.ClientStages
import ActivityManager.ClientProtocol
import ActivityManager.RelaunchedTop
import ActivityManager.RequestRoutes
import ActivityManager.ServiceAgreement
import ActivityManager.ServiceConnections
import ActivityManager.WaitRelease
import ActivityManager.FailedStarts
import ActivityManager.BackgroundMoves
import ActivityManager.RepeatedFinish
import ActivityManager.FailedCreations
import ActivityManager.StartedActivities
import ActivityManager.ActivityListings
import ActivityManager.ActivityListingSteps
import ActivityManager.LiveActivities
import ActivityManager.ServiceBinding
import ActivityManager.ActivityStack
import ActivityManager.BroadcastReceivers
import ActivityManager.IntentResolution
import ActivityManager.UvLoop
import ActivityManager.ProcessPriorityBands
import ActivityManager.ServiceInvariants
import ActivityManager.RepeatedStops
import ActivityManager.ServicePriorities
import ActivityManager.NullTasks
import ActivityManager.ServiceListings
import ActivityManager.ServiceListingSteps
import ActivityManager.ProcessListings
import ActivityManager.AwaitedActivities
import ActivityManager.ComponentListings
import ActivityManager.IdleApplications
import ActivityManager.PostIntent
import ActivityManager.ComponentRuns
import ActivityManager.PostedIntents
import ActivityManager.Library.DecimalText
import ActivityManager.Library.EventTraces
import ActivityManager.ApplicationThread
import ActivityManager.ApplicationLifecycles
import ActivityManager.ServiceLifecycles
import ActivityManager.ApplicationRuns
import ActivityManager.ApplicationClients
import ActivityManager.ActivityManagerService
import ActivityManager.ListedApplications
import ActivityManager.ServiceConduct
import ActivityManager.ServiceRuns
import ActivityManager.AppBroadcasts
import ActivityManager.ActivityResults
import ActivityManager.AmCommand
import ActivityManager.AmCommandLine
import ActivityManager.Listeners
import ActivityManager.ChildProcesses
import ActivityManager.Library.ScanFormat
import ActivityManager.LowMemoryConfiguration
import ActivityManager.ActivityHosts
import ActivityManager.ProcessChannels
import ActivityManager.ProcessProtocol
import ActivityManager.HomeRestart
import ActivityManager.BootSequence
