import TaskTwin.Alert.SourceConflicts
import TaskTwin.Capture.SubmissionOrder
import TaskTwin.Editor.OutputRenaming
import TaskTwin.Engine.AttemptOrder
import TaskTwin.Engine.ReadyPreflight
import TaskTwin.Engine.TerminationRace
import TaskTwin.JobWorker.Quiescence
import TaskTwin.Lifecycle.Trail
import TaskTwin.Listing.Listings
import TaskTwin.LocalSecrets.InventoryLaw
import TaskTwin.Locator.RankingLaw
import TaskTwin.Notification.DeliveryLaw
import TaskTwin.Notification.Eligibility
import TaskTwin.Pairing.PairingLaw
import TaskTwin.Privacy.RedactionLaw
import TaskTwin.Publication.ReadinessLaw
import TaskTwin.Rollout.Ownership
import TaskTwin.RunStore.Completions
import TaskTwin.RunnerUpdate.Preflight
import TaskTwin.RunnerUpdate.Retention
import TaskTwin.Schedule.AmbiguousOutcome
import TaskTwin.Schedule.DailyOccurrences
import TaskTwin.Schedule.WeeklyOccurrences
import TaskTwin.SecureInputs.DeliveryLaw
