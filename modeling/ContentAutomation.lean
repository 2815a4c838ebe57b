import ContentAutomation.Jobs.RetryBounds
import ContentAutomation.Jobs.ManualRetry
import ContentAutomation.Jobs.Cancellation
import ContentAutomation.Jobs.Deliveries
import ContentAutomation.Jobs.Stranded
import ContentAutomation.Jobs.Coverage
import ContentAutomation.Jobs.EnqueueRace
import ContentAutomation.Analytics.FalseDiscovery
import ContentAutomation.Analytics.Spreads
import ContentAutomation.Analytics.StoredConfidence
import ContentAutomation.Worker.Commit
import ContentAutomation.Uploads.Orphans
import ContentAutomation.Instagram.PostFilters
import ContentAutomation.Auth.Revocation
import ContentAutomation.Instagram.BootstrapSync
import ContentAutomation.Jobs.Concurrency
import ContentAutomation.Strategy.Canonical
import ContentAutomation.Instagram.StoredSnapshots
import ContentAutomation.Analytics.WindowInputs
import ContentAutomation.Analytics.ComparableSnapshots
import ContentAutomation.Analytics.FocalVideo
import ContentAutomation.Analytics.MetricBounds
import ContentAutomation.Strategy.CoverageCounts
import ContentAutomation.Uploads.SettledUploads
import ContentAutomation.Strategy.RequiredEvidence
import ContentAutomation.Strategy.StatisticPlaces
import ContentAutomation.Strategy.Expressible
import ContentAutomation.Strategy.CandidateOrder
import ContentAutomation.Chat.Answers
import ContentAutomation.Chat.HourlyLimit
import ContentAutomation.Worker.CurrentResults
import ContentAutomation.Instagram.SyncCheckpoints
import ContentAutomation.Instagram.CommentReads
import ContentAutomation.Analytics.Trends
import ContentAutomation.Uploads.ObjectStaging
import ContentAutomation.Uploads.Progress
import ContentAutomation.Chat.Instruction
import ContentAutomation.Chat.Replies
import ContentAutomation.Instagram.Provenance
import ContentAutomation.Instagram.CredentialEnvelope
import ContentAutomation.Auth.Invitations
import ContentAutomation.Chat.PostsContext
