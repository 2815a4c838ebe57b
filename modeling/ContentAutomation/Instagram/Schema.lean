import ContentAutomation.Analytics.Windows
import ContentAutomation.Library.Table
import ContentAutomation.Library.Utf16
import Mathlib.Data.Rat.Floor

/-!
# The tables of connected accounts

Rows, `CHECK` constraints and unique indexes of `instagram_accounts`,
`instagram_posts` and `instagram_metric_snapshots`. Columns that no modelled
function reads are left out: of a post its raw payload, the payload's hash, API
version and time, and when the row was made and changed.
-/

namespace ContentAutomation

open Relational

/-- `instagramApiVersion`. -/
def instagramApiVersion : String := "v25.0"

/-- `InstagramConnectionStatus`. -/
inductive InstagramConnectionStatus
  | active | reauthorisationRequired | disconnected
  deriving DecidableEq

/-- `InstagramMediaKind`. -/
inductive InstagramMediaKind
  | reel | video | image | carouselAlbum | unsupported
  deriving DecidableEq

/-- A row of `instagram_accounts`. -/
structure InstagramAccount where
  id : String
  workspaceId : String
  connectionStatus : InstagramConnectionStatus
  followerCount : Option ℤ
  tokenExpiresAt : Option ℤ
  lastSuccessfulSyncAt : Option ℤ
  analyticsDirtySince : Option ℤ
  analyticsDueAt : Option ℤ
  currentStrategyId : Option String
  providerAccountId : String := ""
  deriving DecidableEq

/-- A row of `instagram_posts`. -/
structure InstagramPost where
  id : String
  workspaceId : String
  instagramAccountId : String
  mediaKind : InstagramMediaKind
  publishedAt : ℤ
  currentAnalysisId : Option String
  providerMediaId : Utf16 := []
  mediaType : Utf16 := []
  mediaProductType : Option Utf16 := none
  caption : Option Utf16 := none
  permalink : Option Utf16 := none
  providerThumbnailUrl : Option Utf16 := none
  firstImportedAt : ℤ := 0
  lastImportedAt : ℤ := 0
  lastSyncRunId : Option String := none
  deriving DecidableEq

/-! ### Metrics -/

/-- `InstagramCanonicalMetric`. -/
inductive InstagramCanonicalMetric
  | averageWatchTimeMs | comments | follows | likes | plays | profileActivity | profileVisits
  | reach | saves | shares | skipRate | totalInteractions | totalWatchTimeMs | views
  deriving DecidableEq

/-- `InstagramMetricAvailability`. -/
inductive InstagramMetricAvailability
  | available | unavailable | notApplicable | permissionMissing | providerError | notRequested
  deriving DecidableEq

/-- `InstagramMetricUnit`. -/
inductive InstagramMetricUnit
  | count | milliseconds | ratio
  deriving DecidableEq

/-- `InstagramMetricObservation`. -/
structure InstagramMetricObservation where
  availability : InstagramMetricAvailability
  canonical : InstagramCanonicalMetric
  value : Option ℚ
  description : Option Utf16 := none
  period : Option Utf16 := none
  providerName : Option Utf16 := none
  providerUnit : Option InstagramMetricUnit := none
  title : Option Utf16 := none
  unit : Option InstagramMetricUnit := none
  deriving DecidableEq

/-- `observation`, without overrides. -/
def observation (availability : InstagramMetricAvailability)
    (canonical : InstagramCanonicalMetric) : InstagramMetricObservation where
  availability := availability
  canonical := canonical
  value := none

/-- What the availability map of a snapshot says about one metric. -/
structure InstagramMetricAvailabilityEntry where
  availability : InstagramMetricAvailability
  description : Option Utf16
  period : Option Utf16
  providerName : Option Utf16
  providerUnit : Option InstagramMetricUnit
  unit : Option InstagramMetricUnit

/-- What the availability map keeps of an observation. -/
def InstagramMetricObservation.availabilityEntry (entry : InstagramMetricObservation) :
    InstagramMetricAvailabilityEntry where
  availability := entry.availability
  description := entry.description
  period := entry.period
  providerName := entry.providerName
  providerUnit := entry.providerUnit
  unit := entry.unit

/-- A row of `instagram_metric_snapshots`. The value columns are one list. -/
structure InstagramMetricSnapshot where
  id : String
  workspaceId : String
  instagramPostId : String
  capturedAt : ℤ
  postAgeSeconds : ℤ
  ageBucket : InstagramSnapshotBucket
  apiVersion : String
  values : List (InstagramCanonicalMetric × ℚ)
  availability : List (InstagramCanonicalMetric × InstagramMetricAvailabilityEntry)
  followerCount : Option ℤ
  rawPayloadHash : String

/-- The key under which one observation is stored once. -/
def InstagramMetricSnapshot.key (row : InstagramMetricSnapshot) :
    String × InstagramSnapshotBucket × String × String :=
  (row.instagramPostId, row.ageBucket, row.apiVersion, row.rawPayloadHash)

/-- The constraints of `instagram_metric_snapshots`. -/
def instagramMetricSnapshotSchema : Schema InstagramMetricSnapshot where
  checks :=
    [("instagram_metric_snapshots_counts_non_negative", fun row =>
        decide (0 ≤ row.postAgeSeconds) &&
          row.values.all (fun value => value.1 == .skipRate || decide (0 ≤ value.2)) &&
          row.followerCount.all fun count => decide (0 ≤ count)),
      ("instagram_metric_snapshots_skip_rate_is_a_ratio", fun row =>
        row.values.all fun value =>
          value.1 != .skipRate || (decide (0 ≤ value.2) && decide (value.2 ≤ 1)))]
  indexes :=
    [("instagram_metric_snapshots_pkey", fun row other => row.id == other.id),
      ("instagram_metric_snapshots_instagram_post_id_age_bucket_api_key", fun row other =>
        row.key == other.key)]

end ContentAutomation
