import MeridianS3.Publication.Theorems
import MeridianS3.Adapter.Execute
import MeridianS3.Adapter.Solo
import MeridianS3.Removal
import MeridianS3.Removal.Theorems
import MeridianS3.Records.Newest
import MeridianS3.Removal.Records
import MeridianS3.Removal.Runs
import MeridianS3.Steps
import MeridianS3.Retention.Theorems
import MeridianS3.Acknowledged
import MeridianS3.Pointers
import MeridianS3.Minted
import MeridianS3.Deletion
import MeridianS3.Deposit.Runs
import MeridianS3.Retry.Delete
import MeridianS3.Effect.Trace
import MeridianS3.Records.Legible
import MeridianS3.Retry.Put
import MeridianS3.Json.Text
import MeridianS3.Standard.Samples
import MeridianS3.Deposit.First
import MeridianS3.Deposit.Failing
import MeridianS3.Registration
import MeridianS3.Adapter.Migration
import MeridianS3.ObjectStore.Claims
import MeridianS3.Deposit.Versions
import MeridianS3.Immutable
import MeridianS3.Runtime.Lifecycle
import MeridianS3.Effect.Confined
import MeridianS3.Transport.Limits
import MeridianS3.Multipart.Exact
import MeridianS3.Transport.Agreement
import MeridianS3.Publication.Verification
import MeridianS3.Deposit.Again
import MeridianS3.Deposit.Sequence
import MeridianS3.Removal.Newest
import MeridianS3.Removal.Frame
import MeridianS3.Removal.Erasure
import MeridianS3.Deposit.Reupload
import MeridianS3.Codec.Path
import MeridianS3.Layout.Cursor.Theorems
import MeridianS3.Layout.Calls
import MeridianS3.Publication.Paths
import MeridianS3.Effect.Account
import MeridianS3.Transport.Commits
import MeridianS3.Publication.Reports
import MeridianS3.Publication.Enforcement
import MeridianS3.Effect.Blame
import MeridianS3.Records.Malformed
import MeridianS3.Records.Corruption
import MeridianS3.Adapter.Range.Theorems
import MeridianS3.Publication.Listing
import MeridianS3.Publication.Measured
import MeridianS3.Publication.RoundTrip
import MeridianS3.Runtime.Session
import MeridianS3.Runtime.Deployment
import MeridianS3.Runtime.Shutdown
import MeridianS3.Runtime.Physical
import MeridianS3.Config.Context
import MeridianS3.Config.Theorems
import MeridianS3.Runtime.Factory
