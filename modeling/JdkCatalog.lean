import JdkCatalog.BuildNumber.Json
import JdkCatalog.Compression
import JdkCatalog.Config.OfToml
import JdkCatalog.Feed.Load
import JdkCatalog.Platform.Json
import JdkCatalog.Proofs.BuildNumber.Grammar
import JdkCatalog.Proofs.BuildNumber.Malformed
import JdkCatalog.Proofs.BuildNumber.Order
import JdkCatalog.Proofs.BuildNumber.RoundTrip
import JdkCatalog.Proofs.BuildNumber.Wildcard
import JdkCatalog.Proofs.Config.Reading
import JdkCatalog.Proofs.Entry
import JdkCatalog.Proofs.Entry.Faults
import JdkCatalog.Proofs.Feed.Cancellation
import JdkCatalog.Proofs.Feed.Compression
import JdkCatalog.Proofs.Feed.Log
import JdkCatalog.Proofs.Feed.Stages
import JdkCatalog.Proofs.Filter.Algebra
import JdkCatalog.Proofs.Filter.Classical
import JdkCatalog.Proofs.Filter.Congruence
import JdkCatalog.Proofs.Filter.Evaluation
import JdkCatalog.Proofs.Filter.Information
import JdkCatalog.Proofs.Filter.Interval
import JdkCatalog.Proofs.Filter.Meaning
import JdkCatalog.Proofs.Filter.Monotone
import JdkCatalog.Proofs.Filter.Order
import JdkCatalog.Proofs.Filter.Parts
import JdkCatalog.Proofs.Filter.Respelling
import JdkCatalog.Proofs.Filter.Text
import JdkCatalog.Proofs.Item.Order
import JdkCatalog.Proofs.Json.Text
import JdkCatalog.Proofs.Platform.Tags
import JdkCatalog.Proofs.Selection.Congruence
import JdkCatalog.Proofs.Selection.Interference
import JdkCatalog.Proofs.Selection.Listing
import JdkCatalog.Proofs.Selection.Log
import JdkCatalog.Proofs.Selection.Outcome
import JdkCatalog.Proofs.Selection.Raised
import JdkCatalog.Proofs.Selection.Report
import JdkCatalog.Proofs.Selection.Respelling
import JdkCatalog.Proofs.Sorting
import JdkCatalog.Proofs.Text.Runs
import JdkCatalog.Proofs.Version.Contents
import JdkCatalog.Proofs.Version.Order
import JdkCatalog.Proofs.Version.Respelling
import JdkCatalog.Proofs.Version.Slices
import JdkCatalog.Proofs.Version.Suffix
import JdkCatalog.Proofs.Version.Values
import JdkCatalog.Selection
