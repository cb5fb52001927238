import ArticleExport.Article.Reading
import ArticleExport.Article.Report
import ArticleExport.Constants
import ArticleExport.Content.Form
import ArticleExport.Proofs.Article.Attachment
import ArticleExport.Proofs.Article.Bundling
import ArticleExport.Proofs.Article.DarkMode
import ArticleExport.Proofs.Article.Identifiers
import ArticleExport.Proofs.Article.Modules
import ArticleExport.Proofs.Article.Pictures
import ArticleExport.Proofs.Article.References
import ArticleExport.Proofs.Article.Text
import ArticleExport.Proofs.Article.Unwrapping
import ArticleExport.Proofs.Http.Responses
import ArticleExport.Proofs.Json.Printing
import ArticleExport.Proofs.Markup.Injectivity
import ArticleExport.Proofs.Markup.Reading
import ArticleExport.Proofs.Spec.Conditions
import ArticleExport.Proofs.Spec.Leaves
import ArticleExport.Proofs.Spec.Literals
import ArticleExport.Proofs.Spec.Merging
import ArticleExport.Proofs.Spec.Placeholders
import ArticleExport.Proofs.Spec.Registries
import ArticleExport.Proofs.Sync.Fingerprint
import ArticleExport.Proofs.Theme.Store
import ArticleExport.Proofs.Theme.Values
import ArticleExport.Proofs.Walk.Composition
import ArticleExport.Proofs.Push.Alerts
import ArticleExport.Proofs.Push.Bundles
import ArticleExport.Proofs.Push.Channel
import ArticleExport.Proofs.Push.Desk
import ArticleExport.Proofs.Push.Failures
import ArticleExport.Proofs.Push.Keeping
import ArticleExport.Proofs.Push.Markers
import ArticleExport.Proofs.Push.Races
import ArticleExport.Proofs.Push.Soundness
import ArticleExport.Proofs.Push.Workspaces
import ArticleExport.Proofs.State.Interchange
import ArticleExport.Publish.Rehearsal
import ArticleExport.Publish.Report
import ArticleExport.Publish.StateOp
import ArticleExport.Settings.Reading
import ArticleExport.Settings.Report
import ArticleExport.Text.Base64
