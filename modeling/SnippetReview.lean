import SnippetReview.Main
import SnippetReview.Proofs.Editor.Session
import SnippetReview.Proofs.Reviewer
import SnippetReview.Proofs.Shipped.Corrections
import SnippetReview.Proofs.Editor.Language
import SnippetReview.Proofs.Editor.Publication
import SnippetReview.Proofs.Correction.LineEnds
import SnippetReview.Proofs.Shipped.LineEnds
import SnippetReview.Proofs.Shipped.Order
import SnippetReview.Proofs.Shipped.Mended
import SnippetReview.Proofs.Report.Wire
import SnippetReview.Proofs.Shipped.Disclosure
import SnippetReview.Proofs.Editor.Book
import SnippetReview.Proofs.Chat.Reply
import SnippetReview.Proofs.Web.Service
import SnippetReview.Proofs.Correction.Reapplying
import SnippetReview.Proofs.Profile.Findings
import SnippetReview.Proofs.Shipped.Layout
import SnippetReview.Proofs.Enrichment.Fence
import SnippetReview.Proofs.Profile.Concatenation
import SnippetReview.Proofs.Editor.QuickFix
import SnippetReview.Proofs.Chat.Request
import SnippetReview.Proofs.Catalog.Sources
import SnippetReview.Proofs.Profile.Rules
import SnippetReview.Proofs.Shipped.Sources
