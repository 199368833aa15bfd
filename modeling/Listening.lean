import Listening.Text.Ranges
import Listening.Text.CaseTables
import Listening.Text.Blank
import Listening.Text.Case
import Listening.Text.European
import Listening.Text.Printable
import Listening.Text.Word
import Listening.Text.Quoted
import Listening.Text.Tabs
import Listening.Decimal.Shortest
import Listening.Decimal.Text
import Listening.Datum
import Listening.Index
import Listening.Number
import Listening.Query.Node
import Listening.Query.Comment
import Listening.Query.Lexeme
import Listening.Query.Read
import Listening.Query.Failure
import Listening.Query.Parse
import Listening.Query.Exchange
import Listening.Query.Normalize
import Listening.Query.Expand
import Listening.Query.Graph
import Listening.Query.Classify
import Listening.Query.Summary
import Listening.Query.Report
import Listening.Tokenizer.Key
import Listening.Tokenizer.Split
import Listening.Tokenizer.Vocabulary
import Listening.Training.Windows
import Listening.Training.Dataset
import Listening.World.Script
import Listening.Desktop.Wallpaper
import Listening.Social.Names
import Listening.Social.Handle
import Listening.Social.Roster
import Listening.Media.VideoId
import Listening.Media.Disk
import Listening.Media.Studio
import Listening.Media.Fetch
import Listening.Media.Transcribe
import Listening.Media.Methods
import Listening.Browser.SignIn
import Listening.Web.Entities
import Listening.Web.Percent
import Listening.Web.Markup.Tag
import Listening.Web.Markup.Reference
import Listening.Web.Markup.Event
import Listening.Web.Markup.Node
import Listening.Table.Csv
import Listening.Main
import Listening.Proofs.Disjuncts
import Listening.Proofs.RoundTrip
import Listening.Proofs.Passes
import Listening.Proofs.Dialects
import Listening.Proofs.TokenRoundTrip
import Listening.Proofs.Runs
import Listening.Proofs.VisitSteps
import Listening.Proofs.OwnTranscripts
import Listening.Proofs.Paths
import Listening.Proofs.SafeDeletion
import Listening.Proofs.Generations
import Listening.Proofs.NormalForm
import Listening.Proofs.RewriteCalls
import Listening.Proofs.Settling
import Listening.Proofs.FullWindows
import Listening.Proofs.CommentFree
import Listening.Proofs.ClassPaths
import Listening.Proofs.SummaryOrder
import Listening.Proofs.SummaryWalks
import Listening.Proofs.WallpaperQuoting
import Listening.Proofs.CallLog
import Listening.Proofs.SignInAttempts
import Listening.Proofs.RetryRounds
import Listening.Proofs.TableRoundTrip
import Listening.Proofs.HandleSearch
import Listening.Proofs.RosterOutput
import Listening.Proofs.ConjunctionSteps
