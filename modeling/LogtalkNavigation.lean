import LogtalkNavigation.Text.Basic
import LogtalkNavigation.Text.Interval
import LogtalkNavigation.Text.Blank
import LogtalkNavigation.Text.Word
import LogtalkNavigation.Text.Digit
import LogtalkNavigation.Text.Uppercase
import LogtalkNavigation.Text.Lowercase
import LogtalkNavigation.Text.Fold
import LogtalkNavigation.Text.Printable
import LogtalkNavigation.Text.Quoted
import LogtalkNavigation.Text.Lines
import LogtalkNavigation.Text.Scan
import LogtalkNavigation.Text.Utf8
import LogtalkNavigation.Disk.Basic
import LogtalkNavigation.Double.Basic
import LogtalkNavigation.Double.Shortest
import LogtalkNavigation.Value.Basic
import LogtalkNavigation.Value.Shown
import LogtalkNavigation.Disk.Access
import LogtalkNavigation.Disk.Pattern
import LogtalkNavigation.Log
import LogtalkNavigation.Artifact.Claim
import LogtalkNavigation.Artifact.Sweep
import LogtalkNavigation.Position
import LogtalkNavigation.Record.Artifact
import LogtalkNavigation.Cursor.Arguments
import LogtalkNavigation.Cursor.Symbol
import LogtalkNavigation.Source
import LogtalkNavigation.Artifact.Prune
import LogtalkNavigation.Freshness
import LogtalkNavigation.Hierarchy
import LogtalkNavigation.Lens
import LogtalkNavigation.Request
import LogtalkNavigation.Toml.Document
import LogtalkNavigation.Settings.Basic
import LogtalkNavigation.Settings.Load
import LogtalkNavigation.Engine.Run
import LogtalkNavigation.Engine.Wait
import LogtalkNavigation.Service.Basic
import LogtalkNavigation.Service.Errand
import LogtalkNavigation.Service.Schedule
import LogtalkNavigation.Service.Folders
import LogtalkNavigation.Service.Handlers
import LogtalkNavigation.Cli
import LogtalkNavigation.Json.Read
import LogtalkNavigation.Main
import LogtalkNavigation.Proofs.Text.Scan
import LogtalkNavigation.Proofs.Text.Numeral
import LogtalkNavigation.Proofs.Record.Rendering
import LogtalkNavigation.Proofs.Artifact.Pruning
import LogtalkNavigation.Proofs.Hierarchy
import LogtalkNavigation.Proofs.Service.Boundary
import LogtalkNavigation.Proofs.Service.Interleaving
import LogtalkNavigation.Proofs.Freshness
import LogtalkNavigation.Proofs.Service.Invalidation
import LogtalkNavigation.Proofs.Path.Uri
import LogtalkNavigation.Proofs.Service.Expanding
import LogtalkNavigation.Proofs.Artifact.Sharing
import LogtalkNavigation.Proofs.Record.Locality
import LogtalkNavigation.Proofs.Engine.Succession
import LogtalkNavigation.Proofs.Engine.Tenure
import LogtalkNavigation.Proofs.Engine.Completion
import LogtalkNavigation.Proofs.Service.Engines
import LogtalkNavigation.Proofs.Lens
import LogtalkNavigation.Proofs.Path.Naming
import LogtalkNavigation.Proofs.Cursor.Arguments
import LogtalkNavigation.Proofs.Cursor.Words
import LogtalkNavigation.Proofs.Cursor.Symbol
import LogtalkNavigation.Proofs.Text.Search
import LogtalkNavigation.Proofs.Position
import LogtalkNavigation.Proofs.Source.Answers
import LogtalkNavigation.Proofs.Source.Sites
import LogtalkNavigation.Proofs.Source.Ranges
import LogtalkNavigation.Proofs.Cursor.Qualified
import LogtalkNavigation.Proofs.Text.Collapse
import LogtalkNavigation.Proofs.Cursor.Arity
import LogtalkNavigation.Proofs.Cursor.Recovery
import LogtalkNavigation.Proofs.Text.Division
import LogtalkNavigation.Proofs.Record.Readers
import LogtalkNavigation.Proofs.Record.Grammar
import LogtalkNavigation.Proofs.Record.Outcomes
import LogtalkNavigation.Proofs.Disk.Tree
import LogtalkNavigation.Proofs.Artifact.Refusals
import LogtalkNavigation.Proofs.Artifact.Sweeping
import LogtalkNavigation.Proofs.Results
import LogtalkNavigation.Proofs.Disk.Searching
import LogtalkNavigation.Proofs.Path.Order
import LogtalkNavigation.Proofs.Record.Latest
import LogtalkNavigation.Proofs.Hierarchy.Memo
import LogtalkNavigation.Proofs.Hierarchy.Facts
import LogtalkNavigation.Proofs.Artifact.Filtering
import LogtalkNavigation.Proofs.Goal
import LogtalkNavigation.Proofs.Service.Folders
import LogtalkNavigation.Proofs.Cursor.Columns
import LogtalkNavigation.Proofs.Settings.Fields
import LogtalkNavigation.Proofs.Settings.Precedence
import LogtalkNavigation.Proofs.Record.Fitness
import LogtalkNavigation.Proofs.Service.Consumers
import LogtalkNavigation.Proofs.Double
import LogtalkNavigation.Proofs.Engine.Waiting
