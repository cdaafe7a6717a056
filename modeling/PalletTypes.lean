import PalletTypes.Aggregation
import PalletTypes.Binary64
import PalletTypes.Decimal
import PalletTypes.Decimal.Rounded
import PalletTypes.Decimal.Shortest
import PalletTypes.Entries
import PalletTypes.Failure
import PalletTypes.FileError
import PalletTypes.FileSystem
import PalletTypes.FileSystem.Tree
import PalletTypes.FileSystem.Update
import PalletTypes.Json.Lexeme
import PalletTypes.Json.Place
import PalletTypes.Json.Quoted
import PalletTypes.Json.Reader
import PalletTypes.Json.Writer
import PalletTypes.Log.Fault
import PalletTypes.Log.File
import PalletTypes.Log.Format
import PalletTypes.Log.Handler
import PalletTypes.Log.Level
import PalletTypes.Log.Raised
import PalletTypes.Log.Raised.Arguments
import PalletTypes.Log.Raised.Source
import PalletTypes.Log.Record
import PalletTypes.Log.Template
import PalletTypes.Log.Template.Conversion
import PalletTypes.Log.Template.Fill
import PalletTypes.Log.Time
import PalletTypes.Main
import PalletTypes.Merge
import PalletTypes.Numeral
import PalletTypes.Path
import PalletTypes.Proofs.Aggregation.Account
import PalletTypes.Proofs.Aggregation.AllOrNothing
import PalletTypes.Proofs.Aggregation.Collection
import PalletTypes.Proofs.Aggregation.Depth
import PalletTypes.Proofs.Aggregation.FeedingBack
import PalletTypes.Proofs.Aggregation.FirstFailure
import PalletTypes.Proofs.Aggregation.Idempotence
import PalletTypes.Proofs.Aggregation.Landed
import PalletTypes.Proofs.Aggregation.PathLimit
import PalletTypes.Proofs.Aggregation.Prediction
import PalletTypes.Proofs.Aggregation.Quiet
import PalletTypes.Proofs.Aggregation.Readiness
import PalletTypes.Proofs.Aggregation.Reordering
import PalletTypes.Proofs.Aggregation.Repetitions
import PalletTypes.Proofs.Aggregation.Sources
import PalletTypes.Proofs.Aggregation.Splitting
import PalletTypes.Proofs.Aggregation.Success
import PalletTypes.Proofs.Aggregation.Summary
import PalletTypes.Proofs.Binary64
import PalletTypes.Proofs.Decimal.Nearest
import PalletTypes.Proofs.Decimal.Shortest
import PalletTypes.Proofs.Entries
import PalletTypes.Proofs.FileSystem.Cancelling
import PalletTypes.Proofs.FileSystem.Contents
import PalletTypes.Proofs.FileSystem.Landing
import PalletTypes.Proofs.FileSystem.Opening
import PalletTypes.Proofs.FileSystem.Refilling
import PalletTypes.Proofs.FileSystem.Targets
import PalletTypes.Proofs.FileSystem.Walking
import PalletTypes.Proofs.Json.Conformance
import PalletTypes.Proofs.Json.DistinctKeys
import PalletTypes.Proofs.Json.DocumentOrder
import PalletTypes.Proofs.Json.Escapes
import PalletTypes.Proofs.Json.Grammar
import PalletTypes.Proofs.Json.Holding
import PalletTypes.Proofs.Json.Layout
import PalletTypes.Proofs.Json.Lexing
import PalletTypes.Proofs.Json.Numerals
import PalletTypes.Proofs.Json.Plain
import PalletTypes.Proofs.Json.Quotations
import PalletTypes.Proofs.Json.Recognition
import PalletTypes.Proofs.Json.Rereading
import PalletTypes.Proofs.Json.Scanning
import PalletTypes.Proofs.Json.Shape
import PalletTypes.Proofs.Json.Tree
import PalletTypes.Proofs.Log.Coloring
import PalletTypes.Proofs.Log.Csv
import PalletTypes.Proofs.Log.Rotation
import PalletTypes.Proofs.Log.Rows
import PalletTypes.Proofs.Log.Shelf
import PalletTypes.Proofs.Log.Storing
import PalletTypes.Proofs.Log.Written
import PalletTypes.Proofs.Merge
import PalletTypes.Proofs.Numeral
import PalletTypes.Proofs.Occurrences
import PalletTypes.Proofs.Path.Components
import PalletTypes.Proofs.Path.Defects
import PalletTypes.Proofs.Path.Names
import PalletTypes.Proofs.Path.Templates
import PalletTypes.Proofs.Refreshing
import PalletTypes.Proofs.Session.Delivery
import PalletTypes.Proofs.Session.Endings
import PalletTypes.Proofs.Session.ExitStatus
import PalletTypes.Proofs.Session.LogSetup
import PalletTypes.Proofs.Session.Saying
import PalletTypes.Proofs.Settings.Assignments
import PalletTypes.Proofs.Settings.Confinement
import PalletTypes.Proofs.Settings.Defaults
import PalletTypes.Proofs.Settings.Findings
import PalletTypes.Proofs.Settings.PalletPaths
import PalletTypes.Proofs.Text.Scalar
import PalletTypes.Proofs.Text.ShownNames
import PalletTypes.Proofs.TypesFile.Counts
import PalletTypes.Proofs.TypesFile.Document
import PalletTypes.Proofs.TypesFile.Endings
import PalletTypes.Proofs.TypesFile.Interleaving
import PalletTypes.Proofs.TypesFile.Loading
import PalletTypes.Proofs.TypesFile.Outcomes
import PalletTypes.Proofs.TypesFile.Readings
import PalletTypes.Proofs.TypesFile.RoundTrip
import PalletTypes.Proofs.TypesFile.Serializing
import PalletTypes.Proofs.TypesFile.Spelling
import PalletTypes.Proofs.TypesFile.Staging
import PalletTypes.Proofs.TypesFile.Steps
import PalletTypes.Proofs.TypesFile.Temporary
import PalletTypes.Proofs.Value
import PalletTypes.Proofs.Value.Expressible
import PalletTypes.Proofs.Value.Storable
import PalletTypes.Session
import PalletTypes.Session.Run
import PalletTypes.Session.Setup
import PalletTypes.Settings
import PalletTypes.Settings.Assignment
import PalletTypes.Settings.Validation
import PalletTypes.Text
import PalletTypes.Text.Alphanumeric
import PalletTypes.Text.Blank
import PalletTypes.Text.Digit
import PalletTypes.Text.Encoding
import PalletTypes.Text.Printable
import PalletTypes.Text.Quoted
import PalletTypes.Text.UpperCase
import PalletTypes.Text.Utf8
import PalletTypes.TypeTable
import PalletTypes.TypesFile.Read
import PalletTypes.TypesFile.Write
import PalletTypes.Value
import PalletTypes.Value.Number
import PalletTypes.Value.Shown
