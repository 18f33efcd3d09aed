import MailMerge.Main
import MailMerge.Proofs.File.Place
import MailMerge.Proofs.File.Write
import MailMerge.Proofs.FileName
import MailMerge.Proofs.Render
import MailMerge.Proofs.Row
import MailMerge.Proofs.Run.Rows
import MailMerge.Proofs.Run.Confinement
import MailMerge.Proofs.Csv
import MailMerge.Proofs.Run.Failure
import MailMerge.Proofs.Run.Content
import MailMerge.Proofs.Run.Skipping
import MailMerge.Proofs.Regex.Literal
import MailMerge.Proofs.Filler
import MailMerge.Proofs.Json.Grammar
import MailMerge.Proofs.Json.Number
import MailMerge.Proofs.Json.Text
import MailMerge.Proofs.Json.Value
import MailMerge.Proofs.Json.Object
import MailMerge.Proofs.Yaml.Quoted
import MailMerge.Proofs.Yaml.Scan
import MailMerge.Proofs.Yaml.Json
import MailMerge.Proofs.Rules
import MailMerge.Proofs.Yaml.Lines
import MailMerge.Proofs.Csv.Table
import MailMerge.Proofs.Escape
import MailMerge.Proofs.Config
import MailMerge.Proofs.Run.Header
import MailMerge.Proofs.Run.Blocks
import MailMerge.Proofs.Run.Phases
import MailMerge.Proofs.File.Writable
import MailMerge.Proofs.Run.Order
import MailMerge.Proofs.Config.Sources
import MailMerge.Proofs.Config.Checks
import MailMerge.Proofs.Config.Rows
import MailMerge.Proofs.Json.Written
import MailMerge.Proofs.Rules.Object
import MailMerge.Proofs.Run.Write
import MailMerge.Proofs.Run.Again
import MailMerge.Proofs.Run.Directory
import MailMerge.Proofs.Run.Course
import MailMerge.Proofs.Run.Lines
import MailMerge.Proofs.CommandLine
import MailMerge.Proofs.CommandLine.Written
import MailMerge.Proofs.Program
import MailMerge.Proofs.FileName.Target
import MailMerge.Proofs.FileName.Overlap
import MailMerge.Proofs.CharSet
import MailMerge.Proofs.Regex.Way
import MailMerge.Proofs.Regex.Explore
import MailMerge.Proofs.Regex.Compiled
import MailMerge.Proofs.Regex.Stands
import MailMerge.Proofs.Regex.Leftmost
import MailMerge.Proofs.Regex.Direct
import MailMerge.Proofs.Regex.Spans
import MailMerge.Proofs.Regex.Order
import MailMerge.Proofs.Regex.SameWays
import MailMerge.Proofs.Regex.Language
import MailMerge.Proofs.Regex.Mirror
import MailMerge.Proofs.Regex.Simplification
import MailMerge.Proofs.Regex.Steps
import MailMerge.Proofs.Regex.Simplified
import MailMerge.Proofs.Regex.Written
import MailMerge.Proofs.Placeholder
import MailMerge.Proofs.Text.Cut
import MailMerge.Proofs.Variables
