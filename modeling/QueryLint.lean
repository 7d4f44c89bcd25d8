import QueryLint.Content.Cursor
import QueryLint.Main
import QueryLint.Proofs.Suppression.Silencing
import QueryLint.Proofs.Ordered
import QueryLint.Proofs.Staging.Accounts
import QueryLint.Proofs.Output.Writing
import QueryLint.Proofs.Session.Steady
import QueryLint.Proofs.Staging.Pool
import QueryLint.Proofs.Plugin.Activation
import QueryLint.Proofs.Run.Accounting
import QueryLint.Proofs.Run.Schedules
import QueryLint.Proofs.Sql.Lexing
import QueryLint.Proofs.Suppression.Coverage
import QueryLint.Proofs.Run.Skipping
import QueryLint.Proofs.Rule.TrailingBlanks
import QueryLint.Proofs.Sql.Appending
import QueryLint.Proofs.Suppression.LineDirective
import QueryLint.Proofs.Suppression.FirstLines
import QueryLint.Proofs.Suppression.Origins
import QueryLint.Proofs.Sql.Replacing
import QueryLint.Proofs.Rule.Columns
import QueryLint.Proofs.Suppression.Keyword
import QueryLint.Proofs.Run.Permits
import QueryLint.Proofs.Config.LogFile
import QueryLint.Proofs.Files.Following
import QueryLint.Proofs.Files.Writing
import QueryLint.Proofs.Command.CreateConfig
import QueryLint.Proofs.Content.LineEnds
import QueryLint.Proofs.Suppression.LetterCase
import QueryLint.Proofs.Rule.LetterCase
import QueryLint.Proofs.Content.LetterCase
import QueryLint.Proofs.Run.Calls
import QueryLint.Proofs.Files.Contents
import QueryLint.Proofs.Rule.Settings
import QueryLint.Proofs.Plugin.Calling
import QueryLint.Proofs.Plugin.Preparation
import QueryLint.Proofs.Command.Linting
import QueryLint.Proofs.Sql.Relexing
import QueryLint.Proofs.Rule.Overriding
import QueryLint.Proofs.Text.Pattern
import QueryLint.Proofs.Rule.Openings
import QueryLint.Proofs.Rule.StarSearch
import QueryLint.Proofs.Sql.Marks
import QueryLint.Proofs.Rule.StatementEnds
import QueryLint.Proofs.Config.Deciding
import QueryLint.Proofs.Plugin.Failures
import QueryLint.Proofs.Staging.History
import QueryLint.Proofs.Staging.Counting
import QueryLint.Proofs.Content.Reading
import QueryLint.Proofs.Output.Totals
import QueryLint.Proofs.Diagnosis
import QueryLint.Proofs.Config.Merging
import QueryLint.Proofs.Staging.Units
import QueryLint.Proofs.Plugin.Numbering
import QueryLint.Proofs.Text.Numerals
import QueryLint.Proofs.Content.Encoding
