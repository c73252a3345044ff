import QuotedText.Main
import QuotedText.Proofs.Text.Encoding
import QuotedText.Proofs.Text.ByteBudget
import QuotedText.Proofs.Text.LetterCase
import QuotedText.Proofs.Text.Trim
import QuotedText.Proofs.Text.Flatten
import QuotedText.Proofs.Text.Window
import QuotedText.Proofs.Text.Between
import QuotedText.Proofs.Text.ByteScan
import QuotedText.Proofs.Quote.Cut
import QuotedText.Proofs.Quote.Partition
import QuotedText.Proofs.Quote.Pattern
import QuotedText.Proofs.Quote.Search
import QuotedText.Proofs.Quote.SearchSplit
import QuotedText.Proofs.Quote.Split
import QuotedText.Proofs.Quote.CutPosition
import QuotedText.Proofs.Quote.Piece
import QuotedText.Proofs.Quote.Hold
import QuotedText.Proofs.Quote.Trim
import QuotedText.Proofs.Quote.Join
import QuotedText.Proofs.Quote.Run
import QuotedText.Proofs.Quote.Escape
import QuotedText.Proofs.Quote.Rewrite
import QuotedText.Proofs.Quote.Prefix
import QuotedText.Proofs.Quote.Resplit
import QuotedText.Proofs.Quote.Resume
import QuotedText.Proofs.Quote.SameLetters
import QuotedText.Proofs.Quote.ByteScan
import QuotedText.Proofs.Yaml.Decoder
import QuotedText.Proofs.Quote.StyleDocument
import QuotedText.Proofs.Sql.Region
import QuotedText.Proofs.Sql.Template
import QuotedText.Proofs.Sql.Lexeme
import QuotedText.Proofs.Sql.Token
import QuotedText.Proofs.Sql.Statement
import QuotedText.Proofs.Sql.Mark
import QuotedText.Proofs.Sql.Script
import QuotedText.Proofs.Sql.Terminator
import QuotedText.Proofs.Sql.Backtick
import QuotedText.Proofs.Sql.BacktickSpan
import QuotedText.Proofs.Sql.Literal
import QuotedText.Proofs.Sql.Value
import QuotedText.Proofs.Sql.Separated
import QuotedText.Proofs.Sql.LooseBlank
import QuotedText.Proofs.Sql.Word
import QuotedText.Proofs.Sql.Flatten
import QuotedText.Proofs.Sql.ByteScan
import QuotedText.Proofs.CommandLine.Words
import QuotedText.Proofs.CommandLine.Source
import QuotedText.Proofs.CommandLine.Outcome
import QuotedText.Proofs.CommandLine.PrintedScript
