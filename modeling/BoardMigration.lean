import BoardMigration.BBCode
import BoardMigration.CommandLine.Arguments
import BoardMigration.CommandLine.Command
import BoardMigration.CommandLine.Execute
import BoardMigration.Console.Emoji
import BoardMigration.Console.EmojiNames
import BoardMigration.Console.Listing
import BoardMigration.Console.Markup
import BoardMigration.Console.Screen
import BoardMigration.Console.Table
import BoardMigration.Date.Calendar
import BoardMigration.Date.Format
import BoardMigration.Date.Match
import BoardMigration.Date.Read
import BoardMigration.Export.Discover
import BoardMigration.Export.Path
import BoardMigration.Export.Tree
import BoardMigration.Html.Charset
import BoardMigration.Html.CharsetTable
import BoardMigration.Html.Document
import BoardMigration.Html.Nodes
import BoardMigration.Html.Reference
import BoardMigration.Html.ReferenceNames
import BoardMigration.Html.Token
import BoardMigration.Link
import BoardMigration.Log.Line
import BoardMigration.Log.Slot
import BoardMigration.Log.Stamp
import BoardMigration.Main
import BoardMigration.Migration
import BoardMigration.Page.Cell
import BoardMigration.Page.Extract
import BoardMigration.Page.Index
import BoardMigration.Page.Listing
import BoardMigration.Page.Thread
import BoardMigration.Record
import BoardMigration.Record.Field
import BoardMigration.Resolution
import BoardMigration.Run
import BoardMigration.Run.Config
import BoardMigration.Run.File
import BoardMigration.Run.Memory
import BoardMigration.Run.Pool
import BoardMigration.Schema.Dialect
import BoardMigration.Schema.Literal
import BoardMigration.Schema.Statement
import BoardMigration.Schema.Table
import BoardMigration.Settings
import BoardMigration.Settings.EnvFile
import BoardMigration.Store.Address
import BoardMigration.Store.Connect
import BoardMigration.Store.Database
import BoardMigration.Store.Dump
import BoardMigration.Store.Naming
import BoardMigration.Store.Script
import BoardMigration.Store.Sink
import BoardMigration.Text.Blank
import BoardMigration.Text.Case
import BoardMigration.Text.Digit
import BoardMigration.Text.Numeral
import BoardMigration.Text.Quoted
import BoardMigration.Text.Split
import BoardMigration.Text.Unprintable
import BoardMigration.Text.Utf8
import BoardMigration.Proofs.Resolution.Delivery
import BoardMigration.Proofs.Run.Effects
import BoardMigration.Proofs.Run.Records
import BoardMigration.Proofs.Migration.Board
import BoardMigration.Proofs.Migration.Resume
import BoardMigration.Proofs.Resolution.Claims
import BoardMigration.Proofs.Resolution.Reachable
import BoardMigration.Proofs.Run.Memory
import BoardMigration.Proofs.Run.Order
import BoardMigration.Proofs.Page.Descriptions
import BoardMigration.Proofs.Page.Finds
import BoardMigration.Proofs.Run.Accounts
import BoardMigration.Proofs.Run.Echo
import BoardMigration.Proofs.Run.Pool
import BoardMigration.Proofs.Store.Again
import BoardMigration.Proofs.Store.Operations
import BoardMigration.Proofs.Store.Provision
import BoardMigration.Proofs.Migration.Rerun
import BoardMigration.Proofs.Store.Redirects
import BoardMigration.Proofs.Store.Catalogue
import BoardMigration.Proofs.Store.FirstWins
import BoardMigration.Proofs.Store.Isolation
import BoardMigration.Proofs.Migration.CleanSlate
import BoardMigration.Proofs.Resolution.Balance
import BoardMigration.Proofs.Run.Deferral
import BoardMigration.Proofs.CommandLine.ExitCode
import BoardMigration.Proofs.Page.RoundTrip
import BoardMigration.Proofs.Page.ListingRoundTrip
import BoardMigration.Proofs.Page.EditNote
import BoardMigration.Proofs.BBCode.Conversion
import BoardMigration.Proofs.BBCode.Smilies
import BoardMigration.Proofs.Link.RoundTrip
import BoardMigration.Proofs.Store.RedirectOnce
import BoardMigration.Proofs.Store.Refusal
import BoardMigration.Proofs.Page.Numbers
import BoardMigration.Proofs.Date.Reading
import BoardMigration.Proofs.Export.Discover
import BoardMigration.Proofs.Schema.Literal
