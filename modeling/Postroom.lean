import Postroom.Assoc
import Postroom.CommandLine
import Postroom.CommandLine.Help
import Postroom.Configuration
import Postroom.Configuration.Loading
import Postroom.Configuration.Reading
import Postroom.Criteria
import Postroom.Dialogue
import Postroom.Document
import Postroom.Document.Record
import Postroom.Duration
import Postroom.Fault
import Postroom.FileTree
import Postroom.Filter
import Postroom.Filter.Reading
import Postroom.Flag
import Postroom.Header.Address
import Postroom.Header.Cause
import Postroom.Header.Field
import Postroom.Header.Map
import Postroom.Header.Moment
import Postroom.Header.Normal
import Postroom.Header.Token
import Postroom.LogFilter
import Postroom.LogLevel
import Postroom.Mailbox
import Postroom.MailboxName
import Postroom.Main
import Postroom.Message
import Postroom.Offline
import Postroom.Pattern
import Postroom.Pattern.Cause
import Postroom.Pattern.CharSet
import Postroom.Pattern.Expr
import Postroom.Pattern.Reader
import Postroom.Pattern.Search
import Postroom.Pattern.Tree
import Postroom.Pattern.Weight
import Postroom.Poll
import Postroom.Program
import Postroom.Proofs.Addressing
import Postroom.Proofs.Chore
import Postroom.Proofs.Configuration.Loading
import Postroom.Proofs.Configuration.Merging
import Postroom.Proofs.Configuration.Secrets
import Postroom.Proofs.Conservation
import Postroom.Proofs.Course
import Postroom.Proofs.Criteria
import Postroom.Proofs.Document
import Postroom.Proofs.Duration
import Postroom.Proofs.Exchange
import Postroom.Proofs.FileTree
import Postroom.Proofs.FilterOrder
import Postroom.Proofs.Handle
import Postroom.Proofs.Header.Multimap
import Postroom.Proofs.Header.Normal
import Postroom.Proofs.Interruption
import Postroom.Proofs.Log
import Postroom.Proofs.MailboxName
import Postroom.Proofs.MailboxName.Grammar
import Postroom.Proofs.Pass
import Postroom.Proofs.Pattern.Case
import Postroom.Proofs.Pattern.OwnText
import Postroom.Proofs.Pattern.Respelling
import Postroom.Proofs.Recovery
import Postroom.Proofs.Release
import Postroom.Proofs.Resumption
import Postroom.Proofs.Rounds
import Postroom.Proofs.Rule.Document
import Postroom.Proofs.Rule.Meaning
import Postroom.Proofs.Rule.Spelling
import Postroom.Proofs.Server.Agreement
import Postroom.Proofs.Server.Applying
import Postroom.Proofs.Server.Bystander
import Postroom.Proofs.Server.Census
import Postroom.Proofs.Server.Command
import Postroom.Proofs.Server.Dealing
import Postroom.Proofs.Server.Dwindling
import Postroom.Proofs.Server.Errand
import Postroom.Proofs.Server.Fetching
import Postroom.Proofs.Server.Finding
import Postroom.Proofs.Server.Flagging
import Postroom.Proofs.Server.Ledger
import Postroom.Proofs.Server.Letter
import Postroom.Proofs.Server.Mail
import Postroom.Proofs.Server.Moving
import Postroom.Proofs.Server.Passage
import Postroom.Proofs.Server.Refusal
import Postroom.Proofs.Server.Resuming
import Postroom.Proofs.Server.Settling
import Postroom.Proofs.Server.Sorting
import Postroom.Proofs.Server.Sound
import Postroom.Proofs.Server.Underway
import Postroom.Proofs.Table
import Postroom.Proofs.Text.Utf8
import Postroom.Proofs.Transcript
import Postroom.Proofs.UidSet
import Postroom.Proofs.Wire.Action
import Postroom.Proofs.Wire.Appending
import Postroom.Proofs.Wire.Argument
import Postroom.Proofs.Wire.Attribution
import Postroom.Proofs.Wire.Conduct
import Postroom.Proofs.Wire.Destination
import Postroom.Proofs.Wire.Ending
import Postroom.Proofs.Wire.Farewell
import Postroom.Proofs.Wire.Fetching
import Postroom.Proofs.Wire.Framing
import Postroom.Proofs.Wire.Listing
import Postroom.Proofs.Wire.Marking
import Postroom.Proofs.Wire.Naming
import Postroom.Proofs.Wire.Opening
import Postroom.Proofs.Wire.Searching
import Postroom.Request
import Postroom.Rule
import Postroom.Rule.Reading
import Postroom.Server
import Postroom.Session
import Postroom.Settings
import Postroom.Settings.Reading
import Postroom.Stream
import Postroom.Talk
import Postroom.Text.Base64
import Postroom.Text.Blank
import Postroom.Text.CaseFold
import Postroom.Text.Charset
import Postroom.Text.Charset.BigFiveTable
import Postroom.Text.Charset.GbTable
import Postroom.Text.Charset.JisTable
import Postroom.Text.Charset.KoreanTable
import Postroom.Text.Charset.MultiByte
import Postroom.Text.Charset.SingleByte
import Postroom.Text.Decimal
import Postroom.Text.Lower
import Postroom.Text.Lower.Table
import Postroom.Text.Property
import Postroom.Text.Property.Age
import Postroom.Text.Property.Binary
import Postroom.Text.Property.Boundary
import Postroom.Text.Property.Category
import Postroom.Text.Property.Script
import Postroom.Text.Quoted
import Postroom.Text.Quoted.Table
import Postroom.Text.Ranges
import Postroom.Text.Split
import Postroom.Text.Utf16
import Postroom.Text.Utf8
import Postroom.Text.Word
import Postroom.Toml.Quotation
import Postroom.Toml.Reader
import Postroom.Toml.Scalar
import Postroom.Toml.Tree
import Postroom.Toml.Writer
import Postroom.Trial
import Postroom.UidSet
import Postroom.Wire.Argument
import Postroom.Wire.Client
import Postroom.Wire.Command
import Postroom.Wire.Grammar
import Postroom.Wire.Reader
import Postroom.Wire.Response
import Postroom.Wire.Structure
import Postroom.Wire.Switchboard
import Postroom.Wire.Token
import Postroom.Wire.Untagged
