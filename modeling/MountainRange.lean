import MountainRange.App
import MountainRange.Bytes
import MountainRange.Client
import MountainRange.Command.Arguments
import MountainRange.Command.Help
import MountainRange.Command.Invocation
import MountainRange.Command.Printed
import MountainRange.Command.Run
import MountainRange.Convention
import MountainRange.Deposit
import MountainRange.Digest
import MountainRange.Encoding
import MountainRange.Encoding.Verdict
import MountainRange.Entries
import MountainRange.Field
import MountainRange.FieldText
import MountainRange.Files
import MountainRange.Hash.Keccak
import MountainRange.Hash.Poseidon
import MountainRange.Hash.Sha256
import MountainRange.Http
import MountainRange.Inclusion
import MountainRange.Json.Body
import MountainRange.Json.Reader
import MountainRange.Json.Writer
import MountainRange.Main
import MountainRange.Markup
import MountainRange.Markup.Emoji
import MountainRange.Markup.Emoji.Names
import MountainRange.Markup.Literal
import MountainRange.Markup.Style
import MountainRange.Mountain
import MountainRange.Mountain.Checked
import MountainRange.Number.Bounded
import MountainRange.Number.Double
import MountainRange.Number.Quantity
import MountainRange.Options
import MountainRange.Payload
import MountainRange.Payload.Integer
import MountainRange.Payload.Issue
import MountainRange.Peak
import MountainRange.Proofs.ClimbIndex
import MountainRange.Proofs.HashCalls
import MountainRange.Proofs.Heights
import MountainRange.ProverInput
import MountainRange.Scheme
import MountainRange.Scheme.Checked
import MountainRange.Scheme.Hashing
import MountainRange.Service
import MountainRange.Settings
import MountainRange.Table
import MountainRange.Text.Blank
import MountainRange.Text.Cased
import MountainRange.Text.Digit
import MountainRange.Text.FileName
import MountainRange.Text.Hex
import MountainRange.Text.Letter
import MountainRange.Text.Lower
import MountainRange.Text.Numeral
import MountainRange.Text.Plain
import MountainRange.Text.Printable
import MountainRange.Text.Quoted
import MountainRange.Text.Ranges
import MountainRange.Text.Similar
import MountainRange.Text.Split
import MountainRange.Text.Surrogate
import MountainRange.Text.Width
import MountainRange.Text.Wrap
import MountainRange.Value
import MountainRange.Value.Quoted
import MountainRange.Verdict
import MountainRange.Proofs.Tree
import MountainRange.Proofs.PerfectTree
import MountainRange.Proofs.Range
import MountainRange.Proofs.Gates
import MountainRange.Proofs.Completeness
import MountainRange.Proofs.Binding
import MountainRange.Proofs.Soundness
import MountainRange.Proofs.CheckedOperations
import MountainRange.Proofs.Totality
import MountainRange.Proofs.Conventions
import MountainRange.Proofs.Replay
import MountainRange.Proofs.Regrouping
import MountainRange.Proofs.HashEvaluation
import MountainRange.Proofs.Canonical
import MountainRange.Proofs.Slots
import MountainRange.Proofs.Grammar
import MountainRange.Proofs.Spelling
import MountainRange.Proofs.Payloads
import MountainRange.Proofs.EntryPoints
import MountainRange.Proofs.Steps
import MountainRange.Proofs.SequenceLimits
import MountainRange.Proofs.Refusals
import MountainRange.Proofs.Display
import MountainRange.Proofs.Documents
import MountainRange.Proofs.Invocations
import MountainRange.Proofs.ExitStatus
import MountainRange.Proofs.DecodeStatus
import MountainRange.Proofs.VerifyStatus
import MountainRange.Proofs.Doubles
import MountainRange.Proofs.JsonStrings
import MountainRange.Proofs.JsonNumbers
import MountainRange.Proofs.JsonValues
import MountainRange.Proofs.JsonDocuments
import MountainRange.Proofs.JsonBodies
import MountainRange.Proofs.Answers
import MountainRange.Proofs.Deliveries
import MountainRange.Proofs.WrittenSlots
import MountainRange.Proofs.RemoteSlots
import MountainRange.Proofs.ExpectedLeaves
import MountainRange.Proofs.RemoteStatus
import MountainRange.Proofs.PrintedSlots
import MountainRange.Proofs.Histories
import MountainRange.Proofs.ClientErrors
import MountainRange.Proofs.Places
import MountainRange.Proofs.Growth
import MountainRange.Proofs.PrefixFree
import MountainRange.Proofs.Isolation
import MountainRange.Proofs.FileTree
import MountainRange.Proofs.ProverFiles
import MountainRange.Proofs.GivenLeaves
import MountainRange.Proofs.Widening
import MountainRange.Proofs.Numerals
import MountainRange.Proofs.FieldValues
import MountainRange.Proofs.DigestText
import MountainRange.Proofs.Deposits
import MountainRange.Proofs.Commitments
import MountainRange.Proofs.DigestCodecs
import MountainRange.Proofs.Expansion
import MountainRange.Proofs.Bagging
import MountainRange.Proofs.Preimages
