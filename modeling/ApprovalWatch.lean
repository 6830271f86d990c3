import ApprovalWatch.Main
import ApprovalWatch.Signal
import ApprovalWatch.Text.Blank
import ApprovalWatch.Trial
import ApprovalWatch.Proofs.Reach
import ApprovalWatch.Proofs.Effect
import ApprovalWatch.Proofs.Clock
import ApprovalWatch.Proofs.History
import ApprovalWatch.Proofs.Schedule
import ApprovalWatch.Proofs.Alone
import ApprovalWatch.Proofs.Race
import ApprovalWatch.Proofs.Evidence
import ApprovalWatch.Proofs.Authority
import ApprovalWatch.Proofs.Display
import ApprovalWatch.Proofs.Accounts
import ApprovalWatch.Proofs.Likeness
import ApprovalWatch.Proofs.Expansion
import ApprovalWatch.Proofs.Lexing
import ApprovalWatch.Proofs.Phrases
import ApprovalWatch.Proofs.Bodies
import ApprovalWatch.Proofs.Keys
import ApprovalWatch.Proofs.Overrides
import ApprovalWatch.Proofs.Spelling
import ApprovalWatch.Proofs.Silence
import ApprovalWatch.Proofs.Observation
import ApprovalWatch.Proofs.Utf8
import ApprovalWatch.Proofs.Forms
import ApprovalWatch.Proofs.QueryUrl
import ApprovalWatch.Proofs.Bounds
import ApprovalWatch.Proofs.Moves
import ApprovalWatch.Proofs.Streak
import ApprovalWatch.Proofs.Dropping
import ApprovalWatch.Proofs.Flags
import ApprovalWatch.Proofs.Quoting
import ApprovalWatch.Proofs.Members
import ApprovalWatch.Proofs.Merging
import ApprovalWatch.Proofs.Saturation
import ApprovalWatch.Proofs.Ticking
import ApprovalWatch.Proofs.Signalling
import ApprovalWatch.Proofs.Cancelling
import ApprovalWatch.Proofs.Rules
import ApprovalWatch.Proofs.Writing
import ApprovalWatch.Proofs.Rereading
import ApprovalWatch.Proofs.Reasons
import ApprovalWatch.Proofs.Addresses
import ApprovalWatch.Proofs.Serving
import ApprovalWatch.Proofs.Options
import ApprovalWatch.Proofs.Command
