import LetterIRL.Lib.Runs
import LetterIRL.Lib.Outcome
import LetterIRL.Lib.Rows
import LetterIRL.Lib.Fifo
import LetterIRL.Lib.Evolve
import LetterIRL.Lib.Table
import LetterIRL.Operator.Audit
import LetterIRL.Images.Reservations
import LetterIRL.Images.Resolution
import LetterIRL.Images.Moves
import LetterIRL.Images.Quota
import LetterIRL.Commerce.Rows
import LetterIRL.Ledger.Account
import LetterIRL.Ledger.Balance
import LetterIRL.Ledger.Aging
import LetterIRL.Commerce.Store
import LetterIRL.Commerce.PackRefunds
import LetterIRL.Commerce.MoneyEvents
import LetterIRL.Commerce.Sends
import LetterIRL.Commerce.Checkout
import LetterIRL.Commerce.Step
import LetterIRL.Commerce.OrderRows
import LetterIRL.Commerce.AccountEvents
import LetterIRL.Commerce.AccountSteps
import LetterIRL.Commerce.Writes
import LetterIRL.Balance.Cached
import LetterIRL.Balance.Spending
import LetterIRL.Balance.Sweeps
import LetterIRL.Gift.World
import LetterIRL.Lib.Paths
import LetterIRL.Gift.Chains
import LetterIRL.Gift.Runs
import LetterIRL.Commerce.SendWrites
import LetterIRL.Commerce.PaymentWrites
import LetterIRL.Commerce.MoneyWrites
import LetterIRL.Commerce.OrderHistory
import LetterIRL.Commerce.StepWrites
import LetterIRL.Commerce.Settlements
import LetterIRL.Pack.Held
import LetterIRL.Pack.Sound
import LetterIRL.Pack.Within
import LetterIRL.Pack.Bounds
import LetterIRL.Pack.Refunded
import LetterIRL.Pack.HandedBack
import LetterIRL.Pack.Disputed
import LetterIRL.Mail.Rows
import LetterIRL.Mail.Store
import LetterIRL.Mail.Outbox
import LetterIRL.Mail.Commands
import LetterIRL.Mail.Funding
import LetterIRL.Mail.Moves
import LetterIRL.Mail.Steps
import LetterIRL.Mail.Reversals
import LetterIRL.Mail.Withheld
import LetterIRL.Mail.Letters
import LetterIRL.Mail.Paid
import LetterIRL.Mail.Money
import LetterIRL.Mail.Filed
import LetterIRL.Mail.Unreturned
import LetterIRL.Mail.Returns
import LetterIRL.Mail.Cancelled
import LetterIRL.Gift.Seeds
import LetterIRL.Photos.Chunks
import LetterIRL.Photos.Runs
import LetterIRL.Limits.Daily
import LetterIRL.Lib.Locks
import LetterIRL.Limits.Charges
import LetterIRL.Limits.MailCaps
import LetterIRL.Limits.MailRuns
import LetterIRL.Mail.Erasure
import LetterIRL.Sending.Blocks
import LetterIRL.Sending.BlockRuns
import LetterIRL.Prices.Catalog
import LetterIRL.Prices.Lookups
import LetterIRL.Content.Drafts
import LetterIRL.Content.Letters
import LetterIRL.Content.Shown
import LetterIRL.Content.Edits
import LetterIRL.Content.EditRuns
import LetterIRL.Content.InStep
import LetterIRL.Print.Held
import LetterIRL.Print.HeldRuns
import LetterIRL.Print.HeldKept
import LetterIRL.Erasure.Records
import LetterIRL.Erasure.Tombstone
import LetterIRL.Balance.Reconcile
import LetterIRL.Gift.RedemptionRuns
import LetterIRL.Mail.Ended
import LetterIRL.Mail.StatusSync
import LetterIRL.Lib.Shelf
import LetterIRL.Retention.Copies
import LetterIRL.Retention.Sweeps
import LetterIRL.Retention.Kept
import LetterIRL.Retention.Runs
import LetterIRL.Redaction.Lineage
import LetterIRL.Redaction.Holds
import LetterIRL.Redaction.Sweeps
import LetterIRL.Redaction.Spared
import LetterIRL.Layout.Wrap
import LetterIRL.Layout.Scan
import LetterIRL.Layout.Bidi
import LetterIRL.Layout.Visual
import LetterIRL.Layout.Reordered
import LetterIRL.Queue.Moves
import LetterIRL.Queue.Carried
import LetterIRL.Command.Recorded
import LetterIRL.Command.Steps
import LetterIRL.Command.Twins
import LetterIRL.Command.Outcomes
import LetterIRL.Layout.Geometry
import LetterIRL.Layout.Paragraphs
import LetterIRL.Lib.Paging
import LetterIRL.Layout.Budget
import LetterIRL.Layout.Sheets
import LetterIRL.Layout.Placed
import LetterIRL.Layout.Conserved
import LetterIRL.Layout.Signed
import LetterIRL.Layout.Truncated
import LetterIRL.Guards.ConcurrencyGate
import LetterIRL.Guards.GateRuns
import LetterIRL.Lib.Windows
import LetterIRL.Signature.RankFilter
import LetterIRL.Schedule.Calendar
import LetterIRL.Lib.Marked
import LetterIRL.Schedule.BusinessDays
import LetterIRL.Schedule.Zone
import LetterIRL.Schedule.Delivery
import LetterIRL.Lib.Grouped
import LetterIRL.Schedule.Arrivals
import LetterIRL.Download.Addresses
import LetterIRL.Download.Spellings
import LetterIRL.Download.Hosts
import LetterIRL.Uploads.RecentUploads
import LetterIRL.Uploads.RecentRuns
import LetterIRL.Guards.Elevation
import LetterIRL.Guards.ElevationRuns
import LetterIRL.Admin.Cursors
import LetterIRL.Lib.Keyset
import LetterIRL.Admin.Lists
import LetterIRL.Maintenance.Lease
import LetterIRL.Maintenance.LeaseRuns
import LetterIRL.Maintenance.Migrations
import LetterIRL.Redaction.Funding
import LetterIRL.Redaction.Columns
import LetterIRL.Photos.Headers
import LetterIRL.Photos.JpegFiles
import LetterIRL.Lib.Graphemes
import LetterIRL.Themes.Cleaners
import LetterIRL.Themes.Stored
import LetterIRL.Lib.Tagged
import LetterIRL.Render.Tags
import LetterIRL.Render.Document
import LetterIRL.Render.Pictures
import LetterIRL.Render.Preview
import LetterIRL.Render.Redraw
import LetterIRL.Admin.Sessions
import LetterIRL.Admin.SessionRuns
import LetterIRL.Render.Canonical
import LetterIRL.Render.Fingerprint
import LetterIRL.Render.Pdf
import LetterIRL.Render.Qr
import LetterIRL.Render.Strip
import LetterIRL.Lib.Curves
import LetterIRL.Render.Glyphs
import LetterIRL.Uploads.TempImageRuns
import LetterIRL.Requests.AddressRequests
import LetterIRL.Requests.RequestRows
import LetterIRL.Requests.RequestRuns
import LetterIRL.Lib.Editing
import LetterIRL.Widgets.Arrives
import LetterIRL.Widgets.Style
import LetterIRL.Widgets.Answers
import LetterIRL.Provider.PostGrid
import LetterIRL.Provider.Outcomes
import LetterIRL.Layout.SignOff
import LetterIRL.Lib.FixedWindow
import LetterIRL.Limiter.RateLimit
import LetterIRL.Limiter.Admissions
import LetterIRL.Limiter.SignInPool
import LetterIRL.Lib.Flood
import LetterIRL.Signature.Pieces
import LetterIRL.Tokens.AccessTokens
import LetterIRL.Tokens.TokenRuns
