import Latchkey.Session.Enrolment
import Latchkey.Session.History
import Latchkey.Proofs.Sealing
import Latchkey.Proofs.Acts
import Latchkey.Proofs.Framing
import Latchkey.Proofs.Links
import Latchkey.Proofs.Sending
import Latchkey.Proofs.Arrivals
import Latchkey.Proofs.Listening
import Latchkey.Proofs.Frames
import Latchkey.Proofs.Connections
import Latchkey.Proofs.Exchanges
import Latchkey.Proofs.Replies
import Latchkey.Proofs.Challenges
import Latchkey.Proofs.Errands
import Latchkey.Proofs.Negotiation
import Latchkey.Proofs.Reachable
import Latchkey.Proofs.Enrolment
import Latchkey.Proofs.Reassembly
import Latchkey.Proofs.Subscriptions
import Latchkey.Proofs.Coherence
import Latchkey.Proofs.Leftovers
import Latchkey.Proofs.Installation
import Latchkey.Proofs.Answering
import Latchkey.Proofs.Handshake
import Latchkey.Proofs.Mailboxes
import Latchkey.Proofs.Conversations
import Latchkey.Proofs.Preflight
import Latchkey.Proofs.Histories
import Latchkey.Proofs.Independence
import Latchkey.Proofs.Attempts
import Latchkey.Proofs.Spending
import Latchkey.Proofs.Duplexes
import Latchkey.Proofs.Outbound
import Latchkey.Proofs.Confirmations
import Latchkey.Proofs.Inbound
import Latchkey.Proofs.Punctuality
import Latchkey.Proofs.Selection
import Latchkey.Proofs.Layouts
import Latchkey.Proofs.Verdicts
import Latchkey.Proofs.Following
import Latchkey.Proofs.Streaming
import Latchkey.Proofs.States
import Latchkey.Proofs.Chunks
import Latchkey.Proofs.Tampering
import Latchkey.Proofs.Remainders
import Latchkey.Proofs.Flips
import Latchkey.Proofs.Detection
import Latchkey.Proofs.Closing
import Latchkey.Proofs.Reconnection
import Latchkey.Report.Places
import Latchkey.Proofs.Places
import Latchkey.Proofs.Texts
import Latchkey.Proofs.Writing
import Latchkey.Proofs.Configurations
import Latchkey.Time.Reading
import Latchkey.Proofs.Stamps
import Latchkey.Proofs.Conditions
import Latchkey.Proofs.Entries
import Latchkey.Proofs.Instants
import Latchkey.Proofs.Demands
import Latchkey.Proofs.Requests
import Latchkey.Proofs.Actions
import Latchkey.Proofs.Sizes
import Latchkey.Proofs.Hexadecimal
import Latchkey.Proofs.Tokens
import Latchkey.Proofs.Documents
import Latchkey.Proofs.Spans
import Latchkey.Proofs.Persistence
import Latchkey.Proofs.Families
import Latchkey.Proofs.Deadlines
import Latchkey.Proofs.Timeouts
import Latchkey.Proofs.Pairings
