import MailWindow.Folder.Wayward
import MailWindow.Reader.Processing
import MailWindow.Reader.Saving
import MailWindow.Sink.Files
import MailWindow.Sink.Recording
import MailWindow.Proofs.Ascending
import MailWindow.Proofs.Planning
import MailWindow.Proofs.Calls
import MailWindow.Proofs.Drains
import MailWindow.Proofs.Walks
import MailWindow.Proofs.Tilings
import MailWindow.Proofs.Visits
import MailWindow.Proofs.Readings
import MailWindow.Proofs.Attendance
import MailWindow.Proofs.Requests
import MailWindow.Proofs.Failures
import MailWindow.Proofs.Ownership
import MailWindow.Proofs.Retrievals
import MailWindow.Proofs.Agreement
import MailWindow.Proofs.Changes
import MailWindow.Proofs.Exhaustion
import MailWindow.Proofs.Arrivals
import MailWindow.Proofs.Scanning
import MailWindow.Proofs.Parsing
import MailWindow.Proofs.LineBreaks
import MailWindow.Proofs.Asides
import MailWindow.Proofs.Places
import MailWindow.Proofs.Saves
import MailWindow.Proofs.Watching
import MailWindow.Proofs.Robustness
import MailWindow.Proofs.Courses
import MailWindow.Proofs.Interruptions
import MailWindow.Proofs.Strides
import MailWindow.Proofs.Transitions
import MailWindow.Proofs.Refusals
import MailWindow.Proofs.Closings
import MailWindow.Proofs.Ranks
import MailWindow.Proofs.Combinators
import MailWindow.Proofs.Decoding
import MailWindow.Proofs.Headers
import MailWindow.Proofs.Returns
import MailWindow.Proofs.Bodies
import MailWindow.Proofs.Histories
import MailWindow.Proofs.Lookups
import MailWindow.Proofs.Sessions
import MailWindow.Proofs.Sets
