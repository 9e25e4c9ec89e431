import SessionCart.Concurrency.Race
import SessionCart.Cart.Codec
import SessionCart.Guarded
import SessionCart.Logging
import SessionCart.Scenario.Play
import SessionCart.Proofs.Lock.Exclusion
import SessionCart.Proofs.Turn.Order
import SessionCart.Proofs.Turn.Soundness
import SessionCart.Proofs.Turn.Run
import SessionCart.Proofs.Turn.Serial
import SessionCart.Proofs.Section.Rules
import SessionCart.Proofs.Section.Visit
import SessionCart.Proofs.Section.Serializable
import SessionCart.Proofs.Desk.Undated
import SessionCart.Proofs.Desk.Scene
import SessionCart.Proofs.Desk.Change
import SessionCart.Proofs.Desk.Determined
import SessionCart.Proofs.Turn.Atomic
import SessionCart.Proofs.Desk.Calls
import SessionCart.Proofs.Desk.Linearizable
import SessionCart.Proofs.Thread.Trace
import SessionCart.Proofs.Section.Fresh
import SessionCart.Proofs.Thread.Logic
import SessionCart.Proofs.Thread.Company
import SessionCart.Proofs.Thread.Attribute
import SessionCart.Proofs.Thread.Section
import SessionCart.Proofs.Section.Abandoned
import SessionCart.Proofs.Section.Bench
import SessionCart.Proofs.Section.Drafted
import SessionCart.Proofs.Section.Consistent
import SessionCart.Proofs.Section.Tracking
import SessionCart.Proofs.Section.Latest
import SessionCart.Proofs.Section.Heeded
import SessionCart.Proofs.Turn.Pact
import SessionCart.Proofs.Section.Genesis
import SessionCart.Proofs.Cart.WellFormed
import SessionCart.Proofs.Thread.Terms
import SessionCart.Proofs.Thread.Course
import SessionCart.Proofs.Desk.Terms
import SessionCart.Proofs.Desk.Provenance
import SessionCart.Proofs.Thread.Custody
import SessionCart.Proofs.Desk.Custody
import SessionCart.Proofs.Desk.Refinement
import SessionCart.Proofs.Desk.Figures
import SessionCart.Proofs.Thread.Record
import SessionCart.Proofs.Desk.Spared
import SessionCart.Proofs.Desk.Switching
import SessionCart.Proofs.Desk.Parking
import SessionCart.Proofs.Thread.Ended
import SessionCart.Proofs.Thread.Taken
import SessionCart.Proofs.Thread.Dealing
import SessionCart.Proofs.Desk.Errand
import SessionCart.Proofs.Desk.Deed
import SessionCart.Proofs.Desk.Flags
import SessionCart.Proofs.Desk.Snapshot
import SessionCart.Proofs.Lock.Twin
import SessionCart.Proofs.Thread.Alike
import SessionCart.Proofs.Thread.Twin
import SessionCart.Proofs.Desk.Hall
import SessionCart.Proofs.Desk.Isolation
import SessionCart.Proofs.Codec.Numerals
import SessionCart.Proofs.Codec.Instant
import SessionCart.Proofs.Codec.RoundTrip
import SessionCart.Proofs.Cart.Agreement
import SessionCart.Proofs.Desk.Counter
import SessionCart.Proofs.Desk.Renewal
import SessionCart.Proofs.Desk.Settling
import SessionCart.Proofs.Desk.Clearing
import SessionCart.Proofs.Cart.Locality
import SessionCart.Proofs.Decimal.Exact
import SessionCart.Proofs.Cart.Additions
import SessionCart.Proofs.Thread.Drafts
import SessionCart.Proofs.Desk.Shut
import SessionCart.Proofs.Desk.Late
import SessionCart.Proofs.Desk.Abandonment
import SessionCart.Proofs.Cart.Withdrawal
import SessionCart.Proofs.Dict
import SessionCart.Proofs.Lock.Reclamation
import SessionCart.Proofs.Text.Bytes
import SessionCart.Proofs.Session.Flat
import SessionCart.Proofs.Session.Admission
