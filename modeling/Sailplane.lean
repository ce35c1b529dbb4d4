import Sailplane.Download.Run
import Sailplane.Main
import Sailplane.Rehearsal.Roster
import Sailplane.Rehearsal.Scene
import Sailplane.Download.History
import Sailplane.Proofs.Download.Steps
import Sailplane.Proofs.Download.Frames
import Sailplane.Proofs.Download.Effect
import Sailplane.Proofs.Download.Changes
import Sailplane.Proofs.Download.Delivery
import Sailplane.Proofs.Download.Ledger
import Sailplane.Proofs.Download.Accounts
import Sailplane.Proofs.Download.Lifecycle
import Sailplane.Proofs.Download.Line
import Sailplane.Proofs.Download.FirstCome
import Sailplane.Proofs.Download.SingleFlight
import Sailplane.Proofs.Download.Audible
import Sailplane.Proofs.Download.Sources
import Sailplane.Proofs.Download.Surroundings
import Sailplane.Proofs.Download.Stopped
import Sailplane.Proofs.Download.Waits
import Sailplane.Proofs.Download.Renumbering
import Sailplane.Proofs.Download.Twins
import Sailplane.Proofs.Download.TwinSteps
import Sailplane.Proofs.Download.TwinRuns
import Sailplane.Proofs.Download.Grounded
import Sailplane.Proofs.Download.Restart
import Sailplane.Proofs.Download.Turnover
import Sailplane.Proofs.Download.ByName
import Sailplane.Proofs.Download.Told
import Sailplane.Proofs.Download.Brought
import Sailplane.Proofs.Download.Rounds
import Sailplane.Proofs.Text.Named
import Sailplane.Proofs.Download.Tracking
import Sailplane.Proofs.Download.Mirror
import Sailplane.Proofs.Download.Strides
import Sailplane.Proofs.Download.Alone
import Sailplane.Proofs.Skysight.Desk
import Sailplane.Proofs.Skysight.Polite
import Sailplane.Proofs.Skysight.Shelves
import Sailplane.Proofs.Skysight.Serving
import Sailplane.Proofs.Skysight.Onward
import Sailplane.Proofs.Skysight.Notices
import Sailplane.Proofs.Skysight.Courses
import Sailplane.Proofs.Skysight.Routing
import Sailplane.Proofs.Skysight.Civil
import Sailplane.Proofs.Skysight.Verdicts
import Sailplane.Proofs.Skysight.Standing
import Sailplane.Proofs.Skysight.Safe
import Sailplane.Proofs.Skysight.Hearing
import Sailplane.Proofs.Skysight.Voyages
import Sailplane.Proofs.Skysight.Afloat
import Sailplane.Proofs.Skysight.Returns
import Sailplane.Proofs.Skysight.Throttle
import Sailplane.Proofs.Skysight.Login
import Sailplane.Proofs.Skysight.Foreign
import Sailplane.Proofs.Skysight.Displaced
import Sailplane.Proofs.Task.Layout
import Sailplane.Proofs.Task.Progress
import Sailplane.Proofs.Task.Matching
import Sailplane.Proofs.Task.Editing
import Sailplane.Proofs.Command.Report
import Sailplane.Proofs.Command.Carrying
import Sailplane.Proofs.Command.Verdict
import Sailplane.Proofs.Command.Digests
import Sailplane.Proofs.Config.RoundTrip
import Sailplane.Proofs.Http.AllOrNothing
import Sailplane.Proofs.Http.Reports
import Sailplane.Proofs.Http.Remains
import Sailplane.Proofs.Numeric.Order
import Sailplane.Proofs.Task.Starting
import Sailplane.Proofs.Task.Wiring
import Sailplane.Proofs.Task.Remaking
import Sailplane.Proofs.Download.Cancelling
import Sailplane.Proofs.Download.Gauges
import Sailplane.Proofs.Download.Registrations
import Sailplane.Proofs.Download.Recollection
import Sailplane.Proofs.Download.Recital
import Sailplane.Proofs.Http.Receipts
import Sailplane.Proofs.Geo.Bearings
import Sailplane.Proofs.Geo.Arcs
import Sailplane.Proofs.Task.Crossings
import Sailplane.Proofs.Task.Border
import Sailplane.Proofs.Task.Directions
import Sailplane.Proofs.Task.BestStart
import Sailplane.Proofs.Files.Inside
import Sailplane.Proofs.Files.Digest
import Sailplane.Proofs.Rehearsal.Played
import Sailplane.Proofs.Command.Landing
