import RollCall.LogFormat
import RollCall.Message.Classify
import RollCall.Plan.Load
import RollCall.Plan.Run
import RollCall.Session
import RollCall.Settings.Load
import RollCall.Proofs.Recipients
import RollCall.Proofs.Recording
import RollCall.Proofs.Bookkeeping
import RollCall.Proofs.Alike
import RollCall.Proofs.Exchange
import RollCall.Proofs.FanOut
import RollCall.Proofs.Partition
import RollCall.Proofs.Replies
import RollCall.Proofs.Playback
import RollCall.Proofs.Reference
import RollCall.Proofs.Streaming
import RollCall.Proofs.Lockstep
import RollCall.Proofs.Relay
import RollCall.Proofs.Indifference
import RollCall.Proofs.Arrivals
import RollCall.Proofs.Deadline
import RollCall.Proofs.Network
import RollCall.Proofs.Lateness
import RollCall.Proofs.Steps
import RollCall.Proofs.Keeping
import RollCall.Proofs.Interleaving
import RollCall.Proofs.LostSteps
import RollCall.Proofs.Closing
import RollCall.Proofs.Ledger
import RollCall.Proofs.Retention
import RollCall.Proofs.AppendOnly
import RollCall.Proofs.Tally
import RollCall.Proofs.Standing
import RollCall.Proofs.Mirror
import RollCall.Proofs.Account
import RollCall.Proofs.Overrun
import RollCall.Proofs.Calendar
import RollCall.Proofs.Digits
import RollCall.Proofs.Instants
import RollCall.Proofs.JsonText
import RollCall.Proofs.Records
import RollCall.Proofs.Expiry
import RollCall.Proofs.Generations
import RollCall.Proofs.Routing
import RollCall.Proofs.Handouts
import RollCall.Proofs.Quickest
import RollCall.Proofs.Roundup
import RollCall.Proofs.Watching
import RollCall.Proofs.Sightings
import RollCall.Proofs.Relaying
import RollCall.Proofs.Unicast
import RollCall.Proofs.Mistakes
import RollCall.Proofs.Conversing
import RollCall.Proofs.Custody
import RollCall.Proofs.Leaves
import RollCall.Proofs.Fields
import RollCall.Proofs.RoundTrips
import RollCall.Proofs.Beside
import RollCall.Proofs.Sharing
import RollCall.Proofs.LateRelays
import RollCall.Proofs.HopSteps
import RollCall.Proofs.Pauses
import RollCall.Proofs.Bystanders
import RollCall.Proofs.Earshot
import RollCall.Proofs.Elsewhere
import RollCall.Proofs.Aside
import RollCall.Proofs.GivingUp
import RollCall.Proofs.Echoes
import RollCall.Proofs.RepeatedSeeds
import RollCall.Proofs.OneByOne
import RollCall.Proofs.Purging
import RollCall.Proofs.ExchangeSteps
import RollCall.Proofs.Abandoned
import RollCall.Proofs.LoadedPlans
import RollCall.Proofs.Horizon
import RollCall.Proofs.Variables
import RollCall.Proofs.Numerals
import RollCall.Proofs.Exports
import RollCall.Proofs.Layering
import RollCall.Proofs.Lengths
import RollCall.Proofs.Roster
import RollCall.Proofs.Endings
