import Killswitch.Main
import Killswitch.Proofs.CommandLine.Diagnosis
import Killswitch.Proofs.Endpoint.Directory
import Killswitch.Proofs.Endpoint.Grammar
import Killswitch.Proofs.Endpoint.Separation
import Killswitch.Proofs.Lock.Cleanup
import Killswitch.Proofs.Lock.InForce
import Killswitch.Proofs.Lock.Leftover
import Killswitch.Proofs.Lock.Location
import Killswitch.Proofs.Policy.Beside
import Killswitch.Proofs.Policy.Destinations
import Killswitch.Proofs.Policy.Document
import Killswitch.Proofs.Policy.Flags
import Killswitch.Proofs.Policy.Merging
import Killswitch.Proofs.Policy.Tunnel
import Killswitch.Proofs.Ruleset.Recovery
import Killswitch.Proofs.Route.Section
import Killswitch.Proofs.Route.SingleHost
import Killswitch.Proofs.Source.Confinement
import Killswitch.Proofs.Source.Diagnosis
