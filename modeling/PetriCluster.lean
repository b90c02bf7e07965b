import PetriCluster.Inspection
import PetriCluster.Main
import PetriCluster.Net.Description
import PetriCluster.Proofs.Attendance
import PetriCluster.Proofs.Barriers
import PetriCluster.Proofs.BroadcastDelivery
import PetriCluster.Proofs.DroppedPackets
import PetriCluster.Proofs.Firings
import PetriCluster.Proofs.FrameLimits
import PetriCluster.Proofs.HaltPhases
import PetriCluster.Proofs.LocalHalts
import PetriCluster.Proofs.MessageCodec
import PetriCluster.Proofs.Ownership
import PetriCluster.Proofs.Refusals
import PetriCluster.Proofs.RetiredWindow
import PetriCluster.Proofs.RingToken
import PetriCluster.Proofs.SendReports
import PetriCluster.Proofs.Supply
import PetriCluster.Proofs.TokenFlow
import PetriCluster.Proofs.TokenRoutes
