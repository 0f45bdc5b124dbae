import Kira.Properties.ClosestContacts
import Kira.Properties.NextHop
import Kira.Properties.LoopFreePaths
import Kira.Properties.NeighborPlacement
import Kira.Properties.FailedOperations
import Kira.Properties.StaleInformation
import Kira.Properties.EventReplay
import Kira.Properties.FullLengthEntries
import Kira.Properties.StateSequence
import Kira.Properties.StoreDelivery
import Kira.Properties.InjectionResults
import Kira.Properties.DecodingSafety
import Kira.Properties.RoundTrip
import Kira.Properties.TimerSchedule
import Kira.Properties.BucketPrefixes
import Kira.Properties.PathStates
import Kira.Properties.RedundantStores
import Kira.Properties.RepublishSuppression
import Kira.Properties.StaleEvents
import Kira.Properties.FirstHops
import Kira.Properties.RediscoveryAttempts
import Kira.Properties.BrokenLinks
import Kira.Properties.ContactUpdates
import Kira.Properties.JoinTimers
import Kira.Properties.ProbeTimeouts
import Kira.Properties.ExplicitPaths
import Kira.Properties.LabelSwitching
import Kira.Properties.VicinityConsistency
import Kira.Properties.IdComparisons
import Kira.Properties.TableQueries
import Kira.Properties.ProbedContacts
import Kira.Properties.Lookups
import Kira.Underlay.InformationBase
