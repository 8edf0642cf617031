import RosMiddleware.Domain
import RosMiddleware.Proofs.ActualProfiles
import RosMiddleware.Proofs.ErrorReports
import RosMiddleware.Proofs.GlobalQueries
import RosMiddleware.Proofs.HoldGenerations
import RosMiddleware.Proofs.RegistryRuns
import RosMiddleware.Proofs.SettingLayers
import RosMiddleware.Proofs.ShutdownResidue
import RosMiddleware.Proofs.SubscriptionInGraph
import RosMiddleware.Proofs.Succession
import RosMiddleware.Proofs.Teardowns
import RosMiddleware.Proofs.TypeGrammar
import RosMiddleware.Proofs.TypeRoundTrips
import RosMiddleware.Proofs.Policies
import RosMiddleware.Proofs.RepeatedProfiles
import RosMiddleware.Proofs.QueryOutcomes
import RosMiddleware.Proofs.ContainerUses
import RosMiddleware.Proofs.PatchedSettings
import RosMiddleware.Proofs.MatchedPublishers
