import ClusterAdvisor.Main
import ClusterAdvisor.Proofs.Adoption
import ClusterAdvisor.Proofs.Assignments
import ClusterAdvisor.Proofs.ClasspathMerge
import ClusterAdvisor.Proofs.ConfigurationCheck
import ClusterAdvisor.Proofs.ConfigurationLoaders
import ClusterAdvisor.Proofs.EffectiveSettings
import ClusterAdvisor.Proofs.Growth
import ClusterAdvisor.Proofs.HostLookup
import ClusterAdvisor.Proofs.ItemDocument
import ClusterAdvisor.Proofs.KindReading
import ClusterAdvisor.Proofs.KnownNames
import ClusterAdvisor.Proofs.LayoutCheck
import ClusterAdvisor.Proofs.ListedHosts
import ClusterAdvisor.Proofs.ListedPorts
import ClusterAdvisor.Proofs.PaddedPorts
import ClusterAdvisor.Proofs.PlacementHistory
import ClusterAdvisor.Proofs.Presentation
import ClusterAdvisor.Proofs.Printing
import ClusterAdvisor.Proofs.PropertyKinds
import ClusterAdvisor.Proofs.PushedComponents
import ClusterAdvisor.Proofs.ReachedSettings
import ClusterAdvisor.Proofs.ReadValues
import ClusterAdvisor.Proofs.Reading
import ClusterAdvisor.Proofs.Rearrangement
import ClusterAdvisor.Proofs.RecommendationFailures
import ClusterAdvisor.Proofs.RecommendationsFile
import ClusterAdvisor.Proofs.Recommending
import ClusterAdvisor.Proofs.RecordMembers
import ClusterAdvisor.Proofs.Results
import ClusterAdvisor.Proofs.Rewrites
import ClusterAdvisor.Proofs.RunEffects
import ClusterAdvisor.Proofs.SchemaReading
import ClusterAdvisor.Proofs.SchemaRoundTrip
import ClusterAdvisor.Proofs.SchemaTexts
import ClusterAdvisor.Proofs.ServicesDocument
import ClusterAdvisor.Proofs.Skipping
import ClusterAdvisor.Proofs.SlotCapacity
import ClusterAdvisor.Proofs.Spelling
import ClusterAdvisor.Proofs.StormSiteCheck
import ClusterAdvisor.Proofs.Tokens
import ClusterAdvisor.Proofs.ValueReading
import ClusterAdvisor.Proofs.ValueShape
import ClusterAdvisor.Proofs.WellFormed
import ClusterAdvisor.Proofs.FirstFault
