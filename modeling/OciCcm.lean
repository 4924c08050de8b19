import OciCcm.Csi.Attachments
import OciCcm.Csi.Deletes
import OciCcm.Csi.ErrorTruncation
import OciCcm.Csi.Expansion
import OciCcm.Csi.FssHandles
import OciCcm.Csi.IscsiPaths
import OciCcm.Csi.LnetStability
import OciCcm.Csi.NodeStage
import OciCcm.Instances.NodeAddresses
import OciCcm.Instances.NodeNames
import OciCcm.Instances.ProviderIds
import OciCcm.Listings.Conflicts
import OciCcm.LoadBalancer.Attempts
import OciCcm.LoadBalancer.Certificates
import OciCcm.LoadBalancer.Cleanup
import OciCcm.LoadBalancer.NameCache
import OciCcm.LoadBalancer.PortZero
import OciCcm.LoadBalancer.Requests
import OciCcm.LoadBalancer.Settings
import OciCcm.LoadBalancer.ShapeUpdate
import OciCcm.LoadBalancer.Subnets
import OciCcm.LoadBalancer.TypeCase
import OciCcm.LoadBalancer.VersionChoice
import OciCcm.NetworkSecurityGroups.Batches
import OciCcm.NetworkSecurityGroups.Deletion
import OciCcm.NetworkSecurityGroups.Sharing
import OciCcm.NetworkSecurityGroups.Traffic
import OciCcm.SecurityLists.Concurrent
import OciCcm.SecurityLists.FrontendEgress
import OciCcm.SecurityLists.HealthChecks
import OciCcm.SecurityLists.Sources
import OciCcm.SecurityLists.Undo
import OciCcm.TagLimit
