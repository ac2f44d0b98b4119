import CsiCloudscale.Int64
import CsiCloudscale.Cloudscale
import CsiCloudscale.Csi
import CsiCloudscale.Capacity
import CsiCloudscale.CapacityLaw
import CsiCloudscale.Format
import CsiCloudscale.Validation
import CsiCloudscale.Controller
import CsiCloudscale.Fake
import CsiCloudscale.Spec
import CsiCloudscale.Create
import CsiCloudscale.Checks
import CsiCloudscale.Frame
import CsiCloudscale.Faults
import CsiCloudscale.System
import CsiCloudscale.Reports
import CsiCloudscale.Race
import CsiCloudscale.Retry
import CsiCloudscale.Safety
import CsiCloudscale.Metrics
import CsiCloudscale.PodNames
