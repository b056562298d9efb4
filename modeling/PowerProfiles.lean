import PowerProfiles.Profile
import PowerProfiles.Backend
import PowerProfiles.HoldTable
import PowerProfiles.App
import PowerProfiles.Activation
import PowerProfiles.Holds
import PowerProfiles.Daemon
import PowerProfiles.Probe
import PowerProfiles.UserSet
import PowerProfiles.Cookies
import PowerProfiles.Registry
import PowerProfiles.Drivers
import PowerProfiles.Persistence
import PowerProfiles.Arbitration
import PowerProfiles.Validity
import PowerProfiles.Messages
import PowerProfiles.Utils
import PowerProfiles.CpuDrivers
import PowerProfiles.PanelPower
import PowerProfiles.CpuDriverRuns
import PowerProfiles.PowerSource
import PowerProfiles.PanelSource
import PowerProfiles.CpuProbe
import PowerProfiles.AmdgpuDpm
import PowerProfiles.DriverView
