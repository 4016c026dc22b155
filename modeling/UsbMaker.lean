import UsbMaker.Data
import UsbMaker.Run.Machine
import UsbMaker.Download.Complete
import UsbMaker.Download.Order
import UsbMaker.Meepo.Finished
import UsbMaker.Meepo.ExactlyOnce
import UsbMaker.Meepo.Stale
import UsbMaker.Meepo.Counter
import UsbMaker.Meepo.Metrics
import UsbMaker.Meepo.Urls
import UsbMaker.Wizard.Target
import UsbMaker.Wizard.FormatMode
import UsbMaker.Wizard.Installer
import UsbMaker.Wizard.Errors
import UsbMaker.Wizard.Unzip
import UsbMaker.Wizard.ChosenSite
import UsbMaker.Wizard.ZipFile
import UsbMaker.Wizard.Images
import UsbMaker.Disk.Contents
import UsbMaker.Disk.Locks
import UsbMaker.Disk.Again
import UsbMaker.Disk.Leaks
import UsbMaker.Disk.Format
import UsbMaker.Disk.Volumes
import UsbMaker.Disk.OnePartition
import UsbMaker.Disk.GptCrash
import UsbMaker.Devices.Filters
import UsbMaker.Devices.Names
import UsbMaker.Devices.Classes
import UsbMaker.Devices.IdFailures
import UsbMaker.Devices.HubCalls
import UsbMaker.Devices.HubPaths
import UsbMaker.Devices.HubAccess
import UsbMaker.Devices.HubPrimes
import UsbMaker.Devices.HubSizes
import UsbMaker.Devices.UsbIds
import UsbMaker.Devices.AutorunForm
import UsbMaker.Oauth.Server
import UsbMaker.Disk.FreeSpace
import UsbMaker.Disk.GptClear
import UsbMaker.Disk.GptOverrun
