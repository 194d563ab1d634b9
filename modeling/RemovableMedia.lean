import RemovableMedia.Config.Encode
import RemovableMedia.Main
import RemovableMedia.Queue.Errand
import RemovableMedia.Wire.HostError
import RemovableMedia.Wire.Status
import RemovableMedia.Proofs.Mount.History
import RemovableMedia.Proofs.Mount.Multipart
import RemovableMedia.Proofs.Host.Reliable
import RemovableMedia.Proofs.Notification.Identity
import RemovableMedia.Proofs.Notification.Center
import RemovableMedia.Proofs.Notification.Request
import RemovableMedia.Proofs.Router.Requests
import RemovableMedia.Proofs.Router.Run
import RemovableMedia.Proofs.Router.DeviceResults
import RemovableMedia.Proofs.Mount.Lingering
import RemovableMedia.Proofs.Router.FailureNotification
import RemovableMedia.Proofs.Mount.Arrival
import RemovableMedia.Proofs.Queue.Run
import RemovableMedia.Proofs.Queue.InOrder
import RemovableMedia.Proofs.Host.Heading
import RemovableMedia.Proofs.Notification.Agreement
import RemovableMedia.Proofs.Host.Candid
import RemovableMedia.Proofs.Notification.Ledger
import RemovableMedia.Proofs.Notification.Once
import RemovableMedia.Proofs.Host.Calls
import RemovableMedia.Proofs.Notification.Prompt
import RemovableMedia.Proofs.Router.Service
import RemovableMedia.Proofs.Router.Yield
import RemovableMedia.Proofs.Router.Navigations
import RemovableMedia.Proofs.Router.Balance
import RemovableMedia.Proofs.Router.Account
import RemovableMedia.Proofs.Router.Settling
import RemovableMedia.Proofs.Router.Shutdown
import RemovableMedia.Proofs.Router.ScheduleIndependence
import RemovableMedia.Proofs.Router.LastRequest
import RemovableMedia.Proofs.Router.Removal
import RemovableMedia.Proofs.Router.Unmount
import RemovableMedia.Proofs.Router.Adequacy
import RemovableMedia.Proofs.Wire.RoundTrip
import RemovableMedia.Proofs.Import.Run
import RemovableMedia.Proofs.Import.MountedVolumes
import RemovableMedia.Proofs.Router.Clicks
import RemovableMedia.Proofs.Desktop.Presses
import RemovableMedia.Proofs.Mount.Independence
import RemovableMedia.Proofs.Session.Intake
import RemovableMedia.Proofs.Import.Reports
import RemovableMedia.Proofs.Router.Crashes
import RemovableMedia.Proofs.Session.Output
import RemovableMedia.Proofs.Router.Formatting
import RemovableMedia.Proofs.Import.Eligibility
import RemovableMedia.Proofs.Router.InertEvents
import RemovableMedia.Proofs.Desktop.Failures
import RemovableMedia.Proofs.Desktop.Freshness
import RemovableMedia.Proofs.Config.Fields
import RemovableMedia.Proofs.Notification.LastWord
import RemovableMedia.Proofs.Config.Wording
import RemovableMedia.Config.Restore
import RemovableMedia.Config.Table
import RemovableMedia.Proofs.Config.Restoring
import RemovableMedia.Proofs.Config.Labels
import RemovableMedia.Proofs.Storage.Probes
import RemovableMedia.Proofs.Json.Members
import RemovableMedia.Proofs.Wire.Arrangement
import RemovableMedia.Proofs.Storage.Folders
