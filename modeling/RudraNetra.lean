import RudraNetra.Proofs.Published
import RudraNetra.Proofs.Sessions
import RudraNetra.Proofs.CommandAnswers
import RudraNetra.Proofs.Tenancy
import RudraNetra.Proofs.Corruption
import RudraNetra.Proofs.HubDelivery
import RudraNetra.Proofs.Idling
import RudraNetra.Alerts.Ledger
import RudraNetra.Proofs.Ledger
import RudraNetra.Lib.Observer
import RudraNetra.Proofs.Independence
import RudraNetra.Proofs.Immobilizer
import RudraNetra.Proofs.Schedules
import RudraNetra.Api.Status
import RudraNetra.Proofs.Status
import RudraNetra.Api.Schema
import RudraNetra.Lib.Effect
import RudraNetra.Api.Server
import RudraNetra.Api.Registry
import RudraNetra.Api.Places
import RudraNetra.Api.Operations
import RudraNetra.Api.Office
import RudraNetra.Api.Users
import RudraNetra.Api.Routes
import RudraNetra.Proofs.Statements
import RudraNetra.Proofs.Isolation
import RudraNetra.Proofs.DeviceCompany
import RudraNetra.Proofs.ReadOnly
import RudraNetra.Api.Tokens
import RudraNetra.Proofs.Tokens
import RudraNetra.Api.Accounts
import RudraNetra.Proofs.Accounts
import RudraNetra.Api.Reports
import RudraNetra.Proofs.Overspeed
import RudraNetra.Proofs.Distance
import RudraNetra.Lib.Display
import RudraNetra.Web.VehicleStore
import RudraNetra.Proofs.Socket
import RudraNetra.Proofs.VehicleStore
import RudraNetra.Lib.Rounding
import RudraNetra.Proofs.TripLedger
import RudraNetra.Proofs.Vouchers
import RudraNetra.Proofs.AlertDelivery
import RudraNetra.Api.Numbering
import RudraNetra.Proofs.Numbering
import RudraNetra.Proofs.PartialUpdates
import RudraNetra.Proofs.TrailingGroups
import RudraNetra.Proofs.ElementOrder
import RudraNetra.Proofs.ElementValues
import RudraNetra.Proofs.LiveStored
import RudraNetra.Proofs.Sensors
import RudraNetra.Proofs.BatchInsert
import RudraNetra.Lib.ShiftRegister
import RudraNetra.Proofs.Checksum
import RudraNetra.Proofs.CommandFrames
import RudraNetra.Proofs.Thresholds
import RudraNetra.Proofs.DeviceAssignment
import RudraNetra.Api.Masters
import RudraNetra.Proofs.Masters
import RudraNetra.Api.Listing
import RudraNetra.Proofs.Listing
import RudraNetra.Proofs.VehicleEntries
import RudraNetra.Proofs.InvoiceAmounts
import RudraNetra.Lib.GoText
import RudraNetra.Proofs.SmsForm
import RudraNetra.Proofs.GuestVehicles
import RudraNetra.Lib.GoStrings
import RudraNetra.Lib.CSV
import RudraNetra.Api.Export
import RudraNetra.Proofs.Export
import RudraNetra.Lib.GeoJSON
import RudraNetra.Api.Geometry
import RudraNetra.Proofs.Geometry
import RudraNetra.Lib.Placement
import RudraNetra.Proofs.FramerSafety
import RudraNetra.Api.InvoicePDF
import RudraNetra.Proofs.InvoicePDF
import RudraNetra.Lib.PDF
import RudraNetra.Api.Playback
import RudraNetra.Proofs.Playback
import RudraNetra.Lib.Binary64
import RudraNetra.Lib.GoHours
import RudraNetra.Api.Reminders
import RudraNetra.Proofs.Reminders
import RudraNetra.Proofs.Uploads
import RudraNetra.Proofs.PipelineDelivery
import RudraNetra.Proofs.Walls
import RudraNetra.Proofs.Atomicity
import RudraNetra.Device.Duplex
import RudraNetra.Lib.Messages
import RudraNetra.Proofs.Downlink
import RudraNetra.Proofs.Duplex
import RudraNetra.Proofs.Stretches
