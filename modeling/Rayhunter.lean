import Rayhunter.Analysis.Control
import Rayhunter.Analysis.Event
import Rayhunter.Analysis.Harness
import Rayhunter.Analysis.Normalizer
import Rayhunter.Analysis.Renewed
import Rayhunter.Analysis.Requests
import Rayhunter.Analysis.Serde
import Rayhunter.Analysis.Serving
import Rayhunter.Analysis.Worker
import Rayhunter.Analysis.Writer
import Rayhunter.Auth.AfterSetup
import Rayhunter.Auth.Approval
import Rayhunter.Auth.Calls
import Rayhunter.Auth.Cookies
import Rayhunter.Auth.FirstContact
import Rayhunter.Auth.Gate
import Rayhunter.Auth.Guessing
import Rayhunter.Auth.Passwords
import Rayhunter.Auth.Redirect
import Rayhunter.Auth.Routes
import Rayhunter.Auth.Saving
import Rayhunter.Auth.Secrets
import Rayhunter.Auth.Store
import Rayhunter.Cells.Baseline
import Rayhunter.Cells.Effect
import Rayhunter.Cells.Own
import Rayhunter.Cells.Tracker
import Rayhunter.Cells.Update
import Rayhunter.Cleanup.Classify
import Rayhunter.Cleanup.Findings
import Rayhunter.Cleanup.Prune
import Rayhunter.Cleanup.Reanalysis
import Rayhunter.Detectors.Downgrade
import Rayhunter.Detectors.Element
import Rayhunter.Detectors.Evidence
import Rayhunter.Detectors.FlashCatch
import Rayhunter.Detectors.ImsiRequested
import Rayhunter.Detectors.Lpp
import Rayhunter.Detectors.LppPrefix
import Rayhunter.Detectors.LppTransactions
import Rayhunter.Detectors.NoNasMessages
import Rayhunter.Detectors.TimedOut
import Rayhunter.Detectors.TimingAdvance
import Rayhunter.Diag.Accepted
import Rayhunter.Diag.Configure
import Rayhunter.Diag.Device
import Rayhunter.Diag.Framing
import Rayhunter.Diag.Hdlc
import Rayhunter.Diag.Hostile
import Rayhunter.Diag.LogBody
import Rayhunter.Diag.LogMask
import Rayhunter.Diag.Measurements
import Rayhunter.Diag.Message
import Rayhunter.Diag.Parse
import Rayhunter.External
import Rayhunter.Gsmtap.Capture
import Rayhunter.Gsmtap.Element
import Rayhunter.Gsmtap.Lengths
import Rayhunter.Gsmtap.Mac
import Rayhunter.Gsmtap.Nearest
import Rayhunter.Gsmtap.Offsets
import Rayhunter.Gsmtap.Parser
import Rayhunter.Gsmtap.Pcap
import Rayhunter.Gsmtap.Response
import Rayhunter.Gsmtap.Types
import Rayhunter.Lib.Base64
import Rayhunter.Lib.BitFields
import Rayhunter.Lib.BitReader
import Rayhunter.Lib.Checks
import Rayhunter.Lib.Chunks
import Rayhunter.Lib.Deadlock
import Rayhunter.Lib.Fields
import Rayhunter.Lib.Grammar
import Rayhunter.Lib.Hex
import Rayhunter.Lib.InForce
import Rayhunter.Lib.IpText
import Rayhunter.Lib.Joining
import Rayhunter.Lib.Json
import Rayhunter.Lib.JsonPretty
import Rayhunter.Lib.JsonText
import Rayhunter.Lib.KeyDerivation
import Rayhunter.Lib.Keyed
import Rayhunter.Lib.Lines
import Rayhunter.Lib.LongestRun
import Rayhunter.Lib.Mealy
import Rayhunter.Lib.Numbers
import Rayhunter.Lib.PackedBits
import Rayhunter.Lib.Paths
import Rayhunter.Lib.Proc
import Rayhunter.Lib.Raster
import Rayhunter.Lib.Reach
import Rayhunter.Lib.Replacing
import Rayhunter.Lib.Routes
import Rayhunter.Lib.Sha256
import Rayhunter.Lib.SortedMap
import Rayhunter.Lib.Stopping
import Rayhunter.Lib.Sync
import Rayhunter.Lib.Text
import Rayhunter.Lib.Utf8
import Rayhunter.Nas.Export
import Rayhunter.Nas.Identity
import Rayhunter.Nas.Packing
import Rayhunter.Nas.Redact
import Rayhunter.Qmdl.Cut
import Rayhunter.Qmdl.Gzip
import Rayhunter.Qmdl.Stream
import Rayhunter.Radio.CatchAll
import Rayhunter.Radio.Coverage
import Rayhunter.Radio.ElementOrder
import Rayhunter.Radio.Glob
import Rayhunter.Radio.Iw
import Rayhunter.Radio.Mac
import Rayhunter.Radio.Observation
import Rayhunter.Radio.Persistence
import Rayhunter.Radio.ReadBack
import Rayhunter.Radio.RulesFile
import Rayhunter.Radio.RulesJson
import Rayhunter.Radio.Scan
import Rayhunter.Radio.Seen
import Rayhunter.Radio.Signature
import Rayhunter.Radio.UserRules
import Rayhunter.Recorder.Capture
import Rayhunter.Recorder.Closing
import Rayhunter.Recorder.Demo
import Rayhunter.Recorder.Detection
import Rayhunter.Recorder.Display
import Rayhunter.Recorder.Fixes
import Rayhunter.Recorder.Lasting
import Rayhunter.Recorder.Monitor
import Rayhunter.Recorder.MountFields
import Rayhunter.Recorder.Mounts
import Rayhunter.Recorder.Notes
import Rayhunter.Recorder.Outcome
import Rayhunter.Recorder.Shutdown
import Rayhunter.Recorder.Space
import Rayhunter.Recorder.Spec
import Rayhunter.Recorder.Step
import Rayhunter.Recorder.Stopped
import Rayhunter.Recorder.StorePath
import Rayhunter.Recorder.Task
import Rayhunter.Recorder.View
import Rayhunter.Screen.Components
import Rayhunter.Screen.DisplayLoop
import Rayhunter.Screen.Framebuffer
import Rayhunter.Screen.Lapsed
import Rayhunter.Screen.QrCode
import Rayhunter.Screen.StatusLine
import Rayhunter.Screen.Taken
import Rayhunter.Settings.Config
import Rayhunter.Settings.Current
import Rayhunter.Settings.Request
import Rayhunter.Settings.Save
import Rayhunter.Settings.Whole
import Rayhunter.Store.Agree
import Rayhunter.Store.Disk
import Rayhunter.Store.Durable
import Rayhunter.Store.Files
import Rayhunter.Store.Manifest
import Rayhunter.Store.Orphans
import Rayhunter.Store.Recover
import Rayhunter.Store.Recovered
import Rayhunter.Store.Reopen
import Rayhunter.Store.Runs
import Rayhunter.Store.Spec
import Rayhunter.Store.Store
import Rayhunter.Tasks.Locks
import Rayhunter.Tasks.NoCycle
import Rayhunter.Tasks.Notify
import Rayhunter.Tasks.Pcap
import Rayhunter.Tasks.PressGesture
import Rayhunter.Tasks.UploadTick
import Rayhunter.Tasks.Webdav
import Rayhunter.Tasks.Zip
import Rayhunter.Tls.Identity
import Rayhunter.Tls.Survival
import Rayhunter.Web.Manager
import Rayhunter.Web.Mdns
import Rayhunter.Web.Packets
import Rayhunter.Web.Report
