import VitaOxiPad.Lib.FuelLoop
import VitaOxiPad.Lib.StepRun
import VitaOxiPad.Lib.Framing
import VitaOxiPad.Client.PadDelivery
import VitaOxiPad.Client.PadCodec
import VitaOxiPad.Server.ClientStream
import VitaOxiPad.Server.HeaderReads
import VitaOxiPad.Server.OptionalAccess
import VitaOxiPad.Server.Session
import VitaOxiPad.Server.Notifications
import VitaOxiPad.Server.Registrations
import VitaOxiPad.Server.Screen
import VitaOxiPad.Server.Response
import VitaOxiPad.Server.Timestamps
import VitaOxiPad.Server.FrameBoundary
import VitaOxiPad.Device.Config
import VitaOxiPad.Device.Uinput
import VitaOxiPad.Device.Linux
import VitaOxiPad.Device.Touchpad
import VitaOxiPad.Device.MainDevice
import VitaOxiPad.Device.SameController
import VitaOxiPad.Client.SilentFrames
import VitaOxiPad.Lib.Latch
import VitaOxiPad.Server.MainEvents
import VitaOxiPad.Server.ReceiveErrors
import VitaOxiPad.Device.WindowsHat
import VitaOxiPad.Lib.ChangeReports
import VitaOxiPad.Lib.Pacer
import VitaOxiPad.Server.NetworkStatus
import VitaOxiPad.Server.PadRoundTrip
import VitaOxiPad.Device.LostReports
import VitaOxiPad.Device.ConfigTable
import VitaOxiPad.Server.AbsentContent
import VitaOxiPad.Server.StaleEvents
import VitaOxiPad.Device.TouchClick
import VitaOxiPad.Server.PollTimeout
import VitaOxiPad.Device.SlotStability
import VitaOxiPad.Client.HeartbeatSchedule
import VitaOxiPad.Client.ConnectionPhase
import VitaOxiPad.Server.DispatchLoop
import VitaOxiPad.Server.PollingInterval
import VitaOxiPad.Client.HeartbeatGap
import VitaOxiPad.Server.Settings
import VitaOxiPad.Link.Pads
import VitaOxiPad.Link.Control
import VitaOxiPad.Link.KeepAlive
import VitaOxiPad.Client.AnyDatagrams
import VitaOxiPad.Server.Lifecycle
import VitaOxiPad.Server.Silence
import VitaOxiPad.Server.Display
import VitaOxiPad.Server.PadMode
import VitaOxiPad.Device.LinuxSetup
import VitaOxiPad.Device.LinuxDevices
import VitaOxiPad.Link.Devices
import VitaOxiPad.Device.BothDrivers
import VitaOxiPad.Link.Rate
import VitaOxiPad.Link.Steady
import VitaOxiPad.Link.InPadMode
