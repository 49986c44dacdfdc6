import EncosDriver.Driver.DispatchLaw
import EncosDriver.Driver.ResetSafety
import EncosDriver.Driver.Invariants
import EncosDriver.GsUsb.BitTiming
import EncosDriver.GsUsb.Transfer
import EncosDriver.Can.Handle
import EncosDriver.Motor.Setters
import EncosDriver.Motor.Quantisation
import EncosDriver.Ethernet.BitErrors
import EncosDriver.Ethernet.Address
import EncosDriver.Adapter.ExtendLaw
import EncosDriver.Relay.Incoming
import EncosDriver.Operation.RegistrySafety
import EncosDriver.Serial.Send
import EncosDriver.Ethercat.CommandSafety
import EncosDriver.Adapter.Conservation
import EncosDriver.Motor.WaiterSafety
import EncosDriver.Fake.Feedback
import EncosDriver.Slcan.Stream
import EncosDriver.Ethernet.AdapterSafety
import EncosDriver.Relay.SendBuffer
import EncosDriver.Relay.StartResponse
import EncosDriver.Adapter.BusTiming
import EncosDriver.Ethercat.RecoveryRuns
import EncosDriver.Igh.Exchange
import EncosDriver.Ethercat.Accounting
import EncosDriver.Ethercat.PackDecode
import EncosDriver.Motor.LogSafety
import EncosDriver.Motor.LogRecovery
import EncosDriver.Operation.Lookup
import EncosDriver.Operation.GateLaw
import EncosDriver.Motor.StatusCounting
import EncosDriver.Motor.StatusDispatch
import EncosDriver.Motor.StatusFilterLaw
import EncosDriver.Fake.CrossTalk
import EncosDriver.Ethernet.XdpSafety
import EncosDriver.Broker.HandshakeSafety
import EncosDriver.Broker.Privilege
import EncosDriver.Bus.FlagLaw
import EncosDriver.Bus.Scan
import EncosDriver.LogWriter.Durability
import EncosDriver.Wasm.HandleLaw
import EncosDriver.Ethercat.Watchdog
import EncosDriver.Ethernet.Liveness
import EncosDriver.Motor.LogClosing
import EncosDriver.Device.Views
import EncosDriver.Device.Pms
import EncosDriver.Glove.Calibration
import EncosDriver.Ethercat.Timing
