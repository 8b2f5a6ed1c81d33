import HydraSeat.Audio.RouteDuty
import HydraSeat.GateC.AdapterInput
import HydraSeat.GateC.RawDelivery
import HydraSeat.GateC.XInputPackets
import HydraSeat.GateC.XInputStaleness
import HydraSeat.GateC.XInputVibration
import HydraSeat.HidHide.RecordCorruption
import HydraSeat.HidHide.RecoveryAgreement
import HydraSeat.HostIpc.Leases
import HydraSeat.HostIpc.PayloadReads
import HydraSeat.HostIpc.Responses
import HydraSeat.Installer.UpdateLaw
import HydraSeat.Isolation.StatusHonesty
import HydraSeat.Launch.ActivationEpochs
import HydraSeat.Launch.HookBypass
import HydraSeat.Materialization.DecisionLaw
import HydraSeat.Plan.DeviceIdentity
import HydraSeat.Privilege.BrokerLaw
import HydraSeat.Process.CommandLine
import HydraSeat.Process.Handoff
import HydraSeat.Profile.MigrationPlanLaw
import HydraSeat.Recovery.ActivationFirst
import HydraSeat.Recovery.AttachmentReplay
import HydraSeat.Recovery.Blocking
import HydraSeat.Requirement.GateLaw
import HydraSeat.Requirement.PublicationLaw
import HydraSeat.Reset.RegistrationCodec
import HydraSeat.Reset.Restart
import HydraSeat.Runtime.BindingLaw
import HydraSeat.Runtime.Exclusivity
import HydraSeat.Runtime.GameAuthority
import HydraSeat.Runtime.HardwareLaw
import HydraSeat.Runtime.HealthLaw
import HydraSeat.Runtime.Revision
import HydraSeat.Runtime.StoreFidelity
import HydraSeat.Runtime.WindowEvents
import HydraSeat.Watchdog.ExecutionLaw
import HydraSeat.Watchdog.StatusStream
