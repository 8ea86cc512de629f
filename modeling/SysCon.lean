import SysCon.Library.FirstFailure
import SysCon.Library.LastWrite
import SysCon.Library.RingBuffer
import SysCon.Library.Runs
import SysCon.Library.SlotPool
import SysCon.Library.WaitGraph
import SysCon.ControllerLib.ControllerConfig
import SysCon.ControllerLib.RawInput
import SysCon.ControllerLib.BaseController
import SysCon.ControllerLib.ParseData
import SysCon.ControllerLib.Controllers.Wired
import SysCon.ControllerLib.Controllers.Xbox360Wireless
import SysCon.ControllerLib.Controllers.XboxOne
import SysCon.ControllerLib.Controllers.SteamController2026
import SysCon.ControllerLib.Controllers.Wii
import SysCon.ControllerLib.Controllers.GenericHID
import SysCon.ControllerLib.Mapping
import SysCon.ControllerLib.Controllers
import SysCon.ControllerSwitch.SwitchVirtualGamepadHandler
import SysCon.ControllerSwitch.SwitchHDLHandler
import SysCon.ControllerSwitch.SwitchMITMHandler
import SysCon.ControllerSwitch.HandlerInvariant
import SysCon.ControllerLib.ReadPath
import SysCon.ControllerSwitch.SlotIndex
import SysCon.ControllerSwitch.HandlerLifetime
import SysCon.ControllerLib.ReceivedBytes
import SysCon.ControllerLib.LatestReport
import SysCon.Sysmodule.CLibrary
import SysCon.Sysmodule.Ini
import SysCon.Sysmodule.ConfigHandler
import SysCon.Sysmodule.IniEntries
import SysCon.Sysmodule.ConfigSettings
import SysCon.Sysmodule.ConfigPasses
import SysCon.Sysmodule.ConfigLayers
import SysCon.Sysmodule.ConfigPins
import SysCon.Sysmodule.IniErrors
import SysCon.Sysmodule.ConfigErrors
import SysCon.Sysmodule.Threads
import SysCon.Sysmodule.Deadlock
import SysCon.Sysmodule.Meeting
import SysCon.ControllerSwitch.SwitchMITMManager
import SysCon.ControllerSwitch.PlayerSlots
import SysCon.ControllerSwitch.MitmSystem
import SysCon.ControllerSwitch.NpadHistory
import SysCon.ControllerSwitch.TouchMirror
import SysCon.ControllerLib.Combos
import SysCon.Sysmodule.Numerals
import SysCon.Sysmodule.BindingTokens
import SysCon.ControllerLib.Opening
import SysCon.Sysmodule.HandlerRelease
import SysCon.Sysmodule.IniReaders
import SysCon.Sysmodule.IniReadings
import SysCon.Sysmodule.IniWritten
import SysCon.Sysmodule.AutoAdd
import SysCon.Sysmodule.PluggedHandlers
import SysCon.Library.Samples
import SysCon.ControllerLib.Normalization
import SysCon.ControllerLib.Sticks
import SysCon.ControllerSwitch.StickPipeline
import SysCon.ControllerSwitch.SwitchUSBEndpoint
import SysCon.ControllerSwitch.EndpointReads
import SysCon.Library.Polling
import SysCon.ControllerLib.Scheduling
import SysCon.ControllerLib.PollingLoops
import SysCon.ControllerLib.Replies
import SysCon.ControllerLib.Isolation
import SysCon.ControllerLib.XboxOneHistory
import SysCon.ControllerLib.AdapterPorts
import SysCon.Library.EraseLoop
import SysCon.Sysmodule.RemovalLoop
import SysCon.ControllerLib.UnboundControls
import SysCon.ControllerLib.BitExtraction
import SysCon.ControllerLib.StickCalibration
import SysCon.Sysmodule.StoredDeadzones
import SysCon.Sysmodule.Colours
import SysCon.Sysmodule.VidPids
import SysCon.Sysmodule.IniTexts
import SysCon.Sysmodule.IniDocuments
import SysCon.Sysmodule.IniNormalForm
import SysCon.Sysmodule.HandlerMemory
import SysCon.Sysmodule.Shutdown
import SysCon.Sysmodule.ShutdownRuns
import SysCon.Sysmodule.Ownership
import SysCon.Sysmodule.GlobalConfig
import SysCon.Sysmodule.UsbEvents
import SysCon.Sysmodule.Discovery
import SysCon.ControllerLib.InitBytes
import SysCon.ControllerSwitch.ShownState
import SysCon.ControllerSwitch.MitmShown
import SysCon.ControllerLib.UsbCalls
import SysCon.ControllerLib.DriverLife
import SysCon.ControllerSwitch.TransferBuffers
import SysCon.Sysmodule.ConfiguredState
import SysCon.Sysmodule.Hotplug
import SysCon.Sysmodule.GrowingFile
