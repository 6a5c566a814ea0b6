import IntelWifi.Lib.Loop
import IntelWifi.Lib.Bytes
import IntelWifi.Porting.Bitfield
import IntelWifi.Porting.StatusWord
import IntelWifi.Fw.File
import IntelWifi.Fw.Capabilities
import IntelWifi.Fw.Pieces
import IntelWifi.Fw.TlvParser
import IntelWifi.Fw.TlvSafety
import IntelWifi.Lib.Slots
import IntelWifi.Fw.Sections
import IntelWifi.Pcie.RxFrames
import IntelWifi.Pcie.FrameLayout
import IntelWifi.Lib.Circular
import IntelWifi.Lib.Memory
import IntelWifi.Pcie.Types
import IntelWifi.Pcie.Queue
import IntelWifi.Pcie.Tfd
import IntelWifi.Pcie.Enqueue
import IntelWifi.Pcie.TfdWire
import IntelWifi.Pcie.Complete
import IntelWifi.Pcie.RingInvariant
import IntelWifi.Pcie.Response
import IntelWifi.Lib.Machine
import IntelWifi.Pcie.HcmdSync
import IntelWifi.Pcie.LostWakeup
import IntelWifi.Pcie.InterruptMask
import IntelWifi.Pcie.IctTable
import IntelWifi.Pcie.DeadCommand
import IntelWifi.Pcie.SyncSuccess
import IntelWifi.Lib.Tally
import IntelWifi.Lib.Tiling
import IntelWifi.Pcie.RxBuffers
import IntelWifi.Pcie.RxConservation
import IntelWifi.Pcie.RxMultiQueue
import IntelWifi.Pcie.RxPages
import IntelWifi.Dvm.Stations
import IntelWifi.Dvm.Rxon
import IntelWifi.Dvm.StationCount
import IntelWifi.Dvm.StationIdentity
import IntelWifi.Dvm.DynamicKeys
import IntelWifi.Lib.Checked
import IntelWifi.Nvm.Eeprom
import IntelWifi.Nvm.EepromBounds
import IntelWifi.Nvm.ReadEeprom
import IntelWifi.Phy.PhyDb
import IntelWifi.Phy.PhyDbPayloads
import IntelWifi.Fw.NotifWait
import IntelWifi.Fw.Allocations
import IntelWifi.Fw.Callback
import IntelWifi.Fw.FirmwareRequest
import IntelWifi.Fw.TlvMeaning
import IntelWifi.Fw.TlvFormat
import IntelWifi.Lib.Folds
import IntelWifi.Fw.TlvLaws
import IntelWifi.Fw.TlvRoundTrip
import IntelWifi.Lib.Ledger
import IntelWifi.Lib.Linearization
import IntelWifi.Lib.Locks
import IntelWifi.Pcie.DmaLedger
import IntelWifi.Pcie.DmaOwnership
import IntelWifi.Pcie.CopyBounds
import IntelWifi.Pcie.NicHold
import IntelWifi.Dvm.ThermalThrottle
import IntelWifi.Lib.Heap
import IntelWifi.Pcie.TxAlloc
import IntelWifi.Pcie.TransLocks
import IntelWifi.Lib.Shadow
import IntelWifi.Dvm.StationTable
import IntelWifi.Dvm.Scan
import IntelWifi.Dvm.ScanAttribution
import IntelWifi.Pcie.TfdPositions
import IntelWifi.Pcie.EnqueueFailure
import IntelWifi.Fw.SectionReads
import IntelWifi.Fw.DebugCopies
import IntelWifi.Fw.FirmwareBlocks
import IntelWifi.Dvm.HandlerReads
import IntelWifi.Pcie.LoadSection
import IntelWifi.Pcie.CpuSections
import IntelWifi.Dvm.StationRetry
import IntelWifi.Dvm.RxWaits
import IntelWifi.Dvm.StationRemoval
import IntelWifi.Dvm.ThermalTransitions
import IntelWifi.Nvm.TxPower
import IntelWifi.Nvm.ChannelMap
import IntelWifi.Fw.WaitRemoval
import IntelWifi.Phy.PhyDbMemory
import IntelWifi.Phy.ChannelGroups
import IntelWifi.Lib.BinarySearch
import IntelWifi.Pcie.CommandNames
import IntelWifi.Dvm.ScanCommand
import IntelWifi.Dvm.ScanLayout
import IntelWifi.Dvm.ScanFits
import IntelWifi.Dvm.DwellLimit
import IntelWifi.Nvm.OtpImage
import IntelWifi.Nvm.EepromSuccess
import IntelWifi.Dvm.BeaconTiming
import IntelWifi.Dvm.PanParams
import IntelWifi.Dvm.StagedImage
import IntelWifi.Dvm.PowerCommit
import IntelWifi.Dvm.PowerCalls
import IntelWifi.Dvm.PowerNesting
import IntelWifi.Dvm.PowerRequests
import IntelWifi.Dvm.TxPowerLimit
import IntelWifi.Dvm.TxPowerReplay
import IntelWifi.Dvm.TxPowerRequests
import IntelWifi.Lib.TailQueue
import IntelWifi.Dvm.CalibResults
import IntelWifi.Dvm.Sensitivity
import IntelWifi.Dvm.RadioReset
import IntelWifi.Dvm.Temperature
import IntelWifi.Dvm.BeaconTime
import IntelWifi.Dvm.Interfaces
import IntelWifi.Lib.Retry
import IntelWifi.Pcie.RxAllocator
import IntelWifi.Pcie.DebugLevel
import IntelWifi.Lib.Triples
import IntelWifi.Lib.GuardedSearch
import IntelWifi.Mvm.StartUp
import IntelWifi.Mvm.D0i3Exit
import IntelWifi.Lib.Spans
import IntelWifi.NvmParse.Channels
import IntelWifi.NvmParse.Regdomain
import IntelWifi.Lib.Framing
import IntelWifi.NvmParse.ExternalNvm
import IntelWifi.Lib.Enumeration
import IntelWifi.Porting.FindNextBit
import IntelWifi.Dvm.AckRates
import IntelWifi.Dvm.RxonImage
import IntelWifi.Lib.Doorbell
import IntelWifi.Pcie.RxDoorbell
import IntelWifi.Pcie.RfKill
import IntelWifi.Pcie.Scheduler
import IntelWifi.Dvm.WepKeys
import IntelWifi.Lib.Unwinding
import IntelWifi.Dvm.BringUp
import IntelWifi.Lib.AddressSpace
import IntelWifi.Pcie.ImageLoad
