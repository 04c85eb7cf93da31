import Ch58xHal.Machines
import Ch58xHal.Agenda
import Ch58xHal.StopAndWait
import Ch58xHal.InFlightQueue
import Ch58xHal.LittleEndian
import Ch58xHal.LengthTypeValue
import Ch58xHal.DataHeader
import Ch58xHal.SequencedLink
import Ch58xHal.EventTx
import Ch58xHal.EventTxFifo
import Ch58xHal.PortableArq
import Ch58xHal.ControlPdu
import Ch58xHal.OctetFields
import Ch58xHal.ParameterCodec
import Ch58xHal.Advertising
import Ch58xHal.ChannelSelection
import Ch58xHal.SlotQueue
import Ch58xHal.Llcp
import Ch58xHal.LlcpSteps
import Ch58xHal.LlcpEvidence
import Ch58xHal.LlcpDeadline
import Ch58xHal.Connection
import Ch58xHal.ConnectionEvent
import Ch58xHal.ConnectionRun
import Ch58xHal.InstantOwners
import Ch58xHal.ControlHandlers
import Ch58xHal.DataPlane
import Ch58xHal.AclQueue
import Ch58xHal.ConnectIndCodec
import Ch58xHal.HostCommands
import Ch58xHal.ControllerRun
import Ch58xHal.StepMarks
import Ch58xHal.OwnershipSteps
import Ch58xHal.OwnershipRun
import Ch58xHal.UpdateAnswers
import Ch58xHal.Termination
import Ch58xHal.ControlSlots
import Ch58xHal.ControlBookkeeping
import Ch58xHal.PunctualInstants
import Ch58xHal.Lockstep
import Ch58xHal.ReceiveWindow
import Ch58xHal.FeedbackRegister
import Ch58xHal.Crc24
import Ch58xHal.Whitening
import Ch58xHal.AccessAddress
import Ch58xHal.SelectorTables
import Ch58xHal.TimingArithmetic
import Ch58xHal.EventTxCalls
import Ch58xHal.EventTxSlots
import Ch58xHal.Routines
import Ch58xHal.LlcpWrites
import Ch58xHal.AdvertisingStructures
import Ch58xHal.EventScheduling
import Ch58xHal.ControlLabels
import Ch58xHal.ArqPeers
import Ch58xHal.BackendArq
import Ch58xHal.WindowWidening
import Ch58xHal.BitFields
import Ch58xHal.EventTrace
import Ch58xHal.CheckedArithmetic
import Ch58xHal.RfCalibration
import Ch58xHal.BaudSelection
import Ch58xHal.RtcCounter
import Ch58xHal.UartReceive
import Ch58xHal.Triples
import Ch58xHal.FlashController
import Ch58xHal.NorMemory
import Ch58xHal.DataFlash
import Ch58xHal.OrderedEvidence
import Ch58xHal.DeviceRegisters
import Ch58xHal.TurnLoops
import Ch58xHal.RadioChip
import Ch58xHal.RadioOperations
import Ch58xHal.RadioSafety
import Ch58xHal.RadioExchange
import Ch58xHal.RadioAdvertising
import Ch58xHal.RadioSingles
import Ch58xHal.RfFrontEnd
import Ch58xHal.RadioRun
import Ch58xHal.SerialNor
import Ch58xHal.FlashStore
import Ch58xHal.HostSession
import Ch58xHal.HostTransport
import Ch58xHal.Polling
import Ch58xHal.UartTransmit
import Ch58xHal.ConnectionAir
import Ch58xHal.ControllerAir
