import RiscvCore.PmpLocks
import RiscvCore.PrivilegeLevels
import RiscvCore.MarkerDrain
import RiscvCore.AccessPermission
import RiscvCore.CsrAtomic
import RiscvCore.CsrValues
import RiscvCore.WrongPath
import RiscvCore.StaleRegisters
import RiscvCore.SplitFlush
import RiscvCore.DataResponses
import RiscvCore.DataRequests
import RiscvCore.ArithmeticInstructions
import RiscvCore.PcParity
import RiscvCore.ArithmeticUnits
import RiscvCore.InstructionUnits
import RiscvCore.WriteProgress
import RiscvCore.InOrderData
import RiscvCore.OperandHistory
import RiscvCore.OperandForwarding
import RiscvCore.WriterFlow
import RiscvCore.WriterTags
import RiscvCore.InOrderHistory
import RiscvCore.FetchRedirect
import RiscvCore.FifoQueue
import RiscvCore.PrivilegeGate
import RiscvCore.TrapSteps
import RiscvCore.SystemInstructions
import RiscvCore.PmpPriority
import RiscvCore.PmpRegions
import RiscvCore.UserIsolation
import RiscvCore.TrapFlush
import RiscvCore.ByteMemory
import RiscvCore.DataTransfers
import RiscvCore.Division
import RiscvCore.LoadValues
import RiscvCore.StoredBytes
import RiscvCore.DeniedFetch
import RiscvCore.InterruptNesting
import RiscvCore.RetireTrace
import RiscvCore.BitLists
import RiscvCore.BranchPredict
import RiscvCore.ControlTransfer
import RiscvCore.FetchAlignment
import RiscvCore.PredictedTargets
import RiscvCore.AccessTracking
import RiscvCore.CsrFraming
import RiscvCore.CsrReadBack
import RiscvCore.FaultCauses
import RiscvCore.Btb
import RiscvCore.BtbLookups
import RiscvCore.FifoRefinement
import RiscvCore.TrapDrain
import RiscvCore.TrapEntry
import RiscvCore.MretReturn
import RiscvCore.SequentialFetch
import RiscvCore.WfiWakeup
import RiscvCore.RedirectMarks
import RiscvCore.UndisturbedRuns
import RiscvCore.FenceOrder
import RiscvCore.AttachedMarkers
import RiscvCore.InterruptEntry
import RiscvCore.IsaMachine
import RiscvCore.ProgramFetch
import RiscvCore.DividerRuns
import RiscvCore.ExecutedInstructions
import RiscvCore.IssueRanks
import RiscvCore.StageContents
import RiscvCore.ProgramRefinement
import RiscvCore.DataMachine
import RiscvCore.MemoryRefinement
import RiscvCore.PreciseTraps
import RiscvCore.FinishedInstructions
import RiscvCore.HandlerEntry
import RiscvCore.SaturatingCounter
import RiscvCore.Bht
import RiscvCore.Predictor
import RiscvCore.PredictorRuns
import RiscvCore.ResponsiveBus
import RiscvCore.FetchProgress
import RiscvCore.PipelineProgress
