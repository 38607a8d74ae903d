import ParaEgox.JournalHead
import ParaEgox.JournalInput
import ParaEgox.JournalBuild
import ParaEgox.JournalTerminal
import ParaEgox.JournalRestart
import ParaEgox.JournalRestartable
import ParaEgox.ApplyCore
import ParaEgox.Reassembly
import ParaEgox.JournalAction
import ParaEgox.Service
import ParaEgox.ApplyState
import ParaEgox.ApplyRuns
import ParaEgox.Checked
import ParaEgox.Indexed
import ParaEgox.Mailbox
import ParaEgox.MailboxInv
import ParaEgox.MailboxStep
import ParaEgox.MailboxRuns
import ParaEgox.Dispatcher
import ParaEgox.DispatchInv
import ParaEgox.DispatchPass
import ParaEgox.DispatchRuns
import ParaEgox.Wire
import ParaEgox.JournalDecode
import ParaEgox.JournalCodec
import ParaEgox.JournalFrame
import ParaEgox.JournalMigration
import ParaEgox.ProcessFrame
import ParaEgox.WorkerFrame
import ParaEgox.ProcessCodec
import ParaEgox.WorkerCodec
import ParaEgox.Assoc
import ParaEgox.ProcessSession
import ParaEgox.ProcessAdvance
import ParaEgox.ProcessDialogue
import ParaEgox.TenureProof
import ParaEgox.TenureProtocol
import ParaEgox.TenureCodec
import ParaEgox.Disk
import ParaEgox.Fields
import ParaEgox.TenureModel
import ParaEgox.TenureSnapshot
import ParaEgox.TenureFrame
import ParaEgox.TenureStore
import ParaEgox.TenureAuthority
import ParaEgox.TenureDurable
import ParaEgox.TenureRuns
import ParaEgox.Names
import ParaEgox.RuntimeStore
import ParaEgox.RuntimeDurable
import ParaEgox.RuntimeRuns
import ParaEgox.Planner
import ParaEgox.PlanContent
import ParaEgox.Recovery
import ParaEgox.RecoveryStep
import ParaEgox.RecoveryRuns
import ParaEgox.PortBinding
import ParaEgox.PortBindingRuns
import ParaEgox.Admission
import ParaEgox.AdmissionRuns
import ParaEgox.Deck
import ParaEgox.DeckOrder
import ParaEgox.DeckClosure
import ParaEgox.DeckLock
import ParaEgox.Planning
import ParaEgox.PlanningRuns
import ParaEgox.ServiceManager
import ParaEgox.ServiceManagerStep
import ParaEgox.ServiceManagerRuns
import ParaEgox.ThreadDomain
import ParaEgox.ThreadDomainSlots
import ParaEgox.ThreadDomainRuns
import ParaEgox.DispatchRounds
import ParaEgox.ProcessRejection
import ParaEgox.ApplyEnvelope
import ParaEgox.ApplyEnvelopeCodec
import ParaEgox.Frames
import ParaEgox.TargetAssignments
import ParaEgox.TargetAssignmentsCodec
import ParaEgox.TargetExecution
import ParaEgox.TargetExecutionCodec
import ParaEgox.PlanRequest
import ParaEgox.PlanRequestCodec
import ParaEgox.PermitLedgers
import ParaEgox.DispatchSelect
import ParaEgox.DispatchBursts
import ParaEgox.DispatchShares
import ParaEgox.Liveness
import ParaEgox.LivenessRuns
import ParaEgox.RecoveryBudget
import ParaEgox.Digraphs
import ParaEgox.ServiceStartup
import ParaEgox.ServiceCycle
import ParaEgox.ServiceOrder
import ParaEgox.DigraphVisits
import ParaEgox.DeckCycle
import ParaEgox.DeckComponents
import ParaEgox.MailboxExpiry
import ParaEgox.MailboxOverflow
import ParaEgox.MailboxShape
import ParaEgox.MailboxHead
import ParaEgox.Cursors
import ParaEgox.PlanPersistence
import ParaEgox.Codes
import ParaEgox.DigestFraming
import ParaEgox.Delimited
import ParaEgox.ProcessStream
import ParaEgox.Ownership
import ParaEgox.ExecutorBudget
import ParaEgox.ThreadRegistry
import ParaEgox.ThreadRegistryRuns
import ParaEgox.TenureExact
import ParaEgox.TaggedFrame
import ParaEgox.TerminalReceipt
import ParaEgox.TerminalReceiptCodec
import ParaEgox.TerminalSigning
import ParaEgox.ControlStart
import ParaEgox.CallContract
import ParaEgox.ReassemblyContract
import ParaEgox.ServiceRuns
import ParaEgox.ServiceAdmission
import ParaEgox.ApplyContract
