import FirmwareGlue.Main
import FirmwareGlue.Text.Utf8
import FirmwareGlue.Proofs.Glue.Rendering
import FirmwareGlue.Proofs.Workspace.Insertion
import FirmwareGlue.Proofs.Workspace.Demand
import FirmwareGlue.Proofs.Workspace.Record
import FirmwareGlue.Proofs.Workspace.Section
import FirmwareGlue.Proofs.Workspace.Description
import FirmwareGlue.Proofs.Markup.Stream
import FirmwareGlue.Proofs.Workspace.Truncation
import FirmwareGlue.Proofs.Generation.Failure
import FirmwareGlue.Proofs.Storage.Access
import FirmwareGlue.Proofs.Generation.Interference
import FirmwareGlue.Proofs.Generation.Layout
import FirmwareGlue.Proofs.Generation.Approach
import FirmwareGlue.Proofs.Generation.Isolation
import FirmwareGlue.Proofs.Generation.Success
import FirmwareGlue.Proofs.Generation.Pool
import FirmwareGlue.Proofs.Generation.Interleaving
import FirmwareGlue.Proofs.Storage.Replacement
import FirmwareGlue.Proofs.Glue.Scope
import FirmwareGlue.Proofs.Glue.Narrowing
import FirmwareGlue.Proofs.Generation.Settling
import FirmwareGlue.Proofs.Glue.Repetition
import FirmwareGlue.Proofs.Glue.Linkage
import FirmwareGlue.Proofs.Glue.EntryExecution
import FirmwareGlue.Proofs.Glue.UnloadExecution
import FirmwareGlue.Proofs.Glue.PeimExecution
import FirmwareGlue.Proofs.Glue.Counts
import FirmwareGlue.Proofs.Library.Stability
import FirmwareGlue.Proofs.Capability.FirstSymbols
import FirmwareGlue.Proofs.Glue.Globals
import FirmwareGlue.Proofs.Capability.GuidClash
import FirmwareGlue.Proofs.Glue.Includes
import FirmwareGlue.Proofs.Glue.DriverTable
import FirmwareGlue.Proofs.Guid.Spelling
import FirmwareGlue.Proofs.Glue.EventTables
import FirmwareGlue.Proofs.Glue.EntryWriting
import FirmwareGlue.Proofs.Library.Ending
import FirmwareGlue.Proofs.Library.Safety
