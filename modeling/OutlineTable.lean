import OutlineTable.Main
import OutlineTable.Proofs.Column.Normalize
import OutlineTable.Proofs.Column.Overlong
import OutlineTable.Proofs.Column.Preference
import OutlineTable.Proofs.Column.Settling
import OutlineTable.Proofs.Command.Explicit
import OutlineTable.Proofs.Command.Runs
import OutlineTable.Proofs.Display.Cutting
import OutlineTable.Proofs.Display.Memoized
import OutlineTable.Proofs.Display.Seams
import OutlineTable.Proofs.Heading.Grammar
import OutlineTable.Proofs.Heading.Rereading
import OutlineTable.Proofs.Table.AlignedTable
import OutlineTable.Proofs.Table.Alignment
import OutlineTable.Proofs.Table.LinedUp
import OutlineTable.Proofs.Table.Rendering
import OutlineTable.Proofs.Table.Rows
