import RegisterMap.Cell.Types
import RegisterMap.Main
import RegisterMap.Session
import RegisterMap.Proofs.Layout.Accessors
import RegisterMap.Proofs.Layout.Blocks
import RegisterMap.Proofs.Layout.Declared
import RegisterMap.Proofs.Markup.Forest
import RegisterMap.Proofs.Markup.Reference
import RegisterMap.Proofs.Markup.Written
import RegisterMap.Proofs.Device.Written
import RegisterMap.Proofs.Device.Load
import RegisterMap.Proofs.Code.Decode
import RegisterMap.Proofs.Code.Read
import RegisterMap.Proofs.Markup.Local
import RegisterMap.Proofs.Record.Faults
import RegisterMap.Proofs.Device.Contents
import RegisterMap.Proofs.Record.Alone
import RegisterMap.Proofs.Device.Bitfields
import RegisterMap.Proofs.Code.Template
import RegisterMap.Proofs.Code.Prose
import RegisterMap.Proofs.Code.Append
import RegisterMap.Proofs.Files.Write
import RegisterMap.Proofs.Command.Arguments
import RegisterMap.Proofs.Command.Changes
import RegisterMap.Proofs.Command.Regenerate
import RegisterMap.Proofs.Markup.Runs
import RegisterMap.Proofs.Record.Collect
import RegisterMap.Proofs.Record.Rearranged
import RegisterMap.Proofs.Device.Rearranged
import RegisterMap.Proofs.Cell.Runs
import RegisterMap.Proofs.Device.Around
import RegisterMap.Proofs.Text.LetterTable
import RegisterMap.Proofs.Text.Letters
import RegisterMap.Proofs.Layout.Identifiers
import RegisterMap.Proofs.Text.Returns
import RegisterMap.Proofs.Markup.Returns
import RegisterMap.Proofs.Device.Returns
import RegisterMap.Proofs.Prose.Tables
import RegisterMap.Proofs.Prose.Lines
import RegisterMap.Proofs.Command.Check
import RegisterMap.Proofs.Device.Children
import RegisterMap.Proofs.Layout.Reset
import RegisterMap.Proofs.Layout.Words
import RegisterMap.Proofs.Command.Printed
import RegisterMap.Proofs.Command.Interrupted
import RegisterMap.Proofs.Markup.Nodes
