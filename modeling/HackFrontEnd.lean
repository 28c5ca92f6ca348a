import HackFrontEnd.Cursor.Session
import HackFrontEnd.File.Folder
import HackFrontEnd.Main
import HackFrontEnd.SymbolTable.Workspace
import HackFrontEnd.Proofs.Cursor.History
import HackFrontEnd.Proofs.Instruction.Grammar
import HackFrontEnd.Proofs.Source.Layout
import HackFrontEnd.Proofs.Source.Cleaning
import HackFrontEnd.Proofs.CommandLine.AllOrNothing
import HackFrontEnd.Proofs.Cursor.Reports
import HackFrontEnd.Proofs.Cursor.Pinpoints
import HackFrontEnd.Proofs.Source.LineEnds
import HackFrontEnd.Proofs.File.Loading
import HackFrontEnd.Proofs.Cursor.OneCursor
import HackFrontEnd.Proofs.SymbolTable.Additions
import HackFrontEnd.Proofs.SymbolTable.Replay
import HackFrontEnd.Proofs.Instruction.Agreement
import HackFrontEnd.Proofs.Listing.Rows
import HackFrontEnd.Proofs.CommandLine.Verbosity
import HackFrontEnd.Proofs.Json.Writing
import HackFrontEnd.Proofs.Json.Reader
import HackFrontEnd.Proofs.CommandLine.JsonOutput
import HackFrontEnd.Proofs.Instruction.Trailing
import HackFrontEnd.Proofs.Source.Composition
import HackFrontEnd.Proofs.Source.Idempotence
import HackFrontEnd.Proofs.SymbolTable.Items
import HackFrontEnd.Proofs.Cursor.LineWords
import HackFrontEnd.Proofs.SymbolTable.AuditTrail
import HackFrontEnd.Proofs.Settings.NormalForm
import HackFrontEnd.Proofs.SymbolTable.Suggestions
import HackFrontEnd.Proofs.Location.Unambiguity
