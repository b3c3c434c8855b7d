import OverflowScan.Main
import OverflowScan.Session
import OverflowScan.Proofs.Pass.Trigger
import OverflowScan.Proofs.Pass.UnsafeCalls
import OverflowScan.Proofs.Pass.LoopAgreement
import OverflowScan.Proofs.Pass.Appending
import OverflowScan.Proofs.Pass.LineEndings
import OverflowScan.Proofs.Pass.Order
import OverflowScan.Proofs.Pass.LoopScanner
import OverflowScan.Proofs.Pass.FunctionScanner
import OverflowScan.Proofs.Session.Counts
import OverflowScan.Proofs.Session.Failures
import OverflowScan.Proofs.CommandLine.Counts
import OverflowScan.Proofs.CommandLine.AnyOrder
import OverflowScan.Proofs.CommandLine.Stdout
import OverflowScan.Proofs.CommandLine.LoneArgument
import OverflowScan.Proofs.CommandLine.ReportFile
import OverflowScan.Proofs.CommandLine.Verbosity
import OverflowScan.Proofs.Log
import OverflowScan.Proofs.Loggers
import OverflowScan.Proofs.Report
import OverflowScan.Proofs.Document
import OverflowScan.Proofs.Json.Grammar
import OverflowScan.Proofs.Json.Reader
import OverflowScan.Proofs.Json.Writer
import OverflowScan.Proofs.Files.Store
import OverflowScan.Proofs.Json.Lossless
import OverflowScan.Proofs.Text.ByteLines
import OverflowScan.Proofs.Yaml.Lossless
import OverflowScan.Proofs.Pass.ClosedPieces
import OverflowScan.Proofs.Pass.LastBracket
import OverflowScan.Proofs.Pass.Window
import OverflowScan.Proofs.Pass.FunctionBody
