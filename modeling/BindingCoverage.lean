import BindingCoverage.Info.Cluster
import BindingCoverage.Main
import BindingCoverage.Proofs.CommandLine.Agreement
import BindingCoverage.Proofs.CommandLine.ExitStatus
import BindingCoverage.Proofs.Declaration.Checked
import BindingCoverage.Proofs.Declaration.Origin
import BindingCoverage.Proofs.Dump.CutShort
import BindingCoverage.Proofs.Dump.Written
import BindingCoverage.Proofs.Verification.Custody
import BindingCoverage.Proofs.Verification.Registration
import BindingCoverage.Proofs.Coverage.Clients
import BindingCoverage.Proofs.Xml.Nesting
import BindingCoverage.Proofs.Dump.Progress
import BindingCoverage.Proofs.Dump.Bookkeeping
import BindingCoverage.Proofs.Dump.Defect
import BindingCoverage.Proofs.Dump.Unread
import BindingCoverage.Proofs.Dump.Place
import BindingCoverage.Proofs.Dump.Numbering
import BindingCoverage.Proofs.Dump.Insertion
import BindingCoverage.Proofs.Dump.Failure
import BindingCoverage.Proofs.CommandLine.JsonOutput
import BindingCoverage.Proofs.SymbolList
import BindingCoverage.Proofs.Settings.Layers
import BindingCoverage.Proofs.Info.Query
import BindingCoverage.Proofs.Host.Machine
import BindingCoverage.Proofs.Host.Regex
import BindingCoverage.Proofs.Host.Shell.Pattern
import BindingCoverage.Proofs.Host.Shell.Variables
import BindingCoverage.Proofs.Host.Utility
import BindingCoverage.Proofs.Extractor.Process
