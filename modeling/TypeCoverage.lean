import TypeCoverage.Linter
import TypeCoverage.Main
import TypeCoverage.Proofs.Cache.Arrivals
import TypeCoverage.Proofs.CommandLine.Ending
import TypeCoverage.Proofs.Invocation.Superseded
import TypeCoverage.Proofs.Locator.Installed
import TypeCoverage.Proofs.Locator.Lookups
import TypeCoverage.Proofs.Locator.Naming
import TypeCoverage.Proofs.Package.Display
import TypeCoverage.Proofs.Package.Escaping
import TypeCoverage.Proofs.Package.Interleaving
import TypeCoverage.Proofs.Package.Lifetime
import TypeCoverage.Proofs.Package.Offering
import TypeCoverage.Proofs.Package.Overtaking
import TypeCoverage.Proofs.Package.Relinting
import TypeCoverage.Proofs.Report.AnySize
import TypeCoverage.Proofs.Request.GivenUp
import TypeCoverage.Proofs.Request.Streams
import TypeCoverage.Proofs.Servers.Background
import TypeCoverage.Proofs.Settings.Announcing
import TypeCoverage.Proofs.Settings.Contained
import TypeCoverage.Proofs.Settings.Dispatching
import TypeCoverage.Proofs.Settings.Registering
import TypeCoverage.Proofs.Settings.Replacing
import TypeCoverage.Proofs.Settings.Spelled
import TypeCoverage.Text.Lines
