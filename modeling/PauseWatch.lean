import PauseWatch.Main
import PauseWatch.Proofs.Check.Coordinates
import PauseWatch.Proofs.Check.Independence
import PauseWatch.Proofs.CommandLine.Branches
import PauseWatch.Proofs.Config.Validation
import PauseWatch.Proofs.Display.Truncation
import PauseWatch.Proofs.Host.Salvage
import PauseWatch.Proofs.Json.Formats
import PauseWatch.Proofs.Jvm.Division
import PauseWatch.Proofs.Jvm.Evidence
import PauseWatch.Proofs.Jvm.LogSelection
import PauseWatch.Proofs.Jvm.Starting
import PauseWatch.Proofs.Launch.Building
import PauseWatch.Proofs.Launch.Quoting
import PauseWatch.Proofs.Pattern.Matching
import PauseWatch.Proofs.Run.Supervision
import PauseWatch.Proofs.Session.BuiltIn
import PauseWatch.Proofs.Session.Lifecycle
import PauseWatch.Proofs.Session.Satisfiability
import PauseWatch.Proofs.Shell.Launching
import PauseWatch.Proofs.Tool.Sorting
