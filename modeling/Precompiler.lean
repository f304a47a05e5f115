import Precompiler.Main
import Precompiler.Proofs.BatchPrefix
import Precompiler.Proofs.BatchRefinement
import Precompiler.Proofs.Rerun
import Precompiler.Proofs.SourcesKept
import Precompiler.Proofs.DryRuns
import Precompiler.Proofs.Collected
import Precompiler.Proofs.Modules
import Precompiler.Proofs.OutputNames
import Precompiler.Proofs.Charsets
import Precompiler.Proofs.SetUp
import Precompiler.Proofs.Precedence
import Precompiler.Proofs.RootedNames
import Precompiler.Proofs.Extensions
import Precompiler.Proofs.Returns
import Precompiler.Proofs.WrittenOutputs
import Precompiler.Proofs.SourceOrder
import Precompiler.Proofs.Layering
import Precompiler.Proofs.HookScripts
import Precompiler.Proofs.Answers
import Precompiler.Proofs.ListingOrder
import Precompiler.Proofs.KnownHelpers
import Precompiler.Proofs.NameParts
import Precompiler.Proofs.Acceptance
import Precompiler.Proofs.Words
