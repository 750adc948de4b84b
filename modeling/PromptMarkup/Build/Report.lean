import PromptMarkup.Validation.Field

/-!
# Build reports

What became of each source of a build.
-/

namespace PromptMarkup

/-- What became of one source: its artifact, or the text and the class of its failure with the chain of inclusions that
led to it. -/
structure DocumentResult where
  source : Path
  output : Option Path := none
  ok : Bool
  error : Option String := none
  errorClass : Option String := none
  chain : List Path := []
  deriving DecidableEq, Repr

/-- The results of a build. -/
structure BuildReport where
  results : List DocumentResult := []
  deriving DecidableEq, Repr

namespace BuildReport

def failures (r : BuildReport) : List DocumentResult := r.results.filter (!·.ok)

/-- How many sources were compiled. -/
def succeeded (r : BuildReport) : Nat := r.results.countP (·.ok)

/-- Zero when nothing failed. -/
def exitCode (r : BuildReport) : Nat := if r.failures.isEmpty then 0 else 1

end BuildReport

open Checked

def DocumentResult.ofValue : Value → Checked DocumentResult :=
  openModel "DocumentResult" fun es =>
    DocumentResult.mk <$> required es "source" path <*> optional es "output" none (nullable path)
      <*> required es "ok" boolean <*> optional es "error" none (nullable string)
      <*> optional es "error_type" none (nullable string)
      <*> optional es "include_chain" [] (list path)

def BuildReport.ofValue : Value → Checked BuildReport :=
  openModel "BuildReport" fun es =>
    BuildReport.mk <$> optional es "results" [] (list DocumentResult.ofValue)

end PromptMarkup
