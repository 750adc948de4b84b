import PromptMarkup.Document.OfValue
import PromptMarkup.Main
import PromptMarkup.Proofs.Inclusion.Characters
import PromptMarkup.Proofs.Inclusion.Cycles
import PromptMarkup.Proofs.Inclusion.Remaining
import PromptMarkup.Proofs.Inclusion.Texts
import PromptMarkup.Proofs.Splitting
import PromptMarkup.Proofs.Text.Runs
import PromptMarkup.Proofs.Document.Places
import PromptMarkup.Proofs.Markdown.Artifact
import PromptMarkup.Proofs.Taxonomy
import PromptMarkup.Proofs.Document.Edits
import PromptMarkup.Proofs.Document.Presentation
import PromptMarkup.Proofs.Files.Changes
import PromptMarkup.Proofs.Files.Storing
import PromptMarkup.Proofs.Inclusion.Lookups
import PromptMarkup.Proofs.Inclusion.Opaque
import PromptMarkup.Proofs.Files.Paths
import PromptMarkup.Proofs.Build.Artifacts
import PromptMarkup.Proofs.Build.Sources
import PromptMarkup.Proofs.Build.Schedule
import PromptMarkup.Proofs.Files.Making
import PromptMarkup.Proofs.Build.Isolation
import PromptMarkup.Proofs.Build.Inputs
import PromptMarkup.Proofs.Build.Names
import PromptMarkup.Proofs.Build.Order
import PromptMarkup.Proofs.Build.Outputs
import PromptMarkup.Proofs.Build.Writing
import PromptMarkup.Proofs.Value.Keys
import PromptMarkup.Proofs.Value.Merging
import PromptMarkup.Proofs.Value.Paths
import PromptMarkup.Proofs.Settings.Layers
import PromptMarkup.Proofs.Settings.Precedence
import PromptMarkup.Proofs.CommandLine.Modes
import PromptMarkup.Proofs.Markdown.Fences
import PromptMarkup.Proofs.Markdown.Separators
import PromptMarkup.Proofs.Markdown.Rules
import PromptMarkup.Proofs.Markdown.Contents
import PromptMarkup.Proofs.Markdown.Title
import PromptMarkup.Proofs.Inclusion.Machine
import PromptMarkup.Proofs.Inclusion.Meaning
import PromptMarkup.Proofs.Inclusion.Relocation
