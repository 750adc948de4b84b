import PromptMarkup.Document.Basic
import PromptMarkup.Validation.Field

/-!
# Documents given as values

A document, or one of its sections, may be given as a mapping with the fields of its parts.  A section says its kind in
the field `kind`.
-/

namespace PromptMarkup

open Checked

def CodeBlock.ofValue : Value → Checked CodeBlock :=
  model "CodeBlock" ["language", "content"] fun es =>
    CodeBlock.mk <$> optional es "language" "" string <*> required es "content" string

def Note.ofValue : Value → Checked Note :=
  model "Note" ["term", "description"] fun es =>
    Note.mk <$> required es "term" string <*> required es "description" string

def Choice.ofValue : Value → Checked Choice :=
  model "Option" ["text", "description"] fun es =>
    Choice.mk <$> required es "text" string <*> optional es "description" "" string

def Step.ofValue : Value → Checked Step :=
  model "Step" ["number", "title", "description", "code"] fun es =>
    Step.mk <$> required es "number" integer <*> required es "title" string
      <*> optional es "description" "" string
      <*> optional es "code" none (nullable CodeBlock.ofValue)

def Restrictions.ofValue : Value → Checked Restrictions :=
  model "Restrictions" ["description", "items"] fun es =>
    Restrictions.mk <$> optional es "description" "" string
      <*> optional es "items" [] (tuple string)

def Rule.ofValue : Value → Checked Rule :=
  model "RuleSection" ["kind", "number", "title", "subtitle", "description", "notes",
      "good_example", "bad_example"] fun es =>
    Rule.mk <$> required es "number" integer <*> required es "title" string
      <*> required es "subtitle" string <*> required es "description" string
      <*> optional es "notes" [] (tuple Note.ofValue)
      <*> optional es "good_example" none (nullable CodeBlock.ofValue)
      <*> optional es "bad_example" none (nullable CodeBlock.ofValue)

def Template.ofValue : Value → Checked Template :=
  model "TemplateSection" ["kind", "title", "description", "body"] fun es =>
    Template.mk <$> required es "title" string <*> required es "description" string
      <*> required es "body" CodeBlock.ofValue

def Questions.ofValue : Value → Checked Questions :=
  model "QuestionSection" ["kind", "title", "subtitle", "description", "options"] fun es =>
    Questions.mk <$> required es "title" string <*> optional es "subtitle" "" string
      <*> optional es "description" "" string
      <*> optional es "options" [] (tuple Choice.ofValue)

def Workflow.ofValue : Value → Checked Workflow :=
  model "WorkflowSection" ["kind", "title", "subtitle", "description", "steps"] fun es =>
    Workflow.mk <$> required es "title" string <*> optional es "subtitle" "" string
      <*> optional es "description" "" string
      <*> optional es "steps" [] (tuple Step.ofValue)

def Guidance.ofValue (name : String) : Value → Checked Guidance :=
  model name ["kind", "title", "description", "restrictions", "rules"] fun es =>
    Guidance.mk <$> required es "title" string <*> optional es "description" "" string
      <*> optional es "restrictions" none (nullable Restrictions.ofValue)
      <*> optional es "rules" [] (tuple string)

namespace Section

/-- The kinds of sections. -/
def kinds : List String :=
  ["rule", "template", "questions", "workflow", "instructions", "output-requirements"]

/-- A section of a known kind. -/
def ofKind? (kind : String) (v : Value) : Option (Checked Section) :=
  match kind with
  | "rule" => some (.rule <$> Rule.ofValue v)
  | "template" => some (.template <$> Template.ofValue v)
  | "questions" => some (.questions <$> Questions.ofValue v)
  | "workflow" => some (.workflow <$> Workflow.ofValue v)
  | "instructions" => some (.instructions <$> Guidance.ofValue "InstructionSection" v)
  | "output-requirements" =>
    some (.outputRequirements <$> Guidance.ofValue "OutputRequirementsSection" v)
  | _ => none

/-- A section whose kind is given in its field `kind`. -/
def ofValue (v : Value) : Checked Section :=
  match v.opened with
  | .map es =>
    match Value.lookup (.str "kind") es with
    | none => complain (.noTag "kind") v
    | some k =>
      match k with
      | .str kind =>
        match ofKind? kind v with
        | some c => within (.key kind) c
        | none => complain (.unknownTag kind "kind" kinds) v
      | k => complain (.unknownTag k.text "kind" kinds) v
  | _ => complain .notObject v

end Section

def Metadata.ofValue : Value → Checked Metadata :=
  model "Metadata" ["description", "globs", "always_apply"] fun es =>
    Metadata.mk <$> optional es "description" "" string <*> optional es "globs" "" string
      <*> optional es "always_apply" "" string

def TableOfContents.ofValue : Value → Checked TableOfContents :=
  model "TableOfContents" ["auto", "entries"] fun es =>
    TableOfContents.mk <$> optional es "auto" false boolean
      <*> optional es "entries" [] (tuple string)

namespace Document

/-- Rule numbers must differ. -/
def checkNumbers (v : Value) (d : Document) : Checked Document :=
  match d.repeatedNumber? with
  | none => .valid d
  | some n => complain (.refused ("Duplicate rule number: " ++ toString n)) v

def ofValue (v : Value) : Checked Document :=
  andThen
    (model "PromptDocument" ["metadata", "title", "role", "description", "toc", "sections"]
      (fun es =>
        Document.mk <$> required es "metadata" Metadata.ofValue <*> required es "title" string
          <*> optional es "role" "" string <*> optional es "description" "" string
          <*> optional es "toc" none (nullable TableOfContents.ofValue)
          <*> optional es "sections" [] (tuple Section.ofValue)) v)
    (checkNumbers v)

end Document

end PromptMarkup
