import PromptMarkup.Inclusion.View

/-!
# Files at the top

A file with a plain name at the top of a file system is where its name leads (`resolve_top`), is a file there
(`hasFile_top`), and reads as what it holds (`read_top`, `holds_top`).  Whatever can be read as a document is among
the documents that the files hold (`mem_documents`).  A file that holds a text has the bytes of its string
(`encode_eq_bytes`), which evaluate without going through the string character by character.
-/

namespace PromptMarkup

namespace Encoding.Utf8

/-- A character has the bytes that it has in a string. -/
theorem encodeChar_eq (c : Char) : encodeChar c = String.utf8EncodeChar c := by
  have hc : c.toNat < 0x110000 := by
    obtain h | ⟨-, h⟩ := c.valid
    · exact Nat.lt_trans h (by decide)
    · exact h
  simp only [encodeChar, String.utf8EncodeChar, show c.val.toNat = c.toNat from rfl]
  -- One case for each number of bytes; what the string masks is small already.
  by_cases h₁ : c.toNat < 0x80
  · rw [if_pos h₁, if_pos (by omega : c.toNat ≤ 0x7f)]
  by_cases h₂ : c.toNat < 0x800
  · have h : c.toNat / 64 < 32 := by omega
    rw [if_neg h₁, if_pos h₂, if_neg (by omega : ¬ c.toNat ≤ 0x7f), if_pos (by omega : c.toNat ≤ 0x7ff),
      Nat.mod_eq_of_lt h, Nat.add_comm 0xC0, Nat.add_comm 0x80]
  by_cases h₃ : c.toNat < 0x10000
  · have h : c.toNat / 4096 < 16 := by omega
    rw [if_neg h₁, if_neg h₂, if_pos h₃, if_neg (by omega : ¬ c.toNat ≤ 0x7f), if_neg (by omega : ¬ c.toNat ≤ 0x7ff),
      if_pos (by omega : c.toNat ≤ 0xffff), Nat.mod_eq_of_lt h]
    simp only [Nat.add_comm]
  · have h : c.toNat / 262144 < 8 := by omega
    rw [if_neg h₁, if_neg h₂, if_neg h₃, if_neg (by omega : ¬ c.toNat ≤ 0x7f), if_neg (by omega : ¬ c.toNat ≤ 0x7ff),
      if_neg (by omega : ¬ c.toNat ≤ 0xffff), Nat.mod_eq_of_lt h]
    simp only [Nat.add_comm]

/-- The bytes of a text are those of its string. -/
theorem encode_eq_bytes (s : String) : encode s = s.toByteArray.data.toList := by
  rw [encode, funext encodeChar_eq, ← String.utf8Encode_toList, List.utf8Encode, List.data_toByteArray]

end Encoding.Utf8

namespace FileSystem

/-- A source leads to a file that holds a document. -/
structure Holds (fs : FileSystem) (source : Path) (l : Location) (e : Element) : Prop where
  resolve : fs.resolve source = .ok l
  hasFile : fs.hasFile l = .ok true
  document : fs.document l = .ok e

/-- A name that stands for itself in a path. -/
def Plain (n : String) : Prop :=
  n ≠ "" ∧ n ≠ "." ∧ n ≠ ".." ∧ Char.ofNat 0 ∉ n.toList ∧ n.utf8ByteSize ≤ maxNameSize

instance (n : String) : Decidable (Plain n) :=
  inferInstanceAs (Decidable (_ ∧ _ ∧ _ ∧ _ ∧ _))

variable {fs : FileSystem}

@[simp] theorem node?_nil : fs.node? [] = some .directory := rfl

theorem mem_of_node? {l : Location} {n : Node} (hl : l ≠ []) (h : fs.node? l = some n) : (l, n) ∈ fs.nodes := by
  rw [node?, if_neg hl] at h
  obtain ⟨e, he, hn⟩ := Option.map_eq_some_iff.1 h
  have hp : e.1 = l := by simpa using List.find?_some he
  rw [← hp, ← hn]
  exact List.mem_of_find?_eq_some he

/-- From the top the same names lead to the same place, with or without a leading slash. -/
theorem resolve_here (h : fs.current = []) (names : List String) :
    fs.resolve ⟨.here, names⟩ = fs.resolve (Path.absolute names) := by
  have hstart : fs.start ⟨.here, names⟩ = fs.start (Path.absolute names) := h
  rw [resolve, hstart]
  rfl

section

variable {n : String} {bs : List UInt8} (hn : Plain n) (h : fs.node? [n] = some (.file bs))
include hn h

theorem follow_top : fs.follow (Path.absolute [n]) = .ok (.found [n] (.file bs)) := by
  obtain ⟨h₁, h₂, h₃, -, h₄⟩ := hn
  have h₅ : ¬ maxNameSize < n.utf8ByteSize := Nat.not_lt.2 h₄
  simp [follow, start, Path.absolute, Path.isAbsolute, walk, h₁, h₂, h₃, h₅, h]

theorem resolve_top : fs.resolve (Path.absolute [n]) = .ok [n] := by
  obtain ⟨h₁, h₂, h₃, h₄, -⟩ := hn
  simp [resolve, hasNull, start, Path.absolute, Path.isAbsolute, resolveFrom, h₁, h₂, h₃, h₄, h]

theorem read_top : fs.read (Path.absolute [n]) = .ok bs := by
  have hnull : hasNull (Path.absolute [n]) = false := by
    simpa [hasNull, Path.absolute] using hn.2.2.2.1
  rw [read, hnull, status, follow_top hn h]
  rfl

theorem write_top (new : List UInt8) : fs.write (Path.absolute [n]) new = .ok (fs.put [n] (.file new)) := by
  have hnull : hasNull (Path.absolute [n]) = false := by
    simpa [hasNull, Path.absolute] using hn.2.2.2.1
  rw [write, hnull, follow_top hn h]
  rfl

theorem hasFile_top : fs.hasFile [n] = .ok true := by
  have hnull : hasNull (Path.absolute [n]) = false := by
    simpa [hasNull, Path.absolute] using hn.2.2.2.1
  have hf : fs.isFile (Path.absolute [n]) = .ok true := by
    rw [isFile, ask, hnull, status, follow_top hn h]
    rfl
  have hm : [n] ∈ fs.files := List.mem_filterMap.2 ⟨_, mem_of_node? (by simp) h, rfl⟩
  simp [hasFile, hf, hm, bind, Except.bind, pure, Except.pure]

theorem document_top {e : Element} (he : (Xml.parse bs).toOption = some e) : fs.document [n] = .ok e := by
  simp only [document, read_top hn h, Except.toOption_eq_some.1 he]

theorem holds_top {e : Element} (he : (Xml.parse bs).toOption = some e) : fs.Holds (Path.absolute [n]) [n] e :=
  ⟨resolve_top hn h, hasFile_top hn h, document_top hn h he⟩

theorem text_top {encoding s : String} (hs : (Encoding.decode fs.decoders encoding bs).toOption = some s) :
    fs.text [n] encoding = .ok (Text.withLineFeeds s) := by
  simp only [text, read_top hn h, Except.toOption_eq_some.1 hs]

/-- A plain name refers to the file of that name beside the document. -/
theorem target_top {m : String} (hp : Path.ofString n = ⟨.here, [n]⟩) : fs.view.target n [m] = .ok [n] := by
  have : (Path.absolute [m].dropLast).child n = Path.absolute [n] := by
    simp [Path.child, hp, Path.append, Path.absolute, Path.isAbsolute]
  rw [View.target, this]
  exact resolve_top hn h

end

section

variable {n : String} (hn : Plain n) (h : fs.node? [n] = none)
include hn h

/-- A plain name refers to a place beside the document also where nothing is. -/
theorem target_top_of_absent {m : String} (hp : Path.ofString n = ⟨.here, [n]⟩) : fs.view.target n [m] = .ok [n] := by
  have hchild : (Path.absolute [m].dropLast).child n = Path.absolute [n] := by
    simp [Path.child, hp, Path.append, Path.absolute, Path.isAbsolute]
  obtain ⟨h₁, h₂, h₃, h₄, -⟩ := hn
  rw [View.target, hchild, view]
  simp [resolve, hasNull, start, Path.absolute, Path.isAbsolute, resolveFrom, h₁, h₂, h₃, h₄, h]

theorem hasFile_top_of_absent : fs.hasFile [n] = .ok false := by
  obtain ⟨h₁, h₂, h₃, h₄, h₅⟩ := hn
  have hnull : hasNull (Path.absolute [n]) = false := by simpa [hasNull, Path.absolute] using h₄
  have hfollow : fs.follow (Path.absolute [n]) = .ok (.absent [n]) := by
    have h₆ : ¬ maxNameSize < n.utf8ByteSize := Nat.not_lt.2 h₅
    simp [follow, start, Path.absolute, Path.isAbsolute, walk, h₁, h₂, h₃, h₆, h]
  have hfile : fs.isFile (Path.absolute [n]) = .ok false := by
    rw [isFile, ask, hnull, status, hfollow]
    rfl
  simp [hasFile, hfile, bind, Except.bind, pure, Except.pure]

end

/-- The documents that the files hold. -/
def documents (fs : FileSystem) : List Element :=
  fs.nodes.filterMap fun e =>
    match e.2 with
    | .file bs => (Xml.parse bs).toOption
    | _ => none

/-- What a walk ends at stands there. -/
theorem node?_of_walk {follow : Bool} {budget : Nat} {here : Location} {names : List String} {l : Location}
    {n : Node}     (h : fs.walk follow budget here names = .ok (.found l n)) : fs.node? l = some n := by
  fun_induction walk fs follow budget here names <;> simp_all

theorem exists_mem_of_read {p : Path} {bs : List UInt8} (h : fs.read p = .ok bs) :
    ∃ l, (l, Node.file bs) ∈ fs.nodes := by
  have hs : fs.status p = .ok (.file bs) := by
    unfold read at h
    split at h
    · cases h
    · split at h <;> simp_all
  unfold status at hs
  split at hs
  · rename_i l n hf
    cases hs
    have hl := node?_of_walk hf
    refine ⟨l, mem_of_node? ?_ hl⟩
    rintro rfl
    simp at hl
  · cases hs
  · cases hs

theorem mem_documents {l : Location} {e : Element} (h : fs.document l = .ok e) : e ∈ fs.documents := by
  unfold document at h
  split at h
  · cases h
  · rename_i bs hr
    split at h
    · cases h
    · cases h
    · rename_i root hp
      cases h
      obtain ⟨m, hm⟩ := exists_mem_of_read hr
      exact List.mem_filterMap.2 ⟨_, hm, by simp [hp, Except.toOption]⟩

end FileSystem

end PromptMarkup
