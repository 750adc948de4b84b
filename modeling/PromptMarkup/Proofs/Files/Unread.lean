import PromptMarkup.Inclusion.View

/-!
# Why a file cannot be read

Whatever the bytes, the name of the encoding and the decoders of the system, a decoding that fails ends in a fault that is
reported or in one of a few others (`decode_error`): a missing byte order mark, the encoding that never gives a text, and
what a decoder of the system raises of its own.  The first kind are structural faults where a text is read.  The others
are outside the taxonomy (`text_error`), as are faults of the encoding that a document declares (`document_error`).
-/

namespace PromptMarkup

namespace Encoding

/-- The faults that are reported for a text. -/
def Fault.IsReported : Fault → Prop
  | unknown _ | notText _ _ | undecodable _ => True
  | multiByte | noByteOrderMark _ | refused _ | raised _ _ | unencodable _ => False

/-- The other faults of a decoding: a missing byte order mark, an encoding that never gives a text, and what the system's
decoder of the encoding ends in. -/
def Escapes (decoders : Decoders) (name : String) (bs : List UInt8) (f : Fault) : Prop :=
  (∃ n, f = .noByteOrderMark n) ∨ f = .refused undefinedReason ∨
    isFurther (listedName name) = true ∧ decoders (listedName name) bs = .error f ∧ ¬ f.IsReported

variable {decoders : Decoders} {name : String} {bs : List UInt8} {f : Fault}

theorem Escapes.not_isReported (h : Escapes decoders name bs f) : ¬ f.IsReported := by
  obtain ⟨n, rfl⟩ | rfl | ⟨-, -, h⟩ := h
  · exact id
  · exact id
  · exact h

section

variable {α β : Type}

/-- A decoding that fails with a reported fault only. -/
def Reports (x : Except Fault α) : Prop := ∀ f, x = .error f → f.IsReported

theorem reports_mapError (x : Except Undecodable α) (codec : String) : Reports (x.mapError (·.fault codec)) := by
  intro f h
  cases x with
  | ok a => cases h
  | error u =>
    cases h
    trivial

theorem Reports.map {x : Except Fault α} (hx : Reports x) (g : α → β) : Reports (x.map g) :=
  fun f h => hx f (Except.map_eq_error.1 h)

end

theorem reports_decode16 (order : ByteOrder) (position : Nat) (bs : List UInt8) :
    Reports (decode16 order position bs) :=
  (reports_mapError _ _).map _

theorem reports_decode32 (order : ByteOrder) (position : Nat) (bs : List UInt8) :
    Reports (decode32 order position bs) :=
  (reports_mapError _ _).map _

/-- Bytes that should have had a byte order mark are read all the same, and refused after that. -/
theorem unmarked_error {x : Except Fault String} (hx : Reports x) {n : String}
    (h : (do let _ ← x; throw (.noByteOrderMark n) : Except Fault String) = .error f) :
    f.IsReported ∨ ∃ n, f = .noByteOrderMark n := by
  cases x with
  | error f' =>
    cases h
    exact .inl (hx f rfl)
  | ok s =>
    cases h
    exact .inr ⟨n, rfl⟩

theorem decodeMarked16_error (h : decodeMarked16 bs = .error f) : f.IsReported ∨ ∃ n, f = .noByteOrderMark n := by
  unfold decodeMarked16 at h
  split at h
  · exact .inl (reports_decode16 _ _ _ f h)
  · exact .inl (reports_decode16 _ _ _ f h)
  · cases h
  · exact unmarked_error (reports_decode16 _ _ _) h

theorem decodeMarked32_error (h : decodeMarked32 bs = .error f) : f.IsReported ∨ ∃ n, f = .noByteOrderMark n := by
  unfold decodeMarked32 at h
  split at h
  · exact .inl (reports_decode32 _ _ _ f h)
  · exact .inl (reports_decode32 _ _ _ f h)
  · cases h
  · exact unmarked_error (reports_decode32 _ _ _) h

/-- Whatever the encoding, a decoding fails with a reported fault or with one of the others. -/
theorem decodePoints_error (h : decodePoints decoders name bs = .error f) :
    f.IsReported ∨ Escapes decoders name bs f := by
  unfold decodePoints at h
  split at h
  · exact .inl ((reports_mapError _ _).map _ f h)
  split at h
  · exact .inl ((reports_mapError _ _).map _ f h)
  · exact .inl ((reports_mapError _ _).map _ f h)
  · exact (decodeMarked16_error (Except.map_eq_error.1 h)).imp_right .inl
  · exact .inl ((reports_decode16 _ _ _).map _ f h)
  · exact .inl ((reports_decode16 _ _ _).map _ f h)
  · exact (decodeMarked32_error (Except.map_eq_error.1 h)).imp_right .inl
  · exact .inl ((reports_decode32 _ _ _).map _ f h)
  · exact .inl ((reports_decode32 _ _ _).map _ f h)
  · exact .inl (reports_mapError _ _ f h)
  · split at h
    · cases h
      exact .inl trivial
    split at h
    · cases h
      exact .inr (.inr (.inl rfl))
    split at h
    · rename_i hfurther
      exact (Classical.em f.IsReported).imp_right fun hf => .inr (.inr ⟨hfurther, h, hf⟩)
    split at h
    · exact .inl ((reports_mapError _ _).map _ f h)
    · cases h
      exact .inl trivial

theorem decode_error (h : decode decoders name bs = .error f) : f.IsReported ∨ Escapes decoders name bs f :=
  decodePoints_error (Except.map_eq_error.1 h)

end Encoding

namespace FileSystem

variable {fs : FileSystem} {l : Location}

/-- What a file's bytes are as a text. -/
theorem text_of_read {bs : List UInt8} (hr : fs.read (Path.absolute l) = .ok bs) {encoding : String} :
    (∀ s, Encoding.decode fs.decoders encoding bs = .ok s → fs.text l encoding = .ok (Text.withLineFeeds s)) ∧
      ∀ f, Encoding.decode fs.decoders encoding bs = .error f → f.IsReported →
        fs.text l encoding = .error (.cause (.unreadableText f.message)) := by
  refine ⟨fun s hs => by simp only [text, hr, hs], fun f hf h => ?_⟩
  simp only [text, hr, hf]
  cases f <;> first | rfl | cases h

/-- A text that cannot be read is a structural fault, unless the fault of its decoding is none that is reported. -/
theorem text_error {encoding : String} {u : Unread} (h : fs.text l encoding = .error u) :
    (∃ detail, u = .cause (.unreadableText detail)) ∨
      ∃ bs f, fs.read (Path.absolute l) = .ok bs ∧ Encoding.decode fs.decoders encoding bs = .error f ∧
          Encoding.Escapes fs.decoders encoding bs f ∧
        u = .encoding f := by
  cases hr : fs.read (Path.absolute l) with
  | error f =>
    simp only [text, hr, Except.error.injEq] at h
    exact .inl ⟨_, h.symm⟩
  | ok bs =>
    cases hd : Encoding.decode fs.decoders encoding bs with
    | ok s => rw [(text_of_read hr).1 s hd] at h; cases h
    | error f =>
      obtain hf | hf := Encoding.decode_error hd
      · rw [(text_of_read hr).2 f hd hf] at h
        cases h
        exact .inl ⟨_, rfl⟩
      · refine .inr ⟨bs, f, rfl, hd, hf, ?_⟩
        simp only [text, hr, hd] at h
        cases f <;> first | exact absurd trivial hf.not_isReported | exact (Except.error.inj h).symm

/-- A document that cannot be read is a structural fault, or its encoding cannot be. -/
theorem document_error {u : Unread} (h : fs.document l = .error u) :
    (∃ detail, u = .cause (.unreadableDocument detail)) ∨ (∃ detail, u = .cause (.malformedXml detail)) ∨
      ∃ bs f, fs.read (Path.absolute l) = .ok bs ∧ Xml.parse bs = .error (.encoding f) ∧ u = .encoding f := by
  unfold document at h
  split at h
  · cases h
    exact .inl ⟨_, rfl⟩
  · rename_i bs hr
    split at h
    · cases h
      exact .inr (.inl ⟨_, rfl⟩)
    · rename_i f hp
      cases h
      exact .inr (.inr ⟨bs, f, hr, hp, rfl⟩)
    · cases h

end FileSystem

end PromptMarkup
