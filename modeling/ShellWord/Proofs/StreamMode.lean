import ShellWord.Proofs.Alphabet

/-!
# What a stream is written

Quoted words are written to a stream as text if it is a text stream, or if it shows a mode that is a
text without a `b`, and as bytes otherwise. So it is documented; but a mode is only searched for a
`b`, whatever it is. A mode that holds nothing cannot be searched, and in a collection the search is
for a member. `MisreadsMode` names the streams for which it makes a difference. Any other stream
gets one write for each word, the one that is documented.
-/

namespace ShellWord.Sink

/-- The sink is neither a buffer of bytes nor a list of texts. -/
def IsStream : Sink → Prop
  | buffer _ => False
  | list _ => False
  | _ => True

/-- The sink is a stream that is documented to take text. -/
def IsForText : Sink → Prop
  | textStream _ => True
  | writer (.text mode) _ => 'b' ∉ mode.toList
  | _ => False

instance : DecidablePred IsForText
  | textStream _ => isTrue trivial
  | writer (.text mode) _ => inferInstanceAs (Decidable ('b' ∉ mode.toList))
  | writer .absent _ | writer (.collection _) _ | writer (.other _) _ => isFalse not_false
  | buffer _ | list _ | byteStream _ => isFalse not_false

/-- The write that a word is documented to become. -/
def documentedWrite (sink : Sink) (word : Bytes) : Write :=
  if sink.IsForText then .text (textOfAscii word) else .bytes word

/-- A stream gets one write, which becomes the end of what it holds. -/
inductive Receives : Sink → Write → Sink → Prop
  | textStream (content text : String) :
      Receives (textStream content) (.text text) (textStream (content ++ text))
  | byteStream (content data : Bytes) :
      Receives (byteStream content) (.bytes data) (byteStream (content ++ data))
  | writer (mode : StreamMode) (writes : List Write) (write : Write) :
      Receives (writer mode writes) write (writer mode (writes ++ [write]))

/-- The mode of the stream is no text, and no `b` can be found in it. -/
def MisreadsMode : Sink → Prop
  | writer (.other _) _ => True
  | writer (.collection members) _ => "b" ∉ members
  | _ => False

variable {sink after : Sink} {write : Write} {source : Source} {d : Dialect} {word : Bytes}
  {mode : StreamMode} {writes : List Write}

theorem receives_writer_iff :
    (writer mode writes).Receives write after ↔ after = writer mode (writes ++ [write]) := by
  constructor
  · rintro ⟨⟩
    rfl
  · rintro rfl
    exact .writer mode writes write

/-! ## One word -/

/-- A quoted word only has to be accepted. -/
theorem appendText_of_quotedBytes (hword : source.quotedBytes d = .ok word) (sink : Sink) :
    sink.appendText source d =
      match sink.accept word with
      | .ok after => (after, .ok ())
      | .error e => (sink, .error (.earlier e)) := by
  rw [appendText_eq, append_eq_push, push, hword]
  dsimp only
  cases sink.accept word <;> rfl

/-- A stream whose mode is not misread takes the write that is documented. -/
theorem accept_of_not_misreadsMode (hstream : sink.IsStream) (hmode : ¬ sink.MisreadsMode)
    (word : Bytes) :
    ∃ after, sink.accept word = .ok after ∧ sink.Receives (sink.documentedWrite word) after := by
  cases sink with
  | buffer | list => cases hstream
  | textStream content => exact ⟨_, rfl, .textStream content _⟩
  | byteStream content => exact ⟨_, rfl, .byteStream content _⟩
  | writer mode writes =>
    refine ⟨_, ?_, .writer mode writes _⟩
    cases mode with
    | absent => rfl
    | text mode =>
      by_cases hb : 'b' ∈ mode.toList <;>
        simp [accept, StreamMode.takesText, documentedWrite, IsForText, hb, bind, Except.bind,
          pure, Except.pure]
    | collection members =>
      have hb : "b" ∈ members := not_not.1 hmode
      simp [accept, StreamMode.takesText, documentedWrite, IsForText, hb, bind, Except.bind,
        pure, Except.pure]
    | other typeName => exact absurd trivial hmode

/-- Over any sequence of calls, a stream whose mode is not misread gets one write for each call that
succeeds, in order; what becomes of the calls does not depend on it. -/
theorem appendAll_writer (hmode : ¬ (writer mode writes).MisreadsMode)
    (calls : List (Source × Dialect)) :
    (writer mode writes).appendAll calls =
      (writer mode (writes ++ (gained calls).map (writer mode writes).documentedWrite),
        outcomes calls) := by
  have haccept (before : List Write) (word : Bytes) :
      (writer mode before).accept word =
        .ok (writer mode (before ++ [(writer mode writes).documentedWrite word])) := by
    -- only the mode counts, not what was written before
    have hbefore : ¬ (writer mode before).MisreadsMode := by
      cases mode <;> exact hmode
    have hstream : (writer mode before).IsStream := trivial
    obtain ⟨after, hafter, hreceives⟩ := accept_of_not_misreadsMode hstream hbefore word
    rw [hafter, receives_writer_iff.1 hreceives]
    cases mode <;> rfl
  rw [appendAll_of_accept (writer mode) _ haccept, List.foldl_append_eq_append, ← List.flatMap_def,
    ← List.map_eq_flatMap]

/-- A mode that holds nothing cannot be searched, and nothing is written. -/
theorem accept_other (typeName : String) (writes : List Write) (word : Bytes) :
    (writer (.other typeName) writes).accept word = .error (.unreadableMode typeName) := rfl

/-- A collection without a `b` passes for the mode of a text stream. -/
theorem accept_collection {members : List String} (h : "b" ∉ members) (writes : List Write)
    (word : Bytes) :
    (writer (.collection members) writes).accept word =
      .ok (writer (.collection members) (writes ++ [.text (textOfAscii word)])) := by
  simp [accept, StreamMode.takesText, h, bind, Except.bind, pure, Except.pure]

/-- A word that can be quoted becomes the one write to a stream that is documented exactly if the
mode of the stream is not misread, and as text it is what it is as bytes. If the mode is misread,
the call fails and writes nothing, or it writes text where bytes are documented. -/
theorem documented_write_iff_not_misreadsMode (hstream : sink.IsStream)
    (hword : source.quotedBytes d = .ok word) :
    IsAscii word ∧ ascii (textOfAscii word) = word ∧
    ((∃ after, sink.appendText source d = (after, .ok ()) ∧
      sink.Receives (sink.documentedWrite word) after) ↔ ¬ sink.MisreadsMode) ∧
    (∀ typeName writes, sink = writer (.other typeName) writes →
      sink.appendText source d = (sink, .error (.earlier (.unreadableMode typeName)))) ∧
    (∀ members writes, sink = writer (.collection members) writes → "b" ∉ members →
      sink.documentedWrite word = .bytes word ∧ ∃ after,
        sink.appendText source d = (after, .ok ()) ∧
        sink.Receives (.text (textOfAscii word)) after) := by
  have hother : ∀ typeName writes, sink = writer (.other typeName) writes →
      sink.appendText source d = (sink, .error (.earlier (.unreadableMode typeName))) := by
    rintro typeName writes rfl
    rw [appendText_of_quotedBytes hword, accept_other]
  have hcollection : ∀ members writes, sink = writer (.collection members) writes →
      "b" ∉ members → sink.appendText source d =
        (writer (.collection members) (writes ++ [.text (textOfAscii word)]), .ok ()) := by
    rintro members writes rfl hb
    rw [appendText_of_quotedBytes hword, accept_collection hb]
  refine ⟨Source.isAscii_of_quotedBytes hword, ascii_textOfAscii word,
    ⟨fun hwrites hmode => ?_, fun hmode => ?_⟩, hother, fun members writes hsink hb => ?_⟩
  · obtain ⟨after, hafter, hreceives⟩ := hwrites
    cases sink with
    | writer mode writes =>
      cases mode with
      | other typeName => cases (hother _ _ rfl).symm.trans hafter
      | collection members =>
        rw [hcollection _ _ rfl hmode] at hafter
        cases hafter
        have hwrite := receives_writer_iff.1 hreceives
        simp [documentedWrite, IsForText] at hwrite
      | absent | text => exact hmode
    | buffer | list | textStream | byteStream => exact hmode
  · obtain ⟨after, hafter, hreceives⟩ := accept_of_not_misreadsMode hstream hmode word
    exact ⟨after, by rw [appendText_of_quotedBytes hword, hafter], hreceives⟩
  · subst hsink
    exact ⟨rfl, _, hcollection _ _ rfl hb, .writer _ _ _⟩

/-- A stream whose mode is a collection with a `b` gets bytes; one with the mode `r` gets text. -/
theorem documented_write_iff_not_misreadsMode_blank :
    (writer (.collection ["w", "b"]) []).IsStream ∧ (writer (.text "r") []).IsStream ∧
    (Source.bytes (ascii "a b")).quotedBytes .bash = .ok (ascii "'a b'") ∧
    (writer (.collection ["w", "b"]) []).appendText (.bytes (ascii "a b")) .bash =
      (writer (.collection ["w", "b"]) [.bytes (ascii "'a b'")], .ok ()) ∧
    (writer (.text "r") []).appendText (.bytes (ascii "a b")) .bash =
      (writer (.text "r") [.text "'a b'"], .ok ()) := by
  have hbytes : (writer (.collection ["w", "b"]) []).IsStream := trivial
  have htext : (writer (.text "r") []).IsStream := trivial
  have hword : (Source.bytes (ascii "a b")).quotedBytes .bash = .ok (ascii "'a b'") := by decide
  refine ⟨hbytes, htext, hword, ?_, ?_⟩
  · have hmode : ¬ (writer (.collection ["w", "b"]) []).MisreadsMode := by simp [MisreadsMode]
    obtain ⟨after, hafter, hreceives⟩ :=
      (documented_write_iff_not_misreadsMode hbytes hword).2.2.1.2 hmode
    rw [hafter, receives_writer_iff.1 hreceives]
    rfl
  · have hmode : ¬ (writer (.text "r") []).MisreadsMode := not_false
    obtain ⟨after, hafter, hreceives⟩ :=
      (documented_write_iff_not_misreadsMode htext hword).2.2.1.2 hmode
    rw [hafter, receives_writer_iff.1 hreceives]
    decide

/-- A number for a mode makes the call fail, and a collection without a `b` makes it write text. -/
theorem not_documented_write_number_mode :
    (writer (.other "int") []).IsStream ∧
    (Source.text (Text.ofString "a b")).quotedBytes .bash = .ok (ascii "'a b'") ∧
    (writer (.other "int") []).documentedWrite (ascii "'a b'") = .bytes (ascii "'a b'") ∧
    (writer (.other "int") []).appendText (.text (Text.ofString "a b")) .bash =
      (writer (.other "int") [], .error (.earlier (.unreadableMode "int"))) ∧
    (writer (.collection []) []).appendText (.text (Text.ofString "a b")) .bash =
      (writer (.collection []) [.text "'a b'"], .ok ()) :=
  ⟨trivial, by decide +kernel, rfl, by decide +kernel, by decide +kernel⟩

end ShellWord.Sink
