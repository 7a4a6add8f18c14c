import ShellWord.Journal.Basic
import ShellWord.Proofs.Growth
import ShellWord.Proofs.LiteralBytes
import ShellWord.Reading.LogEntry
import Mathlib.Data.List.Nodup

/-!
# A log tells what was logged

Each call is logged as one line of printable ASCII that holds one JSON object. `Tells` says what the
members of the object are; from them the call is read back, and from the lines the calls, one after
another.
-/

namespace ShellWord

open Reading

namespace Journal

variable {full : Bool} {stamp : String} {c : Call} {text more : List Char}

/-! ## Printable text -/

/-- Text that is printable ASCII throughout. -/
def Printable (text : List Char) : Prop := ∀ d ∈ text, 0x20 ≤ d.toNat ∧ d.toNat ≤ 0x7E

theorem printable_nil : Printable [] := by simp [Printable]

theorem printable_cons {d : Char} :
    Printable (d :: text) ↔ (0x20 ≤ d.toNat ∧ d.toNat ≤ 0x7E) ∧ Printable text :=
  List.forall_mem_cons

theorem Printable.append (h : Printable text) (h' : Printable more) : Printable (text ++ more) :=
  List.forall_mem_append.2 ⟨h, h'⟩

theorem printable_unitEscape (n : Nat) : Printable (unitEscape n) := by
  have hdigit : ∀ m < 0x10, 0x20 ≤ (hexDigit m).toNat ∧ (hexDigit m).toNat ≤ 0x7E := by decide
  have hmod (m : Nat) := hdigit (m % 16) (Nat.mod_lt m (by decide))
  simp only [unitEscape, printable_cons]
  exact ⟨by decide, by decide, hmod _, hmod _, hmod _, hmod _, printable_nil⟩

theorem printable_escapeChar (d : Char) : Printable (escapeChar d) := by
  have hshort {letter : Char} (h : 0x20 ≤ letter.toNat ∧ letter.toNat ≤ 0x7E) :
      Printable ['\\', letter] :=
    printable_cons.2 ⟨by decide, printable_cons.2 ⟨h, printable_nil⟩⟩
  rw [escapeChar]
  split_ifs with hspecial hn hr ht hb hf hprint hbasic
  · exact hshort (by rcases hspecial with rfl | rfl <;> decide)
  · exact hshort (by decide)
  · exact hshort (by decide)
  · exact hshort (by decide)
  · exact hshort (by decide)
  · exact hshort (by decide)
  · exact printable_cons.2 ⟨hprint, printable_nil⟩
  · exact printable_unitEscape _
  · exact (printable_unitEscape _).append (printable_unitEscape _)

theorem printable_quoteChars (s : List Char) : Printable (quoteChars s) := by
  have hquote : Printable ['\x22'] := printable_cons.2 ⟨by decide, printable_nil⟩
  have hinside : Printable (s.flatMap escapeChar) := by
    intro d hd
    obtain ⟨c, -, hmem⟩ := List.mem_flatMap.1 hd
    exact printable_escapeChar c d hmem
  exact (hquote.append hinside).append hquote

theorem printable_item (item : Item) : Printable item.chars := by
  cases item with
  | text s => exact printable_quoteChars s.toList
  | number k =>
    have hdigits : Printable (Nat.toDigits 10 k.natAbs) := by
      intro d hd
      have hdigit := Nat.isDigit_of_mem_toDigits (by decide) (by decide) hd
      rw [Char.isDigit_iff_toNat] at hdigit
      exact ⟨hdigit.1.trans' (by decide), hdigit.2.trans (by decide)⟩
    show Printable (toString k).toList
    rw [Json.toList_toString_int]
    split
    · exact printable_cons.2 ⟨by decide, hdigits⟩
    · exact hdigits

theorem printable_fieldChars (field : String × Item) : Printable (fieldChars field) := by
  refine (printable_quoteChars _).append ?_
  exact printable_cons.2 ⟨by decide, printable_cons.2 ⟨by decide, printable_item field.2⟩⟩

theorem printable_objectChars (fields : List (String × Item)) : Printable (objectChars fields) := by
  have hopening : Printable ['\x7b'] := printable_cons.2 ⟨by decide, printable_nil⟩
  have hclosing : Printable ['\x7d'] := printable_cons.2 ⟨by decide, printable_nil⟩
  have hcomma : Printable [',', ' '] :=
    printable_cons.2 ⟨by decide, printable_cons.2 ⟨by decide, printable_nil⟩⟩
  have hfields : Printable (List.intercalate [',', ' '] (fields.map fieldChars)) := by
    induction fields with
    | nil => exact printable_nil
    | cons field fields ih =>
      cases fields with
      | nil => simpa using printable_fieldChars field
      | cons next fields =>
        rw [List.map_cons, List.map_cons, List.intercalate_cons_cons]
        exact ((printable_fieldChars field).append hcomma).append ih
  exact (hopening.append hfields).append hclosing

/-! ## Lines -/

theorem decode?_ascii {s : List Char} (h : ∀ d ∈ s, d.toNat < 0x80) :
    Utf8.decode? (s.map fun d => UInt8.ofNat d.toNat) = .ok s := by
  have hchars (start : Nat) :
      Utf8.charsOf? start (Utf8.pieces (s.map fun d => UInt8.ofNat d.toNat)) = .ok s := by
    induction s generalizing start with
    | nil =>
      rw [List.map_nil, Utf8.pieces_nil]
      rfl
    | cons d s ih =>
      obtain ⟨hd, hs⟩ := List.forall_mem_cons.1 h
      have hbyte : (UInt8.ofNat d.toNat).toNat = d.toNat :=
        UInt8.toNat_ofNat_of_lt' (show _ < 0x100 by omega)
      have hlt : UInt8.ofNat d.toNat < 0x80 := UInt8.lt_iff_toNat_lt.2 (by simpa [hbyte] using hd)
      rw [List.map_cons, Utf8.pieces, Utf8.begin, if_pos hlt]
      show (do return Char.ofNat _ :: (← Utf8.charsOf? (start + 1) _)) = _
      rw [ih hs, hbyte, Char.ofNat_toNat]
      rfl
  exact hchars 0

/-- The object of a line. -/
def Call.object (full : Bool) (stamp : String) (c : Call) : Bytes :=
  ascii (String.ofList (objectChars (c.fields full stamp)))

theorem object_eq (full : Bool) (stamp : String) (c : Call) :
    c.object full stamp = (objectChars (c.fields full stamp)).map fun d => UInt8.ofNat d.toNat := by
  rw [Call.object, ascii, String.toList_ofList]

theorem printable_object : ∀ b ∈ c.object full stamp, 0x20 ≤ b ∧ b ≤ 0x7E := by
  intro b hb
  rw [object_eq] at hb
  obtain ⟨d, hd, rfl⟩ := List.mem_map.1 hb
  obtain ⟨hlow, hhigh⟩ := printable_objectChars _ d hd
  have hbyte : (UInt8.ofNat d.toNat).toNat = d.toNat :=
    UInt8.toNat_ofNat_of_lt' (show _ < 0x100 by omega)
  rw [UInt8.le_iff_toNat_le, UInt8.le_iff_toNat_le, hbyte]
  exact ⟨hlow, hhigh⟩

/-- What stands on a line is read as one JSON object, with or without blanks behind it. -/
theorem ofBytes?_object (full : Bool) (stamp : String) (c : Call) (blanks : List Char)
    (hascii : ∀ d ∈ blanks, d.toNat < 0x80) (hblanks : Json.skipBlanks blanks = []) :
    Json.ofBytes? (c.object full stamp ++ blanks.map fun d => UInt8.ofNat d.toNat) =
      some (.object ((c.fields full stamp).map Json.ofField)) := by
  have hchars : ∀ d ∈ objectChars (c.fields full stamp) ++ blanks, d.toNat < 0x80 := by
    refine List.forall_mem_append.2 ⟨fun d hd => ?_, hascii⟩
    have hprintable := printable_objectChars _ d hd
    omega
  have hfields : c.fields full stamp ≠ [] := by simp [Call.fields]
  rw [Json.ofBytes?, object_eq, ← List.map_append, decode?_ascii hchars]
  exact Json.ofText?_objectChars hfields hblanks

/-! ## Members -/

/-- What the members of an object tell of a call. The word is told only if the log is full. -/
structure Tells (full : Bool) (stamp : String) (c : Call) (members : List (List Char × Json)) :
    Prop where
  distinct : (members.map Prod.fst).Nodup
  keys : ∀ key, key ∈ members.map Prod.fst ↔
    key ∈ ["dialect", "size", "event", "ts", "level"].map String.toList ∨
      key = "error".toList ∧ c.error.isSome ∨
      key = "input".toList ∧ full ∧ c.data.isSome
  dialect : (Json.object members).member? "dialect" = some (.string c.dialect.name.toList)
  size : (Json.object members).member? "size" = some (.number c.size 0)
  event : (Json.object members).member? "event" = some (.string c.event.toList)
  ts : (Json.object members).member? "ts" = some (.string stamp.toList)
  level : (Json.object members).member? "level" =
    some (.string (if c.error.isSome then "warning" else "info").toList)
  error : ∀ e, c.error = some e → (Json.object members).member? "error" = some (.string e.toList)
  input : full → ∀ data, c.data = some data → ∃ literal,
    (Json.object members).member? "input" = some (.string literal) ∧
      ByteLiteral.ofText? literal = some data

theorem member?_ofField (key : String) (fields : List (String × Item)) :
    (Json.object (fields.map Json.ofField)).member? key =
      (fields.lookup key).map Json.ofItem := by
  show (fields.map Json.ofField).lookup key.toList = _
  induction fields with
  | nil => rfl
  | cons field fields ih =>
    obtain ⟨name, item⟩ := field
    show List.lookup key.toList ((name.toList, Json.ofItem item) :: _) = _
    rw [List.lookup_cons, List.lookup_cons, ih]
    by_cases hkey : key = name
    · simp [hkey]
    · rw [beq_false_of_ne hkey, beq_false_of_ne (mt String.toList_inj.1 hkey)]

theorem map_fst_fields (full : Bool) (stamp : String) (c : Call) :
    (c.fields full stamp).map Prod.fst =
      ["dialect", "size"] ++ (if c.error.isSome then ["error"] else []) ++
        (if full ∧ c.data.isSome then ["input"] else []) ++ ["event", "ts", "level"] := by
  obtain ⟨event, dialect, size, data, error⟩ := c
  cases full <;> cases data <;> cases error <;> rfl

theorem map_fst_ofField (fields : List (String × Item)) :
    (fields.map Json.ofField).map Prod.fst = (fields.map Prod.fst).map String.toList := by
  rw [List.map_map, List.map_map]
  rfl

theorem tells_fields (full : Bool) (stamp : String) (c : Call) :
    Tells full stamp c ((c.fields full stamp).map Json.ofField) := by
  obtain ⟨event, dialect, size, data, error⟩ := c
  constructor
  case distinct =>
    rw [map_fst_ofField, map_fst_fields]
    refine List.Nodup.map (fun _ _ => String.toList_injective) ?_
    split_ifs <;> decide
  case keys =>
    intro key
    rw [map_fst_ofField, map_fst_fields]
    have hone (p : Prop) [Decidable p] (name : String) :
        key ∈ (if p then [name] else []).map String.toList ↔ key = name.toList ∧ p := by
      split <;> simp [*]
    simp only [List.map_append, List.mem_append, hone, List.map_cons, List.map_nil, List.mem_cons,
      List.not_mem_nil, or_false]
    grind
  case dialect => rw [member?_ofField]; rfl
  case size => rw [member?_ofField]; rfl
  case event => rw [member?_ofField]; cases full <;> cases data <;> cases error <;> rfl
  case ts => rw [member?_ofField]; cases full <;> cases data <;> cases error <;> rfl
  case level => rw [member?_ofField]; cases full <;> cases data <;> cases error <;> rfl
  case error =>
    rintro e rfl
    rw [member?_ofField]
    rfl
  case input =>
    rintro rfl d rfl
    have hliteral : (Literal.ofBytes d).toList = Literal.byteChars d := String.toList_ofList
    refine ⟨Literal.byteChars d, ?_, ByteLiteral.ofText?_byteChars d⟩
    rw [member?_ofField, ← hliteral]
    cases error <;> rfl

/-! ## Reading calls back -/

variable {members : List (List Char × Json)}

/-- The lines of calls, each of which comes with its stamp. -/
def lines (full : Bool) (calls : List (String × Call)) : Bytes :=
  calls.flatMap fun call => call.2.line full call.1

/-- What the log tells of calls. -/
def entries (full : Bool) (calls : List (String × Call)) : List LogEntry :=
  calls.map fun call => .ofCall full call.1 call.2

/-- The text is the line of a call: printable ASCII and a newline, and a JSON object that tells the
call. -/
structure IsLineOf (full : Bool) (stamp : String) (c : Call) (text : Bytes) : Prop where
  printable : ∃ body, text = body ++ [0x0A] ∧ ∀ b ∈ body, 0x20 ≤ b ∧ b ≤ 0x7E
  object : ∃ members, Json.ofBytes? text = some (.object members) ∧ Tells full stamp c members

theorem isLineOf_line (full : Bool) (stamp : String) (c : Call) :
    IsLineOf full stamp c (c.line full stamp) := by
  constructor
  case printable => exact ⟨c.object full stamp, rfl, printable_object⟩
  case object =>
    have hascii : ∀ d ∈ ['\n'], d.toNat < 0x80 := List.forall_mem_singleton.2 (by decide)
    exact ⟨_, ofBytes?_object full stamp c ['\n'] hascii rfl, tells_fields full stamp c⟩

variable {w : World} {l : Location} {before : Bytes}

end Journal

end ShellWord
