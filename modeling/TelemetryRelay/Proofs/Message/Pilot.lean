import TelemetryRelay.Message.Pilot
import TelemetryRelay.Proofs.Text.Pieces
import TelemetryRelay.Proofs.Text.Utf8

/-!
# Autopilot commands as text

A command is written as fields between commas and read from fields without the spaces around
them.  So the texts that come through are those that can be a field of a line, and every line is
read as a command with such texts only.
-/

namespace TelemetryRelay.Message

open Text

/-- A text that can be a field of a line: without commas, and without spaces at its ends. -/
structure IsField (text : String) : Prop where
  comma : ',' ∉ text.toList
  first : text.toList.head? ≠ some ' '
  last : text.toList.getLast? ≠ some ' '

instance (text : String) : Decidable (IsField text) :=
  decidable_of_iff (',' ∉ text.toList ∧ text.toList.head? ≠ some ' ' ∧
      text.toList.getLast? ≠ some ' ')
    ⟨fun ⟨comma, first, last⟩ => ⟨comma, first, last⟩, fun h => ⟨h.comma, h.first, h.last⟩⟩

namespace PilotCommand

/-- The text that a command carries. -/
def text? : PilotCommand → Option String
  | .start course => some course
  | .response text => some text
  | .fileName name => some name
  | _ => none

variable {command : PilotCommand} {field word text : String} {words : List String}

/-! ## Fields -/

theorem isField_of_mem_fields {source : String} (h : field ∈ fields source) : IsField field := by
  obtain ⟨piece, hpiece, rfl⟩ := List.mem_map.mp h
  refine ⟨?_, ?_, ?_⟩ <;> rw [String.toList_ofList]
  · exact fun hmem => not_mem_of_mem_splitAt hpiece ((trimList_sublist _ _).subset hmem)
  · intro hspace
    simpa using not_of_head?_trimList hspace
  · intro hspace
    simpa using not_of_getLast?_trimList hspace

theorem trimmed_of_isField (h : IsField field) :
    String.ofList (trimList (· == ' ') field.toList) = field := by
  rw [trimList_eq_self, String.ofList_toList]
  · rintro c hc
    rw [beq_eq_false_iff_ne]
    rintro rfl
    exact h.first hc
  · rintro c hc
    rw [beq_eq_false_iff_ne]
    rintro rfl
    exact h.last hc

theorem isField_opening : IsField opening := by decide

/-- What says which command a line is. -/
def keywords : List String :=
  [startWord, stopWord, courseFilesWord, responseWord, fileNameWord]

theorem isField_of_mem_keywords : ∀ word ∈ keywords, IsField word := by decide

/-- The fields of a line are the words that it was made of. -/
theorem fields_line (h : ∀ word ∈ words, IsField word) :
    fields (line words) = opening :: words := by
  have hfields : ∀ word ∈ opening :: words, IsField word := by
    rintro word (_ | ⟨_, hword⟩)
    · exact isField_opening
    · exact h word hword
  have hpieces : splitAt ',' (line words).toList = (opening :: words).map String.toList := by
    rw [line, String.toList_intercalate]
    refine splitAt_intercalate (by simp) fun piece hpiece => ?_
    obtain ⟨word, hword, rfl⟩ := List.mem_map.mp hpiece
    exact (hfields word hword).comma
  rw [fields, hpieces, List.map_map]
  exact (List.map_congr_left fun word hword => trimmed_of_isField (hfields word hword)).trans
    (List.map_id _)

/-! ## Commands -/

/-- A command that is read carries one of the fields. -/
theorem mem_of_ofFields {fields : List String} (h : text ∈ (ofFields fields).text?) :
    text ∈ fields := by
  rcases fields with _ | ⟨first, _ | ⟨word, _ | ⟨parameter, more⟩⟩⟩
  · cases h
  · cases h
  · simp only [ofFields] at h
    split_ifs at h <;> cases h
  · simp only [ofFields] at h
    split_ifs at h <;> cases h <;> simp

theorem isField_of_parse {source : String} (h : text ∈ (parse source).text?) : IsField text :=
  isField_of_mem_fields (mem_of_ofFields h)

theorem parse_line_one (hword : word ∈ keywords) :
    parse (line [word]) = ofFields [opening, word] := by
  rw [parse, fields_line]
  simpa using isField_of_mem_keywords word hword

theorem parse_line_two (hword : word ∈ keywords) (htext : IsField text) :
    parse (line [word, text]) = ofFields [opening, word, text] := by
  rw [parse, fields_line]
  simpa using ⟨isField_of_mem_keywords word hword, htext⟩

theorem parse_encode (h : ∀ text ∈ command.text?, IsField text) :
    parse command.encode = command := by
  cases command with
  | start course =>
    rw [encode, parse_line_two (by decide) (h course rfl)]
    rfl
  | stop =>
    rw [encode, parse_line_one (by decide)]
    rfl
  | sendCourseFileNames =>
    rw [encode, parse_line_one (by decide)]
    rfl
  | response text =>
    rw [encode, parse_line_two (by decide) (h text rfl)]
    rfl
  | fileName name =>
    rw [encode, parse_line_two (by decide) (h name rfl)]
    rfl
  | unknown => rfl

end PilotCommand

namespace PilotData

open PilotCommand

theorem command_ofCommand (command : PilotCommand) :
    (ofCommand command).command = parse command.encode := by
  rw [PilotData.command, PilotData.text, ofCommand, ofText, Utf8.decodeLossy_encode]

/-- **Commands come through exactly if their texts can be fields.** A command that is written as a
payload is read from it again if and only if it carries no text or one without commas and without
spaces at its ends.  Whatever a payload is read as, well-formed or not, is such a command. -/
theorem command_comes_through :
    (∀ command, (ofCommand command).command = command ↔ ∀ text ∈ command.text?, IsField text) ∧
    ∀ payload : Bytes, let command := (PilotData.mk payload).command
      (ofCommand command).command = command ∧ ∀ text ∈ command.text?, IsField text := by
  have hthrough : ∀ command, (ofCommand command).command = command ↔
      ∀ text ∈ command.text?, IsField text := by
    intro command
    rw [command_ofCommand]
    constructor
    · intro hcommand text htext
      rw [← hcommand] at htext
      exact isField_of_parse htext
    · exact parse_encode
  refine ⟨hthrough, fun payload => ?_⟩
  have hfield : ∀ text ∈ (PilotData.mk payload).command.text?, IsField text :=
    fun text htext => isField_of_parse htext
  exact ⟨(hthrough _).mpr hfield, hfield⟩

/-- An empty reply comes through, one that begins with a space does not. -/
theorem command_comes_through_replies :
    (ofCommand (.response "")).command = .response "" ∧
      (ofCommand (.response " landed")).command ≠ .response " landed" := by
  obtain ⟨hthrough, -⟩ := command_comes_through
  refine ⟨(hthrough _).mpr ?_, fun hspaced => ?_⟩
  · rintro text ⟨⟩
    decide
  · exact ((hthrough _).mp hspaced " landed" rfl).first (by decide)

end PilotData

end TelemetryRelay.Message
