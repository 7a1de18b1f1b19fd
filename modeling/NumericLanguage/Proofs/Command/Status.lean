import NumericLanguage.Command.Run
import NumericLanguage.Proofs.Analysis.Safety
import NumericLanguage.Proofs.Text.Encoding

/-!
# The status of the command

Arguments that make sense and do not ask for help choose a file, or the built-in program. What is
found there decides how the command ends (`run_faithful`). A text is analysed, which always gives a
report, and the status tells whether the report holds an error. Where no bytes can be read, a line
on the error output says so, and the status is 2. There is a third case, in which the command breaks
off without a status and without a word (`Unusable`): bytes that encode no characters, and a name
that is no path.
-/

set_option autoImplicit false

namespace NumericLanguage.Command

/-! ## What is found -/

section Findings

variable (settings : Settings) (files : FileAccess)

/-- A text that the command is to analyse, behind its name. The bytes of a file encode the
characters, and each line end becomes a newline. -/
inductive Chosen : String → String → Prop
  | sample : settings.file = none → Chosen "<sample>" sampleProgram
  | file {path : String} {characters : List Char} :
      settings.file = some path → '\x00' ∉ path.toList →
      files path = .ok (characters.flatMap String.utf8EncodeChar) →
      Chosen path (String.ofList (Text.foldNewlines characters))

/-- A chosen file that cannot be opened. -/
structure Unreadable (path : String) (fault : AccessFault) : Prop where
  file : settings.file = some path
  isPath : '\x00' ∉ path.toList
  fails : files path = .error fault

/-- A chosen file that is none: its name is no path, or its bytes are no text. -/
inductive Unusable : Prop
  | noPath {path : String} : settings.file = some path → '\x00' ∈ path.toList → Unusable
  | noText {path : String} {bytes : List UInt8} :
      settings.file = some path → '\x00' ∉ path.toList → files path = .ok bytes →
      (∀ characters : List Char, bytes ≠ characters.flatMap String.utf8EncodeChar) → Unusable

/-- One of the three is the case. -/
theorem chosen_or :
    (∃ name text, Chosen settings files name text) ∨
      (∃ path fault, Unreadable settings files path fault) ∨ Unusable settings files := by
  cases file : settings.file with
  | none => exact .inl ⟨_, _, .sample file⟩
  | some path =>
      by_cases isPath : '\x00' ∈ path.toList
      · exact .inr (.inr (.noPath file isPath))
      · cases access : files path with
        | error fault => exact .inr (.inl ⟨path, fault, file, isPath, access⟩)
        | ok bytes =>
            by_cases encodes : ∃ characters : List Char,
                bytes = characters.flatMap String.utf8EncodeChar
            · obtain ⟨characters, rfl⟩ := encodes
              exact .inl ⟨_, _, .file file isPath access⟩
            · exact .inr (.inr (.noText file isPath access (not_exists.mp encodes)))

end Findings

/-! ## Reading -/

section Reading

variable {files : FileAccess} {path : String}

theorem readText_of_null (isNull : '\x00' ∈ path.toList) :
    readText files path = .error (.path .nullCharacter) := by
  rw [readText, if_pos (List.contains_iff_mem.mpr isNull)]

theorem readText_of_path (isPath : '\x00' ∉ path.toList) :
    readText files path =
      match files path with
      | .error fault => .error (.access fault)
      | .ok bytes =>
          match textOfBytes bytes with
          | .ok text => .ok text
          | .error fault => .error (.undecodable fault) := by
  rw [readText]
  exact if_neg (mt List.contains_iff_mem.mp isPath)

/-- The encoding of some characters is read as these characters, with newlines as line ends. -/
theorem textOfBytes_encoding (characters : List Char) :
    textOfBytes (characters.flatMap String.utf8EncodeChar) =
      .ok (String.ofList (Text.foldNewlines characters)) := by
  rw [textOfBytes, Text.decodeUtf8_eq_ok_iff.mpr rfl]

/-- Other bytes are no text. -/
theorem exists_textOfBytes_error {bytes : List UInt8}
    (noText : ∀ characters : List Char, bytes ≠ characters.flatMap String.utf8EncodeChar) :
    ∃ fault, textOfBytes bytes = .error fault := by
  rw [textOfBytes]
  cases decodes : Text.decodeUtf8 bytes with
  | ok characters => exact absurd (Text.decodeUtf8_eq_ok_iff.mp decodes) (noText characters)
  | error fault => exact ⟨fault, rfl⟩

end Reading

/-! ## Running -/

section Running

variable {settings : Settings} {files : FileAccess} {name text path : String}

/-- What is chosen is analysed. -/
theorem runSettings_of_chosen (chosen : Chosen settings files name text) :
    runSettings settings files = runOn settings name text := by
  cases chosen with
  | sample file => rw [runSettings, file]
  | file file isPath access =>
      simp only [runSettings, file, readText_of_path isPath, access, textOfBytes_encoding]

/-- A file that cannot be opened is named on the error output. -/
theorem runSettings_of_unreadable {fault : AccessFault}
    (unreadable : Unreadable settings files path fault) :
    runSettings settings files =
      ⟨"", "numlang: cannot read " ++ path ++ ": " ++ fault.reason ++ "\n", .ok 2⟩ := by
  obtain ⟨file, isPath, fails⟩ := unreadable
  simp only [runSettings, file, readText_of_path isPath, fails]

/-- Where there is no path or no text, the command breaks off. -/
theorem exists_collapse_of_unusable (unusable : Unusable settings files) :
    ∃ collapse, runSettings settings files = ⟨"", "", .error collapse⟩ := by
  cases unusable with
  | noPath file isNull =>
      exact ⟨.path .nullCharacter, by simp only [runSettings, file, readText_of_null isNull]⟩
  | noText file isPath access noText =>
      obtain ⟨fault, fails⟩ := exists_textOfBytes_error noText
      refine ⟨.undecodable fault, ?_⟩
      simp only [runSettings, file, readText_of_path isPath, access, fails]

/-- An analysis ends in a report, which is shown. -/
theorem exists_report (settings : Settings) (name text : String) :
    ∃ report, analyze (settings.options name) text = .ok report ∧
      runOn settings name text = render settings report := by
  obtain ⟨report, analyzed, -⟩ := analyze_safe (settings.options name) text
  exact ⟨report, analyzed, by rw [runOn, analyzed]⟩

end Running

/-! ## The status -/

/-- An outcome that tells what was found in the chosen file. -/
structure Faithful (settings : Settings) (files : FileAccess) (outcome : Outcome) : Prop where
  /-- A text is analysed. The status is 1 if there is an error among the diagnostics, else 0. -/
  analyzes : ∀ {name text : String}, Chosen settings files name text →
    ∃ report, analyze (settings.options name) text = .ok report ∧
      outcome = render settings report ∧
      (outcome.status = .ok 1 ↔
        ∃ diagnostic ∈ report.diagnostics, diagnostic.severity = .error) ∧
      (outcome.status = .ok 0 ↔
        ∀ diagnostic ∈ report.diagnostics, diagnostic.severity ≠ .error)
  /-- A file that cannot be opened is named on the error output, and the status is 2. -/
  refuses : ∀ {path : String} {fault : AccessFault}, Unreadable settings files path fault →
    outcome = ⟨"", "numlang: cannot read " ++ path ++ ": " ++ fault.reason ++ "\n", .ok 2⟩
  /-- There is a status unless the chosen name is no path or the bytes are no text. -/
  total : (∃ status, outcome.status = .ok status) ↔ ¬ Unusable settings files

/-- The status of a report tells whether it holds an error. -/
theorem render_status (settings : Settings) (report : Report) :
    ((render settings report).status = .ok 1 ↔
        ∃ diagnostic ∈ report.diagnostics, diagnostic.severity = .error) ∧
      ((render settings report).status = .ok 0 ↔
        ∀ diagnostic ∈ report.diagnostics, diagnostic.severity ≠ .error) := by
  have hasErrors_iff : report.hasErrors = true ↔
      ∃ diagnostic ∈ report.diagnostics, diagnostic.severity = .error := by
    simp [Report.hasErrors, DiagnosticLog.hasErrors, Diagnostic.isError]
  have noErrors_iff : report.hasErrors = false ↔
      ∀ diagnostic ∈ report.diagnostics, diagnostic.severity ≠ .error := by
    simp [Report.hasErrors, DiagnosticLog.hasErrors, Diagnostic.isError]
  have status_eq : (render settings report).status = .ok (if report.hasErrors then 1 else 0) := rfl
  rw [status_eq, ← hasErrors_iff, ← noErrors_iff]
  cases report.hasErrors <;> simp

/-- The command ends as the chosen file requires, if the arguments choose one. -/
theorem run_faithful {arguments : List String} {settings : Settings}
    (asks : readArguments arguments = .ok (.analyze settings)) (files : FileAccess) :
    Faithful settings files (run arguments files) := by
  have runs : run arguments files = runSettings settings files := by rw [run, asks]
  rw [runs]
  constructor
  case analyzes =>
    intro name text chosen
    obtain ⟨report, analyzed, shown⟩ := exists_report settings name text
    rw [runSettings_of_chosen chosen, shown]
    exact ⟨report, analyzed, rfl, render_status settings report⟩
  case refuses =>
    intro path fault unreadable
    exact runSettings_of_unreadable unreadable
  case total =>
    constructor
    · rintro ⟨status, hasStatus⟩ unusable
      obtain ⟨collapse, collapses⟩ := exists_collapse_of_unusable unusable
      rw [collapses] at hasStatus
      cases hasStatus
    · intro usable
      rcases chosen_or settings files with
        ⟨name, text, chosen⟩ | ⟨path, fault, unreadable⟩ | unusable
      · obtain ⟨report, -, shown⟩ := exists_report settings name text
        rw [runSettings_of_chosen chosen, shown]
        exact ⟨_, rfl⟩
      · rw [runSettings_of_unreadable unreadable]
        exact ⟨2, rfl⟩
      · exact absurd unusable usable

/-- The command ends so for a file that holds a lone semicolon, also when warnings are dropped. -/
theorem run_faithful_semicolon :
    readArguments ["-W", "ignore", "empty.nl"] =
        .ok (.analyze { file := some "empty.nl", warnings := .ignore }) ∧
      Faithful { file := some "empty.nl", warnings := .ignore } (fun _ => .ok [0x3B])
        (run ["-W", "ignore", "empty.nl"] fun _ => .ok [0x3B]) := by
  have asks : readArguments ["-W", "ignore", "empty.nl"] =
      .ok (.analyze { file := some "empty.nl", warnings := .ignore }) := by decide +kernel
  exact ⟨asks, run_faithful asks _⟩

/-- A file that holds nothing but the byte 0xFF gets no status. -/
theorem run_statusless :
    readArguments ["bad.nl"] = .ok (.analyze { file := some "bad.nl" }) ∧
      ¬ ∃ status, (run ["bad.nl"] fun _ => .ok [0xFF]).status = .ok status := by
  have collapses : (run ["bad.nl"] fun _ => .ok [0xFF]).status =
      .error (.undecodable ⟨0, 1, 0xFF, .startByte⟩) := by decide +kernel
  refine ⟨by decide +kernel, ?_⟩
  rintro ⟨status, hasStatus⟩
  rw [collapses] at hasStatus
  cases hasStatus

end NumericLanguage.Command
