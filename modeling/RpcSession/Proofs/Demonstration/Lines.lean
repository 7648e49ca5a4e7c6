import RpcSession.Proofs.Configuration.Reading
import RpcSession.Proofs.Demonstration.Course
import RpcSession.Proofs.Json.OneLine
import RpcSession.Proofs.Json.ReadValues

/-!
# Lines of a demonstration

Every message that a demonstration writes is one line, which is read back as the message. It is a
text of the grammar of JSON unless there is a double among the capabilities that is not finite.
-/

namespace RpcSession.Demonstration

open Session Json

/-! ## Messages -/

/-- A value that is one of the standard and that the reader may return. -/
structure IsPlain (value : Value) : Prop where
  standard : value.isStandard = true
  read : value.IsRead

theorem greeting_isStandard (capabilities : Value) :
    (greeting capabilities).isStandard = capabilities.isStandard := by
  simp [greeting, Message.resultResponse, Message.version, Value.isStandard,
    Value.membersAreStandard]

theorem isRead_of_lt {number : ℤ} (small : number.natAbs < 10 ^ 3) : (Value.int number).IsRead := by
  rw [Value.IsRead, Nat.length_toDigits_le_iff (by decide) (by decide)]
  exact Nat.lt_of_lt_of_le small (Nat.pow_le_pow_right (by decide) (by decide))

private theorem greeting_isRead {capabilities : Value} (read : capabilities.IsRead) :
    (greeting capabilities).IsRead := by
  have outer : ["jsonrpc", "id", "result"].Nodup := by decide
  have inner : ["capabilities"].Nodup := by decide
  exact ⟨outer, trivial, isRead_of_lt (by decide), ⟨inner, read, trivial⟩, trivial⟩

theorem notification_isPlain {progress : Progress} (token : progress.token.natAbs < 10 ^ 3)
    {title message : String} (titled : progress.title = .string title)
    (messaged : progress.message = .string message) : IsPlain progress.notification := by
  rcases progress with ⟨number, stage, given, told, percentage⟩
  cases titled
  cases messaged
  have outer : ["jsonrpc", "method", "params"].Nodup := by decide
  have params : ["token", "value"].Nodup := by decide
  have number := isRead_of_lt token
  cases percentage with
  | none =>
      have facts : ["kind", "id", "title", "message"].Nodup := by decide
      exact ⟨rfl, outer, trivial, trivial, ⟨params, number,
        ⟨facts, trivial, number, trivial, trivial, trivial⟩, trivial⟩, trivial⟩
  | some percentage =>
      have facts : ["kind", "id", "title", "message", "percentage"].Nodup := by decide
      have small : (percentage.val : ℤ).natAbs < 10 ^ 3 := by
        have most := percentage.isLt
        omega
      exact ⟨rfl, outer, trivial, trivial, ⟨params, number,
        ⟨facts, trivial, number, trivial, trivial, isRead_of_lt small, trivial⟩, trivial⟩, trivial⟩

theorem opening_isPlain : IsPlain (Walk.opening 4).notification :=
  notification_isPlain (by decide) rfl rfl

theorem remaining_isPlain {files reached count : ℕ} {message : Value}
    (member : message ∈ remaining 4 files reached count) : IsPlain message := by
  have small : (4 : ℤ).natAbs < 10 ^ 3 := by decide
  rcases List.mem_append.mp member with report | ending
  · rcases List.mem_map.mp report with ⟨index, _, rfl⟩
    exact notification_isPlain small rfl rfl
  · cases List.mem_singleton.mp ending
    exact notification_isPlain small rfl rfl

/-! ## Accepted files -/

private theorem isRead_of_lookup {name : String} {value : Value} {members : List (String × Value)}
    (read : Value.MembersAreRead members) (found : members.lookup name = some value) :
    value.IsRead := by
  induction members with
  | nil => cases found
  | cons first members induction =>
      rcases first with ⟨other, member⟩
      rw [List.lookup_cons] at found
      split at found
      · cases found
        exact read.1
      · exact induction read.2 found

private theorem isRead_defaultCapabilities : (Value.object defaultCapabilities).IsRead := by
  have outer : ["window", "referencesProvider", "definitionProvider", "textDocument"].Nodup := by
    decide
  have window : ["workDoneProgress", "showMessage", "showDocument"].Nodup := by decide
  have progress : ["workDoneProgress"].Nodup := by decide
  have formatting : ["formatting"].Nodup := by decide
  have registration : ["dynamicRegistration"].Nodup := by decide
  exact ⟨outer, ⟨window, trivial, trivial, trivial, trivial⟩, ⟨progress, trivial, trivial⟩,
    ⟨progress, trivial, trivial⟩, ⟨formatting, ⟨registration, trivial, trivial⟩, trivial⟩, trivial⟩

/-- What an accepted file gives a demonstration. -/
structure Accepted (members : List (String × Value)) (configuration : Configuration) : Prop where
  positive : ¬configuration.progressInterval ≤ 0
  capabilities : configuration.capabilities =
    (members.lookup "capabilities").getD (.object defaultCapabilities)
  read : configuration.capabilities.IsRead

theorem accepted_of_ofBytes {bytes : List UInt8} {configuration : Configuration}
    (accepted : Configuration.ofBytes bytes = .ok configuration) :
    ∃ characters members, Text.Utf8.decode bytes = .ok characters ∧
      Json.read (Configuration.joinLineEnds characters) = .ok (.object members) ∧
      Accepted members configuration := by
  rcases Configuration.isTaken_of_accepted accepted with
    ⟨members, ⟨characters, decoded, document⟩, taken⟩
  refine ⟨characters, members, decoded, document, taken.positive, taken.capabilities, ?_⟩
  have read := isRead_of_read document
  rw [taken.capabilities, Configuration.capabilitiesOf]
  cases found : members.lookup "capabilities" with
  | none => exact isRead_defaultCapabilities
  | some value => exact isRead_of_lookup read.2 found

/-! ## Lines -/

def line (message : Value) : String := Json.text compact message ++ "\n"

theorem output_eq (sink : Logging.Sink) (session : Session) :
    (CommandLine.Report.ofSession sink session).output =
      String.join ((written session).map line) := by
  rw [written, List.map_filterMap]
  rfl

theorem toList_line (message : Value) :
    (line message).toList = render compact message ++ ['\n'] := by
  rw [line, Json.text, String.toList_append, String.toList_ofList]
  rfl

/-- A line of a message: its only line end is the last character, and it is read as the message. -/
structure IsLineOf (message : Value) (line : String) : Prop where
  ends : ∃ text, line.toList = text ++ ['\n'] ∧ '\n' ∉ text
  read : Json.read line.toList = .ok message

private theorem isLineOf_line {message : Value} (plain : IsPlain message) :
    IsLineOf message (line message) := by
  constructor
  · refine ⟨render compact message, toList_line message, fun member => ?_⟩
    exact absurd (isOneLine_render compact_isOnLine message '\n' member) (by decide)
  · rw [toList_line]
    exact read_render_of_isRead compact_isOrdinary plain.read
      (List.forall_mem_singleton.mpr rfl)

def messagesOf (capabilities : Value) (files : ℕ) : List Value :=
  greeting capabilities :: (walk 4 files).map (·.notification)

theorem remaining_eq (files : ℕ) :
    (Walk.opening 4).notification :: remaining 4 files 0 files =
      (walk 4 files).map (·.notification) := by
  simp [remaining, walk, Walk.reports, Function.comp_def]

private theorem length_messagesOf (capabilities : Value) (files : ℕ) :
    (messagesOf capabilities files).length = files + 3 := by
  simp [messagesOf, walk]

private theorem isPlain_of_mem_messagesOf {capabilities : Value} {files : ℕ}
    (plain : IsPlain capabilities)
    {message : Value} (member : message ∈ messagesOf capabilities files) : IsPlain message := by
  rw [messagesOf, ← remaining_eq] at member
  rcases List.mem_cons.mp member with rfl | member
  · exact ⟨(greeting_isStandard capabilities).trans plain.standard, greeting_isRead plain.read⟩
  · rcases List.mem_cons.mp member with rfl | member
    · exact opening_isPlain
    · exact remaining_isPlain member

private theorem play_writes {configuration : Configuration}
    (positive : ¬configuration.progressInterval ≤ 0) {given : Option Int} {seed : Int} {files : ℕ}
    (indexes : Indexes given seed files) (any : 0 < files) (few : files ≤ mostFiles) (extra : ℕ) :
    ∃ after, play (extra + files + 4) given (some seed) { configuration } = (.value (), after) ∧
      after.lifecycle.stopped = true ∧
      written after = messagesOf configuration.capabilities files := by
  rcases files with _ | left
  · cases any
  have all := (reachedPercentage_eq_hundred_iff any (Nat.le_refl _) few).mpr rfl
  have under : ∀ indexed, 0 < indexed → indexed < left + 1 →
      reachedPercentage indexed (left + 1) ≠ 100 := by
    intro indexed _ less reached
    have same := (reachedPercentage_eq_hundred_iff any (by omega) few).mp reached
    omega
  rcases play_walks positive indexes (Nat.le_refl _) all under extra with
    ⟨after, played, stopped, told⟩
  exact ⟨after, played, stopped, by rw [told, remaining_eq, messagesOf]⟩

/-- Given a file of standard capabilities, a demonstration writes one line for every message, of
which the first has the capabilities of the file, and every line is read back as its message. -/
theorem demonstration_lines_read_back {bytes : List UInt8} {configuration : Configuration}
    (accepted : Configuration.ofBytes bytes = .ok configuration)
    (standard : configuration.capabilities.isStandard = true) {given : Option Int} {seed : Int}
    {files : ℕ} (indexes : Indexes given seed files) (any : 1 ≤ files) (few : files ≤ 2 ^ 53) :
    ∃ characters members capabilities, ∃ messages : List Value,
      Text.Utf8.decode bytes = .ok characters ∧
      Json.read (Configuration.joinLineEnds characters) = .ok (.object members) ∧
      capabilities = (members.lookup "capabilities").getD (.object defaultCapabilities) ∧
      messages.head? = some (.object [("jsonrpc", .string "2.0"), ("id", .int 2),
        ("result", .object [("capabilities", capabilities)])]) ∧
      messages.tail = (walk 4 files).map (·.notification) ∧
      messages.length = files + 3 ∧
      (∀ message ∈ messages, IsLineOf message (line message)) ∧
      ∃ enough, ∀ fuel, enough ≤ fuel → ∃ session,
        play fuel given (some seed) { configuration } = (.value (), session) ∧
          session.lifecycle.stopped = true ∧
          ∀ sink, (CommandLine.Report.ofSession sink session).output =
            String.join (messages.map line) := by
  rcases accepted_of_ofBytes accepted with ⟨characters, members, decoded, document, taken⟩
  refine ⟨characters, members, configuration.capabilities,
    messagesOf configuration.capabilities files, decoded, document, taken.capabilities, rfl, rfl,
    length_messagesOf _ files, ?_, files + 4, ?_⟩
  · intro message member
    exact isLineOf_line (isPlain_of_mem_messagesOf ⟨standard, taken.read⟩ member)
  · intro fuel enough
    rcases play_writes taken.positive indexes any few (fuel - (files + 4)) with
      ⟨session, played, stopped, told⟩
    have same : fuel - (files + 4) + files + 4 = fuel := by omega
    rw [same] at played
    exact ⟨session, played, stopped, fun sink => by rw [output_eq, told]⟩

def weightedFile : List UInt8 := "\x7b\"capabilities\": \x7b\"weight\": 1.5\x7d\x7d".toUTF8.toList

theorem demonstration_lines_read_back_of_weightedFile :
    ∃ configuration, Configuration.ofBytes weightedFile = .ok configuration ∧
      configuration.capabilities.isStandard = true ∧
      Indexes (some 2) 0 2 ∧ 1 ≤ 2 ∧ 2 ≤ 2 ^ 53 ∧
      ∃ messages : List Value, messages.length = 5 ∧
        (∀ message ∈ messages, IsLineOf message (line message)) ∧
        ∃ fuel session, play fuel (some 2) (some 0) { configuration } = (.value (), session) ∧
          (CommandLine.Report.ofSession ⟨20, false⟩ session).output =
            String.join (messages.map line) := by
  have fit : (Configuration.ofBytes weightedFile).toOption.any (·.capabilities.isStandard) =
      true := by decide +kernel
  rcases Configuration.exists_accepted fit with ⟨configuration, accepted, fit⟩
  have indexes : Indexes (some 2) 0 2 := .given rfl
  rcases demonstration_lines_read_back accepted fit indexes (by decide) (by decide) with
    ⟨_, _, _, messages, _, _, _, _, _, length, lines, enough, plays⟩
  rcases plays enough (Nat.le_refl _) with ⟨session, played, _, output⟩
  exact ⟨configuration, accepted, fit, indexes, by decide, by decide, messages, length, lines,
    enough, session, played, output _⟩

end RpcSession.Demonstration
