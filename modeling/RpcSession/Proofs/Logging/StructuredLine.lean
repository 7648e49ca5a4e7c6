import RpcSession.Proofs.Json.OneLine
import RpcSession.Proofs.Logging.Attributes
import RpcSession.Proofs.Logging.Calendar

/-!
# Structured lines of log records

The structured line of a record is one line, whatever is in its texts and in what is extra. It is
read back as an object whose members say what the record has anyway, and what is extra stands apart
from them under a name of its own.
-/

namespace RpcSession.Logging

open Json

/-! ## Standard records -/

namespace Trace

/-- What may stand for a failure: nothing, a failure that was raised, or the three parts of one, of
which the last would say where it came from. Three times nothing are the parts of no failure. -/
inductive IsStandard : Trace → Prop
  | absent : IsStandard absent
  | raised (failure : Failure) : IsStandard (raised failure)
  | empty {value : Value} (falsy : value.isTruthy = false) : IsStandard (given value)
  | parts (kind : Value) (type display literal : String) :
      IsStandard (given (.array [kind, .foreign type display literal, .null]))
  | nobody : IsStandard (given (.array [.null, .null, .null]))

private theorem IsStandard.exists_report {trace : Trace} (standard : trace.IsStandard) :
    ∃ report, trace.report = .ok report ∧ report.isSome = trace.isPresent := by
  cases standard with
  | absent => exact ⟨none, rfl, rfl⟩
  | raised failure => exact ⟨some failure.report, rfl, rfl⟩
  | empty falsy => exact ⟨none, by simp [report, falsy], by simp [isPresent, falsy]⟩
  | parts kind type display literal => exact ⟨_, rfl, rfl⟩
  | nobody => exact ⟨_, rfl, rfl⟩

end Trace

namespace Record

/-- A record whose attributes are of the kinds that records are made with, at a time that can be
told, and whose arguments fit its message. -/
structure IsStandard (record : Record) : Prop where
  logger : ∃ text, record.logger = .string text
  levelName : ∃ text, record.levelName = .string text
  created : IsInRange record.created
  fits : ∃ text, record.text = .ok text
  failure : record.failure.IsStandard

end Record

/-! ## What lines tell -/

/-- What the line of a record tells apart from what is extra. -/
structure Account where
  time : String
  level : String
  logger : String
  text : String
  report : Option String

namespace Account

/-- The account of a record, in which there is a report exactly if the record has a failure. -/
structure IsOf (account : Account) (record : Record) : Prop where
  time : fullTime record.created = .ok account.time
  level : record.levelName = .string account.level
  logger : record.logger = .string account.logger
  text : record.text = .ok account.text
  report : record.failure.report = .ok account.report
  present : account.report.isSome = record.failure.isPresent

def members (account : Account) (extra : List (String × Value)) : List (String × Value) :=
  [("timestamp", .string account.time), ("level", .string account.level),
    ("logger", .string account.logger), ("message", .string account.text)] ++
    (if extra.isEmpty then [] else [("extra", .object extra)]) ++
    (account.report.map fun report => ("exc_info", Value.string report)).toList

variable {account : Account} {record : Record} {extra : List (String × Value)}

private theorem exists_isOf (standard : record.IsStandard) : ∃ account :
    Account, account.IsOf record := by
  rcases standard with ⟨⟨logger, named⟩, ⟨level, leveled⟩, inRange, ⟨text, filled⟩, failure⟩
  rcases exists_fullTime inRange with ⟨time, told⟩
  rcases failure.exists_report with ⟨report, reported, present⟩
  exact ⟨⟨time, level, logger, text, report⟩, told, leveled, named, filled, reported, present⟩

theorem payload_eq (isOf : account.IsOf record) :
    record.payload = .ok (.object (account.members record.extra)) := by
  unfold Record.payload
  rw [isOf.time, isOf.level, isOf.logger, isOf.text, isOf.report]
  rfl

private theorem names_members : (account.members extra).map (·.1) =
    ["timestamp", "level", "logger", "message"] ++ (if extra.isEmpty then [] else ["extra"]) ++
      (if account.report.isSome then ["exc_info"] else []) := by
  rcases account with ⟨time, level, logger, text, report⟩
  cases report <;> cases extra <;> rfl

private theorem isReadable_members (distinct : (extra.map (·.1)).Nodup)
    (readable : Value.MembersAreReadable extra) :
    (Value.object (account.members extra)).IsReadable := by
  constructor
  · rw [names_members]
    cases extra.isEmpty <;> cases account.report.isSome <;> decide
  · rcases account with ⟨time, level, logger, text, report⟩
    cases extra with
    | nil => cases report <;> exact ⟨trivial, trivial, trivial, trivial, by trivial⟩
    | cons first extra =>
        have inner : (Value.object (first :: extra)).IsReadable := ⟨distinct, readable⟩
        cases report <;> exact ⟨trivial, trivial, trivial, trivial, inner, by trivial⟩

private theorem membersReadBack_members : Value.membersReadBack (account.members extra) =
    account.members (Value.membersReadBack extra) := by
  rcases account with ⟨time, level, logger, text, report⟩
  cases report <;> rcases extra with _ | ⟨⟨name, value⟩, extra⟩ <;> rfl

private theorem structuredLine_holds (isOf : account.IsOf record)
    (distinct : (record.extra.map (·.1)).Nodup)
    (readable : Value.MembersAreReadable record.extra) :
    ∃ line, record.structuredLine = .ok line ∧ IsOneLine line.toList ∧
      Json.read line.toList =
        .ok (.object (account.members (Value.membersReadBack record.extra))) := by
  refine ⟨Json.text spaced (.object (account.members record.extra)), ?_, ?_, ?_⟩
  · rw [Record.structuredLine, payload_eq isOf]
    rfl
  · rw [Json.text, String.toList_ofList]
    exact isOneLine_render spaced_isOnLine _
  · have blank : ∀ mark ∈ ([] : List Char), isSpace mark = true := by simp
    have read := read_render spaced_isOrdinary (account.isReadable_members distinct readable) blank
    rw [List.append_nil] at read
    rw [Json.text, String.toList_ofList, read, Value.readBack, membersReadBack_members]

end Account

/-! ## Attributes in lines -/

namespace Record

variable {record : Record} {extra : List (String × Value)}

private theorem isStandard_withExtra : (record.withExtra extra).IsStandard ↔ record.IsStandard :=
  ⟨fun standard => ⟨standard.logger, standard.levelName, standard.created, standard.fits,
      standard.failure⟩,
    fun standard => ⟨standard.logger, standard.levelName, standard.created, standard.fits,
      standard.failure⟩⟩

private theorem isOf_withExtra {account : Account} :
    account.IsOf (record.withExtra extra) ↔ account.IsOf record :=
  ⟨fun isOf => ⟨isOf.time, isOf.level, isOf.logger, isOf.text, isOf.report, isOf.present⟩,
    fun isOf => ⟨isOf.time, isOf.level, isOf.logger, isOf.text, isOf.report, isOf.present⟩⟩

private theorem lookup_membersReadBack (members : List (String × Value)) (name : String) :
    (Value.membersReadBack members).lookup name = (members.lookup name).map Value.readBack := by
  induction members with
  | nil => rfl
  | cons first members induction =>
      rcases first with ⟨other, value⟩
      rw [Value.membersReadBack, lookup_cons_eq, lookup_cons_eq, induction]
      split <;> rfl

/-- What is extra in a line: what the attributes were set to last, under the names that are not
reserved. -/
structure IsExtra (attributes extra : List (String × Value)) : Prop where
  distinct : (extra.map (·.1)).Nodup
  last (name : String) : extra.lookup name =
    if name ∈ reservedNames then none else (attributes.reverse.lookup name).map Value.readBack
  empty : extra = [] ↔ ∀ entry ∈ attributes, entry.1 ∈ reservedNames

private theorem isExtra_additional (attributes : List (String × Value)) :
    IsExtra attributes (Value.membersReadBack (setMembers (additional attributes) [])) := by
  have none : (([] : List (String × Value)).map (·.1)).Nodup := List.nodup_nil
  refine ⟨?_, fun name => ?_, ?_⟩
  · rw [Value.membersReadBack_eq_map, List.map_map]
    exact nodup_setMembers none
  · rw [lookup_membersReadBack, lookup_additional]
    split <;> rfl
  · rw [Value.membersReadBack_eq_map, List.map_eq_nil_iff, setMembers_eq_nil_iff, additional,
      List.filter_eq_nil_iff]
    simp

/-- Whatever attributes are set, the line of a standard record is one line. It is read back as an
object with the account of the record and what is extra, if anything is; and the account is that of
the record without any extra attribute. -/
theorem structured_line_holds_account (record : Record) (fresh : record.extra = [])
    {attributes : List (String × Value)} (free : ∀ entry ∈ attributes, entry.1 ∉ fixedNames)
    (readable : ∀ entry ∈ attributes, entry.2.IsReadable) :
    ∃ after plain extra, record.setAll attributes = .ok after ∧
      record.setAll (overriding attributes) = .ok plain ∧ IsExtra attributes extra ∧
      (after.IsStandard → ∃ (account : Account) (line plainLine : String),
        account.IsOf after ∧ account.IsOf plain ∧
        after.structuredLine = .ok line ∧ IsOneLine line.toList ∧
        Json.read line.toList = .ok (.object (account.members extra)) ∧
        plain.structuredLine = .ok plainLine ∧
        Json.read plainLine.toList = .ok (.object (account.members []))) := by
  rcases setAll_eq record free with ⟨plain, sets⟩
  have same : record.withExtra [] = record := by
    rw [← fresh]
    rfl
  rcases sets [] with ⟨overridden, set⟩
  rw [same] at overridden set
  refine ⟨_, _, _, set, overridden, isExtra_additional attributes, fun standard => ?_⟩
  rcases Account.exists_isOf (isStandard_withExtra.mp standard) with ⟨account, isOf⟩
  have none : (([] : List (String × Value)).map (·.1)).Nodup := List.nodup_nil
  have members_readable : Value.MembersAreReadable (setMembers (additional attributes) []) :=
    membersAreReadable_setMembers (fun entry member =>
      readable entry (List.mem_of_mem_filter member)) trivial
  rcases Account.structuredLine_holds (isOf_withExtra.mpr isOf)
    (nodup_setMembers none) members_readable with ⟨line, written, oneLine, read⟩
  have bare : account.IsOf (plain.withExtra []) := isOf_withExtra.mpr isOf
  rcases Account.structuredLine_holds bare none trivial with ⟨plainLine, plainWritten, _, plainRead⟩
  exact ⟨account, line, plainLine, isOf_withExtra.mpr isOf, bare, written, oneLine, read,
    plainWritten, plainRead⟩

def contested : Record :=
  .make (.string "a\nb") 20 (.string "%s\x7d") [.string "x\", \"extra\": 1"] (.float 1.5)
    (some .noFiles)

def contesting : List (String × Value) := [
  ("timestamp", .string "now"), ("extra", .foreign "ValueError" "\n" "ValueError('\\n')"),
  ("levelname", .string "AUDIT"), ("timestamp", .int 2)]

theorem structured_line_holds_account_of_contesting :
    ∃ (after : Record) (account : Account) (line : String) (extra : List (String × Value)),
      contested.setAll contesting = .ok after ∧ after.structuredLine = .ok line ∧
      IsOneLine line.toList ∧ Json.read line.toList = .ok (.object (account.members extra)) ∧
      account.level = "AUDIT" ∧ extra.lookup "timestamp" = some (.int 2) ∧
      extra.lookup "extra" = some (.string "\n") := by
  have free : ∀ entry ∈ contesting, entry.1 ∉ fixedNames := by decide
  have readable : ∀ entry ∈ contesting, entry.2.IsReadable := by
    simp only [contesting, List.forall_mem_cons]
    exact ⟨trivial, trivial, trivial, by unfold Value.IsReadable; decide, nofun⟩
  rcases structured_line_holds_account contested rfl free readable with
    ⟨after, plain, extra, set, _, isExtra, holds⟩
  have shown : contested.setAll contesting = .ok
      { contested with
        levelName := .string "AUDIT"
        extra := [("timestamp", .int 2),
          ("extra", .foreign "ValueError" "\n" "ValueError('\\n')")] } := rfl
  cases shown.symm.trans set
  have standard : contested.IsStandard := by
    refine ⟨⟨_, rfl⟩, ⟨_, rfl⟩, ⟨_, rfl, ?_, ?_⟩, ⟨_, rfl⟩, .raised _⟩
    · decide +kernel
    · decide +kernel
  rcases holds ⟨standard.logger, ⟨_, rfl⟩, standard.created, standard.fits, standard.failure⟩ with
    ⟨account, line, _, isOf, _, written, oneLine, read, _⟩
  have level := Value.string.inj isOf.level
  exact ⟨_, account, line, extra, rfl, written, oneLine, read, level.symm, isExtra.last "timestamp",
    isExtra.last "extra"⟩

end Record

end RpcSession.Logging
