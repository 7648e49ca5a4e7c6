import RpcSession.Logging.Record
import RpcSession.Proofs.Json.ReadValues

/-!
# Attributes of log records

Attributes with a reserved name override what a record has anyway, and all others are extra, each
with the value that was set last. What is extra makes no difference to anything else of the record.
-/

namespace RpcSession

/-! ## Members that are set -/

namespace Json

variable {name other : String} {value : Value} {members attributes : List (String × Value)}

theorem lookup_cons_eq : ((name, value) :: members).lookup other =
    if other = name then some value else members.lookup other := by
  rw [List.lookup_cons]
  split
  · rename_i same
    rw [if_pos (beq_iff_eq.mp same)]
  · rename_i different
    rw [if_neg (beq_eq_false_iff_ne.mp different)]

private theorem lookup_setMember : (setMember name value members).lookup other =
    if other = name then some value else members.lookup other := by
  induction members with
  | nil => exact lookup_cons_eq
  | cons first members induction =>
      rcases first with ⟨present, held⟩
      rw [setMember]
      split
      · rename_i same
        rw [lookup_cons_eq, lookup_cons_eq, same]
        split <;> rfl
      · rw [lookup_cons_eq, lookup_cons_eq, induction]
        grind

private theorem membersAreReadable_setMember (readable : value.IsReadable)
    (others : Value.MembersAreReadable members) :
    Value.MembersAreReadable (setMember name value members) := by
  induction members with
  | nil => exact ⟨readable, trivial⟩
  | cons first members induction =>
      rcases first with ⟨other, present⟩
      rw [setMember]
      split
      · exact ⟨readable, others.2⟩
      · exact ⟨others.1, induction others.2⟩

def setMembers (attributes members : List (String × Value)) : List (String × Value) :=
  attributes.foldl (fun members (name, value) => setMember name value members) members

theorem lookup_setMembers : (setMembers attributes members).lookup name =
    (attributes.reverse.lookup name).or (members.lookup name) := by
  induction attributes generalizing members with
  | nil => rfl
  | cons first attributes induction =>
      rcases first with ⟨other, value⟩
      have step : setMembers ((other, value) :: attributes) members =
          setMembers attributes (setMember other value members) := rfl
      rw [step, induction, lookup_setMember, List.reverse_cons, List.lookup_append,
        Option.or_assoc, lookup_cons_eq, List.lookup_nil]
      split <;> rfl

theorem nodup_setMembers (distinct : (members.map (·.1)).Nodup) :
    ((setMembers attributes members).map (·.1)).Nodup := by
  induction attributes generalizing members with
  | nil => exact distinct
  | cons first attributes induction => exact induction (nodup_setMember distinct)

theorem membersAreReadable_setMembers
    (readable : ∀ entry ∈ attributes, entry.2.IsReadable)
    (others : Value.MembersAreReadable members) :
    Value.MembersAreReadable (setMembers attributes members) := by
  induction attributes generalizing members with
  | nil => exact others
  | cons first attributes induction =>
      exact induction (fun entry member => readable entry (List.mem_cons_of_mem _ member))
        (membersAreReadable_setMember (readable first List.mem_cons_self) others)

theorem setMembers_eq_nil_iff : setMembers attributes [] = [] ↔ attributes = [] := by
  constructor
  · intro empty
    rw [List.eq_nil_iff_forall_not_mem]
    rintro ⟨name, value⟩ member
    have found : attributes.reverse.lookup name = none := by
      have told : (setMembers attributes []).lookup name =
          (attributes.reverse.lookup name).or none := lookup_setMembers
      rw [empty, List.lookup_nil, Option.or_none] at told
      exact told.symm
    have absent := List.lookup_eq_none_iff.mp found (name, value) (List.mem_reverse.mpr member)
    simp at absent
  · rintro rfl
    rfl

end Json

/-! ## Attributes that are set

An attribute of a reserved name overrides what every record has, whatever is extra. All others are
extra, and what was set last counts. -/

namespace Logging.Record

def fixedNames : List String := ["getMessage", "__class__", "__dict__", "__weakref__"]

def withExtra (record : Record) (extra : List (String × Value)) : Record :=
  { record with extra := extra }

def overriding (attributes : List (String × Value)) : List (String × Value) :=
  attributes.filter (·.1 ∈ reservedNames)

def additional (attributes : List (String × Value)) : List (String × Value) :=
  attributes.filter (·.1 ∉ reservedNames)

variable {record : Record} {name : String} {value : Value} {attributes : List (String × Value)}

private theorem set_of_reserved (reserved : name ∈ reservedNames) :
    ∃ after : Record,
      ∀ extra, (record.withExtra extra).set name value = .ok (after.withExtra extra) := by
  refine ⟨(record.set name value).toOption.getD record, ?_⟩
  simp only [reservedNames, List.mem_cons, List.not_mem_nil, or_false] at reserved
  rcases reserved with rfl | rfl | rfl | rfl | rfl | rfl | rfl | rfl | rfl | rfl | rfl | rfl | rfl |
    rfl | rfl | rfl | rfl | rfl | rfl | rfl | rfl | rfl | rfl <;>
    exact fun _ => rfl

private theorem set_of_additional (other : name ∉ reservedNames) (free : name ∉ fixedNames) :
    record.set name value = .ok (record.withExtra (Json.setMember name value record.extra)) := by
  have unreserved : reservedNames.contains name = false := by simpa using other
  simp only [reservedNames, List.mem_cons, List.not_mem_nil, or_false, not_or] at other
  simp only [fixedNames, List.mem_cons, List.not_mem_nil, or_false, not_or] at free
  unfold set
  split
  case h_15 => rw [unreserved]; rfl
  all_goals simp at other free

theorem setAll_cons {after : Record} (step : record.set name value = .ok after) :
    record.setAll ((name, value) :: attributes) = after.setAll attributes := by
  rw [setAll, List.foldlM_cons]
  dsimp only
  rw [step]
  rfl

private theorem lookup_filter (keeps : String → Bool) (attributes : List (String × Value))
    (name : String) :
    (attributes.filter fun entry => keeps entry.1).lookup name =
      if keeps name then attributes.lookup name else none := by
  induction attributes with
  | nil => simp
  | cons first attributes induction =>
      rcases first with ⟨other, value⟩
      rw [List.filter_cons, Json.lookup_cons_eq]
      by_cases same : name = other
      · subst same
        split
        · rw [Json.lookup_cons_eq, if_pos rfl, if_pos rfl]
        · rename_i dropped
          rw [induction, if_neg dropped]
      · rw [if_neg same]
        split
        · rw [Json.lookup_cons_eq, if_neg same, induction]
        · exact induction

theorem lookup_additional (attributes : List (String × Value)) (name : String) :
    (Json.setMembers (additional attributes) []).lookup name =
      if name ∈ reservedNames then none else attributes.reverse.lookup name := by
  have kept := lookup_filter (fun name => decide (name ∉ reservedNames)) attributes.reverse name
  rw [Json.lookup_setMembers, additional, ← List.filter_reverse, List.lookup_nil, Option.or_none]
  refine kept.trans ?_
  by_cases reserved : name ∈ reservedNames <;> simp [reserved]

/-- Setting attributes one after the other: those with reserved names override, whatever is extra,
and all others are set among what is extra. -/
theorem setAll_eq (record : Record) {attributes : List (String × Value)}
    (free : ∀ entry ∈ attributes, entry.1 ∉ fixedNames) :
    ∃ plain : Record, ∀ extra,
      (record.withExtra extra).setAll (overriding attributes) = .ok (plain.withExtra extra) ∧
      (record.withExtra extra).setAll attributes =
        .ok (plain.withExtra (Json.setMembers (additional attributes) extra)) := by
  induction attributes generalizing record with
  | nil => exact ⟨record, fun extra => ⟨rfl, rfl⟩⟩
  | cons first attributes induction =>
      rcases first with ⟨name, value⟩
      have rest (record : Record) := induction record fun entry member =>
        free entry (List.mem_cons_of_mem _ member)
      unfold overriding additional at rest ⊢
      by_cases reserved : name ∈ reservedNames
      · have overridden : ∃ after : Record, ∀ extra,
            (record.withExtra extra).set name value = .ok (after.withExtra extra) :=
          set_of_reserved reserved
        rcases overridden with ⟨after, overrides⟩
        rcases rest after with ⟨plain, sets⟩
        rw [List.filter_cons_of_pos (by simpa using reserved),
          List.filter_cons_of_neg (by simpa using reserved)]
        refine ⟨plain, fun extra => ?_⟩
        rw [setAll_cons (overrides extra), setAll_cons (overrides extra)]
        exact sets extra
      · rcases rest record with ⟨plain, sets⟩
        rw [List.filter_cons_of_neg (by simpa using reserved),
          List.filter_cons_of_pos (by simpa using reserved)]
        refine ⟨plain, fun extra => ⟨(sets extra).1, ?_⟩⟩
        rw [setAll_cons (set_of_additional reserved (free _ List.mem_cons_self))]
        exact (sets _).2

end Logging.Record

end RpcSession
