import Alerting.Monitor.Basic
import Alerting.Proofs.Json.Coded

/-!
# Records of which every value decodes back

No member of these records is a floating-point number.  Reading the object that a record is written
as finds its members (`Members.ofRecord?_obj`), and each of them decodes back.
-/

namespace Alerting

/-! ### Names -/

instance : LawfulNamed FieldType := ⟨fun a => by cases a <;> rfl⟩

instance : LawfulNamed Where.Operator := ⟨fun a => by cases a <;> rfl⟩

instance : LawfulNamed Comparison := ⟨fun a => by cases a <;> rfl⟩

instance : LawfulNamed SearchKind := ⟨fun a => by cases a <;> rfl⟩

instance : LawfulNamed Aggregation := ⟨fun a => by cases a <;> rfl⟩

instance : LawfulNamed BucketUnit := ⟨fun a => by cases a <;> rfl⟩

instance : LawfulNamed PeriodUnit := ⟨fun a => by cases a <;> rfl⟩

instance : LawfulNamed Frequency := ⟨fun a => by cases a <;> rfl⟩

instance : LawfulNamed MonthlyKind := ⟨fun a => by cases a <;> rfl⟩

instance : LawfulNamed MonitorKind := ⟨fun a => by cases a <;> rfl⟩

/-! ### Fields and metrics -/

instance : LawfulCoded FieldRef where
  decodesBack f := by
    refine decodesBack_record rfl (fun _ _ => rfl) ?_ ?_ fun rigour => ?_
    · cases f.type <;> simp [optionalMember]
    · cases f.type <;> simp [optionalMember]
    · simp

instance : LawfulCoded Metric where
  decodesBack m := by
    refine decodesBack_record rfl (fun _ _ => rfl) ?_ ?_ fun rigour => ?_ <;> simp

/-! ### Schedules -/

instance : LawfulCoded Period where
  decodesBack p := by
    refine decodesBack_record rfl (fun _ _ => rfl) ?_ ?_ fun rigour => ?_ <;> simp

instance : LawfulCoded Cron where
  decodesBack c := by
    refine decodesBack_record rfl (fun _ _ => rfl) ?_ ?_ fun rigour => ?_
    · simp
    · simp
    · simp [Members.optionalByName]

instance : LawfulCoded Schedule where
  decodesBack s rigour := by
    cases s with
    | period p => exact congrArg (Option.map Schedule.period) (LawfulCoded.decodesBack p rigour)
    | cron c => exact congrArg (Option.map Schedule.cron) (LawfulCoded.decodesBack c rigour)

instance : LawfulCoded Weekdays where
  decodesBack w := by
    refine decodesBack_record rfl (fun _ _ => rfl) ?_ ?_ fun rigour => ?_ <;>
      simp [Weekday.week, Named.all, Weekdays.has, nameOf, Named.name]

instance : LawfulCoded Monthly where
  decodesBack m := by
    refine decodesBack_record rfl (fun _ _ => rfl) ?_ ?_ fun rigour => ?_ <;> simp

instance : LawfulCoded Picker where
  decodesBack p := by
    refine decodesBack_record rfl (fun _ _ => rfl) ?_ ?_ fun rigour => ?_
    · simp [Picker.members]
    · simp [Picker.members, Picker.names]
    · simp [Picker.members, Picker.ofMembers?]

instance : LawfulCoded PickedSchedule where
  decodesBack s := by
    refine decodesBack_record rfl (fun _ _ => rfl) ?_ ?_ fun rigour => ?_
    · simp [Picker.members]
    · simp [Picker.members, Picker.names]
    · simp [Picker.members, Picker.ofMembers?]

/-! ### Searches and triggers -/

instance : LawfulCoded SearchInput where
  decodesBack i rigour := by
    have hsearch : Members.ofRecord? rigour ["indices", "query"]
        (.obj [("indices", encode i.indices), ("query", encode i.query)]) = some _ :=
      Members.ofRecord?_obj (by simp) (by simp)
    show (Members.ofRecord? rigour ["search"] (.obj _)) >>= _ = some i
    rw [Members.ofRecord?_obj (by simp) (by simp)]
    simp [hsearch]

instance : LawfulCoded BucketSelector := ⟨BucketSelector.decodesBack⟩

/-- A trigger is read from its members, if its condition is read from its document. -/
theorem Trigger.ofMembers?_members (condition : Rigour → Json → Option TriggerCondition)
    {rigour : Rigour} {t : Trigger} {j : Json} (h : condition rigour j = some t.condition) :
    Trigger.ofMembers? condition rigour (t.members j) = some t := by
  show (Members.ofRecord? rigour ["id", "name", "severity", "condition", "actions"] (.obj _))
    >>= _ = some t
  rw [Members.ofRecord?_obj]
  · simp [h]
  all_goals cases t.id <;> simp [optionalMember]

instance : LawfulCoded Trigger where
  decodesBack t rigour := by
    obtain ⟨id, name, severity, condition, actions⟩ := t
    cases condition with
    | query script =>
      refine Trigger.ofMembers?_members Trigger.queryCondition? ?_
      show (Members.ofRecord? rigour ["script"] (.obj _)) >>= _ = _
      rw [Members.ofRecord?_obj (by simp) (by simp)]
      simp
    | bucket selector =>
      refine Trigger.ofMembers?_members Trigger.bucketCondition? ?_
      simp [Trigger.bucketCondition?]

end Alerting
