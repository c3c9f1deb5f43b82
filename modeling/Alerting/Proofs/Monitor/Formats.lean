import Alerting.Proofs.Json.Records
import Alerting.Proofs.Monitor.Compiled

/-!
# Formats

The formats of documents and forms are stable: what was read from any way of writing a document
decodes back.  A record with numbers does so if its numbers do, and those of a document do, as do
those that stand for a member that is absent.

* `formats_stable` : every format is stable, so writing a document again and again changes nothing;
  and a monitor compiled from forms that were read is read from storage as it was compiled.
* `MonitorForm.decodesBack_of_compile` : compiling needs only that the members of the forms that are
  kept in the sidecar decode back.
-/

namespace Alerting

/-! ### Searches -/

namespace Where.Clause

theorem decodesBack {c : Clause} (hs : DecodesBack c.rangeStart) (he : DecodesBack c.rangeEnd) :
    DecodesBack c := by
  refine decodesBack_record rfl (fun _ _ => rfl) ?_ ?_ fun rigour => ?_
  · cases c.rangeStart <;> cases c.rangeEnd <;> simp [optionalMember]
  · cases c.rangeStart <;> cases c.rangeEnd <;> simp [optionalMember]
  · simp [hs, he]

theorem initial_decodesBack : DecodesBack initial := decodesBack decodesBack_none decodesBack_none

instance : StableCoded Clause where
  decodesBack_of_decode h := by
    simp only [decodeWith?, Coded.decode?, Option.bind_eq_bind, Option.bind_eq_some_iff,
      Option.pure_def, Option.some.injEq] at h
    obtain ⟨m, -, fields, -, operator, -, value, -, rangeStart, hs, rangeEnd, he, rfl⟩ := h
    exact decodesBack (Members.decodesBack_of_optional hs) (Members.decodesBack_of_optional he)

instance : NonNull Clause := ⟨fun _ => rfl⟩

end Where.Clause

namespace Search

theorem decodesBack {s : Search} (h : DecodesBack s.filter) : DecodesBack s := by
  refine decodesBack_record rfl (fun _ _ => rfl) ?_ ?_ fun rigour => ?_
  · simp [members]
  · simp [members, names]
  · simp [ofMembers?, members, h]

theorem initial_decodesBack : DecodesBack initial := decodesBack Where.Clause.initial_decodesBack

theorem filter_decodesBack_of_ofMembers? {m : Members} {s : Search} (h : ofMembers? m = some s) :
    DecodesBack s.filter := by
  simp only [ofMembers?, Option.bind_eq_bind, Option.bind_eq_some_iff, Option.pure_def,
    Option.some.injEq] at h
  obtain ⟨_, -, _, -, _, -, _, -, _, -, _, -, filter, hf, _, -, _, -, _, -, rfl⟩ := h
  exact Members.decodesBack_of_withDefault hf Where.Clause.initial_decodesBack

instance : StableCoded Search where
  decodesBack_of_decode h := by
    obtain ⟨m, -, hm⟩ := Option.bind_eq_some_iff.1 h
    exact decodesBack (filter_decodesBack_of_ofMembers? hm)

end Search

namespace MonitorForm

theorem decodesBack {m : MonitorForm} (h : DecodesBack m.search.filter) : DecodesBack m := by
  refine decodesBack_record rfl (fun _ _ => rfl) ?_ ?_ fun rigour => ?_
  · simp [Picker.members, Search.members]
  · simp [Picker.members, Search.members, names, Picker.names, Search.names]
  · simp [Picker.ofMembers?, Picker.members, Search.ofMembers?, Search.members, h]

theorem filter_decodesBack_of_decode {rigour : Rigour} {j : Json} {m : MonitorForm}
    (h : decodeWith? MonitorForm rigour j = some m) : DecodesBack m.search.filter := by
  simp only [decodeWith?, Coded.decode?, Option.bind_eq_bind, Option.bind_eq_some_iff,
    Option.pure_def, Option.some.injEq] at h
  obtain ⟨_, -, _, -, _, -, _, -, _, -, _, -, _, -, _, -, search, hs, rfl⟩ := h
  exact Search.filter_decodesBack_of_ofMembers? hs

instance : StableCoded MonitorForm where
  decodesBack_of_decode h := decodesBack (filter_decodesBack_of_decode h)

end MonitorForm

/-! ### Triggers -/

namespace Condition

/-- A joiner that is left out is read as none. -/
theorem decodeJoiner?_getD (o : Option Joiner) :
    decodeJoiner? ((o.map encode).getD .null) = some o := by
  cases o with
  | none => rfl
  | some joiner => cases joiner <;> rfl

theorem decodesBack {c : Condition} (h : DecodesBack c.threshold) : DecodesBack c := by
  refine decodesBack_record rfl (fun _ _ => rfl) ?_ ?_ fun rigour => ?_
  · cases c.joiner <;> simp [optionalMember]
  · cases c.joiner <;> simp [optionalMember]
  · simp [h, decodeJoiner?_getD]

instance : StableCoded Condition where
  decodesBack_of_decode h := by
    simp only [decodeWith?, Coded.decode?, Option.bind_eq_bind, Option.bind_eq_some_iff,
      Option.pure_def, Option.some.injEq] at h
    obtain ⟨m, -, metric, -, comparison, -, threshold, ht, joiner, -, rfl⟩ := h
    exact decodesBack (Members.decodesBack_of_required ht)

end Condition

namespace AnomalyThresholds

/-- The numbers of the thresholds decode back. -/
structure Readable (a : AnomalyThresholds) : Prop where
  grade : DecodesBack a.grade.value
  confidence : DecodesBack a.confidence.value

theorem initial_readable : initial.Readable :=
  ⟨decodesBack_of_isFinite (by decide +kernel), decodesBack_of_isFinite (by decide +kernel)⟩

theorem Readable.decodesBack {a : AnomalyThresholds} (h : a.Readable) : DecodesBack a := by
  refine decodesBack_record rfl (fun _ _ => rfl) ?_ ?_ fun rigour => ?_
  · simp
  · simp
  · simp [h.grade, h.confidence]

theorem readable_of_decode {rigour : Rigour} {j : Json} {a : AnomalyThresholds}
    (h : decodeWith? AnomalyThresholds rigour j = some a) : a.Readable := by
  simp only [decodeWith?, Coded.decode?, Option.bind_eq_bind, Option.bind_eq_some_iff,
    Option.pure_def, Option.some.injEq] at h
  obtain ⟨m, -, grade, hg, _, -, confidence, hc, _, -, rfl⟩ := h
  exact ⟨Members.decodesBack_of_withDefault hg initial_readable.grade,
    Members.decodesBack_of_withDefault hc initial_readable.confidence⟩

instance : StableCoded AnomalyThresholds where
  decodesBack_of_decode h := (readable_of_decode h).decodesBack

end AnomalyThresholds

namespace Threshold

theorem decodesBack {t : Threshold} (h : DecodesBack t.value) : DecodesBack t := by
  refine decodesBack_record rfl (fun _ _ => rfl) ?_ ?_ fun rigour => ?_
  · simp
  · simp
  · simp [h]

instance : StableCoded Threshold where
  decodesBack_of_decode h := by
    simp only [decodeWith?, Coded.decode?, Option.bind_eq_bind, Option.bind_eq_some_iff,
      Option.pure_def, Option.some.injEq] at h
    obtain ⟨m, -, value, hv, comparison, -, rfl⟩ := h
    exact decodesBack (Members.decodesBack_of_required hv)

end Threshold

namespace KeptAnomaly

theorem decodesBack {a : KeptAnomaly} (hg : DecodesBack a.thresholds.grade)
    (hc : DecodesBack a.thresholds.confidence) : DecodesBack a := by
  refine decodesBack_record rfl (fun _ _ => rfl) ?_ ?_ fun rigour => ?_
  · simp
  · simp
  · simp [hg, hc]

instance : StableCoded KeptAnomaly where
  decodesBack_of_decode h := by
    simp only [decodeWith?, Coded.decode?, Option.bind_eq_bind, Option.bind_eq_some_iff,
      Option.pure_def, Option.some.injEq] at h
    obtain ⟨m, -, grade, hg, confidence, hc, rfl⟩ := h
    exact decodesBack (Members.decodesBack_of_required hg)
      (Members.decodesBack_of_required hc)

instance : NonNull KeptAnomaly := ⟨fun _ => rfl⟩

end KeptAnomaly

namespace TriggerSidecar

/-- The members of what is kept beside a trigger decode back. -/
structure Readable (t : TriggerSidecar) : Prop where
  threshold : DecodesBack t.threshold.value
  anomaly : DecodesBack t.anomaly
  conditions : DecodesBack t.conditions
  filter : DecodesBack t.filter

theorem Readable.decodesBack {t : TriggerSidecar} (h : t.Readable) : DecodesBack t := by
  refine decodesBack_record rfl (fun _ _ => rfl) ?_ ?_ fun rigour => ?_
  · cases t.anomaly <;> cases t.conditions <;> cases t.filter <;> simp [optionalMember]
  · cases t.anomaly <;> cases t.conditions <;> cases t.filter <;> simp [optionalMember]
  · simp [h.threshold, h.anomaly, h.conditions, h.filter]

instance : StableCoded TriggerSidecar where
  decodesBack_of_decode h := by
    simp only [decodeWith?, Coded.decode?, Option.bind_eq_bind, Option.bind_eq_some_iff,
      Option.pure_def, Option.some.injEq] at h
    obtain ⟨m, -, value, hv, _, -, anomaly, ha, conditions, hc, filter, hf, rfl⟩ := h
    exact Readable.decodesBack
      { threshold := Members.decodesBack_of_required hv
        anomaly := Members.decodesBack_of_optional ha
        conditions := Members.decodesBack_of_optional hc
        filter := Members.decodesBack_of_optional hf }

end TriggerSidecar

namespace TriggerForm

/-- The members of a trigger form decode back. -/
structure Readable (t : TriggerForm) : Prop where
  threshold : DecodesBack t.threshold.value
  anomaly : DecodesBack t.anomaly
  conditions : DecodesBack t.conditions
  filter : DecodesBack t.filter

theorem Readable.decodesBack {t : TriggerForm} (h : t.Readable) : DecodesBack t := by
  refine decodesBack_record rfl (fun _ _ => rfl) ?_ ?_ fun rigour => ?_
  · cases t.id <;> simp [optionalMember]
  · cases t.id <;> simp [optionalMember, names]
  · simp [h.threshold, h.anomaly, h.conditions, h.filter]

theorem readable_of_decode {rigour : Rigour} {j : Json} {t : TriggerForm}
    (h : decodeWith? TriggerForm rigour j = some t) : t.Readable := by
  simp only [decodeWith?, Coded.decode?, Option.bind_eq_bind, Option.bind_eq_some_iff,
    Option.pure_def, Option.some.injEq] at h
  obtain ⟨m, -, _, -, _, -, _, -, _, -, value, hv, _, -, anomaly, ha, _, -, conditions, hc,
    filter, hf, _, -, rfl⟩ := h
  exact {
    threshold := Members.decodesBack_of_withDefault hv (decodesBack_of_isFinite (by decide +kernel))
    anomaly := Members.decodesBack_of_withDefault ha
      AnomalyThresholds.initial_readable.decodesBack
    conditions := Members.decodesBack_of_withDefault hc decodesBack_nil
    filter := Members.decodesBack_of_withDefault hf Where.Clause.initial_decodesBack }

instance : StableCoded TriggerForm where
  decodesBack_of_decode h := (readable_of_decode h).decodesBack

/-- What is kept beside a trigger is read as it was kept. -/
theorem Readable.sidecar {t : TriggerForm} (h : t.Readable) (m : MonitorForm) :
    DecodesBack (t.sidecar m) := by
  have hanomaly := AnomalyThresholds.readable_of_decode (h.anomaly .strict)
  have hkept : DecodesBack (KeptAnomaly.mk t.anomaly) :=
    KeptAnomaly.decodesBack (Threshold.decodesBack hanomaly.grade)
      (Threshold.decodesBack hanomaly.confidence)
  exact TriggerSidecar.Readable.decodesBack
    { threshold := h.threshold
      anomaly := decodesBack_ite hkept
      conditions := decodesBack_ite h.conditions
      filter := decodesBack_ite h.filter }

end TriggerForm

/-! ### Monitors -/

namespace Sidecar

theorem decodesBack {s : Sidecar} (hs : DecodesBack s.search) (ht : DecodesBack s.triggers) :
    DecodesBack s := by
  refine decodesBack_record rfl (fun _ _ => rfl) ?_ ?_ fun rigour => ?_
  · simp
  · simp
  · simp [hs, ht]

instance : StableCoded Sidecar where
  decodesBack_of_decode h := by
    simp only [decodeWith?, Coded.decode?, Option.bind_eq_bind, Option.bind_eq_some_iff,
      Option.pure_def, Option.some.injEq] at h
    obtain ⟨m, -, _, -, search, hs, _, -, triggers, ht, rfl⟩ := h
    exact decodesBack (Members.decodesBack_of_withDefault hs Search.initial_decodesBack)
      (Members.decodesBack_of_withDefault ht decodesBack_empty)

instance : NonNull Sidecar := ⟨fun _ => rfl⟩

end Sidecar

namespace Monitor

theorem decodesBack {d : Monitor} (h : DecodesBack d.sidecar) : DecodesBack d := by
  refine decodesBack_record rfl (fun _ _ => rfl) ?_ ?_ fun rigour => ?_
  · cases d.sidecar <;> simp [optionalMember]
  · cases d.sidecar <;> simp [optionalMember]
  · simp [h]

instance : StableCoded Monitor where
  decodesBack_of_decode h := by
    simp only [decodeWith?, Coded.decode?, Option.bind_eq_bind, Option.bind_eq_some_iff,
      Option.pure_def, Option.some.injEq] at h
    obtain ⟨m, -, _, -, _, -, _, -, _, -, _, -, _, -, _, -, sidecar, hs, rfl⟩ := h
    exact decodesBack (Members.decodesBack_of_optional hs)

end Monitor

namespace MonitorForm

variable {m : MonitorForm} {ts : List TriggerForm} {config : Config} {d : Monitor}

/-- What is kept beside the triggers of readable forms is read as it was kept. -/
theorem triggerSidecars_decodesBack (h : ∀ t ∈ ts, t.Readable) :
    DecodesBack (m.triggerSidecars ts) := by
  refine decodesBack_map fun e he => ?_
  obtain ⟨t, ht, rfl⟩ := List.mem_map.1 (SortedMap.mem_of_mem_ofList he)
  exact (h t ht).sidecar m

/-- A compiled monitor is read as it was compiled. -/
theorem decodesBack_of_compile (hm : DecodesBack m.search.filter) (hts : ∀ t ∈ ts, t.Readable)
    (h : m.compile ts config = .ok d) : DecodesBack d := by
  obtain ⟨-, -, d₀, hd₀, trs, -, rfl⟩ := compile_eq_ok_iff.1 h
  obtain ⟨input, -, rfl⟩ := toMonitor_eq_ok_iff.1 hd₀
  exact Monitor.decodesBack <| decodesBack_some <|
    Sidecar.decodesBack (Search.decodesBack hm) (triggerSidecars_decodesBack hts)

end MonitorForm

/-- The formats of documents and forms are stable: what was read from any way of writing a document
decodes back, so writing it again and again changes nothing, and a monitor that is compiled from
forms that were read is read from storage as it was compiled. -/
theorem formats_stable :
    (StableCoded Monitor ∧ StableCoded Trigger ∧ StableCoded BucketSelector ∧
      StableCoded Sidecar ∧ StableCoded TriggerSidecar ∧ StableCoded Schedule ∧
      StableCoded MonitorForm ∧ StableCoded TriggerForm ∧ StableCoded Search ∧
      StableCoded Picker ∧ StableCoded Where.Clause ∧ StableCoded Condition) ∧
    (∀ (α : Type) [Coded α] [StableCoded α] (rigour rigour' : Rigour) (j k : Json),
      (decodeWith? α rigour j).map encode = some k →
        (decodeWith? α rigour' k).map encode = some k) ∧
    ∀ (rigour : Rigour) (j : Json) (js : List Json) (m : MonitorForm) (ts : List TriggerForm)
      (config : Config) (d : Monitor),
      decodeWith? MonitorForm rigour j = some m →
        js.mapM (decodeWith? TriggerForm rigour) = some ts →
          m.compile ts config = .ok d → DecodesBack d := by
  refine ⟨?_, fun α _ _ rigour rigour' j k h => decode_encode_idem h, ?_⟩
  · exact ⟨inferInstance, inferInstance, inferInstance, inferInstance, inferInstance,
      inferInstance, inferInstance, inferInstance, inferInstance, inferInstance, inferInstance,
      inferInstance⟩
  · intro rigour j js m ts config d hm hts hd
    refine MonitorForm.decodesBack_of_compile (MonitorForm.filter_decodesBack_of_decode hm)
      (fun t ht => ?_) hd
    obtain ⟨k, hk⟩ := exists_decode_of_mapM hts t ht
    exact TriggerForm.readable_of_decode hk

/-- Two forms with little in them: a named value as an object, an array of members cut short, and
everything else left out. -/
theorem formats_stable_shorthand :
    let form : Json := .obj [("name", .str "errors"), ("index", .arr [.str "logs-*"]),
      ("timeField", .str "@timestamp"), ("frequency", .obj [("interval", .null)])]
    let trigger : Json := .obj [("anomalyDetector", .arr [.nat 1]), ("name", .str "any")]
    ∃ m t d, decodeWith? MonitorForm .strict form = some m ∧
      [trigger].mapM (decodeWith? TriggerForm .strict) = some [t] ∧
      m.compile [t] Config.initial = .ok d ∧
      encode m ≠ form ∧ DecodesBack m ∧ encode t ≠ trigger ∧ DecodesBack t ∧ DecodesBack d := by
  intro form trigger
  let m : MonitorForm :=
    { MonitorForm.initial with
      name := "errors"
      indices := ["logs-*"]
      search := { Search.initial with timeField := "@timestamp" } }
  let t : TriggerForm :=
    { TriggerForm.initial with
      name := "any"
      anomaly := { AnomalyThresholds.initial with
        grade := { Threshold.initialAnomaly with value := .ofDecimal false ⟨1, 0⟩ } } }
  have hm : decodeWith? MonitorForm .strict form = some m := by decide +kernel
  have ht : decodeWith? TriggerForm .strict trigger = some t := by decide +kernel
  have hts : [trigger].mapM (decodeWith? TriggerForm .strict) = some [t] := by
    rw [List.mapM_cons, ht]
    rfl
  obtain ⟨⟨-, -, -, -, -, -, hforms, htriggers, -⟩, -, hcompiled⟩ := formats_stable
  obtain ⟨d, hd⟩ : ∃ d, m.compile [t] Config.initial = .ok d :=
    Compile.exists_ok_of_isOk (by decide +kernel)
  exact ⟨m, t, d, hm, hts, hd, by decide +kernel, hforms.decodesBack_of_decode hm,
    by decide +kernel, htriggers.decodesBack_of_decode ht, hcompiled _ _ _ _ _ _ _ hm hts hd⟩

end Alerting
