import Alerting.Monitor.Rebuilt
import Alerting.Proofs.Monitor.Compiled
import Alerting.Proofs.Trigger.Agreement

/-!
# Saving, editing and saving again

A monitor that was compiled from forms gives the forms back, as far as they count.

* `MonitorForm.toForm_of_toMonitor` : the form of the monitor comes back, with the query as text.
* `MonitorForm.agreesFor_reconstruct` : each trigger form comes back with the fields that count.
* `MonitorForm.compile_ofMonitor` : the forms that come back compile to the same monitor.
-/

namespace Alerting

/-! ### Schedules -/

/-- What a stored schedule determines of the fields is what it was made from. -/
theorem PickedSchedule.withStored_schedule (s : PickedSchedule) :
    s.withStored s.schedule = s := by
  obtain ⟨frequency, picker⟩ := s
  cases frequency <;> rfl

/-! ### Texts of documents -/

theorem readQuery_pretty {query : Value} (h : query.json.ReadsBack) :
    readQuery query.json.pretty = .ok query := by
  unfold readQuery
  rw [show Json.parse? query.json.pretty = some query.json from h]
  exact congrArg Except.ok query.ofJson_json

/-- The texts that a form shows of a monitor are read as they were written.  For documents of
ordinary depth it is enough that their floating-point numbers are (`Json.readsBack_of_floats`). -/
structure Monitor.ReadsBack (d : Monitor) : Prop where
  queries : ∀ input ∈ d.inputs, input.query.json.ReadsBack
  conditions : ∀ t ∈ d.triggers, t.condition.ReadsBack

/-! ### A monitor written by hand -/

namespace HandWritten

/-- A weekly bucket monitor with a query written by hand. -/
def form : MonitorForm :=
  { MonitorForm.initial with
    name := "hosts"
    kind := .bucketLevel
    schedule :=
      { frequency := .weekly
        picker := { Picker.initial with
          weekly := { Weekdays.initial with mon := true, thu := true }
          timezone := some "UTC" } }
    indices := ["logs-*"]
    query := Json.compact (.obj [("size", .nat 0), ("query", .obj [("match_all", .obj [])])])
    search := { Search.initial with kind := .query } }

/-- A trigger with a selector written by hand, its members in no particular order. -/
def trigger (name source : String) (paths : List (String × Json)) : TriggerForm :=
  { TriggerForm.initial with
    name := name
    selector := Json.compact (.obj [("script", .obj [("source", .str source)]),
      ("buckets_path", .obj paths), ("parent_bucket_path", .str "by")]) }

/-- Two triggers. -/
def triggers : List TriggerForm :=
  [trigger "many" "n > 1e3" [("n", .str "_count")], trigger "none" "!n" []]

/-- What the query is stored as. -/
def input : SearchInput :=
  { indices := ["logs-*"]
    query := .ofJson (.obj [("query", .obj [("match_all", .obj [])]), ("size", .nat 0)]) }

/-- A trigger as it is stored. -/
def storedTrigger (name source : String) (paths : SortedMap String) : Trigger :=
  { id := none
    name := name
    severity := "1"
    condition := .bucket {
      parentPath := "by"
      paths := paths
      script := { lang := "painless", source := source }
      filter := none }
    actions := [] }

/-- What the forms are stored as. -/
def monitor : Monitor :=
  (form.stored input).withTriggers
    [storedTrigger "many" "n > 1e3" (.singleton "n" "_count"), storedTrigger "none" "!n" .empty]
    (form.triggerSidecars triggers)

theorem compile_triggers : form.compile triggers .initial = .ok monitor := by decide +kernel

theorem readsBack : monitor.ReadsBack where
  queries := by
    intro i hi
    rw [List.mem_singleton.1 hi]
    exact Json.readsBack_of_floats (by decide +kernel) (by decide +kernel)
  conditions := by
    intro t ht
    rcases List.mem_pair.1 ht with rfl | rfl <;>
      exact Json.readsBack_of_floats (by decide +kernel) (by decide +kernel)

end HandWritten

namespace MonitorForm

variable {m : MonitorForm} {config : Config} {ts us : List TriggerForm} {d : Monitor}

/-! ### The form of the monitor -/

theorem toForm_stored (m : MonitorForm) (input : SearchInput) (trs : List Trigger)
    (kept : SortedMap TriggerSidecar) (hi : m.search.kind ≠ .anomaly → input.indices = m.indices) :
    ((m.stored input).withTriggers trs kept).toForm = { m with
      indices := if m.search.kind = .anomaly then [] else m.indices
      query := input.query.json.pretty } := by
  have hparts : ((m.stored input).withTriggers trs kept).pickedParts = (m.schedule, m.search) := rfl
  have htexts : ((m.stored input).withTriggers trs kept).searchTexts m.search.kind =
      (if m.search.kind = .anomaly then [] else m.indices, input.query.json.pretty) := by
    unfold Monitor.searchTexts
    by_cases hs : m.search.kind = .anomaly
    · simp only [hs, Monitor.withTriggers, stored, ↓reduceIte]
      rfl
    · simp only [hs, Monitor.withTriggers, stored, hi hs, ↓reduceIte]
  have hschedule : m.schedule.withStored ((m.stored input).withTriggers trs kept).schedule =
      m.schedule := m.schedule.withStored_schedule
  unfold Monitor.toForm
  simp only [hparts, htexts, hschedule]
  simp only [Monitor.withTriggers, stored, Bool.not_not]

theorem indices_of_searchInput {input : SearchInput} (h : m.searchInput config = .ok input)
    (hs : m.search.kind ≠ .anomaly) : input.indices = m.indices := by
  unfold searchInput at h
  cases hk : m.search.kind with
  | query =>
    simp only [hk, Compile.bind_eq_ok, Compile.pure_eq_ok] at h
    obtain ⟨query, -, rfl⟩ := h
    rfl
  | anomaly => exact absurd hk hs
  | graph =>
    cases hm : m.kind <;> simp only [hk, hm] at h <;> cases h <;> rfl

theorem readQuery_of_searchInput {input : SearchInput} (h : m.searchInput config = .ok input)
    (hs : m.search.kind = .query) : readQuery m.query = .ok input.query := by
  unfold searchInput at h
  simp only [hs, Compile.bind_eq_ok, Compile.pure_eq_ok] at h
  obtain ⟨query, hquery, rfl⟩ := h
  exact hquery

/-- **The form of a monitor comes back** from what was stored, with or without triggers.  Only the
query is now the text of what is searched for, and an anomaly search shows no index. -/
theorem toForm_of_toMonitor (h : m.toMonitor config = .ok d) :
    ∃ input, d.inputs = [input] ∧
      (∀ trs kept, (d.withTriggers trs kept).toForm = d.toForm) ∧
      d.toForm = { m with
        indices := if m.search.kind = .anomaly then [] else m.indices
        query := input.query.json.pretty } ∧
      (m.search.kind = .query → readQuery m.query = .ok input.query ∧
        (input.query.json.ReadsBack → readQuery d.toForm.query = .ok input.query)) := by
  obtain ⟨input, hinput, rfl⟩ := toMonitor_eq_ok_iff.1 h
  have hform (trs kept) := toForm_stored m input trs kept (indices_of_searchInput hinput)
  have hself : (m.stored input).toForm = _ := hform [] .empty
  refine ⟨input, rfl, fun trs kept => (hform trs kept).trans hself.symm, hself, fun hs => ?_⟩
  refine ⟨readQuery_of_searchInput hinput hs, fun hr => ?_⟩
  rw [hself]
  exact readQuery_pretty hr

theorem toForm_of_toMonitor_handWritten :
    HandWritten.form.toMonitor .initial = .ok (HandWritten.form.stored HandWritten.input) ∧
      ∃ input, (HandWritten.form.stored HandWritten.input).inputs = [input] ∧
        HandWritten.monitor.toForm =
          { HandWritten.form with query := input.query.json.pretty } := by
  have hstored : HandWritten.form.toMonitor .initial =
      .ok (HandWritten.form.stored HandWritten.input) := by decide +kernel
  obtain ⟨input, hinput, hadded, hform, -⟩ := toForm_of_toMonitor hstored
  exact ⟨hstored, input, hinput, (hadded _ _).trans hform⟩

/-! ### The forms of the triggers -/

theorem get?_triggerSidecars (hn : (ts.map TriggerForm.name).Nodup) {t : TriggerForm}
    (ht : t ∈ ts) : (m.triggerSidecars ts).get? t.name = some (t.sidecar m) := by
  have hkeys : (ts.map fun t => (t.name, t.sidecar m)).map Prod.fst = ts.map TriggerForm.name := by
    rw [List.map_map]
    rfl
  exact SortedMap.get?_ofList_of_mem (hkeys ▸ hn) (List.mem_map.2 ⟨t, ht, rfl⟩)

theorem exists_ofTriggers {s : Sidecar} {trs : List Trigger}
    (htrs : List.Forall₂ (fun t tr => t.toTrigger m config = .ok tr) ts trs)
    (hs : s.search.kind = m.search.kind)
    (he : ∀ t ∈ ts, s.triggers.get? t.name = some (t.sidecar m))
    (hr : m.search.kind = .query → ∀ tr ∈ trs, tr.condition.ReadsBack) :
    ∃ us, Reconstruction.ofTriggers (some s) trs = { Reconstruction.empty with triggers := us } ∧
      List.Forall₂ (TriggerForm.AgreesFor m) ts us := by
  -- Each trigger is rebuilt for itself; the sidecar stays the whole one along the list.
  induction htrs with
  | nil => exact ⟨[], rfl, .nil⟩
  | @cons t tr ts trs htr _ ih =>
    obtain ⟨us, hus, hagrees⟩ := ih (fun t ht => he t (List.mem_cons_of_mem _ ht))
      (fun hq tr htr => hr hq tr (List.mem_cons_of_mem _ htr))
    obtain ⟨u, hu, hagree⟩ := TriggerForm.exists_rebuild htr hs (he t List.mem_cons_self)
      (fun hq => hr hq tr List.mem_cons_self)
    refine ⟨u :: us, ?_, .cons hagree hagrees⟩
    simp only [Reconstruction.ofTriggers, Reconstruction.ofTrigger, hu, hus]
    rfl

theorem exists_reconstruct (h : m.compile ts config = .ok d)
    (hr : m.search.kind = .query → ∀ tr ∈ d.triggers, tr.condition.ReadsBack) :
    ∃ us, d.reconstruct = { Reconstruction.empty with triggers := us } ∧
      List.Forall₂ (TriggerForm.AgreesFor m) ts us := by
  obtain ⟨-, hvalid, d₀, hd, trs, htrs, rfl⟩ := compile_eq_ok_iff.1 h
  obtain ⟨input, -, rfl⟩ := toMonitor_eq_ok_iff.1 hd
  obtain ⟨-, hnames, -⟩ := validateTriggers_eq_ok_iff.1 hvalid
  exact exists_ofTriggers htrs rfl (fun t ht => get?_triggerSidecars hnames ht) hr

/-- **Trigger forms come back** in their order, each with the fields that count. -/
theorem agreesFor_reconstruct (h : m.compile ts config = .ok d)
    (hr : m.search.kind = .query → ∀ tr ∈ d.triggers, tr.condition.ReadsBack) :
    List.Forall₂ (TriggerForm.AgreesFor m) ts d.reconstruct.triggers := by
  obtain ⟨us, hus, hagrees⟩ := exists_reconstruct h hr
  rw [hus]
  exact hagrees

theorem agreesFor_reconstruct_handWritten :
    HandWritten.form.compile HandWritten.triggers .initial = .ok HandWritten.monitor ∧
      (HandWritten.form.search.kind = .query →
        ∀ tr ∈ HandWritten.monitor.triggers, tr.condition.ReadsBack) ∧
      List.Forall₂ (TriggerForm.AgreesFor HandWritten.form) HandWritten.triggers
        HandWritten.monitor.reconstruct.triggers :=
  ⟨HandWritten.compile_triggers, fun _ => HandWritten.readsBack.conditions,
    agreesFor_reconstruct HandWritten.compile_triggers fun _ => HandWritten.readsBack.conditions⟩

/-! ### Compiling again -/

theorem validateTriggers_congr {indices : List String} {query : String}
    (h : List.Forall₂ (TriggerForm.AgreesFor m) ts us) (earlier : List String) :
    validateTriggers { m with indices := indices, query := query } config earlier us =
      m.validateTriggers config earlier ts := by
  induction h generalizing earlier with
  | nil => rfl
  | cons hu _ ih =>
    unfold validateTriggers
    rw [hu.validate_eq, hu.name, ih]

theorem names_congr (h : List.Forall₂ (TriggerForm.AgreesFor m) ts us) :
    us.map TriggerForm.name = ts.map TriggerForm.name := by
  induction h with
  | nil => rfl
  | cons hu _ ih => rw [List.map_cons, List.map_cons, hu.name, ih]

theorem triggerSidecars_congr (h : List.Forall₂ (TriggerForm.AgreesFor m) ts us) :
    m.triggerSidecars us = m.triggerSidecars ts := by
  unfold triggerSidecars
  congr 1
  induction h with
  | nil => rfl
  | cons hu _ ih => rw [List.map_cons, List.map_cons, hu.name, hu.sidecar_eq, ih]

/-- Forms that differ in what does not count compile alike. -/
theorem compile_congr {indices : List String} {query : String}
    (hi : m.search.kind ≠ .anomaly → indices = m.indices)
    (hq : m.search.kind = .query → readQuery query = readQuery m.query)
    (h : List.Forall₂ (TriggerForm.AgreesFor m) ts us) :
    compile { m with indices := indices, query := query } us config = m.compile ts config := by
  have htriggers : us.mapM (fun u => u.toTrigger m config) =
      ts.mapM fun t => t.toTrigger m config :=
    (Compile.mapM_congr (fun t u hu => hu.toTrigger_eq.symm) h).symm
  unfold compile
  rw [validate_withTexts hi hq, toMonitor_withTexts hi hq, validateTriggers_congr h,
    ← triggerSidecars_congr h, ← htriggers]
  rfl

/-- **Saving again changes nothing.**  The forms of a compiled monitor come back without failure or
warning, and compile to the same monitor. -/
theorem compile_ofMonitor (h : m.compile ts config = .ok d)
    (hr : m.search.kind = .query → d.ReadsBack) :
    (MonitorForms.ofMonitor d).triggers.failures = [] ∧
      (MonitorForms.ofMonitor d).triggers.warnings = [] ∧
      (MonitorForms.ofMonitor d).triggers.triggers.map TriggerForm.name =
        ts.map TriggerForm.name ∧
      (MonitorForms.ofMonitor d).monitor.compile (MonitorForms.ofMonitor d).triggers.triggers
        config = .ok d := by
  obtain ⟨us, hus, hagrees⟩ := exists_reconstruct h fun hq => (hr hq).conditions
  have hcompile : d.toForm.compile us config = .ok d := by
    obtain ⟨-, -, d₀, hd, trs, -, hwith⟩ := compile_eq_ok_iff.1 h
    obtain ⟨input, hinput, rfl⟩ := toMonitor_eq_ok_iff.1 hd
    have hform := toForm_stored m input trs (m.triggerSidecars ts) (indices_of_searchInput hinput)
    rw [hwith] at hform
    -- The form that came back differs from `m` in two texts; `compile_congr` asks how they count.
    rw [hform, ← h]
    refine compile_congr (fun hs => if_neg hs) (fun hs => ?_) hagrees
    rw [readQuery_of_searchInput hinput hs]
    refine readQuery_pretty ((hr hs).queries input ?_)
    rw [← hwith]
    exact List.mem_singleton_self input
  unfold MonitorForms.ofMonitor
  rw [hus]
  exact ⟨rfl, rfl, names_congr hagrees, hcompile⟩

theorem compile_ofMonitor_handWritten :
    HandWritten.form.compile HandWritten.triggers .initial = .ok HandWritten.monitor ∧
      (HandWritten.form.search.kind = .query → HandWritten.monitor.ReadsBack) ∧
      HandWritten.monitor.toForm.compile HandWritten.monitor.reconstruct.triggers .initial =
        .ok HandWritten.monitor := by
  have hread : HandWritten.form.search.kind = .query → HandWritten.monitor.ReadsBack :=
    fun _ => HandWritten.readsBack
  obtain ⟨-, -, -, hcompile⟩ := compile_ofMonitor HandWritten.compile_triggers hread
  exact ⟨HandWritten.compile_triggers, hread, hcompile⟩

end MonitorForm

end Alerting
