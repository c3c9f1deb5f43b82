import Alerting.Monitor.Stored
import Alerting.Proofs.Compile

/-!
# What compiles, and to what

* `MonitorForm.toMonitor_eq_ok_iff` : a form is stored when its search is, around that search.
* `MonitorForm.validateTriggers_eq_ok_iff` : trigger forms are accepted when each fulfils its own
  rules and no two have one name.
* `MonitorForm.compile_eq_ok_iff` : both together, with the triggers that are put into the monitor.
* `MonitorForm.searchInput_withTexts`, `MonitorForm.validate_withTexts` : neither the search that is
  stored nor what validation objects to changes with the indices and the query text, where the
  search does not use them.
-/

namespace Alerting

namespace MonitorForm

variable {m : MonitorForm} {config : Config} {ts : List TriggerForm} {d : Monitor}

/-! ### Stored monitors -/

theorem toMonitor_eq_ok_iff :
    m.toMonitor config = .ok d ↔
      ∃ input, m.searchInput config = .ok input ∧ m.stored input = d := by
  unfold toMonitor
  simp only [Compile.bind_eq_ok, Compile.pure_eq_ok]

theorem validateTriggers_eq_ok_iff {earlier : List String} :
    m.validateTriggers config earlier ts = .ok () ↔
      (∀ t ∈ ts, t.validate m.kind m.search.kind config = .ok ()) ∧
        (ts.map TriggerForm.name).Nodup ∧ ∀ t ∈ ts, t.name ∉ earlier := by
  -- The names that were seen grow along the list, so they vary in the induction.
  induction ts generalizing earlier with
  | nil => simp [validateTriggers]
  | cons t ts ih =>
    have hname : (require (!earlier.contains t.name) (.duplicateTrigger t.name) = .ok ()) ↔
        t.name ∉ earlier := by
      rw [require_eq_ok]
      simp
    unfold validateTriggers
    simp only [Compile.check_bind_eq_ok, hname, ih, List.mem_cons, List.map_cons,
      List.nodup_cons, List.mem_map, not_or, forall_eq_or_imp]
    constructor
    · rintro ⟨ht, hnew, hts, hnodup, hother⟩
      refine ⟨⟨ht, hts⟩, ⟨?_, hnodup⟩, hnew, fun u hu => (hother u hu).2⟩
      rintro ⟨u, hu, hname⟩
      exact (hother u hu).1 hname
    · rintro ⟨⟨ht, hts⟩, ⟨hfirst, hnodup⟩, hnew, hother⟩
      refine ⟨ht, hnew, hts, hnodup, fun u hu => ⟨fun hname => ?_, hother u hu⟩⟩
      exact hfirst ⟨u, hu, hname⟩

/-- A monitor compiles to the stored monitor with the stored triggers in it. -/
theorem compile_eq_ok_iff :
    m.compile ts config = .ok d ↔
      m.validate config = .ok () ∧ m.validateTriggers config [] ts = .ok () ∧
        ∃ d₀, m.toMonitor config = .ok d₀ ∧
          ∃ trs, List.Forall₂ (fun t tr => t.toTrigger m config = .ok tr) ts trs ∧
            d₀.withTriggers trs (m.triggerSidecars ts) = d := by
  unfold compile
  rw [Compile.check_bind_eq_ok, Compile.check_bind_eq_ok]
  simp only [Compile.bind_eq_ok, Compile.mapM_eq_ok_iff, Compile.pure_eq_ok]

/-! ### Indices and query texts -/

section Texts

variable {indices : List String} {query : String}
  (hi : m.search.kind ≠ .anomaly → indices = m.indices)
  (hq : m.search.kind = .query → readQuery query = readQuery m.query)

include hi hq

theorem searchInput_withTexts :
    searchInput { m with indices := indices, query := query } config = m.searchInput config := by
  unfold searchInput
  cases hs : m.search.kind with
  | query =>
    rw [hs] at hi hq
    simp only [hi nofun, hq rfl]
  | anomaly => rfl
  | graph =>
    rw [hs] at hi
    cases m.kind <;> simp only [hi nofun]

theorem toMonitor_withTexts :
    toMonitor { m with indices := indices, query := query } config = m.toMonitor config := by
  unfold toMonitor
  rw [searchInput_withTexts hi hq]
  rfl

theorem validate_withTexts :
    validate { m with indices := indices, query := query } config = m.validate config := by
  unfold validate
  cases hs : m.search.kind with
  | query =>
    rw [hs] at hi hq
    simp only [hi nofun, hq rfl]
  | anomaly => rfl
  | graph =>
    rw [hs] at hi
    simp only [hi nofun]
    rfl

end Texts

end MonitorForm

end Alerting
