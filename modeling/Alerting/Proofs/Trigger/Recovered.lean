import Alerting.Proofs.Monitor.RoundTrip
import Alerting.Proofs.Script.Conditions
import Alerting.Proofs.Trigger.Layout
import Alerting.Proofs.Where.PatternFilter

/-!
# Triggers without a sidecar entry

Conditions and filters are kept beside a trigger, and can be lost there.  The selector of the
trigger says them again: its script the conditions, its patterns the filter.

* `Chain.parse_chainText` : conditions are read back from scripts, grouped or not.
* `TriggerForm.filter_of_toSelector` : the filter is read back from its patterns.
* `MonitorForm.rebuild_without` : without its entry a compiled trigger gives the form that it gives
  with it, but for thresholds that do not count, and a warning.
-/

namespace Alerting

/-! ### Conditions -/

namespace Chain

/-- A chain is read back from its text, grouped or not. -/
theorem parse_chainText {c : Chain} (h : c.IsReadable) (config : Config) :
    parse (BucketSelector.chainText config c) = .ok c := by
  rw [parse_eq_ok_iff, tokens_chainText]
  exact spelled_render h

end Chain

namespace TriggerForm

/-- What is kept beside the trigger can be read back from its selector. -/
structure IsRecoverable (t : TriggerForm) : Prop where
  conditions : ∀ c ∈ t.conditions, (Chain.Clause.ofCondition c).IsReadable
  filter : t.filter.IsRecoverable

variable {t : TriggerForm} {config : Config} {selector : BucketSelector}

theorem toSelector_eq_ok_iff :
    t.toSelector config = .ok selector ↔
      ∃ chain, Chain.ofConditions t.conditions = .ok chain ∧
        ∃ filter, t.filter.patternFilter? = .ok filter ∧
          { parentPath := groupsName
            paths := .ofList (chain.metrics.keys.map fun m => (m, m))
            script :=
              { lang := config.scriptLang, source := BucketSelector.chainText config chain }
            filter := filter } = selector := by
  unfold toSelector BucketSelector.ofChain
  simp only [Compile.bind_eq_ok, Compile.pure_eq_ok]

/-- The selector of a valid trigger says its conditions. -/
theorem conditions_of_toSelector (h : t.toSelector config = .ok selector)
    (hvalid : Condition.validateAll t.conditions config = .ok ()) (hr : t.IsRecoverable) :
    selector.conditions none = .ok t.conditions := by
  obtain ⟨chain, hchain, _, -, rfl⟩ := toSelector_eq_ok_iff.1 h
  obtain ⟨first, rest, hconditions, hfirst, -⟩ := Condition.exists_cons_of_validateAll hvalid
  have hne : t.conditions ≠ [] := hconditions ▸ List.cons_ne_nil first rest
  have hreadable := Chain.isReadable_of_ofConditions hchain hne hr.conditions
  rw [hconditions] at hchain
  have htoConditions := Chain.toConditions_of_ofConditions hchain hfirst
  have hparse := Chain.parse_chainText hreadable config
  unfold BucketSelector.conditions
  simp only [Option.bind_none, hparse]
  rw [hconditions, ← htoConditions]
  rfl

/-- The selector of a trigger says its filter. -/
theorem filter_of_toSelector (h : t.toSelector config = .ok selector) (hr : t.IsRecoverable) :
    selector.whereClause none = t.filter := by
  obtain ⟨_, -, filter, hfilter, rfl⟩ := toSelector_eq_ok_iff.1 h
  exact Where.Clause.clause?_patternFilter? hr.filter hfilter

end TriggerForm

/-! ### Sidecars without an entry -/

namespace SortedMap

variable {α : Type}

/-- The map without an entry. -/
def erase (m : SortedMap α) (k : String) : SortedMap α :=
  ⟨m.entries.filter fun e => e.1 ≠ k, m.sorted.sublist (List.filter_sublist.map _)⟩

theorem get?_erase (m : SortedMap α) (k l : String) :
    (m.erase k).get? l = if l = k then none else m.get? l := by
  show (m.entries.filter fun e => e.1 ≠ k).lookup l = if l = k then none else m.entries.lookup l
  induction m.entries with
  | nil => exact (ite_self none).symm
  | cons e es ih =>
    obtain ⟨key, v⟩ := e
    by_cases hk : key = k
    · rw [List.filter_cons_of_neg (by simpa using hk), ih, lookup_cons_eq, hk]
      split <;> rfl
    · rw [List.filter_cons_of_pos (by simpa using hk), lookup_cons_eq, lookup_cons_eq, ih]
      by_cases hl : l = key
      · rw [if_pos hl, if_pos hl, if_neg (hl ▸ hk)]
      · rw [if_neg hl, if_neg hl]

end SortedMap

namespace Sidecar

/-- The sidecar without what is kept beside the trigger of a name. -/
def without (s : Sidecar) (name : String) : Sidecar :=
  { s with triggers := s.triggers.erase name }

theorem get?_without (s : Sidecar) (name : String) :
    (s.without name).triggers.get? name = none := by
  rw [without, SortedMap.get?_erase, if_pos rfl]

end Sidecar

/-! ### Rebuilding without an entry -/

namespace TriggerForm

variable {m : MonitorForm} {t : TriggerForm} {config : Config} {tr : Trigger}

theorem toSelector_of_condition {c : TriggerCondition} (h : t.condition m config = .ok c)
    (hk : m.kind = .bucketLevel) (hs : m.search.kind ≠ .query) :
    ∃ selector, t.toSelector config = .ok selector ∧ .bucket selector = c := by
  unfold condition at h
  rw [hk] at h
  cases hq : m.search.kind with
  | query => exact absurd hq hs
  | anomaly | graph =>
    rw [hq] at h
    exact Compile.map_eq_ok.1 h

/-- What is rebuilt of a compiled trigger does not depend on its entry, but for the thresholds. -/
theorem exists_rebuild_without {s : Sidecar} (htr : t.toTrigger m config = .ok tr)
    (hkind : s.search.kind = m.search.kind)
    (he : s.triggers.get? t.name = some (t.sidecar m))
    (hvalid : t.validate m.kind m.search.kind config = .ok ()) (hk : m.kind = .bucketLevel)
    (hs : m.search.kind ≠ .query) (hr : t.IsRecoverable) :
    ∃ u, t.AgreesFor m u ∧ tr.rebuild (some s) = .ok (u, none) ∧
      tr.rebuild (some (s.without t.name)) =
        .ok ({ u with threshold := .initial, anomaly := .initial },
          some (.sidecarMissing t.name)) := by
  obtain ⟨u, hu, hagrees⟩ := exists_rebuild htr hkind he fun hq => absurd hq hs
  refine ⟨u, hagrees, hu, ?_⟩
  obtain ⟨c, hc, htr⟩ := toTrigger_eq_ok_iff.1 htr
  obtain ⟨selector, hselector, rfl⟩ := toSelector_of_condition hc hk hs
  have hcondition : tr.condition = .bucket selector := by rw [← htr]
  have hname : tr.name = t.name := by rw [← htr]
  have hentry : ((some s).bind fun s => s.triggers.get? tr.name) = some (t.sidecar m) := by
    rw [hname]
    exact he
  have hentry' : ((some (s.without t.name)).bind fun s => s.triggers.get? tr.name) = none := by
    rw [hname]
    exact s.get?_without t.name
  have hconditions : Trigger.rebuiltConditions selector none
      (Trigger.searchKind (some (s.without t.name))) = .ok t.conditions := by
    unfold Trigger.rebuiltConditions
    rw [conditions_of_toSelector hselector (validateAll_of_validate hvalid hk hs) hr]
  obtain ⟨cs, hcs, hpicked⟩ := exists_rebuiltConditions (t := t) selector hk
  rw [← hkind] at hcs
  have hwith := Trigger.rebuild_bucket hcondition hentry hcs
  have hwithout := Trigger.rebuild_bucket hcondition hentry' hconditions
  -- The two forms differ in what is kept only: thresholds, conditions and the filter.
  rw [hu, hpicked hs] at hwith
  rw [filter_of_toSelector hselector hr] at hwithout
  have hform : u = { tr.bareForm.withKept (t.sidecar m) with
      conditions := t.conditions
      filter := selector.whereClause (some (t.sidecar m)) } :=
    congrArg Prod.fst (Except.ok.inj hwith)
  have hfilter : selector.whereClause (some (t.sidecar m)) = t.filter := by
    rw [← hagrees.filter hk hs, hform]
  rw [hwithout, hform, hfilter, hname, ← htr]
  rfl

end TriggerForm

namespace MonitorForm

variable {m : MonitorForm} {config : Config} {ts : List TriggerForm} {d : Monitor}

/-- **What is lost with an entry.**  Of a compiled trigger whose conditions and filter can be read
back, the same form is rebuilt without its entry in the sidecar as with it, but for the thresholds,
which are those of a new form, and for one warning that names the trigger. -/
theorem rebuild_without {t : TriggerForm} (h : m.compile ts config = .ok d)
    (hk : m.kind = .bucketLevel) (hs : m.search.kind ≠ .query) (ht : t ∈ ts)
    (hr : t.IsRecoverable) :
    ∃ tr ∈ d.triggers, t.toTrigger m config = .ok tr ∧
      ∃ s, d.sidecar = some s ∧ ∃ u, t.AgreesFor m u ∧
        tr.rebuild (some s) = .ok (u, none) ∧
        tr.rebuild (some (s.without t.name)) =
          .ok ({ u with threshold := .initial, anomaly := .initial },
            some (.sidecarMissing t.name)) := by
  obtain ⟨-, hvalid, d₀, hd, trs, htrs, rfl⟩ := compile_eq_ok_iff.1 h
  obtain ⟨input, -, rfl⟩ := toMonitor_eq_ok_iff.1 hd
  obtain ⟨hrules, hnames, -⟩ := validateTriggers_eq_ok_iff.1 hvalid
  obtain ⟨tr, hmem, htr⟩ := Compile.exists_mem_of_forall₂ htrs ht
  exact ⟨tr, hmem, htr, _, rfl, TriggerForm.exists_rebuild_without htr rfl
    (get?_triggerSidecars hnames ht) (hrules t ht) hk hs hr⟩

/-- A trigger with three conditions and a filter, in grouped text. -/
theorem rebuild_without_picked :
    let config : Config := { Config.initial with parenthesizeBucketConditions := true }
    let m : MonitorForm :=
      { MonitorForm.initial with
        name := "hosts"
        kind := .bucketLevel
        indices := ["logs-*"]
        search := { Search.initial with
          timeField := "@timestamp"
          metrics := [⟨.avg, "latency"⟩, ⟨.count, "error"⟩]
          groupBy := ["host"] } }
    let t : TriggerForm :=
      { TriggerForm.initial with
        name := "slow"
        threshold := ⟨.ofDecimal false ⟨3, 0⟩, .below⟩
        conditions := [
          ⟨"avg_latency", .above, .ofDecimal false ⟨15, -1⟩, none⟩,
          ⟨"value_count_error", .exactly, .ofDecimal true ⟨0, 0⟩, some .or⟩,
          ⟨"avg_latency", .below, .ofDecimal false ⟨2, 9⟩, some .and⟩]
        filter := .onKeyword "host" .startsWith "web." }
    ∃ d, m.compile [t] config = .ok d ∧ m.kind = .bucketLevel ∧ m.search.kind ≠ .query ∧
      t ∈ [t] ∧ t.IsRecoverable ∧
      ∃ tr ∈ d.triggers, ∃ s, d.sidecar = some s ∧ ∃ u, t.AgreesFor m u ∧
        tr.rebuild (some s) = .ok (u, none) ∧
        tr.rebuild (some (s.without "slow")) =
          .ok ({ u with threshold := .initial, anomaly := .initial },
            some (.sidecarMissing "slow")) := by
  intro config m t
  have hcompile : ∃ d, m.compile [t] config = .ok d := by
    have hok : (m.compile [t] config).isOk = true := by decide +kernel
    cases h : m.compile [t] config with
    | ok d => exact ⟨d, rfl⟩
    | error e =>
      rw [h] at hok
      cases hok
  have hr : t.IsRecoverable := by
    have hconditions : ∀ c ∈ t.conditions, Text.Unspaced c.metric.toList ∧
        c.metric.toList.getLast? ≠ some ')' ∧ c.threshold.isFinite = true := by decide +kernel
    refine ⟨fun c hc => ⟨?_, ?_, ?_⟩, .onKeyword "host" (by decide) ⟨by decide, by decide, by decide⟩⟩
    · exact (hconditions c hc).1
    · exact (hconditions c hc).2.1
    · exact (hconditions c hc).2.2
  obtain ⟨d, h⟩ := hcompile
  obtain ⟨tr, hmem, -, hrest⟩ := rebuild_without h rfl nofun List.mem_cons_self hr
  exact ⟨d, h, rfl, nofun, List.mem_cons_self, hr, tr, hmem, hrest⟩

end MonitorForm

end Alerting
