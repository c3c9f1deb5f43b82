import Alerting.Proofs.Script.Tokens
import Alerting.Trigger.Rebuilt
import Alerting.Trigger.Stored

/-!
# Scripts with and without parentheses

The settings say whether the script of a bucket trigger groups its conditions.  The parentheses are
not among the tokens of the script, so nothing that is read of a script depends on them, be it
conditions or the reason why there are none.

* `Compile.Alike` : computations with related results, or refused for the same reason.
* `Chain.parse_alike` : scripts with the same tokens are read alike.
* `Trigger.rebuild_alike` : so are the triggers that hold them.
* `Chain.grouping_unread` : no setting of the parentheses changes what is read.
-/

namespace Alerting

/-! ### Alike computations -/

/-- The same error, or the same fault of two scripts. -/
inductive CompileError.SameReason : CompileError → CompileError → Prop
  | refl (e : CompileError) : SameReason e e
  | script (s t : String) (fault : ScriptFault) :
    SameReason (.foreignScript s fault) (.foreignScript t fault)

namespace Compile

variable {α β γ δ : Type} {r : α → β → Prop}

/-- Both computations have results, which are related, or both are refused for the same reason. -/
inductive Alike (r : α → β → Prop) : Compile α → Compile β → Prop
  | ok {a : α} {b : β} : r a b → Alike r (.ok a) (.ok b)
  | error {e e' : CompileError} : e.SameReason e' → Alike r (.error e) (.error e')

theorem alike_refl (x : Compile α) : Alike Eq x x := by
  cases x with
  | ok a => exact .ok rfl
  | error e => exact .error (.refl e)

theorem Alike.bind {q : γ → δ → Prop} {x : Compile α} {y : Compile β} {f : α → Compile γ}
    {g : β → Compile δ} (h : Alike r x y) (hfg : ∀ a b, r a b → Alike q (f a) (g b)) :
    Alike q (x >>= f) (y >>= g) := by
  cases h with
  | ok hab => exact hfg _ _ hab
  | error he => exact .error he

theorem Alike.map {q : γ → δ → Prop} {x : Compile α} {y : Compile β} {f : α → γ} {g : β → δ}
    (h : Alike r x y) (hfg : ∀ a b, r a b → q (f a) (g b)) : Alike q (x.map f) (y.map g) := by
  cases h with
  | ok hab => exact .ok (hfg _ _ hab)
  | error he => exact .error he

end Compile

/-! ### Scripts -/

namespace Chain

/-- Scripts with the same tokens are read alike. -/
theorem parse_alike {s t : String} (h : tokens s = tokens t) :
    Compile.Alike Eq (parse s) (parse t) := by
  unfold parse
  rw [h]
  cases ofTokens (tokens t) with
  | ok c => exact .ok rfl
  | error fault => exact .error (.script s t fault)

/-- A chain has the same tokens in its text, grouped or not. -/
theorem tokens_chainText (config : Config) (c : Chain) :
    tokens (BucketSelector.chainText config c) = tokens c.render := by
  unfold BucketSelector.chainText
  split
  · exact tokens_renderGrouped c
  · rfl

end Chain

/-! ### Selectors -/

namespace BucketSelector

/-- Selectors of which the same is read: their filters are equal, and their scripts have the same
tokens. -/
structure ReadAlike (s t : BucketSelector) : Prop where
  filter : s.filter = t.filter
  tokens : Chain.tokens s.script.source = Chain.tokens t.script.source

theorem ReadAlike.conditions {s t : BucketSelector} (h : ReadAlike s t)
    (entry : Option TriggerSidecar) :
    Compile.Alike Eq (s.conditions entry) (t.conditions entry) := by
  unfold BucketSelector.conditions
  cases entry.bind TriggerSidecar.conditions with
  | some cs => exact .ok rfl
  | none => exact (Chain.parse_alike h.tokens).map fun _ _ hc => congrArg Chain.toConditions hc

theorem ReadAlike.whereClause {s t : BucketSelector} (h : ReadAlike s t)
    (entry : Option TriggerSidecar) : s.whereClause entry = t.whereClause entry := by
  unfold BucketSelector.whereClause
  rw [h.filter]

end BucketSelector

/-! ### Stored triggers -/

/-- The settings with another choice of parentheses. -/
def Config.withGrouping (config : Config) (grouped : Bool) : Config :=
  { config with parenthesizeBucketConditions := grouped }

/-- Conditions of which the same is read. -/
inductive TriggerCondition.ReadAlike : TriggerCondition → TriggerCondition → Prop
  | query (script : Script) : ReadAlike (.query script) (.query script)
  | bucket {s t : BucketSelector} : s.ReadAlike t → ReadAlike (.bucket s) (.bucket t)

/-- Triggers that say the same of themselves, with conditions of which the same is read. -/
structure Trigger.ReadAlike (tr tr' : Trigger) : Prop where
  id : tr.id = tr'.id
  name : tr.name = tr'.name
  severity : tr.severity = tr'.severity
  actions : tr.actions = tr'.actions
  condition : tr.condition.ReadAlike tr'.condition

theorem TriggerCondition.ReadAlike.refl (c : TriggerCondition) : c.ReadAlike c := by
  cases c with
  | query script => exact .query script
  | bucket s => exact .bucket ⟨rfl, rfl⟩

namespace TriggerForm

variable (t : TriggerForm) (m : MonitorForm) (config : Config) (grouped : Bool)

theorem toSelector_alike :
    Compile.Alike BucketSelector.ReadAlike (t.toSelector (config.withGrouping grouped))
      (t.toSelector config) := by
  unfold toSelector BucketSelector.ofChain
  refine (Compile.alike_refl _).bind ?_
  rintro chain _ rfl
  refine (Compile.alike_refl _).bind ?_
  rintro filter _ rfl
  refine .ok ⟨rfl, ?_⟩
  rw [Chain.tokens_chainText, Chain.tokens_chainText]

theorem condition_alike :
    Compile.Alike TriggerCondition.ReadAlike (t.condition m (config.withGrouping grouped))
      (t.condition m config) := by
  have hpicked : Compile.Alike TriggerCondition.ReadAlike
      ((t.toSelector (config.withGrouping grouped)).map .bucket)
      ((t.toSelector config).map .bucket) :=
    (t.toSelector_alike config grouped).map fun _ _ hs => .bucket hs
  unfold condition
  cases m.kind with
  | queryLevel => exact .ok (.query _)
  | bucketLevel =>
    cases m.search.kind with
    | query =>
      refine (Compile.alike_refl _).map ?_
      rintro selector _ rfl
      exact .refl _
    | anomaly | graph => exact hpicked

theorem toTrigger_alike :
    Compile.Alike Trigger.ReadAlike (t.toTrigger m (config.withGrouping grouped))
      (t.toTrigger m config) := by
  unfold toTrigger
  refine (t.condition_alike m config grouped).bind ?_
  intro c c' hc
  exact .ok ⟨rfl, rfl, rfl, rfl, hc⟩

end TriggerForm

/-! ### Rebuilt forms -/

namespace Trigger

/-- Forms that differ at most in the text of the condition, with the same warning. -/
def SameButSelector (u v : Rebuilt) : Prop :=
  u.1 = { v.1 with selector := u.1.selector } ∧ u.2 = v.2

theorem rebuiltConditions_alike {s t : BucketSelector} (h : s.ReadAlike t)
    (entry : Option TriggerSidecar) (kind : SearchKind) :
    Compile.Alike Eq (rebuiltConditions s entry kind) (rebuiltConditions t entry kind) := by
  have hconditions := h.conditions entry
  unfold rebuiltConditions
  generalize s.conditions entry = x at hconditions
  generalize t.conditions entry = y at hconditions
  cases hconditions with
  | ok hcs => exact .ok hcs
  | error he =>
    simp only
    split
    · exact .ok rfl
    · exact .error he

/-- Triggers of which the same is read are rebuilt alike. -/
theorem rebuild_alike {tr tr' : Trigger} (h : tr.ReadAlike tr') (sidecar : Option Sidecar) :
    Compile.Alike SameButSelector (tr.rebuild sidecar) (tr'.rebuild sidecar) := by
  obtain ⟨id, name, severity, condition, actions⟩ := tr
  obtain ⟨_, _, _, condition', _⟩ := tr'
  obtain ⟨rfl, rfl, rfl, rfl, hcondition⟩ := h
  unfold rebuild
  cases hcondition with
  | query script => exact .ok ⟨rfl, rfl⟩
  | bucket hs =>
    refine (rebuiltConditions_alike hs _ _).bind ?_
    rintro cs _ rfl
    rw [hs.whereClause]
    refine .ok ⟨?_, rfl⟩
    cases (Sidecar.entry sidecar name).toOption <;> rfl

end Trigger

namespace TriggerForm

/-- The form that is rebuilt of a trigger once it is stored, beside a sidecar. -/
def restored (t : TriggerForm) (m : MonitorForm) (config : Config) (sidecar : Option Sidecar) :
    Compile Trigger.Rebuilt := do
  let tr ← t.toTrigger m config
  tr.rebuild sidecar

theorem restored_alike (t : TriggerForm) (m : MonitorForm) (config : Config) (grouped : Bool)
    (sidecar : Option Sidecar) :
    Compile.Alike Trigger.SameButSelector (t.restored m (config.withGrouping grouped) sidecar)
      (t.restored m config sidecar) := by
  unfold restored
  refine (t.toTrigger_alike m config grouped).bind ?_
  intro tr tr' h
  exact Trigger.rebuild_alike h sidecar

end TriggerForm

/-- **Parentheses are not read.**  The grouped text of a chain is read as its plain text is: both as
the same chain, or neither, for the same reason.  So whether scripts are grouped changes nothing of
the form that is rebuilt of a stored trigger, with or without a sidecar, but the text of its
selector, and nothing of the reason why there is none. -/
theorem Chain.grouping_unread :
    (∀ c : Chain,
      (∃ d, parse c.renderGrouped = .ok d ∧ parse c.render = .ok d) ∨
        ∃ fault, parse c.renderGrouped = .error (.foreignScript c.renderGrouped fault) ∧
          parse c.render = .error (.foreignScript c.render fault)) ∧
    ∀ (t : TriggerForm) (m : MonitorForm) (config : Config) (grouped : Bool)
      (sidecar : Option Sidecar),
      Compile.Alike Trigger.SameButSelector (t.restored m (config.withGrouping grouped) sidecar)
        (t.restored m config sidecar) := by
  refine ⟨fun c => ?_, TriggerForm.restored_alike⟩
  unfold parse
  rw [tokens_renderGrouped]
  cases ofTokens (tokens c.render) with
  | ok d => exact .inl ⟨d, rfl, rfl⟩
  | error fault => exact .inr ⟨fault, rfl, rfl⟩

end Alerting
