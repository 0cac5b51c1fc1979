import InfraAudit.Audit.Policy
import InfraAudit.Proofs.Rule.Builtin

/-!
What a policy selects. Running the rules that a policy keeps is the same as running all
built-in rules and keeping what the policy's rules report (`evaluateMany_restrict`), so
that the evaluation by a policy is a selection from the one by all rules: by the ids of
the rules and, for findings alone, by their severity.
-/
namespace InfraAudit

/-! ### Evaluations by some rules -/

namespace Evaluation

/-- What the rules of some ids report in an evaluation. -/
def restrict (keep : String → Bool) (e : Evaluation) : Evaluation :=
  ⟨e.findings.filter (fun f => keep f.ruleId), e.failures.filter (fun f => keep f.ruleId)⟩

theorem restrict_append (keep : String → Bool) (a b : Evaluation) :
    (a ++ b).restrict keep = a.restrict keep ++ b.restrict keep :=
  congrArg₂ Evaluation.mk (List.filter_append ..) (List.filter_append ..)

end Evaluation

namespace Rule

/-- All that a rule adds to an evaluation carries its id. -/
theorem restrict_contribution (keep : String → Bool) {r : Rule} (attributes : r.Attributes) (t : Target) :
    (r.contribution t).restrict keep = if keep r.id then r.contribution t else .empty := by
  unfold contribution
  by_cases applies : r.info.appliesTo t.resourceType = true
  · rw [if_pos applies]
    unfold outcome
    cases said : r.evaluate t with
    | error e =>
      by_cases kept : keep r.id = true <;>
        simp [Evaluation.restrict, Evaluation.empty, failure, kept]
    | ok found =>
      cases found with
      | none => simp [Evaluation.restrict, Evaluation.empty]
      | some f =>
        have same : f.ruleId = r.id := (attributes t f said).ruleId
        by_cases kept : keep r.id = true <;>
          simp [Evaluation.restrict, Evaluation.empty, same, kept]
  · rw [if_neg applies]
    exact (ite_self _).symm

theorem evaluateAll_filter (keep : String → Bool) {rules : List Rule}
    (own : ∀ r ∈ rules, r.Attributes) (t : Target) :
    evaluateAll (rules.filter (fun r => keep r.id)) t = (evaluateAll rules t).restrict keep := by
  induction rules with
  | nil => rfl
  | cons r rest ih =>
    obtain ⟨first, later⟩ := List.forall_mem_cons.mp own
    rw [evaluateAll_cons, Evaluation.restrict_append, restrict_contribution keep first, ← ih later]
    by_cases kept : keep r.id = true
    · rw [List.filter_cons, if_pos kept, if_pos kept, evaluateAll_cons]
    · rw [List.filter_cons, if_neg kept, if_neg kept, Evaluation.empty_append]

end Rule

namespace RuleEngine

theorem evaluateMany_cons (e : RuleEngine) (t : Target) (ts : List Target) :
    e.evaluateMany (t :: ts) = e.evaluate t ++ e.evaluateMany ts := by
  rw [evaluateMany, List.foldl_cons, foldl_evaluate, Evaluation.empty_append]

/-- An engine with some rules of another one reports what these report there. -/
theorem evaluateMany_restrict {e full : RuleEngine} {keep : String → Bool}
    (own : ∀ r ∈ full.list .all, r.Attributes)
    (slots : e.list .all = (full.list .all).filter (fun r => keep r.id)) (ts : List Target) :
    e.evaluateMany ts = (full.evaluateMany ts).restrict keep := by
  induction ts with
  | nil => rfl
  | cons t rest ih =>
    rw [evaluateMany_cons, evaluateMany_cons, Evaluation.restrict_append, ih, evaluate_eq, evaluate_eq, slots,
      Rule.evaluateAll_filter keep own]

theorem list_all_builtin : RuleEngine.builtin.list .all = Rule.builtin :=
  (registerAll_builtin (List.Sublist.refl _)).2

end RuleEngine

/-! ### Policies -/

/-- A policy always has an engine, with the rules that it keeps. -/
theorem Policy.exists_engine (p : Policy) : ∃ e, p.engine = .ok e ∧ e.list .all = p.keptRules := by
  obtain ⟨accepted, slots⟩ := RuleEngine.registerAll_builtin (List.filter_sublist : p.keptRules.Sublist Rule.builtin)
  refine ⟨(RuleEngine.empty.registerAll p.keptRules).1, ?_, slots⟩
  have registered : RuleEngine.empty.registerAll p.keptRules =
      ((RuleEngine.empty.registerAll p.keptRules).1, none) := Prod.ext rfl accepted
  rw [Policy.engine, registered]

theorem Policy.allowsRule_iff (p : Policy) (id : String) :
    p.allowsRule id = true ↔ id ∉ p.excluded ∧ (p.included ≠ [] → id ∈ p.included) := by
  simp only [allowsRule, Bool.and_eq_true, Bool.not_eq_true', List.contains_eq_mem, decide_eq_false_iff_not,
    Bool.or_eq_true, List.isEmpty_iff, decide_eq_true_iff, ne_eq, or_iff_not_imp_left]

theorem mem_addMissing (ids more : List String) (id : String) :
    id ∈ addMissing ids more ↔ id ∈ ids ∨ id ∈ more := by
  induction more generalizing ids with
  | nil => simp [addMissing]
  | cons first rest ih =>
    rw [addMissing, ih, List.mem_cons]
    by_cases known : first ∈ ids
    · rw [if_pos (List.contains_iff_mem.mpr known)]
      constructor
      · rintro (old | new)
        · exact .inl old
        · exact .inr (.inr new)
      · rintro (old | rfl | new)
        · exact .inl old
        · exact .inl known
        · exact .inr new
    · rw [if_neg (mt List.contains_iff_mem.mp known), List.mem_append, List.mem_singleton, or_assoc]

namespace Config

/-- The policy set that a name selects; without a name there is none. -/
def Selects (c : Config) (name : Option String) (set : Option PolicySet) : Prop :=
  match name with
  | none => set = none
  | some name => ∃ s, set = some s ∧ c.policySets.lookup name = some s

/-- A configuration and a policy set keep the rule of an id: neither excludes it, and
    the set includes it unless it includes all. -/
def Keeps (c : Config) (set : Option PolicySet) (id : String) : Prop :=
  id ∉ c.rules.excluded ∧ ∀ s ∈ set, id ∉ s.excluded ∧ (s.included ≠ [] → id ∈ s.included)

instance (c : Config) (set : Option PolicySet) (id : String) : Decidable (c.Keeps set id) :=
  inferInstanceAs (Decidable (_ ∧ _))

/-- The least severity that is reported: that of the set, else that of the
    configuration, else the lowest. -/
def leastSeverity (c : Config) (set : Option PolicySet) : Severity :=
  ((set.bind PolicySet.minSeverity).or c.rules.minSeverity).getD .low

theorem policy?_of_selects {c : Config} {name : Option String} {set : Option PolicySet}
    (selected : c.Selects name set) :
    ∃ p, c.policy? name = some p ∧ p.minSeverity = c.leastSeverity set ∧
      ∀ id, p.allowsRule id = true ↔ c.Keeps set id := by
  cases name with
  | none =>
    cases selected
    refine ⟨c.basePolicy, rfl, rfl, fun id => ?_⟩
    rw [Policy.allowsRule_iff]
    simp [basePolicy, Keeps]
  | some name =>
    obtain ⟨s, rfl, found⟩ := selected
    refine ⟨_, by rw [policy?, found]; rfl, ?_, fun id => ?_⟩
    · cases own : s.minSeverity with
      | none => simp [leastSeverity, minSeverity, own]
      | some least => simp [leastSeverity, own]
    · rw [Policy.allowsRule_iff, mem_addMissing]
      simp [Keeps, and_assoc]

end Config

/-- The evaluation of some targets by all built-in rules, without what the
    configuration and a policy set leave out. -/
def Config.selection (c : Config) (set : Option PolicySet) (ts : List Target) : Evaluation :=
  { findings := (RuleEngine.builtin.evaluateMany ts).findings.filter fun f =>
      c.Keeps set f.ruleId ∧ c.leastSeverity set ≤ f.severity
    failures := (RuleEngine.builtin.evaluateMany ts).failures.filter fun f => c.Keeps set f.ruleId }

theorem Config.policyRun_of_selects {c : Config} {name : Option String} {set : Option PolicySet}
    (selected : c.Selects name set) :
    ∃ run, c.policyRun name = .ok run ∧ ∀ ts, run.evaluate ts = c.selection set ts := by
  obtain ⟨p, resolved, least, keeps⟩ := policy?_of_selects selected
  obtain ⟨e, made, slots⟩ := p.exists_engine
  refine ⟨⟨p, e⟩, by simp only [policyRun, resolved, made], fun ts => ?_⟩
  have own : ∀ r ∈ RuleEngine.builtin.list .all, r.Attributes := fun r member =>
    Rule.attributes_of_mem_builtin (RuleEngine.list_all_builtin ▸ member)
  have kept : e.list .all = (RuleEngine.builtin.list .all).filter (fun r => p.allowsRule r.id) := by
    rw [slots, RuleEngine.list_all_builtin]
    rfl
  have allowed : ∀ id, p.allowsRule id = decide (c.Keeps set id) := fun id =>
    Bool.eq_iff_iff.mpr ((keeps id).trans decide_eq_true_iff.symm)
  simp only [PolicyRun.evaluate, Policy.report, RuleEngine.evaluateMany_restrict own kept, Evaluation.restrict,
    List.filter_filter, allowed, Policy.allowsFinding, least, selection]
  congr 1
  apply List.filter_congr
  intro f _
  rw [Bool.and_comm, ← Bool.decide_and]

/-! ### Equal selections -/

/-- Policy sets with the same ids, in whatever order and number. -/
structure PolicySet.Similar (a b : PolicySet) : Prop where
  included : ∀ id, id ∈ a.included ↔ id ∈ b.included
  excluded : ∀ id, id ∈ a.excluded ↔ id ∈ b.excluded
  minSeverity : a.minSeverity = b.minSeverity

/-- Configurations that exclude the same ids, in whatever order and number. -/
structure Config.Similar (c d : Config) : Prop where
  excluded : ∀ id, id ∈ c.rules.excluded ↔ id ∈ d.rules.excluded
  minSeverity : c.rules.minSeverity = d.rules.minSeverity

theorem eq_nil_iff_of_similar {ids others : List String} (same : ∀ id, id ∈ ids ↔ id ∈ others) :
    ids = [] ↔ others = [] := by
  rw [List.eq_nil_iff_forall_not_mem, List.eq_nil_iff_forall_not_mem]
  exact forall_congr' (fun id => not_congr (same id))

theorem PolicySet.Similar.keeps_iff {c d : Config} (same : c.Similar d) {set other : Option PolicySet}
    (similar : Option.Rel PolicySet.Similar set other) (id : String) :
    c.Keeps set id ↔ d.Keeps other id := by
  unfold Config.Keeps
  rw [same.excluded id]
  cases similar with
  | none => simp
  | some both =>
    simp [both.excluded id, both.included id, eq_nil_iff_of_similar both.included]

theorem PolicySet.Similar.leastSeverity_eq {c d : Config} (same : c.Similar d) {set other : Option PolicySet}
    (similar : Option.Rel PolicySet.Similar set other) : c.leastSeverity set = d.leastSeverity other := by
  unfold Config.leastSeverity
  rw [same.minSeverity]
  cases similar with
  | none => rfl
  | some both => simp [both.minSeverity]

theorem Config.selection_congr {c d : Config} (same : c.Similar d) {set other : Option PolicySet}
    (similar : Option.Rel PolicySet.Similar set other) (ts : List Target) :
    c.selection set ts = d.selection other ts := by
  simp only [selection, PolicySet.Similar.keeps_iff same similar, PolicySet.Similar.leastSeverity_eq same similar]

/-- The evaluation by the policy of a set is that by all built-in rules, without the
    rules that the policy leaves out and without findings that are not severe enough.
    What the configuration or the set excludes reports nothing, even if it is included;
    the order and the number of the ids do not matter; and every policy has an engine. -/
theorem Config.policyRun_evaluate_eq_selection (c : Config) (name : Option String) (set : Option PolicySet)
    (selected : c.Selects name set) :
    ∃ run, c.policyRun name = .ok run ∧
      RuleEngine.builtin.list .all = Rule.builtin ∧
      (∀ ts, run.evaluate ts =
        { findings := (RuleEngine.builtin.evaluateMany ts).findings.filter fun f =>
            c.Keeps set f.ruleId ∧ c.leastSeverity set ≤ f.severity
          failures := (RuleEngine.builtin.evaluateMany ts).failures.filter fun f => c.Keeps set f.ruleId }) ∧
      (∀ id, (id ∈ c.rules.excluded ∨ ∃ s ∈ set, id ∈ s.excluded) → ∀ ts,
        (∀ f ∈ (run.evaluate ts).findings, f.ruleId ≠ id) ∧ ∀ f ∈ (run.evaluate ts).failures, f.ruleId ≠ id) ∧
      (∀ d other, d.Selects name other → c.Similar d → Option.Rel PolicySet.Similar set other →
        ∃ run', d.policyRun name = .ok run' ∧ ∀ ts, run'.evaluate ts = run.evaluate ts) ∧
      (∀ p : Policy, ∃ e, p.engine = .ok e) := by
  obtain ⟨run, made, evaluate⟩ := policyRun_of_selects selected
  refine ⟨run, made, RuleEngine.list_all_builtin, evaluate, fun id left ts => ?_,
    fun d other chosen same similar => ?_, fun p => ?_⟩
  · have out : ¬ c.Keeps set id := by
      rintro ⟨kept, keeps⟩
      rcases left with excluded | ⟨s, given, excluded⟩
      · exact kept excluded
      · exact (keeps s given).1 excluded
    rw [evaluate]
    constructor
    · rintro f member rfl
      obtain ⟨_, kept⟩ := List.mem_filter.mp member
      exact out (of_decide_eq_true kept).1
    · rintro f member rfl
      obtain ⟨_, kept⟩ := List.mem_filter.mp member
      exact out (of_decide_eq_true kept)
  · obtain ⟨run', made', evaluate'⟩ := policyRun_of_selects chosen
    refine ⟨run', made', fun ts => ?_⟩
    rw [evaluate, evaluate', selection_congr same similar]
  · obtain ⟨e, made, _⟩ := p.exists_engine
    exact ⟨e, made⟩

/-- A set that includes two rules, one of which the configuration excludes, reports a
    public bucket once. -/
theorem Config.policyRun_evaluate_eq_selection_bucket :
    let buckets : PolicySet := ⟨["storage-public-access", "storage-no-encryption"], [], some .med⟩
    let c : Config := { Config.default with
      rules := ⟨["storage-no-encryption"], some .crit⟩, policySets := [("buckets", buckets)] }
    let bucket : Target := ⟨.object [("acl", .string "public-read")], "aws_s3_bucket", "logs", none⟩
    c.Selects (some "buckets") (some buckets) ∧
    ∃ run, c.policyRun (some "buckets") = .ok run ∧
      (run.evaluate [bucket]).findings.map Finding.ruleId = ["storage-public-access"] := by
  intro buckets c bucket
  have selected : c.Selects (some "buckets") (some buckets) := ⟨buckets, rfl, by decide⟩
  obtain ⟨run, made, slots, evaluate, _⟩ := policyRun_evaluate_eq_selection c (some "buckets") (some buckets) selected
  refine ⟨selected, run, made, ?_⟩
  have all : RuleEngine.builtin.evaluateMany [bucket] = Rule.evaluateAll Rule.builtin bucket := by
    rw [RuleEngine.evaluateMany_cons, RuleEngine.evaluate_eq, slots]
    exact Evaluation.append_empty _
  rw [evaluate, all]
  decide +kernel

end InfraAudit
