import InfraAudit.Audit.Cluster
import InfraAudit.Audit.Plan
import InfraAudit.Proofs.Report.Tables
import InfraAudit.Report.Plain

/-!
The order of findings in reports. The findings are arranged by severity, the most severe
first, and otherwise left in their order, which is only possible in one way
(`arranges_iff`). Reports in plain text and in Markdown show one block or one row for each
finding, in this order and with the same texts around them whatever the findings are.
-/
namespace InfraAudit

theorem Severity.eq_of_le_of_le {a b : Severity} (le : a ≤ b) (ge : b ≤ a) : a = b := by
  have rank : a.rank = b.rank := Nat.le_antisymm le ge
  cases a <;> cases b <;> first | rfl | cases rank

namespace Report

/-- The findings of a severity. -/
def ofSeverity (s : Severity) (findings : List Finding) : List Finding := findings.filter (·.severity == s)

/-- A list shows some findings, all of them and none besides, the most severe first, and those
    of one severity in their order. -/
structure Arranges (findings shown : List Finding) : Prop where
  perm : shown.Perm findings
  descending : shown.Pairwise (fun a b => b.severity ≤ a.severity)
  stable : ∀ s, ofSeverity s shown = ofSeverity s findings

/-! ### The only arrangement -/

theorem ofSeverity_cons (s : Severity) (f : Finding) (rest : List Finding) :
    ofSeverity s (f :: rest) = if f.severity = s then f :: ofSeverity s rest else ofSeverity s rest := by
  simp only [ofSeverity, List.filter_cons, beq_iff_eq]

theorem severity_of_mem_ofSeverity {s : Severity} {f : Finding} {findings : List Finding}
    (member : f ∈ ofSeverity s findings) : f.severity = s :=
  eq_of_beq (List.mem_filter.mp member).2

theorem severity_le_of_head {f g : Finding} {rest others : List Finding}
    (descending : (f :: rest).Pairwise (fun a b => b.severity ≤ a.severity))
    (same : ofSeverity g.severity (f :: rest) = ofSeverity g.severity (g :: others)) : g.severity ≤ f.severity := by
  have member : g ∈ ofSeverity g.severity (f :: rest) := by
    rw [same, ofSeverity_cons, if_pos rfl]
    exact List.mem_cons_self
  rcases List.mem_cons.mp (List.mem_of_mem_filter member) with rfl | later
  · exact Nat.le_refl _
  · exact List.rel_of_pairwise_cons descending later

/-- Lists in descending order that have the same findings of each severity are the same. -/
theorem eq_of_descending {xs ys : List Finding} (first : xs.Pairwise (fun a b => b.severity ≤ a.severity))
    (second : ys.Pairwise (fun a b => b.severity ≤ a.severity))
    (same : ∀ s, ofSeverity s xs = ofSeverity s ys) : xs = ys := by
  induction xs generalizing ys with
  | nil =>
    cases ys with
    | nil => rfl
    | cons y ys =>
      have none := same y.severity
      rw [ofSeverity_cons, if_pos rfl] at none
      cases none
  | cons x xs ih =>
    cases ys with
    | nil =>
      have none := same x.severity
      rw [ofSeverity_cons, if_pos rfl] at none
      cases none
    | cons y ys =>
      -- Each head is the most severe finding of its list, and the first one of its severity.
      have level : x.severity = y.severity :=
        Severity.eq_of_le_of_le (severity_le_of_head second (same x.severity).symm)
          (severity_le_of_head first (same y.severity))
      have heads := same x.severity
      rw [ofSeverity_cons, ofSeverity_cons, if_pos rfl, if_pos level.symm] at heads
      obtain ⟨rfl, -⟩ := List.cons.inj heads
      have later : ∀ s, ofSeverity s xs = ofSeverity s ys := by
        intro s
        have both := same s
        rw [ofSeverity_cons, ofSeverity_cons] at both
        split at both
        · exact (List.cons.inj both).2
        · exact both
      rw [ih first.of_cons second.of_cons later]

/-- The findings of one severity are in descending order as they are. -/
theorem descending_ofSeverity (s : Severity) (findings : List Finding) :
    (ofSeverity s findings).Pairwise (fun a b => b.severity ≤ a.severity) := by
  refine List.pairwise_of_forall_mem_list fun a first b second => ?_
  rw [severity_of_mem_ofSeverity first, severity_of_mem_ofSeverity second]
  exact Nat.le_refl _

theorem arranges_sortBySeverity (findings : List Finding) : Arranges findings (sortBySeverity findings) := by
  have trans : ∀ a b c : Finding, decide (b.severity ≤ a.severity) → decide (c.severity ≤ b.severity) →
      decide (c.severity ≤ a.severity) := by
    simp only [decide_eq_true_iff]
    exact fun a b c above below => Nat.le_trans below above
  have total : ∀ a b : Finding, decide (b.severity ≤ a.severity) || decide (a.severity ≤ b.severity) := by
    simp only [Bool.or_eq_true, decide_eq_true_iff]
    exact fun a b => Nat.le_total _ _
  have perm : (sortBySeverity findings).Perm findings := findings.mergeSort_perm _
  refine ⟨perm, (List.pairwise_mergeSort trans total findings).imp of_decide_eq_true, fun s => ?_⟩
  -- Sorting keeps what is in order as a sublist, and it has no further findings of the severity.
  have kept : (ofSeverity s findings).Sublist (sortBySeverity findings) :=
    List.sublist_mergeSort trans total ((descending_ofSeverity s findings).imp decide_eq_true) List.filter_sublist
  have among : (ofSeverity s findings).Sublist (ofSeverity s (sortBySeverity findings)) := by
    simpa only [ofSeverity, List.filter_filter, Bool.and_self] using kept.filter (·.severity == s)
  exact (among.eq_of_length (perm.filter _).length_eq.symm).symm

theorem arranges_iff {findings shown : List Finding} :
    Arranges findings shown ↔ shown = sortBySeverity findings := by
  constructor
  · intro arranged
    have sorted := arranges_sortBySeverity findings
    exact eq_of_descending arranged.descending sorted.descending fun s =>
      (arranged.stable s).trans (sorted.stable s).symm
  · rintro rfl
    exact arranges_sortBySeverity findings

/-! ### What reports show -/

/-- The line of a report in plain text that counts the findings. -/
def countLine (n : Nat) : String :=
  if n = 0 then "No findings.\n" else "\nFound " ++ toString n ++ " finding(s).\n"

/-- The table of a report in Markdown with some rows for findings, or what stands in its place
    if there are none. -/
def findingsTable (rows : List String) : String :=
  if rows = [] then "No findings.\n\n" else Markdown.tableHead Markdown.findingColumns ++ String.join rows ++ "\n"

namespace Plain

open Text (Ended)

theorem ended_line (text : String) : Ended (line text) := .inr ⟨text, rfl⟩

theorem ended_heading (color : Bool) (v : View) : Ended (heading color v) := by
  unfold heading
  refine (Text.Ended.append ?title ?summary).append ?blank
  case title =>
    split
    · exact .inl rfl
    · exact ended_line _
  case summary => exact Text.ended_join (List.forall_mem_map.mpr fun _ _ => ended_line _)
  case blank =>
    split
    · exact .inl rfl
    · exact ended_line ""

/-- The block of a finding begins with its severity and its rule, and ends a line. -/
theorem finding_eq (color : Bool) (f : Finding) : ∃ told,
    finding color f = severityLabel color f.severity ++ " " ++ f.ruleId ++ " " ++ told ++ "\n" := by
  have shape : ∀ start place text evidence advice : String,
      line (start ++ place ++ " - " ++ text) ++ evidence ++ line ("  Recommendation: " ++ advice) =
        start ++ (place ++ " - " ++ text ++ "\n" ++ evidence ++ "  Recommendation: " ++ advice) ++ "\n" := by
    intro start place text evidence advice
    simp only [line, String.append_assoc]
  exact ⟨_, shape _ _ _ _ _⟩

theorem count_eq (v : View) : count v = countLine v.findings.length := by
  unfold count countLine
  cases v.findings with
  | nil => rfl
  | cons f rest =>
    have feed : "\nFound " = "\n" ++ "Found " := by decide
    have stop : " finding(s).\n" = " finding(s)." ++ "\n" := by decide
    rw [if_neg (by simp), if_neg (by simp), line, feed, stop]
    simp only [String.append_assoc]

/-- What stands around the findings does not depend on them, but for their number. -/
theorem exists_render_eq (color : Bool) (v : View) : ∃ before after, Ended before ∧ ∀ findings,
    render color { v with findings } =
      before ++ String.join ((sortBySeverity findings).map (finding color)) ++ after ++
        countLine findings.length := by
  refine ⟨heading color v, analyses color v ++ drift color v ++
    String.join (v.ruleFailures.map fun f => warning color (ruleFailure f)) ++
    String.join (v.diagnostics.map fun d => warning color d.text), ended_heading color v, fun findings => ?_⟩
  rw [render, count_eq]
  simp only [String.append_assoc]
  rfl

end Plain

namespace Markdown

open Text (Ended)

theorem findings_eq (v : View) :
    findings v = "### Findings\n\n" ++ findingsTable (v.sortedFindings.map findingRow) := by
  have empty : v.sortedFindings.map findingRow = [] ↔ v.findings.isEmpty = true := by
    rw [List.map_eq_nil_iff, List.isEmpty_iff, ← List.length_eq_zero_iff, ← List.length_eq_zero_iff]
    exact iff_of_eq (congrArg (· = 0) (arranges_sortBySeverity v.findings).perm.length_eq)
  simp only [findings, findingsTable, empty]
  rfl

/-- The row of a finding begins with the cells of its severity and its rule, and is a line. -/
theorem findingRow_eq (f : Finding) : ∃ told,
    findingRow f = "| " ++ severityTag f.severity ++ " | " ++ code f.ruleId ++ " | " ++ told ++ "\n" := by
  have shape : ∀ severity rule place evidence advice : String,
      row [severity, rule, place, evidence, advice] =
        "| " ++ severity ++ " | " ++ rule ++ " | " ++ (place ++ " | " ++ evidence ++ " | " ++ advice ++ " |") ++
          "\n" := by
    intro severity rule place evidence advice
    apply String.toList_inj.mp
    simp [row]
  exact ⟨_, shape _ _ _ _ _⟩

theorem exists_render_eq (v : View) : ∃ before after, Ended before ∧ ∀ findings,
    render { v with findings } =
      before ++ findingsTable ((sortBySeverity findings).map findingRow) ++ after := by
  refine ⟨beforeFindings v, analyses v ++ drift v ++ warnings v,
    Text.ended_append (heading v ++ summary v) "### Findings\n", fun findings => ?_⟩
  rw [render, findings_eq, beforeFindings]
  simp only [String.append_assoc]
  rfl

end Markdown

/-- Reports show the findings in the only order that has all of them, the most severe first,
    and those of one severity as they were. In plain text every finding is a block of lines,
    in Markdown a row, which begins with its severity and its rule; both stand in this order
    between texts that do not depend on the findings, and the number that is told is theirs. -/
theorem findings_shown_in_order (v : View) (color : Bool) :
    (∀ shown, Arranges v.findings shown ↔ shown = v.sortedFindings) ∧
    (∃ before after, Text.Ended before ∧ ∀ findings shown, Arranges findings shown →
      Plain.render color { v with findings } =
        before ++ String.join (shown.map (Plain.finding color)) ++ after ++ countLine findings.length) ∧
    (∃ before after, Text.Ended before ∧ ∀ findings shown, Arranges findings shown →
      Markdown.render { v with findings } = before ++ findingsTable (shown.map Markdown.findingRow) ++ after) ∧
    (∀ f, (∃ told, Plain.finding color f =
        Plain.severityLabel color f.severity ++ " " ++ f.ruleId ++ " " ++ told ++ "\n") ∧
      ∃ told, Markdown.findingRow f =
        "| " ++ severityTag f.severity ++ " | " ++ Markdown.code f.ruleId ++ " | " ++ told ++ "\n") ∧
    (∀ a : PlanAudit, ("Risks", toString a.view.findings.length) ∈ a.view.summary) ∧
    (∀ a : ClusterAudit, ("Findings", toString a.view.findings.length) ∈ a.view.summary) := by
  refine ⟨fun shown => arranges_iff, ?_, ?_, fun f => ⟨Plain.finding_eq color f, Markdown.findingRow_eq f⟩,
    fun a => by simp [PlanAudit.view], fun a => by simp [ClusterAudit.view]⟩
  · obtain ⟨before, after, ended, rendered⟩ := Plain.exists_render_eq color v
    refine ⟨before, after, ended, fun findings shown arranged => ?_⟩
    rw [arranges_iff.mp arranged]
    exact rendered findings
  · obtain ⟨before, after, ended, rendered⟩ := Markdown.exists_render_eq v
    refine ⟨before, after, ended, fun findings shown arranged => ?_⟩
    rw [arranges_iff.mp arranged]
    exact rendered findings

end Report

end InfraAudit
