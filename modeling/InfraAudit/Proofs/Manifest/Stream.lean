import InfraAudit.Manifest.Parse
import InfraAudit.Proofs.Manifest.Document

/-!
What becomes of the documents of a stream. Every document is read on its own and
becomes one resource, one diagnostic or nothing; the result of a stream that a
separator divides is that of its first part followed by that of its second part,
whose diagnostics name places further down.
-/
namespace InfraAudit.Manifest

/-- What a document becomes by its text alone. -/
def Run.outcome (d : Run) : Outcome := .ofText d.text

/-- A document that YAML reads as null. -/
def Run.isNull (d : Run) : Bool := (Yaml.parse? d.text).any Value.isNull

/-- A diagnostic of the document some documents and some lines further down. -/
def Diagnostic.shift (documents lines : Nat) (d : Diagnostic) : Diagnostic :=
  { d with documentIndex := d.documentIndex + documents, line := d.line.map (· + lines) }

/-! ### One document -/

theorem diagnostic?_shift (documents lines index line : Nat) (o : Outcome) :
    o.diagnostic? (index + documents) (line + lines) =
      (o.diagnostic? index line).map (Diagnostic.shift documents lines) := by
  cases o <;> rfl

theorem outcome_eq_skipped_iff (d : Run) : d.outcome = .skipped ↔ d.isNull = true := by
  unfold Run.outcome Run.isNull Outcome.ofText
  cases Yaml.parse? d.text with
  | none => exact iff_of_false (by rintro ⟨⟩) Bool.false_ne_true
  | some v =>
    rw [Option.any_some]
    simp only [Outcome.ofValue]
    by_cases null : v.isNull = true
    · rw [if_pos null]
      exact iff_of_true rfl null
    · rw [if_neg null]
      refine iff_of_false ?_ null
      split
      · split <;> rintro ⟨⟩
      · rintro ⟨⟩

/-- A document becomes exactly one of a resource, a diagnostic and, if it is null, nothing. -/
theorem outcome_count (index line : Nat) (d : Run) :
    d.outcome.resource?.toList.length + (d.outcome.diagnostic? index line).toList.length +
      d.isNull.toNat = 1 := by
  cases null : d.isNull with
  | true =>
    rw [(outcome_eq_skipped_iff d).mpr null]
    rfl
  | false =>
    cases become : d.outcome with
    | resource r => rfl
    | invalid message => rfl
    | skipped =>
      rw [(outcome_eq_skipped_iff d).mp become] at null
      cases null

/-! ### Streams -/

theorem resources_eq (text : String) :
    (parseYaml text).resources = (documents text).filterMap (fun d => d.outcome.resource?) :=
  List.filterMap_map

/-- A diagnostic names the place of its document among the documents and its first line. -/
theorem diagnostics_eq (text : String) :
    (parseYaml text).diagnostics =
      (documents text).zipIdx.filterMap (fun p => p.1.outcome.diagnostic? p.2 p.1.start) := by
  have pairs : ((documents text).map Run.start).zip (outcomes text) =
      (documents text).map (fun d => (d.start, d.outcome)) := List.zip_map' ..
  simp only [parseYaml, pairs, List.zipIdx_map, List.filterMap_map]
  rfl

theorem resources_append {a : String} (ended : Text.Ended a) (b : String) :
    (parseYaml (a ++ "---\n" ++ b)).resources = (parseYaml a).resources ++ (parseYaml b).resources := by
  simp only [resources_eq, documents_append ended, List.filterMap_append, List.filterMap_map]
  rfl

theorem diagnostics_append {a : String} (ended : Text.Ended a) (b : String) :
    (parseYaml (a ++ "---\n" ++ b)).diagnostics =
      (parseYaml a).diagnostics ++
        (parseYaml b).diagnostics.map
          (Diagnostic.shift (documents a).length ((Text.lines a.toList).length + 1)) := by
  -- The documents after the separator are counted on from those before it.
  have counted : (documents b).zipIdx (documents a).length =
      (documents b).zipIdx.map (fun p => (p.1, (documents a).length + p.2)) :=
    List.zipIdx_eq_map_add
  simp only [diagnostics_eq, documents_append ended, List.zipIdx_append, List.filterMap_append,
    List.map_filterMap, List.zipIdx_map, Nat.zero_add, counted, List.map_map, List.filterMap_map]
  congr 1
  apply List.filterMap_congr
  intro p _
  rw [← diagnostic?_shift, Nat.add_comm p.2]
  rfl

theorem outcomes_append {a : String} (ended : Text.Ended a) (b : String) :
    outcomes (a ++ "---\n" ++ b) = outcomes a ++ outcomes b := by
  unfold outcomes
  rw [documents_append ended, List.map_append, List.map_map]
  rfl

theorem ended_append_separator (a : String) {m : String} (ended : Text.Ended m) :
    Text.Ended (a ++ "---\n" ++ m) :=
  (Text.ended_append a "---").append ended

theorem length_filterMap_cons {α β : Type} (f : α → Option β) (a : α) (as : List α) :
    ((a :: as).filterMap f).length = (f a).toList.length + (as.filterMap f).length := by
  rw [List.filterMap_cons]
  cases f a with
  | none => exact (Nat.zero_add _).symm
  | some b => exact Nat.add_comm _ 1

/-- The documents of a list, counted from an index on, by what they become. -/
theorem count_outcomes (index : Nat) (ds : List Run) :
    (ds.filterMap (fun d => d.outcome.resource?)).length +
        ((ds.zipIdx index).filterMap (fun p => p.1.outcome.diagnostic? p.2 p.1.start)).length +
        ds.countP Run.isNull = ds.length := by
  induction ds generalizing index with
  | nil => rfl
  | cons d rest ih =>
    have one := outcome_count index d.start d
    have others := ih (index + 1)
    have null : (if d.isNull then 1 else 0) = d.isNull.toNat := by cases d.isNull <;> rfl
    rw [List.zipIdx_cons, length_filterMap_cons, length_filterMap_cons, List.countP_cons, List.length_cons,
      null]
    dsimp only
    omega

/-- A stream that a separator divides after complete lines is read as its two parts
    are, with the places in the second part counted on from the first. So whatever a
    document becomes, its siblings become what they become without it; and every
    document becomes one resource, one diagnostic or, if it is null, nothing. -/
theorem parseYaml_append_separator (a b : String) (ended : Text.Ended a) :
    (parseYaml (a ++ "---\n" ++ b)).resources = (parseYaml a).resources ++ (parseYaml b).resources ∧
    (parseYaml (a ++ "---\n" ++ b)).diagnostics =
      (parseYaml a).diagnostics ++
        (parseYaml b).diagnostics.map
          (Diagnostic.shift (documents a).length ((Text.lines a.toList).length + 1)) ∧
    -- What stands between two separators, valid or not, leaves the rest alone.
    (∀ m, Text.Ended m →
      outcomes (a ++ "---\n" ++ m ++ "---\n" ++ b) = outcomes a ++ outcomes m ++ outcomes b) ∧
    -- What a stream is read as is what its documents become, each on its own.
    (parseYaml b).resources = (documents b).filterMap (fun d => d.outcome.resource?) ∧
    (parseYaml b).diagnostics =
      (documents b).zipIdx.filterMap (fun p => p.1.outcome.diagnostic? p.2 p.1.start) ∧
    (∀ d ∈ documents b, ∀ index,
      d.outcome.resource?.toList.length + (d.outcome.diagnostic? index d.start).toList.length +
        d.isNull.toNat = 1) ∧
    (parseYaml b).resources.length + (parseYaml b).diagnostics.length + (documents b).countP Run.isNull =
      (documents b).length := by
  refine ⟨resources_append ended b, diagnostics_append ended b, fun m complete => ?_, resources_eq b,
    diagnostics_eq b, fun d _ index => outcome_count index d.start d, ?_⟩
  · rw [outcomes_append (ended_append_separator a complete), outcomes_append ended]
  · rw [resources_eq, diagnostics_eq]
    exact count_outcomes 0 (documents b)

/-- A document that is no YAML is one diagnostic, and the resource after it is read. -/
theorem parseYaml_append_separator_after_invalid :
    let broken := "kind: [\n"
    let pod := "apiVersion: v1\nkind: Pod\nmetadata:\n  name: web\n"
    Text.Ended broken ∧
    (parseYaml broken).diagnostics = [⟨none, 0, some 1, "invalid YAML"⟩] ∧
    (parseYaml pod).resources.length = 1 ∧
    (parseYaml (broken ++ "---\n" ++ pod)).resources =
      (parseYaml broken).resources ++ (parseYaml pod).resources ∧
    (parseYaml (broken ++ "---\n" ++ pod)).diagnostics =
      (parseYaml broken).diagnostics ++ (parseYaml pod).diagnostics.map (Diagnostic.shift 1 2) := by
  intro broken pod
  have ended : Text.Ended broken := .inr ⟨"kind: [", rfl⟩
  obtain ⟨resources, diagnostics, _⟩ := parseYaml_append_separator broken pod ended
  have before : (documents broken).length = 1 := by decide +kernel
  have lines : (Text.lines broken.toList).length = 1 := by decide +kernel
  rw [before, lines] at diagnostics
  exact ⟨ended, by decide +kernel, by decide +kernel, resources, diagnostics⟩

end InfraAudit.Manifest
