import InfraAudit.Proofs.Audit.Risks

/-!
Audits for a cloud. A request for a cloud selects the same resources from a plan as from
one that is narrowed to the provider of the cloud (`select_narrow`), so that the
resources of other providers leave no trace in what is made from the selection. The
drift is made from the whole plan: there they leave one exactly when they drift
(`driftOf_filter_iff`).
-/
namespace InfraAudit

namespace Plan

/-! ### Drift of a selection -/

/-- The drift of some updated resources. -/
def driftOf (rs : List Resource) : Drift :=
  { changedResources := (rs.map Resource.drift).countP (fun ds => !ds.isEmpty)
    details := (rs.map Resource.drift).flatten }

theorem driftOf_cons_quiet {s : Resource} (quiet : s.drift = []) (rest : List Resource) :
    driftOf (s :: rest) = driftOf rest := by
  simp [driftOf, quiet]

theorem driftOf_cons_congr (s : Resource) {rest others : List Resource} (same : driftOf rest = driftOf others) :
    driftOf (s :: rest) = driftOf (s :: others) := by
  obtain ⟨counts, details⟩ := Drift.mk.inj same
  simp only [driftOf, List.map_cons, List.countP_cons, List.flatten_cons, counts, details]

theorem driftOf_filter {keep : Resource → Bool} {rs : List Resource}
    (quiet : ∀ s ∈ rs, keep s = false → s.drift = []) : driftOf (rs.filter keep) = driftOf rs := by
  induction rs with
  | nil => rfl
  | cons s rest ih =>
    obtain ⟨first, later⟩ := List.forall_mem_cons.mp quiet
    cases kept : keep s with
    | true =>
      rw [List.filter_cons_of_pos kept]
      exact driftOf_cons_congr s (ih later)
    | false =>
      rw [List.filter_cons_of_neg (Bool.not_eq_true _ ▸ kept), ih later, driftOf_cons_quiet (first kept)]

/-- Leaving resources out keeps the drift exactly when none of them drifts. -/
theorem driftOf_filter_iff (keep : Resource → Bool) (rs : List Resource) :
    driftOf (rs.filter keep) = driftOf rs ↔ ∀ s ∈ rs, keep s = false → s.drift = [] := by
  refine ⟨fun same s member left => ?_, driftOf_filter⟩
  -- A drift counts the resources that drift, so that those which were left out count for nothing.
  have counts := congrArg Drift.changedResources same
  simp only [driftOf, List.countP_map] at counts
  have parts := List.countP_eq_countP_filter_add rs ((fun ds => !ds.isEmpty) ∘ Resource.drift) keep
  have none : (rs.filter (fun s => !keep s)).countP ((fun ds => !ds.isEmpty) ∘ Resource.drift) = 0 := by
    omega
  have quiet := List.countP_eq_zero.mp none s (List.mem_filter.mpr ⟨member, by rw [left]; rfl⟩)
  simpa using quiet

theorem drift_eq (p : Plan) : p.drift = driftOf (p.byAction .update) := rfl

/-! ### Narrowed plans -/

theorem resources_narrow (short : String) (p : Plan) :
    (p.narrow short).resources = p.resources.filter (fun s => s.providerShortName == short) := by
  rw [resources, resources, List.filter_map]
  rfl

theorem byAction_narrow (short : String) (a : Action) (p : Plan) :
    (p.narrow short).byAction a = (p.byAction a).filter (fun s => s.providerShortName == short) := by
  rw [byAction, byAction, resources_narrow, List.filter_filter, List.filter_filter]
  exact List.filter_congr (fun s _ => Bool.and_comm _ _)

end Plan

/-! ### Audits for a cloud -/

theorem PlanRequest.select_narrow {r : PlanRequest} {cloud : Cloud} (asked : r.cloud = some cloud) (p : Plan) :
    r.select (p.narrow cloud.provider) = r.select p := by
  have narrowed : r.select (p.narrow cloud.provider) =
      (p.resources.filter (fun s => s.providerShortName == cloud.provider)).filter (fun s => r.Selects s) := by
    rw [select_eq, ← Plan.resources_narrow]
    rfl
  rw [narrowed, select_eq, List.filter_filter]
  apply List.filter_congr
  intro s _
  simp [Selects, asked]

theorem explainPlan_of_read {fs : FileSystem} {r : PlanRequest} {text : String} {p : Plan}
    (read : fs.readText r.planFile = .ok text) (parsed : Plan.parse text = .ok p) (c : Config) (now : String) :
    explainPlan fs c now r = (c.policyRun r.policySet).map (fun run => r.audit run (r.depth.getD c.depth) now p) := by
  simp only [explainPlan, read, parsed, Except.mapError, bind, Except.bind, pure, Except.pure, Except.map]

theorem PlanRequest.audit_congr {r : PlanRequest} {p q : Plan} (same : r.select q = r.select p) (run : PolicyRun)
    (depth : Depth) (now now' : String) :
    (r.audit run depth now' q).entries = (r.audit run depth now p).entries ∧
      (r.audit run depth now' q).risks = (r.audit run depth now p).risks ∧
      (r.audit run depth now' q).ruleFailures = (r.audit run depth now p).ruleFailures ∧
      (r.audit run depth now' q).analyses = (r.audit run depth now p).analyses := by
  simp only [audit, PlanAudit.withReport, same, and_self]

theorem PlanRequest.drift_audit_narrow (r : PlanRequest) (run : PolicyRun) (depth : Depth) (now now' short : String)
    (p : Plan) :
    (r.audit run depth now' (p.narrow short)).drift = (r.audit run depth now p).drift ↔
      depth = .fast ∨ ∀ s ∈ p.byAction .update, s.providerShortName ≠ short → s.drift = [] := by
  cases depth with
  | fast => exact iff_of_true rfl (.inl rfl)
  | full =>
    have drifts : (r.audit run .full now' (p.narrow short)).drift = (r.audit run .full now p).drift ↔
        (p.narrow short).drift = p.drift := Option.some_inj
    rw [drifts, Plan.drift_eq, Plan.drift_eq, Plan.byAction_narrow, Plan.driftOf_filter_iff]
    simp

/-- An audit for a cloud makes the same of a plan as of one without the resources of
    other providers, but for the summary, which is that of the whole plan, and the
    drift: a full audit tells the drift of the whole plan, which is the same exactly
    when no resource of another provider drifts. -/
theorem explainPlan_narrowed_agrees (fs fs' : FileSystem) (c : Config) (now now' : String) (r : PlanRequest)
    (cloud : Cloud) (text text' : String) (v : Value) (p : Plan) (asked : r.cloud = some cloud)
    (read : fs.readText r.planFile = .ok text) (whole : Json.parse text = .ok v) (valid : Plan.ofValue v = .ok p)
    (read' : fs'.readText r.planFile = .ok text')
    (reduced : Json.parse text' = .ok (Plan.narrowDocument cloud.provider v)) :
    (∀ e, explainPlan fs' c now' r = .error e ↔ explainPlan fs c now r = .error e) ∧
    (∀ a a', explainPlan fs c now r = .ok a → explainPlan fs' c now' r = .ok a' →
      a'.entries = a.entries ∧ a'.risks = a.risks ∧ a'.ruleFailures = a.ruleFailures ∧ a'.analyses = a.analyses ∧
      (a'.drift = a.drift ↔ r.depth.getD c.depth = .fast ∨
        ∀ s ∈ p.byAction .update, s.providerShortName ≠ cloud.provider → s.drift = [])) := by
  have parsed : Plan.parse text = .ok p := (Plan.parse_eq_ok_iff text p).mpr ⟨v, whole, valid⟩
  have parsed' : Plan.parse text' = .ok (p.narrow cloud.provider) :=
    (Plan.parse_eq_ok_iff text' _).mpr ⟨_, reduced, Plan.ofValue_narrow valid _⟩
  rw [explainPlan_of_read read parsed, explainPlan_of_read read' parsed']
  cases c.policyRun r.policySet with
  | error e => exact ⟨fun _ => Iff.rfl, by rintro a a' ⟨⟩⟩
  | ok run =>
    refine ⟨fun e => iff_of_false (by rintro ⟨⟩) (by rintro ⟨⟩), ?_⟩
    rintro a a' ⟨⟩ ⟨⟩
    obtain ⟨entries, risks, failures, analyses⟩ :=
      PlanRequest.audit_congr (PlanRequest.select_narrow asked p) run (r.depth.getD c.depth) now now'
    exact ⟨entries, risks, failures, analyses, r.drift_audit_narrow run _ now now' cloud.provider p⟩

/-! ### A drift of another cloud -/

/-- The text of the update of an attribute of a resource. -/
def updateText (name provider : String) : String :=
  changeText name "t" provider
    "\x7b\"actions\":[\"update\"],\"before\":\x7b\"x\":\"1\"\x7d,\"after\":\x7b\"x\":\"2\"\x7d\x7d"

/-- The document of that update. -/
def updateDocument (name provider : String) : Value :=
  changeDocument name "t" provider
    (.object
      [("actions", .array [.string "update"]), ("after", .object [("x", .string "2")]),
        ("before", .object [("x", .string "1")])])

/-- That update. -/
def updateOf (name provider : String) : Plan.ResourceChange :=
  ⟨name, none, .managed, "t", name, provider,
    ⟨[.update], some (.object [("x", .string "1")]), some (.object [("x", .string "2")]), none, none, none⟩⟩

theorem parse_update :
    Json.parse (planText (updateText "w" "aws")) = .ok (planDocument [updateDocument "w" "aws"]) := by
  rewrite [Json.parse, toList_planText, updateText, toList_changeText]
  cbv

theorem parse_nothing : Json.parse (planText "") = .ok (planDocument []) := by
  rewrite [Json.parse, toList_planText]
  cbv

theorem ofValue_update :
    Plan.ofValue (planDocument [updateDocument "w" "aws"]) = .ok (planOf [updateOf "w" "aws"]) := rfl

theorem narrowDocument_planDocument (short : String) (changes : List Value) :
    Plan.narrowDocument short (planDocument changes) = planDocument (changes.filter (Plan.isOfProvider short)) := rfl

theorem reduced_update :
    Json.parse (planText "") =
      .ok (Plan.narrowDocument Cloud.gcp.provider (planDocument [updateDocument "w" "aws"])) := by
  have other : Plan.isOfProvider Cloud.gcp.provider (updateDocument "w" "aws") = false := by decide +kernel
  rw [parse_nothing, narrowDocument_planDocument, List.filter_cons_of_neg (Bool.not_eq_true _ ▸ other),
    List.filter_nil]

/-- The request for a cloud at a depth in the current directory. -/
def PlanRequest.forCloud (cloud : Cloud) (depth : Depth) : PlanRequest := ⟨".", none, some cloud, none, some depth⟩

/-- The audits for a cloud of a plan and of the narrowed one, by one policy. -/
theorem explainPlan_ofText {cloud : Cloud} {text text' : String} {v : Value} {p : Plan}
    (whole : Json.parse text = .ok v) (valid : Plan.ofValue v = .ok p)
    (reduced : Json.parse text' = .ok (Plan.narrowDocument cloud.provider v)) (depth : Depth) (now now' : String) :
    ∃ run, Config.default.policyRun none = .ok run ∧
      explainPlan (.ofText text) .default now (.forCloud cloud depth) =
        .ok ((PlanRequest.forCloud cloud depth).audit run depth now p) ∧
      explainPlan (.ofText text') .default now' (.forCloud cloud depth) =
        .ok ((PlanRequest.forCloud cloud depth).audit run depth now' (p.narrow cloud.provider)) := by
  have parsed := (Plan.parse_eq_ok_iff _ _).mpr ⟨_, whole, valid⟩
  have parsed' := (Plan.parse_eq_ok_iff _ _).mpr ⟨_, reduced, Plan.ofValue_narrow valid _⟩
  have selected : Config.default.Selects none none := rfl
  obtain ⟨run, made, _⟩ := Config.policyRun_of_selects selected
  have made' : Config.default.policyRun (PlanRequest.forCloud cloud depth).policySet = .ok run := made
  refine ⟨run, made, ?_, ?_⟩
  · rw [explainPlan_of_read rfl parsed, made']
    rfl
  · rw [explainPlan_of_read rfl parsed', made']
    rfl

/-- A full audit for a cloud tells the drift of another one, which there is none of when
    the plan is narrowed. -/
theorem drift_of_other_cloud :
    Json.parse (planText (updateText "w" "aws")) = .ok (planDocument [updateDocument "w" "aws"]) ∧
    Plan.ofValue (planDocument [updateDocument "w" "aws"]) = .ok (planOf [updateOf "w" "aws"]) ∧
    Json.parse (planText "") =
      .ok (Plan.narrowDocument Cloud.gcp.provider (planDocument [updateDocument "w" "aws"])) ∧
    ∃ a a', explainPlan (.ofText (planText (updateText "w" "aws"))) .default "noon" (.forCloud .gcp .full) = .ok a ∧
      explainPlan (.ofText (planText "")) .default "night" (.forCloud .gcp .full) = .ok a' ∧
      a.drift.map (fun d => d.details.map Plan.DriftDetail.address) = some ["w"] ∧
      a'.drift.map (fun d => d.details.map Plan.DriftDetail.address) = some [] := by
  obtain ⟨run, _, made, made'⟩ := explainPlan_ofText parse_update ofValue_update reduced_update .full "noon" "night"
  refine ⟨parse_update, ofValue_update, reduced_update, _, _, made, made', ?_, ?_⟩
  · exact congrArg some (by decide +kernel)
  · exact congrArg some (by decide +kernel)

set_option maxRecDepth 4000 in
theorem parse_public_and_update :
    Json.parse (planText (publicText ++ "," ++ updateText "g" "google")) =
      .ok (planDocument [bucketDocument "b" "public-read", updateDocument "g" "google"]) := by
  rewrite [Json.parse, toList_planText, String.toList_append, String.toList_append, publicText, updateText,
    toList_changeText, toList_changeText]
  cbv

theorem parse_public :
    Json.parse (planText publicText) = .ok (planDocument [bucketDocument "b" "public-read"]) := by
  rewrite [Json.parse, toList_planText, publicText, toList_changeText]
  cbv

theorem reduced_public :
    Json.parse (planText publicText) = .ok (Plan.narrowDocument Cloud.aws.provider
      (planDocument [bucketDocument "b" "public-read", updateDocument "g" "google"])) := by
  have own : Plan.isOfProvider Cloud.aws.provider (bucketDocument "b" "public-read") = true := by decide +kernel
  have other : Plan.isOfProvider Cloud.aws.provider (updateDocument "g" "google") = false := by decide +kernel
  rw [parse_public, narrowDocument_planDocument, List.filter_cons_of_pos own,
    List.filter_cons_of_neg (Bool.not_eq_true _ ▸ other), List.filter_nil]

/-- The plan of a public bucket and of an update that drifts, for different clouds. -/
def mixedPlan : Plan := planOf [bucketChange "b" "public-read", updateOf "g" "google"]

theorem select_mixedPlan (depth : Depth) :
    (PlanRequest.forCloud .aws depth).select mixedPlan = [.ofChange (bucketChange "b" "public-read")] := by
  have own : (PlanRequest.forCloud .aws depth).Selects (.ofChange (bucketChange "b" "public-read")) := by
    rintro cloud ⟨⟩
    decide +kernel
  have other : ¬ (PlanRequest.forCloud .aws depth).Selects (.ofChange (updateOf "g" "google")) :=
    fun selected => absurd (selected .aws rfl) (by decide +kernel)
  rw [PlanRequest.select_eq]
  simp [PlanRequest.selectOf, mixedPlan, planOf, own, other]

/-- The audits for a cloud of a plan with a bucket there and an update elsewhere list the
    bucket and its risks, as those of the bucket alone. Only a full audit tells the drift. -/
theorem explainPlan_narrowed_agrees_update :
    (∃ a a', explainPlan (.ofText (planText (publicText ++ "," ++ updateText "g" "google"))) .default "noon"
        (.forCloud .aws .fast) = .ok a ∧
      explainPlan (.ofText (planText publicText)) .default "night" (.forCloud .aws .fast) = .ok a' ∧
      a.entries.map PlanEntry.address = ["b"] ∧ a'.entries = a.entries ∧
      a.risks.map Finding.ruleId = ["storage-public-access", "storage-no-encryption", "storage-no-versioning"] ∧
      a'.risks = a.risks ∧ a'.drift = a.drift) ∧
    (∃ a a', explainPlan (.ofText (planText (publicText ++ "," ++ updateText "g" "google"))) .default "noon"
        (.forCloud .aws .full) = .ok a ∧
      explainPlan (.ofText (planText publicText)) .default "night" (.forCloud .aws .full) = .ok a' ∧
      a'.analyses = a.analyses ∧ a'.drift ≠ a.drift) := by
  have valid : Plan.ofValue (planDocument [bucketDocument "b" "public-read", updateDocument "g" "google"]) =
      .ok mixedPlan := rfl
  have made (depth : Depth) := explainPlan_ofText parse_public_and_update valid reduced_public depth "noon" "night"
  have agrees (depth : Depth) := (explainPlan_narrowed_agrees (.ofText _) (.ofText _) .default "noon" "night"
    (.forCloud .aws depth) .aws _ _ _ mixedPlan rfl rfl parse_public_and_update valid rfl reduced_public).2
  constructor
  · obtain ⟨run, resolved, whole, narrowed⟩ := made .fast
    obtain ⟨entries, risks, _, _, drift⟩ := agrees .fast _ _ whole narrowed
    refine ⟨_, _, whole, narrowed, ?_, entries, ?_, risks, drift.mpr (.inl rfl)⟩
    · simp only [PlanRequest.audit, PlanAudit.withReport, select_mixedPlan]
      rfl
    · obtain ⟨engine, built, slots⟩ := Config.default.basePolicy.exists_engine
      have resolved' : Config.default.policyRun none = .ok ⟨Config.default.basePolicy, engine⟩ :=
        (Config.policyRun_eq_ok_iff _ _ _).mpr ⟨rfl, built⟩
      cases resolved.symm.trans resolved'
      rw [PlanRequest.risks_audit, select_mixedPlan, List.flatMap_singleton, PolicyRun.risksOf_eq]
      refine (congrArg (List.map Finding.ruleId)
        (PolicyRun.report_of_slots slots (bucketTarget "b" "public-read"))).trans ?_
      decide +kernel
  · obtain ⟨run, _, whole, narrowed⟩ := made .full
    obtain ⟨_, _, _, analyses, drift⟩ := agrees .full _ _ whole narrowed
    refine ⟨_, _, whole, narrowed, analyses, fun same => ?_⟩
    -- The update is of another provider, and drifts.
    have updated : .ofChange (updateOf "g" "google") ∈ mixedPlan.byAction .update :=
      List.mem_filter.mpr ⟨List.mem_cons_of_mem _ List.mem_cons_self, by decide⟩
    have quiet := (drift.mp same).resolve_left (by decide) _ updated (by decide +kernel)
    exact absurd quiet (by decide +kernel)

end InfraAudit
