import InfraAudit.Proofs.Rule.Builtin
import InfraAudit.Proofs.Rule.Workload

/-!
Which containers the rules about workloads name. What a document says of its pods stands in
one value (`describedPod`), whose list of containers is read entry by entry
(`containers_of_listed`), and a rule convicts what is read of an entry exactly when the
entry itself offends (`Offense.convicts_eq_offends`).
-/
namespace InfraAudit

open Cluster

namespace Cluster

/-! ### What documents say of pods -/

/-- What a document of a workload says of its pods: what it has under `spec` if it is a pod
    itself, else what its template has there. -/
def describedPod (document : Value) : Value :=
  let spec := (document.field? "spec").getD .null
  if kindOf document = "Pod" then spec else ((spec.field? "template").bind (·.field? "spec")).getD .null

/-- The entries of the list of containers in a document. -/
def describedContainers (document : Value) : List Value := (describedPod document).entries "containers"

/-- A value is missing, null or a list. -/
def MaybeList (v : Value) (key : String) : Prop := v.Unset key ∨ ∃ items, v.field? key = some (.array items)

/-- A container is described by an object with a name that has no list in the place of its
    resources or of its security settings. -/
structure WellDescribed (v : Value) : Prop where
  named : v.HasString "name"
  resources : ∀ items, v.field? "resources" ≠ some (.array items)
  securityContext : ∀ items, v.field? "securityContext" ≠ some (.array items)

/-- The path at which the pods of a document are described. -/
def podPath (document : Value) : String := if kindOf document = "Pod" then "spec" else "spec.template.spec"

section
variable {document : Value}

theorem specOf_eq_ok_iff (document : Value) (spec : Option Fields) :
    specOf document = .ok spec ↔
      (document.Unset "spec" ∧ spec = none) ∨
        ∃ fields, document.field? "spec" = some (.object fields) ∧ spec = some fields := by
  unfold specOf Value.Unset
  cases document.field? "spec" with
  | none => simp [eq_comm]
  | some v => cases v <;> simp [eq_comm]

theorem exists_specOf_iff (document : Value) : (∃ spec, specOf document = .ok spec) ↔ document.MaybeObject "spec" := by
  constructor
  · rintro ⟨spec, specified⟩
    rcases (specOf_eq_ok_iff document spec).mp specified with ⟨unset, _⟩ | ⟨fields, held, _⟩
    · exact .inl unset
    · exact .inr ⟨fields, held⟩
  · rintro (unset | ⟨fields, held⟩)
    · exact ⟨_, (specOf_eq_ok_iff document _).mpr (.inl ⟨unset, rfl⟩)⟩
    · exact ⟨_, (specOf_eq_ok_iff document _).mpr (.inr ⟨fields, held, rfl⟩)⟩

theorem find?_of_specOf (workload : kindOf document ∈ workloadKinds) {spec : Option Fields}
    (specified : specOf document = .ok spec) :
    PodSpec.find? (kindOf document) spec = (describedPod document).fields?.map (⟨·, podPath document⟩) := by
  have listed : workloadKinds.contains (kindOf document) = true := List.contains_iff_mem.mpr workload
  rcases (specOf_eq_ok_iff document spec).mp specified with ⟨unset, rfl⟩ | ⟨fields, held, rfl⟩
  · have none : (document.field? "spec").getD .null = .null := by
      rcases unset with missing | null
      · rw [missing, Option.getD_none]
      · rw [null, Option.getD_some]
    simp only [describedPod, none]
    split <;> rfl
  · simp only [describedPod, podPath, held, Option.getD_some, PodSpec.find?, Option.bind_eq_bind, Option.bind_some,
      beq_iff_eq]
    by_cases pod : kindOf document = "Pod"
    · simp only [if_pos pod]
      rfl
    · simp only [if_neg pod, if_pos listed]
      have template : (Value.object fields).field? "template" = fields.lookup "template" := rfl
      rw [template, ← Option.bind_assoc]
      cases (fields.lookup "template").bind (·.field? "spec") with
      | none => rfl
      | some w => cases w <;> rfl

/-- The containers of a workload are those of the pods that it describes. -/
theorem containers_of_maybeObject (workload : kindOf document ∈ workloadKinds) (spec : document.MaybeObject "spec") :
    containers document =
      match (describedPod document).field? "containers" with
      | none | some .null => .ok []
      | some (.array items) => PodSpec.decodeContainers (FieldPath.field (podPath document) "containers") 0 items
      | some _ =>
        .error (.malformed (FieldPath.field (podPath document) "containers") "expected a list of containers") := by
  obtain ⟨spec, specified⟩ := (exists_specOf_iff document).mpr spec
  rw [containers, specified]
  change containersOf (kindOf document) spec = _
  rw [containersOf, find?_of_specOf workload specified]
  cases describedPod document with
  | object fields => rfl
  | _ => rfl

/-- The security settings of a workload are those of the pods that it describes. -/
theorem podSecurityContext_of_maybeObject (workload : kindOf document ∈ workloadKinds)
    (spec : document.MaybeObject "spec") :
    podSecurityContext document =
      match (describedPod document).field? "securityContext" with
      | none | some .null => .ok none
      | some v =>
        match PodSecurityContext.decode v with
        | .ok c => .ok (some c)
        | .error e => .error (.malformed (FieldPath.field (podPath document) "securityContext") e.message) := by
  obtain ⟨spec, specified⟩ := (exists_specOf_iff document).mpr spec
  rw [podSecurityContext, specified]
  change podSecurityContextOf (kindOf document) spec = _
  rw [podSecurityContextOf, find?_of_specOf workload specified]
  cases describedPod document with
  | object fields => rfl
  | _ => rfl

/-- Nothing is described where another value than an object stands under `spec`. -/
theorem field?_describedPod_of_not_maybeObject (other : ¬ document.MaybeObject "spec") (key : String) :
    (describedPod document).field? key = none := by
  have nothing : ∀ k, ((document.field? "spec").getD .null).field? k = none := by
    intro k
    cases held : document.field? "spec" with
    | none => rfl
    | some v =>
      cases v with
      | object fields => exact absurd (.inr ⟨fields, held⟩) other
      | _ => rfl
  unfold describedPod
  split
  · exact nothing key
  · simp only [nothing]
    rfl

/-! ### Containers that are read -/

theorem readsObject_of_wellDescribed {v : Value} {c : Container} (well : WellDescribed v) (reads : c.Reads v) :
    c.ReadsObject v := by
  apply (Container.readsObject_iff reads).mpr
  rintro (⟨items, rfl⟩ | ⟨_, held, items, rfl, _⟩ | ⟨_, held, items, rfl, _⟩)
  · obtain ⟨_, named⟩ := well.named
    cases named
  · exact well.resources items held
  · exact well.securityContext items held

theorem holdsContainer_of_wellDescribed {v : Value} (well : WellDescribed v) : HoldsContainer v := by
  obtain ⟨name, named⟩ := well.named
  have object := Value.isObject_of_field? named
  exact ⟨Value.standsFor_of_object object 4, name, by rw [Value.part?_of_object object, named]⟩

theorem decodeContainers_of_wellDescribed {items : List Value} (well : ∀ v ∈ items, WellDescribed v) (path : String) :
    ∃ cs, PodSpec.decodeContainers path 0 items = .ok cs ∧ List.Forall₂ (fun v c => c.ReadsObject v) items cs := by
  cases decoded : PodSpec.decodeContainers path 0 items with
  | error e =>
    obtain ⟨before, v, after, _, rfl, _, refused, _⟩ := PodSpec.decodeContainers_error decoded
    exact absurd (holdsContainer_of_wellDescribed (well v (by simp))) refused
  | ok cs =>
    refine ⟨cs, rfl, ?_⟩
    have all := (PodSpec.decodeContainers_eq_ok_iff path 0 items cs).mp decoded
    clear decoded
    induction all with
    | nil => exact .nil
    | cons reads _ ih =>
      obtain ⟨first, later⟩ := List.forall_mem_cons.mp well
      exact .cons (readsObject_of_wellDescribed first reads) (ih later)

/-- The containers of a workload are read from the entries of its list, unless there is no
    list where one should stand. -/
theorem containers_cases (workload : kindOf document ∈ workloadKinds)
    (well : ∀ v ∈ describedContainers document, WellDescribed v) :
    (document.MaybeObject "spec" ∧ MaybeList (describedPod document) "containers" ∧
      ∃ cs, containers document = .ok cs ∧
        List.Forall₂ (fun v c => c.ReadsObject v) (describedContainers document) cs) ∨
    (¬ (document.MaybeObject "spec" ∧ MaybeList (describedPod document) "containers") ∧
      describedContainers document = [] ∧ ∃ e, containers document = .error e) := by
  unfold describedContainers Value.entries Value.fieldArray? at *
  by_cases spec : document.MaybeObject "spec"
  · rw [containers_of_maybeObject workload spec]
    unfold MaybeList Value.Unset
    cases held : (describedPod document).field? "containers" with
    | none => exact .inl ⟨spec, .inl (.inl rfl), [], rfl, .nil⟩
    | some v =>
      rw [held] at well
      cases v with
      | null => exact .inl ⟨spec, .inl (.inr rfl), [], rfl, .nil⟩
      | array items => exact .inl ⟨spec, .inr ⟨items, rfl⟩, decodeContainers_of_wellDescribed well _⟩
      | _ => exact .inr ⟨by simp, rfl, _, rfl⟩
  · refine .inr ⟨fun both => spec both.1, ?_, ?_⟩
    · rw [field?_describedPod_of_not_maybeObject spec]
      rfl
    · cases specified : specOf document with
      | ok fields => exact absurd ((exists_specOf_iff document).mp ⟨fields, specified⟩) spec
      | error e => exact ⟨e, by rw [containers, specified]; rfl⟩

/-! ### Flags -/

/-- What settings say about a flag. -/
def flag? (settings : Option Value) (key : String) : Option Bool :=
  settings.bind fun w => (w.field? key).bind Value.bool?

theorem ofObject?_runAsNonRoot (settings : Option Value) :
    (settings.bind SecurityContext.ofObject?).bind (·.runAsNonRoot) = flag? settings "runAsNonRoot" := by
  cases settings with
  | none => rfl
  | some w => cases w <;> rfl

theorem ofObject?_allowPrivilegeEscalation (settings : Option Value) :
    (settings.bind SecurityContext.ofObject?).bind (·.allowPrivilegeEscalation) =
      flag? settings "allowPrivilegeEscalation" := by
  cases settings with
  | none => rfl
  | some w => cases w <;> rfl

theorem ofObject?_limits (resources : Option Value) :
    (resources.bind Requirements.ofObject?).bind (·.limits) = resources.bind (·.present? "limits") := by
  cases resources with
  | none => rfl
  | some w => cases w <;> rfl

/-- The settings of a workload's pods are read from an object. -/
theorem exists_podSecurityContext (workload : kindOf document ∈ workloadKinds) (spec : document.MaybeObject "spec")
    (secured : (describedPod document).MaybeObject "securityContext") :
    ∃ settings, podSecurityContext document = .ok settings ∧
      settings.bind (·.runAsNonRoot) = flag? ((describedPod document).field? "securityContext") "runAsNonRoot" := by
  rw [podSecurityContext_of_maybeObject workload spec]
  rcases secured with (missing | null) | ⟨fields, held⟩
  · rw [missing]
    exact ⟨none, rfl, rfl⟩
  · rw [null]
    exact ⟨none, rfl, rfl⟩
  -- An object is never read as a list of settings, so that its own fields count.
  · have unlisted : ¬ ListAsRecord 1 (.object fields) := by
      rintro ⟨_, ⟨⟩, _⟩
    have made := (PodSecurityContext.toOption_decode (.object fields)).trans
      ((PodSecurityContext.read?_eq_iff (.object fields)).mpr unlisted)
    rw [held]
    cases decoded : PodSecurityContext.decode (.object fields) with
    | error e =>
      rw [decoded] at made
      cases made
    | ok c =>
      rw [decoded] at made
      cases made
      exact ⟨some ⟨((Value.object fields).field? "runAsNonRoot").bind Value.bool?⟩, by simp only [decoded], rfl⟩

end

end Cluster

namespace Rule.Workload

/-! ### Offenses -/

/-- What the rules about workloads hold against a container: no limits, privileges that may
    grow, a user that may be root, and an image that is not pinned. -/
inductive Offense where
  | limits
  | privileges
  | root
  | image
  deriving DecidableEq

namespace Offense

/-- The rule that reports an offense. -/
def rule : Offense → Rule
  | .limits => noLimits
  | .privileges => privilegeEscalation
  | .root => runAsRoot
  | .image => latestTag

/-- The words before the names of the offenders. -/
def label : Offense → String
  | .limits => "Containers without limits"
  | .privileges => "Containers with allowPrivilegeEscalation"
  | .root => "Containers without runAsNonRoot=true"
  | .image => "Containers with :latest tag"

/-- An entry of a list of containers offends, in pods with some security settings. -/
def offends (x : Offense) (pod : Option Value) (v : Value) : Bool :=
  match x with
  | .limits => ((v.field? "resources").bind (·.present? "limits")).isNone
  | .privileges => flag? (v.field? "securityContext") "allowPrivilegeEscalation" == some true
  | .root => (flag? (v.field? "securityContext") "runAsNonRoot").or (flag? pod "runAsNonRoot") != some true
  | .image =>
    (v.fieldStr? "image").all fun image => ":latest".toList.isSuffixOf image.toList || !image.toList.contains ':'

/-- The entries of a document's list of containers that offend. -/
def offenders (x : Offense) (document : Value) : List Value :=
  (describedContainers document).filter (x.offends ((describedPod document).field? "securityContext"))

/-- The rule reports a container that was read, in pods with some security settings. -/
def convicts (x : Offense) (pod : Option PodSecurityContext) (c : Container) : Bool :=
  match x with
  | .limits => !c.hasLimits
  | .privileges => c.allowsPrivilegeEscalation
  | .root => c.effectiveRunAsNonRoot pod != some true
  | .image => c.usesLatestTag

theorem convicts_eq_offends (x : Offense) {settings : Option PodSecurityContext} {pod : Option Value}
    {c : Container} {v : Value}
    (same : settings.bind (·.runAsNonRoot) = flag? pod "runAsNonRoot") (reads : c.ReadsObject v) :
    x.convicts settings c = x.offends pod v := by
  cases x with
  | limits =>
    rw [convicts, Container.hasLimits, reads.resources, ofObject?_limits, offends, Option.not_isSome]
  | privileges =>
    rw [convicts, Container.allowsPrivilegeEscalation, reads.securityContext, ofObject?_allowPrivilegeEscalation,
      offends]
  | root =>
    rw [convicts, Container.effectiveRunAsNonRoot, reads.securityContext, ofObject?_runAsNonRoot, same, offends]
  | image =>
    rw [convicts, Container.usesLatestTag, reads.image, offends]
    rfl

/-- The containers that a rule convicts are read from the entries that offend. -/
theorem rel_filter (x : Offense) {settings : Option PodSecurityContext} {pod : Option Value} {items : List Value}
    {cs : List Container} (same : settings.bind (·.runAsNonRoot) = flag? pod "runAsNonRoot")
    (all : List.Forall₂ (fun v c => Container.ReadsObject c v) items cs) :
    List.Forall₂ (fun v c => Container.ReadsObject c v) (items.filter (x.offends pod))
      (cs.filter (x.convicts settings)) := by
  induction all with
  | nil => exact .nil
  | @cons v c _ _ reads _ ih =>
    rw [List.filter_cons, List.filter_cons, x.convicts_eq_offends same reads]
    split
    · exact .cons reads ih
    · exact ih

/-! ### Reports -/

section
variable {t : Target} {cs : List Container} {settings : Option PodSecurityContext}

theorem evaluate_of_read (x : Offense) (read : containers t.resource = .ok cs)
    (set : podSecurityContext t.resource = .ok settings) :
    ∃ description recommendation, x.rule.evaluate t =
      .ok (report x.rule.info t description recommendation x.label (x.convicts settings) cs) := by
  cases x with
  | limits =>
    refine ⟨?_, ?_, ?made⟩
    case made =>
      simp only [rule, noLimits, read]
      rfl
  | privileges =>
    refine ⟨?_, ?_, ?made⟩
    case made =>
      simp only [rule, privilegeEscalation, read]
      rfl
  | root =>
    refine ⟨?_, ?_, ?made⟩
    case made =>
      simp only [rule, runAsRoot, read, set]
      rfl
  | image =>
    refine ⟨?_, ?_, ?made⟩
    case made =>
      simp only [rule, latestTag, read]
      rfl

theorem evaluate_of_refused (x : Offense) {e : RuleError} (refused : containers t.resource = .error e) :
    x.rule.evaluate t = .error e := by
  cases x
  · simp only [rule, noLimits, refused]
    rfl
  · simp only [rule, privilegeEscalation, refused]
    rfl
  · simp only [rule, runAsRoot, refused]
    rfl
  · simp only [rule, latestTag, refused]
    rfl

end

end Offense

theorem evidence_of_report {info : RuleInfo} {t : Target} {cs : List Container}
    {description recommendation evidence : String}
    {offends : Container → Bool} {f : Finding}
    (found : report info t description recommendation evidence offends cs = some f) :
    f.evidence = some (evidence ++ ": " ++ String.intercalate ", " ((cs.filter offends).map (·.name))) := by
  simp only [report] at found
  split at found
  · cases found
  · cases found
    rfl

/-- Containers that were read have the names that their entries give. -/
theorem names_of_reads {items : List Value} {cs : List Container}
    (all : List.Forall₂ (fun v c => Container.ReadsObject c v) items cs) :
    cs.map (·.name) = items.filterMap (·.fieldStr? "name") := by
  induction all with
  | nil => rfl
  | cons first _ ih => rw [List.map_cons, List.filterMap_cons, first.name, ih]

/-- The containers that a rule about workloads reports, as the document describes them.
    The rule finds something if an entry of the list of containers offends, and then names
    the offending ones in their order. -/
theorem offenders_named (x : Offense) (t : Target) (workload : kindOf t.resource ∈ workloadKinds)
    (well : ∀ v ∈ describedContainers t.resource, WellDescribed v)
    (secured : (describedPod t.resource).MaybeObject "securityContext") :
    ((∃ f, x.rule.evaluate t = .ok (some f)) ↔ x.offenders t.resource ≠ []) ∧
    (∀ f, x.rule.evaluate t = .ok (some f) → f.IsOf x.rule.info t ∧
      f.evidence = some (x.label ++ ": " ++
        String.intercalate ", " ((x.offenders t.resource).filterMap (·.fieldStr? "name")))) ∧
    (x.rule.evaluate t = .ok none ↔
      t.resource.MaybeObject "spec" ∧ MaybeList (describedPod t.resource) "containers" ∧
        x.offenders t.resource = []) := by
  rcases containers_cases workload well with ⟨spec, listed, cs, read, all⟩ | ⟨unlisted, empty, e, refused⟩
  · obtain ⟨settings, set, same⟩ := exists_podSecurityContext workload spec secured
    obtain ⟨description, recommendation, said⟩ := x.evaluate_of_read read set
    have offenders := x.rel_filter same all
    have silent : report x.rule.info t description recommendation x.label (x.convicts settings) cs = none ↔
        x.offenders t.resource = [] := by
      simp only [report_eq_none_iff, ← Bool.not_eq_true, ← List.filter_eq_nil_iff, ← List.length_eq_zero_iff,
        Offense.offenders, offenders.length_eq]
    rw [said]
    refine ⟨?_, ?_, ?_⟩
    · rw [Ne, ← silent, ← Ne, Option.ne_none_iff_exists']
      simp only [Except.ok.injEq]
    · intro f found
      have found := Except.ok.inj found
      exact ⟨isOf_of_report found, by rw [evidence_of_report found, names_of_reads offenders, Offense.offenders]⟩
    · rw [Except.ok.injEq, silent]
      exact ⟨fun quiet => ⟨spec, listed, quiet⟩, fun quiet => quiet.2.2⟩
  -- Where there is no list, the rule refuses, and no entry could offend.
  · rw [x.evaluate_of_refused refused, Offense.offenders, empty]
    refine ⟨by simp, by simp, iff_of_false (by simp) ?_⟩
    rintro ⟨spec, listed, _⟩
    exact unlisted ⟨spec, listed⟩

/-- A container with a name that says whether it must not run as root. -/
def rootEntry (name : String) (forbidden : Value) : Value :=
  .object [("name", .string name), ("securityContext", .object [("runAsNonRoot", forbidden)])]

/-- A deployment of pods that must not run as root. -/
def rootlessPods (entries : List Value) : Target :=
  ⟨.object
    [("kind", .string "Deployment"),
     ("spec", .object [("template", .object [("spec", .object
       [("containers", .array entries), ("securityContext", .object [("runAsNonRoot", .bool true)])])])])],
   "Deployment", "app", none⟩

/-- The containers that allow what their pods forbid are named, and the one that leaves it
    open is not. -/
theorem offenders_named_against_pod :
    ∃ f, runAsRoot.evaluate
        (rootlessPods [rootEntry "app" (.bool false), rootEntry "log" .null, rootEntry "web" (.bool false)]) =
          .ok (some f) ∧
      f.evidence = some "Containers without runAsNonRoot=true: app, web" := by
  have well : ∀ v ∈ [rootEntry "app" (.bool false), rootEntry "log" .null, rootEntry "web" (.bool false)],
      WellDescribed v := by
    have entry (name : String) (forbidden : Value) : WellDescribed (rootEntry name forbidden) :=
      ⟨⟨name, rfl⟩, (fun _ => nofun), (fun _ => nofun)⟩
    simp [entry]
  obtain ⟨found, named, _⟩ := offenders_named .root
    (rootlessPods [rootEntry "app" (.bool false), rootEntry "log" .null, rootEntry "web" (.bool false)])
    (by decide) well (.inr ⟨_, rfl⟩)
  obtain ⟨f, evaluated⟩ := found.mpr (List.cons_ne_nil _ _)
  exact ⟨f, evaluated, (named f evaluated).2.trans (by decide +kernel)⟩

end Rule.Workload

end InfraAudit
