import InfraAudit.Audit.Tool
import InfraAudit.Proofs.Record.Decoding

/-!
How requests stand in the arguments of a tool. A field that is not asked for is missing
or null, and any other one is a text, which may be one of some names
(`Value.HoldsOption`). The request is then read back from the arguments
(`PlanRequest.decode_of_heldIn`, `ClusterRequest.decode_of_heldIn`).
-/
namespace InfraAudit

/-- What may be asked for stands under a key, as a text from which it is read; nothing or
    null stands there if it is not asked for. -/
def Value.HoldsOption {α : Type} (v : Value) (key : String) (reading : String → Option α) : Option α → Prop
  | none => v.Unset key
  | some a => ∃ text, v.field? key = some (.string text) ∧ reading text = some a

namespace Record

/-! ### Fields of requests -/

theorem memberOf_of_lookup {α : Type} {names : List (String × α)} {name : String} {a : α}
    (named : names.lookup name = some a) : enumeration names (.string name) = .ok a := by
  rw [enumeration, enumerationIn, memberOf, named]

section
variable {α : Type} {v : Value} {s : Source} {shape : Shape} {index : Nat} {name : String}

/-- What may be asked for is read from the field that holds it. -/
theorem field_of_holdsOption {decode : Decoder α} {reading : String → Option α} {o : Option α}
    (source : source? v = some s) (object : v.isObject = true)
    (reads : ∀ text a, reading text = some a → decode (.string text) = .ok a)
    (held : v.HoldsOption name reading o) :
    s.field shape index name (optional decode) (.unset none) = .ok o := by
  rw [field_unset_eq_ok_iff source object, Value.part?_of_object object]
  cases o with
  | none =>
    rcases held with missing | null
    · rw [missing]
      rfl
    · rw [null]
      rfl
  | some a =>
    obtain ⟨text, written, read⟩ := held
    rw [written]
    exact congrArg (Except.map some) (reads text a read)

theorem field_text_of_holdsOption {o : Option String} (source : source? v = some s) (object : v.isObject = true)
    (held : v.HoldsOption name some o) : s.field shape index name (optional string) (.unset none) = .ok o :=
  field_of_holdsOption source object (fun _ _ read => congrArg Except.ok (Option.some.inj read)) held

theorem field_path_of_holdsOption {o : Option String} (source : source? v = some s) (object : v.isObject = true)
    (held : v.HoldsOption name some o) : s.field shape index name (optional pathText) (.unset none) = .ok o :=
  field_of_holdsOption source object (fun _ _ read => congrArg Except.ok (Option.some.inj read)) held

theorem field_name_of_holdsOption {names : List (String × α)} {o : Option α} (source : source? v = some s)
    (object : v.isObject = true) (held : v.HoldsOption name (fun text => names.lookup text) o) :
    s.field shape index name (optional (enumeration names)) (.unset none) = .ok o :=
  field_of_holdsOption source object (fun _ _ => memberOf_of_lookup) held

end

theorem list_pathText (texts : List String) : list pathText (.array (texts.map Value.string)) = .ok texts := by
  change (texts.map Value.string).mapM pathText = _
  induction texts with
  | nil => rfl
  | cons text rest ih =>
    rw [List.map_cons, List.mapM_cons, ih]
    rfl

end Record

open Record

/-! ### Requests for plans -/

/-- The arguments ask for the audit of a plan. -/
structure PlanRequest.HeldIn (r : PlanRequest) (args : Value) : Prop where
  workspace : args.field? "workspace" = some (.string r.workspace)
  planPath : args.HoldsOption "planPath" some r.planPath
  cloud : args.HoldsOption "cloud" (fun name => Cloud.names.lookup name) r.cloud
  policySet : args.HoldsOption "policySet" some r.policySet
  depth : args.HoldsOption "depth" (fun name => Depth.names.lookup name) r.depth

theorem PlanRequest.HeldIn.object {r : PlanRequest} {args : Value} (held : r.HeldIn args) : args.isObject = true := by
  have workspace := held.workspace
  cases args with
  | object fields => rfl
  | _ => cases workspace

theorem PlanRequest.decode_of_heldIn {r : PlanRequest} {args : Value} (held : r.HeldIn args) : decode args = .ok r := by
  have object := held.object
  obtain ⟨workspace, planPath, cloud, policySet, depth⟩ := held
  have stands : args.standsFor shape.fields = true := Value.standsFor_of_object object shape.fields
  obtain ⟨s, source⟩ := exists_source? stands
  have place : s.field shape 0 "workspace" pathText .required = .ok r.workspace := by
    rw [field_required_eq_ok_iff source, Value.part?_of_object object]
    exact ⟨_, workspace, rfl⟩
  rw [decode, record_eq_ok_iff]
  refine ⟨stands, s, source, ?_⟩
  simp only [Part.seq_eq_ok_iff, Part.map_eq_ok_iff, place, field_path_of_holdsOption source object planPath,
    field_name_of_holdsOption source object cloud, field_text_of_holdsOption source object policySet,
    field_name_of_holdsOption source object depth]
  exact ⟨_, _, ⟨_, _, ⟨_, _, ⟨_, _, ⟨_, rfl, rfl⟩, rfl, rfl⟩, rfl, rfl⟩, rfl, rfl⟩, rfl, rfl⟩

/-! ### Requests for manifests -/

/-- The arguments ask for the audit of manifests. -/
structure ClusterRequest.HeldIn (r : ClusterRequest) (args : Value) : Prop where
  object : args.isObject = true
  manifestsDir : args.HoldsOption "manifestsDir" some r.manifestsDir
  helmChart : args.HoldsOption "helmChart" some r.helmChart
  values : args.field? "values" = some (.array (r.values.map .string)) ∨ args.field? "values" = none ∧ r.values = []
  policySet : args.HoldsOption "policySet" some r.policySet

theorem ClusterRequest.decode_of_heldIn {r : ClusterRequest} {args : Value} (held : r.HeldIn args) :
    decode args = .ok r := by
  obtain ⟨object, manifestsDir, helmChart, values, policySet⟩ := held
  have stands : args.standsFor shape.fields = true := Value.standsFor_of_object object shape.fields
  obtain ⟨s, source⟩ := exists_source? stands
  have files : s.field shape 2 "values" (list pathText) (.default []) = .ok r.values := by
    rw [field_default_eq_ok_iff source, Value.part?_of_object object]
    rcases values with listed | ⟨missing, nothing⟩
    · rw [listed]
      exact list_pathText r.values
    · rw [missing, nothing]
      rfl
  rw [decode, record_eq_ok_iff]
  refine ⟨stands, s, source, ?_⟩
  simp only [Part.seq_eq_ok_iff, Part.map_eq_ok_iff, files, field_path_of_holdsOption source object manifestsDir,
    field_path_of_holdsOption source object helmChart, field_text_of_holdsOption source object policySet]
  exact ⟨_, _, ⟨_, _, ⟨_, _, ⟨_, rfl, rfl⟩, rfl, rfl⟩, rfl, rfl⟩, rfl, rfl⟩

/-! ### Calls -/

namespace Tool

theorem decodeArgs_of_object {α : Type} {decode : Decoder α} {args : Value} {r : α} (name : String)
    (object : args.isObject = true) (read : decode args = .ok r) : decodeArgs name decode args = .ok r := by
  have proper : ¬ args.isNull = true := by
    intro null
    cases args with
    | null => cases object
    | _ => cases null
  rw [decodeArgs, if_neg proper, read]
  rfl

/-- A call audits the plan that its arguments ask for. -/
theorem call_explainPlan {r : PlanRequest} {args : Value} (held : r.HeldIn args) (fs : FileSystem) (c : Config)
    (now : String) :
    call fs c now "explainPlan" args = (explainPlan fs c now r).map (fun a => a.encode.sortKeys) := by
  have read := decodeArgs_of_object "explainPlan" held.object (PlanRequest.decode_of_heldIn held)
  simp only [call, read, bind, Except.bind]
  cases explainPlan fs c now r <;> rfl

/-- A call audits the manifests that its arguments ask for. -/
theorem call_validateManifests {r : ClusterRequest} {args : Value} (held : r.HeldIn args) (fs : FileSystem)
    (c : Config) (now : String) :
    call fs c now "validateK8s" args = (validateManifests fs c now r).map (fun a => a.encode.sortKeys) := by
  have read := decodeArgs_of_object "validateK8s" held.object (ClusterRequest.decode_of_heldIn held)
  simp only [call, read, bind, Except.bind]
  cases validateManifests fs c now r <;> rfl

end Tool

end InfraAudit
