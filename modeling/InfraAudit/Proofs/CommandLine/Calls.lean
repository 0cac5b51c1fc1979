import InfraAudit.CommandLine.Run
import InfraAudit.Files.Tree
import InfraAudit.Proofs.Audit.Cloud
import InfraAudit.Proofs.Audit.Requests
import InfraAudit.Proofs.Audit.Times

/-!
Audits that are asked for by a command of their own, or by a call with the same request
as arguments. Both print the same value where they use the same configuration
(`agree_of_audit`). The audit of a plan always does; the audit of manifests looks for a
configuration beside the manifests only when it is asked for by its own command.
-/
namespace InfraAudit

/-! ### Configurations of directories -/

/-- A configuration in a directory is the one that is used there. -/
theorem FileSystem.loadConfig_of_usable {fs : FileSystem} {directory : String} {c : Config}
    (usable : fs.readConfig (Path.join directory Config.fileName) = .ok c) :
    fs.loadConfig none (some directory) = .ok c := by
  have found : fs.hasEntry (Path.join directory Config.fileName) = true := by
    rw [readConfig, readText] at usable
    rw [hasEntry]
    cases entry : fs.lookup (Path.join directory Config.fileName) with
    | error e =>
      rw [entry] at usable
      cases usable
    | ok e => rfl
  simp [loadConfig, configPaths, found, usable, Except.toOption]

/-- A directory without a usable configuration does not count. -/
theorem FileSystem.loadConfig_of_unusable {fs : FileSystem} {directory : String}
    (unusable : ∀ c, fs.readConfig (Path.join directory Config.fileName) ≠ .ok c) :
    fs.loadConfig none (some directory) = fs.loadConfig none none := by
  have refused : (fs.readConfig (Path.join directory Config.fileName)).toOption = none := by
    cases read : fs.readConfig (Path.join directory Config.fileName) with
    | error e => rfl
    | ok c => exact absurd read (unusable c)
  simp [loadConfig, configPaths, refused]

namespace CommandLine

/-! ### Agreeing runs -/

/-- Two runs end with the same error, or print values that say the same but for the time
    of the audit. -/
inductive Agree : Except AuditError Outcome → Except AuditError Outcome → Prop where
  | failed (e : AuditError) : Agree (.error e) (.error e)
  | printed {v w : Value} (same : v.SameBut "analyzedAt" w) : Agree (.ok ⟨v.pretty, 0⟩) (.ok ⟨w.pretty, 0⟩)

/-- Prints what an audit by a configuration finds. -/
def printAudit {α : Type} (configured : Except ConfigError Config) (audit : Config → Except AuditError α)
    (encode : α → Value) : Except AuditError Outcome := do
  let c ← configured.mapError .config
  return ⟨(encode (← audit c)).pretty, 0⟩

section
variable {α : Type} {configured : Except ConfigError Config} {audit : Config → Except AuditError α} {c : Config}

theorem printAudit_of_error {e : AuditError} (known : configured = .ok c) (failed : audit c = .error e)
    (encode : α → Value) : printAudit configured audit encode = .error e := by
  simp [printAudit, known, failed, Except.mapError, bind, Except.bind]

theorem printAudit_of_ok {a : α} (known : configured = .ok c) (made : audit c = .ok a) (encode : α → Value) :
    printAudit configured audit encode = .ok ⟨(encode a).pretty, 0⟩ := by
  simp [printAudit, known, made, Except.mapError, bind, Except.bind, pure, Except.pure]

/-- Audits by the same configuration agree if their results say the same. -/
theorem agree_of_audit (configured : Except ConfigError Config) (audit : Config → Except AuditError α)
    {encode encode' : α → Value} (same : ∀ a, (encode a).SameBut "analyzedAt" (encode' a)) :
    Agree (printAudit configured audit encode) (printAudit configured audit encode') := by
  cases known : configured with
  | error e => exact .failed (.config e)
  | ok c =>
    cases made : audit c with
    | error e =>
      rw [printAudit_of_error rfl made, printAudit_of_error rfl made]
      exact .failed e
    | ok a =>
      rw [printAudit_of_ok rfl made, printAudit_of_ok rfl made]
      exact .printed (same a)

end

variable {s : Surroundings} {config : Option String} {text : String} {args : Value}

/-- A call prints what its tool finds by the configuration of the workspace among the
    arguments. -/
theorem run_call {α : Type} {tool : String} {audit : Config → Except AuditError α} {encode : α → Value}
    (parsed : Json.parse text = .ok args)
    (called : ∀ c, Tool.call s.files c s.now tool args = (audit c).map encode) :
    run s ⟨config, .call tool text⟩ =
      printAudit (s.files.loadConfig config (args.fieldStr? "workspace")) audit encode := by
  simp only [run, parsed, Except.mapError, bind, Except.bind, called, printAudit]
  cases s.files.loadConfig config (args.fieldStr? "workspace") with
  | error e => rfl
  | ok c => cases made : audit c <;> simp [made, Except.map]

/-! ### Audits of plans -/

theorem run_explainPlan_json (s : Surroundings) (config : Option String) (r : PlanRequest) :
    run s ⟨config, .explainPlan r ⟨some .json, none⟩⟩ =
      printAudit (s.files.loadConfig config (some r.workspace)) (fun c => explainPlan s.files c s.now r)
        PlanAudit.encode := rfl

/-- The command for the audit of a plan and a call with the same request agree. -/
theorem explainPlan_call_agrees (s : Surroundings) (config : Option String) (now' : String) (color' : Bool)
    {r : PlanRequest} {text : String} {args : Value} (parsed : Json.parse text = .ok args) (held : r.HeldIn args) :
    Agree (run s ⟨config, .explainPlan r ⟨some .json, none⟩⟩)
      (run { s with now := now', color := color' } ⟨config, .call "explainPlan" text⟩) := by
  have workspace : args.fieldStr? "workspace" = some r.workspace := by
    rw [Value.fieldStr?, held.workspace]
    rfl
  have called (c : Config) : Tool.call s.files c now' "explainPlan" args =
      (explainPlan s.files c s.now r).map (fun a => (a.madeAt now').encode.sortKeys) := by
    rw [Tool.call_explainPlan held, explainPlan_madeAt s.files c s.now now']
    cases explainPlan s.files c s.now r <;> rfl
  rw [run_explainPlan_json, run_call parsed called, workspace]
  exact agree_of_audit _ _ (fun a => Value.sameBut_sortKeys (a.encode_madeAt_without now').symm)

/-- The arguments for the full audit of a plan, for one cloud. -/
def planArguments : String := "\x7b\"workspace\":\"ws\",\"cloud\":\"google\",\"depth\":\"full\"\x7d"

/-- The request for that audit. -/
def planRequest : PlanRequest := ⟨"ws", none, some .gcp, none, some .full⟩

/-- A workspace with the plan of an update. -/
def planFiles : FileSystem :=
  FileTree.toFileSystem
    (.directory [("ws", .directory [("tfplan.json", .file (.ok (planText (updateText "w" "aws"))))])]) none

theorem explainPlan_call_agrees_update :
    (∃ stdout, run ⟨planFiles, "noon", true⟩ ⟨none, .explainPlan planRequest ⟨some .json, none⟩⟩ = .ok ⟨stdout, 0⟩) ∧
      Agree (run ⟨planFiles, "noon", true⟩ ⟨none, .explainPlan planRequest ⟨some .json, none⟩⟩)
        (run ⟨planFiles, "night", false⟩ ⟨none, .call "explainPlan" planArguments⟩) := by
  have parsed : Json.parse planArguments = .ok (.object
      [("cloud", .string "google"), ("depth", .string "full"), ("workspace", .string "ws")]) := by
    rewrite [Json.parse]
    cbv
  have held : planRequest.HeldIn (.object
      [("cloud", .string "google"), ("depth", .string "full"), ("workspace", .string "ws")]) :=
    ⟨rfl, .inl rfl, ⟨_, rfl, rfl⟩, .inl rfl, ⟨_, rfl, rfl⟩⟩
  have valid := (Plan.parse_eq_ok_iff _ _).mpr ⟨_, parse_update, ofValue_update⟩
  have selected : Config.default.Selects none none := rfl
  obtain ⟨policy, made, _⟩ := Config.policyRun_of_selects selected
  have audited : explainPlan planFiles .default "noon" planRequest =
      .ok (planRequest.audit policy .full "noon" (planOf [updateOf "w" "aws"])) := by
    rw [explainPlan_of_read rfl valid]
    exact congrArg (Except.map _) made
  have configured : planFiles.loadConfig none (some planRequest.workspace) = .ok .default := rfl
  refine ⟨?_, explainPlan_call_agrees ⟨planFiles, "noon", true⟩ none "night" false parsed held⟩
  refine ⟨(planRequest.audit policy .full "noon" (planOf [updateOf "w" "aws"])).encode.pretty, ?_⟩
  rw [run_explainPlan_json]
  refine printAudit_of_ok configured ?_ _
  exact audited

/-! ### Audits of manifests -/

theorem run_validateManifests_json (s : Surroundings) (config : Option String) (r : ClusterRequest) :
    run s ⟨config, .validateManifests r ⟨some .json, none⟩⟩ =
      printAudit (s.files.loadConfig config (r.manifestsDir.or r.helmChart))
        (fun c => validateManifests s.files c s.now r) ClusterAudit.encode := rfl

theorem agree_of_loadConfig {s : Surroundings} {config config' : Option String} {now' : String} {color' : Bool}
    {r : ClusterRequest} {text : String} {args : Value} (parsed : Json.parse text = .ok args) (held : r.HeldIn args)
    (same : s.files.loadConfig config (r.manifestsDir.or r.helmChart) =
      s.files.loadConfig config' (args.fieldStr? "workspace")) :
    Agree (run s ⟨config, .validateManifests r ⟨some .json, none⟩⟩)
      (run { s with now := now', color := color' } ⟨config', .call "validateK8s" text⟩) := by
  have called (c : Config) : Tool.call s.files c now' "validateK8s" args =
      (validateManifests s.files c s.now r).map (fun a => (a.madeAt now').encode.sortKeys) := by
    rw [Tool.call_validateManifests held, validateManifests_madeAt s.files c s.now now']
    cases validateManifests s.files c s.now r <;> rfl
  rw [run_validateManifests_json, run_call parsed called, ← same]
  exact agree_of_audit _ _ (fun a => Value.sameBut_sortKeys (a.encode_madeAt_without now').symm)

/-- The command for the audit of manifests and a call with the same request agree where
    the configuration is given to them, and where none but the one that counts anyway can
    be used beside the manifests. Any other one beside the manifests is used by the
    command only: the call agrees when it is given to it. -/
theorem validateManifests_call_agrees (s : Surroundings) (now' : String) (color' : Bool) {r : ClusterRequest}
    {text : String} {args : Value} (parsed : Json.parse text = .ok args) (held : r.HeldIn args)
    (unnamed : args.field? "workspace" = none) :
    (∀ path, Agree (run s ⟨some path, .validateManifests r ⟨some .json, none⟩⟩)
      (run { s with now := now', color := color' } ⟨some path, .call "validateK8s" text⟩)) ∧
    ((∀ directory c, r.manifestsDir.or r.helmChart = some directory →
        s.files.readConfig (Path.join directory Config.fileName) = .ok c → s.files.loadConfig none none = .ok c) →
      Agree (run s ⟨none, .validateManifests r ⟨some .json, none⟩⟩)
        (run { s with now := now', color := color' } ⟨none, .call "validateK8s" text⟩)) ∧
    (∀ directory c, r.manifestsDir.or r.helmChart = some directory →
      s.files.readConfig (Path.join directory Config.fileName) = .ok c →
        Agree (run s ⟨none, .validateManifests r ⟨some .json, none⟩⟩)
          (run { s with now := now', color := color' }
            ⟨some (Path.join directory Config.fileName), .call "validateK8s" text⟩)) := by
  have workspace : args.fieldStr? "workspace" = none := by
    rw [Value.fieldStr?, unnamed]
    rfl
  refine ⟨?_, ?_, ?_⟩
  · intro path
    exact agree_of_loadConfig parsed held rfl
  · intro counts
    apply agree_of_loadConfig parsed held
    rw [workspace]
    cases beside : r.manifestsDir.or r.helmChart with
    | none => rfl
    | some directory =>
      -- The directory only counts for the command, so it must not change what counts.
      by_cases usable : ∃ c, s.files.readConfig (Path.join directory Config.fileName) = .ok c
      · obtain ⟨c, read⟩ := usable
        rw [FileSystem.loadConfig_of_usable read, counts directory c beside read]
      · exact FileSystem.loadConfig_of_unusable (fun c read => usable ⟨c, read⟩)
  · intro directory c beside read
    apply agree_of_loadConfig parsed held
    rw [beside, FileSystem.loadConfig_of_usable read]
    exact read.symm

/-- A configuration with a policy set. -/
def strictText : String := "[policy_sets.strict]\n"

/-- A directory of manifests with that configuration. -/
def strictFiles : FileSystem :=
  FileTree.toFileSystem (.directory [("k8s", .directory [(".iac-explain.toml", .file (.ok strictText))])]) none

/-- What the configuration says. -/
def strictConfig : Config := { Config.default with policySets := [("strict", ⟨[], [], none⟩)] }

/-- The arguments for an audit by that policy set. -/
def strictArguments : String := "\x7b\"manifestsDir\":\"k8s\",\"policySet\":\"strict\"\x7d"

/-- The request for that audit. -/
def strictRequest : ClusterRequest := ⟨some "k8s", none, [], some "strict"⟩

theorem readConfig_strict : strictFiles.readConfig (Path.join "k8s" Config.fileName) = .ok strictConfig := by
  have read : strictFiles.readText (Path.join "k8s" Config.fileName) = .ok strictText := rfl
  have configured : Config.parse? strictText = some strictConfig := by decide +kernel
  simp only [FileSystem.readConfig, read, configured]

theorem parse_strictArguments :
    Json.parse strictArguments = .ok (.object [("manifestsDir", .string "k8s"), ("policySet", .string "strict")]) := by
  rewrite [Json.parse]
  cbv

theorem heldIn_strict :
    strictRequest.HeldIn (.object [("manifestsDir", .string "k8s"), ("policySet", .string "strict")]) :=
  ⟨rfl, ⟨_, rfl, rfl⟩, .inl rfl, .inr ⟨rfl, rfl⟩, ⟨_, rfl, rfl⟩⟩

theorem validateManifests_call_agrees_strict :
    Agree (run ⟨strictFiles, "noon", true⟩ ⟨none, .validateManifests strictRequest ⟨some .json, none⟩⟩)
      (run ⟨strictFiles, "night", false⟩
        ⟨some (Path.join "k8s" Config.fileName), .call "validateK8s" strictArguments⟩) := by
  have agrees := validateManifests_call_agrees ⟨strictFiles, "noon", true⟩ "night" false parse_strictArguments
    heldIn_strict rfl
  exact agrees.2.2 "k8s" strictConfig rfl readConfig_strict

/-- A policy set of the configuration beside the manifests is known to the command and
    not to a call with the same request. -/
theorem call_misses_configuration :
    (∃ stdout, run ⟨strictFiles, "noon", true⟩ ⟨none, .validateManifests strictRequest ⟨some .json, none⟩⟩ =
      .ok ⟨stdout, 0⟩) ∧
    run ⟨strictFiles, "noon", true⟩ ⟨none, .call "validateK8s" strictArguments⟩ =
      .error (.config (.unknownPolicySet "strict")) ∧
    ¬ Agree (run ⟨strictFiles, "noon", true⟩ ⟨none, .validateManifests strictRequest ⟨some .json, none⟩⟩)
      (run ⟨strictFiles, "noon", true⟩ ⟨none, .call "validateK8s" strictArguments⟩) := by
  have selected : strictConfig.Selects (some "strict") (some ⟨[], [], none⟩) := ⟨_, rfl, by decide⟩
  obtain ⟨policy, made, _⟩ := Config.policyRun_of_selects selected
  have printed : ∃ stdout, run ⟨strictFiles, "noon", true⟩
      ⟨none, .validateManifests strictRequest ⟨some .json, none⟩⟩ = .ok ⟨stdout, 0⟩ := by
    have audited : validateManifests strictFiles strictConfig "noon" strictRequest =
        .ok ((auditFiles policy [] (strictRequest.files strictFiles)).audit "noon") :=
      (validateManifests_eq_ok_iff ..).mpr ⟨⟨List.cons_ne_nil _ _, by decide⟩, policy, made, rfl⟩
    rw [run_validateManifests_json]
    exact ⟨_, printAudit_of_ok (FileSystem.loadConfig_of_usable readConfig_strict) audited _⟩
  have failed : run ⟨strictFiles, "noon", true⟩ ⟨none, .call "validateK8s" strictArguments⟩ =
      .error (.config (.unknownPolicySet "strict")) := by
    rw [run_call parse_strictArguments (fun c => Tool.call_validateManifests heldIn_strict strictFiles c _)]
    exact printAudit_of_error rfl rfl _
  obtain ⟨stdout, ran⟩ := printed
  refine ⟨⟨stdout, ran⟩, failed, ?_⟩
  rw [ran, failed]
  rintro ⟨⟩

end CommandLine

end InfraAudit
