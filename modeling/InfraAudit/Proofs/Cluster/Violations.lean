import InfraAudit.Proofs.Cluster.Reading

/-!
Which issues a document has that is not read as a resource. What a resource demands of its
document is a list of constraints in a fixed order (`constraints`), each about one field,
and what violates them is described without reference to how it is found (`Violates`). The
check is followed a second time with each issue tagged by its constraint (`noted`): without
the tags these are its issues (`snd_noted`), the tags alone are in the order of the
constraints (`fst_noted`), and both together are the violations (`mem_noted`).
-/
namespace InfraAudit.Cluster

/-! ### Constraints -/

/-- What a document has to fulfil to be a resource: each field is of its type, each entry of
    the maps of texts is a text, and the kind is not blank. -/
inductive Constraint
  | apiVersion
  | kind
  | metadata
  | name
  | namespaceName
  | texts (key : String)
  | text (key entry : String)
  | spec
  | status
  | kindText
  deriving DecidableEq

/-- The path of the field that a constraint is about. -/
def Constraint.path : Constraint → String
  | .apiVersion => "apiVersion"
  | .kind | .kindText => "kind"
  | .metadata => "metadata"
  | .name => "metadata.name"
  | .namespaceName => "metadata.namespace"
  | .texts key => FieldPath.field "metadata" key
  | .text key entry => FieldPath.field (FieldPath.field "metadata" key) entry
  | .spec => "spec"
  | .status => "status"

/-- The keys of metadata under which maps of texts stand. -/
def textKeys : List String := ["labels", "annotations"]

/-- The metadata of a document. -/
def metadataOf (v : Value) : Value := (v.field? "metadata").getD .null

/-- The entries of the map under a key. -/
def entriesUnder (m : Value) (key : String) : Fields := ((m.field? key).bind Value.fields?).getD []

/-- The constraints on the map of texts under a key of metadata. -/
def textConstraints (m : Value) (key : String) : List Constraint :=
  .texts key :: (entriesUnder m key).map (fun e => .text key e.1)

/-- The constraints on any document that come before those on its maps of texts. -/
def leading : List Constraint := [.apiVersion, .kind, .metadata, .name, .namespaceName]

/-- The constraints on any document that come after those on its maps of texts. -/
def trailing : List Constraint := [.spec, .status, .kindText]

/-- The constraints on a document, in the order in which they are reported. -/
def constraints (v : Value) : List Constraint :=
  leading ++ textKeys.flatMap (textConstraints (metadataOf v)) ++ trailing

/-! ### Violations -/

/-- An issue about metadata that violates a constraint. -/
inductive Metadata.Violates (m : Value) : Constraint → FieldIssue → Prop
  | name {i : FieldIssue} (lacks : m.Lacks "string" "name" "metadata" i) : Violates m .name i
  | namespaceName {i : FieldIssue} (mistypes : m.Mistypes "string" "namespace" "metadata" i) :
      Violates m .namespaceName i
  | texts {key : String} {i : FieldIssue} (known : key ∈ textKeys) (mistypes : m.Mistypes "object" key "metadata" i) :
      Violates m (.texts key) i
  | text {key entry : String} {fields : Fields} {w : Value} (known : key ∈ textKeys)
      (held : m.field? key = some (.object fields)) (member : (entry, w) ∈ fields) (other : w.typeName ≠ "string") :
      Violates m (.text key entry) (.mismatch (FieldPath.field (FieldPath.field "metadata" key) entry) "string" w)

namespace Resource

/-- An issue about a document that violates a constraint. -/
inductive Violates (v : Value) : Constraint → FieldIssue → Prop
  | apiVersion {i : FieldIssue} (lacks : v.Lacks "string" "apiVersion" "" i) : Violates v .apiVersion i
  | kind {i : FieldIssue} (lacks : v.Lacks "string" "kind" "" i) : Violates v .kind i
  | metadata {i : FieldIssue} (lacks : v.Lacks "object" "metadata" "" i) : Violates v .metadata i
  | inner {fields : Fields} {c : Constraint} {i : FieldIssue} (held : v.field? "metadata" = some (.object fields))
      (violates : Metadata.Violates (.object fields) c i) : Violates v c i
  | spec {i : FieldIssue} (mistypes : v.Mistypes "object" "spec" "" i) : Violates v .spec i
  | status {i : FieldIssue} (mistypes : v.Mistypes "object" "status" "" i) : Violates v .status i
  | kindText {kind : String} (held : v.field? "kind" = some (.string kind)) (blank : Text.isBlankText kind = true) :
      Violates v .kindText ⟨"kind", "must not be blank, received " ++ Text.ticked kind⟩

theorem Violates.path {v : Value} {c : Constraint} {i : FieldIssue} (violates : Violates v c i) : i.path = c.path := by
  cases violates with
  | apiVersion lacks => exact lacks.path
  | kind lacks => exact lacks.path
  | metadata lacks => exact lacks.path
  | inner held violates =>
    cases violates with
    | name lacks => exact lacks.path
    | namespaceName mistypes => exact mistypes.path
    | texts known mistypes => exact mistypes.path
    | text known held member other => rfl
  | spec mistypes => exact mistypes.path
  | status mistypes => exact mistypes.path
  | kindText held blank => rfl

/-! ### What the check notes -/

/-- The issues of a check, as issues about a constraint. -/
def tagged {α : Type} (c : Constraint) (x : Checked α) : List (Constraint × FieldIssue) := x.issues.map (c, ·)

/-- What the check of metadata notes of the map of texts under a key. -/
def notedTexts (m : Value) (key : String) : List (Constraint × FieldIssue) :=
  tagged (.texts key) (m.optionalObject key "metadata") ++
    (entriesUnder m key).flatMap fun e =>
      tagged (.text key e.1) (Value.stringEntry (FieldPath.field "metadata" key) e)

def notedMetadata (m : Value) : List (Constraint × FieldIssue) :=
  tagged .name (m.requireStr "name" "metadata") ++
    (tagged .namespaceName (m.optionalStr "namespace" "metadata") ++ textKeys.flatMap (notedTexts m))

/-- What the check of a document notes; of metadata that is no object, it notes only this. -/
def noted (v : Value) : List (Constraint × FieldIssue) :=
  tagged .apiVersion (v.requireStr "apiVersion" "") ++
    (tagged .kind (v.requireStr "kind" "") ++
    (tagged .metadata (v.requireObject "metadata" "") ++
    ((if (metadataOf v).isObject then notedMetadata (metadataOf v) else []) ++
    (tagged .spec (v.optionalObject "spec" "") ++
    (tagged .status (v.optionalObject "status" "") ++
    tagged .kindText (checkKindText (v.requireStr "kind" "").value))))))

section
variable {α : Type} {c d : Constraint} {i : FieldIssue} {x : Checked α} {m v : Value} {key : String}

theorem mem_tagged : (d, i) ∈ tagged c x ↔ d = c ∧ i ∈ x.issues := by
  simp [tagged, and_comm, eq_comm]

theorem snd_tagged (c : Constraint) (x : Checked α) : (tagged c x).map Prod.snd = x.issues := by
  simp [tagged, Function.comp_def]

theorem fst_tagged (single : x.issues.length ≤ 1) : ((tagged c x).map Prod.fst).Sublist [c] := by
  have repeated : (tagged c x).map Prod.fst = List.replicate x.issues.length c := by
    simp [tagged, Function.comp_def, List.map_const']
  rw [repeated]
  exact (List.replicate_sublist_replicate c).mpr single

theorem mem_entriesUnder {e : String × Value} :
    e ∈ entriesUnder m key ↔ ∃ fields, m.field? key = some (.object fields) ∧ e ∈ fields := by
  unfold entriesUnder
  cases m.field? key with
  | none => simp
  | some w => cases w <;> simp [Value.fields?]

theorem length_issues_checkKindText (kind : Option String) : (checkKindText kind).issues.length ≤ 1 := by
  cases kind with
  | none => exact Nat.zero_le 1
  | some kind =>
    rw [checkKindText, Checked.require]
    split <;> simp

/-! ### The issues of the check -/

theorem snd_notedTexts (m : Value) (key : String) :
    (notedTexts m key).map Prod.snd = (m.optionalStrings key "metadata").issues := by
  rw [Value.optionalStrings, Checked.issues_bind, Checked.issues_bind, Checked.issues_pure, List.append_nil,
    Checked.issues_forItems_eq, Value.value_optionalObject, notedTexts, List.map_append, List.map_flatMap, snd_tagged]
  simp only [snd_tagged]
  rfl

theorem snd_notedMetadata (v : Value) :
    (tagged .metadata (v.requireObject "metadata" "") ++
        (if (metadataOf v).isObject then notedMetadata (metadataOf v) else [])).map Prod.snd =
      (Metadata.check v).issues := by
  rw [Metadata.check, Checked.ifRead, Checked.issues_bind, Value.value_requireObject, List.map_append, snd_tagged]
  unfold metadataOf
  cases v.field? "metadata" with
  | none => rfl
  | some w =>
    rw [Option.filter_some, Option.getD_some]
    by_cases object : w.isObject = true
    · rw [if_pos object, if_pos object]
      simp only [notedMetadata, textKeys, List.flatMap_cons, List.flatMap_nil, List.map_append, snd_tagged,
        snd_notedTexts, Checked.issues_bind, Checked.issues_pure, List.append_nil]
    · rw [if_neg object, if_neg object]
      rfl

theorem snd_noted (v : Value) : (noted v).map Prod.snd = (check v).issues := by
  have inner := snd_notedMetadata v
  rw [List.map_append] at inner
  simp only [noted, check, List.map_append, snd_tagged, Checked.issues_bind, Checked.issues_pure, List.append_nil,
    ← inner, List.append_assoc]

/-! ### The order of the issues -/

theorem fst_flatMap {as : List α} {f : α → List (Constraint × FieldIssue)} {g : α → List Constraint}
    (each : ∀ a, ((f a).map Prod.fst).Sublist (g a)) : ((as.flatMap f).map Prod.fst).Sublist (as.flatMap g) := by
  induction as with
  | nil => exact .slnil
  | cons a rest ih =>
    rw [List.flatMap_cons, List.flatMap_cons, List.map_append]
    exact (each a).append ih

theorem fst_notedTexts (m : Value) (key : String) :
    ((notedTexts m key).map Prod.fst).Sublist (textConstraints m key) := by
  have map := fst_tagged (c := .texts key) (Value.length_issues_optionalObject m key "metadata")
  have entry := fun e =>
    fst_tagged (c := .text key e.1) (Value.length_issues_stringEntry (FieldPath.field "metadata" key) e)
  rw [notedTexts, List.map_append, textConstraints, List.map_eq_flatMap (l := entriesUnder m key)]
  exact map.append (fst_flatMap entry)

theorem fst_notedMetadata (m : Value) : ((notedMetadata m).map Prod.fst).Sublist
    ([.name] ++ ([.namespaceName] ++ textKeys.flatMap (textConstraints m))) := by
  have name := fst_tagged (c := .name) (Value.length_issues_requireStr m "name" "metadata")
  have ns := fst_tagged (c := .namespaceName) (Value.length_issues_optionalStr m "namespace" "metadata")
  rw [notedMetadata, List.map_append, List.map_append]
  exact name.append (ns.append (fst_flatMap (fst_notedTexts m)))

theorem fst_noted (v : Value) : ((noted v).map Prod.fst).Sublist (constraints v) := by
  have version := fst_tagged (c := .apiVersion) (Value.length_issues_requireStr v "apiVersion" "")
  have kind := fst_tagged (c := .kind) (Value.length_issues_requireStr v "kind" "")
  have metadata := fst_tagged (c := .metadata) (Value.length_issues_requireObject v "metadata" "")
  have spec := fst_tagged (c := .spec) (Value.length_issues_optionalObject v "spec" "")
  have status := fst_tagged (c := .status) (Value.length_issues_optionalObject v "status" "")
  have text := fst_tagged (c := .kindText) (length_issues_checkKindText (v.requireStr "kind" "").value)
  have inner : ((if (metadataOf v).isObject then notedMetadata (metadataOf v) else []).map Prod.fst).Sublist
      ([.name] ++ ([.namespaceName] ++ textKeys.flatMap (textConstraints (metadataOf v)))) := by
    split
    · exact fst_notedMetadata _
    · exact List.nil_sublist _
  have all := version.append (kind.append (metadata.append (inner.append (spec.append (status.append text)))))
  simpa [noted, constraints, leading, trailing] using all

/-! ### Issues are violations -/

theorem mem_issues_stringEntry {path : String} {e : String × Value} :
    i ∈ (Value.stringEntry path e).issues ↔
      e.2.typeName ≠ "string" ∧ i = .mismatch (FieldPath.field path e.1) "string" e.2 := by
  obtain ⟨k, w⟩ := e
  cases w <;> simp [Value.stringEntry, Checked.issue, Value.typeName]

theorem mem_issues_checkKindText (kind : Option String) :
    i ∈ (checkKindText kind).issues ↔ ∃ text, kind = some text ∧ Text.isBlankText text = true ∧
      i = ⟨"kind", "must not be blank, received " ++ Text.ticked text⟩ := by
  cases kind with
  | none => simp [checkKindText]
  | some kind => simp [checkKindText, Checked.mem_issues_require]

theorem mem_notedTexts : (c, i) ∈ notedTexts m key ↔
    c = .texts key ∧ m.Mistypes "object" key "metadata" i ∨
    ∃ fields entry w, m.field? key = some (.object fields) ∧ (entry, w) ∈ fields ∧ w.typeName ≠ "string" ∧
      c = .text key entry ∧ i = .mismatch (FieldPath.field (FieldPath.field "metadata" key) entry) "string" w := by
  simp only [notedTexts, List.mem_append, List.mem_flatMap, mem_tagged, mem_issues_stringEntry,
    Value.mem_issues_optionalObject, mem_entriesUnder]
  refine or_congr_right ⟨?_, ?_⟩
  · rintro ⟨e, ⟨fields, held, member⟩, rfl, other, rfl⟩
    exact ⟨fields, e.1, e.2, held, member, other, rfl, rfl⟩
  · rintro ⟨fields, entry, w, held, member, other, rfl, rfl⟩
    exact ⟨(entry, w), ⟨fields, held, member⟩, rfl, other, rfl⟩

theorem mem_notedMetadata : (c, i) ∈ notedMetadata m ↔ Metadata.Violates m c i := by
  simp only [notedMetadata, List.mem_append, List.mem_flatMap, mem_tagged, Value.mem_issues_requireStr,
    Value.mem_issues_optionalStr, mem_notedTexts]
  constructor
  · rintro (⟨rfl, lacks⟩ | ⟨rfl, mistypes⟩ | ⟨key, known, ⟨rfl, mistypes⟩ | ⟨_, _, _, held, member, other, rfl, rfl⟩⟩)
    · exact .name lacks
    · exact .namespaceName mistypes
    · exact .texts known mistypes
    · exact .text known held member other
  · intro violates
    cases violates with
    | name lacks => exact .inl ⟨rfl, lacks⟩
    | namespaceName mistypes => exact .inr (.inl ⟨rfl, mistypes⟩)
    | texts known mistypes => exact .inr (.inr ⟨_, known, .inl ⟨rfl, mistypes⟩⟩)
    | text known held member other => exact .inr (.inr ⟨_, known, .inr ⟨_, _, _, held, member, other, rfl, rfl⟩⟩)

theorem isObject_metadataOf :
    (metadataOf v).isObject = true ↔ ∃ fields, v.field? "metadata" = some (.object fields) := by
  unfold metadataOf
  cases v.field? "metadata" with
  | none => simp [Value.isObject]
  | some w => cases w <;> simp [Value.isObject]

theorem mem_noted : (c, i) ∈ noted v ↔ Violates v c i := by
  simp only [noted, List.mem_append, mem_tagged, Value.mem_issues_requireStr, Value.mem_issues_requireObject,
    Value.mem_issues_optionalObject, mem_issues_checkKindText, Value.value_requireStr, Value.fieldStr?_eq_some_iff]
  constructor
  · rintro (⟨rfl, lacks⟩ | ⟨rfl, lacks⟩ | ⟨rfl, lacks⟩ | inner | ⟨rfl, mistypes⟩ | ⟨rfl, mistypes⟩ |
      ⟨rfl, kind, held, blank, rfl⟩)
    · exact .apiVersion lacks
    · exact .kind lacks
    · exact .metadata lacks
    · split at inner
      · rename_i object
        obtain ⟨fields, held⟩ := isObject_metadataOf.mp object
        rw [metadataOf, held, Option.getD_some] at inner
        exact .inner held (mem_notedMetadata.mp inner)
      · cases inner
    · exact .spec mistypes
    · exact .status mistypes
    · exact .kindText held blank
  · intro violates
    cases violates with
    | apiVersion lacks => exact .inl ⟨rfl, lacks⟩
    | kind lacks => exact .inr (.inl ⟨rfl, lacks⟩)
    | metadata lacks => exact .inr (.inr (.inl ⟨rfl, lacks⟩))
    | inner held violates =>
      have member := mem_notedMetadata.mpr violates
      have object := isObject_metadataOf.mpr ⟨_, held⟩
      rw [if_pos object, metadataOf, held, Option.getD_some]
      exact .inr (.inr (.inr (.inl member)))
    | spec mistypes => exact .inr (.inr (.inr (.inr (.inl ⟨rfl, mistypes⟩))))
    | status mistypes => exact .inr (.inr (.inr (.inr (.inr (.inl ⟨rfl, mistypes⟩)))))
    | kindText held blank => exact .inr (.inr (.inr (.inr (.inr (.inr ⟨rfl, _, held, blank, rfl⟩)))))

/-! ### Each path once -/

/-- The keys of the maps of texts are distinct, as they are in a document that was read. -/
def TextsDistinct (v : Value) : Prop := ∀ key ∈ textKeys, ((entriesUnder (metadataOf v) key).map Prod.fst).Nodup

/-- Constraints are about different fields, unless the first is that the kind is a text and
    the second that this text is not blank. -/
def Apart (c d : Constraint) : Prop := c.path = d.path → c = .kind ∧ d = .kindText

instance (c d : Constraint) : Decidable (Apart c d) := inferInstanceAs (Decidable (_ → _))

theorem path_text (key entry : String) :
    (Constraint.text key entry).path = FieldPath.field "metadata" key ++ ("." ++ entry) := by
  have inside : (FieldPath.field "metadata" key).isEmpty = false := by simp [FieldPath.field]
  rw [Constraint.path, FieldPath.field, inside, if_neg Bool.false_ne_true, String.append_assoc]

theorem path_of_textConstraint (member : c ∈ textConstraints m key) :
    (FieldPath.field "metadata" key).toList <+: c.path.toList := by
  rcases List.mem_cons.mp member with rfl | entry
  · exact List.prefix_rfl
  · obtain ⟨e, _, rfl⟩ := List.mem_map.mp entry
    rw [path_text, String.toList_append]
    exact List.prefix_append _ _

theorem path_of_fixed : ∀ c ∈ leading ++ trailing, ∀ key ∈ textKeys,
    ¬ (FieldPath.field "metadata" key).toList <+: c.path.toList := by decide +kernel

theorem textConstraints_apart (distinct : ((entriesUnder m key).map Prod.fst).Nodup) :
    (textConstraints m key).Pairwise Apart := by
  rw [List.Nodup, List.pairwise_map] at distinct
  rw [textConstraints, List.pairwise_cons, List.pairwise_map]
  constructor
  · intro d member same
    obtain ⟨e, _, rfl⟩ := List.mem_map.mp member
    rw [path_text] at same
    have longer : (FieldPath.field "metadata" key ++ ("." ++ e.1)).length = (FieldPath.field "metadata" key).length :=
      (congrArg String.length same).symm
    simp at longer
  · refine distinct.imp ?_
    intro e f differ same
    exact absurd (FieldPath.field_inj.mp same) differ

theorem textConstraints_disjoint : textKeys.Pairwise fun key other =>
    ∀ c ∈ textConstraints m key, ∀ d ∈ textConstraints m other, Apart c d := by
  have unlike : textKeys.Pairwise fun key other =>
      ¬ (FieldPath.field "metadata" key).toList <+: (FieldPath.field "metadata" other).toList ∧
      ¬ (FieldPath.field "metadata" other).toList <+: (FieldPath.field "metadata" key).toList := by
    decide +kernel
  refine unlike.imp ?_
  rintro key other ⟨before, after⟩ c first d second same
  have shared := path_of_textConstraint first
  rw [same] at shared
  exact absurd (List.prefix_or_prefix_of_prefix shared (path_of_textConstraint second)) (not_or.mpr ⟨before, after⟩)

theorem fixed_apart (fixed : c ∈ leading ++ trailing) (member : d ∈ textKeys.flatMap (textConstraints m)) :
    c.path ≠ d.path := by
  intro same
  obtain ⟨key, known, entry⟩ := List.mem_flatMap.mp member
  have shared := path_of_textConstraint entry
  rw [← same] at shared
  exact path_of_fixed c fixed key known shared

-- Below the metadata, the maps of texts are told from all else, and from each other, by how
-- their paths start; inside of one, the keys tell its entries apart.
theorem constraints_apart (distinct : TextsDistinct v) : (constraints v).Pairwise Apart := by
  have texts : (textKeys.flatMap (textConstraints (metadataOf v))).Pairwise Apart :=
    List.pairwise_flatMap.mpr ⟨fun key known => textConstraints_apart (distinct key known), textConstraints_disjoint⟩
  have front : (leading ++ textKeys.flatMap (textConstraints (metadataOf v))).Pairwise Apart := by
    refine List.pairwise_append.mpr ⟨by decide, texts, ?_⟩
    intro c fixed d member same
    exact absurd same (fixed_apart (List.mem_append_left _ fixed) member)
  have ends : ∀ c ∈ leading, ∀ d ∈ trailing, Apart c d := by decide
  refine List.pairwise_append.mpr ⟨front, by decide, ?_⟩
  intro c member d fixed same
  rcases List.mem_append.mp member with first | text
  · exact ends c first d fixed same
  · exact absurd same.symm (fixed_apart (List.mem_append_right _ fixed) text)

/-- A kind that is no text is not blank. -/
theorem Violates.not_kindText {j : FieldIssue} (violates : Violates v .kind i) : ¬ Violates v .kindText j := by
  intro blank
  cases violates with
  | kind lacks =>
    cases blank with
    | inner _ violates => cases violates
    | kindText held => exact lacks.typeName_ne held rfl
  | inner _ violates => cases violates

theorem paths_nodup (distinct : TextsDistinct v) : ((noted v).map (fun n => n.2.path)).Nodup := by
  -- Two constraints about one field could only be those on the kind, not both of which are violated.
  have apart := (constraints_apart distinct).sublist (fst_noted v)
  rw [List.pairwise_map] at apart
  rw [List.Nodup, List.pairwise_map]
  refine apart.imp_of_mem ?_
  intro p q first second apart same
  have violates : Violates v p.1 p.2 := mem_noted.mp first
  have violates' : Violates v q.1 q.2 := mem_noted.mp second
  rw [violates.path, violates'.path] at same
  obtain ⟨kind, text⟩ := apart same
  rw [kind] at violates
  rw [text] at violates'
  exact violates.not_kindText violates'

theorem textsDistinct_of_sortKeys (sorted : v.sortKeys = v) : TextsDistinct v := by
  intro key _
  have inner : (metadataOf v).sortKeys = metadataOf v := by
    unfold metadataOf
    cases held : v.field? "metadata" with
    | none => rfl
    | some m => exact Value.sortKeys_of_field? sorted held
  unfold entriesUnder
  cases held : (metadataOf v).field? key with
  | none => exact List.nodup_nil
  | some w =>
    have ordered : w.sortKeys = w := Value.sortKeys_of_field? inner held
    cases w with
    | object fields =>
      have same : Value.sortFields fields = fields := Value.object.inj ordered
      have keys : Value.InOrder fields := same ▸ Value.inOrder_sortFields fields
      exact keys.nodup_keys
    | _ => exact List.nodup_nil

/-- A value that is no object has that as its only issue. The issues of an object are all its
    violations, in the order of the constraints and each at a path of its own; and it is read
    as a resource, which then holds what the object does, exactly when there are none. -/
theorem violations_reported_in_order (v : Value) :
    (v.isObject = false → ofValue v = .error ⟨[.mismatch "" "object" v]⟩) ∧
    (v.isObject = true →
      ∃ found : List (Constraint × FieldIssue),
        (found.map Prod.fst).Sublist (constraints v) ∧
        (∀ c i, (c, i) ∈ found ↔ Violates v c i) ∧
        (TextsDistinct v → (found.map (fun n => n.2.path)).Nodup) ∧
        (∀ e, ofValue v = .error e ↔ found ≠ [] ∧ e.issues = found.map Prod.snd) ∧
        ((∃ r, ofValue v = .ok r) ↔ found = [])) ∧
    ∀ r, ofValue v = .ok r → Reads v r := by
  refine ⟨?_, ?_, ?_⟩
  · intro other
    rw [ofValue, other, if_neg Bool.false_ne_true]
  · intro object
    refine ⟨noted v, fst_noted v, fun c i => mem_noted, paths_nodup, ?_, ?_⟩
    · intro e
      rw [ofValue, if_pos object, Checked.finish_eq_error_iff, ← snd_noted, Ne, List.map_eq_nil_iff]
    · rw [ofValue, if_pos object]
      simp only [Checked.finish_eq_ok_iff, exists_and_left, exists_eq', and_true, ← snd_noted, List.map_eq_nil_iff]
  · intro r read
    exact (ofValue_eq_ok_iff.mp read).1

end

/-- A deployment with a violation in every part. -/
def flawedDeployment : Value :=
  .object
    [("apiVersion", .number (.int 1)), ("kind", .string " "),
      ("metadata", .object [("labels", .object [("app", .null), ("team", .string "core"), ("tier", .bool true)])]),
      ("spec", .string "none")]

/-- All violations are reported, those of the labels one by one, and the blank kind last. -/
theorem violations_reported_in_order_flawed :
    ∃ e, ofValue flawedDeployment = .error e ∧
      e.paths = ["apiVersion", "metadata.name", "metadata.labels.app", "metadata.labels.tier", "spec", "kind"] ∧
      e.paths.Nodup := by
  obtain ⟨_, reported, _⟩ := violations_reported_in_order flawedDeployment
  obtain ⟨found, _, _, once, refused, _⟩ := reported rfl
  refine ⟨_, rfl, rfl, ?_⟩
  obtain ⟨_, issues⟩ := (refused _).mp rfl
  have distinct : TextsDistinct flawedDeployment := textsDistinct_of_sortKeys rfl
  rw [ValidationError.paths, issues, List.map_map]
  exact once distinct

end Resource

end InfraAudit.Cluster
