import InfraAudit.Validation

/-!
What checks accept, what they read and which issues they find: for each way of checking
a field, the fields in which it finds no issue (`issues_requireStr` and its like), what it
reads from them (`requireStr_of_field?` and its like), and the issues that it finds in
the others (`mem_issues_requireStr` and its like). A check is clean when it finds no
issue; a series of checks is clean when each of them is (`Checked.bind_eq_clean_iff`).
The paths of the items of a list are told apart by their index
(`FieldPath.item_append_inj`).
-/
namespace InfraAudit

theorem exists_getElem?_cons {α : Type} {p : Nat → α → Prop} (a : α) (rest : List α) :
    (∃ n b, (a :: rest)[n]? = some b ∧ p n b) ↔ p 0 a ∨ ∃ n b, rest[n]? = some b ∧ p (n + 1) b := by
  constructor
  · rintro ⟨n, b, found, holds⟩
    cases n with
    | zero =>
      cases found
      exact .inl holds
    | succ n => exact .inr ⟨n, b, found, holds⟩
  · rintro (holds | ⟨n, b, found, holds⟩)
    · exact ⟨0, a, rfl, holds⟩
    · exact ⟨n + 1, b, found, holds⟩

namespace Checked

variable {α β : Type}

theorem finish_eq_ok_iff (x : Checked α) (a : α) : x.finish = .ok a ↔ x.issues = [] ∧ x.value = a := by
  unfold finish
  cases x.issues with
  | nil => exact ⟨fun same => ⟨rfl, Except.ok.inj same⟩, fun both => congrArg Except.ok both.2⟩
  | cons i is => exact iff_of_false (by rintro ⟨⟩) (by rintro ⟨⟨⟩, _⟩)

theorem finish_eq_error_iff (x : Checked α) (e : ValidationError) :
    x.finish = .error e ↔ x.issues ≠ [] ∧ e.issues = x.issues := by
  unfold finish
  cases x.issues with
  | nil => exact iff_of_false (by rintro ⟨⟩) (fun both => both.1 rfl)
  | cons i is =>
    constructor
    · rintro ⟨⟩
      exact ⟨List.cons_ne_nil i is, rfl⟩
    · rintro ⟨_, same⟩
      exact congrArg Except.error (congrArg ValidationError.mk same.symm)

/-- A refused document comes with at least one issue. -/
theorem issues_ne_nil_of_finish {x : Checked α} {e : ValidationError} (refused : x.finish = .error e) :
    e.issues ≠ [] := by
  obtain ⟨found, same⟩ := (finish_eq_error_iff x e).mp refused
  exact same ▸ found

theorem issues_require (condition : Bool) (i : FieldIssue) :
    (require condition i).issues = [] ↔ condition = true := by
  cases condition with
  | true => exact iff_of_true rfl rfl
  | false => exact iff_of_false (List.cons_ne_nil _ _) Bool.false_ne_true

theorem issues_ifRead (x : Checked (Option α)) (next : α → Checked (Option β)) :
    (x.ifRead next).issues = [] ↔ x.issues = [] ∧ ∀ a, x.value = some a → (next a).issues = [] := by
  rw [ifRead, issues_bind, List.append_eq_nil_iff]
  cases x.value with
  | none => exact and_congr_right' (iff_of_true rfl (by rintro a ⟨⟩))
  | some a => exact and_congr_right' ⟨fun clean b same => Option.some.inj same ▸ clean, fun all => all a rfl⟩

theorem value_ifRead (x : Checked (Option α)) (next : α → Checked (Option β)) :
    (x.ifRead next).value = x.value.bind (fun a => (next a).value) := by
  rw [ifRead, value_bind]
  cases x.value <;> rfl

/-! ### Clean checks -/

theorem bind_eq_clean_iff {x : Checked α} {next : α → Checked β} {b : β} :
    x >>= next = ⟨b, []⟩ ↔ ∃ a, x = ⟨a, []⟩ ∧ next a = ⟨b, []⟩ := by
  constructor
  · intro clean
    obtain ⟨value, issues⟩ := Checked.ext_iff.mp clean
    obtain ⟨before, after⟩ := List.append_eq_nil_iff.mp ((issues_bind x next).symm.trans issues)
    exact ⟨x.value, Checked.ext rfl before, Checked.ext ((value_bind x next).symm.trans value) after⟩
  · rintro ⟨a, rfl, clean⟩
    exact clean

theorem pure_eq_clean_iff {a b : α} : (pure a : Checked α) = ⟨b, []⟩ ↔ a = b := by
  constructor
  · exact congrArg Checked.value
  · rintro rfl
    rfl

theorem finish_eq_ok_iff_clean {x : Checked α} {a : α} : x.finish = .ok a ↔ x = ⟨a, []⟩ := by
  rw [finish_eq_ok_iff]
  constructor
  · rintro ⟨issues, value⟩
    exact Checked.ext value issues
  · rintro rfl
    exact ⟨rfl, rfl⟩

/-! ### Items -/

/-- The items of a list have no issues when none has, for a check that accepts the
    same items in all places. -/
theorem issues_forItems {check : Nat → α → Checked β} {ok : α → Prop}
    (each : ∀ i a, (check i a).issues = [] ↔ ok a) (start : Nat) (as : List α) :
    (forItems check start as).issues = [] ↔ ∀ a ∈ as, ok a := by
  induction as generalizing start with
  | nil => exact iff_of_true rfl (fun a member => absurd member List.not_mem_nil)
  | cons a rest ih =>
    rw [forItems, issues_bind, issues_bind, issues_pure, List.append_nil, List.append_eq_nil_iff, each, ih,
      List.forall_mem_cons]

/-! ### Issues that are found -/

theorem mem_issues_require (condition : Bool) (i j : FieldIssue) :
    i ∈ (require condition j).issues ↔ condition = false ∧ i = j := by
  cases condition <;> simp [require]

/-- The issues of the items of a list, for a check that is the same in all places. -/
theorem issues_forItems_eq (check : α → Checked β) (start : Nat) (as : List α) :
    (forItems (fun _ => check) start as).issues = as.flatMap (fun a => (check a).issues) := by
  induction as generalizing start with
  | nil => rfl
  | cons a rest ih =>
    rw [forItems, issues_bind, issues_bind, issues_pure, List.append_nil, ih, List.flatMap_cons]

theorem mem_issues_ifRead (x : Checked (Option α)) (next : α → Checked (Option β)) (i : FieldIssue) :
    i ∈ (x.ifRead next).issues ↔ i ∈ x.issues ∨ ∃ a, x.value = some a ∧ i ∈ (next a).issues := by
  rw [ifRead, issues_bind, List.mem_append]
  cases x.value with
  | none => simp
  | some a => simp

/-- The issues of the items of a list are those of each, checked in its place. -/
theorem mem_issues_forItems (check : Nat → α → Checked β) (start : Nat) (as : List α) (i : FieldIssue) :
    i ∈ (forItems check start as).issues ↔ ∃ n a, as[n]? = some a ∧ i ∈ (check (start + n) a).issues := by
  induction as generalizing start with
  | nil => simp [forItems]
  | cons a rest ih =>
    rw [exists_getElem?_cons, forItems, issues_bind, issues_bind, issues_pure, List.append_nil, List.mem_append, ih]
    simp only [Nat.add_zero, Nat.add_assoc, Nat.add_comm 1]

end Checked

namespace Value

/-! ### Fields -/

/-- A field that holds a string. -/
def HasString (v : Value) (key : String) : Prop := ∃ s, v.field? key = some (.string s)

/-- A field that is missing or null. -/
def Unset (v : Value) (key : String) : Prop := v.field? key = none ∨ v.field? key = some .null

/-- A field that is missing, null or a string. -/
def MaybeString (v : Value) (key : String) : Prop := v.Unset key ∨ v.HasString key

/-- A field that is missing, null or an object. -/
def MaybeObject (v : Value) (key : String) : Prop :=
  v.Unset key ∨ ∃ fields, v.field? key = some (.object fields)

theorem unset_iff_present? (v : Value) (key : String) : v.Unset key ↔ v.present? key = none := by
  unfold Unset present?
  cases v.field? key with
  | none => simp
  | some w => cases w <;> simp [isNull]

theorem present?_of_field? {v w : Value} {key : String} (held : v.field? key = some w)
    (proper : w.isNull = false) : v.present? key = some w := by
  rw [present?, held, Option.filter_some, proper]
  rfl

theorem fieldStr?_eq_some_iff {v : Value} {key s : String} :
    v.fieldStr? key = some s ↔ v.field? key = some (.string s) := by
  unfold fieldStr?
  cases v.field? key with
  | none => simp
  | some w => cases w <;> simp [str?]

theorem fieldArray?_eq_some_iff {v : Value} {key : String} {items : List Value} :
    v.fieldArray? key = some items ↔ v.field? key = some (.array items) := by
  unfold fieldArray?
  cases v.field? key with
  | none => simp
  | some w => cases w <;> simp [items?]

theorem entries_of_field? {v : Value} {key : String} {items : List Value}
    (held : v.field? key = some (.array items)) : v.entries key = items := by
  rw [entries, fieldArray?_eq_some_iff.mpr held, Option.getD_some]

theorem field?_of_entries {v : Value} {key : String} (nonempty : v.entries key ≠ []) :
    v.field? key = some (.array (v.entries key)) := by
  unfold entries at nonempty ⊢
  cases array : v.fieldArray? key with
  | none =>
    rw [array] at nonempty
    exact absurd rfl nonempty
  | some items => exact fieldArray?_eq_some_iff.mp array

theorem field?_of_getElem?_entries {v item : Value} {key : String} {n : Nat} (found : (v.entries key)[n]? = some item) :
    v.field? key = some (.array (v.entries key)) := by
  apply field?_of_entries
  intro empty
  rw [empty] at found
  cases found

theorem isObject_of_field? {v w : Value} {key : String} (held : v.field? key = some w) : v.isObject = true := by
  cases v with
  | object fields => rfl
  | _ => cases held

/-! ### Fields that are read -/

theorem value_requireStr (v : Value) (key parent : String) : (v.requireStr key parent).value = v.fieldStr? key := by
  unfold requireStr fieldStr?
  cases v.field? key with
  | none => rfl
  | some w => cases w <;> rfl

theorem value_requireArray (v : Value) (key parent : String) :
    (v.requireArray key parent).value = v.fieldArray? key := by
  unfold requireArray fieldArray?
  cases v.field? key with
  | none => rfl
  | some w => cases w <;> rfl

theorem getD_requireArray (v : Value) (key parent : String) :
    (v.requireArray key parent).value.getD [] = v.entries key :=
  congrArg (Option.getD · []) (value_requireArray v key parent)

theorem value_requireObject (v : Value) (key parent : String) :
    (v.requireObject key parent).value = (v.field? key).filter isObject := by
  unfold requireObject
  cases v.field? key with
  | none => rfl
  | some w => cases w <;> rfl

theorem value_optionalObject (v : Value) (key parent : String) :
    (v.optionalObject key parent).value = (v.field? key).bind fields? := by
  unfold optionalObject
  cases v.field? key with
  | none => rfl
  | some w => cases w <;> rfl

theorem value_optionalObject_eq_some_iff {v : Value} {key parent : String} {fields : Fields} :
    (v.optionalObject key parent).value = some fields ↔ v.field? key = some (.object fields) := by
  unfold optionalObject
  cases v.field? key with
  | none => simp
  | some w => cases w <;> simp [Checked.issue]

section

variable {v : Value} {key : String} (parent : String)

theorem requireStr_of_field? {s : String} (held : v.field? key = some (.string s)) :
    v.requireStr key parent = ⟨some s, []⟩ := by
  rw [requireStr, held]
  rfl

theorem requireArray_of_field? {items : List Value} (held : v.field? key = some (.array items)) :
    v.requireArray key parent = ⟨some items, []⟩ := by
  rw [requireArray, held]
  rfl

theorem requireObject_of_field? {w : Value} (held : v.field? key = some w) (object : w.isObject = true) :
    v.requireObject key parent = ⟨some w, []⟩ := by
  cases w with
  | object fields =>
    rw [requireObject, held]
    rfl
  | _ => cases object

theorem optionalObject_of_unset (unset : v.Unset key) : v.optionalObject key parent = ⟨none, []⟩ := by
  rcases unset with missing | null
  · rw [optionalObject, missing]
    rfl
  · rw [optionalObject, null]
    rfl

theorem optionalObject_of_field? {fields : Fields} (held : v.field? key = some (.object fields)) :
    v.optionalObject key parent = ⟨some fields, []⟩ := by
  rw [optionalObject, held]
  rfl

end

/-! ### Fields without an issue -/

theorem issues_requireStr (v : Value) (key parent : String) :
    (v.requireStr key parent).issues = [] ↔ v.HasString key := by
  unfold requireStr HasString
  cases held : v.field? key with
  | none => simp [Checked.issue]
  | some w => cases w <;> simp [Checked.issue]

theorem issues_optionalStr (v : Value) (key parent : String) :
    (v.optionalStr key parent).issues = [] ↔ v.MaybeString key := by
  unfold optionalStr MaybeString Unset HasString
  cases held : v.field? key with
  | none => simp
  | some w => cases w <;> simp [Checked.issue]

theorem issues_requireArray (v : Value) (key parent : String) :
    (v.requireArray key parent).issues = [] ↔ ∃ items, v.field? key = some (.array items) := by
  unfold requireArray
  cases held : v.field? key with
  | none => simp [Checked.issue]
  | some w => cases w <;> simp [Checked.issue]

theorem issues_requireObject (v : Value) (key parent : String) :
    (v.requireObject key parent).issues = [] ↔ ∃ w, v.field? key = some w ∧ w.isObject = true := by
  unfold requireObject
  cases held : v.field? key with
  | none => simp [Checked.issue]
  | some w => cases w <;> simp [Checked.issue, isObject]

theorem issues_optionalObject (v : Value) (key parent : String) :
    (v.optionalObject key parent).issues = [] ↔ v.MaybeObject key := by
  unfold optionalObject MaybeObject Unset
  cases held : v.field? key with
  | none => simp
  | some w => cases w <;> simp [Checked.issue]

/-! ### Fields have one issue at most -/

section

variable (v : Value) (key parent : String)

theorem length_issues_requireStr : (v.requireStr key parent).issues.length ≤ 1 := by
  unfold requireStr
  split <;> simp [Checked.issue]

theorem length_issues_optionalStr : (v.optionalStr key parent).issues.length ≤ 1 := by
  unfold optionalStr
  split <;> simp [Checked.issue]

theorem length_issues_requireObject : (v.requireObject key parent).issues.length ≤ 1 := by
  unfold requireObject
  split <;> simp [Checked.issue]

theorem length_issues_optionalObject : (v.optionalObject key parent).issues.length ≤ 1 := by
  unfold optionalObject
  split <;> simp [Checked.issue]

theorem length_issues_stringEntry (entry : String × Value) : (stringEntry parent entry).issues.length ≤ 1 := by
  unfold stringEntry
  split <;> simp [Checked.issue]

end

/-! ### Fields that are read without an issue -/

section

variable {v : Value} {key parent : String}

theorem requireStr_eq_clean_iff {a : Option String} :
    v.requireStr key parent = ⟨a, []⟩ ↔ ∃ s, v.field? key = some (.string s) ∧ a = some s := by
  constructor
  · intro clean
    obtain ⟨s, held⟩ := (issues_requireStr v key parent).mp (congrArg Checked.issues clean)
    rw [requireStr_of_field? parent held] at clean
    exact ⟨s, held, (congrArg Checked.value clean).symm⟩
  · rintro ⟨s, held, rfl⟩
    exact requireStr_of_field? parent held

theorem requireObject_eq_clean_iff {a : Option Value} :
    v.requireObject key parent = ⟨a, []⟩ ↔ ∃ w, v.field? key = some w ∧ w.isObject = true ∧ a = some w := by
  constructor
  · intro clean
    obtain ⟨w, held, object⟩ := (issues_requireObject v key parent).mp (congrArg Checked.issues clean)
    rw [requireObject_of_field? parent held object] at clean
    exact ⟨w, held, object, (congrArg Checked.value clean).symm⟩
  · rintro ⟨w, held, object, rfl⟩
    exact requireObject_of_field? parent held object

theorem optionalStr_eq_clean_iff {s : Option String} :
    v.optionalStr key parent = ⟨s, []⟩ ↔ v.present? key = s.map Value.string := by
  unfold optionalStr present?
  cases v.field? key with
  | none => cases s <;> simp [pure]
  | some w => cases w <;> cases s <;> simp [Checked.issue, isNull, pure]

theorem optionalObject_eq_clean_iff {fields : Option Fields} :
    v.optionalObject key parent = ⟨fields, []⟩ ↔ v.present? key = fields.map Value.object := by
  unfold optionalObject present?
  cases v.field? key with
  | none => cases fields <;> simp [pure]
  | some w => cases w <;> cases fields <;> simp [Checked.issue, isNull, pure]

theorem optionalStr_of_maybe (parent : String) (maybe : v.MaybeString key) :
    ∃ s : Option String, v.optionalStr key parent = ⟨s, []⟩ ∧ v.present? key = s.map Value.string := by
  have clean : v.optionalStr key parent = ⟨(v.optionalStr key parent).value, []⟩ :=
    Checked.ext rfl ((issues_optionalStr v key parent).mpr maybe)
  exact ⟨_, clean, optionalStr_eq_clean_iff.mp clean⟩

theorem optionalObject_of_maybe (parent : String) (maybe : v.MaybeObject key) :
    ∃ fields : Option Fields, v.optionalObject key parent = ⟨fields, []⟩ ∧
      v.present? key = fields.map Value.object := by
  have clean : v.optionalObject key parent = ⟨(v.optionalObject key parent).value, []⟩ :=
    Checked.ext rfl ((issues_optionalObject v key parent).mpr maybe)
  exact ⟨_, clean, optionalObject_eq_clean_iff.mp clean⟩

theorem maybeString_of_present? {s : Option String} (present : v.present? key = s.map Value.string) :
    v.MaybeString key := by
  rw [← issues_optionalStr v key "", optionalStr_eq_clean_iff.mpr present]

theorem maybeObject_of_present? {fields : Option Fields} (present : v.present? key = fields.map Value.object) :
    v.MaybeObject key := by
  rw [← issues_optionalObject v key "", optionalObject_eq_clean_iff.mpr present]

end

/-! ### Fields with an issue -/

/-- An issue about a field that a value is to hold with a type: the field is missing, or
    its value is of another type. -/
inductive Lacks (v : Value) (type key parent : String) : FieldIssue → Prop
  | missing (absent : v.field? key = none) : Lacks v type key parent ⟨FieldPath.field parent key, "required"⟩
  | mistyped {w : Value} (held : v.field? key = some w) (other : w.typeName ≠ type) :
    Lacks v type key parent (.mismatch (FieldPath.field parent key) type w)

/-- An issue about a field that may be unset: its value is neither null nor of a type. -/
inductive Mistypes (v : Value) (type key parent : String) : FieldIssue → Prop
  | mistyped {w : Value} (held : v.field? key = some w) (proper : w.isNull = false) (other : w.typeName ≠ type) :
    Mistypes v type key parent (.mismatch (FieldPath.field parent key) type w)

section

variable {v w : Value} {type key parent : String} {i : FieldIssue}

theorem lacks_of_absent (absent : v.field? key = none) :
    v.Lacks type key parent i ↔ i = ⟨FieldPath.field parent key, "required"⟩ := by
  constructor
  · rintro (_ | ⟨held, _⟩)
    · rfl
    · rw [absent] at held
      cases held
  · rintro rfl
    exact .missing absent

theorem lacks_of_held (held : v.field? key = some w) :
    v.Lacks type key parent i ↔ w.typeName ≠ type ∧ i = .mismatch (FieldPath.field parent key) type w := by
  constructor
  · rintro (absent | ⟨held', other⟩)
    · rw [absent] at held
      cases held
    · rw [held] at held'
      cases held'
      exact ⟨other, rfl⟩
  · rintro ⟨other, rfl⟩
    exact .mistyped held other

theorem not_mistypes_of_absent (absent : v.field? key = none) : ¬ v.Mistypes type key parent i := by
  rintro ⟨held, _, _⟩
  rw [absent] at held
  cases held

theorem mistypes_of_held (held : v.field? key = some w) :
    v.Mistypes type key parent i ↔
      w.isNull = false ∧ w.typeName ≠ type ∧ i = .mismatch (FieldPath.field parent key) type w := by
  constructor
  · rintro ⟨held', proper, other⟩
    rw [held] at held'
    cases held'
    exact ⟨proper, other, rfl⟩
  · rintro ⟨proper, other, rfl⟩
    exact .mistyped held proper other

theorem mem_issues_requireStr : i ∈ (v.requireStr key parent).issues ↔ v.Lacks "string" key parent i := by
  unfold requireStr
  cases held : v.field? key with
  | none => simp [lacks_of_absent held, Checked.issue]
  | some w => cases w <;> simp [lacks_of_held held, Checked.issue, typeName]

theorem mem_issues_requireArray : i ∈ (v.requireArray key parent).issues ↔ v.Lacks "array" key parent i := by
  unfold requireArray
  cases held : v.field? key with
  | none => simp [lacks_of_absent held, Checked.issue]
  | some w => cases w <;> simp [lacks_of_held held, Checked.issue, typeName]

theorem mem_issues_requireObject : i ∈ (v.requireObject key parent).issues ↔ v.Lacks "object" key parent i := by
  unfold requireObject
  cases held : v.field? key with
  | none => simp [lacks_of_absent held, Checked.issue]
  | some w => cases w <;> simp [lacks_of_held held, Checked.issue, typeName]

theorem mem_issues_optionalStr : i ∈ (v.optionalStr key parent).issues ↔ v.Mistypes "string" key parent i := by
  unfold optionalStr
  cases held : v.field? key with
  | none => simp [not_mistypes_of_absent held]
  | some w => cases w <;> simp [mistypes_of_held held, Checked.issue, typeName, isNull]

theorem mem_issues_optionalObject :
    i ∈ (v.optionalObject key parent).issues ↔ v.Mistypes "object" key parent i := by
  unfold optionalObject
  cases held : v.field? key with
  | none => simp [not_mistypes_of_absent held]
  | some w => cases w <;> simp [mistypes_of_held held, Checked.issue, typeName, isNull]

theorem Lacks.path (lacks : v.Lacks type key parent i) : i.path = FieldPath.field parent key := by
  cases lacks <;> rfl

theorem Mistypes.path (mistypes : v.Mistypes type key parent i) : i.path = FieldPath.field parent key := by
  cases mistypes
  rfl

theorem Lacks.typeName_ne (lacks : v.Lacks type key parent i) (held : v.field? key = some w) : w.typeName ≠ type :=
  ((lacks_of_held held).mp lacks).1

theorem Mistypes.not_unset (mistypes : v.Mistypes type key parent i) : ¬ v.Unset key := by
  rintro (absent | null)
  · exact not_mistypes_of_absent absent mistypes
  · exact Bool.noConfusion ((mistypes_of_held null).mp mistypes).1

theorem Mistypes.typeName_ne (mistypes : v.Mistypes type key parent i) (held : v.field? key = some w) :
    w.typeName ≠ type :=
  ((mistypes_of_held held).mp mistypes).2.1

theorem Lacks.not_hasString (lacks : v.Lacks "string" key parent i) : ¬ v.HasString key := by
  rintro ⟨s, held⟩
  exact lacks.typeName_ne held rfl

theorem Mistypes.not_maybeString (mistypes : v.Mistypes "string" key parent i) : ¬ v.MaybeString key := by
  rintro (unset | ⟨s, held⟩)
  · exact mistypes.not_unset unset
  · exact mistypes.typeName_ne held rfl

theorem Mistypes.not_maybeObject (mistypes : v.Mistypes "object" key parent i) : ¬ v.MaybeObject key := by
  rintro (unset | ⟨fields, held⟩)
  · exact mistypes.not_unset unset
  · exact mistypes.typeName_ne held rfl

end

end Value

/-! ### Paths -/

namespace FieldPath

theorem field_inj {parent a b : String} : field parent a = field parent b ↔ a = b := by
  unfold field
  split
  · rfl
  · exact String.append_right_inj _

theorem field_field (parent : String) {key : String} (named : key ≠ "") (inner : String) :
    field (field parent key) inner = field parent (field key inner) := by
  have inside : key.isEmpty = false := by simpa [String.isEmpty_iff] using named
  unfold field
  by_cases top : parent.isEmpty
  · rw [if_pos top, if_pos top]
  · simp [top, inside, String.append_assoc]

theorem item_field (parent key : String) (n : Nat) : item (field parent key) n = field parent (item key n) := by
  unfold item field
  split
  · rfl
  · simp [String.append_assoc]

/-- The path of a field of an item starts with the path of the item. -/
theorem field_item (parent key : String) (n : Nat) : field (item parent n) key = item parent n ++ ("." ++ key) := by
  have inside : (item parent n).isEmpty = false := by simp [item]
  rw [field, inside, if_neg Bool.false_ne_true, String.append_assoc]

theorem closing_notMem_digits (n : Nat) : ']' ∉ (toString n).toList := by
  intro member
  rw [Nat.toString_eq_ofList_toDigits, String.toList_ofList] at member
  exact absurd (Nat.isDigit_of_mem_toDigits (by decide) (by decide) member) (by decide)

theorem append_cons_inj {c : Char} {a b s t : List Char} (first : c ∉ a) (second : c ∉ b)
    (same : a ++ c :: s = b ++ c :: t) : a = b ∧ s = t := by
  rcases List.append_eq_append_iff.mp same with ⟨more, rfl, rest⟩ | ⟨more, rfl, rest⟩
  · cases more with
    | nil => exact ⟨(List.append_nil a).symm, (List.cons.inj rest).2⟩
    | cons d more =>
      cases rest
      simp at second
  · cases more with
    | nil => exact ⟨List.append_nil b, (List.cons.inj rest).2.symm⟩
    | cons d more =>
      cases rest
      simp at first

/-- Below the items of a list, a path tells the index of the item and what follows it. -/
theorem item_append_inj {parent s t : String} {m n : Nat} :
    item parent m ++ s = item parent n ++ t ↔ m = n ∧ s = t := by
  constructor
  · intro same
    have chars : (toString m).toList ++ ']' :: s.toList = (toString n).toList ++ ']' :: t.toList := by
      simpa [item] using congrArg String.toList same
    obtain ⟨digits, rest⟩ := append_cons_inj (closing_notMem_digits m) (closing_notMem_digits n) chars
    have number := congrArg (fun ds => Nat.ofDigitChars 10 ds 0) digits
    exact ⟨by simpa [Nat.toString_eq_ofList_toDigits] using number, String.toList_inj.mp rest⟩
  · rintro ⟨rfl, rfl⟩
    rfl

theorem field_item_inj {parent a b : String} {m n : Nat} :
    field (item parent m) a = field (item parent n) b ↔ m = n ∧ a = b := by
  rw [field_item, field_item, item_append_inj, String.append_right_inj]

theorem item_ne_field (parent key : String) (m n : Nat) : item parent m ≠ field (item parent n) key := by
  intro same
  rw [field_item, ← String.append_empty (s := item parent m), item_append_inj] at same
  simpa using congrArg String.toList same.2

end FieldPath

end InfraAudit
