import InfraAudit.Rule.Engine
import Mathlib.Data.List.Induction
import Mathlib.Data.List.Nodup

/-!
Engines after arbitrary histories of registrations. The slots and the index of an
engine stay in step with the log of the rules that were registered (`InStep`), so
that an engine which started empty is a map ordered by first insertion: a rule
stands where its id was registered first, and is the one registered last under it.
-/
namespace InfraAudit

/-- A rule that can be registered: its id is not blank and it names a type. -/
def Rule.Registrable (r : Rule) : Prop :=
  (∃ c ∈ r.id.toList, Text.isBlank c = false) ∧ r.info.resourceTypes ≠ []

instance (r : Rule) : Decidable r.Registrable := inferInstanceAs (Decidable (_ ∧ _))

namespace RuleEngine

/-! ### Logs of registrations -/

/-- The ids of a log, each at the place of its first registration. -/
def firstIds (log : List Rule) : List String := (log.map Rule.id).eraseDups

/-- The rule that a log registers last under an id. -/
def latest? (log : List Rule) (id : String) : Option Rule := log.reverse.find? (·.id == id)

/-- The rules that a log leaves behind, in the order of the first registrations. -/
def standing (log : List Rule) : List Rule := (firstIds log).filterMap (latest? log)

theorem firstIds_concat (log : List Rule) (r : Rule) :
    firstIds (log ++ [r]) =
      if r.id ∈ log.map Rule.id then firstIds log else firstIds log ++ [r.id] := by
  simp only [firstIds, List.map_append, List.map_cons, List.map_nil, List.eraseDups_append,
    List.removeAll]
  by_cases known : r.id ∈ log.map Rule.id
  · simp only [known, List.elem_eq_contains, List.contains_eq_mem, List.filter_cons, List.filter_nil,
      decide_true, Bool.not_true, Bool.false_eq_true, ↓reduceIte, List.eraseDups_nil, List.append_nil]
  · simp only [known, List.elem_eq_contains, List.contains_eq_mem, List.filter_cons, List.filter_nil,
      decide_false, Bool.not_false, ↓reduceIte, List.eraseDups_cons, List.eraseDups_nil]

theorem mem_firstIds (log : List Rule) (id : String) : id ∈ firstIds log ↔ id ∈ log.map Rule.id := by
  induction log using List.reverseRecOn with
  | nil => rfl
  | append_singleton log r ih =>
    rw [firstIds_concat]
    by_cases known : r.id ∈ log.map Rule.id
    · rw [if_pos known, ih, List.map_append, List.mem_append]
      constructor
      · exact .inl
      · rintro (old | new)
        · exact old
        · have same : id = r.id := by simpa using new
          exact same ▸ known
    · rw [if_neg known, List.map_append, List.mem_append, List.mem_append, ih]
      simp

theorem firstIds_nodup (log : List Rule) : (firstIds log).Nodup := by
  induction log using List.reverseRecOn with
  | nil => exact List.nodup_nil
  | append_singleton log r ih =>
    rw [firstIds_concat]
    by_cases known : r.id ∈ log.map Rule.id
    · rw [if_pos known]
      exact ih
    · rw [if_neg known]
      refine List.nodup_append.mpr ⟨ih, List.nodup_singleton _, ?_⟩
      intro a member b single same
      have last : b = r.id := List.mem_singleton.mp single
      exact known ((mem_firstIds log r.id).mp (last ▸ same ▸ member))

theorem latest?_concat (log : List Rule) (r : Rule) (id : String) :
    latest? (log ++ [r]) id = if r.id = id then some r else latest? log id := by
  simp only [latest?, List.reverse_append, List.reverse_cons, List.reverse_nil, List.nil_append,
    List.singleton_append, List.find?_cons]
  by_cases same : r.id = id
  · simp [same]
  · have differ : (r.id == id) = false := beq_eq_false_iff_ne.mpr same
    rw [if_neg same, differ]

theorem latest?_eq_none_iff (log : List Rule) (id : String) :
    latest? log id = none ↔ id ∉ log.map Rule.id := by
  simp only [latest?, List.find?_eq_none, List.mem_reverse, beq_iff_eq, List.mem_map, not_exists,
    not_and]

theorem id_of_latest? {log : List Rule} {id : String} {r : Rule} (found : latest? log id = some r) :
    r.id = id := by
  simpa using List.find?_some found

theorem mem_of_latest? {log : List Rule} {id : String} {r : Rule} (found : latest? log id = some r) :
    r ∈ log :=
  List.mem_reverse.mp (List.mem_of_find?_eq_some found)

/-- Where every item has an image, filtering and mapping keeps all places. -/
private theorem getElem?_filterMap_of_isSome {α β : Type} (f : α → Option β) :
    ∀ (as : List α), (∀ a ∈ as, (f a).isSome) → ∀ i : Nat, (as.filterMap f)[i]? = as[i]?.bind f
  | [], _, i => by simp
  | a :: as, all, i => by
    obtain ⟨b, image⟩ := Option.isSome_iff_exists.mp (all a List.mem_cons_self)
    rw [List.filterMap_cons_some image]
    cases i with
    | zero => simp [image]
    | succ i =>
      rw [List.getElem?_cons_succ, List.getElem?_cons_succ]
      exact getElem?_filterMap_of_isSome f as (fun a member => all a (List.mem_cons_of_mem _ member)) i

theorem getElem?_standing (log : List Rule) (i : Nat) :
    (standing log)[i]? = (firstIds log)[i]?.bind (latest? log) := by
  apply getElem?_filterMap_of_isSome
  intro id member
  rw [Option.isSome_iff_ne_none]
  intro none
  exact (latest?_eq_none_iff log id).mp none ((mem_firstIds log id).mp member)

theorem map_id_standing (log : List Rule) : (standing log).map Rule.id = firstIds log := by
  apply List.ext_getElem?
  intro i
  rw [List.getElem?_map, getElem?_standing]
  cases place : (firstIds log)[i]? with
  | none => rfl
  | some id =>
    have member : id ∈ firstIds log := List.mem_of_getElem? place
    cases found : latest? log id with
    | none => exact absurd ((mem_firstIds log id).mp member) ((latest?_eq_none_iff log id).mp found)
    | some r => simp [found, id_of_latest? found]

/-! ### One registration -/

theorem refusal?_eq_none_iff (r : Rule) : refusal? r = none ↔ r.Registrable := by
  have blank : Text.isBlankText r.id = false ↔ ∃ c ∈ r.id.toList, Text.isBlank c = false := by
    simp [Text.isBlankText, List.all_eq_false]
  rw [Rule.Registrable, ← blank, refusal?]
  cases Text.isBlankText r.id with
  | true => simp
  | false => cases r.info.resourceTypes <;> simp

theorem register_of_registrable (e : RuleEngine) {r : Rule} (ok : r.Registrable) :
    e.register r = (e.insert r, none) := by
  simp only [register, (refusal?_eq_none_iff r).mpr ok]

theorem register_of_not_registrable (e : RuleEngine) {r : Rule} (refused : ¬ r.Registrable) :
    ∃ err, e.register r = (e, some err) := by
  cases reason : refusal? r with
  | none => exact absurd ((refusal?_eq_none_iff r).mp reason) refused
  | some err => exact ⟨err, by simp only [register, reason]⟩

/-- The slots of an engine are what a log leaves behind, and its index maps every id
    to the slot of its rule. -/
structure InStep (e : RuleEngine) (log : List Rule) : Prop where
  slots : e.rules.toList = standing log
  index_iff : ∀ (id : String) (slot : Nat), e.index[id]? = some slot ↔ (firstIds log)[slot]? = some id

theorem inStep_empty : InStep .empty [] where
  slots := rfl
  index_iff id slot := by simp [empty, firstIds]

theorem InStep.size {e : RuleEngine} {log : List Rule} (step : InStep e log) :
    e.rules.size = (firstIds log).length := by
  rw [← Array.length_toList, step.slots, ← map_id_standing, List.length_map]

theorem InStep.mem_index {e : RuleEngine} {log : List Rule} (step : InStep e log) (id : String) :
    id ∈ e.index ↔ id ∈ log.map Rule.id := by
  rw [← mem_firstIds, Std.HashMap.mem_iff_isSome_getElem?, Option.isSome_iff_exists,
    List.mem_iff_getElem?]
  exact exists_congr (fun slot => step.index_iff id slot)

/-- A rule under a known id takes the slot of that id, and nothing else changes. -/
theorem standing_concat_known {log : List Rule} {r : Rule} {slot : Nat}
    (place : (firstIds log)[slot]? = some r.id) : standing (log ++ [r]) = (standing log).set slot r := by
  have known : r.id ∈ log.map Rule.id := (mem_firstIds log r.id).mp (List.mem_of_getElem? place)
  apply List.ext_getElem?
  intro i
  rw [getElem?_standing, firstIds_concat, if_pos known, List.getElem?_set, getElem?_standing]
  by_cases here : slot = i
  · subst here
    have inside : slot < (standing log).length := by
      rw [← List.length_map Rule.id, map_id_standing]
      exact (List.getElem?_eq_some_iff.mp place).1
    simp only [place, Option.bind_some, latest?_concat, inside, ↓reduceIte]
  · rw [if_neg here]
    cases other : (firstIds log)[i]? with
    | none => rfl
    | some id =>
      -- The ids of a log are distinct, so another slot holds another id.
      have differ : r.id ≠ id := by
        intro same
        rw [same, ← other] at place
        exact here ((List.getElem?_inj (List.getElem?_eq_some_iff.mp other).1 (firstIds_nodup log)).mp
          place.symm).symm
      simp only [Option.bind_some, latest?_concat, differ, ↓reduceIte]

/-- A rule under a new id comes last. -/
theorem standing_concat_new {log : List Rule} {r : Rule} (new : r.id ∉ log.map Rule.id) :
    standing (log ++ [r]) = standing log ++ [r] := by
  have same : ∀ id ∈ firstIds log, latest? (log ++ [r]) id = latest? log id := by
    intro id member
    rw [latest?_concat, if_neg]
    rintro rfl
    exact new ((mem_firstIds log r.id).mp member)
  rw [standing, firstIds_concat, if_neg new, List.filterMap_append, List.filterMap_congr same]
  simp [standing, latest?_concat]

/-- What one registration preserves. -/
theorem InStep.insert {e : RuleEngine} {log : List Rule} (step : InStep e log) (r : Rule) :
    InStep (e.insert r) (log ++ [r]) := by
  unfold RuleEngine.insert
  cases found : e.index[r.id]? with
  | some slot =>
    have place : (firstIds log)[slot]? = some r.id := (step.index_iff r.id slot).mp found
    have known : r.id ∈ log.map Rule.id := (mem_firstIds log r.id).mp (List.mem_of_getElem? place)
    constructor
    · rw [standing_concat_known place, Array.toList_setIfInBounds, step.slots]
    · intro id other
      rw [firstIds_concat, if_pos known]
      exact step.index_iff id other
  | none =>
    have new : r.id ∉ log.map Rule.id := by
      rw [← step.mem_index, Std.HashMap.mem_iff_isSome_getElem?, found]
      exact Bool.false_ne_true
    constructor
    · rw [standing_concat_new new, Array.toList_push, step.slots]
    · intro id slot
      rw [Std.HashMap.getElem?_insert, firstIds_concat, if_neg new, List.getElem?_append, step.size]
      by_cases same : r.id = id
      · subst same
        -- The new id is in none of the old slots.
        have absent : ¬ (firstIds log)[slot]? = some r.id := fun place =>
          new ((mem_firstIds log r.id).mp (List.mem_of_getElem? place))
        simp only [beq_self_eq_true, ↓reduceIte, Option.some.injEq]
        by_cases inside : slot < (firstIds log).length
        · rw [if_pos inside]
          exact ⟨fun last => absurd last (by omega), fun place => absurd place absent⟩
        · rw [if_neg inside, List.getElem?_singleton]
          by_cases last : slot - (firstIds log).length = 0
          · simp only [last, ↓reduceIte, iff_true]
            omega
          · simp only [last, ↓reduceIte, reduceCtorEq, iff_false]
            omega
      · simp only [beq_eq_false_iff_ne.mpr same, Bool.false_eq_true, ↓reduceIte, step.index_iff]
        by_cases inside : slot < (firstIds log).length
        · rw [if_pos inside]
        · rw [if_neg inside, List.getElem?_eq_none (by omega), List.getElem?_singleton]
          split
          · simp [same]
          · rfl

/-! ### Histories -/

/-- A call that registers rules. -/
inductive Call where
  | register (r : Rule)
  | registerAll (rs : List Rule)

/-- The engine after a call, be it accepted or refused. -/
def apply (e : RuleEngine) : Call → RuleEngine
  | .register r => (e.register r).1
  | .registerAll rs => (e.registerAll rs).1

/-- The engine after some calls, from the empty one on. -/
def run (calls : List Call) : RuleEngine := calls.foldl apply .empty

theorem run_append (before after : List Call) :
    run (before ++ after) = after.foldl apply (run before) :=
  List.foldl_append

/-- The rules that a call registers: those before the first that cannot be. -/
def Call.registers : Call → List Rule
  | .register r => if r.Registrable then [r] else []
  | .registerAll rs => rs.takeWhile (fun r => r.Registrable)

/-- The successful registrations of some calls, in their order. -/
def registrations (calls : List Call) : List Rule := calls.flatMap Call.registers

theorem registerAll_fst (e : RuleEngine) (rs : List Rule) :
    (e.registerAll rs).1 = (rs.takeWhile (fun r => r.Registrable)).foldl insert e := by
  induction rs generalizing e with
  | nil => rfl
  | cons r rest ih =>
    by_cases ok : r.Registrable
    · simp only [registerAll, register_of_registrable e ok, ih, List.takeWhile_cons, ok, decide_true,
        ↓reduceIte, List.foldl_cons]
    · obtain ⟨err, refused⟩ := register_of_not_registrable e ok
      simp only [registerAll, refused, List.takeWhile_cons, ok, decide_false, Bool.false_eq_true,
        ↓reduceIte, List.foldl_nil]

theorem apply_eq (e : RuleEngine) (c : Call) : e.apply c = c.registers.foldl insert e := by
  cases c with
  | register r =>
    by_cases ok : r.Registrable
    · simp only [apply, Call.registers, register_of_registrable e ok, if_pos ok, List.foldl_cons,
        List.foldl_nil]
    · obtain ⟨err, refused⟩ := register_of_not_registrable e ok
      simp only [apply, Call.registers, refused, if_neg ok, List.foldl_nil]
  | registerAll rs => exact registerAll_fst e rs

theorem InStep.foldl_insert {e : RuleEngine} {log : List Rule} (step : InStep e log) (rs : List Rule) :
    InStep (rs.foldl RuleEngine.insert e) (log ++ rs) := by
  induction rs generalizing e log with
  | nil => simpa using step
  | cons r rest ih => simpa using ih (step.insert r)

theorem InStep.foldl_apply {e : RuleEngine} {log : List Rule} (step : InStep e log) (calls : List Call) :
    InStep (calls.foldl apply e) (log ++ registrations calls) := by
  induction calls generalizing e log with
  | nil => simpa [registrations] using step
  | cons c rest ih =>
    have next : InStep (e.apply c) (log ++ c.registers) := by
      rw [apply_eq]
      exact step.foldl_insert c.registers
    simpa [registrations, List.append_assoc] using ih next

/-- What every history preserves. -/
theorem inStep_run (calls : List Call) : InStep (run calls) (registrations calls) := by
  simpa [run] using inStep_empty.foldl_apply calls

theorem registerAll_snd (e : RuleEngine) (rs : List Rule) :
    (e.registerAll rs).2 = none ↔ ∀ r ∈ rs, r.Registrable := by
  induction rs generalizing e with
  | nil => simp [registerAll]
  | cons r rest ih =>
    by_cases ok : r.Registrable
    · simp only [registerAll, register_of_registrable e ok, ih, List.forall_mem_cons, ok, true_and]
    · obtain ⟨err, refused⟩ := register_of_not_registrable e ok
      simp only [registerAll, refused, List.forall_mem_cons, ok, false_and, reduceCtorEq]

/-- A list with an invalid rule has a first one. -/
theorem exists_first_refused {rs : List Rule} (bad : ¬ ∀ r ∈ rs, r.Registrable) :
    ∃ valid first rest, rs = valid ++ first :: rest ∧ (∀ r ∈ valid, r.Registrable) ∧
      ¬ first.Registrable ∧ rs.takeWhile (fun r => r.Registrable) = valid := by
  induction rs with
  | nil => exact absurd (fun r member => absurd member List.not_mem_nil) bad
  | cons r rest ih =>
    by_cases ok : r.Registrable
    · have later : ¬ ∀ s ∈ rest, s.Registrable := fun all => bad (List.forall_mem_cons.mpr ⟨ok, all⟩)
      obtain ⟨valid, first, tail, split, allValid, refused, taken⟩ := ih later
      refine ⟨r :: valid, first, tail, ?_, List.forall_mem_cons.mpr ⟨ok, allValid⟩, refused, ?_⟩
      · rw [split, List.cons_append]
      · rw [List.takeWhile_cons_of_pos (by simpa using ok), taken]
    · exact ⟨[], r, rest, rfl, fun s member => absurd member List.not_mem_nil, ok,
        List.takeWhile_cons_of_neg (by simpa using ok)⟩

theorem foldl_apply_register (e : RuleEngine) {rs : List Rule} (valid : ∀ r ∈ rs, r.Registrable) :
    (rs.map Call.register).foldl apply e = rs.foldl insert e := by
  induction rs generalizing e with
  | nil => rfl
  | cons r rest ih =>
    obtain ⟨ok, later⟩ := List.forall_mem_cons.mp valid
    have first : e.apply (.register r) = e.insert r := by
      rw [apply, register_of_registrable e ok]
    rw [List.map_cons, List.foldl_cons, List.foldl_cons, first, ih _ later]

/-! ### Observations -/

theorem list_all (e : RuleEngine) : e.list .all = e.rules.toList :=
  List.filter_eq_self.mpr (fun _ _ => rfl)

end RuleEngine

namespace RuleFilter

/-- A description meets every field that a filter sets. -/
def Meets (f : RuleFilter) (i : RuleInfo) : Prop :=
  (∀ p, f.provider = some p → i.provider = some p) ∧
  (∀ t, f.resourceType = some t → t ∈ i.resourceTypes) ∧
  (∀ s, f.severity = some s → s = i.severity) ∧
  (∀ c, f.category = some c → c = i.category)

/-- The filters that set a single field each as a filter does. -/
def parts (f : RuleFilter) : List RuleFilter :=
  [{ all with provider := f.provider }, { all with resourceType := f.resourceType },
    { all with severity := f.severity }, { all with category := f.category }]

theorem accepts_iff (f : RuleFilter) (i : RuleInfo) : f.accepts i = true ↔ f.Meets i := by
  obtain ⟨provider, resourceType, severity, category⟩ := f
  simp only [accepts, Meets, Bool.and_eq_true, Option.all_eq_true, beq_iff_eq, and_assoc,
    RuleInfo.appliesTo, List.contains_iff_mem]

instance (f : RuleFilter) (i : RuleInfo) : Decidable (f.Meets i) := decidable_of_iff _ (f.accepts_iff i)

theorem accepts_iff_parts (f : RuleFilter) (i : RuleInfo) :
    f.accepts i = true ↔ ∀ g ∈ f.parts, g.accepts i = true := by
  simp [accepts, parts, all, and_assoc]

end RuleFilter

namespace RuleEngine

/-- An engine is the map of a log ordered by first insertion: the index holds the
    ids of the log and leads each to the slot of its rule, and the engine shows
    each id once, where the log has it first, with the rule that it has last. -/
structure Mirrors (e : RuleEngine) (log : List Rule) : Prop where
  ids_nodup : (e.rules.toList.map Rule.id).Nodup
  mem_index : ∀ id, id ∈ e.index ↔ ∃ r ∈ log, r.id = id
  index_iff : ∀ (id : String) (slot : Nat),
    e.index[id]? = some slot ↔ ∃ r, e.rules[slot]? = some r ∧ r.id = id
  list_eq : e.list .all = (firstIds log).filterMap (latest? log)
  get?_eq : ∀ id, e.get? id = latest? log id
  count_eq : e.count = (firstIds log).length

theorem InStep.mirrors {e : RuleEngine} {log : List Rule} (step : InStep e log) : Mirrors e log where
  ids_nodup := by
    rw [step.slots, map_id_standing]
    exact firstIds_nodup log
  mem_index id := by
    rw [step.mem_index, List.mem_map]
  index_iff id slot := by
    rw [step.index_iff, ← map_id_standing, ← step.slots, List.getElem?_map, Array.getElem?_toList,
      Option.map_eq_some_iff]
  list_eq := by
    rw [list_all, step.slots]
    rfl
  get?_eq id := by
    unfold get?
    cases found : e.index[id]? with
    | some slot =>
      rw [Option.bind_some, ← Array.getElem?_toList, step.slots, getElem?_standing,
        (step.index_iff id slot).mp found]
      rfl
    | none =>
      have absent : id ∉ log.map Rule.id := by
        rw [← step.mem_index, Std.HashMap.mem_iff_isSome_getElem?, found]
        exact Bool.false_ne_true
      exact ((latest?_eq_none_iff log id).mpr absent).symm
  count_eq := step.size

theorem list_eq_filter (e : RuleEngine) (f : RuleFilter) :
    e.list f = (e.list .all).filter (fun r => f.Meets r.info) := by
  rw [list_all, list]
  apply List.filter_congr
  intro r _
  rw [Bool.eq_iff_iff, decide_eq_true_iff]
  exact f.accepts_iff r.info

theorem mem_list_parts {e : RuleEngine} {f : RuleFilter} {r : Rule} :
    r ∈ e.list f ↔ ∀ g ∈ f.parts, r ∈ e.list g := by
  simp only [list, List.mem_filter, f.accepts_iff_parts]
  constructor
  · intro both g part
    exact ⟨both.1, both.2 g part⟩
  · intro each
    exact ⟨(each _ List.mem_cons_self).1, fun g part => (each g part).2⟩

/-- After every history an engine is the ordered map of the successful registrations.
    A refused rule changes nothing, a refused list counts up to its first invalid
    rule, and a filter selects, in place, the rules that meet all of its fields. -/
theorem run_mirrors_registrations (calls : List Call) :
    Mirrors (run calls) (registrations calls) ∧
    (∀ r, (((run calls).register r).2 = none ↔ r.Registrable) ∧
      (((run calls).register r).2 ≠ none → ((run calls).register r).1 = run calls)) ∧
    (∀ rs, (((run calls).registerAll rs).2 = none ↔ ∀ r ∈ rs, r.Registrable) ∧
      (((run calls).registerAll rs).2 ≠ none →
        ∃ valid first rest, rs = valid ++ first :: rest ∧ (∀ r ∈ valid, r.Registrable) ∧
          ¬ first.Registrable ∧
          ((run calls).registerAll rs).1 = run (calls ++ valid.map Call.register))) ∧
    (∀ f, (run calls).list f = ((run calls).list .all).filter (fun r => f.Meets r.info) ∧
      (∀ r, r ∈ (run calls).list f ↔ ∀ g ∈ f.parts, r ∈ (run calls).list g)) := by
  refine ⟨(inStep_run calls).mirrors, fun r => ?_, fun rs => ⟨registerAll_snd _ rs, ?_⟩, fun f => ?_⟩
  · by_cases ok : r.Registrable
    · rw [register_of_registrable _ ok]
      exact ⟨iff_of_true rfl ok, fun refused => absurd rfl refused⟩
    · obtain ⟨err, refused⟩ := register_of_not_registrable (run calls) ok
      rw [refused]
      exact ⟨iff_of_false (Option.some_ne_none err) ok, fun _ => rfl⟩
  · intro failed
    have bad : ¬ ∀ r ∈ rs, r.Registrable := fun all => failed ((registerAll_snd _ rs).mpr all)
    obtain ⟨valid, first, rest, split, allValid, refused, taken⟩ := exists_first_refused bad
    refine ⟨valid, first, rest, split, allValid, refused, ?_⟩
    rw [registerAll_fst, taken, run_append, foldl_apply_register _ allValid]
  · exact ⟨list_eq_filter _ f, fun _ => mem_list_parts⟩

end RuleEngine

end InfraAudit
