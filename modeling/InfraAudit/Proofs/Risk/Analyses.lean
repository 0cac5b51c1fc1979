import InfraAudit.Proofs.Validation
import InfraAudit.Risk.Triage
import Mathlib.Data.List.Dedup
import Mathlib.Data.List.Induction

/-!
What the analysis of a resource notes. The concerns come from one catalogue, in its order
(`firsts_concernsOf_sublist`), so that the level and the recommendations are determined by
the concerns (`Analysis.Notes`). Lists of entries count as sets: more entries can only add
to the analysis (`concernsOf_subset`), and the same entries in another order or number
leave it as it is.
-/
namespace InfraAudit.Risk

open List (Sublist)

/-! ### What an analysis notes -/

/-- An analysis notes concerns: each has a text of its own, with its recommendation in the
    same place, and the level is the highest of theirs, or the lowest one without any. -/
structure Analysis.Notes (a : Analysis) (noted : List Concern) : Prop where
  concerns : a.concerns = noted.map Concern.text
  recommendations : a.recommendations = noted.map Concern.recommendation
  distinct : (noted.map Concern.text).Nodup
  bounded : ∀ c ∈ noted, c.level.rank ≤ a.level.rank
  reached : a.level = .low ∨ ∃ c ∈ noted, c.level = a.level

theorem Level.rank_injective : Function.Injective Level.rank := by
  intro l m same
  cases l <;> cases m <;> first | rfl | cases same

theorem Level.raise_eq_self {current level : Level} (within : level.rank ≤ current.rank) :
    current.raise level = current :=
  if_neg (Nat.not_lt_of_ge within)

theorem Level.raise_eq_or (current level : Level) : current.raise level = current ∨ current.raise level = level := by
  unfold raise
  split
  · exact .inr rfl
  · exact .inl rfl

theorem Level.eq_critical_of_rank {level : Level} (highest : Level.critical.rank ≤ level.rank) : level = .critical := by
  cases level with
  | critical => rfl
  | _ => exact absurd highest (by decide)

/-- The members of a list in the order in which they come first. -/
def firsts (cs : List Concern) : List Concern := cs.reverse.dedup.reverse

theorem mem_firsts {cs : List Concern} {c : Concern} : c ∈ firsts cs ↔ c ∈ cs := by
  rw [firsts, List.mem_reverse, List.mem_dedup, List.mem_reverse]

theorem nodup_firsts (cs : List Concern) : (firsts cs).Nodup := List.nodup_reverse.mpr (List.nodup_dedup _)

theorem firsts_sublist (cs : List Concern) : Sublist (firsts cs) cs := by
  have kept := (List.dedup_sublist cs.reverse).reverse
  rwa [List.reverse_reverse] at kept

theorem firsts_concat (cs : List Concern) (c : Concern) :
    firsts (cs ++ [c]) = if c ∈ firsts cs then firsts cs else firsts cs ++ [c] := by
  have turned : firsts (cs ++ [c]) = (c :: cs.reverse).dedup.reverse := by
    rw [firsts, List.reverse_append, List.reverse_singleton, List.singleton_append]
  by_cases again : c ∈ cs
  · rw [if_pos (mem_firsts.mpr again), turned, List.dedup_cons_of_mem (List.mem_reverse.mpr again), firsts]
  · have fresh : c ∉ cs.reverse := fun member => again (List.mem_reverse.mp member)
    rw [if_neg (fun member => again (mem_firsts.mp member)), turned, List.dedup_cons_of_notMem fresh, List.reverse_cons,
      firsts]

section
variable {a b : Analysis} {noted : List Concern} {c : Concern}

/-- Noting one more concern; among the noted ones only this one has its text. -/
theorem Analysis.Notes.flag (notes : a.Notes noted) (alike : ∀ d ∈ noted, d.text = c.text → d = c) :
    (a.flag c).Notes (if c ∈ noted then noted else noted ++ [c]) := by
  by_cases again : c ∈ noted
  · have known : a.concerns.contains c.text = true := by
      rw [List.contains_iff_mem, notes.concerns]
      exact List.mem_map_of_mem again
    have same : a.flag c = a := by
      rw [Analysis.flag, if_pos known, Level.raise_eq_self (notes.bounded c again)]
    rw [same, if_pos again]
    exact notes
  · have fresh : c.text ∉ noted.map Concern.text := by
      intro member
      obtain ⟨d, among, text⟩ := List.mem_map.mp member
      exact again (alike d among text ▸ among)
    have unknown : ¬ a.concerns.contains c.text = true := by
      rw [List.contains_iff_mem, notes.concerns]
      exact fresh
    have level := Level.rank_raise a.level c.level
    rw [Analysis.flag, if_neg unknown, if_neg again]
    constructor
    · rw [notes.concerns, List.map_append, List.map_singleton]
    · rw [notes.recommendations, List.map_append, List.map_singleton]
    · rw [List.map_append, List.map_singleton]
      exact List.concat_eq_append ▸ notes.distinct.concat fresh
    · intro d among
      dsimp only
      rcases List.mem_append.mp among with earlier | own
      · have within := notes.bounded d earlier
        omega
      · rw [List.mem_singleton.mp own]
        omega
    · dsimp only
      rcases Level.raise_eq_or a.level c.level with kept | raised
      · rw [kept]
        refine notes.reached.imp id ?_
        rintro ⟨d, earlier, same⟩
        exact ⟨d, List.mem_append_left _ earlier, same⟩
      · exact .inr ⟨c, List.mem_append_right _ (List.mem_singleton_self c), raised.symm⟩

/-- What is noted, with the resource, makes the analysis. -/
theorem Analysis.Notes.unique (left : a.Notes noted) (right : b.Notes noted) (address : a.address = b.address)
    (resourceType : a.resourceType = b.resourceType) : a = b := by
  have below : ∀ {x y : Analysis}, x.Notes noted → y.Notes noted → x.level.rank ≤ y.level.rank := by
    intro x y first second
    rcases first.reached with low | ⟨c, among, same⟩
    · rw [low]
      exact Nat.zero_le _
    · exact same ▸ second.bounded c among
  have level : a.level = b.level := Level.rank_injective (Nat.le_antisymm (below left right) (below right left))
  cases a
  cases b
  simp only [Analysis.mk.injEq]
  exact ⟨address, resourceType, left.concerns.trans right.concerns.symm,
    left.recommendations.trans right.recommendations.symm, level⟩

end

/-! ### The catalogue -/

/-- The concerns about the types of resources, each list in the order in which they are
    noted. -/
def concernsByType : List (List Concern) :=
  [[Aws.publicBucket, Aws.unencryptedBucket, Aws.unversionedBucket], [Aws.openEntry],
    [Aws.publicAddress, Aws.tokensOptional], [Aws.publicDatabase, Aws.unencryptedDatabase], [Google.publicBucket],
    [Google.openFirewall], [Azure.weakTls, Azure.plainTraffic], [Azure.openGroup]]

/-- All concerns. -/
def catalogue : List Concern := concernsByType.flatten

theorem texts_catalogue_nodup : (catalogue.map Concern.text).Nodup := by decide +kernel

theorem nodup_catalogue : catalogue.Nodup := texts_catalogue_nodup.of_map

theorem unversioned_of_low : ∀ c ∈ catalogue, c.level = .low → c = Aws.unversionedBucket := by decide

theorem mem_concernIf (condition : Bool) (c d : Concern) : d ∈ concernIf condition c ↔ condition = true ∧ d = c := by
  cases condition <;> simp [concernIf]

theorem concernIf_sublist (condition : Bool) (c : Concern) : Sublist (concernIf condition c) [c] := by
  cases condition with
  | true => exact Sublist.refl _
  | false => exact List.nil_sublist _

theorem firsts_entryConcerns_sublist (entries : List Value) : Sublist (firsts (Aws.entryConcerns entries)) [Aws.openEntry] := by
  have only : ∀ c ∈ firsts (Aws.entryConcerns entries), c = Aws.openEntry := by
    intro c member
    obtain ⟨entry, _, noted⟩ := List.mem_flatMap.mp (mem_firsts.mp member)
    exact ((mem_concernIf _ _ _).mp noted).2
  have distinct := nodup_firsts (Aws.entryConcerns entries)
  cases found : firsts (Aws.entryConcerns entries) with
  | nil => exact List.nil_sublist _
  | cons c rest =>
    rw [found] at only distinct
    cases rest with
    | nil => rw [only c (by simp)]
    | cons d rest =>
      have same : c = d := (only c (by simp)).trans (only d (by simp)).symm
      simp [same] at distinct

/-- The concerns about a resource, each where it comes first, are in the order of the
    catalogue. -/
theorem firsts_concernsOf_sublist (provider resourceType : String) (state : Value) :
    Sublist (firsts (concernsOf provider resourceType state)) catalogue := by
  have distinct : ∀ {cs table : List Concern}, Sublist cs table → table ∈ concernsByType →
      Sublist (firsts cs) catalogue := by
    intro cs table part listed
    exact (firsts_sublist cs).trans (part.trans (List.sublist_flatten_of_mem listed))
  have openEntry : Sublist [Aws.openEntry] catalogue := List.sublist_flatten_of_mem (by simp [concernsByType])
  have pair : ∀ (first second : Bool) (c d : Concern),
      Sublist (concernIf first c ++ concernIf second d) [c, d] := by
    intro first second c d
    exact (concernIf_sublist first c).append (concernIf_sublist second d)
  unfold concernsOf
  split
  · unfold Aws.concerns
    split
    · exact distinct ((pair _ _ _ _).append (concernIf_sublist _ _)) (by simp [concernsByType])
    · exact (firsts_entryConcerns_sublist _).trans openEntry
    · exact (firsts_entryConcerns_sublist _).trans openEntry
    · exact distinct (pair _ _ _ _) (by simp [concernsByType])
    · exact distinct (pair _ _ _ _) (by simp [concernsByType])
    · exact List.nil_sublist _
  · unfold Google.concerns
    split
    · exact distinct (concernIf_sublist _ _) (by simp [concernsByType])
    · exact distinct (concernIf_sublist _ _) (by simp [concernsByType])
    · exact List.nil_sublist _
  · unfold Azure.concerns
    split
    · exact distinct (pair _ _ _ _) (by simp [concernsByType])
    · exact distinct (concernIf_sublist _ _) (by simp [concernsByType])
    · exact List.nil_sublist _
  · exact List.nil_sublist _

/-- Lists in the order of a list without repetitions are determined by their members. -/
theorem eq_of_sublist_of_mem_iff {table cs ds : List Concern} (distinct : table.Nodup) (first : Sublist cs table)
    (second : Sublist ds table) (same : ∀ c, c ∈ cs ↔ c ∈ ds) : cs = ds := by
  have picked : ∀ {es : List Concern}, Sublist es table → es = table.filter (fun c => c ∈ es) := by
    intro es part
    have own : es.filter (fun c => c ∈ es) = es := List.filter_eq_self.mpr (by simp)
    have inside : Sublist es (table.filter (fun c => c ∈ es)) := by
      have filtered := part.filter (fun c => decide (c ∈ es))
      rwa [own] at filtered
    have perm : es.Perm (table.filter (fun c => c ∈ es)) := by
      rw [List.perm_ext_iff_of_nodup (distinct.sublist part) (distinct.filter _)]
      intro c
      rw [List.mem_filter, decide_eq_true_iff]
      exact ⟨fun member => ⟨part.subset member, member⟩, And.right⟩
    exact inside.eq_of_length perm.length_eq
  rw [picked first, picked second]
  simp only [same]

/-! ### Runs of an analysis -/

/-- The analysis of concerns of the catalogue notes each where it comes first. -/
theorem notes_foldl_flag (address resourceType : String) {cs : List Concern} (known : cs ⊆ catalogue) :
    (cs.foldl Analysis.flag (.clear address resourceType)).Notes (firsts cs) := by
  induction cs using List.reverseRecOn with
  | nil => exact ⟨rfl, rfl, List.nodup_nil, by simp [firsts], .inl rfl⟩
  | append_singleton cs c ih =>
    have before : cs ⊆ catalogue := fun d member => known (List.mem_append_left _ member)
    have own : c ∈ catalogue := known (List.mem_append_right _ (List.mem_singleton_self c))
    rw [List.foldl_append, firsts_concat]
    apply (ih before).flag
    intro d member text
    exact List.inj_on_of_nodup_map texts_catalogue_nodup (before (mem_firsts.mp member)) own text

/-- The concerns that the planned state of a resource gives rise to. -/
def raised (r : Plan.Resource) : List Concern := r.plannedState?.elim [] (concernsOf r.providerShortName r.resourceType)

theorem firsts_raised_sublist (r : Plan.Resource) : Sublist (firsts (raised r)) catalogue := by
  unfold raised
  cases r.plannedState? with
  | none => exact List.nil_sublist _
  | some state =>
    rw [Option.elim_some]
    exact firsts_concernsOf_sublist _ _ state

theorem address_foldl_flag (a : Analysis) (cs : List Concern) :
    (cs.foldl Analysis.flag a).address = a.address ∧ (cs.foldl Analysis.flag a).resourceType = a.resourceType := by
  induction cs generalizing a with
  | nil => exact ⟨rfl, rfl⟩
  | cons c rest ih =>
    have kept : (a.flag c).address = a.address ∧ (a.flag c).resourceType = a.resourceType := by
      unfold Analysis.flag
      split <;> exact ⟨rfl, rfl⟩
    rw [List.foldl_cons, (ih _).1, (ih _).2]
    exact kept

theorem address_analyze (r : Plan.Resource) : (analyze r).address = r.address := (address_foldl_flag _ _).1

theorem resourceType_analyze (r : Plan.Resource) : (analyze r).resourceType = r.resourceType := (address_foldl_flag _ _).2

theorem notes_analyze (r : Plan.Resource) : (analyze r).Notes (firsts (raised r)) := by
  apply notes_foldl_flag
  intro c member
  exact (firsts_raised_sublist r).subset (mem_firsts.mpr member)

/-! ### More entries -/

/-- The keys of lists whose entries the analyses go through. -/
def entryKeys : List String := ["ingress", "egress", "security_rule", "iam_binding", "members", "source_ranges"]

/-- An object has at least what another one has: the same under every key, or a list of
    entries in which each entry of the other list has a counterpart. -/
def HoldsMore (counterpart : Value → Value → Prop) (v w : Value) : Prop :=
  v.isObject = true ∧ w.isObject = true ∧ ∀ key, w.field? key = v.field? key ∨
    key ∈ entryKeys ∧ ∃ items more, v.field? key = some (.array items) ∧ w.field? key = some (.array more) ∧
      ∀ e ∈ items, ∃ f ∈ more, counterpart e f

/-- An entry, or one whose own lists have at least the same entries. -/
def EntryGrows (e f : Value) : Prop := e = f ∨ HoldsMore (· = ·) e f

/-- The lists of a state, and those of their entries, have at least the entries that they
    had. -/
def Grows (v w : Value) : Prop := HoldsMore EntryGrows v w

/-- The lists of two states have the same entries, in any order and number. -/
def SameEntries (v w : Value) : Prop := Grows v w ∧ Grows w v

section
variable {counterpart : Value → Value → Prop} {v w : Value} {key : String}

/-- What stands under other keys is the same. -/
def SameBeside (v w : Value) : Prop := ∀ key, key ∉ entryKeys → w.field? key = v.field? key

theorem HoldsMore.sameBeside (more : HoldsMore counterpart v w) : SameBeside v w := by
  intro key other
  rcases more.2.2 key with same | ⟨listed, _⟩
  · exact same
  · exact absurd listed other

theorem HoldsMore.entries (more : HoldsMore counterpart v w) (own : ∀ e, counterpart e e) (key : String) :
    ∀ e ∈ v.entries key, ∃ f ∈ w.entries key, counterpart e f := by
  intro e member
  rcases more.2.2 key with same | ⟨_, items, others, held, held', every⟩
  · refine ⟨e, ?_, own e⟩
    rwa [Value.entries, Value.fieldArray?, same]
  · rw [Value.entries_of_field? held] at member
    rw [Value.entries_of_field? held']
    exact every e member

/-- A list of entries is replaced by one in which each entry has a counterpart. -/
theorem holdsMore_insertField {key : String} (listed : key ∈ entryKeys) {fields : Fields} {items more : List Value}
    (held : fields.lookup key = some (.array items)) (every : ∀ e ∈ items, ∃ f ∈ more, counterpart e f) :
    HoldsMore counterpart (.object fields) (.object (Value.insertField key (.array more) fields)) := by
  refine ⟨rfl, rfl, fun k => ?_⟩
  have after := Value.lookup_insertField key k (.array more) fields
  by_cases same : k = key
  · subst same
    exact .inr ⟨listed, items, more, held, after.trans (if_pos rfl), every⟩
  · exact .inl (after.trans (if_neg same))

theorem EntryGrows.refl (e : Value) : EntryGrows e e := .inl rfl

theorem EntryGrows.sameBeside {e f : Value} (grows : EntryGrows e f) : SameBeside e f := by
  rcases grows with rfl | more
  · exact fun _ _ => rfl
  · exact more.sameBeside

theorem EntryGrows.str? {e f : Value} (grows : EntryGrows e f) : f.str? = e.str? := by
  rcases grows with rfl | ⟨object, object', _⟩
  · rfl
  · cases e with
    | object fields =>
      cases f with
      | object more => rfl
      | _ => cases object'
    | _ => cases object

theorem EntryGrows.entries {e f : Value} (grows : EntryGrows e f) (key : String) : e.entries key ⊆ f.entries key := by
  intro item member
  rcases grows with rfl | more
  · exact member
  · obtain ⟨counterpart, among, rfl⟩ := more.entries (fun _ => rfl) key item member
    exact among

/-- A test that the counterpart of each entry passes with it is passed among more entries. -/
theorem Grows.any_entries {test : Value → Bool} (grows : Grows v w)
    (kept : ∀ e f, EntryGrows e f → test e = true → test f = true) (passed : (v.entries key).any test = true) :
    (w.entries key).any test = true := by
  obtain ⟨e, member, passes⟩ := List.any_eq_true.mp passed
  obtain ⟨f, among, counterpart⟩ := grows.entries EntryGrows.refl key e member
  exact List.any_eq_true.mpr ⟨f, among, kept e f counterpart passes⟩

/-! ### Concerns about more entries -/

theorem Aws.bucketConcerns_eq (same : SameBeside v w) : bucketConcerns w = bucketConcerns v := by
  simp only [bucketConcerns, isPublicBucket, isVersioned, Value.fieldStr?, Value.isAbsent, Value.firstEntry?,
    Value.fieldArray?, same "acl" (by decide), same "server_side_encryption_configuration" (by decide),
    same "versioning" (by decide)]

theorem Aws.isOpenEntry_eq (same : SameBeside v w) : isOpenEntry w = isOpenEntry v := by
  have ports : portsOf w = portsOf v := by
    unfold portsOf Value.fieldStr?
    rw [same "protocol" (by decide), same "from_port" (by decide), same "to_port" (by decide)]
  have blocks : w.entries "cidr_blocks" = v.entries "cidr_blocks" := by
    unfold Value.entries Value.fieldArray?
    rw [same "cidr_blocks" (by decide)]
  rw [isOpenEntry, isOpenEntry, ports, Value.containsStr, Value.containsStr, blocks]

theorem Aws.machineConcerns_eq (same : SameBeside v w) : machineConcerns w = machineConcerns v := by
  simp only [machineConcerns, httpTokens?, Value.isTruthy, Value.firstEntry?, Value.fieldArray?,
    same "associate_public_ip_address" (by decide), same "metadata_options" (by decide)]

theorem Aws.databaseConcerns_eq (same : SameBeside v w) : databaseConcerns w = databaseConcerns v := by
  simp only [databaseConcerns, Value.isTruthy, same "publicly_accessible" (by decide),
    same "storage_encrypted" (by decide)]

theorem Azure.accountConcerns_eq (same : SameBeside v w) : accountConcerns w = accountConcerns v := by
  simp only [accountConcerns, isSecureOnly, Value.fieldStr?, Value.isTruthy, same "min_tls_version" (by decide),
    same "https_traffic_only" (by decide), same "https_traffic_only_enabled" (by decide)]

theorem listsAny_of_subset {needles : List String} (more : v.entries key ⊆ w.entries key)
    (listed : listsAny v key needles = true) : listsAny w key needles = true := by
  obtain ⟨item, member, found⟩ := List.any_eq_true.mp listed
  exact List.any_eq_true.mpr ⟨item, more member, found⟩

theorem concernIf_subset {condition condition' : Bool} (c : Concern) (implied : condition = true → condition' = true) :
    concernIf condition c ⊆ concernIf condition' c := by
  intro d member
  rw [mem_concernIf] at member ⊢
  exact member.imp_left implied

theorem Aws.entryConcerns_subset {items others : List Value}
    (more : ∀ e ∈ items, ∃ f ∈ others, EntryGrows e f) : entryConcerns items ⊆ entryConcerns others := by
  intro c member
  obtain ⟨e, listed, noted⟩ := List.mem_flatMap.mp member
  obtain ⟨f, among, grows⟩ := more e listed
  refine List.mem_flatMap.mpr ⟨f, among, ?_⟩
  rwa [isOpenEntry_eq grows.sameBeside]

theorem Aws.concerns_subset (grows : Grows v w) (resourceType : String) :
    concerns resourceType v ⊆ concerns resourceType w := by
  have same := grows.sameBeside
  unfold concerns
  split
  · rw [bucketConcerns_eq same]
    exact List.Subset.refl _
  · apply entryConcerns_subset
    intro e member
    rcases List.mem_append.mp member with inward | outward
    · obtain ⟨f, among, counterpart⟩ := grows.entries EntryGrows.refl _ e inward
      exact ⟨f, List.mem_append_left _ among, counterpart⟩
    · obtain ⟨f, among, counterpart⟩ := grows.entries EntryGrows.refl _ e outward
      exact ⟨f, List.mem_append_right _ among, counterpart⟩
  · rw [entryConcerns, entryConcerns, List.flatMap_singleton, List.flatMap_singleton, isOpenEntry_eq same]
    exact List.Subset.refl _
  · rw [machineConcerns_eq same]
    exact List.Subset.refl _
  · rw [databaseConcerns_eq same]
    exact List.Subset.refl _
  · exact List.Subset.refl _

theorem Google.concerns_subset (grows : Grows v w) (resourceType : String) :
    concerns resourceType v ⊆ concerns resourceType w := by
  unfold concerns
  split
  · apply concernIf_subset
    apply grows.any_entries
    intro binding more counterpart
    exact listsAny_of_subset (counterpart.entries "members")
  · apply concernIf_subset
    apply grows.any_entries
    intro range more counterpart found
    rwa [counterpart.str?]
  · exact List.Subset.refl _

theorem Azure.concerns_subset (grows : Grows v w) (resourceType : String) :
    concerns resourceType v ⊆ concerns resourceType w := by
  unfold concerns
  split
  · rw [accountConcerns_eq grows.sameBeside]
    exact List.Subset.refl _
  · apply concernIf_subset
    apply grows.any_entries
    intro rule more counterpart found
    rwa [Value.fieldStr?, counterpart.sameBeside "source_address_prefix" (by decide)]
  · exact List.Subset.refl _

/-- More entries take no concern away. -/
theorem concernsOf_subset (grows : Grows v w) (provider resourceType : String) :
    concernsOf provider resourceType v ⊆ concernsOf provider resourceType w := by
  unfold concernsOf
  split
  · exact Aws.concerns_subset grows resourceType
  · exact Google.concerns_subset grows resourceType
  · exact Azure.concerns_subset grows resourceType
  · exact List.Subset.refl _

end

/-! ### Analyses of more entries -/

section
variable {r s : Plan.Resource} {state more : Value}

theorem raised_subset (planned : r.after = some state) (grows : Grows state more) :
    raised r ⊆ raised { r with after := some more } := by
  have proper : ∀ {v : Value}, v.isObject = true → (some v).filter (fun v => !v.isNull) = some v := by
    intro v object
    cases v with
    | object fields => rfl
    | _ => cases object
  unfold raised Plan.Resource.plannedState?
  rw [planned, proper grows.1, proper grows.2.1, Option.elim_some, Option.elim_some]
  exact concernsOf_subset grows r.providerShortName r.resourceType

theorem concerns_analyze_subset (more : raised r ⊆ raised s) : (analyze r).concerns ⊆ (analyze s).concerns := by
  rw [(notes_analyze r).concerns, (notes_analyze s).concerns]
  apply List.map_subset
  intro c member
  exact mem_firsts.mpr (more (mem_firsts.mp member))

theorem level_analyze_le (more : raised r ⊆ raised s) : (analyze r).level.rank ≤ (analyze s).level.rank := by
  rcases (notes_analyze r).reached with low | ⟨c, member, same⟩
  · rw [low]
    exact Nat.zero_le _
  · rw [← same]
    exact (notes_analyze s).bounded c (mem_firsts.mpr (more (mem_firsts.mp member)))

theorem analyze_of_same (same : ∀ c, c ∈ raised s ↔ c ∈ raised r) (address : s.address = r.address)
    (resourceType : s.resourceType = r.resourceType) : analyze s = analyze r := by
  have noted : firsts (raised s) = firsts (raised r) := by
    apply eq_of_sublist_of_mem_iff nodup_catalogue (firsts_raised_sublist s) (firsts_raised_sublist r)
    intro c
    rw [mem_firsts, mem_firsts]
    exact same c
  have left := notes_analyze s
  rw [noted] at left
  apply left.unique (notes_analyze r)
  · rw [address_analyze, address_analyze, address]
  · rw [resourceType_analyze, resourceType_analyze, resourceType]

theorem recommendation_of_concern {i j : Nat} (same : (analyze r).concerns[i]? = (analyze s).concerns[j]?) :
    (analyze r).recommendations[i]? = (analyze s).recommendations[j]? := by
  have left := notes_analyze r
  have right := notes_analyze s
  rw [left.concerns, right.concerns, List.getElem?_map, List.getElem?_map] at same
  rw [left.recommendations, right.recommendations, List.getElem?_map, List.getElem?_map]
  cases first : (firsts (raised r))[i]? with
  | none =>
    rw [first, Option.map_none, eq_comm, Option.map_eq_none_iff] at same
    rw [same]
  | some c =>
    rw [first, Option.map_some, eq_comm, Option.map_eq_some_iff] at same
    obtain ⟨d, second, text⟩ := same
    have known := (firsts_raised_sublist r).subset (List.mem_of_getElem? first)
    have known' := (firsts_raised_sublist s).subset (List.mem_of_getElem? second)
    have one : d = c := List.inj_on_of_nodup_map texts_catalogue_nodup known' known text
    rw [second, one]

end

/-- Analyses note concerns of the catalogue, each once, with a level that is the highest of
    theirs. What is recommended for a concern is the same in all of them, and only missing
    versions leave a resource with a concern at the lowest level. More entries take no
    concern away and lower no level; the same entries make the same analysis. -/
theorem analyses_note_and_grow (r : Plan.Resource) :
    (∃ noted, Sublist noted catalogue ∧ (analyze r).Notes noted) ∧
    (∀ (s : Plan.Resource) (i j : Nat), (analyze r).concerns[i]? = (analyze s).concerns[j]? →
      (analyze r).recommendations[i]? = (analyze s).recommendations[j]?) ∧
    ((analyze r).level = .low → ∀ text ∈ (analyze r).concerns, text = Aws.unversionedBucket.text) ∧
    (∀ state more, r.after = some state → Grows state more →
      (analyze r).concerns ⊆ (analyze { r with after := some more }).concerns ∧
        (analyze r).level.rank ≤ (analyze { r with after := some more }).level.rank) ∧
    (∀ state other, r.after = some state → SameEntries state other →
      analyze { r with after := some other } = analyze r) ∧
    ∀ (rs : List Plan.Resource) (i : Nat), (analyzeAll rs)[i]? = rs[i]?.map analyze := by
  refine ⟨⟨_, firsts_raised_sublist r, notes_analyze r⟩, fun s i j => recommendation_of_concern, ?_, ?_, ?_, ?_⟩
  · intro low text member
    rw [(notes_analyze r).concerns] at member
    obtain ⟨c, noted, rfl⟩ := List.mem_map.mp member
    have within := (notes_analyze r).bounded c noted
    rw [low] at within
    have lowest : c.level = .low := Level.rank_injective (Nat.le_zero.mp within)
    rw [unversioned_of_low c ((firsts_raised_sublist r).subset noted) lowest]
  · intro state more planned grows
    have raise := raised_subset planned grows
    exact ⟨concerns_analyze_subset raise, level_analyze_le raise⟩
  · intro state other planned ⟨grows, back⟩
    have forth := raised_subset planned grows
    have again : raised { r with after := some other } ⊆ raised { r with after := some state } :=
      raised_subset (r := { r with after := some other }) rfl back
    have own : { r with after := some state } = r := by rw [← planned]
    rw [own] at again
    exact analyze_of_same (fun c => ⟨fun member => again member, fun member => forth member⟩) rfl rfl
  · intro rs i
    exact List.getElem?_map

/-- Bindings of members. -/
def bindings (members : List (List String)) : List Value :=
  members.map fun names => .object [("members", .array (names.map Value.string))]

/-- A storage bucket that is created with bindings. -/
def boundBucket (members : List (List String)) : Plan.Resource :=
  { address := "google_storage_bucket.assets"
    resourceType := "google_storage_bucket"
    name := "assets"
    provider := "registry.terraform.io/hashicorp/google"
    action := .create
    before := none
    after := some (.object [("iam_binding", .array (bindings members))]) }

/-- Bindings grow when each has a counterpart with its members. -/
theorem grows_bindings {members more : List (List String)} (every : ∀ names ∈ members, ∃ others ∈ more, names ⊆ others) :
    Grows (.object [("iam_binding", .array (bindings members))]) (.object [("iam_binding", .array (bindings more))]) := by
  have counterparts : ∀ e ∈ bindings members, ∃ f ∈ bindings more, EntryGrows e f := by
    intro binding listed
    obtain ⟨names, member, rfl⟩ := List.mem_map.mp listed
    obtain ⟨others, among, inside⟩ := every names member
    have names' : ∀ e ∈ names.map Value.string, ∃ f ∈ others.map Value.string, e = f := by
      intro name bound
      exact ⟨name, List.map_subset _ inside bound, rfl⟩
    have own : "members" ∈ entryKeys := by decide
    exact ⟨_, List.mem_map_of_mem among, .inr (holdsMore_insertField own rfl names')⟩
  have own : "iam_binding" ∈ entryKeys := by decide
  exact holdsMore_insertField own rfl counterparts

/-- A member for everyone in the second binding raises the level; repeated members and
    bindings in another order do not. -/
theorem analyses_note_and_grow_bound :
    (analyze (boundBucket [["user:a"], ["user:b"]])).level = .low ∧
    (analyze (boundBucket [["user:b"], ["user:a", "allUsers"]])).level = .high ∧
    (analyze (boundBucket [["user:a"], ["user:b"]])).concerns ⊆
      (analyze (boundBucket [["user:b"], ["user:a", "allUsers"]])).concerns ∧
    analyze (boundBucket [["user:b"], ["user:a", "user:a"], ["user:b"]]) = analyze (boundBucket [["user:a"], ["user:b"]]) := by
  obtain ⟨_, _, _, grow, keep, _⟩ := analyses_note_and_grow (boundBucket [["user:a"], ["user:b"]])
  have more := grow _ _ rfl (grows_bindings (by decide : ∀ names ∈ [["user:a"], ["user:b"]],
    ∃ others ∈ [["user:b"], ["user:a", "allUsers"]], names ⊆ others))
  have forth := grows_bindings (by decide : ∀ names ∈ [["user:a"], ["user:b"]],
    ∃ others ∈ [["user:b"], ["user:a", "user:a"], ["user:b"]], names ⊆ others)
  have back := grows_bindings (by decide : ∀ names ∈ [["user:b"], ["user:a", "user:a"], ["user:b"]],
    ∃ others ∈ [["user:a"], ["user:b"]], names ⊆ others)
  have same := keep _ _ rfl ⟨forth, back⟩
  exact ⟨by decide +kernel, by decide +kernel, more.1, same⟩

end InfraAudit.Risk
