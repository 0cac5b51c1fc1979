import InfraAudit.Proofs.Rule.Offenders

/-!
Images without a version. The name of an image is a path, and only its last component can
carry a tag or a digest; an image whose last component has neither stands for the latest
one (`ResolvesToLatest`). The rule about images looks for a colon in the whole name, and so
takes the port of a registry for a tag (`Container.usesLatestTag_iff`).
-/
namespace InfraAudit

namespace Cluster

/-! ### Components -/

/-- What stands behind the last slash of a name, or the whole name if it has none. -/
def IsLastComponent (last name : List Char) : Prop :=
  '/' ∉ last ∧ (name = last ∨ ∃ path, name = path ++ '/' :: last)

theorem exists_lastComponent (name : List Char) : ∃ last, IsLastComponent last name := by
  induction name with
  | nil => exact ⟨[], List.not_mem_nil, .inl rfl⟩
  | cons c rest ih =>
    obtain ⟨last, plain, rfl | ⟨path, rfl⟩⟩ := ih
    · by_cases slash : c = '/'
      · exact ⟨rest, plain, .inr ⟨[], by rw [slash, List.nil_append]⟩⟩
      · refine ⟨c :: rest, ?_, .inl rfl⟩
        intro member
        exact (List.mem_cons.mp member).elim (fun same => slash same.symm) plain
    · exact ⟨last, plain, .inr ⟨c :: path, rfl⟩⟩

/-- A suffix without a slash lies within the last component. -/
theorem suffix_of_suffix_append {suffix path last : List Char} (plain : '/' ∉ suffix)
    (ends : suffix <:+ path ++ '/' :: last) : suffix <:+ last := by
  have whole : '/' :: last <:+ path ++ '/' :: last := List.suffix_append path _
  rcases List.suffix_or_suffix_of_suffix ends whole with inside | around
  · rcases List.suffix_cons_iff.mp inside with same | inside
    · exact absurd (same ▸ List.mem_cons_self) plain
    · exact inside
  · exact absurd (around.subset List.mem_cons_self) plain

/-! ### Images -/

/-- The text that ends an image with the tag of the latest version. -/
def latestSuffix : List Char := ":latest".toList

/-- An image is not set, has the tag `latest`, or has no colon in its last component. -/
def ResolvesToLatest (image : Option String) : Prop :=
  image = none ∨ ∃ name, image = some name ∧
    (latestSuffix <:+ name.toList ∨ ∃ last, IsLastComponent last name.toList ∧ ':' ∉ last)

/-- An image has no colon in its last component, but one before, as that of a registry's port. -/
def BehindPort (image : Option String) : Prop :=
  ∃ name path last, image = some name ∧ name.toList = path ++ '/' :: last ∧ '/' ∉ last ∧ ':' ∉ last ∧ ':' ∈ path

theorem isUnpinned_iff (name : String) :
    Container.isUnpinned name = true ↔ latestSuffix <:+ name.toList ∨ ':' ∉ name.toList := by
  rw [Container.isUnpinned, Bool.or_eq_true, List.isSuffixOf_iff_suffix, Bool.not_eq_true', List.contains_eq_mem,
    decide_eq_false_iff_not]
  rfl

theorem BehindPort.resolves {image : Option String} (port : BehindPort image) : ResolvesToLatest image := by
  obtain ⟨name, path, last, rfl, split, plain, untagged, _⟩ := port
  exact .inr ⟨name, rfl, .inr ⟨last, ⟨plain, .inr ⟨path, split⟩⟩, untagged⟩⟩

theorem not_behindPort_of_latest {name : String} (latest : latestSuffix <:+ name.toList) : ¬ BehindPort (some name) := by
  rintro ⟨_, path, last, ⟨⟩, split, _, untagged, _⟩
  have within : latestSuffix <:+ last := suffix_of_suffix_append (by decide) (split ▸ latest)
  exact untagged (within.subset (by decide))

theorem isUnpinned_iff_resolves (name : String) :
    Container.isUnpinned name = true ↔ ResolvesToLatest (some name) ∧ ¬ BehindPort (some name) := by
  rw [isUnpinned_iff]
  constructor
  · rintro (latest | colonless)
    · exact ⟨.inr ⟨name, rfl, .inl latest⟩, not_behindPort_of_latest latest⟩
    · constructor
      · obtain ⟨last, component⟩ := exists_lastComponent name.toList
        refine .inr ⟨name, rfl, .inr ⟨last, component, fun colon => colonless ?_⟩⟩
        rcases component.2 with whole | ⟨path, split⟩
        · exact whole ▸ colon
        · rw [split]
          exact List.mem_append_right path (List.mem_cons_of_mem _ colon)
      · rintro ⟨_, path, last, ⟨⟩, split, _, _, port⟩
        exact colonless (split ▸ List.mem_append_left _ port)
  · rintro ⟨unset | ⟨_, ⟨⟩, latest | ⟨last, ⟨plain, whole | ⟨path, split⟩⟩, untagged⟩⟩, noPort⟩
    · cases unset
    · exact .inl latest
    · exact .inr (whole ▸ untagged)
    -- Before an untagged component, a colon would be that of a port.
    · right
      intro colon
      rw [split, List.mem_append, List.mem_cons] at colon
      rcases colon with port | slash | tag
      · exact noPort ⟨name, path, last, rfl, split, plain, untagged, port⟩
      · exact absurd slash (by decide)
      · exact untagged tag

theorem Container.usesLatestTag_iff (c : Container) :
    c.usesLatestTag = true ↔ ResolvesToLatest c.image ∧ ¬ BehindPort c.image := by
  unfold usesLatestTag
  cases c.image with
  | none =>
    refine iff_of_true rfl ⟨.inl rfl, ?_⟩
    rintro ⟨_, _, _, ⟨⟩, _⟩
  | some name => exact isUnpinned_iff_resolves name

end Cluster

namespace Rule.Workload

open Cluster

theorem latestTag_evaluate {t : Target} {cs : List Container} (read : containers t.resource = .ok cs) :
    latestTag.evaluate t = .ok (report latestTagInfo t "Containers are using :latest or untagged images"
      "Use specific version tags for better reproducibility and security" "Containers with :latest tag"
      Container.usesLatestTag cs) := by
  simp only [latestTag, read]
  rfl

/-- An image is taken for the latest version just when it stands for it, unless it is behind
    a port. Of the containers read from a resource, the rule names in order those taken for
    the latest version, and it is content when there are none. -/
theorem latestTag_names_unported (c : Container) :
    (c.usesLatestTag = true ↔ ResolvesToLatest c.image ∧ ¬ BehindPort c.image) ∧
    ((c.usesLatestTag = true ↔ ResolvesToLatest c.image) ↔ ¬ BehindPort c.image) ∧
    ∀ (t : Target) (cs : List Container), containers t.resource = .ok cs →
      (latestTag.evaluate t = .ok none ↔ ∀ d ∈ cs, ResolvesToLatest d.image → BehindPort d.image) ∧
      ((∃ d ∈ cs, ResolvesToLatest d.image ∧ ¬ BehindPort d.image) →
        ∃ f, latestTag.evaluate t = .ok (some f) ∧
          f.evidence = some ("Containers with :latest tag: " ++
            String.intercalate ", " ((cs.filter (·.usesLatestTag)).map (·.name)))) := by
  refine ⟨c.usesLatestTag_iff, ?_, ?_⟩
  · rw [c.usesLatestTag_iff, and_iff_left_iff_imp]
    exact ⟨fun unported port => unported port.resolves port, fun unported _ => unported⟩
  · intro t cs read
    have content : latestTag.evaluate t = .ok none ↔ ∀ d ∈ cs, ResolvesToLatest d.image → BehindPort d.image := by
      rw [latestTag_evaluate read, Except.ok.injEq, report_eq_none_iff]
      apply forall₂_congr
      intro d _
      rw [← Bool.not_eq_true, d.usesLatestTag_iff, not_and_not_right]
    refine ⟨content, ?_⟩
    rintro ⟨d, member, resolves, unported⟩
    rw [latestTag_evaluate read] at content ⊢
    generalize found : report latestTagInfo t _ _ _ Container.usesLatestTag cs = reported at content ⊢
    cases reported with
    | none => exact absurd (content.mp rfl d member resolves) unported
    | some f => exact ⟨f, rfl, evidence_of_report found⟩

/-- A pod with one container of an image. -/
def imagePod (image : String) : Target :=
  ⟨.object
    [("kind", .string "Pod"),
      ("spec", .object
        [("containers", .array [.object [("image", .string image), ("name", .string "app")]])])],
   "Pod", "app", none⟩

/-- An image from a registry with a port has no tag, and the rule about images is content with it. -/
theorem untagged_behind_port_passes :
    ResolvesToLatest (some "localhost:5000/nginx") ∧
      containers (imagePod "localhost:5000/nginx").resource = .ok [⟨"app", some "localhost:5000/nginx", none, none⟩] ∧
      Container.usesLatestTag ⟨"app", some "localhost:5000/nginx", none, none⟩ = false ∧
      latestTag.evaluate (imagePod "localhost:5000/nginx") = .ok none := by
  refine ⟨.inr ⟨_, rfl, .inr ⟨"nginx".toList, ⟨by decide, .inr ⟨"localhost:5000".toList, by decide⟩⟩, by decide⟩⟩,
    rfl, by decide, rfl⟩

/-- The same image without its registry is named. -/
theorem latestTag_names_unported_plain :
    containers (imagePod "nginx").resource = .ok [⟨"app", some "nginx", none, none⟩] ∧
      ResolvesToLatest (some "nginx") ∧ ¬ BehindPort (some "nginx") ∧
      ∃ f, latestTag.evaluate (imagePod "nginx") = .ok (some f) ∧
        f.evidence = some "Containers with :latest tag: app" := by
  have read : containers (imagePod "nginx").resource = .ok [⟨"app", some "nginx", none, none⟩] := rfl
  obtain ⟨uses, _, reports⟩ := latestTag_names_unported ⟨"app", some "nginx", none, none⟩
  obtain ⟨resolves, unported⟩ := uses.mp (by decide)
  obtain ⟨f, found, evidence⟩ := (reports (imagePod "nginx") _ read).2 ⟨_, List.mem_cons_self, resolves, unported⟩
  exact ⟨read, resolves, unported, f, found, evidence.trans (by decide +kernel)⟩

end Rule.Workload

end InfraAudit
