import InfraAudit.Manifest.Parse
import InfraAudit.Proofs.Cluster.Reading
import InfraAudit.Proofs.Json.Reader
import Mathlib.Data.List.Forall2

/-!
Which resources a JSON text holds. Its items are read in order up to the first one that
is no resource (`FirstInvalid`). That one is told of, and nothing of what stands before
it is kept; without one, every item is a resource.
-/
namespace InfraAudit.Manifest

open Cluster (Resource)

/-- The item at a place is refused, and every item before it is a resource. -/
structure FirstInvalid (items : List Value) (i : Nat) (e : ValidationError) : Prop where
  refused : ∃ v, items[i]? = some v ∧ Resource.ofValue v = .error e
  earlier : ∀ j < i, ∃ v r, items[j]? = some v ∧ Resource.ofValue v = .ok r

section
variable {v : Value} {rest : List Value} {e : ValidationError}

theorem firstInvalid_of_head (refused : Resource.ofValue v = .error e) : FirstInvalid (v :: rest) 0 e where
  refused := ⟨v, rfl, refused⟩
  earlier := fun j before => absurd before (Nat.not_lt_zero j)

theorem FirstInvalid.eq_of_head {i : Nat} {e' : ValidationError} (refused : Resource.ofValue v = .error e)
    (first : FirstInvalid (v :: rest) i e') : i = 0 ∧ e' = e := by
  cases i with
  | zero =>
    obtain ⟨w, there, refused'⟩ := first.refused
    obtain rfl := Option.some.inj there
    exact ⟨rfl, Except.error.inj (refused'.symm.trans refused)⟩
  | succ i =>
    obtain ⟨w, r, there, read⟩ := first.earlier 0 i.succ_pos
    obtain rfl := Option.some.inj there
    cases read.symm.trans refused

theorem firstInvalid_cons_iff {r : Resource} (read : Resource.ofValue v = .ok r) {i : Nat} :
    FirstInvalid (v :: rest) i e ↔ ∃ k, i = k + 1 ∧ FirstInvalid rest k e := by
  constructor
  · intro first
    cases i with
    | zero =>
      obtain ⟨w, there, refused⟩ := first.refused
      obtain rfl := Option.some.inj there
      cases read.symm.trans refused
    | succ i => exact ⟨i, rfl, first.refused, fun j before => first.earlier (j + 1) (Nat.succ_lt_succ before)⟩
  · rintro ⟨k, rfl, first⟩
    refine ⟨first.refused, fun j before => ?_⟩
    cases j with
    | zero => exact ⟨v, r, rfl, read⟩
    | succ j => exact first.earlier j (Nat.lt_of_succ_lt_succ before)

end

theorem readItems_eq_ok_iff {i : Nat} {items : List Value} {rs : List Resource} :
    readItems i items = .ok rs ↔ List.Forall₂ (fun v r => Resource.ofValue v = .ok r) items rs := by
  induction items generalizing i rs with
  | nil => rw [readItems, List.forall₂_nil_left_iff, Except.ok.injEq, eq_comm]
  | cons v rest ih =>
    rw [readItems, List.forall₂_cons_left_iff]
    cases read : Resource.ofValue v with
    | error e => exact iff_of_false nofun (fun ⟨_, _, same, _⟩ => nomatch same)
    | ok r =>
      dsimp only
      cases later : readItems (i + 1) rest with
      | error d =>
        refine iff_of_false nofun ?_
        rintro ⟨_, rs', -, others, -⟩
        cases later.symm.trans (ih.mpr others)
      | ok rs' =>
        rw [Except.map, Except.ok.injEq]
        constructor
        · rintro rfl
          exact ⟨r, rs', rfl, ih.mp later, rfl⟩
        · rintro ⟨r', others, same, read', rfl⟩
          rw [Except.ok.inj same, Except.ok.inj (later.symm.trans (ih.mpr read'))]

/-- Reading stops at the first item that is no resource, and tells of that one alone. -/
theorem readItems_eq_error_iff {start : Nat} {items : List Value} {d : Diagnostic} :
    readItems start items = .error d ↔
      ∃ i e, FirstInvalid items i e ∧ d = ⟨none, start + i, none, e.message⟩ := by
  induction items generalizing start with
  | nil =>
    refine iff_of_false nofun ?_
    rintro ⟨i, e, first, -⟩
    obtain ⟨v, there, -⟩ := first.refused
    cases there
  | cons v rest ih =>
    rw [readItems]
    cases read : Resource.ofValue v with
    | error e =>
      rw [Except.error.injEq]
      constructor
      · rintro rfl
        exact ⟨0, e, firstInvalid_of_head read, rfl⟩
      · rintro ⟨i, e', first, rfl⟩
        obtain ⟨rfl, rfl⟩ := first.eq_of_head read
        rfl
    | ok r =>
      have mapped : (readItems (start + 1) rest).map (r :: ·) = .error d ↔
          readItems (start + 1) rest = .error d := by
        cases readItems (start + 1) rest with
        | error d' => exact Iff.rfl
        | ok rs => exact iff_of_false nofun nofun
      rw [mapped, ih]
      simp only [firstInvalid_cons_iff read]
      constructor
      · rintro ⟨i, e, first, rfl⟩
        exact ⟨i + 1, e, ⟨i, rfl, first⟩, by rw [Nat.add_right_comm, Nat.add_assoc]⟩
      · rintro ⟨_, e, ⟨i, rfl, first⟩, rfl⟩
        exact ⟨i, e, first, by rw [Nat.add_right_comm, Nat.add_assoc]⟩

theorem raw_of_forall₂ {items : List Value} {rs : List Resource}
    (read : List.Forall₂ (fun v r => Resource.ofValue v = .ok r) items rs) : rs.map (·.raw) = items := by
  induction read with
  | nil => rfl
  | cons head _ ih => rw [List.map_cons, ih, (Resource.ofValue_eq_ok_iff.mp head).1.raw]

theorem exists_forall₂_iff {items : List Value} :
    (∃ rs, List.Forall₂ (fun v r => Resource.ofValue v = .ok r) items rs) ↔
      ∀ v ∈ items, ∃ r, Resource.ofValue v = .ok r := by
  induction items with
  | nil => exact iff_of_true ⟨[], .nil⟩ (fun _ member => absurd member List.not_mem_nil)
  | cons v rest ih =>
    rw [List.forall_mem_cons, ← ih]
    constructor
    · rintro ⟨_, read⟩
      obtain ⟨r, rs, head, tail, rfl⟩ := List.forall₂_cons_left_iff.mp read
      exact ⟨⟨r, head⟩, rs, tail⟩
    · rintro ⟨⟨r, head⟩, rs, tail⟩
      exact ⟨r :: rs, .cons head tail⟩

/-! ### Texts -/

section
variable {text : String}

theorem parseJson_clean_or_diagnosed (text : String) :
    (∃ rs, parseJson text = ⟨rs, []⟩) ∨ ∃ d, parseJson text = ⟨[], [d]⟩ := by
  unfold parseJson
  cases Json.parse text with
  | error e => exact .inr ⟨_, rfl⟩
  | ok v =>
    dsimp only
    cases readItems 0 (itemsOf v) with
    | error d => exact .inr ⟨d, rfl⟩
    | ok rs => exact .inl ⟨rs, rfl⟩

theorem parseJson_eq_clean_iff {rs : List Resource} :
    parseJson text = ⟨rs, []⟩ ↔
      ∃ v, Json.parse text = .ok v ∧
        List.Forall₂ (fun item r => Resource.ofValue item = .ok r) (itemsOf v) rs := by
  unfold parseJson
  cases Json.parse text with
  | error e => exact iff_of_false nofun nofun
  | ok v =>
    have read : (∃ w, Except.ok v = (.ok w : Except Json.SyntaxError Value) ∧
        List.Forall₂ (fun item r => Resource.ofValue item = .ok r) (itemsOf w) rs) ↔
          readItems 0 (itemsOf v) = .ok rs := by
      simp only [Except.ok.injEq, exists_eq_left', readItems_eq_ok_iff]
    rw [read]
    dsimp only
    cases readItems 0 (itemsOf v) with
    | error d => exact iff_of_false nofun nofun
    | ok rs' => simp only [ParseResult.mk.injEq, and_true, Except.ok.injEq]

theorem parseJson_eq_diagnosed_iff {rs : List Resource} {d : Diagnostic} :
    parseJson text = ⟨rs, [d]⟩ ↔
      rs = [] ∧
        ((∃ e, Json.parse text = .error e ∧ d = ⟨none, 0, some e.line, "invalid JSON"⟩) ∨
          ∃ v i e, Json.parse text = .ok v ∧ FirstInvalid (itemsOf v) i e ∧
            d = ⟨none, i, none, e.message⟩) := by
  unfold parseJson
  cases Json.parse text with
  | error e => simp [eq_comm]
  | ok v =>
    have stopped : (∃ i e, FirstInvalid (itemsOf v) i e ∧ d = ⟨none, i, none, e.message⟩) ↔
        readItems 0 (itemsOf v) = .error d := by
      simp only [readItems_eq_error_iff, Nat.zero_add]
    simp only [reduceCtorEq, false_and, exists_false, false_or, Except.ok.injEq, exists_and_left, exists_eq_left',
      stopped]
    cases readItems 0 (itemsOf v) with
    | error d' => simp [eq_comm]
    | ok rs' => simp

end

/-- A JSON text is read as a whole, or not at all: there is at most one diagnostic, and never
    a resource beside it. There is none exactly when the text is JSON whose items are
    resources; then these are the resources, in order and each with its item. Otherwise the
    diagnostic names the line of the fault, which is a line of the text, or the first item that
    is no resource, with what is wrong with that item. -/
theorem parseJson_all_or_nothing (text : String) :
    (parseJson text).diagnostics.length ≤ 1 ∧
    ((parseJson text).resources = [] ∨ (parseJson text).diagnostics = []) ∧
    ((parseJson text).diagnostics = [] ↔
      ∃ v, Json.parse text = .ok v ∧ ∀ item ∈ itemsOf v, ∃ r, Resource.ofValue item = .ok r) ∧
    (∀ rs, parseJson text = ⟨rs, []⟩ ↔
      ∃ v, Json.parse text = .ok v ∧
        List.Forall₂ (fun item r => Resource.ofValue item = .ok r) (itemsOf v) rs ∧
        rs.map (·.raw) = itemsOf v) ∧
    (∀ rs d, parseJson text = ⟨rs, [d]⟩ ↔
      rs = [] ∧
        ((∃ e, Json.parse text = .error e ∧ d = ⟨none, 0, some e.line, "invalid JSON"⟩) ∨
          ∃ v i e, Json.parse text = .ok v ∧ FirstInvalid (itemsOf v) i e ∧
            d = ⟨none, i, none, e.message⟩)) ∧
    (∀ d ∈ (parseJson text).diagnostics, ∀ line ∈ d.line,
      1 ≤ line ∧ line ≤ Json.lineFeeds text.toList + 1) := by
  refine ⟨?_, ?_, ?_, fun rs => ?_, fun rs d => parseJson_eq_diagnosed_iff, fun d member line named => ?_⟩
  · rcases parseJson_clean_or_diagnosed text with ⟨rs, read⟩ | ⟨d, told⟩
    · rw [read]
      exact Nat.zero_le 1
    · rw [told]
      exact Nat.le_refl 1
  · rcases parseJson_clean_or_diagnosed text with ⟨rs, read⟩ | ⟨d, told⟩
    · exact .inr (congrArg _ read)
    · exact .inl (congrArg _ told)
  · have clean : (parseJson text).diagnostics = [] ↔ ∃ rs, parseJson text = ⟨rs, []⟩ :=
      ⟨fun silent => ⟨(parseJson text).resources, by rw [← silent]⟩, fun ⟨_, read⟩ => congrArg _ read⟩
    simp only [clean, parseJson_eq_clean_iff, ← exists_forall₂_iff]
    exact exists_comm.trans (exists_congr fun v => exists_and_left)
  · rw [parseJson_eq_clean_iff]
    exact exists_congr fun v => and_congr_right fun _ => (and_iff_left_of_imp raw_of_forall₂).symm
  · rcases parseJson_clean_or_diagnosed text with ⟨rs, read⟩ | ⟨d', told⟩
    · rw [read] at member
      cases member
    · rw [told] at member
      obtain rfl := List.mem_singleton.mp member
      obtain ⟨-, ⟨e, fault, rfl⟩ | ⟨v, i, e, -, -, rfl⟩⟩ := parseJson_eq_diagnosed_iff.mp told
      · obtain rfl := Option.some.inj named
        exact Json.line_of_parse_error fault
      · cases named

example : (parseJson "[7,\n").diagnostics = [⟨none, 0, some 2, "invalid JSON"⟩] := by decide +kernel

end InfraAudit.Manifest
