import InfraAudit.Proofs.Manifest.Document

/-!
The documents of a stream are the runs of lines that separators enclose, except for those
that are blank (`mem_documentsOf_iff`), in their order and at their lines
(`pairwise_start_documentsOf`). A blank run leaves no document, and what comes after it
stands where it stood (`documentsOf_blank`).
-/
namespace InfraAudit.Manifest

/-- Some lines of a stream that are no separators, with the lines before and after them:
    separators or the ends of the stream enclose them. -/
structure Encloses (ls before lines after : List (List Char)) : Prop where
  split : ls = before ++ (lines ++ after)
  plain : ∀ l ∈ lines, isSeparator l = false
  opened : ∀ s ∈ before.getLast?, isSeparator s = true
  closed : ∀ s ∈ after.head?, isSeparator s = true

/-- A maximal run of lines that are no separators. It starts on line one or on the line after
    the separator before it. -/
def Run.IsMaximalIn (r : Run) (ls : List (List Char)) : Prop :=
  ∃ before after, Encloses ls before r.lines after ∧ r.start = before.length + 1

/-! ### Lines that separators enclose -/

section
variable {ls before lines after pending rest : List (List Char)} {s : List Char}

theorem eq_nil_of_opened (plain : ∀ l ∈ before, isSeparator l = false)
    (opened : ∀ s ∈ before.getLast?, isSeparator s = true) : before = [] := by
  rw [← List.getLast?_eq_none_iff, Option.eq_none_iff_forall_not_mem]
  intro s last
  have other := plain s (List.mem_of_getLast? last)
  rw [opened s last] at other
  cases other

theorem eq_nil_of_closed (plain : ∀ l ∈ after, isSeparator l = false)
    (closed : ∀ s ∈ after.head?, isSeparator s = true) : after = [] := by
  rw [← List.head?_eq_none_iff, Option.eq_none_iff_forall_not_mem]
  intro s first
  have other := plain s (List.mem_of_mem_head? first)
  rw [closed s first] at other
  cases other

/-- Lines without a separator are enclosed as a whole. -/
theorem encloses_plain_iff (plain : ∀ l ∈ pending, isSeparator l = false) :
    Encloses pending before lines after ↔ before = [] ∧ lines = pending ∧ after = [] := by
  constructor
  · rintro ⟨rfl, _, opened, closed⟩
    have first : before = [] := eq_nil_of_opened (fun l member => plain l (by simp [member])) opened
    have last : after = [] := eq_nil_of_closed (fun l member => plain l (by simp [member])) closed
    simp [first, last]
  · rintro ⟨rfl, rfl, rfl⟩
    exact ⟨by simp, plain, by simp, by simp⟩

/-- The first separator of a stream encloses the lines before it; what else is enclosed
    comes after it. -/
theorem encloses_separator_iff (plain : ∀ l ∈ pending, isSeparator l = false) (separator : isSeparator s = true) :
    Encloses (pending ++ s :: rest) before lines after ↔
      (before = [] ∧ lines = pending ∧ after = s :: rest) ∨
        ∃ between, before = pending ++ s :: between ∧ Encloses rest between lines after := by
  constructor
  · rintro ⟨split, free, opened, closed⟩
    rcases List.append_eq_append_iff.mp split with ⟨between, rfl, tail⟩ | ⟨held, rfl, tail⟩
    · cases between with
      | cons t between =>
        obtain ⟨rfl, rest⟩ := List.cons.inj tail
        refine .inr ⟨between, rfl, rest, free, fun last found => opened last ?_, closed⟩
        simp [List.getLast?_append, List.getLast?_cons, Option.mem_def.mp found]
      | nil =>
        rw [List.append_nil] at opened
        have first : pending = [] := eq_nil_of_opened plain opened
        cases lines with
        | nil => exact .inl ⟨by simp [first], first.symm, tail.symm⟩
        | cons l lines =>
          obtain ⟨rfl, _⟩ := List.cons.inj tail
          simp [separator] at free
    · have first : before = [] := eq_nil_of_opened (fun l member => plain l (by simp [member])) opened
      subst first
      rw [List.nil_append] at plain ⊢
      left
      -- The lines neither end before the separator nor go on over it.
      rcases List.append_eq_append_iff.mp tail with ⟨more, rfl, tails⟩ | ⟨more, rfl, tails⟩
      · cases more with
        | nil => exact ⟨rfl, by simp, tails⟩
        | cons t more =>
          have other := plain t (by simp)
          rw [closed t (by simp [tails])] at other
          cases other
      · cases more with
        | nil => exact ⟨rfl, by simp, tails.symm⟩
        | cons t more =>
          obtain ⟨rfl, _⟩ := List.cons.inj tails
          have other := free s (by simp)
          rw [separator] at other
          cases other
  · rintro (⟨rfl, rfl, rfl⟩ | ⟨between, rfl, split, free, opened, closed⟩)
    · exact ⟨by simp, plain, by simp, by simp [separator]⟩
    · refine ⟨by simp [split], free, ?_, closed⟩
      intro last found
      cases held : between.getLast? with
      | none =>
        have same : s = last := by simpa [List.getLast?_append, List.getLast?_cons, held] using found
        exact same ▸ separator
      | some l =>
        have same : l = last := by simpa [List.getLast?_append, List.getLast?_cons, held] using found
        exact same ▸ opened l held

/-! ### Runs -/

/-- The runs from a line on are the enclosed lines, those that are known already included. -/
theorem mem_runsFrom_iff {start : Nat} (plain : ∀ l ∈ pending, isSeparator l = false) {r : Run} :
    r ∈ runsFrom start pending (start + pending.length) ls ↔
      ∃ before after, Encloses (pending ++ ls) before r.lines after ∧ r.start = start + before.length := by
  obtain ⟨first, held⟩ := r
  dsimp only
  induction ls generalizing start pending with
  | nil =>
    rw [runsFrom, List.mem_singleton, Run.mk.injEq, List.append_nil]
    constructor
    · rintro ⟨rfl, rfl⟩
      exact ⟨[], [], (encloses_plain_iff plain).mpr ⟨rfl, rfl, rfl⟩, by simp⟩
    · rintro ⟨before, after, encloses, place⟩
      obtain ⟨rfl, rfl, rfl⟩ := (encloses_plain_iff plain).mp encloses
      exact ⟨place, rfl⟩
  | cons l rest ih =>
    by_cases separator : isSeparator l = true
    · have later := @ih [] (start + pending.length + 1) (by simp)
      simp only [List.length_nil, Nat.add_zero, List.nil_append] at later
      rw [runsFrom, if_pos separator, List.mem_cons, later, Run.mk.injEq]
      constructor
      · rintro (⟨rfl, rfl⟩ | ⟨between, after, encloses, place⟩)
        · exact ⟨[], l :: rest, (encloses_separator_iff plain separator).mpr (.inl ⟨rfl, rfl, rfl⟩), by simp⟩
        · refine ⟨pending ++ l :: between, after,
            (encloses_separator_iff plain separator).mpr (.inr ⟨between, rfl, encloses⟩), ?_⟩
          rw [List.length_append, List.length_cons]
          omega
      · rintro ⟨before, after, encloses, place⟩
        rcases (encloses_separator_iff plain separator).mp encloses with ⟨rfl, rfl, rfl⟩ | ⟨between, rfl, inner⟩
        · exact .inl ⟨place, rfl⟩
        · refine .inr ⟨between, after, inner, ?_⟩
          simp only [List.length_append, List.length_cons] at place ⊢
          omega
    · rw [Bool.not_eq_true] at separator
      have more : ∀ k ∈ pending ++ [l], isSeparator k = false := by
        intro k member
        rcases List.mem_append.mp member with known | new
        · exact plain k known
        · rwa [List.mem_singleton.mp new]
      have next := @ih (pending ++ [l]) start more
      rw [List.length_append, List.length_singleton, ← Nat.add_assoc, List.append_assoc, List.singleton_append] at next
      simp only [runsFrom, separator, Bool.false_eq_true, ↓reduceIte, next]

theorem le_start_of_mem_runsFrom {start line : Nat} (past : start ≤ line) {r : Run}
    (member : r ∈ runsFrom start pending line ls) : start ≤ r.start := by
  induction ls generalizing start line pending with
  | nil => simp [List.mem_singleton.mp member]
  | cons l rest ih =>
    rw [runsFrom] at member
    split at member
    · rcases List.mem_cons.mp member with rfl | later
      · exact Nat.le_refl _
      · have after := ih (Nat.le_refl (line + 1)) later
        omega
    · exact ih (by omega) member

theorem pairwise_start_runsFrom {start line : Nat} (past : start ≤ line) :
    (runsFrom start pending line ls).Pairwise (fun q r => q.start < r.start) := by
  induction ls generalizing start line pending with
  | nil => simp [runsFrom]
  | cons l rest ih =>
    rw [runsFrom]
    split
    · refine List.pairwise_cons.mpr ⟨?_, ih (Nat.le_refl _)⟩
      intro r later
      have after := le_start_of_mem_runsFrom (Nat.le_refl (line + 1)) later
      show start < r.start
      omega
    · exact ih (by omega)

/-! ### Documents -/

/-- The documents of a stream of lines. -/
def documentsOf (ls : List (List Char)) : List Run := (runsFrom 1 [] 1 ls).filter (fun r => !r.isBlank)

theorem isBlank_eq_false_iff (r : Run) : r.isBlank = false ↔ ∃ l ∈ r.lines, isBlankLine l = false := by
  rw [Run.isBlank, List.all_eq_false]
  simp

theorem mem_documentsOf_iff {d : Run} :
    d ∈ documentsOf ls ↔ d.IsMaximalIn ls ∧ ∃ l ∈ d.lines, isBlankLine l = false := by
  have among : d ∈ runsFrom 1 [] 1 ls ↔ d.IsMaximalIn ls := by
    have known := @mem_runsFrom_iff ls [] 1 (by simp) d
    simp only [List.length_nil, List.nil_append, Nat.add_comm 1] at known
    exact known
  rw [documentsOf, List.mem_filter, among, ← isBlank_eq_false_iff, Bool.not_eq_true']

theorem pairwise_start_documentsOf : (documentsOf ls).Pairwise (fun c d => c.start < d.start) :=
  (pairwise_start_runsFrom (Nat.le_refl 1)).filter _

theorem documentsOf_of_blank (plain : ∀ l ∈ lines, isSeparator l = false) (blank : ∀ l ∈ lines, isBlankLine l = true) :
    documentsOf lines = [] := by
  rw [List.eq_nil_iff_forall_not_mem]
  intro d member
  obtain ⟨⟨before, after, encloses, _⟩, l, held, filled⟩ := mem_documentsOf_iff.mp member
  obtain ⟨_, same, _⟩ := (encloses_plain_iff plain).mp encloses
  rw [blank l (same ▸ held)] at filled
  cases filled

/-- The documents after a separator stand where their lines stand. -/
theorem documentsOf_separator (separator : isSeparator s = true) (front rest : List (List Char)) :
    documentsOf (front ++ s :: rest) =
      documentsOf front ++ (documentsOf rest).map (Run.shift (front.length + 1)) := by
  have count : 1 + front.length + 1 = 1 + (front.length + 1) := by omega
  unfold documentsOf
  rw [runsFrom_append_separator separator, count, runsFrom_shift, List.filter_append, List.filter_map]
  rfl

theorem shift_shift (m n : Nat) (ds : List Run) :
    (ds.map (Run.shift m)).map (Run.shift n) = ds.map (Run.shift (n + m)) := by
  simp only [List.map_map]
  apply List.map_congr_left
  intro d _
  simp [Run.shift, Nat.add_assoc, Nat.add_comm m]

theorem documentsOf_opened (opened : ∀ s ∈ before.getLast?, isSeparator s = true) (rest : List (List Char)) :
    documentsOf (before ++ rest) = documentsOf before ++ (documentsOf rest).map (Run.shift before.length) := by
  rcases List.eq_nil_or_concat before with rfl | ⟨front, s, rfl⟩
  · have same : Run.shift 0 = id := rfl
    simp [documentsOf, runsFrom, Run.isBlank, same]
  · have separator : isSeparator s = true := opened s (by simp)
    have alone := documentsOf_separator separator front []
    have nothing : documentsOf [] = [] := rfl
    rw [nothing, List.map_nil, List.append_nil] at alone
    rw [List.concat_eq_append, List.append_assoc, List.singleton_append, documentsOf_separator separator, alone,
      List.length_append, List.length_singleton]

theorem documentsOf_closed (plain : ∀ l ∈ lines, isSeparator l = false) (blank : ∀ l ∈ lines, isBlankLine l = true)
    (closed : ∀ s ∈ after.head?, isSeparator s = true) :
    documentsOf (lines ++ after) = (documentsOf after).map (Run.shift lines.length) := by
  cases after with
  | nil =>
    rw [List.append_nil, documentsOf_of_blank plain blank]
    rfl
  | cons s rest =>
    have separator : isSeparator s = true := closed s (by simp)
    have alone : documentsOf (s :: rest) = (documentsOf rest).map (Run.shift 1) :=
      documentsOf_separator separator [] rest
    rw [documentsOf_separator separator, documentsOf_of_blank plain blank, List.nil_append, alone, shift_shift]

/-- A blank run leaves no document, and the documents after it stand at their lines. -/
theorem documentsOf_blank (encloses : Encloses ls before lines after) (blank : ∀ l ∈ lines, isBlankLine l = true) :
    documentsOf ls =
      documentsOf before ++ (documentsOf after).map (Run.shift (before.length + lines.length)) := by
  obtain ⟨rfl, plain, opened, closed⟩ := encloses
  rw [documentsOf_opened opened, documentsOf_closed plain blank closed, shift_shift]

end

/-- The text of a run has its lines in order, each ended by a line feed. -/
theorem Run.text_eq (r : Run) : r.text = String.join (r.lines.map fun l => String.ofList l ++ "\n") := by
  obtain ⟨start, lines⟩ := r
  induction lines with
  | nil => rfl
  | cons l rest ih =>
    have first : String.ofList (Text.closeLine l) = String.ofList l ++ "\n" := by
      rw [Text.closeLine, String.ofList_append]
    rw [List.map_cons, String.join_cons, ← first, ← ih, Run.text, List.flatMap_cons, String.ofList_append]
    rfl

/-- The documents of a text are its maximal runs of lines between separators that are not
    blank, in order and with their lines. -/
theorem documents_are_filled_runs (text : String) :
    (∀ d, d ∈ documents text ↔ d.IsMaximalIn (Text.lines text.toList) ∧ ∃ l ∈ d.lines, isBlankLine l = false) ∧
    (documents text).Pairwise (fun c d => c.start < d.start) ∧
    (∀ d ∈ documents text, d.text = String.join (d.lines.map fun l => String.ofList l ++ "\n")) ∧
    (∀ before lines after, Encloses (Text.lines text.toList) before lines after →
      (∀ l ∈ lines, isBlankLine l = true) →
      documents text = documentsOf before ++ (documentsOf after).map (Run.shift (before.length + lines.length))) :=
  ⟨fun _ => mem_documentsOf_iff, pairwise_start_documentsOf, fun d _ => d.text_eq,
    fun _ _ _ encloses blank => documentsOf_blank encloses blank⟩

end InfraAudit.Manifest
