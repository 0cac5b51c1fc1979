import InfraAudit.Manifest.Parse
import InfraAudit.Proofs.Manifest.Document
import Mathlib.Data.List.DropRight

/-!
Which lines of a stream are read. The runs of a stream are its lines without the
separators, each at its number (`numbered_runs`), so that every line with content is
read unless it is a separator itself (`reaches_iff`). What follows a separator on its
line is read nowhere.
-/
namespace InfraAudit

namespace Text

/-! ### Trimming -/

theorem trimEnd_append (front back : List Char) :
    trimEnd (front ++ back) = if trimEnd back = [] then trimEnd front else front ++ trimEnd back := by
  unfold trimEnd
  rw [List.reverse_append, List.dropWhile_append]
  by_cases blank : List.dropWhile isBlank back.reverse = []
  · simp [blank]
  · simp [blank]

/-- A text is what is left when it is trimmed, followed by blanks. -/
theorem exists_trimEnd_append (text : List Char) :
    ∃ blanks, text = trimEnd text ++ blanks ∧ ∀ c ∈ blanks, isBlank c = true := by
  refine ⟨text.rtakeWhile isBlank, List.rdropWhile_append_rtakeWhile.symm, ?_⟩
  intro c member
  exact List.mem_rtakeWhile_imp member

theorem trimEnd_prefix (text : List Char) : trimEnd text <+: text :=
  List.rdropWhile_prefix isBlank text

/-! ### Lines that are ended -/

theorem linesFrom_line {line : List Char} (whole : '\n' ∉ line) (seen rest : List Char) :
    linesFrom seen (line ++ '\n' :: rest) = dropReturn (seen.reverse ++ line) :: linesFrom [] rest := by
  induction line generalizing seen with
  | nil => simp [linesFrom]
  | cons c line ih =>
    obtain ⟨other, whole⟩ := not_or.mp (mt List.mem_cons.mpr whole)
    rw [List.cons_append, linesFrom, if_neg (Ne.symm other), ih whole]
    simp

theorem dropReturn_append (front : List Char) (back : List Char) (ended : front.getLast? ≠ some '\r') :
    dropReturn (front ++ back) = front ++ dropReturn back := by
  unfold dropReturn
  cases back with
  | nil => simp [ended]
  | cons c back =>
    rw [List.getLast?_append, List.dropLast_append_of_ne_nil (List.cons_ne_nil c back)]
    cases last : (c :: back).getLast? with
    | none => simp at last
    | some d => split <;> simp_all

end Text

namespace Manifest

/-! ### Numbered lines -/

/-- The lines of a stream, each with its number, counted from one. -/
def numberedLines (text : String) : List (List Char × Nat) := (Text.lines text.toList).zipIdx 1

/-- The lines of a run, each with its number in the stream. -/
def Run.numbered (r : Run) : List (List Char × Nat) := r.lines.zipIdx r.start

/-- Runs keep all lines but the separators, in their order and with their numbers. -/
theorem numbered_runsFrom (start : Nat) (pending ls : List (List Char)) :
    (runsFrom start pending (start + pending.length) ls).flatMap Run.numbered =
      pending.zipIdx start ++
        (ls.zipIdx (start + pending.length)).filter (fun p => !isSeparator p.1) := by
  induction ls generalizing start pending with
  | nil => simp [runsFrom, Run.numbered]
  | cons l rest ih =>
    by_cases separator : isSeparator l = true
    · have after := ih (start + pending.length + 1) []
      rw [List.length_nil, Nat.add_zero] at after
      simp only [runsFrom, separator, ↓reduceIte, List.flatMap_cons, after, List.zipIdx_cons,
        List.filter_cons, Bool.not_true, Bool.false_eq_true]
      rfl
    · have after := ih start (pending ++ [l])
      rw [List.length_append, List.length_singleton, ← Nat.add_assoc] at after
      rw [Bool.not_eq_true] at separator
      simp only [runsFrom, separator, Bool.false_eq_true, ↓reduceIte, after, List.zipIdx_append,
        List.zipIdx_cons, List.zipIdx_nil, List.filter_cons, Bool.not_false, List.append_assoc,
        List.singleton_append]

theorem numbered_runs (text : String) :
    (runs text.toList).flatMap Run.numbered =
      (numberedLines text).filter (fun p => !isSeparator p.1) :=
  numbered_runsFrom 1 [] (Text.lines text.toList)

/-! ### Lines with content -/

/-- A mere marker between documents: three hyphens, and after them at most blanks and
    a comment. -/
def IsMarker (line : List Char) : Prop :=
  ∃ rest, line = '-' :: '-' :: '-' :: rest ∧ isBlankLine rest = true ∧
    ∀ c ∈ rest.head?, Text.isBlank c = true

/-- A line that holds more than blanks, a comment or a marker. -/
def IsContent (line : List Char) : Prop := isBlankLine line = false ∧ ¬ IsMarker line

/-- The line of a number is read: it is a line of a document. -/
def Reaches (text : String) (line : List Char) (n : Nat) : Prop :=
  ∃ d ∈ documents text, (line, n) ∈ d.numbered

theorem isBlankLine_of_blanks {line : List Char} (blanks : ∀ c ∈ line, Text.isBlank c = true) :
    isBlankLine line = true := by
  have nothing : Text.trim line = [] := by
    rw [Text.trim, Text.trimStart, List.dropWhile_eq_nil_iff.mpr blanks]
    rfl
  rw [isBlankLine, nothing]
  rfl

/-- A marker and a space make a separator, whatever follows them. -/
theorem isSeparator_inline (x : List Char) : isSeparator (['-', '-', '-', ' '] ++ x) = true := by
  unfold isSeparator
  rw [Text.trimEnd_append]
  by_cases blank : Text.trimEnd x = []
  · rw [if_pos blank]
    decide
  · rw [if_neg blank, Bool.or_eq_true]
    exact .inr (List.isPrefixOf_iff_prefix.mpr (List.prefix_append _ _))

/-- Of the lines with content, those are separators that begin with a marker and a space. -/
theorem isSeparator_iff_inline {line : List Char} (content : IsContent line) :
    isSeparator line = true ↔ ['-', '-', '-', ' '] <+: line := by
  constructor
  · intro separator
    rcases (Bool.or_eq_true _ _).mp separator with marker | inline
    · obtain ⟨blanks, split, all⟩ := Text.exists_trimEnd_append line
      rw [beq_iff_eq.mp marker] at split
      refine absurd ⟨blanks, split, isBlankLine_of_blanks all, ?_⟩ content.2
      intro c first
      exact all c (List.mem_of_mem_head? first)
    · exact (List.isPrefixOf_iff_prefix.mp inline).trans (Text.trimEnd_prefix line)
  · rintro ⟨x, rfl⟩
    exact isSeparator_inline x

theorem reaches_iff {text : String} {line : List Char} {n : Nat} (stands : (line, n) ∈ numberedLines text)
    (filled : isBlankLine line = false) : Reaches text line n ↔ isSeparator line = false := by
  have kept : (line, n) ∈ (runs text.toList).flatMap Run.numbered ↔ isSeparator line = false := by
    rw [numbered_runs, List.mem_filter, Bool.not_eq_true', and_iff_right stands]
  rw [← kept, List.mem_flatMap]
  unfold Reaches documents
  constructor
  · rintro ⟨d, member, numbered⟩
    exact ⟨d, List.mem_of_mem_filter member, numbered⟩
  · rintro ⟨r, member, numbered⟩
    -- A run with a line that is not blank is a document.
    have proper : r.isBlank = false := by
      rw [Run.isBlank, List.all_eq_false]
      exact ⟨line, List.fst_mem_of_mem_zipIdx numbered, by rw [filled]; exact Bool.false_ne_true⟩
    exact ⟨r, List.mem_filter.mpr ⟨member, by rw [proper]; rfl⟩, numbered⟩

/-! ### Separators -/

/-- What follows a marker and a space on its line changes nothing. -/
theorem documents_inline {a x : String} (b : String) (ended : Text.Ended a) (whole : '\n' ∉ x.toList) :
    documents (a ++ "--- " ++ x ++ "\n" ++ b) = documents (a ++ "---\n" ++ b) := by
  have inline : Text.lines (a ++ "--- " ++ x ++ "\n" ++ b).toList =
      Text.lines a.toList ++ (['-', '-', '-', ' '] ++ Text.dropReturn x.toList) :: Text.lines b.toList := by
    have text : (a ++ "--- " ++ x ++ "\n" ++ b).toList =
        a.toList ++ ((['-', '-', '-', ' '] ++ x.toList) ++ '\n' :: b.toList) := by
      simp
    have single : '\n' ∉ ['-', '-', '-', ' '] ++ x.toList := by simpa using whole
    have next : Text.lines ((['-', '-', '-', ' '] ++ x.toList) ++ '\n' :: b.toList) =
        Text.dropReturn (['-', '-', '-', ' '] ++ x.toList) :: Text.lines b.toList :=
      Text.linesFrom_line single [] b.toList
    rw [text, Text.lines_append ended, next, Text.dropReturn_append _ _ (by decide)]
  have bare : Text.lines (a ++ "---\n" ++ b).toList =
      Text.lines a.toList ++ ['-', '-', '-'] :: Text.lines b.toList := by
    have text : (a ++ "---\n" ++ b).toList = a.toList ++ (['-', '-', '-'] ++ '\n' :: b.toList) := by simp
    rw [text, Text.lines_append ended]
    rfl
  unfold documents runs
  have marker : isSeparator ['-', '-', '-'] = true := by decide
  rw [inline, bare, runsFrom_append_separator (isSeparator_inline _), runsFrom_append_separator marker]

/-- A line with content is read unless it begins with a marker and a space. What
    follows these on the line is lost: the stream is read as one with the mere marker. -/
theorem content_reaches_iff (text : String) :
    (∀ line n, (line, n) ∈ numberedLines text → IsContent line →
      (Reaches text line n ↔ ¬ ['-', '-', '-', ' '] <+: line)) ∧
    (∀ a x b : String, text = a ++ "--- " ++ x ++ "\n" ++ b → Text.Ended a → '\n' ∉ x.toList →
      parseYaml text = parseYaml (a ++ "---\n" ++ b)) := by
  constructor
  · intro line n stands content
    rw [reaches_iff stands content.1, ← isSeparator_iff_inline content, Bool.not_eq_true]
  · rintro a x b rfl ended whole
    unfold parseYaml outcomes
    rw [documents_inline b ended whole]

/-- A document that begins on the line of its marker is neither a resource nor a
    diagnostic; on the next line it is a resource. -/
theorem inline_document_lost :
    let text := "--- {apiVersion: v1, kind: Pod, metadata: {name: a}}\n"
    let line := "--- {apiVersion: v1, kind: Pod, metadata: {name: a}}".toList
    (line, 1) ∈ numberedLines text ∧ IsContent line ∧ ¬ Reaches text line 1 ∧
    (parseYaml text).resources.length = 0 ∧ (parseYaml text).diagnostics = [] ∧
    (parseYaml "---\n{apiVersion: v1, kind: Pod, metadata: {name: a}}\n").resources.length = 1 := by
  intro text line
  have stands : (line, 1) ∈ numberedLines text := by decide +kernel
  have filled : isBlankLine line = false := by decide
  refine ⟨stands, ⟨filled, ?_⟩, ?_, by decide +kernel, by decide +kernel, by decide +kernel⟩
  · rintro ⟨rest, split, blank, _⟩
    have behind : rest = line.drop 3 := (congrArg (List.drop 3) split).symm
    rw [behind] at blank
    exact absurd blank (by decide)
  · rw [reaches_iff stands filled]
    decide

end Manifest

end InfraAudit
