import InfraAudit.Manifest.Document
import Mathlib.Data.List.Basic

/-!
How streams are divided. A text that ends with a line feed keeps its lines when more
text follows it (`lines_append`), and a separator line after it divides the stream:
the documents before the separator are those of the first text, and those after it
are the documents of the second, further down (`documents_append`).
-/
namespace InfraAudit

/-! ### Lines -/

namespace Text

/-- A text whose last line, if it has one, is ended by a line feed. -/
def Ended (text : String) : Prop := text = "" ∨ ∃ line, text = line ++ "\n"

theorem ended_append (a b : String) : Ended (a ++ (b ++ "\n")) := .inr ⟨a ++ b, String.append_assoc.symm⟩

theorem Ended.append {a b : String} (first : Ended a) (second : Ended b) : Ended (a ++ b) := by
  rcases second with rfl | ⟨line, rfl⟩
  · rwa [String.append_empty]
  · exact ended_append a line

theorem ended_join {texts : List String} (all : ∀ t ∈ texts, Ended t) : Ended (String.join texts) := by
  induction texts with
  | nil => exact .inl rfl
  | cons t texts ih =>
    obtain ⟨first, later⟩ := List.forall_mem_cons.mp all
    rw [String.join_cons]
    exact first.append (ih later)

theorem linesFrom_append_newline (seen front rest : List Char) :
    linesFrom seen (front ++ '\n' :: rest) = linesFrom seen (front ++ ['\n']) ++ linesFrom [] rest := by
  induction front generalizing seen with
  | nil => simp [linesFrom]
  | cons c front ih =>
    by_cases feed : c = '\n'
    · simp only [List.cons_append, linesFrom, feed, ↓reduceIte, ih []]
    · simp only [List.cons_append, linesFrom, feed, ↓reduceIte, ih (c :: seen)]

theorem lines_append {a : String} (ended : Ended a) (rest : List Char) :
    lines (a.toList ++ rest) = lines a.toList ++ lines rest := by
  rcases ended with rfl | ⟨line, rfl⟩
  · rfl
  · have split : (line ++ "\n").toList = line.toList ++ ['\n'] := String.toList_append
    rw [split, List.append_assoc, List.singleton_append]
    exact linesFrom_append_newline [] line.toList rest

end Text

namespace Manifest

/-! ### Runs -/

/-- A run that stands further down in its stream. -/
def Run.shift (n : Nat) (r : Run) : Run := { r with start := r.start + n }

theorem runsFrom_shift (n start : Nat) (pending : List (List Char)) (line : Nat) (ls : List (List Char)) :
    runsFrom (start + n) pending (line + n) ls = (runsFrom start pending line ls).map (Run.shift n) := by
  induction ls generalizing start pending line with
  | nil => rfl
  | cons l rest ih =>
    have next : line + n + 1 = line + 1 + n := by omega
    by_cases separator : isSeparator l
    · simp only [runsFrom, separator, ↓reduceIte, List.map_cons, next, ih (line + 1) [] (line + 1)]
      rfl
    · simp only [runsFrom, separator, Bool.false_eq_true, ↓reduceIte, next, ih start (pending ++ [l]) (line + 1)]

/-- A separator ends the runs before it, and counting goes on after it. -/
theorem runsFrom_append_separator {separator : List Char} (isSep : isSeparator separator = true)
    (start : Nat) (pending : List (List Char)) (line : Nat) (front rest : List (List Char)) :
    runsFrom start pending line (front ++ separator :: rest) =
      runsFrom start pending line front ++
        runsFrom (line + front.length + 1) [] (line + front.length + 1) rest := by
  induction front generalizing start pending line with
  | nil => simp [runsFrom, isSep]
  | cons l front ih =>
    have count : line + (l :: front).length + 1 = line + 1 + front.length + 1 := by
      rw [List.length_cons]
      omega
    rw [count, List.cons_append]
    by_cases found : isSeparator l
    · simp only [runsFrom, found, ↓reduceIte, ih, List.cons_append]
    · simp only [runsFrom, found, Bool.false_eq_true, ↓reduceIte, ih]

theorem runs_append {a : String} (ended : Text.Ended a) (b : String) :
    runs (a ++ "---\n" ++ b).toList =
      runs a.toList ++ (runs b.toList).map (Run.shift ((Text.lines a.toList).length + 1)) := by
  have ls : Text.lines (a ++ "---\n" ++ b).toList =
      Text.lines a.toList ++ ['-', '-', '-'] :: Text.lines b.toList := by
    rw [String.toList_append, String.toList_append, List.append_assoc, Text.lines_append ended]
    rfl
  have isSep : isSeparator ['-', '-', '-'] = true := by decide
  unfold runs
  rw [ls, runsFrom_append_separator isSep, ← runsFrom_shift]
  have count : 1 + (Text.lines a.toList).length + 1 = 1 + ((Text.lines a.toList).length + 1) := by omega
  rw [count]

/-! ### Documents -/

/-- The documents of a stream that goes on after a separator. -/
theorem documents_append {a : String} (ended : Text.Ended a) (b : String) :
    documents (a ++ "---\n" ++ b) =
      documents a ++ (documents b).map (Run.shift ((Text.lines a.toList).length + 1)) := by
  unfold documents
  rw [runs_append ended, List.filter_append, List.filter_map]
  rfl

end Manifest

end InfraAudit
