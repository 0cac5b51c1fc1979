import InfraAudit.Proofs.Manifest.Coverage
import InfraAudit.Report.Markdown
import Mathlib.Algebra.Ring.Nat

/-!
The tables of reports in Markdown. A bar separates cells unless a backslash stands right
before it, so that a row is one line with the cells it was made of exactly when none of them
has a line feed or such a bar (`isRow_row_iff`). What goes through `cell` never has one
(`inert_cell`); the rule and the resource of a finding, and the address and the field of a
changed attribute, do not go through it.
-/
namespace InfraAudit

/-! ### Lines of texts made of lines -/

namespace Text

theorem lines_join_append {texts : List String} (all : ∀ t ∈ texts, Ended t) (rest : List Char) :
    lines ((String.join texts).toList ++ rest) = (texts.flatMap fun t => lines t.toList) ++ lines rest := by
  induction texts with
  | nil => rfl
  | cons t texts ih =>
    obtain ⟨first, later⟩ := List.forall_mem_cons.mp all
    rw [String.join_cons, String.toList_append, List.append_assoc, lines_append first, ih later, List.flatMap_cons,
      List.append_assoc]

theorem length_linesFrom_newline (seen line : List Char) :
    (linesFrom seen (line ++ ['\n'])).length = line.count '\n' + 1 := by
  induction line generalizing seen with
  | nil => rfl
  | cons c line ih =>
    by_cases feed : c = '\n'
    · simp [linesFrom, feed, ih]
    · simp [linesFrom, feed, ih]

end Text

namespace Report.Markdown

/-! ### Bars -/

/-- The number of the bars that separate cells in a text with a character before it. -/
def barsAfter (previous : Char) : List Char → Nat
  | [] => 0
  | c :: rest => (if c = '|' ∧ previous ≠ '\\' then 1 else 0) + barsAfter c rest

/-- The number of the bars that separate cells in a text: those with no backslash right
    before them. -/
def bars (text : List Char) : Nat := barsAfter ' ' text

/-- The number of the cells in a line of a table. -/
def cellCount (line : List Char) : Nat := bars line - 1

/-- A text is one line, with some number of cells. -/
def IsRow (n : Nat) (text : String) : Prop := ∃ line, Text.lines text.toList = [line] ∧ cellCount line = n

/-- A text that ends no line and no cell: it has no line feeds, and each bar stands right
    after a backslash. -/
def Inert (text : String) : Prop :=
  '\n' ∉ text.toList ∧ ∀ before after, text.toList = before ++ '|' :: after → before.getLast? = some '\\'

/-- A character that ends no line and no cell, and does not escape what follows. -/
def Neutral (c : Char) : Prop := c ≠ '|' ∧ c ≠ '\\' ∧ c ≠ '\n'

instance (c : Char) : Decidable (Neutral c) := inferInstanceAs (Decidable (_ ∧ _ ∧ _))

instance (n : Nat) (text : String) : Decidable (IsRow n text) :=
  decidable_of_iff ((Text.lines text.toList).map cellCount = [n]) (by rw [IsRow, List.map_eq_singleton_iff])

theorem barsAfter_append_cons {c : Char} (other : c ≠ '|') (previous : Char) (a b : List Char) :
    barsAfter previous (a ++ c :: b) = barsAfter previous a + barsAfter c b := by
  induction a generalizing previous with
  | nil => simp [barsAfter, other]
  | cons d a ih => rw [List.cons_append, barsAfter, barsAfter, ih, Nat.add_assoc]

theorem barsAfter_eq_bars {previous : Char} (other : previous ≠ '\\') (text : List Char) :
    barsAfter previous text = bars text := by
  cases text with
  | nil => rfl
  | cons c rest =>
    have space : (' ' : Char) ≠ '\\' := by decide
    simp [bars, barsAfter, other, space]

/-- The bars of a text are those before and after any neutral character. -/
theorem bars_append_cons {c : Char} (neutral : Neutral c) (a b : List Char) : bars (a ++ c :: b) = bars a + bars b := by
  rw [bars, barsAfter_append_cons neutral.1, barsAfter_eq_bars neutral.2.1]
  rfl

theorem barsAfter_eq_zero_iff (previous : Char) (text : List Char) :
    barsAfter previous text = 0 ↔
      ∀ before after, text = before ++ '|' :: after → before.getLast?.getD previous = '\\' := by
  -- What stands before the rest is the first character, so it varies in the induction.
  induction text generalizing previous with
  | nil => simp [barsAfter]
  | cons c rest ih =>
    rw [barsAfter, Nat.add_eq_zero_iff, ih]
    constructor
    · rintro ⟨first, later⟩ before after split
      cases before with
      | nil =>
        obtain ⟨rfl, _⟩ := List.cons.inj split
        by_contra escaped
        simp_all
      | cons d before =>
        obtain ⟨rfl, rest⟩ := List.cons.inj split
        have escaped := later before after rest
        cases before with
        | nil => exact escaped
        | cons e before => simpa [List.getLast?_cons, List.getLastD_cons] using escaped
    · intro all
      constructor
      · by_cases bar : c = '|'
        · have escaped : previous = '\\' := all [] rest (by rw [bar]; rfl)
          simp [escaped]
        · simp [bar]
      · intro before after split
        have escaped := all (c :: before) after (by rw [split]; rfl)
        rwa [List.getLast?_cons, Option.getD_some] at escaped

theorem inert_iff (text : String) : Inert text ↔ '\n' ∉ text.toList ∧ bars text.toList = 0 := by
  rw [Inert, bars, barsAfter_eq_zero_iff]
  refine and_congr_right fun _ => forall₂_congr fun before after => imp_congr_right fun _ => ?_
  cases before.getLast? with
  | none => simp
  | some c => simp

instance (text : String) : Decidable (Inert text) := decidable_of_iff _ (inert_iff text).symm

/-- A text is inert if it is so before and after any neutral character. -/
theorem inert_append_cons {c : Char} (neutral : Neutral c) (a b : List Char) :
    Inert (String.ofList (a ++ c :: b)) ↔ Inert (String.ofList a) ∧ Inert (String.ofList b) := by
  simp only [inert_iff, String.toList_ofList, bars_append_cons neutral, List.mem_append, List.mem_cons, neutral.2.2.symm,
    Nat.add_eq_zero_iff]
  tauto

/-! ### Rows -/

/-- What stands between the cells of a row. -/
theorem toList_separator : " | ".toList = [' ', '|', ' '] := by decide

theorem mem_intercalate_iff {c : Char} (noSpace : c ≠ ' ') (noBar : c ≠ '|') (cells : List String) :
    c ∈ (String.intercalate " | " cells).toList ↔ ∃ t ∈ cells, c ∈ t.toList := by
  rw [String.toList_intercalate, toList_separator]
  induction cells with
  | nil => simp
  | cons t cells ih =>
    cases cells with
    | nil => simp
    | cons u cells =>
      rw [List.map_cons, List.map_cons, List.intercalate_cons_cons, ← List.map_cons, List.mem_append, ih,
        List.mem_append, List.exists_mem_cons_iff]
      simp [noSpace, noBar]

theorem bars_intercalate (t : String) (cells : List String) :
    bars (String.intercalate " | " (t :: cells)).toList =
      cells.length + ((t :: cells).map fun u => bars u.toList).sum := by
  rw [String.toList_intercalate, toList_separator]
  induction cells generalizing t with
  | nil => simp
  | cons u cells ih =>
    have join : [' ', '|', ' '].intercalate ((t :: u :: cells).map String.toList) =
        t.toList ++ ' ' :: (['|'] ++ ' ' :: [' ', '|', ' '].intercalate ((u :: cells).map String.toList)) := by
      simp [List.intercalate_cons_cons]
    have bar : bars ['|'] = 1 := by decide
    rw [join, bars_append_cons (by decide), bars_append_cons (by decide), ih, bar]
    simp only [List.map_cons, List.sum_cons, List.length_cons]
    omega

/-- A line that ends with a line feed is a row if it has no other one. -/
theorem isRow_iff {line : List Char} (ended : line.getLast? ≠ some '\r') (n : Nat) :
    IsRow n (String.ofList (line ++ ['\n'])) ↔ '\n' ∉ line ∧ cellCount line = n := by
  rw [IsRow, String.toList_ofList]
  constructor
  · rintro ⟨only, alone, count⟩
    have single := Text.length_linesFrom_newline [] line
    rw [← Text.lines, alone, List.length_singleton] at single
    have single : '\n' ∉ line := List.count_eq_zero.mp (by omega)
    have whole := Text.linesFrom_line single [] []
    rw [← Text.lines, alone] at whole
    obtain ⟨rfl, _⟩ := List.cons.inj whole
    rw [List.reverse_nil, List.nil_append, Text.dropReturn, if_neg ended] at count
    exact ⟨single, count⟩
  · rintro ⟨whole, count⟩
    have whole := Text.linesFrom_line whole [] []
    rw [List.reverse_nil, List.nil_append, Text.dropReturn, if_neg ended] at whole
    exact ⟨line, whole, count⟩

/-- A row is one line with the cells it was made of if they are inert. -/
theorem isRow_row_iff (t : String) (cells : List String) :
    IsRow (cells.length + 1) (row (t :: cells)) ↔ ∀ u ∈ t :: cells, Inert u := by
  have split : row (t :: cells) =
      String.ofList ((['|'] ++ ' ' :: ((String.intercalate " | " (t :: cells)).toList ++ ' ' :: ['|'])) ++ ['\n']) := by
    apply String.toList_inj.mp
    simp [row]
  have bar : bars ['|'] = 1 := by decide
  -- The row ends with a bar, so no carriage return is dropped with its line feed.
  rw [split, isRow_iff (by simp [List.getLast?_cons]), cellCount, bars_append_cons (by decide),
    bars_append_cons (by decide), bars_intercalate, bar]
  have whole : '\n' ∉ ['|'] ++ ' ' :: ((String.intercalate " | " (t :: cells)).toList ++ ' ' :: ['|']) ↔
      ∀ u ∈ t :: cells, '\n' ∉ u.toList := by
    simp only [List.mem_append, List.mem_cons, mem_intercalate_iff (c := '\n') (by decide) (by decide)]
    simp
  have none : 1 + (cells.length + ((t :: cells).map fun u => bars u.toList).sum + 1) - 1 = cells.length + 1 ↔
      ∀ u ∈ t :: cells, bars u.toList = 0 := by
    rw [← List.forall_mem_map (P := fun n => n = 0), ← List.sum_eq_zero_iff_forall_eq_nat]
    omega
  simp only [whole, none, inert_iff, ← forall_and]

/-! ### Cells -/

/-- What goes through a cell has no bar that separates cells, whatever stands before it. -/
theorem barsAfter_flatMap_cellChar (previous : Char) (text : List Char) :
    barsAfter previous (text.flatMap cellChar) = 0 := by
  induction text generalizing previous with
  | nil => rfl
  | cons c text ih =>
    by_cases bar : c = '|'
    · simp [cellChar, bar, barsAfter, ih]
    · by_cases feed : c = '\n'
      · simp [cellChar, feed, barsAfter, ih]
      · simp [cellChar, bar, feed, barsAfter, ih]

theorem newline_notMem_cellChar (c : Char) : '\n' ∉ cellChar c := by
  unfold cellChar
  split_ifs with bar feed
  · decide
  · decide
  · exact fun same => feed (List.mem_singleton.mp same).symm

theorem inert_cell (text : String) : Inert (cell text) := by
  rw [inert_iff, cell, String.toList_ofList]
  refine ⟨fun kept => ?_, barsAfter_flatMap_cellChar ' ' text.toList⟩
  obtain ⟨c, _, kept⟩ := List.mem_flatMap.mp kept
  exact newline_notMem_cellChar c kept

theorem inert_empty : Inert "" := by decide

theorem inert_code_append_iff (text rest : String) : Inert (code text ++ rest) ↔ Inert text ∧ Inert rest := by
  have split : code text ++ rest = String.ofList ([] ++ '`' :: (text.toList ++ '`' :: rest.toList)) := by
    apply String.toList_inj.mp
    simp [code]
  rw [split, inert_append_cons (by decide), inert_append_cons (by decide), String.ofList_toList, String.ofList_toList]
  simp only [String.ofList_nil, inert_empty, true_and]

theorem inert_code_iff (text : String) : Inert (code text) ↔ Inert text := by
  rw [← String.append_empty (s := code text), inert_code_append_iff, and_iff_left inert_empty]

theorem inert_dotted_iff (a b : String) : Inert (a ++ "." ++ b) ↔ Inert a ∧ Inert b := by
  have split : a ++ "." ++ b = String.ofList (a.toList ++ '.' :: b.toList) := by
    apply String.toList_inj.mp
    simp
  rw [split, inert_append_cons (by decide), String.ofList_toList, String.ofList_toList]

theorem inert_parenthesized_iff (text : String) : Inert (" (" ++ text ++ ")") ↔ Inert text := by
  have split : " (" ++ text ++ ")" = String.ofList ([' '] ++ '(' :: (text.toList ++ ')' :: [])) := by
    apply String.toList_inj.mp
    simp
  have space : Inert (String.ofList [' ']) := by decide
  rw [split, inert_append_cons (by decide), inert_append_cons (by decide), String.ofList_toList]
  simp only [String.ofList_nil, inert_empty, space, true_and, and_true]

/-- The texts of a resource that a report shows. -/
def shownTexts (r : ResourceRef) : List String := r.resourceType :: r.name :: r.path.toList

theorem inert_resourceCell_iff (f : Finding) :
    Inert (resourceCell f) ↔ ∀ r, f.resource = some r → ∀ t ∈ shownTexts r, Inert t := by
  obtain ⟨_, _, _, _, resource, _⟩ := f
  cases resource with
  | none =>
    have dash : Inert "-" := by decide
    exact iff_of_true dash (by simp)
  | some r =>
    obtain ⟨type, name, path⟩ := r
    -- The path stands outside the code, in parentheses.
    cases path with
    | none =>
      refine (inert_code_append_iff (type ++ "." ++ name) "").trans ?_
      simp [inert_dotted_iff, shownTexts, inert_empty]
    | some path =>
      refine (inert_code_append_iff (type ++ "." ++ name) (" (" ++ path ++ ")")).trans ?_
      simp [inert_dotted_iff, inert_parenthesized_iff, shownTexts, and_assoc]

theorem inert_severityTag (s : Severity) : Inert (severityTag s) := by
  cases s <;> decide

/-- The row of a finding is one line with five cells if the rule and the resource are
    inert. -/
theorem isRow_findingRow_iff (f : Finding) :
    IsRow 5 (findingRow f) ↔ Inert f.ruleId ∧ ∀ r, f.resource = some r → ∀ t ∈ shownTexts r, Inert t := by
  have cells := isRow_row_iff (severityTag f.severity)
    [code f.ruleId, resourceCell f, cell (f.evidence.getD "-"), cell f.recommendation]
  refine cells.trans ?_
  simp [inert_severityTag, inert_cell, inert_code_iff, inert_resourceCell_iff]

/-- The row of a changed attribute is one line with four cells if the address and the field
    are inert. -/
theorem isRow_driftRow_iff (d : Plan.DriftDetail) : IsRow 4 (driftRow d) ↔ Inert d.address ∧ Inert d.field := by
  have cells := isRow_row_iff (code d.address) [code d.field, code (cell d.before.compact), code (cell d.after.compact)]
  refine cells.trans ?_
  simp [inert_cell, inert_code_iff]

/-! ### Tables -/

open Text (Ended lines)

theorem ended_row (cells : List String) : Ended (row cells) := by
  refine .inr ⟨"| " ++ String.intercalate " | " cells ++ " |", ?_⟩
  apply String.toList_inj.mp
  simp [row]

/-- The lines of a table, and of what stands around it. -/
theorem lines_table {before : String} (ended : Ended before) (columns rows : List String)
    (each : ∀ r ∈ rows, Ended r) (after : String) :
    lines (before ++ (tableHead columns ++ (String.join rows ++ ("\n" ++ after)))).toList =
      lines before.toList ++ lines (tableHead columns).toList ++ (rows.flatMap fun r => lines r.toList) ++
        [] :: lines after.toList := by
  have head : Ended (tableHead columns) := .inr ⟨_, rfl⟩
  have blank : lines ("\n".toList ++ after.toList) = [] :: lines after.toList := rfl
  rw [String.toList_append, Text.lines_append ended, String.toList_append, Text.lines_append head,
    String.toList_append, Text.lines_join_append each, String.toList_append, blank, List.append_assoc,
    List.append_assoc]

/-- The columns of the findings. -/
def findingColumns : List String := ["Severity", "Rule", "Resource", "Evidence", "Recommendation"]

/-- The columns of the changed attributes. -/
def driftColumns : List String := ["Resource", "Field", "Before", "After"]

/-- What a report says before the table of its findings. -/
def beforeFindings (v : View) : String := heading v ++ summary v ++ "### Findings\n\n"

/-- What a report says before the table of its changed attributes. -/
def beforeDrift (v : View) (d : Plan.Drift) : String :=
  heading v ++ summary v ++ findings v ++ analyses v ++
    ("### Changed attributes (" ++ toString d.changedResources ++ " resource(s))\n\n")

theorem lines_render_findings {v : View} (found : v.findings ≠ []) :
    lines (render v).toList =
      lines (beforeFindings v).toList ++ lines (tableHead findingColumns).toList ++
        (v.sortedFindings.flatMap fun f => lines (findingRow f).toList) ++
        [] :: lines (analyses v ++ drift v ++ warnings v).toList := by
  have ended : Ended (beforeFindings v) := Text.ended_append (heading v ++ summary v) "### Findings\n"
  have shown : findings v = "### Findings\n\n" ++ (tableHead findingColumns ++
      String.join (v.sortedFindings.map findingRow) ++ "\n") :=
    congrArg ("### Findings\n\n" ++ ·) (if_neg (by simpa using found))
  have table := lines_table ended findingColumns (v.sortedFindings.map findingRow)
    (List.forall_mem_map.mpr fun f _ => ended_row _) (analyses v ++ drift v ++ warnings v)
  rw [List.flatMap_map] at table
  rw [← table, render, shown, beforeFindings]
  simp only [String.append_assoc]

theorem lines_render_drift {v : View} {d : Plan.Drift} (shown : v.shownDrift? = some d) :
    lines (render v).toList =
      lines (beforeDrift v d).toList ++ lines (tableHead driftColumns).toList ++
        (d.details.flatMap fun x => lines (driftRow x).toList) ++ [] :: lines (warnings v).toList := by
  have ended : Ended (beforeDrift v d) := by
    have feeds : " resource(s))\n\n" = " resource(s))\n" ++ "\n" := by decide
    rw [beforeDrift, feeds, ← String.append_assoc]
    exact Text.ended_append _ _
  have made : drift v = "### Changed attributes (" ++ toString d.changedResources ++ " resource(s))\n\n" ++
      tableHead driftColumns ++ String.join (d.details.map driftRow) ++ "\n" := by
    unfold drift
    rw [shown]
    rfl
  have table := lines_table ended driftColumns (d.details.map driftRow)
    (List.forall_mem_map.mpr fun x _ => ended_row _) (warnings v)
  rw [List.flatMap_map] at table
  rw [← table, render, made, beforeDrift]
  simp only [String.append_assoc]

/-- The lines of a finding are among those of the report. -/
theorem mem_lines_of_finding {v : View} {f : Finding} (found : f ∈ v.findings) {line : List Char}
    (member : line ∈ lines (findingRow f).toList) : line ∈ lines (render v).toList := by
  have sorted : f ∈ v.sortedFindings := (v.findings.mergeSort_perm _).mem_iff.mpr found
  rw [lines_render_findings (List.ne_nil_of_mem found)]
  exact List.mem_append_left _ (List.mem_append_right _ (List.mem_flatMap_of_mem sorted member))

/-- The lines of a changed attribute are among those of the report. -/
theorem mem_lines_of_detail {v : View} {d : Plan.Drift} (shown : v.shownDrift? = some d) {x : Plan.DriftDetail}
    (listed : x ∈ d.details) {line : List Char} (member : line ∈ lines (driftRow x).toList) :
    line ∈ lines (render v).toList := by
  rw [lines_render_drift shown]
  exact List.mem_append_left _ (List.mem_append_right _ (List.mem_flatMap_of_mem listed member))

/-- The tables of a report. Each finding and each changed attribute has its row there, which
    is one line with a cell for each column unless the rule or the resource of the finding,
    or the address or the field of the attribute, has a line feed or a bar that nothing
    escapes. The other texts cannot break a row. -/
theorem render_tables_well_formed_iff (v : View) :
    (v.findings ≠ [] → lines (render v).toList =
      lines (beforeFindings v).toList ++ lines (tableHead findingColumns).toList ++
        (v.sortedFindings.flatMap fun f => lines (findingRow f).toList) ++
        [] :: lines (analyses v ++ drift v ++ warnings v).toList) ∧
    v.sortedFindings.Perm v.findings ∧
    (∀ f, IsRow 5 (findingRow f) ↔ Inert f.ruleId ∧ ∀ r, f.resource = some r → ∀ t ∈ shownTexts r, Inert t) ∧
    (∀ d, v.shownDrift? = some d → lines (render v).toList =
      lines (beforeDrift v d).toList ++ lines (tableHead driftColumns).toList ++
        (d.details.flatMap fun x => lines (driftRow x).toList) ++ [] :: lines (warnings v).toList) ∧
    (∀ x, IsRow 4 (driftRow x) ↔ Inert x.address ∧ Inert x.field) :=
  ⟨lines_render_findings, v.findings.mergeSort_perm _, isRow_findingRow_iff, fun _ => lines_render_drift,
    isRow_driftRow_iff⟩

/-- A finding about the resource with some address. -/
def aclFinding (path evidence : String) : Finding :=
  ⟨"storage-public-access", .high, "Public bucket", "", some ⟨"aws_s3_bucket", "logs", some path⟩, some evidence,
    "Set ACL to private", []⟩

/-- A report of one finding and one changed attribute of the resource with some address. -/
def aclView (address evidence : String) : View :=
  { title := "", summary := [], findings := [aclFinding address evidence], ruleFailures := [], diagnostics := [],
    analyses := [],
    drift := some ⟨1, [⟨address, "acl", .string "private", .string "public|read"⟩]⟩ }

/-- Bars and line feeds in the evidence stay in their cell. -/
theorem render_tables_well_formed_iff_escaped :
    IsRow 5 (findingRow (aclFinding "aws_s3_bucket.logs" "public|\nread")) := by
  obtain ⟨_, _, rows, _⟩ := render_tables_well_formed_iff (aclView "aws_s3_bucket.logs" "public|\nread")
  refine (rows _).mpr ⟨by decide, ?_⟩
  rintro _ ⟨⟩
  decide

/-- A bar in the address of a resource begins another cell in either table: the only line of
    the finding has six cells, and that of the changed attribute has five. -/
theorem bar_in_address_splits_cell :
    (∃ f ∈ (aclView "aws_s3_bucket.logs[\"a|b\"]" "public-read").findings,
      ∃ line ∈ lines (render (aclView "aws_s3_bucket.logs[\"a|b\"]" "public-read")).toList,
        lines (findingRow f).toList = [line] ∧ cellCount line = 6) ∧
    (∃ d, (aclView "aws_s3_bucket.logs[\"a|b\"]" "public-read").shownDrift? = some d ∧
      ∃ x ∈ d.details, ∃ line ∈ lines (render (aclView "aws_s3_bucket.logs[\"a|b\"]" "public-read")).toList,
        lines (driftRow x).toList = [line] ∧ cellCount line = 5) := by
  have six : IsRow 6 (findingRow (aclFinding "aws_s3_bucket.logs[\"a|b\"]" "public-read")) := by decide +kernel
  have five : IsRow 5 (driftRow
      ⟨"aws_s3_bucket.logs[\"a|b\"]", "acl", .string "private", .string "public|read"⟩) := by decide +kernel
  obtain ⟨line, only, count⟩ := six
  obtain ⟨line', only', count'⟩ := five
  refine ⟨⟨_, List.mem_cons_self, line, ?_, only, count⟩, ⟨_, rfl, _, List.mem_cons_self, line', ?_, only', count'⟩⟩
  · exact mem_lines_of_finding List.mem_cons_self (only ▸ List.mem_singleton_self line)
  · exact mem_lines_of_detail rfl List.mem_cons_self (only' ▸ List.mem_singleton_self line')

end Report.Markdown

end InfraAudit
