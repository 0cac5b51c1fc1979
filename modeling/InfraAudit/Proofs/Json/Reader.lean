import InfraAudit.Json.Reader
import InfraAudit.Proofs.Value.Order
import Mathlib.Data.List.Infix

/-!
What the readers of JSON text guarantee. Every reader stops at an end of the text it is
given, with its result as well as with a fault, so that the line a fault names is a line of
the text (`line_of_parse_error`). And what a text denotes has its keys in order
(`sortKeys_of_parse`).
-/
namespace InfraAudit.Json

/-- A reader stops inside a text: what it leaves, or what stands after its fault, is an
    end of the text. -/
def StopsIn {α : Type} (text : List Char) : Reading α → Prop
  | .ok (_, rest) => rest <:+ text
  | .error fault => fault.rest <:+ text

section
variable {α : Type} {text rest : List Char} {c : Char}

theorem suffix_of_cons (left : c :: rest <:+ text) : rest <:+ text := (List.suffix_cons c rest).trans left

theorem stopsIn_ok {a : α} (left : rest <:+ text) : StopsIn text (.ok (a, rest)) := left

theorem stopsIn_endFault : StopsIn text (endFault : Reading α) := List.nil_suffix

theorem stopsIn_offending (left : rest <:+ text) : StopsIn text (offending rest : Reading α) := left

theorem stopsIn_faultAt (left : rest <:+ text) : StopsIn text (faultAt rest : Reading α) := by
  cases rest with
  | nil => exact stopsIn_endFault
  | cons c rest => exact suffix_of_cons left

theorem skipSpace_suffix (left : rest <:+ text) : skipSpace rest <:+ text :=
  (List.dropWhile_suffix _).trans left

theorem stopsIn_map {β : Type} {r : Reading α} (f : α → β) (stops : StopsIn text r) :
    StopsIn text (r.map fun (a, rest) => (f a, rest)) := by
  cases r <;> exact stops

theorem suffix_of_error {r : Reading α} {e : Fault} (stops : StopsIn text r) (fault : r = .error e) :
    e.rest <:+ text := by
  rw [fault] at stops
  exact stops

theorem suffix_of_ok {r : Reading α} {a : α} (stops : StopsIn text r) (read : r = .ok (a, rest)) :
    rest <:+ text := by
  rw [read] at stops
  exact stops

theorem stopsIn_readWord {result : α} {letters : List Char} (left : rest <:+ text) :
    StopsIn text (readWord result letters rest) := by
  fun_induction readWord result letters rest with
  | case1 => exact left
  | case2 => exact stopsIn_endFault
  | case3 letters c rest ih => exact ih (suffix_of_cons left)
  | case4 l letters c rest other => exact stopsIn_offending (suffix_of_cons left)

/-! ### Numbers -/

theorem stopsIn_readDouble {negative : Bool} {n : Nat} {e : Int} (left : rest <:+ text) :
    StopsIn text (readDouble negative n e rest) := by
  unfold readDouble
  cases scaled? n e <;> exact left

theorem stopsIn_readExponentDigits {negative positive : Bool} {n e : Nat} {start : Int} (left : rest <:+ text) :
    StopsIn text (readExponentDigits negative n start positive e rest) := by
  induction rest generalizing e with
  | nil => exact stopsIn_readDouble left
  | cons c rest ih =>
    rw [readExponentDigits]
    have after := suffix_of_cons left
    cases digit? c with
    | none => exact stopsIn_readDouble left
    | some d =>
      dsimp only
      split
      · split
        · exact stopsIn_offending after
        · exact (List.dropWhile_suffix _).trans after
      · exact ih after

theorem stopsIn_readExponent {negative : Bool} {n : Nat} {start : Int} (left : rest <:+ text) :
    StopsIn text (readExponent negative n start rest) := by
  unfold readExponent
  split
  next positive digits signed =>
    -- A sign, if there is one, is passed over.
    have unsigned : digits <:+ text := by
      split at signed <;> obtain ⟨rfl, rfl⟩ := Prod.mk.inj signed
      · exact suffix_of_cons left
      · exact suffix_of_cons left
      · exact left
    cases digits with
    | nil => exact stopsIn_endFault
    | cons c rest =>
      dsimp only
      cases digit? c with
      | none => exact stopsIn_offending (suffix_of_cons unsigned)
      | some d => exact stopsIn_readExponentDigits (suffix_of_cons unsigned)

theorem stopsIn_readScale {negative : Bool} {n : Nat} {e : Int} (left : rest <:+ text) :
    StopsIn text (readScale negative n e rest) := by
  unfold readScale
  split
  · exact stopsIn_readExponent (suffix_of_cons left)
  · exact stopsIn_readExponent (suffix_of_cons left)
  · exact stopsIn_readDouble left

theorem stopsIn_readFraction {negative seen : Bool} {n : Nat} {e : Int} (left : rest <:+ text) :
    StopsIn text (readFraction negative n e seen rest) := by
  induction rest generalizing n e seen with
  | nil =>
    rw [readFraction]
    cases seen
    · exact stopsIn_endFault
    · exact stopsIn_readScale left
  | cons c rest ih =>
    rw [readFraction]
    have after := suffix_of_cons left
    cases digit? c with
    | none =>
      cases seen
      · exact stopsIn_offending after
      · exact stopsIn_readScale left
    | some d =>
      dsimp only
      split
      · exact stopsIn_readScale ((List.dropWhile_suffix _).trans after)
      · exact ih after

theorem stopsIn_readLongInteger {negative : Bool} {n e : Nat} (left : rest <:+ text) :
    StopsIn text (readLongInteger negative n e rest) := by
  induction rest generalizing e with
  | nil => exact stopsIn_readDouble left
  | cons c rest ih =>
    rw [readLongInteger]
    have after := suffix_of_cons left
    split
    · exact ih after
    · split
      · exact stopsIn_readFraction after
      · exact stopsIn_readScale left

theorem stopsIn_readInteger {negative : Bool} {n : Nat} (left : rest <:+ text) :
    StopsIn text (readInteger negative n rest) := by
  induction rest generalizing n with
  | nil => exact left
  | cons c rest ih =>
    rw [readInteger]
    have after := suffix_of_cons left
    cases digit? c with
    | some d =>
      dsimp only
      split
      · exact stopsIn_readLongInteger after
      · exact ih after
    | none =>
      dsimp only
      split
      · exact stopsIn_readFraction after
      · split
        · exact stopsIn_readExponent after
        · exact left

theorem stopsIn_readNumber {negative : Bool} (left : rest <:+ text) :
    StopsIn text (readNumber negative rest) := by
  unfold readNumber
  split
  · exact stopsIn_endFault
  · have after := suffix_of_cons left
    split
    · split
      · exact stopsIn_offending (suffix_of_cons after)
      · exact stopsIn_readInteger after
    · exact stopsIn_readInteger after
  · have after := suffix_of_cons left
    split
    · exact stopsIn_readInteger after
    · exact stopsIn_offending after

/-! ### Strings -/

theorem suffix_of_dropBytes? {count : Nat} {after : List Char} (left : rest <:+ text)
    (dropped : dropBytes? count rest = some after) : after <:+ text := by
  fun_induction dropBytes? count rest with
  | case1 rest => exact Option.some.inj dropped ▸ left
  | case2 => cases dropped
  | case3 count c rest ih => exact ih (suffix_of_cons left) dropped

theorem stopsIn_readUnit (left : rest <:+ text) : StopsIn text (readUnit rest) := by
  unfold readUnit
  split
  · exact stopsIn_endFault
  · next dropped =>
    have after := suffix_of_dropBytes? left dropped
    split <;> exact after

theorem stopsIn_readUnicode (left : rest <:+ text) : StopsIn text (readUnicode rest) := by
  unfold readUnicode
  have first := stopsIn_readUnit left
  split
  · next fault => exact suffix_of_error first fault
  · next read =>
    have left := suffix_of_ok first read
    split
    · exact stopsIn_offending left
    · split
      · exact stopsIn_ok left
      · split
        · have second := stopsIn_readUnit (suffix_of_cons (suffix_of_cons left))
          split
          · next fault => exact suffix_of_error second fault
          · next read =>
            have left := suffix_of_ok second read
            split
            · exact stopsIn_ok left
            · exact stopsIn_offending left
        · exact stopsIn_faultAt (suffix_of_cons left)
        · exact stopsIn_faultAt left

theorem stopsIn_readString (fuel : Nat) (seen : List Char) (left : rest <:+ text) :
    StopsIn text (readString fuel seen rest) := by
  induction fuel generalizing seen rest with
  | zero => exact stopsIn_endFault
  | succ fuel ih =>
    cases rest with
    | nil => exact stopsIn_endFault
    | cons c rest =>
      unfold readString
      have after := suffix_of_cons left
      split
      · exact stopsIn_ok after
      · split
        · split
          · exact stopsIn_endFault
          · have unicode := stopsIn_readUnicode (suffix_of_cons after)
            split
            · next fault => exact suffix_of_error unicode fault
            · next read => exact ih _ (suffix_of_ok unicode read)
          · split
            · exact ih _ (suffix_of_cons after)
            · exact stopsIn_offending (suffix_of_cons after)
        · split
          · exact stopsIn_offending after
          · exact ih _ after

/-! ### Values -/

section
variable {fuel : Nat}
  (values : ∀ (depth : Nat) {rest : List Char}, rest <:+ text → StopsIn text (readValue fuel depth rest))
  (items : ∀ {depth : Nat} {seen : List Value} {rest : List Char},
    rest <:+ text → StopsIn text (readItems fuel depth seen rest))
  (fields : ∀ {depth : Nat} {seen : Fields} {rest : List Char},
    rest <:+ text → StopsIn text (readFields fuel depth seen rest))

include items fields in
theorem stopsIn_readValue_succ {depth : Nat} (left : rest <:+ text) :
    StopsIn text (readValue (fuel + 1) depth rest) := by
  rw [readValue]
  have start := skipSpace_suffix left
  generalize skipSpace rest = begun at start ⊢
  split
  · exact stopsIn_endFault
  · exact stopsIn_readWord (suffix_of_cons start)
  · exact stopsIn_readWord (suffix_of_cons start)
  · exact stopsIn_readWord (suffix_of_cons start)
  · exact stopsIn_map _ (stopsIn_readString _ _ (suffix_of_cons start))
  · cases depth with
    | zero => exact stopsIn_offending (suffix_of_cons start)
    | succ depth => exact items (suffix_of_cons start)
  · cases depth with
    | zero => exact stopsIn_offending (suffix_of_cons start)
    | succ depth => exact fields (suffix_of_cons start)
  · exact stopsIn_map _ (stopsIn_readNumber (suffix_of_cons start))
  · split
    · exact stopsIn_map _ (stopsIn_readNumber start)
    · exact stopsIn_offending (suffix_of_cons start)

include values items in
theorem stopsIn_readItems_succ {depth : Nat} {seen : List Value} (left : rest <:+ text) :
    StopsIn text (readItems (fuel + 1) depth seen rest) := by
  rw [readItems]
  have start := skipSpace_suffix left
  generalize skipSpace rest = begun at start ⊢
  split
  · exact stopsIn_endFault
  · exact stopsIn_ok (suffix_of_cons start)
  · extract_lets item
    have begins : StopsIn text (item.map ((), ·)) := by
      unfold item
      split
      · exact start
      · split
        · have second := skipSpace_suffix (suffix_of_cons start)
          generalize skipSpace _ = begun at second ⊢
          split
          · exact List.nil_suffix
          · exact suffix_of_cons second
          · exact second
        · exact suffix_of_cons start
    clear_value item
    split
    · exact begins
    · have value := values depth begins
      split
      · next fault => exact suffix_of_error value fault
      · next read => exact items (suffix_of_ok value read)

include values fields in
theorem stopsIn_readFields_succ {depth : Nat} {seen : Fields} (left : rest <:+ text) :
    StopsIn text (readFields (fuel + 1) depth seen rest) := by
  rw [readFields]
  have start := skipSpace_suffix left
  generalize skipSpace rest = begun at start ⊢
  split
  · exact stopsIn_endFault
  · exact stopsIn_ok (suffix_of_cons start)
  · extract_lets key
    have begins : StopsIn text (key.map ((), ·)) := by
      unfold key
      split
      · exact start
      · split
        · have second := skipSpace_suffix (suffix_of_cons start)
          generalize skipSpace _ = begun at second ⊢
          split
          · exact List.nil_suffix
          · exact second
        · exact suffix_of_cons start
    clear_value key
    split
    · exact begins
    · have string := stopsIn_readString fuel [] (suffix_of_cons begins)
      split
      · next fault => exact suffix_of_error string fault
      · next read =>
        have colon := skipSpace_suffix (suffix_of_ok string read)
        generalize skipSpace _ = begun at colon ⊢
        split
        · have value := values depth (suffix_of_cons colon)
          split
          · next fault => exact suffix_of_error value fault
          · next read => exact fields (suffix_of_ok value read)
        · exact stopsIn_faultAt colon
    · exact stopsIn_faultAt begins

end

/-- Reading a value, the items of an array or the fields of an object stops inside the text. -/
theorem stopsIn_read (fuel depth : Nat) (left : rest <:+ text) :
    StopsIn text (readValue fuel depth rest) ∧
      (∀ seen, StopsIn text (readItems fuel depth seen rest)) ∧
      (∀ seen, StopsIn text (readFields fuel depth seen rest)) := by
  induction fuel generalizing depth rest with
  | zero => exact ⟨stopsIn_endFault, fun _ => stopsIn_endFault, fun _ => stopsIn_endFault⟩
  | succ fuel ih =>
    have values := fun depth rest (left : rest <:+ text) => (ih depth left).1
    have items := fun depth seen rest (left : rest <:+ text) => (ih depth left).2.1 seen
    have fields := fun depth seen rest (left : rest <:+ text) => (ih depth left).2.2 seen
    exact ⟨stopsIn_readValue_succ (items _ _ _) (fields _ _ _) left,
      fun seen => stopsIn_readItems_succ (fun d => values d _) (items _ _ _) left,
      fun seen => stopsIn_readFields_succ (fun d => values d _) (fields _ _ _) left⟩

end

theorem readText_fault_suffix {text : List Char} {e : Fault} (fault : readText text = .error e) : e.rest <:+ text := by
  have value := (stopsIn_read (2 * text.length + 2) deepest (List.suffix_refl text)).1
  unfold readText at fault
  split at fault
  · next stopped => exact Except.error.inj fault ▸ suffix_of_error value stopped
  · next read =>
    have space := skipSpace_suffix (suffix_of_ok value read)
    generalize skipSpace _ = after at space fault
    split at fault
    · cases fault
    · exact Except.error.inj fault ▸ suffix_of_cons space

/-- The line that a fault names is a line of the text. -/
theorem line_of_parse_error {text : String} {e : SyntaxError} (fault : parse text = .error e) :
    1 ≤ e.line ∧ e.line ≤ lineFeeds text.toList + 1 := by
  unfold parse at fault
  split at fault
  · cases fault
  · next stopped =>
    have fewer : lineFeeds _ ≤ lineFeeds text.toList := (readText_fault_suffix stopped).sublist.count_le '\n'
    cases fault
    dsimp only
    omega

/-! ### Keys in order -/

/-- A reader gives no value whose keys are out of order. -/
def GivesOrdered (r : Reading Value) : Prop := ∀ v rest, r = .ok (v, rest) → v.sortKeys = v

section
variable {text : List Char}

theorem givesOrdered_ok {v : Value} (ordered : v.sortKeys = v) : GivesOrdered (.ok (v, text)) := by
  rintro _ _ ⟨⟩
  exact ordered

theorem givesOrdered_error (e : Fault) : GivesOrdered (.error e) := nofun

theorem givesOrdered_faultAt (text : List Char) : GivesOrdered (faultAt text) := by
  cases text <;> exact givesOrdered_error _

theorem givesOrdered_readWord {v : Value} {letters : List Char} (ordered : v.sortKeys = v) :
    GivesOrdered (readWord v letters text) := by
  fun_induction readWord v letters text with
  | case1 => exact givesOrdered_ok ordered
  | case2 => exact givesOrdered_error _
  | case3 letters c rest ih => exact ih
  | case4 => exact givesOrdered_error _

theorem givesOrdered_map {α : Type} {f : α → Value} (ordered : ∀ a, (f a).sortKeys = f a) (r : Reading α) :
    GivesOrdered (r.map fun (a, rest) => (f a, rest)) := by
  cases r with
  | error e => exact givesOrdered_error e
  | ok result => exact givesOrdered_ok (ordered result.1)

section
variable {fuel : Nat}
  (values : ∀ depth text, GivesOrdered (readValue fuel depth text))
  (items : ∀ depth {seen : List Value} text, (∀ v ∈ seen, v.sortKeys = v) → GivesOrdered (readItems fuel depth seen text))
  (fields : ∀ depth {seen : Fields} text, (∀ f ∈ seen, f.2.sortKeys = f.2) →
    GivesOrdered (readFields fuel depth seen text))

include items fields in
theorem givesOrdered_readValue_succ (depth : Nat) (text : List Char) :
    GivesOrdered (readValue (fuel + 1) depth text) := by
  rw [readValue]
  split
  · exact givesOrdered_error _
  · exact givesOrdered_readWord rfl
  · exact givesOrdered_readWord rfl
  · exact givesOrdered_readWord rfl
  · exact givesOrdered_map (fun _ => rfl) _
  · cases depth with
    | zero => exact givesOrdered_error _
    | succ depth => exact items depth _ (List.forall_mem_nil _)
  · cases depth with
    | zero => exact givesOrdered_error _
    | succ depth => exact fields depth _ (List.forall_mem_nil _)
  · exact givesOrdered_map (fun _ => rfl) _
  · split
    · exact givesOrdered_map (fun _ => rfl) _
    · exact givesOrdered_error _

include values items in
theorem givesOrdered_readItems_succ (depth : Nat) {seen : List Value} (text : List Char)
    (ordered : ∀ v ∈ seen, v.sortKeys = v) : GivesOrdered (readItems (fuel + 1) depth seen text) := by
  rw [readItems]
  split
  · exact givesOrdered_error _
  · have all : ∀ v ∈ seen.reverse, v.sortKeys = v := fun v member => ordered v (List.mem_reverse.mp member)
    exact givesOrdered_ok (congrArg Value.array (Value.sortItems_eq_self all))
  · extract_lets item
    clear_value item
    split
    · exact givesOrdered_error _
    · split
      · exact givesOrdered_error _
      · next read =>
        exact items depth _ (List.forall_mem_cons.mpr ⟨values _ _ _ _ read, ordered⟩)

include values fields in
theorem givesOrdered_readFields_succ (depth : Nat) {seen : Fields} (text : List Char)
    (ordered : ∀ f ∈ seen, f.2.sortKeys = f.2) : GivesOrdered (readFields (fuel + 1) depth seen text) := by
  rw [readFields]
  split
  · exact givesOrdered_error _
  · have all : ∀ f ∈ seen.reverse, f.2.sortKeys = f.2 := fun f member => ordered f (List.mem_reverse.mp member)
    exact givesOrdered_ok (Value.sortKeys_ofFields all)
  · extract_lets key
    clear_value key
    split
    · exact givesOrdered_error _
    · split
      · exact givesOrdered_error _
      · split
        · split
          · exact givesOrdered_error _
          · next read =>
            exact fields depth _ (List.forall_mem_cons.mpr ⟨values _ _ _ _ read, ordered⟩)
        · exact givesOrdered_faultAt _
    · exact givesOrdered_faultAt _

end

theorem givesOrdered_read (fuel depth : Nat) (text : List Char) :
    GivesOrdered (readValue fuel depth text) ∧
      (∀ seen : List Value, (∀ v ∈ seen, v.sortKeys = v) → GivesOrdered (readItems fuel depth seen text)) ∧
      (∀ seen : Fields, (∀ f ∈ seen, f.2.sortKeys = f.2) → GivesOrdered (readFields fuel depth seen text)) := by
  induction fuel generalizing depth text with
  | zero =>
    exact ⟨givesOrdered_error _, fun _ _ => givesOrdered_error _, fun _ _ => givesOrdered_error _⟩
  | succ fuel ih =>
    have values := fun depth text => (ih depth text).1
    have items := fun depth seen text => (ih depth text).2.1 seen
    have fields := fun depth seen text => (ih depth text).2.2 seen
    exact ⟨givesOrdered_readValue_succ (items · _) (fields · _) depth text,
      fun _ => givesOrdered_readItems_succ values (items · _) depth text,
      fun _ => givesOrdered_readFields_succ values (fields · _) depth text⟩

end

/-- What a JSON text denotes has its keys in order. -/
theorem sortKeys_of_parse {text : String} {v : Value} (parsed : parse text = .ok v) : v.sortKeys = v := by
  have ordered := (givesOrdered_read (2 * text.toList.length + 2) deepest text.toList).1
  unfold parse readText at parsed
  split at parsed
  · next whole =>
    split at whole
    · cases whole
    · next read =>
      split at whole
      · exact Except.ok.inj parsed ▸ Except.ok.inj whole ▸ ordered _ _ read
      · cases whole
  · cases parsed

end InfraAudit.Json
