import Mathlib.Data.List.TakeWhile
import Ambience.Params

/-!
# Records in texts

A text is written in rows, each with its line feed and perhaps a carriage return before it, and may go
on behind the last of them. Whether it is split at its line feeds or read as it comes in, its lines are
those rows. So a text that comes in gives a record for each of its lines that holds one, and the same
text at hand gives the last of these.
-/

namespace Ambience

/-! ## Written lines -/

namespace Text

/-- A line with the line feed that ends it. -/
structure Row where
  chars : List Char
  /-- Whether a carriage return comes before the line feed. -/
  returned : Bool
  unbroken : '\n' ∉ chars
  /-- A carriage return before the line feed is not of the line. -/
  distinct : returned = false → chars.getLast? ≠ some '\r'

/-- The characters of a row before its line feed. -/
def Row.piece (row : Row) : List Char := if row.returned then row.chars ++ ['\r'] else row.chars

/-- Rows, and what stands behind the last of them. -/
structure Layout where
  rows : List Row
  last : List Char
  unbroken : '\n' ∉ last

namespace Layout

/-- The characters that are laid out. -/
def chars (layout : Layout) : List Char :=
  (layout.rows.flatMap fun row => row.piece ++ ['\n']) ++ layout.last

/-- The lines that are laid out. What stands behind the last line feed is one unless it is empty. -/
def lines (layout : Layout) : List String :=
  layout.rows.map (fun row => String.ofList row.chars) ++ unended layout.last

end Layout

theorem Row.newline_not_mem_piece (row : Row) : '\n' ∉ row.piece := by
  unfold piece
  split
  · intro member
    rcases List.mem_append.1 member with inLine | isReturn
    · exact row.unbroken inLine
    · cases List.mem_singleton.1 isReturn
  · exact row.unbroken

theorem Row.withoutReturn_piece (row : Row) : withoutReturn row.piece = row.chars := by
  unfold piece withoutReturn
  split
  · rw [List.getLast?_concat, if_pos rfl, List.dropLast_concat]
  · rename_i plain
    exact if_neg (row.distinct (Bool.eq_false_iff.2 plain))

/-! ## Reading lines -/

/-- A line feed ends the line that has begun (`incoming`). -/
theorem incoming_append {piece : List Char} (unbroken : '\n' ∉ piece) (begun later : List Char) :
    incoming begun (piece ++ '\n' :: later) =
      String.ofList (withoutReturn (begun.reverse ++ piece)) :: incoming [] later := by
  induction piece generalizing begun with
  | nil =>
    rw [List.nil_append, List.append_nil, incoming, if_pos (beq_self_eq_true _)]
  | cons c rest ih =>
    obtain ⟨other, unbroken⟩ := not_or.1 (mt List.mem_cons.2 unbroken)
    have goesOn : ¬(c == '\n') = true := fun same => other (beq_iff_eq.1 same).symm
    rw [List.cons_append, incoming, if_neg goesOn, ih unbroken, List.reverse_cons, List.append_assoc]
    rfl

/-- Without a line feed the line that has begun is the last one. -/
theorem incoming_of_unbroken {last : List Char} (unbroken : '\n' ∉ last) (begun : List Char) :
    incoming begun last = unended (begun.reverse ++ last) := by
  induction last generalizing begun with
  | nil => rw [List.append_nil, incoming]
  | cons c rest ih =>
    obtain ⟨other, unbroken⟩ := not_or.1 (mt List.mem_cons.2 unbroken)
    have goesOn : ¬(c == '\n') = true := fun same => other (beq_iff_eq.1 same).symm
    rw [incoming, if_neg goesOn, ih unbroken, List.reverse_cons, List.append_assoc]
    rfl

/-- Characters that come in give the lines that they are laid out in (`Layout.lines`). -/
theorem incoming_chars (layout : Layout) : incoming [] layout.chars = layout.lines := by
  obtain ⟨rows, last, unbroken⟩ := layout
  unfold Layout.chars Layout.lines
  dsimp only
  induction rows with
  | nil => exact incoming_of_unbroken unbroken []
  | cons row later ih =>
    rw [List.flatMap_cons, List.append_assoc, List.append_assoc, List.singleton_append,
      incoming_append row.newline_not_mem_piece, ih, List.reverse_nil, List.nil_append,
      row.withoutReturn_piece]
    rfl

/-- Pieces behind a first one that a line feed ended. -/
theorem ofPieces_cons {later : List (List Char)} (more : later ≠ []) (piece : List Char) :
    ofPieces (piece :: later) = String.ofList (withoutReturn piece) :: ofPieces later := by
  obtain ⟨next, rest, rfl⟩ := List.exists_cons_of_ne_nil more
  rfl

/-- A text gives the same lines as it comes in (`incoming`) and when it is split at its line feeds
(`ofPieces`). -/
theorem ofPieces_splitOn (begun later : List Char) :
    ofPieces (List.splitOnPPrepend (· == '\n') later begun) = incoming begun later := by
  induction later generalizing begun with
  | nil => rfl
  | cons c later ih =>
    rw [List.splitOnPPrepend_cons_eq_if, incoming]
    split
    · rw [ofPieces_cons (List.splitOnP_ne_nil _ _), ← ih, List.splitOnPPrepend_nil_right]
    · exact ih (c :: begun)

/-- The two splitters agree on every text. -/
theorem lines_eq_incoming (text : String) : lines text = incoming [] text.toList :=
  ofPieces_splitOn [] text.toList

/-! ## Every text is laid out -/

/-- A character in front of what is laid out. It may be a line feed of its own, or begin the first
row, and a carriage return right before a line feed is of the end of its row. -/
theorem exists_layout_cons (c : Char) (layout : Layout) :
    ∃ longer : Layout, longer.chars = c :: layout.chars := by
  obtain ⟨rows, last, unbroken⟩ := layout
  by_cases feed : c = '\n'
  · refine ⟨⟨⟨[], false, List.not_mem_nil, fun _ => nofun⟩ :: rows, last, unbroken⟩, ?_⟩
    rw [feed]
    rfl
  have other : ∀ {chars : List Char}, '\n' ∉ chars → '\n' ∉ c :: chars := fun missing member =>
    (List.mem_cons.1 member).elim (fun same => feed same.symm) missing
  cases rows with
  | nil => exact ⟨⟨[], c :: last, other unbroken⟩, rfl⟩
  | cons row later =>
    obtain ⟨chars, returned, rowUnbroken, distinct⟩ := row
    by_cases lone : chars = [] ∧ returned = false ∧ c = '\r'
    · obtain ⟨rfl, rfl, rfl⟩ := lone
      exact ⟨⟨⟨[], true, List.not_mem_nil, nofun⟩ :: later, last, unbroken⟩, rfl⟩
    · have stillDistinct : returned = false → (c :: chars).getLast? ≠ some '\r' := by
        intro plain
        rw [List.getLast?_cons]
        cases ending : chars.getLast? with
        | none =>
          have empty := List.getLast?_eq_none_iff.1 ending
          exact fun same => lone ⟨empty, plain, Option.some.inj same⟩
        | some d =>
          rw [Option.getD_some]
          exact fun same => distinct plain (ending.trans same)
      refine ⟨⟨⟨c :: chars, returned, other rowUnbroken, stillDistinct⟩ :: later, last, unbroken⟩, ?_⟩
      cases returned <;> rfl

/-- Any characters are those of some `Layout`. -/
theorem exists_layout (chars : List Char) : ∃ layout : Layout, layout.chars = chars := by
  induction chars with
  | nil => exact ⟨⟨[], [], List.not_mem_nil⟩, rfl⟩
  | cons c later ih =>
    obtain ⟨layout, rfl⟩ := ih
    exact exists_layout_cons c layout

end Text

/-! ## Records -/

namespace Params

variable {α : Type} [Scalar α]

/-- There is no record on a blank line. -/
theorem parse_blank {line : String} (blank : ∀ c ∈ line.toList, Text.isBlank c = true) :
    (parse line : Option (Params α)) = .none := by
  have nothing : line.toList.dropWhile Text.isBlank = [] := List.dropWhile_eq_nil_iff.2 blank
  have trimmed : Text.trimChars line.toList = [] := by
    rw [Text.trimChars, nothing]
    rfl
  rw [parse, trimmed]
  rfl

/-- A text that comes in gives the records of its lines in order (`parseLines`), each line that
holds none being passed over, whether it ends with a line feed, with a carriage return and a line
feed, or with the text (`Text.Layout`). The same text at hand gives the last of these records
(`parseLast`), and none just where no line holds one. -/
theorem records_of_text (text : String) :
    ∃ layout : Text.Layout, layout.chars = text.toList ∧
      (parseLines text : List (Params α)) = layout.lines.filterMap parse ∧
      (parseLast text : Option (Params α)) = (parseLines text).getLast? ∧
      ((parseLast text : Option (Params α)) = .none ↔
        ∀ line ∈ layout.lines, (parse line : Option (Params α)) = .none) ∧
      ∀ line : String, (∀ c ∈ line.toList, Text.isBlank c = true) →
        (parse line : Option (Params α)) = .none := by
  obtain ⟨layout, laidOut⟩ := Text.exists_layout text.toList
  have lines : Text.incoming [] text.toList = layout.lines := by
    rw [← laidOut]
    exact Text.incoming_chars layout
  have records : (parseLines text : List (Params α)) = layout.lines.filterMap parse := by
    rw [parseLines, lines]
  have last : (parseLast text : Option (Params α)) = (parseLines text).getLast? := by
    rw [parseLast, Text.lines_eq_incoming, parseLines, List.getLast?_filterMap]
  refine ⟨layout, laidOut, records, last, ?_, fun line => parse_blank⟩
  rw [last, records, List.getLast?_eq_none_iff, List.filterMap_eq_nil_iff]

end Params

end Ambience
