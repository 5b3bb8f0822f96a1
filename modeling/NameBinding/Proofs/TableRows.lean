/-
This file reads the rows of a table back from its text. The text is cut into its lines; the lines
that begin with the upright stroke show rows, and the strokes cut such a line into cells with blanks
around them. So what a table shows can be said without the widths of its columns and without its
frame. A cell is read back if it has no line break and no stroke in it and no blank at its ends.
-/

import Mathlib.Data.List.DropRight
import NameBinding.Report.Grid

namespace NameBinding

namespace Grid

/-- A text without the blanks at its ends. -/
def trimmed (chars : List Char) : List Char :=
  (chars.dropWhile (· == ' ')).rdropWhile (· == ' ')

/-- The cells that a line of a table shows. -/
def cellsOf (line : List Char) : List String :=
  (line.splitOn '│').tail.dropLast.map fun piece => String.ofList (trimmed piece)

/-- The rows that the text of a table shows, the one of the headings first. -/
def rowsShown (text : String) : List (List String) :=
  ((text.toList.splitOn '\n').filter fun line => line.head? == some '│').map cellsOf

/-- Whether a cell can be told apart from what stands around it in a table. -/
structure IsPlain (cell : String) : Prop where
  unbroken : '\n' ∉ cell.toList
  unruled : '│' ∉ cell.toList
  tight : trimmed cell.toList = cell.toList

/-! ### Cells -/

theorem toList_repeated (c : Char) (count : Nat) :
    (repeated c count).toList = List.replicate count c :=
  String.toList_ofList

/-- Blanks around a text do not count. -/
theorem trimmed_padded (before after : Nat) (chars : List Char) :
    trimmed (List.replicate before ' ' ++ (chars ++ List.replicate after ' ')) =
      trimmed chars := by
  have blanks : ∀ count, ∀ c ∈ List.replicate count ' ', (c == ' ') = true := fun count c member =>
    beq_iff_eq.mpr (List.eq_of_mem_replicate member)
  rw [trimmed, trimmed, List.dropWhile_append_of_pos (blanks before), List.dropWhile_append]
  split
  · rename_i nothing
    rw [List.isEmpty_iff.mp nothing, List.dropWhile_replicate]
    rfl
  · rw [List.rdropWhile, List.reverse_append, List.reverse_replicate,
      List.dropWhile_append_of_pos (blanks after)]
    rfl

theorem trimmed_solid {chars : List Char} (solid : ' ' ∉ chars) : trimmed chars = chars := by
  have filled : ∀ c ∈ chars, ¬ (c == ' ') = true := fun c member blank =>
    solid (beq_iff_eq.mp blank ▸ member)
  rw [trimmed, List.dropWhile_eq_self_iff.mpr fun _ => filled _ (List.getElem_mem _),
    List.rdropWhile_eq_self_iff.mpr fun _ => filled _ (List.getLast_mem _)]

theorem isPlain_repr (n : Nat) : IsPlain n.repr := by
  have digits : ∀ c ∈ n.repr.toList, c.isDigit = true := fun c member => by
    rw [Nat.repr, String.toList_ofList] at member
    exact Nat.isDigit_of_mem_toDigits (by decide) (by decide) member
  have other : ∀ c, c.isDigit = false → c ∉ n.repr.toList := fun c nonDigit member =>
    absurd (digits c member) (by simp [nonDigit])
  exact ⟨other _ (by decide), other _ (by decide), trimmed_solid (other _ (by decide))⟩

theorem toList_pad (width : Nat) (line : String) :
    (pad width line).toList = List.replicate 1 ' ' ++
      (line.toList ++ List.replicate (width - columns line + 1) ' ') := by
  have blank : " ".toList = List.replicate 1 ' ' := rfl
  rw [pad, String.toList_append, String.toList_append, String.toList_append, toList_repeated,
    List.append_assoc, List.append_assoc, blank, List.replicate_append_replicate]

theorem not_mem_pad {c : Char} {line : String} (width : Nat) (other : c ≠ ' ')
    (without : c ∉ line.toList) : c ∉ (pad width line).toList := by
  rw [toList_pad, List.mem_append, List.mem_append]
  rintro (blank | inside | blank)
  · exact other (List.eq_of_mem_replicate blank)
  · exact without inside
  · exact other (List.eq_of_mem_replicate blank)

theorem lines_unbroken {cell : String} (unbroken : '\n' ∉ cell.toList) : lines cell = [cell] := by
  rw [lines, List.splitOn_eq_singleton unbroken, List.map_singleton, String.ofList_toList]

/-! ### Lines of rows -/

/-- The line of a row has its cells between strokes. -/
theorem toList_rowLine (widths : List Nat) (row : List String)
    (unbroken : ∀ cell ∈ row, '\n' ∉ cell.toList) : (rowLine widths row 0).toList =
      '│' :: ['│'].intercalate ((widths.zip row).map fun pair => (pad pair.1 pair.2).toList) ++
        ['│'] := by
  have cells : rowLine widths row 0 =
      "│" ++ "│".intercalate ((widths.zip row).map fun pair => pad pair.1 pair.2) ++ "│" := by
    refine congrArg (fun cells => "│" ++ "│".intercalate cells ++ "│")
      (List.map_congr_left fun pair member => ?_)
    obtain ⟨width, cell⟩ := pair
    dsimp only
    rw [lines_unbroken (unbroken cell (List.of_mem_zip member).2)]
    rfl
  rw [cells, String.toList_append, String.toList_append, String.toList_intercalate, List.map_map]
  rfl

/-- Strokes around pieces without strokes cut the line into these pieces. -/
theorem cellsOf_ruled (pieces : List (List Char)) (solid : pieces ≠ [])
    (unruled : ∀ piece ∈ pieces, '│' ∉ piece) :
    cellsOf ('│' :: ['│'].intercalate pieces ++ ['│']) =
      pieces.map fun piece => String.ofList (trimmed piece) := by
  have cut : ('│' :: ['│'].intercalate pieces ++ ['│']).splitOn '│' = [] :: pieces ++ [[]] := by
    rw [List.splitOn_append_cons_self, ← List.nil_append ('│' :: _),
      List.splitOn_append_cons_self, List.splitOn_intercalate _ unruled solid]
    rfl
  rw [cellsOf, cut, List.cons_append, List.tail_cons, List.dropLast_concat]

/-- A row is read back from its line. -/
theorem cellsOf_rowLine (widths : List Nat) (row : List String) (solid : row ≠ [])
    (wide : row.length ≤ widths.length) (plain : ∀ cell ∈ row, IsPlain cell) :
    cellsOf (rowLine widths row 0).toList = row := by
  have pairs : (widths.zip row).map Prod.snd = row := List.map_snd_zip wide
  have cells : ∀ pair ∈ widths.zip row, IsPlain pair.2 := fun pair member =>
    plain pair.2 (List.of_mem_zip member).2
  rw [toList_rowLine widths row fun cell member => (plain cell member).unbroken, cellsOf_ruled,
    List.map_map]
  · refine Eq.trans (List.map_congr_left fun pair member => ?_) pairs
    show String.ofList (trimmed (pad pair.1 pair.2).toList) = pair.2
    rw [toList_pad, trimmed_padded, (cells pair member).tight, String.ofList_toList]
  · intro nothing
    rw [List.map_eq_nil_iff] at nothing
    rw [nothing] at pairs
    exact solid pairs.symm
  · intro piece member
    obtain ⟨pair, inside, rfl⟩ := List.mem_map.mp member
    exact not_mem_pad pair.1 (by decide) (cells pair inside).unruled

/-! ### The widths of columns -/

theorem length_maxEach (first second : List Nat) :
    (maxEach first second).length = max first.length second.length := by
  induction first generalizing second with
  | nil => exact (Nat.zero_max _).symm
  | cons a as inductionHypothesis =>
    cases second with
    | nil => exact (Nat.max_zero _).symm
    | cons b bs =>
      rw [maxEach, List.length_cons, List.length_cons, List.length_cons, inductionHypothesis,
        Nat.add_max_add_right]

/-- There is a column for each cell of each row. -/
theorem length_le_widths (rows : List (List String)) :
    ∀ row ∈ rows, row.length ≤ (widths rows).length := by
  have grows : ∀ (rows : List (List String)) (start : List Nat),
      start.length ≤ (rows.foldl (fun widths row => maxEach widths (row.map cellWidth))
          start).length ∧
        ∀ row ∈ rows, row.length ≤ (rows.foldl
          (fun widths row => maxEach widths (row.map cellWidth)) start).length := by
    intro rows
    induction rows with
    | nil => exact fun start => ⟨Nat.le_refl _, fun row member => absurd member List.not_mem_nil⟩
    | cons first rest inductionHypothesis =>
      intro start
      obtain ⟨least, all⟩ := inductionHypothesis (maxEach start (first.map cellWidth))
      rw [length_maxEach, List.length_map] at least
      rw [List.foldl_cons]
      refine ⟨by omega, List.forall_mem_cons.mpr ⟨by omega, all⟩⟩
  exact (grows rows []).2

/-! ### Lines of tables -/

theorem not_mem_intercalate {c : Char} {between : List Char} {pieces : List (List Char)}
    (apart : c ∉ between) (each : ∀ piece ∈ pieces, c ∉ piece) :
    c ∉ between.intercalate pieces := by
  induction pieces with
  | nil => exact List.not_mem_nil
  | cons first rest inductionHypothesis =>
    have ⟨head, tail⟩ := List.forall_mem_cons.mp each
    cases rest with
    | nil => rwa [List.intercalate_singleton]
    | cons second others =>
      rw [List.intercalate_cons_cons, List.mem_append, List.mem_append]
      rintro ((inFirst | inBetween) | later)
      · exact head inFirst
      · exact apart inBetween
      · exact inductionHypothesis tail later

theorem rowLine_unbroken (widths : List Nat) (row : List String)
    (unbroken : ∀ cell ∈ row, '\n' ∉ cell.toList) : '\n' ∉ (rowLine widths row 0).toList := by
  have inside : '\n' ∉ ['│'].intercalate
      ((widths.zip row).map fun pair => (pad pair.1 pair.2).toList) := by
    refine not_mem_intercalate (by decide) (List.forall_mem_map.mpr fun pair member => ?_)
    exact not_mem_pad pair.1 (by decide) (unbroken pair.2 (List.of_mem_zip member).2)
  rw [toList_rowLine widths row unbroken, List.cons_append, List.mem_cons, List.mem_append]
  rintro (first | within | last)
  · exact absurd first (by decide)
  · exact inside within
  · exact absurd last (by decide)

theorem rowLines_plain (widths : List Nat) (row : List String)
    (unbroken : ∀ cell ∈ row, '\n' ∉ cell.toList) :
    rowLines widths row = [rowLine widths row 0] := by
  have height : row.foldl (fun height cell => max height (lines cell).length) 1 = 1 := by
    induction row with
    | nil => rfl
    | cons cell rest inductionHypothesis =>
      have single := lines_unbroken (unbroken cell List.mem_cons_self)
      rw [List.foldl_cons, single]
      exact inductionHypothesis fun other member => unbroken other (List.mem_cons_of_mem _ member)
  rw [rowLines, height]
  rfl

/-- A line of the frame: no line break is in it, and it does not begin with the upright stroke. -/
def IsFrame (line : String) : Prop :=
  '\n' ∉ line.toList ∧ line.toList.head? ≠ some '│'

theorem isFrame_rule {left joint right : String} (widths : List Nat) (start : IsFrame left)
    (solid : left ≠ "") (middle : '\n' ∉ joint.toList) (stop : '\n' ∉ right.toList) :
    IsFrame (rule left joint right widths) := by
  have inside : '\n' ∉ (String.intercalate joint
      (widths.map fun width => repeated '─' (width + 2))).toList := by
    rw [String.toList_intercalate, List.map_map]
    refine not_mem_intercalate middle (List.forall_mem_map.mpr fun width _ => ?_)
    show '\n' ∉ (repeated '─' (width + 2)).toList
    rw [toList_repeated]
    exact fun member => absurd (List.eq_of_mem_replicate member) (by decide)
  obtain ⟨c, rest, first⟩ := List.exists_cons_of_ne_nil (mt String.toList_eq_nil_iff.mp solid)
  rw [IsFrame, rule, String.toList_append, String.toList_append, List.mem_append, List.mem_append]
  refine ⟨?_, ?_⟩
  · rintro ((atStart | within) | atEnd)
    · exact start.1 atStart
    · exact inside within
    · exact stop atEnd
  · have head := start.2
    rw [first] at head ⊢
    exact head

/-! ### Tables -/

theorem isFrame_edges (widths : List Nat) : IsFrame (rule "╭" "┬" "╮" widths) ∧
    IsFrame (rule "├" "┼" "┤" widths) ∧ IsFrame (rule "╰" "┴" "╯" widths) :=
  ⟨isFrame_rule widths ⟨by decide, by decide⟩ (by decide) (by decide) (by decide),
    isFrame_rule widths ⟨by decide, by decide⟩ (by decide) (by decide) (by decide),
    isFrame_rule widths ⟨by decide, by decide⟩ (by decide) (by decide) (by decide)⟩

/-- The lines of a table whose cells have a single line each. -/
theorem splitOn_draw (headings : List String) (rows : List (List String))
    (unbroken : ∀ row ∈ headings :: rows, ∀ cell ∈ row, '\n' ∉ cell.toList) :
    (draw headings rows).toList.splitOn '\n' =
      ([rule "╭" "┬" "╮" (widths (headings :: rows)),
          rowLine (widths (headings :: rows)) headings 0] ++
        rule "├" "┼" "┤" (widths (headings :: rows)) ::
          rows.map (fun row => rowLine (widths (headings :: rows)) row 0) ++
        [rule "╰" "┴" "╯" (widths (headings :: rows))]).map String.toList := by
  have ⟨unbrokenHead, unbrokenRows⟩ := List.forall_mem_cons.mp unbroken
  rw [draw]
  generalize widths (headings :: rows) = widths
  have ⟨top, middle, bottom⟩ := isFrame_edges widths
  have single : rows.flatMap (rowLines widths) = rows.map fun row => rowLine widths row 0 := by
    rw [List.map_eq_flatMap]
    exact List.flatMap_congr fun row member => rowLines_plain widths row (unbrokenRows row member)
  have newline : "\n".toList = ['\n'] := rfl
  rw [single, rowLines_plain widths headings unbrokenHead, String.toList_intercalate, newline,
    List.splitOn_intercalate]
  · simp only [List.forall_mem_map, List.forall_mem_append, List.forall_mem_cons,
      List.mem_nil_iff, false_implies, implies_true, and_true]
    exact ⟨⟨⟨top.1, rowLine_unbroken widths headings unbrokenHead⟩, middle.1, fun row member =>
      rowLine_unbroken widths row (unbrokenRows row member)⟩, bottom.1⟩
  · exact List.cons_ne_nil _ _

/-- The text of a table shows the headings and the rows it was drawn for, and nothing else. -/
theorem rowsShown_draw (headings : List String) (rows : List (List String))
    (solid : ∀ row ∈ headings :: rows, row ≠ [])
    (plain : ∀ row ∈ headings :: rows, ∀ cell ∈ row, IsPlain cell) :
    rowsShown (draw headings rows) = headings :: rows := by
  have wide := length_le_widths (headings :: rows)
  rw [rowsShown, splitOn_draw headings rows fun row inside cell member =>
    (plain row inside cell member).unbroken]
  generalize widths (headings :: rows) = widths at wide ⊢
  have ⟨top, middle, bottom⟩ := isFrame_edges widths
  have hidden : ∀ line, IsFrame line → (line.toList.head? == some '│') = false :=
    fun line frame => beq_eq_false_iff_ne.mpr frame.2
  have visible : ∀ row ∈ headings :: rows,
      ((rowLine widths row 0).toList.head? == some '│') = true := fun row member => by
    rw [toList_rowLine widths row fun cell inside => (plain row member cell inside).unbroken]
    rfl
  have shown : ∀ row ∈ headings :: rows, cellsOf (rowLine widths row 0).toList = row :=
    fun row member =>
      cellsOf_rowLine widths row (solid row member) (wide row member) (plain row member)
  have ⟨visibleHead, visibleRows⟩ := List.forall_mem_cons.mp visible
  have ⟨shownHead, shownRows⟩ := List.forall_mem_cons.mp shown
  have kept : (rows.map fun row => (rowLine widths row 0).toList).filter
      (fun line => line.head? == some '│') = rows.map fun row => (rowLine widths row 0).toList :=
    List.filter_eq_self.mpr (List.forall_mem_map.mpr visibleRows)
  simp only [List.map_append, List.map_cons, List.map_nil, List.map_map, Function.comp_def,
    List.filter_append, List.filter_cons, List.filter_nil, hidden _ top, hidden _ middle,
    hidden _ bottom, visibleHead, kept, if_true, Bool.false_eq_true, if_false, shownHead]
  rw [List.append_nil, List.map_congr_left shownRows, List.map_id']
  rfl

end Grid

end NameBinding
