import Mathlib.Algebra.Order.Floor.Semiring
import Mathlib.Data.List.Infix
import Mathlib.Tactic.Linarith
import Ambience.Body.Rooted
import Ambience.Proofs.Scalar.Rounding
import Ambience.Theme.Catalog

/-!
# Raked lines

A rake line is walked from the left edge of the view to the right one in pieces of one length, of
which the last may be cut short by the edge. The walk comes to its end, its pieces tile the view, and
what is drawn of the line are the pieces whose middle is in no zone.
-/

namespace Ambience

variable {α : Type} [ExactScalar α]

/-! ## Filtered lists -/

/-- Neighbours that both pass a filter are still neighbours. -/
theorem infix_filter {β : Type} (keep : β → Bool) {items : List β} {i : Nat} {a b : β}
    (found : items[i]? = some a) (next : items[i + 1]? = some b) (keepA : keep a = true)
    (keepB : keep b = true) : [a, b] <:+: items.filter keep := by
  obtain ⟨inRange, rfl⟩ := List.getElem?_eq_some_iff.1 found
  obtain ⟨inRange', rfl⟩ := List.getElem?_eq_some_iff.1 next
  have parted : items = items.take i ++ items[i] :: items[i + 1] :: items.drop (i + 2) := by
    rw [List.getElem_cons_drop, List.getElem_cons_drop, List.take_append_drop]
  refine ⟨(items.take i).filter keep, (items.drop (i + 2)).filter keep, ?_⟩
  conv_rhs => rw [parted]
  rw [List.filter_append, List.filter_cons_of_pos keepA, List.filter_cons_of_pos keepB,
    List.append_assoc]
  rfl

namespace Rake

/-! ## The walk -/

/-- The walk along a line from `x` on: a piece further as long as the right edge is not reached, and
no farther than the edge. -/
inductive Walks (width : α) : α → List (α × α) → Prop
  | done {x : α} : width ≤ x → Walks width x []
  | piece {x : α} {later : List (α × α)} :
    x < width → Walks width (min (x + 6) width) later →
    Walks width x ((x, min (x + 6) width) :: later)

variable {width x : α} {laid : List (α × α)}

theorem pieceLength_eq : (pieceLength : α) = 6 := by
  norm_num [pieceLength, ExactScalar.literal_eq]

/-- A walk can be taken in one way only, since `Walks` says of each piece where it ends. -/
theorem Walks.unique {other : List (α × α)} (walks : Walks width x laid)
    (walks' : Walks width x other) : other = laid := by
  induction walks generalizing other with
  | done reached =>
    cases walks' with
    | done => rfl
    | piece lt => exact absurd lt (not_lt.2 reached)
  | piece lt _ ih =>
    cases walks' with
    | done reached => exact absurd lt (not_lt.2 reached)
    | piece _ later => rw [ih later]

/-- Pieces that are together as long as what is left of the line are enough for the walk. -/
theorem walks_pieces {fuel : Nat} (enough : width ≤ x + fuel * 6) :
    Walks width x (pieces width fuel x) := by
  induction fuel generalizing x with
  | zero =>
    rw [Nat.cast_zero, zero_mul, add_zero] at enough
    exact .done enough
  | succ fuel ih =>
    unfold pieces
    rw [ExactScalar.least_eq, pieceLength_eq]
    split
    · rename_i lt
      refine .piece lt (ih ?_)
      push_cast at enough
      rcases le_total (x + 6) width with further | reached
      · rw [min_eq_left further]
        linarith
      · rw [min_eq_right reached]
        linarith [Nat.cast_nonneg (α := α) fuel]
    · rename_i reached
      exact .done (le_of_not_gt reached)

/-- The `pieceCount` that a line is drawn in is enough to reach the right edge. -/
theorem walks_pieceCount [FloorRing α] [ExactRounding α] (width : α) :
    Walks width 0 (pieces width (pieceCount width) 0) := by
  refine walks_pieces ?_
  have share := Int.le_ceil (width / 6)
  have whole : (⌈width / 6⌉ : α) ≤ (⌈width / 6⌉.toNat : α) := by
    exact_mod_cast Int.self_le_toNat _
  rw [pieceCount, pieceLength_eq, ExactRounding.ceil_exact, ExactRounding.whole_part_exact]
  push_cast
  linarith

/-! ## What is drawn -/

/-- The middle of a piece, halfway between the heights of the groove at its ends. -/
def middle (r : Rake α) (tile : α × α) : α × α :=
  ((tile.1 + tile.2) * 0.5, (r.grooveAt tile.1 + r.grooveAt tile.2) * 0.5)

/-- The middle of a piece is in no zone. -/
def Free (r : Rake α) (geometry : Geometry α) (tile : α × α) : Prop :=
  ∀ zone ∈ geometry.zones,
    zone.radius ^ 2 ≤ ((r.middle tile).1 - zone.x) ^ 2 + ((r.middle tile).2 - zone.y) ^ 2

instance (r : Rake α) (geometry : Geometry α) : DecidablePred (r.Free geometry) := fun _ =>
  List.decidableBAll ..

/-- A piece as it is drawn, from the groove at its start to the groove at its end. -/
def stroke (r : Rake α) (paint : Paint α) (tile : α × α) : DrawCall α :=
  .line tile.1 (r.grooveAt tile.1) tile.2 (r.grooveAt tile.2) 1 paint

/-- The test that the drawing makes of the middle of a piece decides whether the piece is `Free`. -/
theorem isClear_eq (r : Rake α) (geometry : Geometry α) (tile : α × α) :
    geometry.isClear ((tile.1 + tile.2) * 0.5) ((r.grooveAt tile.1 + r.grooveAt tile.2) * 0.5) 0 =
      decide (r.Free geometry tile) := by
  rw [Bool.eq_iff_iff, decide_eq_true_iff]
  simp only [Geometry.isClear, Zone.contains, List.all_eq_true, Bool.not_eq_true',
    decide_eq_false_iff_not, not_lt, add_zero, Scalar.square, ← sq]
  exact Iff.rfl

/-- A rake line that can be seen is drawn as the `stroke` of each piece that is `Free`, in order. -/
theorem draw_eq (r : Rake α) {pen : Pen α} (visible : (pen.shade 3 r.opacity 1.0).isVisible = true) :
    r.draw pen =
      ((pieces pen.bounds.width (pieceCount pen.bounds.width) 0).filter (r.Free pen.geometry)).map
        (r.stroke (pen.shade 3 r.opacity 1.0)) := by
  unfold draw
  rw [if_pos visible]
  simp only [ExactScalar.zero_literal, ExactScalar.one_literal, isClear_eq]
  rw [← List.filterMap_eq_map, List.filterMap_filter]
  rfl

/-! ## The pieces -/

/-- Pieces that lie one behind the other from `x` to the right edge. All are of one length, save that
the last may be cut short, and they are as many as that takes. -/
structure Tiles [FloorRing α] (width x : α) (laid : List (α × α)) : Prop where
  length_eq : laid.length = ⌈(width - x) / 6⌉₊
  starts : ∀ tile ∈ laid.head?, tile.1 = x
  joined : laid.IsChain fun tile next => next.1 = tile.2
  whole : ∀ tile ∈ laid.dropLast, tile.2 = tile.1 + 6
  ends : ∀ tile ∈ laid.getLast?, tile.2 = width ∧ tile.1 < tile.2 ∧ tile.2 ≤ tile.1 + 6

variable [FloorRing α]

/-- A piece that reaches the right edge is the only one. -/
theorem tiles_last (lt : x < width) (reached : width ≤ x + 6) : Tiles width x [(x, width)] where
  length_eq := by
    refine ((Nat.ceil_eq_iff one_ne_zero).2 ⟨?_, ?_⟩).symm
    · rw [Nat.sub_self, Nat.cast_zero]
      linarith
    · rw [Nat.cast_one]
      linarith
  starts := by
    rintro _ ⟨⟩
    rfl
  joined := .singleton _
  whole := by rintro _ ⟨⟩
  ends := by
    rintro _ ⟨⟩
    exact ⟨rfl, lt, reached⟩

/-- A whole piece in front of others. -/
theorem Tiles.cons {next : α × α} {later : List (α × α)} (further : x + 6 ≤ width)
    (tiles : Tiles width (x + 6) (next :: later)) :
    Tiles width x ((x, x + 6) :: next :: later) where
  length_eq := by
    have nonneg : 0 ≤ (width - (x + 6)) / 6 := by linarith
    have share : (width - x) / 6 = (width - (x + 6)) / 6 + 1 := by ring
    rw [List.length_cons, tiles.length_eq, share, Nat.ceil_add_one nonneg]
  starts := by
    rintro _ ⟨⟩
    rfl
  joined := .cons_cons (tiles.starts next rfl) tiles.joined
  whole := by
    intro tile member
    rw [List.dropLast_cons_cons] at member
    rcases List.mem_cons.1 member with rfl | member
    · rfl
    · exact tiles.whole tile member
  ends := by
    intro tile member
    rw [List.getLast?_cons_cons] at member
    exact tiles.ends tile member

/-- The pieces of a walk tile the line (`Tiles`). -/
theorem Walks.tiles (walks : Walks width x laid) (le : x ≤ width) : Tiles width x laid := by
  induction walks with
  | done reached =>
    obtain rfl := le_antisymm le reached
    exact {
      length_eq := by rw [sub_self, zero_div, Nat.ceil_zero, List.length_nil]
      starts := by rintro _ ⟨⟩
      joined := .nil
      whole := by rintro _ ⟨⟩
      ends := by rintro _ ⟨⟩ }
  | @piece x later lt walks ih =>
    rcases le_or_gt width (x + 6) with reached | further
    · rw [min_eq_right reached] at walks ⊢
      cases walks with
      | done => exact tiles_last lt reached
      | piece beyond => exact absurd beyond (lt_irrefl width)
    · rw [min_eq_left further.le] at walks ih ⊢
      cases walks with
      | done reached => exact absurd further (not_lt.2 reached)
      | piece _ _ => exact (ih further.le).cons further.le

theorem Tiles.meets (tiles : Tiles width x laid) {i : Nat} {a b : α × α} (found : laid[i]? = some a)
    (next : laid[i + 1]? = some b) : b.1 = a.2 := by
  obtain ⟨_, rfl⟩ := List.getElem?_eq_some_iff.1 found
  obtain ⟨inRange, rfl⟩ := List.getElem?_eq_some_iff.1 next
  exact List.isChain_iff_getElem.1 tiles.joined i inRange

/-- A rake line is a tiling of the view less what is occupied. If its paint can be seen, then
whatever the width of the view and the zones are, the `pieces` that are gone through are a walk
along it that comes to its end (`Walks`), over as many pieces as the width holds, the last of them
perhaps cut short. The pieces whose middle is in no zone (`Free`) are drawn, in their order, and two
neighbours that are both drawn are drawn one after the other and meet in one point. -/
theorem draw_eq_tiles [ExactRounding α] (r : Rake α) {pen : Pen α} (wide : 0 ≤ pen.bounds.width)
    (visible : (pen.shade 3 r.opacity 1.0).isVisible = true) :
    Walks pen.bounds.width 0 (pieces pen.bounds.width (pieceCount pen.bounds.width) 0) ∧
    ∀ laid, Walks pen.bounds.width 0 laid →
      laid.length = ⌈pen.bounds.width / 6⌉₊ ∧ Tiles pen.bounds.width 0 laid ∧
      r.draw pen = (laid.filter (r.Free pen.geometry)).map (r.stroke (pen.shade 3 r.opacity 1.0)) ∧
      ∀ (i : Nat) (a b : α × α), laid[i]? = some a → laid[i + 1]? = some b →
        r.Free pen.geometry a → r.Free pen.geometry b →
        ∃ x y, [.line a.1 (r.grooveAt a.1) x y 1 (pen.shade 3 r.opacity 1.0),
          .line x y b.2 (r.grooveAt b.2) 1 (pen.shade 3 r.opacity 1.0)] <:+: r.draw pen := by
  have walks := walks_pieceCount pen.bounds.width
  refine ⟨walks, fun laid walks' => ?_⟩
  obtain rfl := walks.unique walks'
  have tiles := walks.tiles wide
  have drawn := r.draw_eq visible
  have length := tiles.length_eq
  rw [sub_zero] at length
  refine ⟨length, tiles, drawn, fun i a b found next freeA freeB => ?_⟩
  have meets := tiles.meets found next
  have kept := infix_filter (fun tile => decide (r.Free pen.geometry tile)) found next
    (decide_eq_true freeA) (decide_eq_true freeB)
  refine ⟨a.2, r.grooveAt a.2, ?_⟩
  rw [drawn]
  have strokes := kept.map (r.stroke (pen.shade 3 r.opacity 1.0))
  simp only [List.map_cons, List.map_nil, stroke, meets] at strokes
  exact strokes

/-- A level groove. -/
def levelGroove : Rake ℚ := ⟨50, 2 / 5, ⟨0, 0, 0⟩⟩

/-- A pen for a small garden with a stone in the middle. -/
def gardenPen : Pen ℚ where
  palette := Theme.zen.palettes.dark
  opacity := 50
  time := 0
  wind := 0
  bounds := ⟨15, 100⟩
  geometry := ⟨[⟨9, 50, 2⟩], #[], 0, 0⟩

/-- A garden that is 15 wide holds three pieces of a groove, and the stone is on one of them. -/
theorem draw_eq_tiles_gardenPen :
    ∃ laid, Walks 15 0 laid ∧ laid.length = 3 ∧
      levelGroove.draw gardenPen = (laid.filter (levelGroove.Free gardenPen.geometry)).map
        (levelGroove.stroke (gardenPen.shade 3 (2 / 5) 1.0)) ∧
      (levelGroove.draw gardenPen).length = 2 := by
  have wide : 0 ≤ gardenPen.bounds.width := by decide +kernel
  have visible : (gardenPen.shade 3 levelGroove.opacity 1.0).isVisible = true := by decide +kernel
  obtain ⟨walks, each⟩ := draw_eq_tiles levelGroove wide visible
  obtain ⟨length, -, drawn, -⟩ := each _ walks
  have three : ⌈(15 / 6 : ℚ)⌉₊ = 3 := (Nat.ceil_eq_iff three_ne_zero).2 (by norm_num)
  exact ⟨_, walks, length.trans three, drawn, by decide +kernel⟩

end Rake

end Ambience
