import Mathlib.Algebra.Ring.Nat
import Ambience.Canvas.Frame
import Ambience.Proofs.Canvas.Visits
import Ambience.Scalar.Double

/-!
# Indexing

A raster is drawn with machine words: the loops of a call run over signed words, which begin and end
at whole parts of logical coordinates, and pixels are read and written, and samples of a profile read,
at words without a sign. Here drawing is written so that it faults, with `none`, when an index is out of
range. It never does, whatever the arguments of the calls are, and it leaves the picture that drawing
without a check leaves. Nothing is asked of the numbers: they need not obey any law, so that those that
are not numbers and those beyond every word are among them.
-/

namespace Ambience

variable {α : Type} [Scalar α]

/-! ## Words -/

/-- As many words as asked for, one after another. -/
def wordsFrom (first : Int) : Nat → List Int
  | 0 => []
  | count + 1 => first :: wordsFrom (first + 1) count

/-- The words from `first` up to and without `stop`. -/
def wordsBetween (first stop : Int) : List Int := wordsFrom first (stop - first).toNat

namespace Coverage

/-- The words of the first `limit` pixels. -/
def allWords (limit : Nat) : List Int := wordsBetween 0 (Int64.ofNat limit).toInt

/-- The words of the pixels of the first `limit` that an interval of logical coordinates touches. -/
def touchedWords (low high : α) (limit : Nat) : List Int :=
  let first := Scalar.signedWord (Scalar.greatest (Scalar.floor (low / Canvas.pixelSide)) 0.0)
  let stop :=
    min (Scalar.signedWord (Scalar.ceil (high / Canvas.pixelSide))) (Int64.ofNat limit).toInt
  wordsBetween first (max stop first)

/-- The word of the pixel that holds a logical coordinate. -/
def holdingWords (coordinate : α) : List Int :=
  [Scalar.signedWord (Scalar.floor (coordinate / Canvas.pixelSide))]

/-- The height of a profile in the middle of a column, from samples that are there. -/
def crest? (tops : Array α) (step : α) (i : Nat) : Option α := do
  let place := center i / step
  let before := min (Scalar.count (Scalar.floor place)) (tops.size - 1)
  let after := min (before + 1) (tops.size - 1)
  let low ← tops[before]?
  let high ← tops[after]?
  some (low + (high - low) * Scalar.clamp (place - Scalar.ofNat before) 0.0 1.0)

end Coverage

namespace DrawCall

open Coverage

/-- The words of the columns that painting a call runs over. -/
def columnWords (call : DrawCall α) (width : Nat) : List Int :=
  match call with
  | clear _ => []
  | disc x _ radius _ =>
    if isDot radius then holdingWords x else touchedWords (x - radius) (x + radius) width
  | glow x _ radius _ => touchedWords (x - radius) (x + radius) width
  | line fromX _ toX _ breadth _ =>
    touchedWords (Scalar.least fromX toX - reach breadth) (Scalar.greatest fromX toX + reach breadth)
      width
  | rect x _ breadth _ _ => touchedWords x (x + breadth) width
  | below _ _ _ => allWords width

/-- The words of the pixels of a column that painting a call runs over. -/
def rowWords? (call : DrawCall α) (height : Nat) (i : Nat) : Option (List Int) :=
  match call with
  | clear _ => some []
  | disc _ y radius _ =>
    some (if isDot radius then holdingWords y else touchedWords (y - radius) (y + radius) height)
  | glow _ y radius _ => some (touchedWords (y - radius) (y + radius) height)
  | line _ fromY _ toY breadth _ =>
    some (touchedWords (Scalar.least fromY toY - reach breadth)
      (Scalar.greatest fromY toY + reach breadth) height)
  | rect _ y _ tall _ => some (touchedWords y (y + tall) height)
  | below tops step _ =>
    (crest? tops step i).map fun top => touchedWords top (edge height) height

/-- The weight of a call's paint at a pixel. -/
def weight? : DrawCall α → Nat → Nat → Option α
  | below tops step paint, i, j =>
    (crest? tops step i).map fun top => paint.alpha * Coverage.below top j
  | call, i, j => some (call.weight i j)

end DrawCall

/-! ## Drawing with checks -/

namespace Canvas

/-- The word at which the pixel of a column and a line is looked up. -/
def index (canvas : Canvas) (x y : Nat) : Nat := canvas.offset x y % UInt64.size

/-- The colour of a pixel that is there. -/
def pixel? (canvas : Canvas) (x y : Nat) : Option Rgb := canvas.pixels[canvas.index x y]?

/-- The canvas after paint of a weight on the pixel of two words, if they are those of a pixel. -/
def blend? (canvas : Canvas) (color : Rgb) (weight? : Nat → Nat → Option α) (x y : Int) :
    Option Canvas :=
  if x < 0 ∨ y < 0 then some canvas
  else do
    let weight ← weight? x.toNat y.toNat
    if weight ≤ 0.0 then some canvas
    else if x.toNat < canvas.width ∧ y.toNat < canvas.height then do
      let pixel ← canvas.pixel? x.toNat y.toNat
      let tinted := pixel.mix color (Scalar.least weight 1.0)
      some { canvas with
        pixels := canvas.pixels.setIfInBounds (canvas.index x.toNat y.toNat) tinted }
    else some canvas

/-- The canvas after a call has been painted with a colour, word by word. -/
def paint? (canvas : Canvas) (call : DrawCall α) (color : Rgb) : Option Canvas :=
  let height := canvas.height
  (call.columnWords canvas.width).foldlM
    (fun canvas x => do
      let words ← call.rowWords? height x.toNat
      words.foldlM (fun canvas y => canvas.blend? color call.weight? x y) canvas)
    canvas

/-- The canvas after a call. -/
def draw? (canvas : Canvas) (call : DrawCall α) : Option Canvas :=
  match call with
  | .clear color => some (canvas.clear color)
  | _ =>
    match call.paint? with
    | some paint => if call.isEffective then canvas.paint? call paint.color else some canvas
    | none => some canvas

/-- The upper and lower pixels of the cells of a row, which are there. -/
def pairs? (canvas : Canvas) (row : Nat) : Option (List (Rgb × Rgb)) :=
  (List.range canvas.cols).mapM fun col => do
    let top ← canvas.pixel? col (row * 2)
    let bottom ← canvas.pixel? col (row * 2 + 1)
    some (top, bottom)

end Canvas

/-! ## Loops over words -/

/-- The words of a loop that are not negative are the places of a span. -/
def Span.Walked (span : Span) (words : List Int) : Prop :=
  (words.filter (0 ≤ ·)).map Int.toNat = span.places

/-- The words from a first one on are, without the negative ones, the places from zero on. -/
theorem toNat_wordsFrom (first : Int) (count : Nat) :
    ((wordsFrom first count).filter (0 ≤ ·)).map Int.toNat =
      List.range' first.toNat ((first + count).toNat - first.toNat) := by
  -- Negative words come first and are passed over, so that they leave the start of the range at zero.
  induction count generalizing first with
  | zero => simp [wordsFrom]
  | succ count ih =>
    have next : first + (count + 1 : Nat) = first + 1 + count := by omega
    rw [wordsFrom, List.filter_cons, next]
    split
    · rename_i counted
      have counted : 0 ≤ first := of_decide_eq_true counted
      have one : (first + 1 + count).toNat - first.toNat =
          ((first + 1 + count).toNat - (first + 1).toNat) + 1 := by omega
      have start : (first + 1).toNat = first.toNat + 1 := by omega
      rw [List.map_cons, ih, one, List.range'_succ, start]
    · rename_i negative
      have negative : ¬0 ≤ first := fun counted => negative (decide_eq_true counted)
      have start : (first + 1).toNat = first.toNat := by omega
      rw [ih, start]

/-- Two words that are the ends of a span walk through it, if those below zero count as zero. -/
theorem Span.walked_wordsBetween {first stop : Int} {span : Span} (first_eq : span.first = first.toNat)
    (stop_eq : span.stop = stop.toNat) : span.Walked (wordsBetween first (max stop first)) := by
  have length : (first + ((max stop first - first).toNat : Nat)).toNat - first.toNat =
      stop.toNat - first.toNat := by omega
  rw [Walked, wordsBetween, toNat_wordsFrom, length, places, first_eq, stop_eq]

namespace Coverage

variable {limit : Nat}

theorem walked_allWords (fits : limit < 2 ^ 63) : (⟨0, limit⟩ : Span).Walked (allWords limit) := by
  have stop : max (limit : Int) 0 = limit := by omega
  have walked := @Span.walked_wordsBetween 0 limit ⟨0, limit⟩ rfl rfl
  rwa [stop, ← Int64.toInt_ofNat_of_lt fits] at walked

/-- The words that are computed from an interval walk through the places that it touches, however
far outside the raster the interval lies. -/
theorem walked_touchedWords (fits : limit < 2 ^ 63) (low high : α) :
    (touched low high limit).Walked (touchedWords low high limit) := by
  apply Span.walked_wordsBetween
  · rfl
  · rw [Int64.toInt_ofNat_of_lt fits]
    rfl

theorem walked_holdingWords (coordinate : α) :
    (holding coordinate).Walked (holdingWords coordinate) := by
  rw [Span.Walked, holdingWords, holding]
  split
  · rename_i negative
    have negative := Int.not_le.2 negative
    simp [negative, Span.places]
  · rename_i counted
    have counted := Int.not_lt.1 counted
    simp [counted, Span.places]

/-- The samples of a profile that has any are there. -/
theorem crest?_eq {tops : Array α} (nonempty : tops.isEmpty = false) (step : α) (i : Nat) :
    crest? tops step i = some (crest tops step i) := by
  have size : 0 < tops.size := by
    rw [Array.isEmpty_eq_false_iff] at nonempty
    exact Array.size_pos_iff.2 nonempty
  have before (place : Nat) : min place (tops.size - 1) < tops.size := by omega
  simp [crest?, crest, before, Array.getD_eq_getD_getElem?]

/-- A profile without samples is not read. -/
example (step : α) (i : Nat) : crest? #[] step i = none := rfl

end Coverage

namespace DrawCall

open Coverage

variable {call : DrawCall α}

theorem walked_columnWords {width : Nat} (fits : width < 2 ^ 63) (call : DrawCall α) :
    (call.columns width).Walked (call.columnWords width) := by
  cases call with
  | clear => rfl
  | disc x y radius =>
    rw [columns, columnWords]
    split
    · exact walked_holdingWords x
    · exact walked_touchedWords fits _ _
  | glow => exact walked_touchedWords fits _ _
  | line => exact walked_touchedWords fits _ _
  | rect => exact walked_touchedWords fits _ _
  | below => exact walked_allWords fits

/-- A profile whose call can change anything has samples. -/
theorem nonempty_of_isEffective {tops : Array α} {step : α} {paint : Paint α}
    (effective : (below tops step paint).isEffective = true) : tops.isEmpty = false := by
  simp only [isEffective, Bool.and_eq_true, Bool.not_eq_true'] at effective
  exact effective.1.2

/-- A call that can change anything finds the rows of each column, and goes through them as
words. -/
theorem exists_rowWords? (effective : call.isEffective = true) (height i : Nat) :
    ∃ words, call.rowWords? height i = some words ∧
      (height < 2 ^ 63 → (call.rows height i).Walked words) := by
  cases call with
  | clear => exact ⟨_, rfl, fun _ => rfl⟩
  | disc x y radius =>
    refine ⟨_, rfl, fun fits => ?_⟩
    rw [rows]
    split
    · exact walked_holdingWords y
    · exact walked_touchedWords fits _ _
  | glow => exact ⟨_, rfl, fun fits => walked_touchedWords fits _ _⟩
  | line => exact ⟨_, rfl, fun fits => walked_touchedWords fits _ _⟩
  | rect => exact ⟨_, rfl, fun fits => walked_touchedWords fits _ _⟩
  | below tops step =>
    refine ⟨touchedWords (crest tops step i) (edge height) height, ?_,
      fun fits => walked_touchedWords fits _ _⟩
    rw [rowWords?, crest?_eq (nonempty_of_isEffective effective) step i]
    rfl

theorem weight?_eq (effective : call.isEffective = true) (i j : Nat) :
    call.weight? i j = some (call.weight i j) := by
  cases call with
  | below tops step =>
    rw [weight?, crest?_eq (nonempty_of_isEffective effective) step i]
    rfl
  | _ => rfl

end DrawCall

/-! ## Checks that succeed -/

namespace Canvas

variable {canvas : Canvas} {cols rows : Nat}

/-- A pixel is looked up where it is kept: no word is too small for that, so that `index` is
`offset`. -/
theorem Sized.index_eq {x y : Nat} (sized : canvas.Sized cols rows)
    (small : cols * (rows * 2) < 2 ^ 63) (column : x < cols) (row : y < rows * 2) :
    canvas.index x y = canvas.offset x y := by
  have inside := sized.offset_lt column row
  rw [sized.size_eq] at inside
  have counted : (2 : Nat) ^ 63 < UInt64.size := by decide
  exact Nat.mod_eq_of_lt (Nat.lt_trans inside (Nat.lt_trans small counted))

/-- The checked read of a pixel of the raster succeeds and gives the `pixel`. -/
theorem Sized.pixel?_eq {x y : Nat} (sized : canvas.Sized cols rows)
    (small : cols * (rows * 2) < 2 ^ 63) (column : x < cols) (row : y < rows * 2) :
    canvas.pixel? x y = some (canvas.pixel x y) := by
  have kept := Array.getElem?_eq_getElem (sized.offset_lt column row)
  rw [pixel?, sized.index_eq small column row, pixel, Array.getD_eq_getD_getElem?, kept]
  rfl

/-- A raster that has lost its pixels is not read. -/
example : (⟨1, 1, #[], ⟨0, 0, 0⟩, .mono, 1⟩ : Canvas).pixel? 0 1 = none := rfl

theorem blend?_of_neg {x y : Int} (negative : x < 0 ∨ y < 0) (canvas : Canvas) (color : Rgb)
    (weight? : Nat → Nat → Option α) : canvas.blend? color weight? x y = some canvas :=
  if_pos negative

/-- A raster without pixels is not looked at. -/
theorem Sized.blend?_of_empty {weight? : Nat → Nat → Option α} {weight : Nat → Nat → α}
    (sized : canvas.Sized cols rows) (empty : cols * (rows * 2) = 0) (color : Rgb)
    (weighed : ∀ i j, weight? i j = some (weight i j)) (x y : Int) :
    canvas.blend? color weight? x y = some canvas := by
  have outside : ¬(x.toNat < canvas.width ∧ y.toNat < canvas.height) := by
    rw [sized.width_eq, sized.height_eq]
    intro inside
    have filled := Nat.mul_pos (Nat.zero_lt_of_lt inside.1) (Nat.zero_lt_of_lt inside.2)
    omega
  rw [blend?, weighed, Option.bind_eq_bind, Option.bind_some, if_neg outside, ite_self, ite_self]

/-- Paint on one pixel is a read and a write at its place. -/
theorem modify_eq_setIfInBounds {pixels : Array Rgb} {k : Nat} {pixel : Rgb}
    (kept : pixels[k]? = some pixel) (change : Rgb → Rgb) :
    pixels.modify k change = pixels.setIfInBounds k (change pixel) := by
  apply Array.ext_getElem?
  intro place
  rw [Array.getElem?_modify, Array.getElem?_setIfInBounds]
  split
  · rename_i here
    subst here
    obtain ⟨inside, -⟩ := Array.getElem?_eq_some_iff.1 kept
    rw [kept, if_pos inside]
    rfl
  · rfl

/-- The checked blend of one pixel succeeds and leaves what `blend` does. -/
theorem Sized.blend?_eq {weight? : Nat → Nat → Option α} {weight : Nat → Nat → α}
    (sized : canvas.Sized cols rows) (small : cols * (rows * 2) < 2 ^ 63) (color : Rgb)
    (weighed : ∀ i j, weight? i j = some (weight i j)) (x y : Nat) :
    canvas.blend? color weight? x y = some (canvas.blend color (weight x y) x y) := by
  have counted : ¬((x : Int) < 0 ∨ (y : Int) < 0) := by omega
  rw [blend?, if_neg counted, Int.toNat_natCast, Int.toNat_natCast, weighed, Option.bind_eq_bind,
    Option.bind_some]
  by_cases nothing : weight x y ≤ 0.0
  · rw [if_pos nothing, blend_of_nonpos nothing]
  rw [if_neg nothing]
  by_cases inside : x < canvas.width ∧ y < canvas.height
  · have column : x < cols := by
      rw [← sized.width_eq]
      exact inside.1
    have row : y < rows * 2 := by
      rw [← sized.height_eq]
      exact inside.2
    have kept : canvas.pixels[canvas.offset x y]? = some (canvas.pixel x y) := by
      rw [← sized.index_eq small column row]
      exact sized.pixel?_eq small column row
    rw [if_pos inside, sized.pixel?_eq small column row, Option.bind_eq_bind, Option.bind_some,
      sized.index_eq small column row, blend, sized.offset?_eq column row]
    dsimp only
    rw [modify_eq_setIfInBounds kept, tint, if_neg nothing]
  · have missing : canvas.offset? x y = none := if_neg inside
    rw [if_neg inside, blend, missing]

/-! ## Loops that never fault -/

/-- Steps that leave a state as it is leave it over the whole loop. -/
theorem foldlM_idle {ι : Type} {step? : Canvas → ι → Option Canvas}
    (idle : ∀ item, step? canvas item = some canvas) (items : List ι) :
    items.foldlM step? canvas = some canvas := by
  induction items with
  | nil => rfl
  | cons item later ih => rw [List.foldlM_cons, idle, Option.bind_eq_bind, Option.bind_some, ih]

/-- A loop over words does not fault if it passes over the negative ones and no step at a place
faults, and then it is the loop over the places. -/
theorem Sized.foldlM_eq {span : Span} {words : List Int} {step? : Canvas → Int → Option Canvas}
    {step : Canvas → Nat → Canvas} (sized : canvas.Sized cols rows) (walked : span.Walked words)
    (keeps : ∀ painted place, SameRaster painted (step painted place))
    (beside : ∀ (painted : Canvas) (word : Int), word < 0 → step? painted word = some painted)
    (agrees : ∀ (painted : Canvas) (place : Nat), painted.Sized cols rows →
      step? painted place = some (step painted place)) :
    words.foldlM step? canvas = some (span.places.foldl step canvas) := by
  rw [← walked]
  clear walked
  induction words generalizing canvas with
  | nil => rfl
  | cons word later ih =>
    rw [List.foldlM_cons, List.filter_cons]
    split
    · rename_i counted
      have counted : (word.toNat : Int) = word := Int.toNat_of_nonneg (of_decide_eq_true counted)
      have here := agrees canvas word.toNat sized
      rw [counted] at here
      rw [here, List.map_cons, List.foldl_cons]
      exact ih (sized.of_sameRaster (keeps canvas word.toNat))
    · rename_i negative
      have negative : ¬0 ≤ word := fun counted => negative (decide_eq_true counted)
      rw [beside canvas word (Int.not_le.1 negative)]
      exact ih sized

/-- Painting a call that can change anything does not fault: `paint?` leaves what `paint` does. -/
theorem Sized.paint?_eq {call : DrawCall α} (sized : canvas.Sized cols rows)
    (small : cols * (rows * 2) < 2 ^ 63) (effective : call.isEffective = true) (color : Rgb) :
    canvas.paint? call color = some (canvas.paint call color) := by
  have weighed := DrawCall.weight?_eq effective
  rcases Nat.eq_zero_or_pos (cols * (rows * 2)) with empty | filled
  · -- The sides may be beyond every word here, but there is nothing to paint.
    have nothing : canvas.paint call color = canvas := by
      have same := sameRaster_paint canvas call color
      have before := Array.eq_empty_of_size_eq_zero (sized.size_eq.trans empty)
      have after := Array.eq_empty_of_size_eq_zero ((sized.of_sameRaster same).size_eq.trans empty)
      rw [paint_eq_visit] at after ⊢
      rw [visit_eq, after, ← before]
    rw [nothing]
    refine foldlM_idle (fun x => ?_) _
    obtain ⟨words, found, -⟩ := DrawCall.exists_rowWords? effective canvas.height x.toNat
    rw [found]
    exact foldlM_idle (sized.blend?_of_empty empty color weighed x) words
  · have sides := sides_lt small (Nat.pos_of_mul_pos_right filled) (Nat.pos_of_mul_pos_left filled)
    have wide : canvas.width < 2 ^ 63 := by
      rw [sized.width_eq]
      exact sides.1
    have high : canvas.height < 2 ^ 63 := by
      rw [sized.height_eq]
      exact sides.2
    refine sized.foldlM_eq (DrawCall.walked_columnWords wide call) ?_ ?_ ?_
    · intro painted x
      exact SameRaster.foldl (fun painted y => sameRaster_blend painted color _ x y) painted _
    · intro painted x negative
      obtain ⟨words, found, -⟩ := DrawCall.exists_rowWords? effective canvas.height x.toNat
      rw [found]
      exact foldlM_idle (fun y => blend?_of_neg (.inl negative) painted color _) words
    · intro painted x paintedSized
      obtain ⟨words, found, walked⟩ := DrawCall.exists_rowWords? effective canvas.height x
      rw [Int.toNat_natCast, found]
      refine paintedSized.foldlM_eq (walked high) ?_ ?_ ?_
      · exact fun painted y => sameRaster_blend painted color _ x y
      · exact fun painted y negative => blend?_of_neg (.inr negative) painted color _
      · exact fun painted y paintedSized => paintedSized.blend?_eq small color weighed x y

/-- No call faults, whatever its arguments are: `draw?` leaves what `draw` does. -/
theorem Sized.draw?_eq (sized : canvas.Sized cols rows) (small : cols * (rows * 2) < 2 ^ 63)
    (call : DrawCall α) : canvas.draw? call = some (canvas.draw call) := by
  cases painted : call.paint? with
  | none =>
    cases call with
    | clear => rfl
    | _ => cases painted
  | some paint =>
    have checked : canvas.draw? call =
        if call.isEffective then canvas.paint? call paint.color else some canvas := by
      unfold draw?
      split
      · cases painted
      · rw [painted]
    rw [checked, draw_eq_ite painted]
    split
    · rename_i effective
      exact sized.paint?_eq small effective _
    · rfl

theorem Sized.drawAll?_eq (sized : canvas.Sized cols rows) (small : cols * (rows * 2) < 2 ^ 63)
    (calls : List (DrawCall α)) :
    calls.foldlM draw? canvas = some (Surface.drawAll canvas calls) := by
  induction calls generalizing canvas with
  | nil => rfl
  | cons call later ih =>
    rw [List.foldlM_cons, sized.draw?_eq small]
    exact ih (sized.of_sameRaster (sameRaster_draw canvas call))

/-- Reads that succeed one by one succeed together. -/
theorem mapM_of_forall_mem {β : Type} {read? : Nat → Option β} {read : Nat → β} {items : List Nat}
    (found : ∀ item ∈ items, read? item = some (read item)) :
    items.mapM read? = some (items.map read) := by
  induction items with
  | nil => rfl
  | cons item later ih =>
    rw [List.mapM_cons, found item List.mem_cons_self,
      ih fun other member => found other (List.mem_cons_of_mem _ member)]
    rfl

/-- Every pixel that a row of a frame shows is there. -/
theorem Sized.pairs?_eq {row : Nat} (sized : canvas.Sized cols rows)
    (small : cols * (rows * 2) < 2 ^ 63) (inFrame : row < rows) :
    canvas.pairs? row = some (canvas.pairs row) := by
  apply mapM_of_forall_mem
  intro col member
  have column : col < cols := by
    rw [← sized.cols_eq]
    exact List.mem_range.1 member
  rw [sized.pixel?_eq small column (by omega), sized.pixel?_eq small column (by omega)]
  rfl

end Canvas

/-! ## Canvases over time -/

namespace Canvas

/-- What can happen to a canvas. -/
inductive Change (α : Type) where
  | resize (cols rows : Nat)
  | draw (call : DrawCall α)
  | ring (x y radius width : α) (paint : Paint α)

/-- A size whose pixels a signed word can count. -/
def Change.Fits : Change α → Prop
  | resize cols rows => cols * (rows * 2) < 2 ^ 63
  | _ => True

/-- The cells of a canvas after a change. -/
def Change.cells (cells : Nat × Nat) : Change α → Nat × Nat
  | resize cols rows => (cols, rows)
  | _ => cells

/-- The canvas after a change. -/
def change (canvas : Canvas) : Change α → Canvas
  | .resize cols rows => canvas.resize cols rows
  | .draw call => canvas.draw call
  | .ring x y radius width paint =>
    Surface.drawAll canvas (DrawCall.ring x y radius width paint)

/-- The canvas after a change that is drawn with checks. -/
def change? (canvas : Canvas) : Change α → Option Canvas
  | .resize cols rows => some (canvas.resize cols rows)
  | .draw call => canvas.draw? call
  | .ring x y radius width paint => (DrawCall.ring x y radius width paint).foldlM draw? canvas

/-- A canvas of some cells, in which a signed word can count the pixels. -/
structure Indexable (canvas : Canvas) (cells : Nat × Nat) : Prop where
  sized : canvas.Sized cells.1 cells.2
  small : cells.1 * (cells.2 * 2) < 2 ^ 63

variable {canvas : Canvas} {cells : Nat × Nat}

/-- A change does not fault and leaves a canvas in which the next one does not (`Indexable`). -/
theorem Indexable.change? (indexable : canvas.Indexable cells) {change : Change α}
    (fits : change.Fits) :
    canvas.change? change = some (canvas.change change) ∧
      (canvas.change change).Indexable (change.cells cells) := by
  obtain ⟨sized, small⟩ := indexable
  cases change with
  | resize cols rows => exact ⟨rfl, sized_resize canvas cols rows, fits⟩
  | draw call =>
    exact ⟨sized.draw?_eq small call, sized.of_sameRaster (sameRaster_draw canvas call), small⟩
  | ring x y radius width paint =>
    exact ⟨sized.drawAll?_eq small _, sized.of_sameRaster (sameRaster_drawAll canvas _), small⟩

theorem Indexable.changes? (indexable : canvas.Indexable cells) {changes : List (Change α)}
    (fit : ∀ change ∈ changes, change.Fits) :
    changes.foldlM Canvas.change? canvas = some (changes.foldl Canvas.change canvas) ∧
      (changes.foldl Canvas.change canvas).Indexable (changes.foldl Change.cells cells) := by
  induction changes generalizing canvas cells with
  | nil => exact ⟨rfl, indexable⟩
  | cons change later ih =>
    obtain ⟨unchecked, next⟩ := indexable.change? (fit change List.mem_cons_self)
    rw [List.foldlM_cons, unchecked]
    exact ih next fun other member => fit other (List.mem_cons_of_mem _ member)

/-- A canvas that is resized and drawn on, in any order and with any arguments, is never indexed out
of range, as long as a signed word can count its pixels: drawing that faults on an index out of
range (`change?`) leaves what drawing does (`change`). The raster keeps a pixel for each column and
two for each row of the last size, and the reads of a frame (`pairs?`) are in range as well. -/
theorem indexed_in_range {cols rows : Nat} (mode : ColorMode) (quantum : UInt8)
    {changes : List (Change α)} (small : cols * (rows * 2) < 2 ^ 63)
    (fit : ∀ change ∈ changes, change.Fits) :
    ∃ canvas, changes.foldlM change? (blank cols rows mode quantum) = some canvas ∧
      canvas = changes.foldl change (blank cols rows mode quantum) ∧
      (canvas.cols, canvas.rows) = changes.foldl Change.cells (cols, rows) ∧
      canvas.width = canvas.cols ∧ canvas.height = canvas.rows * 2 ∧
      canvas.pixels.size = canvas.width * canvas.height ∧
      (∀ x y k, canvas.offset? x y = some k → k < canvas.pixels.size) ∧
      ∀ row < canvas.rows, canvas.pairs? row = some (canvas.pairs row) := by
  have start : (blank cols rows mode quantum).Indexable (cols, rows) :=
    ⟨sized_blank cols rows mode quantum, small⟩
  obtain ⟨unchecked, sized, small⟩ := start.changes? fit
  refine ⟨_, unchecked, rfl, ?_, rfl, rfl, ?_, ?_, ?_⟩
  · rw [sized.cols_eq, sized.rows_eq]
  · rw [sized.width_eq, sized.height_eq, sized.size_eq]
  · intro x y k found
    exact sized.lt_of_offset? found
  · intro row inFrame
    rw [sized.rows_eq] at inFrame
    exact sized.pairs?_eq small inFrame

/-- A disc, an outline and a profile at places that are not numbers or beyond every word, on a
canvas that loses most of its cells in between. -/
theorem indexed_in_range_shrunk :
    ∃ (paint : Paint Float) (changes : List (Change Float)) (canvas : Canvas),
      changes =
        [.draw (.disc (0.0 / 0.0) 1e300 (1.0 / 0.0) paint), .ring (-1e300) 40.0 2e300 3.0 paint,
          .resize 4 3, .draw (.below #[-80.0, 0.0 / 0.0] 1e-300 paint)] ∧
      changes.foldlM change? (blank 20 10 .trueColor 1) = some canvas ∧
      canvas.width = 4 ∧ canvas.height = 6 ∧ canvas.pixels.size = 24 ∧
      ∀ row < 3, canvas.pairs? row = some (canvas.pairs row) := by
  have fit : ∀ change ∈ [Change.draw (.disc (0.0 / 0.0 : Float) 1e300 (1.0 / 0.0) ⟨⟨200, 40, 0⟩, 1.0⟩),
      .ring (-1e300) 40.0 2e300 3.0 ⟨⟨200, 40, 0⟩, 1.0⟩, .resize 4 3,
      .draw (.below #[-80.0, 0.0 / 0.0] 1e-300 ⟨⟨200, 40, 0⟩, 1.0⟩)], change.Fits := by
    simp [Change.Fits]
  obtain ⟨canvas, unchecked, -, cells, wide, high, size, -, shown⟩ :=
    @indexed_in_range Float _ 20 10 .trueColor 1 _ (by decide) fit
  obtain ⟨cols, rows⟩ := Prod.mk.inj cells
  change canvas.cols = 4 at cols
  change canvas.rows = 3 at rows
  refine ⟨_, _, canvas, rfl, unchecked, ?_, ?_, ?_, ?_⟩
  · rw [wide, cols]
  · rw [high, rows]
  · rw [size, wide, high, cols, rows]
  · rw [← rows]
    exact shown

end Canvas

end Ambience
