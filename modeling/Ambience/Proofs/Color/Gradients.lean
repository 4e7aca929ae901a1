import Mathlib.Data.List.Chain
import Ambience.Proofs.Color.Mixing
import Ambience.Theme.Catalog

/-!
# Gradients

In exact arithmetic a gradient is the piecewise linear curve through its stops. Stops may share a
position, which makes an edge between two colours; other neighbours have to be so far apart that a
division by their distance is not guarded. Then one segment covers a position between the first and
the last stop, and the search for a segment finds that one, whatever stands in front of it.
-/

namespace Ambience

variable {α : Type} [ExactScalar α]

/-! ## Neighbouring stops -/

namespace ColorStop

variable {a b : ColorStop α}

/-- Neighbours make an edge, or a segment that is not too short to be divided by. -/
def Precedes (a b : ColorStop α) : Prop :=
  b.position - a.position = 0 ∨ Scalar.epsilon ≤ b.position - a.position

theorem epsilon_pos : 0 < (Scalar.epsilon : α) := by
  norm_num [Scalar.epsilon, ExactScalar.literal_eq]

theorem Precedes.le (precedes : a.Precedes b) : a.position ≤ b.position := by
  rcases precedes with edge | apart
  · exact (sub_eq_zero.1 edge).ge
  · exact sub_nonneg.1 (epsilon_pos.le.trans apart)

/-- The width of a segment that is not an edge needs no guard. -/
theorem Precedes.width_eq (precedes : a.Precedes b) (lt : a.position < b.position) :
    Scalar.greatest (b.position - a.position) Scalar.epsilon = b.position - a.position := by
  rw [ExactScalar.greatest_eq]
  rcases precedes with edge | apart
  · exact absurd edge (sub_pos.2 lt).ne'
  · exact max_eq_left apart

end ColorStop

namespace Gradient

variable {gradient later : Gradient α} {stop first last a a' b b' : ColorStop α} {t : α}
  {place place' : Nat}

/-- Stops of the unit interval in their order, with gaps of nothing or of what can be divided by. -/
structure Spaced (gradient : Gradient α) : Prop where
  unit_mem : ∀ stop ∈ gradient, 0 ≤ stop.position ∧ stop.position ≤ 1
  neighbours : gradient.IsChain ColorStop.Precedes

/-- The stops of a gradient are in the order of their positions, since neighbours are
(`Precedes`). -/
theorem ordered (neighbours : gradient.IsChain ColorStop.Precedes) :
    gradient.Pairwise fun a b => a.position ≤ b.position := by
  have positions : (gradient.map ColorStop.position).IsChain (· ≤ ·) :=
    (List.isChain_map _).2 (neighbours.imp fun _ _ precedes => precedes.le)
  exact List.pairwise_map.1 positions.pairwise

theorem position_le (neighbours : gradient.IsChain ColorStop.Precedes) (le : place ≤ place')
    (found : gradient[place]? = some a) (found' : gradient[place']? = some b) :
    a.position ≤ b.position := by
  obtain ⟨inRange, rfl⟩ := List.getElem?_eq_some_iff.1 found
  obtain ⟨inRange', rfl⟩ := List.getElem?_eq_some_iff.1 found'
  rcases Nat.eq_or_lt_of_le le with rfl | lt
  · exact le_refl _
  · exact List.pairwise_iff_getElem.1 (ordered neighbours) place place' inRange inRange' lt

/-- No stop is past the last one. -/
theorem position_le_last (neighbours : gradient.IsChain ColorStop.Precedes) (member : stop ∈ gradient)
    (ends : gradient.getLast? = some last) : stop.position ≤ last.position := by
  obtain ⟨place, found⟩ := List.getElem?_of_mem member
  rw [List.getLast?_eq_getElem?] at ends
  obtain ⟨inRange, -⟩ := List.getElem?_eq_some_iff.1 found
  exact position_le neighbours (Nat.le_sub_one_of_lt inRange) found ends

/-! ## Segments -/

/-- The segment from one stop to the next covers a position behind the first and up to the second. -/
structure Covers (gradient : Gradient α) (t : α) (place : Nat) (a b : ColorStop α) : Prop where
  start_eq : gradient[place]? = some a
  stop_eq : gradient[place + 1]? = some b
  start_lt : a.position < t
  le_stop : t ≤ b.position

theorem Covers.width_pos (covers : gradient.Covers t place a b) : 0 < b.position - a.position :=
  sub_pos.2 (covers.start_lt.trans_le covers.le_stop)

/-- The share of a position in the segment that `Covers` it is one of the unit interval. -/
theorem Covers.share_mem (covers : gradient.Covers t place a b) :
    0 ≤ (t - a.position) / (b.position - a.position) ∧
      (t - a.position) / (b.position - a.position) ≤ 1 :=
  ⟨div_nonneg (sub_nonneg.2 covers.start_lt.le) covers.width_pos.le,
    (div_le_one covers.width_pos).2 (sub_le_sub_right covers.le_stop _)⟩

/-- No segment in front of another covers what that one does. -/
theorem Covers.place_le (neighbours : gradient.IsChain ColorStop.Precedes)
    (covers : gradient.Covers t place a b) (covers' : gradient.Covers t place' a' b') :
    place' ≤ place := by
  by_contra behind
  have between := position_le neighbours (Nat.succ_le_of_lt (not_le.1 behind)) covers.stop_eq
    covers'.start_eq
  exact absurd covers'.start_lt (not_lt.2 (covers.le_stop.trans between))

/-- A position is covered by one segment only. -/
theorem Covers.place_eq (neighbours : gradient.IsChain ColorStop.Precedes)
    (covers : gradient.Covers t place a b) (covers' : gradient.Covers t place' a' b') :
    place' = place :=
  le_antisymm (place_le neighbours covers covers') (place_le neighbours covers' covers)

/-- Behind the first stop, and not past the last one, some segment `Covers` a position. -/
theorem exists_covers (starts : gradient.head? = some first) (ends : gradient.getLast? = some last)
    (lt : first.position < t) (le : t ≤ last.position) :
    ∃ place a b, gradient.Covers t place a b := by
  induction gradient generalizing first with
  | nil => cases starts
  | cons stop later ih =>
    cases starts
    cases later with
    | nil =>
      cases ends
      exact absurd lt (not_lt.2 le)
    | cons next later =>
      rcases le_or_gt t next.position with reached | past
      · exact ⟨0, stop, next, rfl, rfl, lt, reached⟩
      · rw [List.getLast?_cons_cons] at ends
        obtain ⟨place, a, b, covers⟩ := ih rfl ends past
        exact ⟨place + 1, a, b, covers.start_eq, covers.stop_eq, covers.start_lt, covers.le_stop⟩

/-! ## The search -/

/-- The search of `sampleFrom` stops at the segment that covers a position, which it is not in front
of. -/
theorem sampleFrom_of_covers (neighbours : (stop :: later).IsChain ColorStop.Precedes)
    (covers : Covers (stop :: later) t place a b) :
    sampleFrom stop t later =
      a.color.mix b.color ((t - a.position) / (b.position - a.position)) := by
  induction later generalizing stop place with
  | nil => cases covers.stop_eq
  | cons next later ih =>
    obtain ⟨first, rest⟩ := List.isChain_cons_cons.1 neighbours
    cases place with
    | zero =>
      cases covers.start_eq
      cases covers.stop_eq
      rw [sampleFrom, if_pos covers.le_stop, first.width_eq (sub_pos.1 covers.width_pos)]
    | succ place =>
      have further : Covers (next :: later) t place a b :=
        ⟨covers.start_eq, covers.stop_eq, covers.start_lt, covers.le_stop⟩
      have past : next.position < t :=
        (position_le rest (Nat.zero_le place) rfl further.start_eq).trans_lt further.start_lt
      rw [sampleFrom, if_neg (not_le.2 past)]
      exact ih rest further

/-- Past all stops the search ends with the colour of the last one. -/
theorem sampleFrom_past (past : ∀ next ∈ later, next.position < t)
    (ends : (stop :: later).getLast? = some last) : sampleFrom stop t later = last.color := by
  induction later generalizing stop with
  | nil =>
    cases ends
    rfl
  | cons next later ih =>
    rw [List.getLast?_cons_cons] at ends
    rw [sampleFrom, if_neg (not_le.2 (past next List.mem_cons_self))]
    exact ih (fun other member => past other (List.mem_cons_of_mem _ member)) ends

/-! ## Samples -/

/-- A position brought into the unit interval. -/
def confined (t : α) : α := min (max t 0) 1

/-- Positions in the unit interval are not moved by `confined`. -/
theorem confined_of_mem (mem : 0 ≤ t ∧ t ≤ 1) : confined t = t := by
  rw [confined, max_eq_left mem.1, min_eq_left mem.2]

theorem confined_mono {s : α} (le : s ≤ t) : confined s ≤ confined t :=
  min_le_min_right 1 (max_le_max_right 0 le)

theorem clamp_eq_confined (t : α) : Scalar.clamp t 0.0 1.0 = confined t :=
  ExactScalar.clamp_unit_eq t

theorem sample_of_first_lt (lt : stop.position < confined t) :
    sample (stop :: later) t = sampleFrom stop (confined t) later := by
  rw [← clamp_eq_confined] at lt ⊢
  exact if_neg (not_le.2 lt)

/-- Up to the first stop a gradient has the colour of that. -/
theorem sample_of_le_first (starts : gradient.head? = some first)
    (le : confined t ≤ first.position) : gradient.sample t = first.color := by
  obtain ⟨later, rfl⟩ := List.head?_eq_some_iff.1 starts
  rw [← clamp_eq_confined] at le
  exact if_pos le

/-- Past the last stop a gradient has the colour of that. -/
theorem sample_of_last_lt (neighbours : gradient.IsChain ColorStop.Precedes)
    (ends : gradient.getLast? = some last) (lt : last.position < confined t) :
    gradient.sample t = last.color := by
  have past : ∀ stop ∈ gradient, stop.position < confined t := fun stop member =>
    (position_le_last neighbours member ends).trans_lt lt
  cases gradient with
  | nil => cases ends
  | cons stop later =>
    rw [sample_of_first_lt (past stop List.mem_cons_self)]
    exact sampleFrom_past (fun next member => past next (List.mem_cons_of_mem _ member)) ends

/-- In the segment that `Covers` a position the colours of both ends are mixed by its share. -/
theorem sample_of_covers (neighbours : gradient.IsChain ColorStop.Precedes)
    (covers : gradient.Covers (confined t) place a b) :
    gradient.sample t =
      a.color.mix b.color ((confined t - a.position) / (b.position - a.position)) := by
  cases gradient with
  | nil => cases covers.start_eq
  | cons stop later =>
    have past : stop.position < confined t :=
      (position_le neighbours (Nat.zero_le place) rfl covers.start_eq).trans_lt covers.start_lt
    rw [sample_of_first_lt past]
    exact sampleFrom_of_covers neighbours covers

theorem sample_first (mem : 0 ≤ first.position ∧ first.position ≤ 1)
    (starts : gradient.head? = some first) : gradient.sample first.position = first.color :=
  sample_of_le_first starts (confined_of_mem mem).le

section Rounded

variable [FloorRing α] [ExactRounding α] [ExactNearest α]

/-- A stop that is not behind an edge has its own colour. -/
theorem sample_stop (spaced : gradient.Spaced) (start_eq : gradient[place]? = some a)
    (stop_eq : gradient[place + 1]? = some b) (lt : a.position < b.position) :
    gradient.sample b.position = b.color := by
  have confined := confined_of_mem (spaced.unit_mem b (List.mem_of_getElem? stop_eq))
  have covers : gradient.Covers (Gradient.confined b.position) place a b :=
    ⟨start_eq, stop_eq, confined.symm ▸ lt, confined.le⟩
  rw [sample_of_covers spaced.neighbours covers, confined, div_self (sub_pos.2 lt).ne', Rgb.mix_one]

end Rounded

end Gradient

/-! ## The curve -/

namespace Rgb

/-- The three channels of a colour. -/
def channels : List (Rgb → UInt8) := [red, green, blue]

/-- Each of the `channels` is mixed for itself. -/
theorem channel_mix {channel : Rgb → UInt8} (listed : channel ∈ channels) (a b : Rgb) {t : α}
    (mem : 0 ≤ t ∧ t ≤ 1) : channel (a.mix b t) = mixChannel (channel a) (channel b) t := by
  have inUnit : Scalar.clamp t 0.0 1.0 = t := by
    rw [ExactScalar.clamp_unit_eq, max_eq_left mem.1, min_eq_left mem.2]
  simp only [channels, List.mem_cons, List.not_mem_nil, or_false] at listed
  rcases listed with rfl | rfl | rfl
  all_goals simp only [mix, inUnit]

end Rgb

namespace Gradient

variable [FloorRing α] [ExactRounding α] [ExactNearest α]

/-- A gradient that is `Spaced` is the piecewise linear curve through its stops. Up to the first
stop it has the colour of that, and past the last one the colour of that. In between there is
exactly one segment around a position (`Covers`), and each channel of the colour is the value of the
line between its two ends, rounded to the nearest whole number. So a channel is between the two
ends, and goes from one to the other without turning back; and every stop that is not behind an edge
has its own colour. -/
theorem sample_eq_curve {gradient : Gradient α} {first last : ColorStop α}
    (spaced : gradient.Spaced) (starts : gradient.head? = some first)
    (ends : gradient.getLast? = some last) :
    (∀ t, confined t ≤ first.position → gradient.sample t = first.color) ∧
    (∀ t, last.position < confined t → gradient.sample t = last.color) ∧
    (∀ t, first.position < confined t → confined t ≤ last.position →
      ∃! place, ∃ a b, gradient.Covers (confined t) place a b) ∧
    (∀ t place a b, gradient.Covers (confined t) place a b → ∀ channel ∈ Rgb.channels,
      ((channel (gradient.sample t)).toNat : Int) =
        round (((channel a.color).toNat : α) +
          (((channel b.color).toNat : α) - ((channel a.color).toNat : α)) *
            ((confined t - a.position) / (b.position - a.position))) ∧
      min (channel a.color).toNat (channel b.color).toNat ≤ (channel (gradient.sample t)).toNat ∧
      (channel (gradient.sample t)).toNat ≤ max (channel a.color).toNat (channel b.color).toNat) ∧
    (∀ s t place a b, gradient.Covers (confined s) place a b → gradient.Covers (confined t) place a b →
      s ≤ t → ∀ channel ∈ Rgb.channels,
      ((channel a.color).toNat ≤ (channel b.color).toNat →
        (channel (gradient.sample s)).toNat ≤ (channel (gradient.sample t)).toNat) ∧
      ((channel b.color).toNat ≤ (channel a.color).toNat →
        (channel (gradient.sample t)).toNat ≤ (channel (gradient.sample s)).toNat)) ∧
    gradient.sample first.position = first.color ∧
    ∀ place a b, gradient[place]? = some a → gradient[place + 1]? = some b →
      a.position < b.position → gradient.sample b.position = b.color := by
  have neighbours := spaced.neighbours
  refine ⟨fun t => sample_of_le_first starts, fun t => sample_of_last_lt neighbours ends,
    fun t lt le => ?_, fun t place a b covers channel listed => ?_,
    fun s t place a b coversS coversT le channel listed => ?_,
    sample_first (spaced.unit_mem first (List.mem_of_head? starts)) starts,
    fun place a b => sample_stop spaced⟩
  · obtain ⟨place, a, b, covers⟩ := exists_covers starts ends lt le
    refine ⟨place, ⟨a, b, covers⟩, ?_⟩
    rintro other ⟨_, _, covers'⟩
    exact covers.place_eq neighbours covers'
  · obtain ⟨nonneg, le_one⟩ := covers.share_mem
    rw [sample_of_covers neighbours covers, Rgb.channel_mix listed _ _ covers.share_mem]
    exact ⟨Rgb.mixChannel_eq_round _ _ nonneg le_one, Rgb.mixChannel_mem _ _ nonneg le_one⟩
  · have shares : (confined s - a.position) / (b.position - a.position) ≤
        (confined t - a.position) / (b.position - a.position) :=
      div_le_div_of_nonneg_right (sub_le_sub_right (confined_mono le) _) coversS.width_pos.le
    rw [sample_of_covers neighbours coversS, sample_of_covers neighbours coversT,
      Rgb.channel_mix listed _ _ coversS.share_mem, Rgb.channel_mix listed _ _ coversT.share_mem]
    exact Rgb.mixChannel_mono coversS.share_mem.1 shares coversT.share_mem.2

/-- A gradient with an edge in the middle, which begins late and ends early. -/
def edged : Gradient ℚ :=
  [⟨1 / 4, ⟨10, 200, 0⟩⟩, ⟨1 / 2, ⟨20, 100, 0⟩⟩, ⟨1 / 2, ⟨255, 0, 0⟩⟩, ⟨3 / 4, ⟨0, 0, 1⟩⟩]

theorem spaced_edged : edged.Spaced := by
  constructor
  · norm_num [edged]
  · norm_num [edged, ColorStop.Precedes, Scalar.epsilon, ExactScalar.literal_eq]

/-- On the edge itself the gradient has the colour in front of it, and halfway behind it red and
blue are halves, which are rounded up. -/
theorem sample_eq_curve_edged :
    edged.Spaced ∧ edged.head? = some ⟨1 / 4, ⟨10, 200, 0⟩⟩ ∧
      edged.getLast? = some ⟨3 / 4, ⟨0, 0, 1⟩⟩ ∧ edged.sample (1 / 8) = ⟨10, 200, 0⟩ ∧
      edged.sample (1 / 2) = ⟨20, 100, 0⟩ ∧ (edged.sample (5 / 8)).red.toNat = 128 ∧
      (edged.sample (5 / 8)).blue.toNat = 1 ∧ edged.sample (7 / 8) = ⟨0, 0, 1⟩ := by
  obtain ⟨upTo, past, -, onSegment, -, -, onStop⟩ := sample_eq_curve spaced_edged rfl rfl
  have covers : edged.Covers (confined (5 / 8)) 2 ⟨1 / 2, ⟨255, 0, 0⟩⟩ ⟨3 / 4, ⟨0, 0, 1⟩⟩ :=
    ⟨rfl, rfl, by norm_num [confined], by norm_num [confined]⟩
  have red : ((edged.sample (5 / 8)).red.toNat : Int) = 128 :=
    (onSegment (5 / 8) 2 _ _ covers Rgb.red (by simp [Rgb.channels])).1.trans (by decide +kernel)
  have blue : ((edged.sample (5 / 8)).blue.toNat : Int) = 1 :=
    (onSegment (5 / 8) 2 _ _ covers Rgb.blue (by simp [Rgb.channels])).1.trans (by decide +kernel)
  exact ⟨spaced_edged, rfl, rfl, upTo (1 / 8) (by norm_num [confined]),
    onStop 0 _ ⟨1 / 2, ⟨20, 100, 0⟩⟩ rfl rfl (by norm_num), by exact_mod_cast red,
    by exact_mod_cast blue, past (7 / 8) (by norm_num [confined])⟩

end Gradient

/-- The ramps of all themes are `Spaced`, so that `sample_eq_curve` is about them. -/
theorem Theme.spaced_of_mem_all {theme : Theme α} (listed : theme ∈ all) (dark : Bool) :
    (theme.palettes.pick dark).ramp.Spaced := by
  have ramps : ∀ theme ∈ (all : List (Theme α)), ∀ dark,
      (theme.palettes.pick dark).ramp ∈ [fade, emberDark, emberLight] := by
    simp [all, snowfall, sakura, fireflies, starfield, koi, zen, embers, bamboo, dunes, Palettes.pick]
  have spaced : ∀ ramp ∈ ([fade, emberDark, emberLight] : List (Gradient α)), ramp.Spaced := by
    simp only [List.forall_mem_cons, List.not_mem_nil, IsEmpty.forall_iff, implies_true, and_true]
    refine ⟨⟨?_, ?_⟩, ⟨?_, ?_⟩, ⟨?_, ?_⟩⟩
    all_goals
      norm_num [fade, emberDark, emberLight, ColorStop.Precedes, Scalar.epsilon, ExactScalar.literal_eq]
  exact spaced _ (ramps theme listed dark)

end Ambience
