import Ambience.Theme.Catalog
import Mathlib.Data.List.Nodup

/-!
# The order of the themes

The nine themes of the catalog stand in a ring, in which each is found by its name. Going on from one
by some places and then by more is going on by all of them at once.
-/

namespace Ambience.Theme

variable {α : Type} [Scalar α] {theme theme' : Theme α} {i : Nat}

/-- No two themes have one name. -/
theorem names_nodup : (names (α := α)).Nodup := by
  have listed : names (α := α) = ["snowfall", "sakura", "fireflies", "starfield", "koi", "zen",
      "embers", "bamboo", "dunes"] := rfl
  rw [listed]
  decide

/-- A theme of the catalog is found at its `place`. -/
theorem place_eq (found : all[i]? = some theme) : place (α := α) theme.name = i := by
  obtain ⟨inRange, rfl⟩ := List.getElem?_eq_some_iff.1 found
  have first : (all (α := α)).findIdx? (fun other => other.name == all[i].name) = some i := by
    refine List.findIdx?_eq_some_iff_getElem.2 ⟨inRange, beq_self_eq_true _, fun j before same => ?_⟩
    have inRange' := Nat.lt_trans before inRange
    have sameName : (names (α := α))[j]? = (names (α := α))[i]? := by
      rw [names, List.getElem?_map, List.getElem?_map, List.getElem?_eq_getElem inRange',
        List.getElem?_eq_getElem inRange]
      exact congrArg some (beq_iff_eq.1 same)
    have namesRange : j < (names (α := α)).length := by
      rw [names, List.length_map]
      exact inRange'
    have samePlace := (List.getElem?_inj namesRange names_nodup).1 sameName
    omega
  rw [place, first]
  rfl

theorem eq_of_name (member : theme ∈ all) (member' : theme' ∈ all) (same : theme.name = theme'.name) :
    theme = theme' := by
  obtain ⟨i, found⟩ := List.getElem?_of_mem member
  obtain ⟨j, found'⟩ := List.getElem?_of_mem member'
  have samePlace : i = j := by rw [← place_eq found, ← place_eq found', same]
  rw [samePlace] at found
  exact Option.some.inj (found.symm.trans found')

/-- A theme that is reached by an offset is as many places on, counted round the catalog. -/
theorem getElem?_after (found : all[i]? = some theme) (offset : Int) :
    (all : List (Theme α))[((i + offset) % 9).toNat]? = some (after theme.name offset) := by
  have inRange : ((i + offset) % 9).toNat < (all (α := α)).length := by
    show _ < 9
    omega
  rw [after, place_eq found]
  show _ = some (all.getD ((i + offset) % 9).toNat snowfall)
  rw [List.getD_eq_getElem?_getD, List.getElem?_eq_getElem inRange, Option.getD_some]

/-- From a theme of the catalog every offset leads to one of the catalog. -/
theorem after_mem (member : theme ∈ all) (offset : Int) :
    (after theme.name offset : Theme α) ∈ all := by
  obtain ⟨i, found⟩ := List.getElem?_of_mem member
  exact List.mem_of_getElem? (getElem?_after found offset)

theorem after_zero (member : theme ∈ all) : after theme.name 0 = theme := by
  obtain ⟨i, found⟩ := List.getElem?_of_mem member
  have inRange : i < 9 := (List.getElem?_eq_some_iff.1 found).1
  have stays : ((i + 0 : Int) % 9).toNat = i := by omega
  have landed := getElem?_after found 0
  rw [stays, found] at landed
  exact (Option.some.inj landed).symm

/-- Two offsets after each other lead where their sum leads. -/
theorem after_after (member : theme ∈ all) (first second : Int) :
    after (after theme.name first : Theme α).name second =
      (after theme.name (first + second) : Theme α) := by
  obtain ⟨i, found⟩ := List.getElem?_of_mem member
  have middle := getElem?_after found first
  have stepwise := getElem?_after middle second
  have atOnce := getElem?_after found (first + second)
  have samePlace : (((((i + first) % 9).toNat : Int) + second) % 9).toNat =
      ((i + (first + second)) % 9).toNat := by omega
  rw [samePlace, atOnce] at stepwise
  exact (Option.some.inj stepwise).symm

/-- Two offsets lead to one theme, by `Theme.after`, exactly if they differ by whole rounds. -/
theorem after_eq_after (member : theme ∈ all) (offset offset' : Int) :
    (after theme.name offset : Theme α) = after theme.name offset' ↔ offset % 9 = offset' % 9 := by
  obtain ⟨i, found⟩ := List.getElem?_of_mem member
  have landed := getElem?_after found offset
  have landed' := getElem?_after found offset'
  constructor
  · intro same
    have place := place_eq landed
    rw [same, place_eq landed'] at place
    omega
  · intro same
    have samePlace : ((i + offset) % 9).toNat = ((i + offset') % 9).toNat := by omega
    rw [samePlace, landed'] at landed
    exact (Option.some.inj landed).symm

end Ambience.Theme
