/-
Module: Csqtt.Proofs.CaptchaSlider
Purpose: What the swaps and the tiles of a slider puzzle hold, and that a pixel of a tile is scaled
  to a pixel of the image.
Trusted boundary: none
Main exports: Image.Sized, splitSteps_accepts, Moves, moves_of_applySwaps, tileRect_eq, sample_of_inside
-/
import Csqtt.Engine.CaptchaSlider

namespace Csqtt.CaptchaSlider

/-- An image of a size that a file of the kind that is sent can have. -/
structure Image.Sized (image : Image) : Prop where
  wide : 0 < image.width
  width_le : image.width ≤ 65535
  high : 0 < image.height
  height_le : image.height ≤ 65535

/-!
### The puzzle
-/

/-- Steps that are accepted have a grid that is neither empty nor too large, some swaps, and some
attempts. -/
theorem splitSteps_accepts {steps swaps : List Nat} {size attempts : Nat}
    (accepted : splitSteps steps = .ok (size, swaps, attempts)) :
    0 < size ∧ size ≤ maxSliderGrid ∧ swaps ≠ [] ∧ attempts ≠ 0 := by
  cases steps with
  | nil => cases accepted
  | cons first tail =>
    rw [splitSteps] at accepted
    split at accepted
    · cases accepted
    · split at accepted
      · cases accepted
      · next inside =>
          rw [not_or, Nat.not_lt] at inside
          -- whatever the tail and the attempts are, the last check is passed with them
          have passed {rest : List Nat} {count : Nat}
              (passes : (if rest = [] ∨ rest.length % 2 ≠ 0 then
                .error "invalid slider swap payload"
                else .ok (first, rest, if count = 0 then 4 else count) :
                  Except String (Nat × List Nat × Nat)) = .ok (size, swaps, attempts)) :
              0 < size ∧ size ≤ maxSliderGrid ∧ swaps ≠ [] ∧ attempts ≠ 0 := by
            by_cases refused : rest = [] ∨ rest.length % 2 ≠ 0
            · rw [if_pos refused] at passes
              cases passes
            · rw [if_neg refused] at passes
              cases passes
              refine ⟨Nat.pos_of_ne_zero inside.1, inside.2, fun empty => refused (.inl empty), ?_⟩
              split
              · decide
              · assumption
          exact passed accepted

/-- Every tile goes to a tile. -/
structure Moves (gridSize : Nat) (mapping : List Nat) : Prop where
  length : mapping.length = gridSize * gridSize
  inside : ∀ tile ∈ mapping, tile < gridSize * gridSize

theorem Moves.swapItems {gridSize : Nat} {mapping : List Nat} (moves : Moves gridSize mapping)
    (first second : Nat) : Moves gridSize (swapItems mapping first second) := by
  rw [CaptchaSlider.swapItems]
  split
  · next one other found found' =>
      refine ⟨by rw [List.length_set, List.length_set, moves.length], fun tile mem => ?_⟩
      rcases List.mem_or_eq_of_mem_set mem with mem | rfl
      · rcases List.mem_or_eq_of_mem_set mem with mem | rfl
        · exact moves.inside tile mem
        · exact moves.inside tile (List.mem_of_getElem? found')
      · exact moves.inside tile (List.mem_of_getElem? found)
  · exact moves

theorem moves_of_swapPairs {gridSize : Nat} : ∀ {swaps mapping moved : List Nat},
    Moves gridSize mapping → swapPairs (gridSize * gridSize) mapping swaps = .ok moved →
      Moves gridSize moved
  | first :: second :: later, mapping, moved, moves, swapped => by
      rw [swapPairs] at swapped
      split at swapped
      · cases swapped
      · exact moves_of_swapPairs (moves.swapItems first second) swapped
  | [], _, _, moves, swapped => by
      obtain rfl := Except.ok.inj swapped
      exact moves
  | [_], _, _, moves, swapped => by
      obtain rfl := Except.ok.inj swapped
      exact moves

theorem moves_of_applySwaps {gridSize : Nat} {swaps mapping : List Nat}
    (applied : applySwaps gridSize swaps = .ok mapping) : Moves gridSize mapping := by
  rw [applySwaps] at applied
  split at applied
  · cases applied
  · split at applied
    · cases applied
    · split at applied
      · cases applied
      · exact moves_of_swapPairs
          ⟨List.length_range, fun tile mem => List.mem_range.mp mem⟩ applied

theorem length_of_applySwaps {gridSize : Nat} {swaps mapping : List Nat}
    (applied : applySwaps gridSize swaps = .ok mapping) :
    swaps.length % 2 = 0 := by
  rw [applySwaps] at applied
  split at applied
  · cases applied
  · split at applied
    · cases applied
    · split at applied
      · cases applied
      · next even => exact not_not.mp even

/-- The first pairs of a list of swaps that is accepted are accepted. -/
theorem swapPairs_take {tileCount : Nat} : ∀ (pairs : Nat) {swaps mapping moved : List Nat},
    swapPairs tileCount mapping swaps = .ok moved →
      ∃ front, swapPairs tileCount mapping (swaps.take (pairs * 2)) = .ok front
  | 0, _, mapping, _, _ => by
      rw [Nat.zero_mul, List.take_zero]
      exact ⟨mapping, rfl⟩
  | pairs + 1, first :: second :: later, mapping, moved, swapped => by
      rw [swapPairs] at swapped
      split at swapped
      · cases swapped
      · next inside =>
          obtain ⟨front, taken⟩ := swapPairs_take pairs swapped
          refine ⟨front, ?_⟩
          rw [Nat.succ_mul, List.take_succ_cons, List.take_succ_cons, swapPairs, if_neg inside]
          exact taken
  | _ + 1, [], mapping, _, _ => ⟨mapping, rfl⟩
  | pairs + 1, [only], mapping, _, _ => by
      rw [Nat.succ_mul, List.take_succ_cons, List.take_nil]
      exact ⟨mapping, rfl⟩

theorem applySwaps_take {gridSize : Nat} {swaps mapping : List Nat}
    (applied : applySwaps gridSize swaps = .ok mapping) {pairs : Nat}
    (fits : pairs * 2 ≤ swaps.length) :
    ∃ front, applySwaps gridSize (swaps.take (pairs * 2)) = .ok front := by
  have even : ¬ (swaps.take (pairs * 2)).length % 2 ≠ 0 := by
    rw [List.length_take, Nat.min_eq_left fits, Nat.mul_mod_left]
    exact not_not.mpr rfl
  rw [applySwaps] at applied ⊢
  split at applied
  · cases applied
  · next small =>
      split at applied
      · cases applied
      · next some =>
          split at applied
          · cases applied
          · rw [if_neg small, if_neg some, if_neg even]
            exact swapPairs_take pairs applied

/-!
### Tiles
-/

/-- The edge before the tile with a number. -/
def edge (size gridSize number : Nat) : Nat := number * size / gridSize

section Edges

variable {size gridSize number : Nat}

theorem tileEdge_eq (positive : 0 < gridSize) (size_le : size ≤ 65535) (number_le : number ≤ 16) :
    tileEdge size gridSize number = some (edge size gridSize number) := by
  have product := Nat.mul_le_mul number_le size_le
  rw [tileEdge, mulChecked_of_lt (by omega)]
  exact divChecked_of_pos positive

theorem edge_mono {less more : Nat} (le : less ≤ more) :
    edge size gridSize less ≤ edge size gridSize more :=
  Nat.div_le_div_right (Nat.mul_le_mul_right size le)

theorem edge_le (number_le : number ≤ gridSize) : edge size gridSize number ≤ size :=
  Nat.div_le_of_le_mul (Nat.mul_le_mul_right size number_le)

/-- No tile is empty where there are as many pixels as tiles. -/
theorem edge_lt (positive : 0 < gridSize) (enough : gridSize ≤ size) :
    edge size gridSize number < edge size gridSize (number + 1) := by
  calc edge size gridSize number
      < (number * size + gridSize) / gridSize := by
        rw [Nat.add_div_right _ positive]
        exact Nat.lt_succ_self _
    _ ≤ edge size gridSize (number + 1) := by
        rw [edge, Nat.succ_mul]
        exact Nat.div_le_div_right (Nat.add_le_add_left enough _)

/-- The first tile is empty where there are fewer pixels than tiles. -/
theorem edge_one (few : size < gridSize) : edge size gridSize 1 = 0 := by
  rw [edge, Nat.one_mul, Nat.div_eq_of_lt few]

/-- The last tile is never empty. -/
theorem edge_lt_last (last : number + 1 = gridSize) (some : 0 < size) :
    edge size gridSize number < edge size gridSize (number + 1) := by
  have positive : 0 < gridSize := last ▸ Nat.succ_pos number
  have whole : edge size gridSize (number + 1) = size := by
    rw [edge, last, Nat.mul_div_cancel_left size positive]
  rw [whole, edge, Nat.div_lt_iff_lt_mul positive, Nat.mul_comm]
  exact Nat.mul_lt_mul_of_pos_left (last ▸ Nat.lt_succ_self number) some

end Edges

/-- A rectangle of an image. -/
structure Rect.Inside (rect : Rect) (image : Image) : Prop where
  orderedX : rect.minX ≤ rect.maxX
  orderedY : rect.minY ≤ rect.maxY
  maxX_le : rect.maxX ≤ image.width
  maxY_le : rect.maxY ≤ image.height

/-- The tile with an index. -/
def tile (image : Image) (gridSize index : Nat) : Rect where
  minX := edge image.width gridSize (index % gridSize)
  minY := edge image.height gridSize (index / gridSize)
  maxX := edge image.width gridSize (index % gridSize + 1)
  maxY := edge image.height gridSize (index / gridSize + 1)

section Tiles

variable {image : Image} {gridSize index : Nat} {rect source destination : Rect}

theorem tileRect_eq (sized : image.Sized) (gridSize_le : gridSize ≤ maxSliderGrid)
    (inside : index < gridSize * gridSize) :
    tileRect image gridSize index = some (tile image gridSize index) := by
  rw [maxSliderGrid] at gridSize_le
  have positive : 0 < gridSize := Nat.pos_of_mul_pos_left (Nat.zero_lt_of_lt inside)
  have column := Nat.mod_lt index positive
  have row := Nat.div_lt_of_lt_mul inside
  have edgeX {number : Nat} (number_le : number ≤ 16) :=
    tileEdge_eq positive sized.width_le number_le
  have edgeY {number : Nat} (number_le : number ≤ 16) :=
    tileEdge_eq positive sized.height_le number_le
  have nextColumn : addChecked 32 (index % gridSize) 1 = some (index % gridSize + 1) :=
    addChecked_of_lt (by omega)
  have nextRow : addChecked 32 (index / gridSize) 1 = some (index / gridSize + 1) :=
    addChecked_of_lt (by omega)
  simp only [tileRect, nextColumn, nextRow, Option.bind_eq_bind, Option.bind_some]
  rw [edgeX (by omega), edgeY (by omega), Option.bind_some, Option.bind_some, edgeX (by omega),
    edgeY (by omega)]
  rfl

theorem tile_inside (inside : index < gridSize * gridSize) :
    (tile image gridSize index).Inside image where
  orderedX := edge_mono (Nat.le_succ _)
  orderedY := edge_mono (Nat.le_succ _)
  maxX_le := edge_le (Nat.mod_lt index (Nat.pos_of_mul_pos_left (Nat.zero_lt_of_lt inside)))
  maxY_le := edge_le (Nat.div_lt_of_lt_mul inside)

theorem Rect.Inside.width (inside : rect.Inside image) :
    rect.width = some (rect.maxX - rect.minX) :=
  subChecked_of_le inside.orderedX

theorem Rect.Inside.height (inside : rect.Inside image) :
    rect.height = some (rect.maxY - rect.minY) :=
  subChecked_of_le inside.orderedY

/-- A coordinate inside the destination comes to one inside the image. -/
theorem scaled_of_inside
    {position destinationMin destinationMax sourceMin sourceMax imageSize : Nat}
    (some : 0 < imageSize) (imageSize_le : imageSize ≤ 65535) (after : destinationMin ≤ position)
    (before : position < destinationMax) (destination_le : destinationMax ≤ imageSize)
    (ordered : sourceMin ≤ sourceMax) (source_le : sourceMax ≤ imageSize) :
    ∃ coordinate < imageSize, scaled position destinationMin (destinationMax - destinationMin)
      sourceMin (sourceMax - sourceMin) imageSize = .some coordinate := by
  have size : max (destinationMax - destinationMin) 1 = destinationMax - destinationMin :=
    Nat.max_eq_left (by omega)
  have product : (position - destinationMin) * (sourceMax - sourceMin) ≤ 65535 * 65535 :=
    Nat.mul_le_mul (by omega) (by omega)
  have share : (position - destinationMin) * (sourceMax - sourceMin) /
      (destinationMax - destinationMin) ≤ sourceMax - sourceMin :=
    Nat.div_le_of_le_mul (Nat.mul_le_mul_right _ (by omega))
  refine ⟨min (sourceMin + (position - destinationMin) * (sourceMax - sourceMin) /
    (destinationMax - destinationMin)) (imageSize - 1),
    (Nat.min_le_right _ _).trans_lt (Nat.sub_lt some Nat.one_pos), ?_⟩
  rw [scaled, subChecked_of_le after, Option.bind_eq_bind, Option.bind_some,
    mulChecked_of_lt (by omega), Option.bind_some, size, divChecked_of_pos (by omega),
    Option.bind_some, addChecked_of_lt (by omega)]
  rfl

/-- A pixel of the destination is a pixel of the image. -/
theorem sample_of_inside (sized : image.Sized) (outer : destination.Inside image)
    (inner : source.Inside image) {x y : Nat} (afterX : destination.minX ≤ x)
    (beforeX : x < destination.maxX) (afterY : destination.minY ≤ y)
    (beforeY : y < destination.maxY) :
    ∃ pixel, sample image destination source x y = some pixel := by
  obtain ⟨sourceX, insideX, scaledX⟩ := scaled_of_inside sized.wide sized.width_le afterX beforeX
    outer.maxX_le inner.orderedX inner.maxX_le
  obtain ⟨sourceY, insideY, scaledY⟩ := scaled_of_inside sized.high sized.height_le afterY beforeY
    outer.maxY_le inner.orderedY inner.maxY_le
  refine ⟨image.pixel sourceX sourceY, ?_⟩
  simp only [sample, outer.width, outer.height, inner.width, inner.height, Option.bind_eq_bind,
    Option.bind_some, scaledX, scaledY]
  exact if_pos ⟨insideX, insideY⟩

end Tiles

theorem tile_at (image : Image) {gridSize row column : Nat} (inRow : column < gridSize) :
    tile image gridSize (row * gridSize + column) = {
      minX := edge image.width gridSize column
      minY := edge image.height gridSize row
      maxX := edge image.width gridSize (column + 1)
      maxY := edge image.height gridSize (row + 1) } := by
  have positive : 0 < gridSize := Nat.zero_lt_of_lt inRow
  have position : (row * gridSize + column) % gridSize = column := by
    rw [Nat.mul_add_mod_self_right, Nat.mod_eq_of_lt inRow]
  have line : (row * gridSize + column) / gridSize = row := by
    rw [Nat.add_comm, Nat.add_mul_div_right _ _ positive, Nat.div_eq_of_lt inRow, Nat.zero_add]
  rw [tile, position, line]

theorem index_lt {gridSize row column : Nat} (inGrid : row < gridSize) (inRow : column < gridSize) :
    row * gridSize + column < gridSize * gridSize := by
  calc row * gridSize + column
      < row * gridSize + gridSize := Nat.add_lt_add_left inRow _
    _ = (row + 1) * gridSize := (Nat.succ_mul row gridSize).symm
    _ ≤ gridSize * gridSize := Nat.mul_le_mul_right gridSize inGrid

end Csqtt.CaptchaSlider
