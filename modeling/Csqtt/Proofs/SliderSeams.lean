/-
Module: Csqtt.Proofs.SliderSeams
Purpose: When the seams of a slider puzzle are scored without a word operation that does not fit
  and without an access outside the image.
Trusted boundary: none
Main exports: Notes, uprightSeam_grows, lyingSeam_grows, seamScore_grows, seamScore_fails,
  Image.Fits, Ranks, rankGuesses_of_splitSteps, rankGuesses_checked_iff, narrow_image_not_ranked
-/
import Csqtt.Proofs.CaptchaSlider

namespace Csqtt.CaptchaSlider

/-!
### Seams
-/

/-- What is noted about two pixels adds no more than three differences of bytes. -/
def Notes {Score : Type} (measure : Score → Nat) (limit : Nat) (note : Score → Option Score) :
    Prop :=
  ∀ score, measure score + 765 ≤ limit →
    ∃ next, note score = some next ∧ measure next ≤ measure score + 765

/-- What a seam adds at most. -/
def seamAmount : Nat := 765 * 65535

section Seams

variable {Score : Type} {measure : Score → Nat} {limit : Nat} {image : Image}
  {gridSize row column : Nat} {mapping : List Nat}

theorem Moves.getElem? (moves : Moves gridSize mapping) {index : Nat}
    (inside : index < gridSize * gridSize) :
    ∃ moved < gridSize * gridSize, mapping[index]? = some moved := by
  have short : index < mapping.length := inside.trans_eq moves.length.symm
  exact ⟨mapping[index], moves.inside _ (List.getElem_mem short), List.getElem?_eq_getElem short⟩

theorem pairs_grow {step : Score → Nat → Option Score} {count : Nat} (count_le : count ≤ 65535)
    (turn : ∀ score, ∀ offset < count, measure score + 765 ≤ limit →
      ∃ next, step score offset = some next ∧ measure next ≤ measure score + 765)
    {score : Score} (room : measure score + seamAmount ≤ limit) :
    ∃ next, (List.range count).foldlM step score = some next ∧
      measure next ≤ measure score + seamAmount := by
  have most : 765 * (List.range count).length ≤ seamAmount := by
    rw [List.length_range]
    exact Nat.mul_le_mul_left 765 count_le
  obtain ⟨next, ended, bound⟩ := foldlM_grows measure
    (fun score offset mem => turn score offset (List.mem_range.mp mem)) score
    ((Nat.add_le_add_left most _).trans room)
  exact ⟨next, ended, bound.trans (Nat.add_le_add_left most _)⟩

/-- The seam of two neighbours is a loop along the edge between them. -/
theorem uprightSeam_eq (note : Nat → Rgba → Rgba → Score → Option Score) (sized : image.Sized)
    (gridSize_le : gridSize ≤ maxSliderGrid) (moves : Moves gridSize mapping)
    (inGrid : row < gridSize) (inRow : column + 1 < gridSize) :
    ∃ left < gridSize * gridSize, ∃ right < gridSize * gridSize, ∀ score,
      uprightSeam image gridSize mapping note row column score =
        (List.range (edge image.height gridSize (row + 1) -
          edge image.height gridSize row)).foldlM (fun score offset => do
            let y ← addChecked 32 (edge image.height gridSize row) offset
            let first ← sample image (tile image gridSize (row * gridSize + column))
              (tile image gridSize left) (← subChecked (edge image.width gridSize (column + 1)) 1) y
            let second ← sample image (tile image gridSize (row * gridSize + column + 1))
              (tile image gridSize right) (edge image.width gridSize (column + 1)) y
            note y first second score) score := by
  have before := index_lt inGrid (Nat.lt_of_succ_lt inRow)
  have behind : row * gridSize + column + 1 < gridSize * gridSize := index_lt inGrid inRow
  obtain ⟨left, leftInside, leftMoved⟩ := moves.getElem? before
  obtain ⟨right, rightInside, rightMoved⟩ := moves.getElem? behind
  refine ⟨left, leftInside, right, rightInside, fun score => ?_⟩
  simp only [uprightSeam, tileRect_eq sized gridSize_le before,
    tileRect_eq sized gridSize_le behind, leftMoved, rightMoved, Option.bind_eq_bind,
    Option.bind_some, tileRect_eq sized gridSize_le leftInside,
    tileRect_eq sized gridSize_le rightInside, (tile_inside before).height,
    (tile_inside behind).height]
  rw [tile_at image (Nat.lt_of_succ_lt inRow), Nat.add_assoc, tile_at image inRow]
  dsimp only
  rw [Nat.min_self]

theorem lyingSeam_eq (note : Rgba → Rgba → Score → Option Score) (sized : image.Sized)
    (gridSize_le : gridSize ≤ maxSliderGrid) (moves : Moves gridSize mapping)
    (inGrid : row + 1 < gridSize) (inRow : column < gridSize) :
    ∃ top < gridSize * gridSize, ∃ bottom < gridSize * gridSize, ∀ score,
      lyingSeam image gridSize mapping note row column score =
        (List.range (edge image.width gridSize (column + 1) -
          edge image.width gridSize column)).foldlM (fun score offset => do
            let x ← addChecked 32 (edge image.width gridSize column) offset
            let first ← sample image (tile image gridSize (row * gridSize + column))
              (tile image gridSize top) x (← subChecked (edge image.height gridSize (row + 1)) 1)
            let second ← sample image (tile image gridSize ((row + 1) * gridSize + column))
              (tile image gridSize bottom) x (edge image.height gridSize (row + 1))
            note first second score) score := by
  have above := index_lt (Nat.lt_of_succ_lt inGrid) inRow
  have below := index_lt inGrid inRow
  obtain ⟨top, topInside, topMoved⟩ := moves.getElem? above
  obtain ⟨bottom, bottomInside, bottomMoved⟩ := moves.getElem? below
  refine ⟨top, topInside, bottom, bottomInside, fun score => ?_⟩
  simp only [lyingSeam, tileRect_eq sized gridSize_le above, tileRect_eq sized gridSize_le below,
    topMoved, bottomMoved, Option.bind_eq_bind, Option.bind_some,
    tileRect_eq sized gridSize_le topInside, tileRect_eq sized gridSize_le bottomInside,
    (tile_inside above).width, (tile_inside below).width]
  rw [tile_at image inRow, tile_at image inRow]
  dsimp only
  rw [Nat.min_self]

theorem uprightSeam_grows {note : Nat → Rgba → Rgba → Score → Option Score} (sized : image.Sized)
    (gridSize_le : gridSize ≤ maxSliderGrid) (enough : gridSize ≤ image.width)
    (moves : Moves gridSize mapping)
    (notes : ∀ y left right, Notes measure limit (note y left right))
    (inGrid : row < gridSize) (inRow : column + 1 < gridSize) {score : Score}
    (room : measure score + seamAmount ≤ limit) :
    ∃ next, uprightSeam image gridSize mapping note row column score = some next ∧
      measure next ≤ measure score + seamAmount := by
  have positive : 0 < gridSize := Nat.zero_lt_of_lt inGrid
  obtain ⟨left, leftInside, right, rightInside, loop⟩ :=
    uprightSeam_eq note sized gridSize_le moves inGrid inRow
  have leftOuter := @tile_inside image _ _ (index_lt inGrid (Nat.lt_of_succ_lt inRow))
  have rightOuter := @tile_inside image _ _ (index_lt inGrid inRow)
  rw [tile_at image (Nat.lt_of_succ_lt inRow)] at leftOuter
  rw [tile_at image inRow] at rightOuter
  have leftWide := @edge_lt image.width gridSize column positive enough
  have rightWide := @edge_lt image.width gridSize (column + 1) positive enough
  have height_le := sized.height_le
  have bottom_le : edge image.height gridSize (row + 1) ≤ image.height := leftOuter.maxY_le
  rw [loop, tile_at image (Nat.lt_of_succ_lt inRow), Nat.add_assoc, tile_at image inRow]
  refine pairs_grow (by omega) (fun score offset within space => ?_) room
  obtain ⟨leftPixel, leftSampled⟩ := sample_of_inside sized leftOuter (tile_inside leftInside)
    (Nat.le_sub_one_of_lt leftWide) (Nat.sub_one_lt (Nat.ne_zero_of_lt leftWide))
    (Nat.le_add_right _ offset) (Nat.add_lt_of_lt_sub' within)
  obtain ⟨rightPixel, rightSampled⟩ := sample_of_inside sized rightOuter (tile_inside rightInside)
    (Nat.le_refl _) rightWide (Nat.le_add_right _ offset) (Nat.add_lt_of_lt_sub' within)
  dsimp only at leftSampled rightSampled
  rw [addChecked_of_lt (by omega), subChecked_of_le (by omega)]
  simp only [Option.bind_eq_bind, Option.bind_some, leftSampled, rightSampled]
  exact notes _ _ _ score space

theorem lyingSeam_grows {note : Rgba → Rgba → Score → Option Score} (sized : image.Sized)
    (gridSize_le : gridSize ≤ maxSliderGrid) (enough : gridSize ≤ image.height)
    (moves : Moves gridSize mapping) (notes : ∀ top bottom, Notes measure limit (note top bottom))
    (inGrid : row + 1 < gridSize) (inRow : column < gridSize) {score : Score}
    (room : measure score + seamAmount ≤ limit) :
    ∃ next, lyingSeam image gridSize mapping note row column score = some next ∧
      measure next ≤ measure score + seamAmount := by
  have positive : 0 < gridSize := Nat.zero_lt_of_lt inGrid
  obtain ⟨top, topInside, bottom, bottomInside, loop⟩ :=
    lyingSeam_eq note sized gridSize_le moves inGrid inRow
  have topOuter := @tile_inside image _ _ (index_lt (Nat.lt_of_succ_lt inGrid) inRow)
  have bottomOuter := @tile_inside image _ _ (index_lt inGrid inRow)
  rw [tile_at image inRow] at topOuter bottomOuter
  have topHigh := @edge_lt image.height gridSize row positive enough
  have bottomHigh := @edge_lt image.height gridSize (row + 1) positive enough
  have width_le := sized.width_le
  have right_le : edge image.width gridSize (column + 1) ≤ image.width := topOuter.maxX_le
  rw [loop, tile_at image inRow, tile_at image inRow]
  refine pairs_grow (by omega) (fun score offset within space => ?_) room
  obtain ⟨topPixel, topSampled⟩ := sample_of_inside sized topOuter (tile_inside topInside)
    (Nat.le_add_right _ offset) (Nat.add_lt_of_lt_sub' within)
    (Nat.le_sub_one_of_lt topHigh) (Nat.sub_one_lt (Nat.ne_zero_of_lt topHigh))
  obtain ⟨bottomPixel, bottomSampled⟩ := sample_of_inside sized bottomOuter
    (tile_inside bottomInside) (Nat.le_add_right _ offset) (Nat.add_lt_of_lt_sub' within)
    (Nat.le_refl _) bottomHigh
  dsimp only at topSampled bottomSampled
  rw [addChecked_of_lt (by omega), subChecked_of_le (by omega)]
  simp only [Option.bind_eq_bind, Option.bind_some, topSampled, bottomSampled]
  exact notes _ _ score space

/-- Left of the first upright seam of the last row there is no pixel where the image is narrower
than the grid. -/
theorem uprightSeam_fails {note : Nat → Rgba → Rgba → Score → Option Score} (sized : image.Sized)
    (gridSize_le : gridSize ≤ maxSliderGrid) (few : image.width < gridSize)
    (moves : Moves gridSize mapping) (last : row + 1 = gridSize) (more : 1 < gridSize)
    (score : Score) : uprightSeam image gridSize mapping note row 0 score = none := by
  have inGrid : row < gridSize := last ▸ Nat.lt_succ_self row
  have high := edge_lt_last last sized.high
  have height_le := sized.height_le
  have bottom_le := @edge_le image.height gridSize (row + 1) inGrid
  obtain ⟨_, -, _, -, loop⟩ := uprightSeam_eq note sized gridSize_le moves inGrid more
  rw [loop]
  refine foldlM_eq_none (List.mem_range.mpr (Nat.sub_pos_of_lt high)) (fun score => ?_) score
  rw [addChecked_of_lt (by omega), Nat.zero_add, edge_one few, subChecked_of_lt Nat.one_pos]
  rfl

/-- Nor is there one above the first lying seam of the last column where it is lower. -/
theorem lyingSeam_fails {note : Rgba → Rgba → Score → Option Score} (sized : image.Sized)
    (gridSize_le : gridSize ≤ maxSliderGrid) (few : image.height < gridSize)
    (moves : Moves gridSize mapping) (last : column + 1 = gridSize) (more : 1 < gridSize)
    (score : Score) : lyingSeam image gridSize mapping note 0 column score = none := by
  have inRow : column < gridSize := last ▸ Nat.lt_succ_self column
  have wide := edge_lt_last last sized.wide
  have width_le := sized.width_le
  have right_le := @edge_le image.width gridSize (column + 1) inRow
  obtain ⟨_, -, _, -, loop⟩ := lyingSeam_eq note sized gridSize_le moves more inRow
  rw [loop]
  refine foldlM_eq_none (List.mem_range.mpr (Nat.sub_pos_of_lt wide)) (fun score => ?_) score
  rw [addChecked_of_lt (by omega), Nat.zero_add, edge_one few, subChecked_of_lt Nat.one_pos]
  rfl

/-- What all seams add at most. -/
def scoreAmount : Nat := 2 * (maxSliderGrid * (maxSliderGrid * seamAmount))

/-- A pass over the seams adds no more than so many seams. -/
theorem pass_grows {step : Nat → Nat → Score → Option Score} {rows columns : Nat}
    (rows_le : rows ≤ maxSliderGrid) (columns_le : columns ≤ maxSliderGrid)
    (seam : ∀ row < rows, ∀ column < columns, ∀ score, measure score + seamAmount ≤ limit →
      ∃ next, step row column score = some next ∧ measure next ≤ measure score + seamAmount)
    {score : Score} (room : measure score + maxSliderGrid * (maxSliderGrid * seamAmount) ≤ limit) :
    ∃ next, (List.range rows).foldlM (fun score row =>
        (List.range columns).foldlM (fun score column => step row column score) score) score =
          some next ∧
      measure next ≤ measure score + maxSliderGrid * (maxSliderGrid * seamAmount) := by
  have wide : seamAmount * (List.range columns).length ≤ maxSliderGrid * seamAmount := by
    rw [List.length_range, Nat.mul_comm]
    exact Nat.mul_le_mul_right seamAmount columns_le
  have whole : maxSliderGrid * seamAmount * (List.range rows).length ≤
      maxSliderGrid * (maxSliderGrid * seamAmount) := by
    rw [List.length_range, Nat.mul_comm]
    exact Nat.mul_le_mul_right _ rows_le
  obtain ⟨next, ended, bound⟩ := @foldlM_grows _ _ _ (List.range rows) measure
    (maxSliderGrid * seamAmount) limit (fun score row mem space => by
      obtain ⟨next, ended, bound⟩ := foldlM_grows measure (fun score column inRow space =>
        seam row (List.mem_range.mp mem) column (List.mem_range.mp inRow) score space) score
        ((Nat.add_le_add_left wide _).trans space)
      exact ⟨next, ended, bound.trans (Nat.add_le_add_left wide _)⟩) score
    ((Nat.add_le_add_left whole _).trans room)
  exact ⟨next, ended, bound.trans (Nat.add_le_add_left whole _)⟩

theorem seamScore_grows {upright : Nat → Rgba → Rgba → Score → Option Score}
    {lying : Rgba → Rgba → Score → Option Score} (sized : image.Sized)
    (gridSize_le : gridSize ≤ maxSliderGrid) (wide : gridSize ≤ image.width)
    (high : gridSize ≤ image.height) (moves : Moves gridSize mapping)
    (uprightNotes : ∀ y left right, Notes measure limit (upright y left right))
    (lyingNotes : ∀ top bottom, Notes measure limit (lying top bottom)) {score : Score}
    (room : measure score + scoreAmount ≤ limit) :
    ∃ last, seamScore image gridSize mapping upright lying score = some last := by
  have fewer : gridSize - 1 ≤ maxSliderGrid := (Nat.sub_le _ _).trans gridSize_le
  rw [scoreAmount, Nat.two_mul] at room
  obtain ⟨middle, ended, bound⟩ := pass_grows gridSize_le fewer
    (fun row inGrid column inRow score space => uprightSeam_grows sized gridSize_le wide moves
      uprightNotes inGrid (Nat.add_lt_of_lt_sub inRow) space)
    (Nat.le_of_add_right_le (by rwa [Nat.add_assoc]))
  obtain ⟨last, ended', -⟩ := pass_grows fewer gridSize_le
    (fun row inGrid column inRow score space => lyingSeam_grows sized gridSize_le high moves
      lyingNotes (Nat.add_lt_of_lt_sub inGrid) inRow space)
    ((Nat.add_le_add_right bound _).trans (by rwa [Nat.add_assoc]))
  refine ⟨last, ?_⟩
  rw [seamScore, ended]
  exact ended'

theorem seamScore_fails {upright : Nat → Rgba → Rgba → Score → Option Score}
    {lying : Rgba → Rgba → Score → Option Score} (sized : image.Sized)
    (gridSize_le : gridSize ≤ maxSliderGrid)
    (few : ¬ (gridSize ≤ image.width ∧ gridSize ≤ image.height)) (moves : Moves gridSize mapping)
    (score : Score) : seamScore image gridSize mapping upright lying score = none := by
  have wide := sized.wide
  have high := sized.high
  have more : 1 < gridSize := by omega
  have last : gridSize - 1 + 1 = gridSize := by omega
  have within : gridSize - 1 < gridSize := by omega
  have first : 0 < gridSize - 1 := by omega
  rw [seamScore]
  by_cases narrow : image.width < gridSize
  · rw [foldlM_eq_none (List.mem_range.mpr within) fun score =>
      foldlM_eq_none (List.mem_range.mpr first)
        (fun score => uprightSeam_fails sized gridSize_le narrow moves last more score) score]
    rfl
  · have low : image.height < gridSize := by omega
    have fails (score : Score) : (List.range (gridSize - 1)).foldlM (fun score row =>
        (List.range gridSize).foldlM (fun score column =>
          lyingSeam image gridSize mapping lying row column score) score) score = none :=
      foldlM_eq_none (List.mem_range.mpr first) (fun score =>
        foldlM_eq_none (List.mem_range.mpr within)
          (fun score => lyingSeam_fails sized gridSize_le low moves last more score) score) score
    cases (List.range gridSize).foldlM (fun score row =>
        (List.range (gridSize - 1)).foldlM (fun score column =>
          uprightSeam image gridSize mapping upright row column score) score) score with
    | none => rfl
    | some middle => exact fails middle

end Seams

/-!
### Scores
-/

theorem absDiff_le {first second : Nat} {most : Nat} (first_le : first ≤ most)
    (second_le : second ≤ most) : absDiff first second ≤ most :=
  (Nat.sub_le _ _).trans (Nat.max_le.mpr ⟨first_le, second_le⟩)

theorem byte_le (byte : U8) : byte.toNat ≤ 255 := Nat.le_of_lt_succ byte.isLt

theorem luma_le (pixel : Rgba) : luma pixel ≤ 255 := by
  have red := byte_le pixel.red
  have green := byte_le pixel.green
  have blue := byte_le pixel.blue
  rw [luma]
  omega

theorem pixelDiff_le (left right : Rgba) : pixelDiff left right ≤ 765 :=
  Nat.add_le_add (Nat.add_le_add (absDiff_le (byte_le _) (byte_le _))
    (absDiff_le (byte_le _) (byte_le _))) (absDiff_le (byte_le _) (byte_le _))

theorem notes_luma (first second : Rgba) : Notes id (2 ^ 64 - 1) (noteLuma first second) := by
  intro score space
  have less : absDiff (luma first) (luma second) ≤ 255 :=
    absDiff_le (luma_le first) (luma_le second)
  rw [id] at space
  exact ⟨_, addChecked_of_lt (by omega), Nat.add_le_add_left (less.trans (by decide)) score⟩

theorem notes_rgbText {F : Type} (ops : FloatOps F) (weight : F) (first second : Rgba) :
    Notes Prod.fst (2 ^ 64 - 1) (noteRgbText ops weight first second) := by
  intro score space
  have less := pixelDiff_le first second
  refine ⟨(score.1 + pixelDiff first second, ops.add score.2 (ops.mul weight
    (ops.ofNat (absDiff first.blue.toNat second.blue.toNat)))), ?_,
    Nat.add_le_add_left less score.1⟩
  rw [noteRgbText, addChecked_of_lt (by omega)]
  rfl

section Scored

variable {image : Image} {gridSize : Nat} {mapping : List Nat}

/-- As many pixels as tiles, in a row and in a column. -/
def Image.Fits (image : Image) (gridSize : Nat) : Prop :=
  gridSize ≤ image.width ∧ gridSize ≤ image.height

theorem seamScoreLuma_of_fits (sized : image.Sized) (gridSize_le : gridSize ≤ maxSliderGrid)
    (fits : image.Fits gridSize) (moves : Moves gridSize mapping) :
    ∃ score, seamScoreLuma image gridSize mapping = some score :=
  seamScore_grows sized gridSize_le fits.1 fits.2 moves (fun _ => notes_luma) notes_luma
    (by decide)

theorem seamScoreRgbText_of_fits {F : Type} (ops : FloatOps F) (sized : image.Sized)
    (gridSize_le : gridSize ≤ maxSliderGrid) (fits : image.Fits gridSize)
    (moves : Moves gridSize mapping) :
    ∃ scores, seamScoreRgbText image gridSize mapping ops = some scores :=
  seamScore_grows sized gridSize_le fits.1 fits.2 moves (fun _ => notes_rgbText ops _)
    (notes_rgbText ops _) (by decide : 0 + scoreAmount ≤ 2 ^ 64 - 1)

end Scored

/-!
### Guesses
-/

/-- The ranking comes to a result, and neither fails nor is refused. -/
def Ranks {Result : Type} (ranking : Ranking Result) (Good : Result → Prop) : Prop :=
  ∃ result, ranking.run = some (.ok result) ∧ Good result

section Ranks

variable {Item Result Later : Type} {Good : Result → Prop} {Fine : Later → Prop}

theorem ranks_pure {result : Result} (good : Good result) : Ranks (pure result) Good :=
  ⟨result, rfl, good⟩

theorem Ranks.bind {ranking : Ranking Result} {next : Result → Ranking Later}
    (ranks : Ranks ranking Good) (goes : ∀ result, Good result → Ranks (next result) Fine) :
    Ranks (ranking >>= next) Fine := by
  obtain ⟨result, run, good⟩ := ranks
  obtain ⟨later, run', fine⟩ := goes result good
  refine ⟨later, ?_, fine⟩
  rw [ExceptT.run_bind, run]
  exact run'

theorem ranks_mapM {items : List Item} {f : Item → Ranking Result}
    (turn : ∀ item ∈ items, Ranks (f item) Good) :
    Ranks (items.mapM f) fun results => ∀ result ∈ results, Good result := by
  induction items with
  | nil => exact ranks_pure nofun
  | cons item later inductionHypothesis =>
    rw [List.mapM_cons]
    refine (turn item List.mem_cons_self).bind fun first good => ?_
    refine (inductionHypothesis fun other mem => turn other (List.mem_cons_of_mem _ mem)).bind
      fun rest fine => ranks_pure ?_
    rintro result (_ | ⟨_, mem⟩)
    · exact good
    · exact fine result mem

end Ranks

section Ranking

variable {F : Type} (ops : FloatOps F) {image : Image} {gridSize index : Nat}
  {swaps mapping : List Nat}

/-- The swaps of a guess are accepted. -/
def Applied (gridSize : Nat) (guess : SliderGuess F) : Prop :=
  ∃ mapping, applySwaps gridSize guess.swaps = .ok mapping

theorem ranks_lumaGuess (sized : image.Sized) (gridSize_le : gridSize ≤ maxSliderGrid)
    (fits : image.Fits gridSize) (applied : applySwaps gridSize swaps = .ok mapping)
    (inside : index * 2 ≤ swaps.length) :
    Ranks (lumaGuess ops image gridSize swaps index) (Applied gridSize) := by
  obtain ⟨front, taken⟩ := applySwaps_take applied inside
  obtain ⟨score, scored⟩ := seamScoreLuma_of_fits sized gridSize_le fits (moves_of_applySwaps taken)
  rw [lumaGuess, Nat.min_eq_left inside, taken]
  have moved : Ranks (ExceptT.mk (some (.ok front)) : Ranking (List Nat)) (· = front) :=
    ⟨front, rfl, rfl⟩
  have lifted : Ranks (ExceptT.lift (some score) : Ranking Nat) fun _ => True :=
    ⟨score, rfl, trivial⟩
  refine moved.bind ?_
  rintro _ rfl
  rw [scored]
  exact lifted.bind fun _ _ => ranks_pure ⟨_, taken⟩

theorem ranks_stageTwoGuess (sized : image.Sized) (gridSize_le : gridSize ≤ maxSliderGrid)
    (fits : image.Fits gridSize) {guess : SliderGuess F} (applied : Applied gridSize guess) :
    Ranks (stageTwoGuess ops image gridSize guess) fun _ => True := by
  obtain ⟨mapping, taken⟩ := applied
  obtain ⟨scores, scored⟩ :=
    seamScoreRgbText_of_fits ops sized gridSize_le fits (moves_of_applySwaps taken)
  have moved : Ranks (ExceptT.mk (some (.ok mapping)) : Ranking (List Nat)) (· = mapping) :=
    ⟨mapping, rfl, rfl⟩
  have lifted : Ranks (ExceptT.lift (some scores) : Ranking (Nat × F)) fun _ => True :=
    ⟨scores, rfl, trivial⟩
  rw [stageTwoGuess, taken]
  refine moved.bind ?_
  rintro _ rfl
  rw [scored]
  exact lifted.bind fun _ _ => ranks_pure trivial

theorem ranks_stageTwoGuesses (sized : image.Sized) (gridSize_le : gridSize ≤ maxSliderGrid)
    (fits : image.Fits gridSize) {stageTwo : List (SliderGuess F)}
    (applied : ∀ guess ∈ stageTwo, Applied gridSize guess) :
    Ranks (stageTwoGuesses ops image gridSize stageTwo) fun _ => True := by
  have computed : ∃ results, stageTwo.mapM (fun guess =>
      (stageTwoGuess ops image gridSize guess).run) = some results ∧
        ∃ scored, results.mapM id = Except.ok scored := by
    induction stageTwo with
    | nil => exact ⟨[], rfl, [], rfl⟩
    | cons guess later inductionHypothesis =>
      obtain ⟨first, run, -⟩ := ranks_stageTwoGuess ops sized gridSize_le fits
        (applied guess List.mem_cons_self)
      obtain ⟨results, mapped, scored, all⟩ := inductionHypothesis fun other mem =>
        applied other (List.mem_cons_of_mem _ mem)
      refine ⟨.ok first :: results, ?_, first :: scored, ?_⟩
      · rw [List.mapM_cons, run, mapped]
        rfl
      · rw [List.mapM_cons, all]
        rfl
  obtain ⟨results, mapped, scored, all⟩ := computed
  refine ⟨scored, ?_, trivial⟩
  rw [stageTwoGuesses, mapped]
  exact congrArg some all

theorem ranks_rankGuesses (sized : image.Sized) (gridSize_le : gridSize ≤ maxSliderGrid)
    (fits : image.Fits gridSize) (applied : applySwaps gridSize swaps = .ok mapping)
    (some : swaps.length / 2 ≠ 0) :
    Ranks (rankGuesses ops image gridSize swaps) fun _ => True := by
  rw [rankGuesses]
  dsimp only
  rw [if_neg some]
  refine (ranks_mapM fun before mem => ranks_lumaGuess ops sized gridSize_le fits applied
    ?_).bind fun guesses all => ?_
  · have less := List.mem_range.mp mem
    omega
  · refine (ranks_stageTwoGuesses ops sized gridSize_le fits fun guess mem =>
      all guess (List.mem_mergeSort.mp (List.mem_of_mem_take mem))).bind fun _ _ =>
        ranks_pure trivial

/-- The first guess is scored already, and it fails. -/
theorem rankGuesses_of_not_fits (sized : image.Sized) (gridSize_le : gridSize ≤ maxSliderGrid)
    (few : ¬ image.Fits gridSize) (applied : applySwaps gridSize swaps = .ok mapping)
    (some : swaps.length / 2 ≠ 0) : (rankGuesses ops image gridSize swaps).run = none := by
  have inside : (0 + 1) * 2 ≤ swaps.length := by omega
  obtain ⟨front, taken⟩ := applySwaps_take applied inside
  have fails : seamScoreLuma image gridSize front = none :=
    seamScore_fails sized gridSize_le few (moves_of_applySwaps taken) 0
  have first : lumaGuess ops image gridSize swaps (0 + 1) = ExceptT.mk none := by
    rw [lumaGuess, Nat.min_eq_left inside, taken]
    change ExceptT.lift (seamScoreLuma image gridSize front) >>= _ = _
    rw [fails]
    rfl
  obtain ⟨others, count⟩ := Nat.exists_eq_succ_of_ne_zero some
  rw [rankGuesses, count]
  dsimp only
  rw [if_neg (Nat.succ_ne_zero others), List.range_succ_eq_map, List.mapM_cons, first]
  rfl

theorem rankGuesses_iff_fits (sized : image.Sized) (gridSize_le : gridSize ≤ maxSliderGrid)
    (applied : applySwaps gridSize swaps = .ok mapping) (some : swaps ≠ []) :
    (rankGuesses ops image gridSize swaps).run ≠ none ↔ image.Fits gridSize := by
  have even := length_of_applySwaps applied
  have length : swaps.length ≠ 0 := mt List.length_eq_zero_iff.mp some
  have candidates : swaps.length / 2 ≠ 0 := by omega
  constructor
  · intro ended
    by_contra few
    exact ended (rankGuesses_of_not_fits ops sized gridSize_le few applied candidates)
  · intro fits
    obtain ⟨result, run, -⟩ := ranks_rankGuesses ops sized gridSize_le fits applied candidates
    rw [run]
    exact Option.some_ne_none _

/-- Of steps that are accepted there are always guesses to be scored. -/
theorem rankGuesses_of_splitSteps {steps : List Nat} {attempts : Nat} (sized : image.Sized)
    (accepted : splitSteps steps = .ok (gridSize, swaps, attempts))
    (applied : applySwaps gridSize swaps = .ok mapping) :
    (rankGuesses ops image gridSize swaps).run ≠ none ↔ image.Fits gridSize := by
  obtain ⟨-, gridSize_le, some, -⟩ := splitSteps_accepts accepted
  exact rankGuesses_iff_fits ops sized gridSize_le applied some

/-- The image has to have as many pixels as the grid has tiles, in both directions. -/
theorem rankGuesses_checked_iff (sized : image.Sized) (gridSize_le : gridSize ≤ maxSliderGrid)
    (applied : applySwaps gridSize swaps = .ok mapping) :
    (rankGuesses ops image gridSize swaps).run ≠ none ↔ swaps = [] ∨ image.Fits gridSize := by
  by_cases empty : swaps = []
  · subst empty
    exact iff_of_true nofun (.inl rfl)
  · rw [or_iff_right empty]
    exact rankGuesses_iff_fits ops sized gridSize_le applied empty

end Ranking

/-- An image of one colour. -/
def plainImage (width height : Nat) : Image where
  width := width
  height := height
  pixel _ _ := { red := 0, green := 0, blue := 0, alpha := 255 }

theorem plainImage_two_ranked :
    (rankGuesses floatOps (plainImage 2 2) 2 [0, 1]).run ≠ none :=
  (@rankGuesses_checked_iff _ floatOps (plainImage 2 2) 2 [0, 1] [1, 0, 2, 3]
    ⟨by decide, by decide, by decide, by decide⟩ (by decide) rfl).mpr (.inr ⟨by decide, by decide⟩)

/-- In an image one pixel wide the first column of two is empty, and the pixel before its end is
asked for. -/
theorem narrow_image_not_ranked :
    splitSteps [2, 0, 1] = .ok (2, [0, 1], 4) ∧ (plainImage 1 2).Sized ∧
      applySwaps 2 [0, 1] = .ok [1, 0, 2, 3] ∧
      seamScoreLuma (plainImage 1 2) 2 [1, 0, 2, 3] = none ∧
      (rankGuesses floatOps (plainImage 1 2) 2 [0, 1]).run = none :=
  ⟨rfl, ⟨by decide, by decide, by decide, by decide⟩, rfl, rfl, rfl⟩

end Csqtt.CaptchaSlider
