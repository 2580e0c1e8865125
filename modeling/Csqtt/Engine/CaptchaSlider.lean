/-
Module: Csqtt.Engine.CaptchaSlider
Purpose: The ranking of the guesses at a slider puzzle by the seams between the moved tiles, with
  every word operation and every access to the image checked.
Trusted boundary: floating point is a parameter
Main exports: splitSteps, applySwaps, Image, Rect, tileRect, sample, seamScoreLuma, FloatOps,
  floatOps, seamScoreRgbText, rankGuesses
-/
import Csqtt.Core.Checked
import Csqtt.Core.Word

namespace Csqtt.CaptchaSlider

/-!
### The puzzle
-/

def maxSliderGrid : Nat := 16

/-- The size of the grid, the swaps and the attempts that are allowed. -/
def splitSteps (steps : List Nat) : Except String (Nat × List Nat × Nat) :=
  match steps with
  | size :: tail =>
      if steps.length < 3 then .error "slider steps payload too short"
      else if size = 0 ∨ maxSliderGrid < size then .error s!"invalid slider size: {size}"
      else
        let odd := tail.length % 2 ≠ 0
        let attempts := if odd then tail.getLastD 4 else 4
        let tail := if odd then tail.dropLast else tail
        let attempts := if attempts = 0 then 4 else attempts
        if tail = [] ∨ tail.length % 2 ≠ 0 then .error "invalid slider swap payload"
        else .ok (size, tail, attempts)
  | [] => .error "slider steps payload too short"

def swapItems (items : List Nat) (first second : Nat) : List Nat :=
  match items[first]?, items[second]? with
  | some one, some other => (items.set first other).set second one
  | _, _ => items

def swapPairs (tileCount : Nat) : List Nat → List Nat → Except String (List Nat)
  | mapping, first :: second :: later =>
      if tileCount ≤ first ∨ tileCount ≤ second then
        .error s!"slider step out of range: {first},{second}"
      else swapPairs tileCount (swapItems mapping first second) later
  | mapping, _ => .ok mapping

/-- Which tile goes where. -/
def applySwaps (gridSize : Nat) (swaps : List Nat) : Except String (List Nat) :=
  let tileCount := gridSize * gridSize
  if 2 ^ 64 ≤ tileCount then .error "invalid slider tile count"
  else if tileCount = 0 then .error s!"invalid slider tile count: {tileCount}"
  else if swaps.length % 2 ≠ 0 then .error s!"invalid slider swaps length: {swaps.length}"
  else swapPairs tileCount (List.range tileCount) swaps

/-!
### Tiles
-/

structure Rgba where
  red : U8
  green : U8
  blue : U8
  alpha : U8
deriving DecidableEq, Repr

structure Image where
  width : Nat
  height : Nat
  pixel : Nat → Nat → Rgba

/-- A pixel outside the image ends the program. -/
def Image.getPixel (image : Image) (x y : Nat) : Option Rgba :=
  if x < image.width ∧ y < image.height then some (image.pixel x y) else none

structure Rect where
  minX : Nat
  minY : Nat
  maxX : Nat
  maxY : Nat
deriving DecidableEq, Repr

namespace Rect

def width (self : Rect) : Option Nat := subChecked self.maxX self.minX

def height (self : Rect) : Option Nat := subChecked self.maxY self.minY

end Rect

/-- The edge before the tile with a number in a row or column of tiles. -/
def tileEdge (size gridSize number : Nat) : Option Nat := do
  divChecked (← mulChecked 32 number size) gridSize

def tileRect (image : Image) (gridSize index : Nat) : Option Rect := do
  let column := index % gridSize
  let row := index / gridSize
  return {
    minX := ← tileEdge image.width gridSize column
    minY := ← tileEdge image.height gridSize row
    maxX := ← tileEdge image.width gridSize (← addChecked 32 column 1)
    maxY := ← tileEdge image.height gridSize (← addChecked 32 row 1) }

/-- A coordinate in the destination, scaled into the source. -/
def scaled (position destinationMin destinationSize sourceMin sourceSize imageSize : Nat) :
    Option Nat := do
  let offset ← subChecked position destinationMin
  let share ← divChecked (← mulChecked 32 offset sourceSize) (max destinationSize 1)
  return min (← addChecked 32 sourceMin share) (imageSize - 1)

def sample (image : Image) (destination source : Rect) (x y : Nat) : Option Rgba := do
  let width ← destination.width
  let height ← destination.height
  let sourceX ← scaled x destination.minX width source.minX (← source.width) image.width
  let sourceY ← scaled y destination.minY height source.minY (← source.height) image.height
  image.getPixel sourceX sourceY

/-!
### Seams
-/

def absDiff (first second : Nat) : Nat := max first second - min first second

def luma (pixel : Rgba) : Nat :=
  (299 * pixel.red.toNat + 587 * pixel.green.toNat + 114 * pixel.blue.toNat) / 1000

def pixelDiff (left right : Rgba) : Nat :=
  absDiff left.red.toNat right.red.toNat + absDiff left.green.toNat right.green.toNat +
    absDiff left.blue.toNat right.blue.toNat

section Seams

variable {Score : Type} (image : Image) (gridSize : Nat) (mapping : List Nat)

/-- The seam between a tile and the one right of it. What is noted is the height of the pixels and
the pixels on both sides. -/
def uprightSeam (note : Nat → Rgba → Rgba → Score → Option Score) (row column : Nat)
    (score : Score) : Option Score := do
  let leftIndex := row * gridSize + column
  let rightIndex := leftIndex + 1
  let leftDestination ← tileRect image gridSize leftIndex
  let rightDestination ← tileRect image gridSize rightIndex
  let leftSource ← tileRect image gridSize (← mapping[leftIndex]?)
  let rightSource ← tileRect image gridSize (← mapping[rightIndex]?)
  let count := min (← leftDestination.height) (← rightDestination.height)
  (List.range count).foldlM (fun score offset => do
    let y ← addChecked 32 leftDestination.minY offset
    let left ← sample image leftDestination leftSource (← subChecked leftDestination.maxX 1) y
    let right ← sample image rightDestination rightSource rightDestination.minX y
    note y left right score) score

/-- The seam between a tile and the one below it. -/
def lyingSeam (note : Rgba → Rgba → Score → Option Score) (row column : Nat)
    (score : Score) : Option Score := do
  let topIndex := row * gridSize + column
  let bottomIndex := (row + 1) * gridSize + column
  let topDestination ← tileRect image gridSize topIndex
  let bottomDestination ← tileRect image gridSize bottomIndex
  let topSource ← tileRect image gridSize (← mapping[topIndex]?)
  let bottomSource ← tileRect image gridSize (← mapping[bottomIndex]?)
  let count := min (← topDestination.width) (← bottomDestination.width)
  (List.range count).foldlM (fun score offset => do
    let x ← addChecked 32 topDestination.minX offset
    let top ← sample image topDestination topSource x (← subChecked topDestination.maxY 1)
    let bottom ← sample image bottomDestination bottomSource x bottomDestination.minY
    note top bottom score) score

/-- All seams between neighbours in a row, and then all between neighbours in a column. -/
def seamScore (upright : Nat → Rgba → Rgba → Score → Option Score)
    (lying : Rgba → Rgba → Score → Option Score) (score : Score) : Option Score := do
  let score ← (List.range gridSize).foldlM (fun score row =>
    (List.range (gridSize - 1)).foldlM (fun score column =>
      uprightSeam image gridSize mapping upright row column score) score) score
  (List.range (gridSize - 1)).foldlM (fun score row =>
    (List.range gridSize).foldlM (fun score column =>
      lyingSeam image gridSize mapping lying row column score) score) score

def noteLuma (first second : Rgba) (score : Nat) : Option Nat :=
  addChecked 64 score (absDiff (luma first) (luma second))

def seamScoreLuma : Option Nat :=
  seamScore image gridSize mapping (fun _ => noteLuma) noteLuma 0

/-- Floating point numbers. A literal is a mantissa with so many decimals. -/
structure FloatOps (F : Type) where
  ofNat : Nat → F
  literal : Nat → Nat → F
  infinity : F
  add : F → F → F
  sub : F → F → F
  mul : F → F → F
  div : F → F → F
  min : F → F → F
  max : F → F → F
  neg : F → F
  abs : F → F
  exp : F → F
  partialCmp : F → F → Option Ordering

/-- The floating point numbers of the program. The smaller of a number and of what is not a number
is the number. -/
def floatOps : FloatOps Float where
  ofNat := Float.ofNat
  literal mantissa decimals := Float.ofScientific mantissa true decimals
  infinity := 1 / 0
  add := Float.add
  sub := Float.sub
  mul := Float.mul
  div := Float.div
  min first second :=
    if first.isNaN then second else if second < first then second else first
  max first second :=
    if first.isNaN then second else if first < second then second else first
  neg := Float.neg
  abs := Float.abs
  exp := Float.exp
  partialCmp first second :=
    if first < second then some .lt
    else if second < first then some .gt
    else if first == second then some .eq
    else none

variable {F : Type} (ops : FloatOps F)

/-- How much a row counts: more where the text of the picture stands. -/
def textWeight (height y : Nat) : F :=
  let centers := [ops.literal 2 1, ops.literal 5 1, ops.literal 8 1].map fun share =>
    ops.mul share (ops.ofNat height)
  let sigma := ops.max (ops.mul (ops.ofNat height) (ops.literal 14 2)) (ops.literal 10 1)
  let distance := (centers.map fun center => ops.abs (ops.sub (ops.ofNat y) center)).foldl
    ops.min ops.infinity
  ops.add (ops.literal 10 1) (ops.mul (ops.literal 30 1) (ops.exp (ops.div
    (ops.neg (ops.mul distance distance)) (ops.mul (ops.mul (ops.literal 20 1) sigma) sigma))))

def noteRgbText (weight : F) (first second : Rgba) (score : Nat × F) : Option (Nat × F) := do
  let rgbScore ← addChecked 64 score.1 (pixelDiff first second)
  let blue := ops.ofNat (absDiff first.blue.toNat second.blue.toNat)
  return (rgbScore, ops.add score.2 (ops.mul weight blue))

def seamScoreRgbText : Option (Nat × F) :=
  seamScore image gridSize mapping (fun y => noteRgbText ops (textWeight ops image.height y))
    (noteRgbText ops (ops.literal 65 2)) (0, ops.literal 0 1)

end Seams

/-!
### Guesses
-/

structure SliderGuess (F : Type) where
  index : Nat
  swaps : List Nat
  scoreLuma : Nat
  scoreRgb : Nat
  scoreText : F
  consensusRank : Nat

section Ranking

variable {F : Type} (ops : FloatOps F) (image : Image) (gridSize : Nat)

/-- In ascending order of a score, and where that is the same of the index. -/
def scoreOrder (score : SliderGuess F → Nat) (first second : SliderGuess F) : Bool :=
  score first < score second ∨ score first = score second ∧ first.index ≤ second.index

/-- Scores of text that cannot be compared count as the same. -/
def textOrder (first second : SliderGuess F) : Bool :=
  match (ops.partialCmp first.scoreText second.scoreText).getD .eq with
  | .lt => true
  | .gt => false
  | .eq => first.index ≤ second.index

/-- The place of a guess in an order. -/
def rankIn (order : List (SliderGuess F)) (guess : SliderGuess F) : Nat :=
  order.findIdx fun other => other.index = guess.index

/-- What may be refused with a text, and may fail in its arithmetic or outside the image. -/
abbrev Ranking := ExceptT String Option

/-- The guess that so many pairs of swaps are right. -/
def lumaGuess (swaps : List Nat) (index : Nat) : Ranking (SliderGuess F) := do
  let active := swaps.take (min (index * 2) swaps.length)
  let mapping ← ExceptT.mk (some (applySwaps gridSize active))
  let scoreLuma ← ExceptT.lift (seamScoreLuma image gridSize mapping)
  return {
    index := index
    swaps := active
    scoreLuma := scoreLuma
    scoreRgb := 0
    scoreText := ops.literal 0 1
    consensusRank := 0 }

def stageTwoGuess (guess : SliderGuess F) : Ranking (SliderGuess F) := do
  let mapping ← ExceptT.mk (some (applySwaps gridSize guess.swaps))
  let scores ← ExceptT.lift (seamScoreRgbText image gridSize mapping ops)
  return { guess with scoreRgb := scores.1, scoreText := scores.2 }

/-- The guesses of the second stage are all scored before one that is refused is looked at. -/
def stageTwoGuesses (stageTwo : List (SliderGuess F)) : Ranking (List (SliderGuess F)) :=
  ExceptT.mk ((stageTwo.mapM fun guess => (stageTwoGuess ops image gridSize guess).run).map
    fun computed => computed.mapM id)

/-- The ranks by the scores, added up. A guess that is not in the second stage has the count of
the candidates in place of its two ranks there. -/
def consensus (candidateCount : Nat) (lumaOrder scored : List (SliderGuess F))
    (guess : SliderGuess F) : SliderGuess F :=
  let rank := rankIn lumaOrder guess
  match scored.find? fun other => other.index = guess.index with
  | some found =>
      { found with
        consensusRank := rank + (rankIn (scored.mergeSort (scoreOrder SliderGuess.scoreRgb)) guess +
          rankIn (scored.mergeSort (textOrder ops)) guess) }
  | none => { guess with consensusRank := rank + candidateCount }

/-- After the consensus the luma scores decide, and then the indexes. -/
def finalOrder (first second : SliderGuess F) : Bool :=
  first.consensusRank < second.consensusRank ∨
    first.consensusRank = second.consensusRank ∧ scoreOrder SliderGuess.scoreLuma first second

def rankGuesses (swaps : List Nat) : Ranking (List (SliderGuess F)) := do
  let candidateCount := swaps.length / 2
  if candidateCount = 0 then throw "slider has no candidates"
  let guesses ← (List.range candidateCount).mapM fun before =>
    lumaGuess ops image gridSize swaps (before + 1)
  let lumaOrder := guesses.mergeSort (scoreOrder SliderGuess.scoreLuma)
  let scored ← stageTwoGuesses ops image gridSize (lumaOrder.take (min candidateCount 12))
  return (guesses.map (consensus ops candidateCount lumaOrder scored)).mergeSort finalOrder

end Ranking

end Csqtt.CaptchaSlider
