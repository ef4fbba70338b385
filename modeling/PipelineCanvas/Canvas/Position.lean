import PipelineCanvas.Canvas.Role
import PipelineCanvas.Text.Blank
import PipelineCanvas.Text.Numeral

/-!
# Where nodes stand on the canvas

A node's place is given from the left in hundredths of the viewport's width and
from the top in pixels. The palette drops the nodes of one role in a cascade, each
a step below and beside the one before (`Position.forSlot`); a coordinate that
would pass the greatest word stays at it.

In documents a coordinate is a *length*: a number with its unit, `30vw` or `250px`.
Reading is lenient about space and may go without the unit (`Position.length?`).
-/

namespace PipelineCanvas

/-- The place of a node on the canvas. -/
structure Position where
  left : UInt32
  top : UInt32
deriving DecidableEq, Repr

namespace Position

/-- The place of a node that was not placed. -/
def origin : Position := ⟨0, 0⟩

instance : Inhabited Position := ⟨origin⟩

/-- The place from the left where the cascade of a role begins. -/
def initialLeft : Role → UInt32
  | .source => 30
  | .transform => 50
  | .sink => 70

/-- The place from the top where every cascade begins. -/
def initialTop : UInt32 := 250

/-- How far apart two neighbours of a cascade stand, from the left. -/
def leftStep : UInt32 := 2

/-- How far apart two neighbours of a cascade stand, from the top. -/
def topStep : UInt32 := 70

/-- The place of the node that has `index` nodes of its role before it. -/
def forSlot (role : Role) (index : Nat) : Position :=
  let i := Word.clamp index
  { left := Word.add (initialLeft role) (Word.mul i leftStep)
    top := Word.add initialTop (Word.mul i topStep) }

/-- The unit of a place from the left. -/
def leftUnit : String := "vw"

/-- The unit of a place from the top. -/
def topUnit : String := "px"

/-- A length with its unit. -/
def lengthText (n : UInt32) (unit : String) : String := Text.decimal n.toNat ++ unit

/-- Reads a length: white space around it does not count, its unit may be missing,
and white space may stand before the unit. -/
def length? (unit text : String) : Option UInt32 :=
  let trimmed := Text.trimChars text.toList
  let number := (Text.dropEnding? unit.toList trimmed).getD trimmed
  Text.word? (Text.trimChars number)

end Position

end PipelineCanvas
