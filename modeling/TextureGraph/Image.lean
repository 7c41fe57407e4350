import TextureGraph.Event
import TextureGraph.Operation.Formula

/-!
# Images

A rendering evaluates the output node of a graph at every pixel of a square image, row by row, and
paints what it finds onto an image that is blank at first.  A pixel that cannot be computed becomes
magenta and is counted; the first of them is told of at once, their number at the end.
-/

namespace TextureGraph

/-- A colour in eight bits per channel. -/
abbrev Pixel : Type := Rgba UInt8

namespace Color

/-- A channel in eight bits: cut off to the unit interval, scaled, and rounded down. -/
def quantizeChannel (channel : Float32) : UInt8 :=
  (Scalar.clampUnit channel * 255.0).toUInt8

/-- A colour in eight bits per channel. -/
def quantize (color : Color) : Pixel :=
  Rgba.map quantizeChannel color

end Color

/-- A square image. -/
structure Image where
  /-- Number of rows, and of pixels in each of them. -/
  edge : Nat
  /-- Rows from top to bottom, pixels from left to right. -/
  rows : List (List Pixel)
  deriving DecidableEq

namespace Image

/-- The image of one colour. -/
def uniform (edge : Nat) (pixel : Pixel) : Image :=
  ⟨edge, List.replicate edge (List.replicate edge pixel)⟩

/-- The image in which nothing is painted: transparent black. -/
def blank (edge : Nat) : Image :=
  uniform edge ⟨0, 0, 0, 0⟩

/-- The pixel in a column and a row. -/
def pixel? (image : Image) (x y : Nat) : Option Pixel :=
  (image.rows[y]?).bind fun row => row[x]?

/-- Replaces the pixel in a column and a row. -/
def put (image : Image) (x y : Nat) (pixel : Pixel) : Image :=
  { image with rows := image.rows.modify y fun row => row.set x pixel }

/-- The sample coordinate of a row or column: the first is zero and the last one. -/
def coordinate (resolution index : UInt32) : Float32 :=
  if resolution ≤ 1 then 0.0 else index.toFloat32 / (resolution - 1).toFloat32

end Image

/-- A rendering was given up. -/
inductive RenderError where
  /-- It was cancelled. -/
  | cancelled
  deriving DecidableEq, Repr

namespace RenderError

/-- The text of the failure. -/
def message : RenderError → String
  | cancelled => "Rendering was cancelled"

end RenderError

/-- How far a rendering has come. -/
structure Rendering where
  /-- The image so far. -/
  image : Image
  /-- How many pixels could not be computed so far. -/
  failed : Nat
  /-- What there was to tell so far. -/
  events : List Event

namespace Rendering

/-- No pixel is painted yet. -/
def start (edge : Nat) : Rendering :=
  ⟨Image.blank edge, 0, []⟩

/-- Paints a pixel in the colour of its value; one without a value is magenta and counted, and the
first such is told of. -/
def paint (rendering : Rendering) (x y : Nat) :
    (sample : Except EvaluationError Value) → Rendering
  | .ok value => { rendering with image := rendering.image.put x y (Color.quantize value.asColor) }
  | .error error =>
      { image := rendering.image.put x y (Color.quantize Color.error)
        failed := rendering.failed + 1
        events :=
          if rendering.failed = 0 then rendering.events ++ [.pixelFailed x y error]
          else rendering.events }

/-- The image and what there was to tell, at the end also how many of all pixels failed. -/
def finish (rendering : Rendering) (total : Nat) : Logged (Except RenderError Image) :=
  ⟨.ok rendering.image,
    if rendering.failed = 0 then rendering.events
    else rendering.events ++ [.pixelsFailed rendering.failed total]⟩

end Rendering

namespace Evaluator

/-- The value of a pixel: the first output of a node, at the pixel's place in the unit square. -/
def samplePixel (evaluator : Evaluator) (graph : Graph) (output : NodeId) (x y : Nat) :
    Except EvaluationError Value :=
  let coordinate index := Image.coordinate evaluator.settings.resolution (UInt32.ofNat index)
  evaluator.evaluate graph output 0 ⟨coordinate x, coordinate y⟩

/-- Paints the pixels of a row from left to right. -/
def paintRow (evaluator : Evaluator) (graph : Graph) (output : NodeId) (y : Nat)
    (rendering : Rendering) : Rendering :=
  (List.range evaluator.settings.resolution.toNat).foldl
    (fun rendering x => rendering.paint x y (evaluator.samplePixel graph output x y)) rendering

/-- Paints rows one after the other.  Before each of them `isCancelled` is asked about it, and when
it agrees the rendering is given up. -/
def paintRows (evaluator : Evaluator) (graph : Graph) (output : NodeId)
    (isCancelled : Nat → Bool) : (rows : List Nat) → Rendering → Logged (Except RenderError Image)
  | [], rendering =>
      let edge := evaluator.settings.resolution.toNat
      rendering.finish (edge * edge)
  | y :: rows, rendering =>
      if isCancelled y then ⟨.error .cancelled, rendering.events ++ [.renderingCancelled y]⟩
      else
        evaluator.paintRows graph output isCancelled rows
          (evaluator.paintRow graph output y rendering)

/-- Renders a graph from its oldest output node; a graph without one gives a magenta image, and
nobody is asked whether to give up. -/
def render (evaluator : Evaluator) (graph : Graph) (isCancelled : Nat → Bool) :
    Logged (Except RenderError Image) :=
  let edge := evaluator.settings.resolution.toNat
  match graph.firstOfType? outputTypeName with
  | none => ⟨.ok (Image.uniform edge (Color.quantize Color.error)), [.outputMissing]⟩
  | some output =>
      evaluator.paintRows graph output.id isCancelled (List.range edge) (.start edge)

/-- Renders a graph to the end; the empty image stands for a rendering that was given up. -/
def renderAll (evaluator : Evaluator) (graph : Graph) : Logged Image :=
  let rendering := evaluator.render graph fun _ => false
  match rendering.result with
  | .ok image => ⟨image, rendering.events⟩
  | .error _ => ⟨⟨0, []⟩, rendering.events⟩

end Evaluator

/-- The image of a graph at a resolution, by the built-in formulas. -/
def Graph.image (graph : Graph) (resolution : UInt32) : Logged Image :=
  (Evaluator.builtin (Settings.ofResolution resolution)).renderAll graph

end TextureGraph
