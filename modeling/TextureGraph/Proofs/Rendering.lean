import TextureGraph.Image
import Mathlib.Data.List.Basic

/-!
# Renderings pixel by pixel

A rendering paints one pixel after the other and counts on its way what cannot be computed.  The
image it ends with can be told without that history: the colour of each pixel follows from the graph
and the place of the pixel alone.
-/

namespace TextureGraph

theorem set_map_range {α : Type} (values : Nat → α) (length place : Nat) (value : α) :
    ((List.range length).map values).set place value =
      (List.range length).map fun index => if index = place then value else values index := by
  refine List.ext_getElem (by simp) fun index _ _ => ?_
  simp only [List.getElem_set, List.getElem_map, List.getElem_range, eq_comm]

theorem modify_map_range {α : Type} (values : Nat → α) (length place : Nat) (change : α → α) :
    ((List.range length).map values).modify place change =
      (List.range length).map fun index =>
        if index = place then change (values index) else values index := by
  refine List.ext_getElem (by simp) fun index _ _ => ?_
  simp only [List.getElem_modify, List.getElem_map, List.getElem_range, eq_comm]

theorem Color.quantize_error : Color.quantize Color.error = ⟨255, 0, 255, 255⟩ := by
  decide +kernel

/-! ## Images by their pixels -/

namespace Image

/-- The image whose pixels are given by column and row. -/
def ofPixels (edge : Nat) (pixels : Nat → Nat → Pixel) : Image :=
  ⟨edge, (List.range edge).map fun y => (List.range edge).map fun x => pixels x y⟩

theorem ofPixels_congr {edge : Nat} {pixels others : Nat → Nat → Pixel}
    (same : ∀ x y, x < edge → y < edge → pixels x y = others x y) :
    ofPixels edge pixels = ofPixels edge others := by
  have same_rows : ∀ y ∈ List.range edge, ((List.range edge).map fun x => pixels x y) =
      (List.range edge).map fun x => others x y := fun y row =>
    List.map_congr_left fun x column =>
      same x y (List.mem_range.mp column) (List.mem_range.mp row)
  rw [ofPixels, ofPixels, List.map_congr_left same_rows]

theorem uniform_eq_ofPixels (edge : Nat) (pixel : Pixel) :
    uniform edge pixel = ofPixels edge fun _ _ => pixel := by
  simp only [uniform, ofPixels, List.map_const', List.length_range]

theorem put_ofPixels (edge : Nat) (pixels : Nat → Nat → Pixel) (x y : Nat) (pixel : Pixel) :
    (ofPixels edge pixels).put x y pixel =
      ofPixels edge fun column row =>
        if row = y ∧ column = x then pixel else pixels column row := by
  simp only [put, ofPixels, modify_map_range, set_map_range]
  refine congrArg (Image.mk edge) (List.map_congr_left fun row _ => ?_)
  split_ifs with here
  · simp only [here, true_and]
  · simp only [here, false_and, if_false]

theorem pixel?_ofPixels {edge x y : Nat} (pixels : Nat → Nat → Pixel) (column : x < edge)
    (row : y < edge) : (ofPixels edge pixels).pixel? x y = some (pixels x y) := by
  simp [ofPixels, pixel?, column, row]

theorem length_row_ofPixels {edge : Nat} {pixels : Nat → Nat → Pixel} {row : List Pixel}
    (member : row ∈ (ofPixels edge pixels).rows) : row.length = edge := by
  obtain ⟨y, _, rfl⟩ := List.mem_map.mp member
  rw [List.length_map, List.length_range]

end Image

namespace Evaluator

/-- The colour of the pixel in a column and a row, whatever becomes of the others. -/
def pixel (evaluator : Evaluator) (graph : Graph) (output : NodeId) (x y : Nat) : Pixel :=
  let coordinate index := Image.coordinate evaluator.settings.resolution (UInt32.ofNat index)
  Color.quantize
    (evaluator.evaluateOrError graph output 0 ⟨coordinate x, coordinate y⟩).asColor

variable (evaluator : Evaluator) (graph : Graph) (output : NodeId)

/-! ## Painting -/

/-- What has failed so far has no influence on what is painted. -/
theorem paint_samplePixel_image (rendering : Rendering) (x y : Nat) :
    (rendering.paint x y (evaluator.samplePixel graph output x y)).image =
      rendering.image.put x y (evaluator.pixel graph output x y) := by
  rw [pixel, evaluateOrError, samplePixel]
  cases evaluator.evaluate graph output 0 _ <;> rfl

/-- After some columns of a row are painted, their pixels have their colours and all others are as
before. -/
theorem paintColumns_image {rendering : Rendering} {edge : Nat} {pixels : Nat → Nat → Pixel}
    (before : rendering.image = Image.ofPixels edge pixels) (y columns : Nat) :
    ((List.range columns).foldl
        (fun rendering x => rendering.paint x y (evaluator.samplePixel graph output x y))
        rendering).image =
      Image.ofPixels edge fun column row =>
        if row = y ∧ column < columns then evaluator.pixel graph output column row
        else pixels column row := by
  induction columns with
  | zero => simpa using before
  | succ columns induction =>
      rw [List.range_succ, List.foldl_append, List.foldl_cons, List.foldl_nil,
        paint_samplePixel_image, induction, Image.put_ofPixels]
      refine Image.ofPixels_congr fun column row _ _ => ?_
      grind

theorem paintRow_image {rendering : Rendering} {pixels : Nat → Nat → Pixel}
    (before : rendering.image =
      Image.ofPixels evaluator.settings.resolution.toNat pixels) (y : Nat) :
    (evaluator.paintRow graph output y rendering).image =
      Image.ofPixels evaluator.settings.resolution.toNat fun column row =>
        if row = y then evaluator.pixel graph output column row else pixels column row := by
  rw [paintRow, paintColumns_image evaluator graph output before]
  refine Image.ofPixels_congr fun column row within _ => ?_
  simp only [within, and_true]

/-- After the first rows are painted, their pixels have their colours and all others are as
before. -/
theorem paintFirstRows_image {rendering : Rendering} {pixels : Nat → Nat → Pixel}
    (before : rendering.image =
      Image.ofPixels evaluator.settings.resolution.toNat pixels) (rows : Nat) :
    ((List.range rows).foldl (fun rendering y => evaluator.paintRow graph output y rendering)
        rendering).image =
      Image.ofPixels evaluator.settings.resolution.toNat fun column row =>
        if row < rows then evaluator.pixel graph output column row else pixels column row := by
  induction rows with
  | zero => simpa using before
  | succ rows induction =>
      rw [List.range_succ, List.foldl_append, List.foldl_cons, List.foldl_nil,
        paintRow_image evaluator graph output induction]
      refine Image.ofPixels_congr fun column row _ _ => ?_
      grind

/-- A rendering that nobody gives up paints all its rows. -/
theorem paintRows_of_not_cancelled {isCancelled : Nat → Bool} {rows : List Nat}
    (uncancelled : ∀ y ∈ rows, isCancelled y = false) (rendering : Rendering) :
    evaluator.paintRows graph output isCancelled rows rendering =
      (rows.foldl (fun rendering y => evaluator.paintRow graph output y rendering)
        rendering).finish
          (evaluator.settings.resolution.toNat * evaluator.settings.resolution.toNat) := by
  induction rows generalizing rendering with
  | nil => rfl
  | cons y rows induction =>
      obtain ⟨here, later⟩ := List.forall_mem_cons.mp uncancelled
      rw [paintRows, here, if_neg Bool.false_ne_true, induction later, List.foldl_cons]

/-! ## Whole renderings -/

/-- The colours of all pixels: magenta in a graph without an output node. -/
def pixels (evaluator : Evaluator) (graph : Graph) : Nat → Nat → Pixel :=
  match graph.firstOfType? outputTypeName with
  | none => fun _ _ => Color.quantize Color.error
  | some output => evaluator.pixel graph output.id

theorem render_uncancelled (evaluator : Evaluator) (graph : Graph) :
    (evaluator.render graph fun _ => false).result =
      .ok (Image.ofPixels evaluator.settings.resolution.toNat (evaluator.pixels graph)) := by
  rw [render, pixels]
  cases graph.firstOfType? outputTypeName with
  | none => simp only [Image.uniform_eq_ofPixels]
  | some output =>
      have blank : (Rendering.start evaluator.settings.resolution.toNat).image =
          Image.ofPixels evaluator.settings.resolution.toNat fun _ _ => ⟨0, 0, 0, 0⟩ :=
        Image.uniform_eq_ofPixels _ _
      simp only
      rw [paintRows_of_not_cancelled _ _ _ fun _ _ => rfl, Rendering.finish,
        paintFirstRows_image evaluator graph output.id blank]
      refine congrArg Except.ok (Image.ofPixels_congr fun column row _ within => ?_)
      rw [if_pos within]

/-- A rendering that is given up from the start fails if there is an output node and a row to
paint, and ends with the image otherwise. -/
theorem render_cancelled (evaluator : Evaluator) (graph : Graph) :
    (evaluator.render graph fun _ => true).result =
      if (graph.firstOfType? outputTypeName).isSome ∧ 0 < evaluator.settings.resolution.toNat then
        .error .cancelled
      else
        .ok (Image.ofPixels evaluator.settings.resolution.toNat (evaluator.pixels graph)) := by
  rw [render, pixels]
  cases graph.firstOfType? outputTypeName with
  | none => simp only [Image.uniform_eq_ofPixels, Option.isSome_none, Bool.false_eq_true,
      false_and, if_false]
  | some output =>
      cases evaluator.settings.resolution.toNat with
      | zero => rfl
      | succ last => simp [List.range_succ_eq_map, paintRows]

theorem renderAll_result (evaluator : Evaluator) (graph : Graph) :
    (evaluator.renderAll graph).result =
      Image.ofPixels evaluator.settings.resolution.toNat (evaluator.pixels graph) := by
  rw [renderAll, render_uncancelled]

theorem isSome_firstOfType?_iff {graph : Graph} {typeName : String} :
    (graph.firstOfType? typeName).isSome ↔ ∃ node ∈ graph.nodes, node.typeName = typeName := by
  simp [Graph.firstOfType?]

/-- A rendering that nobody gives up ends with a square image of the wanted edge.  It is magenta if
the graph has no output node; otherwise the colour of each pixel is that of the first output node at
the place of the pixel, magenta if there is no value.  A rendering that is given up from the start
fails exactly if there is an output node and a row to paint, and leads to the same image
otherwise. -/
theorem render_pointwise (evaluator : Evaluator) (graph : Graph) :
    let resolution := evaluator.settings.resolution
    let image := (evaluator.renderAll graph).result
    (evaluator.render graph fun _ => false).result = .ok image ∧
      image.edge = resolution.toNat ∧
      image.rows.length = resolution.toNat ∧
      (∀ row ∈ image.rows, row.length = resolution.toNat) ∧
      ((∀ node ∈ graph.nodes, node.typeName ≠ outputTypeName) →
        ∀ x y : UInt32, x < resolution → y < resolution →
          image.pixel? x.toNat y.toNat = some ⟨255, 0, 255, 255⟩) ∧
      (∀ before output after, graph.nodes = before ++ output :: after →
        (∀ node ∈ before, node.typeName ≠ outputTypeName) → output.typeName = outputTypeName →
        ∀ x y : UInt32, x < resolution → y < resolution →
          image.pixel? x.toNat y.toNat =
            some (Color.quantize (evaluator.evaluateOrError graph output.id 0
              ⟨Image.coordinate resolution x, Image.coordinate resolution y⟩).asColor)) ∧
      ((evaluator.render graph fun _ => true).result = .error .cancelled ↔
        (∃ node ∈ graph.nodes, node.typeName = outputTypeName) ∧ 0 < resolution) ∧
      (¬((∃ node ∈ graph.nodes, node.typeName = outputTypeName) ∧ 0 < resolution) →
        (evaluator.render graph fun _ => true).result = .ok image) := by
  intro resolution image
  have image_eq : image = Image.ofPixels resolution.toNat (evaluator.pixels graph) :=
    renderAll_result evaluator graph
  have within {x : UInt32} (x_lt : x < resolution) : x.toNat < resolution.toNat :=
    UInt32.lt_iff_toNat_lt.mp x_lt
  have outcome := render_cancelled evaluator graph
  rw [← image_eq] at outcome
  have positive : 0 < resolution ↔ 0 < resolution.toNat := UInt32.lt_iff_toNat_lt
  refine ⟨image_eq ▸ render_uncancelled evaluator graph, image_eq ▸ rfl, ?_, ?_, ?_, ?_, ?_, ?_⟩
  · rw [image_eq, Image.ofPixels, List.length_map, List.length_range]
  · intro row member
    rw [image_eq] at member
    exact Image.length_row_ofPixels member
  · intro missing x y x_lt y_lt
    have absent : graph.firstOfType? outputTypeName = none := by
      simpa [Graph.firstOfType?] using missing
    rw [image_eq, Image.pixel?_ofPixels _ (within x_lt) (within y_lt), pixels, absent]
    exact congrArg some Color.quantize_error
  · intro before output after nodes_eq none_before outputs x y x_lt y_lt
    have first : graph.firstOfType? outputTypeName = some output := by
      refine List.find?_eq_some_iff_append.mpr ⟨by simpa using outputs, before, after, nodes_eq, ?_⟩
      simpa using none_before
    rw [image_eq, Image.pixel?_ofPixels _ (within x_lt) (within y_lt), pixels, first]
    simp only [pixel, UInt32.ofNat_toNat]
    rfl
  · rw [outcome, ← isSome_firstOfType?_iff, positive, ite_eq_left_iff]
    simp only [reduceCtorEq, imp_false, not_not]
    rfl
  · intro completed
    rw [← isSome_firstOfType?_iff, positive] at completed
    rw [outcome, if_neg completed]

/-- Gives the sample point on and below the diagonal and nothing above it. -/
def lowerTriangle : Evaluator :=
  (empty ⟨2, 256⟩).register outputTypeName fun inputs _ =>
    if inputs.sample.y < inputs.sample.x then .error (.unknownNodeType "above")
    else .ok (.vec2 inputs.sample)

/-- A node of one output pin. -/
def sourceNode (id : UInt32) (typeName : String) : Node :=
  ⟨⟨id⟩, typeName, ⟨0.0, 0.0⟩, [], [.output "Value" .color]⟩

/-- Two output nodes behind another node. -/
def twoOutputs : Graph :=
  ⟨[sourceNode 1 "Add", sourceNode 2 outputTypeName, sourceNode 3 outputTypeName], [], 4, 1⟩

/-- The pixel that fails is magenta, those after it are not; a graph without an output node is
rendered to the end in any case. -/
theorem render_pointwise_twoOutputs :
    (∃ image, (lowerTriangle.render twoOutputs fun _ => false).result = .ok image ∧
        image.pixel? 0 0 = some ⟨0, 0, 0, 255⟩ ∧
        image.pixel? 1 0 = some ⟨255, 0, 255, 255⟩ ∧
        image.pixel? 0 1 = some ⟨0, 255, 0, 255⟩) ∧
      (lowerTriangle.render twoOutputs fun _ => true).result = .error .cancelled ∧
      ∃ image, (lowerTriangle.render Graph.empty fun _ => true).result = .ok image ∧
        image.pixel? 1 1 = some ⟨255, 0, 255, 255⟩ := by
  obtain ⟨rendered, _, _, _, _, pixel_eq, given_up, _⟩ := render_pointwise lowerTriangle twoOutputs
  have colour := pixel_eq [sourceNode 1 "Add"] (sourceNode 2 outputTypeName)
    [sourceNode 3 outputTypeName] rfl (by decide) rfl
  have corner := colour 0 0 (by decide) (by decide)
  have failed := colour 1 0 (by decide) (by decide)
  have below := colour 0 1 (by decide) (by decide)
  have outputs : (∃ node ∈ twoOutputs.nodes, node.typeName = outputTypeName) ∧
      0 < lowerTriangle.settings.resolution := by
    decide
  obtain ⟨_, _, _, _, magenta, _, _, completed⟩ := render_pointwise lowerTriangle Graph.empty
  have missing : ∀ node ∈ Graph.empty.nodes, node.typeName ≠ outputTypeName := by
    decide
  have finished := completed fun ⟨⟨node, member, output⟩, _⟩ => missing node member output
  exact ⟨⟨_, rendered, corner.trans (by decide +kernel), failed.trans (by decide +kernel),
    below.trans (by decide +kernel)⟩, given_up.mpr outputs, _, finished,
    magenta missing 1 1 (by decide) (by decide)⟩

end Evaluator
end TextureGraph
