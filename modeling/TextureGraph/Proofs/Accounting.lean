import Mathlib.Data.Set.Card
import TextureGraph.Proofs.Rendering

/-!
# The account of a rendering

A rendering carries the number of its failures and what there was to tell from pixel to pixel.  Both
follow from the list of failures among the places painted so far, so that at the end the number is
that of all failing pixels and the one that was told of is the first of them.
-/

namespace TextureGraph

/-! ## The order of painting -/

namespace Image

/-- The places of a square image, each a column and a row, in the order in which they are
painted. -/
def places (edge : Nat) : List (Nat × Nat) :=
  (List.range edge).flatMap fun y => (List.range edge).map fun x => (x, y)

/-- A place lies in an upper row, or further left in the same row. -/
def Precedes (place other : Nat × Nat) : Prop :=
  place.2 < other.2 ∨ place.2 = other.2 ∧ place.1 < other.1

theorem mem_places {edge : Nat} {place : Nat × Nat} :
    place ∈ places edge ↔ place.1 < edge ∧ place.2 < edge := by
  obtain ⟨x, y⟩ := place
  simp [places, and_comm]

theorem places_in_order (edge : Nat) : (places edge).Pairwise Precedes := by
  refine List.pairwise_flatMap.mpr ⟨fun y _ => ?_, ?_⟩
  · exact List.pairwise_map.mpr (List.pairwise_lt_range.imp fun left => .inr ⟨rfl, left⟩)
  · refine List.pairwise_lt_range.imp fun above => ?_
    simp only [List.mem_map]
    rintro _ ⟨x, _, rfl⟩ _ ⟨other, _, rfl⟩
    exact .inl above

theorem Precedes.ne {place other : Nat × Nat} (precedes : Precedes place other) :
    place ≠ other := by
  rintro rfl
  simp [Precedes] at precedes

end Image

/-! ## Keeping account -/

/-- A pixel without a value, and why it has none. -/
structure PixelFailure where
  /-- Column and row of the pixel. -/
  place : Nat × Nat
  /-- What went wrong there. -/
  error : EvaluationError

namespace PixelFailure

/-- What a rendering tells of its first failure. -/
def event (failure : PixelFailure) : Event :=
  .pixelFailed failure.place.1 failure.place.2 failure.error

/-- The failure at a place whose value is asked for, if there is one. -/
def ofSample (place : Nat × Nat) : (sample : Except EvaluationError Value) → List PixelFailure
  | .ok _ => []
  | .error error => [⟨place, error⟩]

theorem mem_ofSample {place : Nat × Nat} {sample : Except EvaluationError Value}
    {failure : PixelFailure} :
    failure ∈ ofSample place sample ↔ place = failure.place ∧ sample = .error failure.error := by
  obtain ⟨other, reason⟩ := failure
  cases sample <;> simp [ofSample, eq_comm]

theorem places_ofSample_sublist (place : Nat × Nat) (sample : Except EvaluationError Value) :
    ((ofSample place sample).map PixelFailure.place).Sublist [place] := by
  cases sample <;> simp [ofSample]

/-- What a rendering of so many pixels tells of the failures it met. -/
def report (total : Nat) : (failures : List PixelFailure) → List Event
  | [] => []
  | first :: others => [first.event, .pixelsFailed (first :: others).length total]

end PixelFailure

/-- The number of failures and the events of a rendering are those of a list of failures. -/
structure Rendering.Accounts (rendering : Rendering) (failures : List PixelFailure) : Prop where
  failed : rendering.failed = failures.length
  events : rendering.events = (failures.head?.map PixelFailure.event).toList

namespace Rendering.Accounts

theorem start (edge : Nat) : (Rendering.start edge).Accounts [] :=
  ⟨rfl, rfl⟩

theorem paint {rendering : Rendering} {failures : List PixelFailure}
    (accounts : rendering.Accounts failures) (place : Nat × Nat)
    (sample : Except EvaluationError Value) :
    (rendering.paint place.1 place.2 sample).Accounts
      (failures ++ PixelFailure.ofSample place sample) := by
  cases sample with
  | ok value => simpa [PixelFailure.ofSample] using ⟨accounts.failed, accounts.events⟩
  | error error =>
      have failed := accounts.failed
      have events := accounts.events
      refine ⟨by simp [Rendering.paint, PixelFailure.ofSample, failed], ?_⟩
      -- only a failure that comes first is told of
      cases failures with
      | nil => simp [Rendering.paint, PixelFailure.ofSample, PixelFailure.event, failed, events]
      | cons first rest => simp [Rendering.paint, PixelFailure.ofSample, failed, events]

theorem finish_events {rendering : Rendering} {failures : List PixelFailure}
    (accounts : rendering.Accounts failures) (total : Nat) :
    (rendering.finish total).events = PixelFailure.report total failures := by
  rw [Rendering.finish, accounts.failed, accounts.events]
  cases failures <;> rfl

end Rendering.Accounts

namespace Evaluator

variable (evaluator : Evaluator) (graph : Graph) (output : NodeId)

/-- The failures among some places, in their order. -/
def failures (places : List (Nat × Nat)) : List PixelFailure :=
  places.flatMap fun place =>
    PixelFailure.ofSample place (evaluator.samplePixel graph output place.1 place.2)

theorem mem_failures {places : List (Nat × Nat)} {failure : PixelFailure} :
    failure ∈ evaluator.failures graph output places ↔
      failure.place ∈ places ∧
        evaluator.samplePixel graph output failure.place.1 failure.place.2 =
          .error failure.error := by
  simp only [failures, List.mem_flatMap, PixelFailure.mem_ofSample]
  constructor
  · rintro ⟨place, member, rfl, failed⟩
    exact ⟨member, failed⟩
  · rintro ⟨member, failed⟩
    exact ⟨failure.place, member, rfl, failed⟩

theorem places_failures_sublist (places : List (Nat × Nat)) :
    ((evaluator.failures graph output places).map PixelFailure.place).Sublist places := by
  induction places with
  | nil => exact List.Sublist.refl _
  | cons place places induction =>
      rw [failures, List.flatMap_cons, List.map_append]
      exact (PixelFailure.places_ofSample_sublist place _).append induction

theorem mem_places_failures {places : List (Nat × Nat)} {place : Nat × Nat} :
    place ∈ (evaluator.failures graph output places).map PixelFailure.place ↔
      place ∈ places ∧
        ∃ error, evaluator.samplePixel graph output place.1 place.2 = .error error := by
  simp only [List.mem_map, mem_failures]
  constructor
  · rintro ⟨failure, ⟨member, failed⟩, rfl⟩
    exact ⟨member, failure.error, failed⟩
  · rintro ⟨member, error, failed⟩
    exact ⟨⟨place, error⟩, ⟨member, failed⟩, rfl⟩

theorem places_failures_in_order (edge : Nat) :
    ((evaluator.failures graph output (Image.places edge)).map PixelFailure.place).Pairwise
      Image.Precedes :=
  (Image.places_in_order edge).sublist (evaluator.places_failures_sublist graph output _)

theorem ncard_failing (edge : Nat) :
    {place : Nat × Nat | (place.1 < edge ∧ place.2 < edge) ∧
      ∃ error, evaluator.samplePixel graph output place.1 place.2 = .error error}.ncard =
        (evaluator.failures graph output (Image.places edge)).length := by
  have distinct :
      ((evaluator.failures graph output (Image.places edge)).map PixelFailure.place).Nodup :=
    (evaluator.places_failures_in_order graph output edge).imp Image.Precedes.ne
  rw [← List.length_map PixelFailure.place, ← List.toFinset_card_of_nodup distinct,
    ← Set.ncard_coe_finset]
  congr 1
  ext place
  rw [List.coe_toFinset, Set.mem_ofPred_eq, Set.mem_ofPred_eq, mem_places_failures,
    Image.mem_places]

theorem accounts_paint_places {rendering : Rendering} {before : List PixelFailure}
    (accounts : rendering.Accounts before) (places : List (Nat × Nat)) :
    (places.foldl (fun rendering place => rendering.paint place.1 place.2
        (evaluator.samplePixel graph output place.1 place.2)) rendering).Accounts
      (before ++ evaluator.failures graph output places) := by
  induction places generalizing rendering before with
  | nil => simpa [failures] using accounts
  | cons place places induction =>
      have painted := accounts.paint place (evaluator.samplePixel graph output place.1 place.2)
      simpa [failures] using induction painted

/-- Row by row a rendering paints all places of its image. -/
theorem paintRows_eq_paint_places (rendering : Rendering) :
    (List.range evaluator.settings.resolution.toNat).foldl
        (fun rendering y => evaluator.paintRow graph output y rendering) rendering =
      (Image.places evaluator.settings.resolution.toNat).foldl
        (fun rendering place => rendering.paint place.1 place.2
          (evaluator.samplePixel graph output place.1 place.2)) rendering := by
  simp only [Image.places, List.foldl_flatMap, List.foldl_map, paintRow]

/-- A rendering that nobody gives up reports the failures among all places of its image. -/
theorem render_events {node : Node} {isCancelled : Nat → Bool}
    (first : graph.firstOfType? outputTypeName = some node)
    (uncancelled : ∀ y < evaluator.settings.resolution.toNat, isCancelled y = false) :
    (evaluator.render graph isCancelled).events =
      PixelFailure.report
        (evaluator.settings.resolution.toNat * evaluator.settings.resolution.toNat)
        (evaluator.failures graph node.id
          (Image.places evaluator.settings.resolution.toNat)) := by
  rw [render, first]
  simp only
  rw [paintRows_of_not_cancelled _ _ _ fun y member => uncancelled y (List.mem_range.mp member),
    paintRows_eq_paint_places]
  exact (evaluator.accounts_paint_places graph node.id (Rendering.Accounts.start _) _).finish_events
    _

/-- Whether a rendering could have been given up makes no difference to what it tells. -/
theorem events_renderAll {node : Node} {isCancelled : Nat → Bool}
    (first : graph.firstOfType? outputTypeName = some node)
    (uncancelled : ∀ y < evaluator.settings.resolution.toNat, isCancelled y = false) :
    (evaluator.renderAll graph).events = (evaluator.render graph isCancelled).events := by
  have events_eq : (evaluator.renderAll graph).events =
      (evaluator.render graph fun _ => false).events := by
    rw [renderAll]
    cases (evaluator.render graph fun _ => false).result <;> rfl
  rw [events_eq, render_events evaluator graph first fun _ _ => rfl,
    render_events evaluator graph first uncancelled]

/-- A rendering that nobody gives up logs nothing if every pixel has a value.  Otherwise it logs two
lines: the first failing pixel from above, and from the left within its row, with the error of that
pixel; and how many of all pixels fail. -/
theorem render_account {evaluator : Evaluator} {graph : Graph} {isCancelled : Nat → Bool}
    {before after : List Node} {output : Node} (nodes_eq : graph.nodes = before ++ output :: after)
    (none_before : ∀ node ∈ before, node.typeName ≠ outputTypeName)
    (outputs : output.typeName = outputTypeName)
    (uncancelled : ∀ y < evaluator.settings.resolution.toNat, isCancelled y = false) :
    let resolution := evaluator.settings.resolution
    let value (x y : Nat) := evaluator.evaluate graph output.id 0
      ⟨Image.coordinate resolution (UInt32.ofNat x), Image.coordinate resolution (UInt32.ofNat y)⟩
    let failing := {place : Nat × Nat | (place.1 < resolution.toNat ∧ place.2 < resolution.toNat) ∧
      ∃ error, value place.1 place.2 = .error error}
    let lines := (evaluator.render graph isCancelled).events.map Event.line
    (evaluator.renderAll graph).events.map Event.line = lines ∧
      (failing = ∅ ∧ lines = [] ∨
        ∃ x y error, (x, y) ∈ failing ∧ value x y = .error error ∧
          (∀ place ∈ failing, y < place.2 ∨ y = place.2 ∧ x ≤ place.1) ∧
          lines =
            ["DEBUG First failing pixel (" ++ toString x ++ ", " ++ toString y ++ "): " ++
              error.message,
             "WARN " ++ toString failing.ncard ++ " of " ++ toString (resolution.toNat ^ 2) ++
              " pixel(s) failed to evaluate"]) := by
  intro resolution value failing lines
  have first : graph.firstOfType? outputTypeName = some output := by
    refine List.find?_eq_some_iff_append.mpr ⟨by simpa using outputs, before, after, nodes_eq, ?_⟩
    simpa using none_before
  let failures := evaluator.failures graph output.id (Image.places resolution.toNat)
  have reported : lines = (PixelFailure.report (resolution.toNat * resolution.toNat) failures).map
      Event.line :=
    congrArg (List.map Event.line) (render_events evaluator graph first uncancelled)
  have mem_failing (place : Nat × Nat) :
      place ∈ failing ↔ place ∈ failures.map PixelFailure.place :=
    ((evaluator.mem_places_failures graph output.id).trans
      (and_congr_left' Image.mem_places)).symm
  have in_order : (failures.map PixelFailure.place).Pairwise Image.Precedes :=
    evaluator.places_failures_in_order graph output.id resolution.toNat
  have count : failing.ncard = failures.length :=
    evaluator.ncard_failing graph output.id resolution.toNat
  have sampled : ∀ failure ∈ failures,
      value failure.place.1 failure.place.2 = .error failure.error := fun failure member =>
    ((evaluator.mem_failures graph output.id).mp member).2
  refine ⟨congrArg (List.map Event.line) (events_renderAll evaluator graph first uncancelled), ?_⟩
  cases met : failures with
  | nil =>
      rw [met] at reported mem_failing
      exact .inl ⟨Set.eq_empty_of_forall_notMem fun place => by simp [mem_failing], reported⟩
  | cons failure others =>
      rw [met, List.map_cons] at in_order mem_failing
      obtain ⟨⟨x, y⟩, error⟩ := failure
      refine .inr ⟨x, y, error, ?_, ?_, ?_, ?_⟩
      · exact (mem_failing _).mpr List.mem_cons_self
      · exact sampled ⟨(x, y), error⟩ (met ▸ List.mem_cons_self)
      · intro place member
        rcases List.mem_cons.mp ((mem_failing place).mp member) with rfl | later
        · exact .inr ⟨rfl, le_refl _⟩
        · exact ((List.pairwise_cons.mp in_order).1 place later).imp_right
            (And.imp_right Nat.le_of_lt)
      · rw [reported, met, count, met, pow_two]
        rfl

/-- Of four pixels only the right one of the upper row fails. -/
theorem render_account_twoOutputs :
    (lowerTriangle.render twoOutputs fun _ => false).events.map Event.line =
      ["DEBUG First failing pixel (1, 0): No formula for node type: above",
       "WARN 1 of 4 pixel(s) failed to evaluate"] := by
  obtain ⟨_, account⟩ := @render_account lowerTriangle twoOutputs (fun _ => false)
    [sourceNode 1 "Add"] [sourceNode 3 outputTypeName] (sourceNode 2 outputTypeName) rfl
    (by decide) rfl fun _ _ => rfl
  have valued : ∀ x < 2, ∀ y < 2,
      (lowerTriangle.samplePixel twoOutputs ⟨2⟩ x y).toBool = !(x == 1 && y == 0) := by
    decide +kernel
  have right_fails :
      lowerTriangle.samplePixel twoOutputs ⟨2⟩ 1 0 = .error (.unknownNodeType "above") := by
    decide +kernel
  let failing := {place : Nat × Nat | (place.1 < 2 ∧ place.2 < 2) ∧
    ∃ error, lowerTriangle.samplePixel twoOutputs ⟨2⟩ place.1 place.2 = .error error}
  have failing_eq : failing = {(1, 0)} := by
    ext ⟨x, y⟩
    constructor
    · rintro ⟨⟨column, row⟩, error, failed⟩
      have here := valued x column y row
      rw [failed] at here
      simpa [Except.toBool] using here
    · intro here
      obtain ⟨rfl, rfl⟩ := Prod.mk.inj here
      exact ⟨by decide, _, right_fails⟩
  have count : failing.ncard = 1 := by
    rw [failing_eq, Set.ncard_singleton]
  rcases account with ⟨none_fails, _⟩ | ⟨x, y, error, fails, failed, _, lines_eq⟩
  · exact absurd (failing_eq.symm.trans none_fails) (Set.singleton_ne_empty _)
  · obtain ⟨rfl, rfl⟩ := Prod.mk.inj (failing_eq.subset fails)
    obtain rfl := Except.error.inj (failed.symm.trans right_fails)
    change _ = [_, "WARN " ++ toString failing.ncard ++ " of " ++ _ ++ _] at lines_eq
    rw [lines_eq, count]
    decide +kernel

end Evaluator
end TextureGraph
