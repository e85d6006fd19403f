/-
**The layer that is chosen.**

The loops of `selectLayer` count places (`itemsFrom`), and keep the last place whose layer can be afforded
(`scan_spec`). Where the places are the numbers of the layers, that is the best layer. For every layer that can be
afforded the constraints are looked up in lists, and behind one of them if its number is the size of that list.

* `choosesBest_iff`: after a run, `selectLayer` chooses the best layer and stays inside the lists, whatever the bit rates,
  the estimate, the margin, the limits and the slideshow are (`ChoosesBest`), exactly when there is a node, the layers
  inserted are contiguous, and none of them is one that the lists end at.
-/

import Erizo.Proof.LayerNode
import Erizo.Proof.LayerTables

namespace Erizo

open Library

/-- The lists of an event do not end at a layer: it is the lowest one, or behind one of them, or not the size of any. -/
def LayerInfoChangedEvent.Lists (event : LayerInfoChangedEvent) (spatialLayer temporalLayer : ℕ) : Prop :=
  ((QualityManager.create 0).notifyEvent event).Listed spatialLayer temporalLayer

namespace QualityManager

/-! ### Places -/

/-- The places of the values, the rows counted from some number on. -/
def itemsFrom (first : ℕ) (rows : List (List UInt64)) : List (ℕ × ℕ × UInt64) :=
  (rows.zipIdx first).flatMap fun row => row.1.zipIdx.map fun value => (row.2, value.2, value.1)

/-- A place as a layer. -/
def placeOf (item : ℕ × ℕ × UInt64) : ℤ ×ₗ ℤ := toLex ((item.1 : ℤ), (item.2.1 : ℤ))

theorem itemsFrom_cons (first : ℕ) (row : List UInt64) (rows : List (List UInt64)) :
    itemsFrom first (row :: rows) =
      (row.zipIdx.map fun value => (first, value.2, value.1)) ++ itemsFrom (first + 1) rows := rfl

theorem mem_itemsFrom {rows : List (List UInt64)} {spatial temporal : ℕ} {value : UInt64} :
    (spatial, temporal, value) ∈ itemsFrom 0 rows ↔ ∃ row, rows[spatial]? = some row ∧ row[temporal]? = some value := by
  simp only [itemsFrom, List.mem_flatMap, List.mem_map, Prod.exists, Prod.mk.injEq, List.mk_mem_zipIdx_iff_getElem?]
  constructor
  · rintro ⟨row, _, here, _, _, there, rfl, rfl, rfl⟩
    exact ⟨row, here, there⟩
  · rintro ⟨row, here, there⟩
    exact ⟨row, spatial, here, value, temporal, there, rfl, rfl, rfl⟩

theorem le_of_mem_itemsFrom (rows : List (List UInt64)) : ∀ first, ∀ item ∈ itemsFrom first rows, first ≤ item.1 := by
  induction rows with
  | nil => exact fun _ _ member => absurd member List.not_mem_nil
  | cons row rows ih =>
      intro first item member
      rw [itemsFrom_cons, List.mem_append, List.mem_map] at member
      rcases member with ⟨_, _, rfl⟩ | later
      · exact le_rfl
      · exact (Nat.le_succ first).trans (ih (first + 1) item later)

theorem placeOf_lt {first second : ℕ × ℕ × UInt64} :
    placeOf first < placeOf second ↔ first.1 < second.1 ∨ first.1 = second.1 ∧ first.2.1 < second.2.1 := by
  rw [placeOf, placeOf, Prod.Lex.toLex_lt_toLex]
  simp only [Nat.cast_lt, Nat.cast_inj]

/-- The places increase. -/
theorem increases_itemsFrom (rows : List (List UInt64)) :
    ∀ first, (itemsFrom first rows).Pairwise fun one other => placeOf one < placeOf other := by
  have inRow : ∀ (row : List UInt64) (first start : ℕ),
      ((row.zipIdx start).map fun value => (first, value.2, value.1)).Pairwise
        fun one other => placeOf one < placeOf other := by
    intro row
    induction row with
    | nil => exact fun _ _ => List.Pairwise.nil
    | cons value row ih =>
        intro first start
        refine List.pairwise_cons.mpr ⟨fun item member => ?_, ih first (start + 1)⟩
        obtain ⟨later, here, rfl⟩ := List.mem_map.mp member
        exact placeOf_lt.mpr (Or.inr ⟨rfl, List.le_snd_of_mem_zipIdx here⟩)
  induction rows with
  | nil => exact fun _ => List.Pairwise.nil
  | cons row rows ih =>
      intro first
      rw [itemsFrom_cons]
      refine List.pairwise_append.mpr ⟨inRow row first 0, ih (first + 1), fun one here other later => ?_⟩
      obtain ⟨_, _, rfl⟩ := List.mem_map.mp here
      exact placeOf_lt.mpr (Or.inl (le_of_mem_itemsFrom rows (first + 1) other later))

/-! ### The loops -/

section Scan

variable (manager : QualityManager) (margin : ℚ)

/-- A place whose layer may be chosen. -/
def Accepts (item : ℕ × ℕ × UInt64) : Prop :=
  manager.minValidSpatialLayer ≤ item.1 ∧ manager.Affordable margin item.2.2 ∧
    (manager.doesLayerMeetConstraints item.1 item.2.1).1 = true

instance : DecidablePred (manager.Accepts margin) := fun _ => inferInstanceAs (Decidable (_ ∧ _ ∧ _))

/-- The indices that are used for a place: the constraints are looked at if its layer is valid and can be afforded. -/
def accessesOf (item : ℕ × ℕ × UInt64) : List Access :=
  if manager.minValidSpatialLayer ≤ item.1 ∧ manager.Affordable margin item.2.2 then
    (manager.doesLayerMeetConstraints item.1 item.2.1).2
  else []

/-- The loops have kept a place, or none, and have used some indices. -/
structure Agrees (scan : Scan) (best : Option (ℤ ×ₗ ℤ)) (accesses : List Access) : Prop where
  below : scan.belowMinLayer = best.isNone
  next : toLex (scan.nextSpatialLayer, scan.nextTemporalLayer) = best.getD (toLex (manager.minValidSpatialLayer, 0))
  accesses : scan.accesses = accesses

variable {manager margin}

/-- A round of the inner loop keeps the place, if its layer may be chosen. -/
theorem agrees_scanTemporalLayer {scan : Scan} {best : Option (ℤ ×ₗ ℤ)} {accesses : List Access}
    (agrees : manager.Agrees scan best accesses) {spatial temporal : ℕ}
    (visible : manager.minValidSpatialLayer ≤ spatial) (row : scan.auxSpatialLayer = spatial)
    (column : scan.auxTemporalLayer = temporal) (value : UInt64) :
    manager.Agrees (manager.scanTemporalLayer margin scan value)
      (Sweep.keep placeOf (manager.Accepts margin) best (spatial, temporal, value))
      (accesses ++ manager.accessesOf margin (spatial, temporal, value)) := by
  unfold scanTemporalLayer Sweep.keep
  dsimp only
  rw [row, column]
  by_cases affordable : manager.Affordable margin value
  · have uses : manager.accessesOf margin (spatial, temporal, value) =
        (manager.doesLayerMeetConstraints spatial temporal).2 := if_pos ⟨visible, affordable⟩
    rw [if_pos affordable, uses, ← agrees.accesses]
    by_cases meets : (manager.doesLayerMeetConstraints spatial temporal).1 = true
    · rw [if_pos meets, if_pos (show manager.Accepts margin (spatial, temporal, value) from ⟨visible, affordable, meets⟩)]
      exact ⟨rfl, rfl, rfl⟩
    · rw [if_neg meets, if_neg fun accepts : manager.Accepts margin (spatial, temporal, value) => meets accepts.2.2]
      exact ⟨agrees.below, agrees.next, rfl⟩
  · have unused : manager.accessesOf margin (spatial, temporal, value) = [] := if_neg fun both => affordable both.2
    rw [if_neg affordable, unused, List.append_nil,
      if_neg fun accepts : manager.Accepts margin (spatial, temporal, value) => affordable accepts.2.1]
    exact ⟨agrees.below, agrees.next, agrees.accesses⟩

theorem aux_scanTemporalLayer (scan : Scan) (value : UInt64) :
    (manager.scanTemporalLayer margin scan value).auxSpatialLayer = scan.auxSpatialLayer ∧
      (manager.scanTemporalLayer margin scan value).auxTemporalLayer = scan.auxTemporalLayer + 1 := by
  unfold scanTemporalLayer
  dsimp only
  split_ifs <;> exact ⟨rfl, rfl⟩

/-- The inner loop. -/
theorem agrees_row (row : List UInt64) {spatial : ℕ} (visible : manager.minValidSpatialLayer ≤ spatial) :
    ∀ (temporal : ℕ) {scan : Scan} {best : Option (ℤ ×ₗ ℤ)} {accesses : List Access},
      manager.Agrees scan best accesses → scan.auxSpatialLayer = spatial → scan.auxTemporalLayer = temporal →
        manager.Agrees (row.foldl (manager.scanTemporalLayer margin) scan)
            (((row.zipIdx temporal).map fun value => (spatial, value.2, value.1)).foldl
              (Sweep.keep placeOf (manager.Accepts margin)) best)
            (accesses ++ ((row.zipIdx temporal).map fun value => (spatial, value.2, value.1)).flatMap
              (manager.accessesOf margin)) ∧
          (row.foldl (manager.scanTemporalLayer margin) scan).auxSpatialLayer = spatial := by
  induction row with
  | nil => exact fun _ _ _ accesses agrees same _ => ⟨(List.append_nil accesses).symm ▸ agrees, same⟩
  | cons value row ih =>
      intro temporal scan best accesses agrees same column
      obtain ⟨stays, next⟩ := @aux_scanTemporalLayer manager margin scan value
      have after := ih (temporal + 1) (agrees_scanTemporalLayer agrees visible same column value) (stays.trans same)
        (by rw [next, column, Nat.cast_succ])
      rwa [List.append_assoc] at after

/-- A row in front of the valid ones has no place that is accepted, and none whose constraints are looked at. -/
theorem keep_invisible (row : List (UInt64 × ℕ)) {spatial : ℕ} (hidden : ¬manager.minValidSpatialLayer ≤ spatial)
    (best : Option (ℤ ×ₗ ℤ)) :
    (row.map fun value => (spatial, value.2, value.1)).foldl (Sweep.keep placeOf (manager.Accepts margin)) best = best ∧
      (row.map fun value => (spatial, value.2, value.1)).flatMap (manager.accessesOf margin) = [] := by
  induction row with
  | nil => exact ⟨rfl, rfl⟩
  | cons value row ih =>
      rw [List.map_cons, List.foldl_cons, List.flatMap_cons, Sweep.keep, accessesOf,
        if_neg fun accepts : manager.Accepts margin (spatial, value.2, value.1) => hidden accepts.1,
        if_neg fun both => hidden both.1]
      exact ih

/-- The outer loop. -/
theorem agrees_rows (rows : List (List UInt64)) :
    ∀ (spatial : ℕ) {scan : Scan} {best : Option (ℤ ×ₗ ℤ)} {accesses : List Access},
      manager.Agrees scan best accesses → scan.auxSpatialLayer = spatial → scan.auxTemporalLayer = 0 →
        manager.Agrees (rows.foldl (manager.scanSpatialLayer margin) scan)
          ((itemsFrom spatial rows).foldl (Sweep.keep placeOf (manager.Accepts margin)) best)
          (accesses ++ (itemsFrom spatial rows).flatMap (manager.accessesOf margin)) := by
  induction rows with
  | nil => exact fun _ _ _ accesses agrees _ _ => (List.append_nil accesses).symm ▸ agrees
  | cons row rows ih =>
      intro spatial scan best accesses agrees same column
      rw [itemsFrom_cons, List.foldl_append, List.flatMap_append, List.foldl_cons, ← List.append_assoc]
      by_cases visible : manager.minValidSpatialLayer ≤ spatial
      · obtain ⟨after, stays⟩ := @agrees_row manager margin row spatial visible 0 _ _ _ agrees same column
        have body : manager.scanSpatialLayer margin scan row =
            { row.foldl (manager.scanTemporalLayer margin) scan with
              auxTemporalLayer := 0
              auxSpatialLayer := (spatial : ℤ) + 1 } := by
          unfold scanSpatialLayer
          dsimp only
          rw [if_pos (same ▸ visible : scan.auxSpatialLayer ≥ manager.minValidSpatialLayer), stays]
        rw [body]
        exact ih (spatial + 1) ⟨after.below, after.next, after.accesses⟩ (Nat.cast_succ spatial).symm rfl
      · have body : manager.scanSpatialLayer margin scan row =
            { scan with auxTemporalLayer := 0, auxSpatialLayer := (spatial : ℤ) + 1 } := by
          unfold scanSpatialLayer
          dsimp only
          rw [if_neg (same ▸ visible : ¬scan.auxSpatialLayer ≥ manager.minValidSpatialLayer), same]
        obtain ⟨kept, unused⟩ := @keep_invisible manager margin row.zipIdx spatial visible best
        rw [body, kept, unused, List.append_nil]
        exact ih (spatial + 1) ⟨agrees.below, agrees.next, agrees.accesses⟩ (Nat.cast_succ spatial).symm rfl

/-- The places that are accepted. -/
def acceptedPlaces (manager : QualityManager) (margin : ℚ) (rows : List (List UInt64)) : Set (ℤ ×ₗ ℤ) :=
  Sweep.accepted placeOf (manager.Accepts margin) (itemsFrom 0 rows)

/-- The loops go through the places. -/
theorem agrees_scanLayers (manager : QualityManager) (margin : ℚ) (value : Text → Text → UInt64)
    (layers : QualityLayers) : manager.Agrees (manager.scanLayers margin value layers)
      ((itemsFrom 0 (valuesOf value layers)).foldl (Sweep.keep placeOf (manager.Accepts margin)) none)
      ((itemsFrom 0 (valuesOf value layers)).flatMap (manager.accessesOf margin)) :=
  agrees_rows (valuesOf value layers) 0 ⟨rfl, rfl, rfl⟩ rfl rfl

/-- **The loops find the last place accepted**, which is the greatest one. -/
theorem scan_spec (manager : QualityManager) (margin : ℚ) (value : Text → Text → UInt64) (layers : QualityLayers) :
    ((manager.scanLayers margin value layers).belowMinLayer = true ∧
        (manager.scanLayers margin value layers).nextSpatialLayer = manager.minValidSpatialLayer ∧
        (manager.scanLayers margin value layers).nextTemporalLayer = 0 ∧
        manager.acceptedPlaces margin (valuesOf value layers) = ∅) ∨
      (manager.scanLayers margin value layers).belowMinLayer = false ∧
        IsGreatest (manager.acceptedPlaces margin (valuesOf value layers))
          (toLex ((manager.scanLayers margin value layers).nextSpatialLayer,
            (manager.scanLayers margin value layers).nextTemporalLayer)) := by
  obtain ⟨below, next, -⟩ := agrees_scanLayers manager margin value layers
  rcases @Sweep.sweep_spec _ _ placeOf (manager.Accepts margin) _ _ _ (increases_itemsFrom (valuesOf value layers) 0) with
    ⟨kept, empty⟩ | ⟨best, kept, greatest⟩
  · rw [Sweep.sweep] at kept
    rw [kept] at below next
    obtain ⟨spatial, temporal⟩ := Prod.ext_iff.mp (toLex.injective next)
    exact Or.inl ⟨below, spatial, temporal, empty⟩
  · rw [Sweep.sweep] at kept
    rw [kept] at below next
    refine Or.inr ⟨below, ?_⟩
    rw [next]
    exact greatest

/-- What the places are of, in the node. -/
theorem mem_items_valuesOf {value : Text → Text → UInt64} {layers : QualityLayers} {spatial temporal : ℕ}
    {read : UInt64} :
    (spatial, temporal, read) ∈ itemsFrom 0 (valuesOf value layers) ↔
      ∃ name child temporalName stat, layers.toList[spatial]? = some (name, child) ∧
        child.toList[temporal]? = some (temporalName, stat) ∧ value name temporalName = read := by
  rw [mem_itemsFrom]
  simp only [valuesOf, List.getElem?_map, Option.map_eq_some_iff, Prod.exists]
  constructor
  · rintro ⟨_, ⟨name, child, here, rfl⟩, there⟩
    rw [List.getElem?_map] at there
    obtain ⟨⟨temporalName, stat⟩, there, same⟩ := Option.map_eq_some_iff.mp there
    exact ⟨name, child, temporalName, stat, here, there, same⟩
  · rintro ⟨name, child, temporalName, stat, here, there, same⟩
    refine ⟨_, ⟨name, child, here, rfl⟩, ?_⟩
    rw [List.getElem?_map, there, Option.map_some, ← same]

end Scan

/-! ### The best layer -/

/-- The layers that may be chosen: they are inserted and valid, can be afforded, and meet the constraints. -/
def Eligible (manager : QualityManager) (margin : ℚ) (value : Text → Text → UInt64) (inserted : ℤ → ℤ → Prop) :
    Set (ℤ ×ₗ ℤ) :=
  {layer | inserted (ofLex layer).1 (ofLex layer).2 ∧ manager.minValidSpatialLayer ≤ (ofLex layer).1 ∧
    manager.Affordable margin (value (toText (ofLex layer).1) (toText (ofLex layer).2)) ∧
    (manager.doesLayerMeetConstraints (ofLex layer).1 (ofLex layer).2).1 = true}

/-- The best layer is chosen: the greatest one that may be, and the lowest valid one if there is none, when the
slideshow takes over, if it is enabled. No list is read behind its end. -/
structure ChoosesBest (manager : QualityManager) (threshold : ℚ) (readings : QualityReadings)
    (node : Option QualityLayers) (tryHigherLayers : Bool) (inserted : ℤ → ℤ → Prop) : Prop where
  best : (manager.Eligible (if tryHigherLayers then threshold else 0) readings.value inserted).Nonempty →
    IsGreatest (manager.Eligible (if tryHigherLayers then threshold else 0) readings.value inserted)
      (toLex ((manager.selectLayer threshold readings node tryHigherLayers).1.spatialLayer,
        (manager.selectLayer threshold readings node tryHigherLayers).1.temporalLayer))
  none : manager.Eligible (if tryHigherLayers then threshold else 0) readings.value inserted = ∅ →
    (manager.selectLayer threshold readings node tryHigherLayers).1.spatialLayer = manager.minValidSpatialLayer ∧
      (manager.selectLayer threshold readings node tryHigherLayers).1.temporalLayer = 0
  fallback : tryHigherLayers = true →
    ((manager.selectLayer threshold readings node tryHigherLayers).1.freezeFallbackActive = true ↔
      manager.enableSlideshowBelowSpatialLayer = true ∧
        manager.Eligible (if tryHigherLayers then threshold else 0) readings.value inserted = ∅)
  inside : ∀ layers ∈ node, ∀ access ∈
    (manager.scanLayers (if tryHigherLayers then threshold else 0) readings.value layers).accesses, access.Valid

/-- Where the places are the numbers of the layers, the places accepted are the layers that may be chosen. -/
theorem acceptedPlaces_eq {layers : QualityLayers} (inOrder : InOrder layers) (manager : QualityManager) (margin : ℚ)
    (value : Text → Text → UInt64) :
    manager.acceptedPlaces margin (valuesOf value layers) = manager.Eligible margin value (Inserted layers) := by
  ext layer
  constructor
  · rintro ⟨⟨spatial, temporal, read⟩, member, ⟨valid, affordable, meets⟩, rfl⟩
    obtain ⟨name, child, temporalName, stat, here, there, rfl⟩ := mem_items_valuesOf.mp member
    obtain ⟨rfl, rfl⟩ := inOrder _ _ _ _ _ _ here there
    exact ⟨⟨child, getElem?_of_toList here, mem_iff_exists.mpr ⟨stat, getElem?_of_toList there⟩⟩, valid, affordable, meets⟩
  · rintro ⟨⟨child, found, inside⟩, valid, affordable, meets⟩
    obtain ⟨stat, stored⟩ := mem_iff_exists.mp inside
    obtain ⟨spatial, here⟩ := exists_place found
    obtain ⟨temporal, there⟩ := exists_place stored
    obtain ⟨spatialName, temporalName⟩ := inOrder _ _ _ _ _ _ here there
    have first := toText_injective spatialName
    have second := toText_injective temporalName
    rw [first] at valid meets
    rw [second] at meets
    exact ⟨(spatial, temporal, _), mem_items_valuesOf.mpr ⟨_, _, _, _, here, there, rfl⟩, ⟨valid, affordable, meets⟩,
      by rw [placeOf, ← first, ← second]; rfl⟩

/-- Where the places are the numbers of the layers, the constraints are looked up for layers that are inserted. -/
theorem valid_scanLayers {layers : QualityLayers} (inOrder : InOrder layers) (manager : QualityManager)
    (listed : ∀ spatial temporal : ℕ, Inserted layers spatial temporal →
      (Countable spatial ∧ Countable temporal) ∧ manager.Listed spatial temporal) (margin : ℚ)
    (value : Text → Text → UInt64) : ∀ access ∈ (manager.scanLayers margin value layers).accesses, access.Valid := by
  rw [(agrees_scanLayers manager margin value layers).accesses]
  intro access member
  obtain ⟨⟨spatial, temporal, read⟩, item, uses⟩ := List.mem_flatMap.mp member
  obtain ⟨name, child, temporalName, stat, here, there, -⟩ := mem_items_valuesOf.mp item
  obtain ⟨rfl, rfl⟩ := inOrder _ _ _ _ _ _ here there
  obtain ⟨⟨countable, few⟩, within⟩ := listed spatial temporal
    ⟨child, getElem?_of_toList here, mem_iff_exists.mpr ⟨stat, getElem?_of_toList there⟩⟩
  unfold accessesOf at uses
  split at uses
  · exact (manager.valid_iff_listed countable few).mpr within access uses
  · exact absurd uses List.not_mem_nil

/-! ### What `selectLayer` does with it -/

section Select

variable (manager : QualityManager)

theorem setPadding_keeps (enabled : Bool) :
    (manager.setPadding enabled).1.spatialLayer = manager.spatialLayer ∧
      (manager.setPadding enabled).1.temporalLayer = manager.temporalLayer ∧
      (manager.setPadding enabled).1.freezeFallbackActive = manager.freezeFallbackActive := by
  unfold setPadding
  split <;> exact ⟨rfl, rfl, rfl⟩

theorem switchLayer_spec (free : manager.forcedLayers = false) (node : Option QualityLayers) (spatial temporal : ℤ) :
    (manager.switchLayer node spatial temporal).1.spatialLayer = spatial ∧
      (manager.switchLayer node spatial temporal).1.temporalLayer = temporal ∧
      (manager.switchLayer node spatial temporal).1.freezeFallbackActive = manager.freezeFallbackActive := by
  unfold switchLayer setTemporalLayer setSpatialLayer
  by_cases switches : temporal ≠ manager.temporalLayer ∨ spatial ≠ manager.spatialLayer
  · rw [if_pos switches]
    simp only [free, Bool.false_eq_true, if_false, and_self]
  · rw [if_neg switches]
    obtain ⟨first, second⟩ := not_or.mp switches
    exact ⟨(not_not.mp second).symm, (not_not.mp first).symm, rfl⟩

theorem updateFallback_spec (below tryHigherLayers : Bool) :
    (manager.updateFallback below tryHigherLayers).1.forcedLayers = manager.forcedLayers ∧
      (tryHigherLayers = true → (manager.updateFallback below tryHigherLayers).1.freezeFallbackActive = below) := by
  unfold updateFallback
  split
  · exact ⟨rfl, fun _ => rfl⟩
  · next stays =>
      refine ⟨rfl, fun higher => ?_⟩
      by_contra different
      exact stays ⟨fun same => different same.symm, Or.inr higher⟩

/-- **What the loops have found becomes the layer, and begins or ends the slideshow.** -/
theorem selectLayer_spec (started : manager.initialized = true) (free : manager.forcedLayers = false) (threshold : ℚ)
    (readings : QualityReadings) (layers : QualityLayers) (tryHigherLayers : Bool) :
    let scan := manager.scanLayers (if tryHigherLayers then threshold else 0) readings.value layers
    let after := (manager.selectLayer threshold readings (some layers) tryHigherLayers).1
    after.spatialLayer = scan.nextSpatialLayer ∧ after.temporalLayer = scan.nextTemporalLayer ∧
      (tryHigherLayers = true →
        after.freezeFallbackActive = (scan.belowMinLayer && manager.enableSlideshowBelowSpatialLayer)) := by
  intro scan after
  -- the manager after each part of `selectLayer`
  let checked := { manager with lastQualityCheck := readings.selected }
  let fallen := (checked.updateFallback (scan.belowMinLayer && manager.enableSlideshowBelowSpatialLayer) tryHigherLayers).1
  let switched := (fallen.switchLayer (some layers) scan.nextSpatialLayer scan.nextTemporalLayer).1
  obtain ⟨forced, fallback⟩ :=
    checked.updateFallback_spec (scan.belowMinLayer && manager.enableSlideshowBelowSpatialLayer) tryHigherLayers
  obtain ⟨spatial, temporal, kept⟩ :=
    fallen.switchLayer_spec (forced.trans free) (some layers) scan.nextSpatialLayer scan.nextTemporalLayer
  obtain ⟨padded, paddedTemporal, still⟩ :=
    switched.setPadding_keeps (!switched.isInMaxLayer && !scan.layerCappedByConstraints)
  have whole : after = (switched.setPadding (!switched.isInMaxLayer && !scan.layerCappedByConstraints)).1 := by
    show (manager.selectLayer threshold readings (some layers) tryHigherLayers).1 = _
    unfold selectLayer
    dsimp only
    rw [if_neg (by simp [started])]
  rw [whole]
  exact ⟨padded.trans spatial, paddedTemporal.trans temporal, fun higher => still.trans (kept.trans (fallback higher))⟩

/-- **Where the places are the numbers of the layers, the best layer is chosen.** -/
theorem choosesBest_of_inOrder (started : manager.initialized = true) (free : manager.forcedLayers = false)
    {layers : QualityLayers} (inOrder : InOrder layers)
    (listed : ∀ spatial temporal : ℕ, Inserted layers spatial temporal →
      (Countable spatial ∧ Countable temporal) ∧ manager.Listed spatial temporal) (threshold : ℚ)
    (readings : QualityReadings) (tryHigherLayers : Bool) :
    manager.ChoosesBest threshold readings (some layers) tryHigherLayers (Inserted layers) := by
  obtain ⟨spatial, temporal, fallback⟩ :=
    manager.selectLayer_spec started free threshold readings layers tryHigherLayers
  have found := manager.scan_spec (if tryHigherLayers then threshold else 0) readings.value layers
  have inside : ∀ other ∈ some layers, ∀ access ∈
      (manager.scanLayers (if tryHigherLayers then threshold else 0) readings.value other).accesses, access.Valid :=
    fun other same => Option.some.inj same ▸ valid_scanLayers inOrder manager listed _ readings.value
  rw [acceptedPlaces_eq inOrder] at found
  rcases found with ⟨below, first, second, empty⟩ | ⟨below, greatest⟩
  · refine ⟨fun some => absurd empty some.ne_empty, fun _ => ⟨spatial.trans first, temporal.trans second⟩, fun higher => ?_,
      inside⟩
    rw [fallback higher, below, Bool.true_and]
    exact (and_iff_left empty).symm
  · refine ⟨fun _ => ?_, fun empty => absurd empty (Set.nonempty_of_mem greatest.1).ne_empty, fun higher => ?_, inside⟩
    · rw [spatial, temporal]
      exact greatest
    · rw [fallback higher, below, Bool.false_and]
      exact iff_of_false Bool.false_ne_true fun both => absurd both.2 (Set.nonempty_of_mem greatest.1).ne_empty

end Select

/-! ### Layers that are not contiguous, or that lists end at -/

/-- A manager without limits, with a slideshow and an estimated bit rate of 2. -/
def probe : QualityManager :=
  { QualityManager.create 0 with
    initialized := true
    enableSlideshowBelowSpatialLayer := true
    slideshowBelowSpatialLayer := 0
    currentEstimatedBitrate := 2 }

/-- One layer has a bit rate of 1, all others have none. -/
def readingsOf (name temporalName : Text) : QualityReadings where
  value spatial temporal := if spatial = name ∧ temporal = temporalName then 1 else 0
  activeValue _ _ := 0
  senderBitrateEstimation := none
  hasServices := false
  now := 0
  selected := 0

/-- A manager without limits finds that every layer meets them, whatever its lists are. -/
theorem probe_meets (event : LayerInfoChangedEvent) (spatial temporal : ℤ) :
    ((probe.notifyEvent event).doesLayerMeetConstraints spatial temporal).1 = true := by
  have unlimited : ∀ layerWidth layerHeight layerFrameRate,
      (probe.notifyEvent event).meetsLimits layerWidth layerHeight layerFrameRate = true := by
    intro layerWidth layerHeight layerFrameRate
    unfold meetsLimits
    exact decide_eq_true ⟨Or.inl ⟨rfl, rfl⟩, Or.inl rfl⟩
  unfold doesLayerMeetConstraints
  split
  · rfl
  split
  · rfl
  dsimp only
  split
  · rfl
  · rw [unlimited]

theorem probe_affordable (event : LayerInfoChangedEvent) (name temporalName spatial temporal : Text) :
    (probe.notifyEvent event).Affordable 0 ((readingsOf name temporalName).value spatial temporal) ↔
      spatial = name ∧ temporal = temporalName := by
  have one : probe.Affordable 0 1 := by decide +kernel
  unfold readingsOf
  dsimp only
  by_cases this : spatial = name ∧ temporal = temporalName
  · rw [if_pos this]
    exact iff_of_true one this
  · rw [if_neg this]
    exact iff_of_false (fun affordable => affordable.1 rfl) this

/-- A name has one place. -/
theorem place_unique {ν : Type} {map : NodeMap ν} {place other : ℕ} {name : Text} {value another : ν}
    (here : map.toList[place]? = some (name, value)) (there : map.toList[other]? = some (name, another)) :
    place = other := by
  rcases lt_trichotomy place other with less | same | more
  · have before := before_of_toList here there less
    exact absurd before (before_asymm _ _ before)
  · exact same
  · have before := before_of_toList there here more
    exact absurd before (before_asymm _ _ before)

/-- **If the best layer is chosen whatever the bit rates are, the places are the numbers of the layers.** A layer that
alone can be afforded is chosen by its place. -/
theorem inOrder_of_choosesBest {layers : QualityLayers} {event : LayerInfoChangedEvent}
    (chooses : ∀ name temporalName,
      (probe.notifyEvent event).ChoosesBest 0 (readingsOf name temporalName) (some layers) true (Inserted layers)) :
    InOrder layers := by
  intro spatialPlace temporalPlace name child temporalName stat here there
  obtain ⟨spatial, temporal, fallback⟩ :=
    (probe.notifyEvent event).selectLayer_spec rfl rfl 0 (readingsOf name temporalName) layers true
  have best := chooses name temporalName
  rw [if_pos rfl] at spatial temporal fallback
  rcases (probe.notifyEvent event).scan_spec 0 (readingsOf name temporalName).value layers with
    ⟨-, -, -, empty⟩ | ⟨below, greatest⟩
  · have accepted : placeOf (spatialPlace, temporalPlace, (readingsOf name temporalName).value name temporalName) ∈
        (probe.notifyEvent event).acceptedPlaces 0 (valuesOf (readingsOf name temporalName).value layers) :=
      ⟨_, mem_items_valuesOf.mpr ⟨_, _, _, _, here, there, rfl⟩,
        ⟨Int.natCast_nonneg _, (probe_affordable _ _ _ _ _).mpr ⟨rfl, rfl⟩, probe_meets _ _ _⟩, rfl⟩
    exact absurd accepted (empty ▸ Set.notMem_empty _)
  · -- the place that is chosen is that of the one layer that can be afforded
    obtain ⟨⟨firstPlace, secondPlace, read⟩, member, ⟨-, affordable, -⟩, chosen⟩ := greatest.1
    obtain ⟨_, other, _, _, first, second, rfl⟩ := mem_items_valuesOf.mp member
    obtain ⟨named, temporalNamed⟩ := (probe_affordable _ _ _ _ _).mp affordable
    subst named temporalNamed
    obtain rfl := place_unique here first
    obtain ⟨-, rfl⟩ := Prod.ext_iff.mp (Option.some.inj (here.symm.trans first))
    obtain rfl := place_unique there second
    have eligible := (best.best (Set.nonempty_iff_ne_empty.mpr fun empty => by
      have active := (best.fallback rfl).mpr ⟨rfl, empty⟩
      rw [fallback rfl, below] at active
      exact Bool.false_ne_true active)).1
    rw [spatial, temporal, ← chosen] at eligible
    obtain ⟨same, again⟩ := (probe_affordable _ _ _ _ _).mp (if_pos rfl ▸ eligible.2.2.1)
    exact ⟨same.symm, again.symm⟩

/-- **If no list is read behind its end whatever the bit rates are, the lists do not end at a layer that is inserted.** The
constraints are looked up for a layer that alone can be afforded. -/
theorem listed_of_choosesBest {layers : QualityLayers} {event : LayerInfoChangedEvent} (inOrder : InOrder layers)
    (chooses : ∀ name temporalName,
      (probe.notifyEvent event).ChoosesBest 0 (readingsOf name temporalName) (some layers) true (Inserted layers))
    {spatial temporal : ℕ} (countable : Countable spatial ∧ Countable temporal)
    (inserted : Inserted layers spatial temporal) : event.Lists spatial temporal := by
  obtain ⟨child, found, listed⟩ := inserted
  obtain ⟨stat, stored⟩ := mem_iff_exists.mp listed
  obtain ⟨spatialPlace, here⟩ := exists_place found
  obtain ⟨temporalPlace, there⟩ := exists_place stored
  obtain ⟨first, second⟩ := inOrder _ _ _ _ _ _ here there
  obtain rfl := Int.ofNat_inj.mp (toText_injective first)
  obtain rfl := Int.ofNat_inj.mp (toText_injective second)
  refine ((probe.notifyEvent event).valid_iff_listed countable.1 countable.2).mp fun access uses => ?_
  have affordable := (probe_affordable event (toText (spatial : ℕ)) (toText (temporal : ℕ)) _ _).mpr ⟨rfl, rfl⟩
  refine (chooses (toText (spatial : ℕ)) (toText (temporal : ℕ))).inside layers rfl access ?_
  rw [if_pos rfl, (agrees_scanLayers _ _ _ _).accesses]
  refine List.mem_flatMap.mpr ⟨_, mem_items_valuesOf.mpr ⟨_, _, _, _, here, there, rfl⟩, ?_⟩
  rw [accessesOf, if_pos ⟨Int.natCast_nonneg _, affordable⟩]
  exact uses

end QualityManager

/-! ### Runs -/

namespace LayerSelection

open QualityManager

/-- The layers that have been inserted along a run, as a relation. -/
def HasInserted (threshold : ℚ) (start : ℤ) (inputs : List Input) (spatialLayer temporalLayer : ℤ) : Prop :=
  (spatialLayer, temporalLayer) ∈ layersInserted threshold (.create start) inputs

/-- The node after a run has the layers that have been inserted. -/
theorem insertedNode_eq (threshold : ℚ) (start : ℤ) (inputs : List Input) :
    TidyNode (Machine.run (step threshold) (.create start) inputs).node ∧
      InsertedNode (Machine.run (step threshold) (.create start) inputs).node =
        HasInserted threshold start inputs := by
  have nothing : TidyNode (create start).node := fun _ same => absurd same (Option.not_mem_none _)
  obtain ⟨tidy, same⟩ := inserted_run threshold inputs (create start) nothing
  refine ⟨tidy, funext fun spatialLayer => funext fun temporalLayer => propext ((same _ _).trans ?_)⟩
  refine or_iff_left ?_
  rintro ⟨child, found, -⟩
  exact absurd found (by simp [create])

/-- Without a node nothing is chosen. -/
theorem not_choosesBest_none (event : LayerInfoChangedEvent) (inserted : ℤ → ℤ → Prop)
    (empty : ∀ spatialLayer temporalLayer,
    ¬inserted spatialLayer temporalLayer) :
    ¬ChoosesBest ({ probe with spatialLayer := 1 }.notifyEvent event) 0 (readingsOf [] []) none true inserted := by
  intro best
  have nothing := best.none (Set.eq_empty_iff_forall_notMem.mpr fun layer eligible => empty _ _ eligible.1)
  exact absurd (show (1 : ℤ) = 0 from nothing.1) (by decide)

/-- **After a run, the best layer is chosen by every manager that is not forced, and it stays inside the lists that it was
told, exactly when there is a node, the layers inserted are contiguous, and the lists end at none of them.** -/
theorem choosesBest_iff (threshold : ℚ) (start : ℤ) (inputs : List Input) (event : LayerInfoChangedEvent) :
    (∀ (manager : QualityManager) (margin : ℚ) (readings : QualityReadings) (tryHigherLayers : Bool), 0 ≤ margin →
      manager.initialized = true → manager.forcedLayers = false →
        ChoosesBest (manager.notifyEvent event) margin readings
          (Machine.run (step threshold) (.create start) inputs).node tryHigherLayers
          (HasInserted threshold start inputs)) ↔
      (Machine.run (step threshold) (.create start) inputs).node.isSome = true ∧
        Contiguous (HasInserted threshold start inputs) ∧
          ∀ spatialLayer temporalLayer : ℕ, HasInserted threshold start inputs spatialLayer temporalLayer →
            event.Lists spatialLayer temporalLayer := by
  obtain ⟨tidy, same⟩ := insertedNode_eq threshold start inputs
  rw [← same]
  generalize (Machine.run (step threshold) (.create start) inputs).node = node at tidy ⊢
  cases node with
  | none =>
      refine iff_of_false (fun chooses => ?_) fun both => Bool.false_ne_true both.1
      refine not_choosesBest_none event _ (fun spatialLayer temporalLayer inserted => ?_)
        (chooses { probe with spatialLayer := 1 } 0 (readingsOf [] []) true le_rfl rfl rfl)
      obtain ⟨child, found, -⟩ := inserted
      exact absurd found (by simp)
  | some layers =>
      have order := inOrder_iff_contiguous (tidy layers rfl)
      have countable : Contiguous (Inserted layers) → ∀ spatial temporal : ℕ, Inserted layers spatial temporal →
          QualityManager.Countable spatial ∧ QualityManager.Countable temporal := by
        intro contiguous spatial temporal inserted
        obtain ⟨⟨-, small, -, few⟩, -, -⟩ := contiguous _ _ inserted
        exact ⟨by unfold QualityManager.Countable; omega, by unfold QualityManager.Countable; omega⟩
      constructor
      · intro chooses
        have probes := fun name temporalName => chooses probe 0 (readingsOf name temporalName) true le_rfl rfl rfl
        have inOrder := inOrder_of_choosesBest probes
        have contiguous := order.mp inOrder
        exact ⟨rfl, contiguous, fun spatial temporal inserted =>
          listed_of_choosesBest inOrder probes (countable contiguous spatial temporal inserted) inserted⟩
      · rintro ⟨-, contiguous, listed⟩ manager margin readings tryHigherLayers - started free
        exact choosesBest_of_inOrder (manager.notifyEvent event) started free (order.mpr contiguous)
          (fun spatial temporal inserted => ⟨countable contiguous spatial temporal inserted,
            listed spatial temporal inserted⟩) margin readings tryHigherLayers

/-- A packet of the second of the streams of a video, its only temporal layer. -/
def secondStreamPacket : LayeredPacket :=
  { mediaPacket 0 with
    isKeyframe := true
    codec := "VP8"
    compatibleSpatialLayers := [1]
    compatibleTemporalLayers := [0]
    endingOfLayerFrame := true
    pictureId := 0
    tl0PicIdx := 0 }

/-- Only the second stream has been seen. -/
def secondStreamOnly : List Input :=
  [.notifyUpdate true, .write secondStreamPacket 0 (readingsOf (toText 1) (toText 0))]

/-- The only layer is spatial layer 1. It can be afforded, and is chosen as spatial layer 0. -/
theorem not_choosesBest_secondStreamOnly :
    (Machine.run (step 0) (.create 0) secondStreamOnly).node.isSome = true ∧
      ¬ChoosesBest probe 0 (readingsOf (toText 1) (toText 0)) (Machine.run (step 0) (.create 0) secondStreamOnly).node
        true (HasInserted 0 0 secondStreamOnly) := by
  refine ⟨by decide +kernel, fun chooses => ?_⟩
  have eligible : toLex ((1 : ℤ), (0 : ℤ)) ∈ probe.Eligible (if true = true then (0 : ℚ) else 0)
      (readingsOf (toText 1) (toText 0)).value (HasInserted 0 0 secondStreamOnly) :=
    ⟨show ((1 : ℤ), (0 : ℤ)) ∈ layersInserted 0 (.create 0) secondStreamOnly by decide +kernel, by decide,
      (probe_affordable ⟨[], [], []⟩ _ _ _ _).mpr ⟨rfl, rfl⟩, probe_meets ⟨[], [], []⟩ _ _⟩
  have inserted : HasInserted 0 0 secondStreamOnly _ _ := (chooses.best ⟨_, eligible⟩).1.1
  have absent : ((0 : ℤ), (0 : ℤ)) ∉ layersInserted 0 (.create 0) secondStreamOnly := by decide +kernel
  have chosen : (probe.selectLayer 0 (readingsOf (toText 1) (toText 0))
      (Machine.run (step 0) (.create 0) secondStreamOnly).node true).1.spatialLayer = 0 := by decide +kernel
  have temporal : (probe.selectLayer 0 (readingsOf (toText 1) (toText 0))
      (Machine.run (step 0) (.create 0) secondStreamOnly).node true).1.temporalLayer = 0 := by decide +kernel
  rw [chosen, temporal] at inserted
  exact absent inserted

end LayerSelection

end Erizo
