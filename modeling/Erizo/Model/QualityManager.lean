/-
**The quality manager** (`rtp/QualityManager.cpp`), **and the layers it chooses from**
(`rtp/LayerBitrateCalculationHandler.cpp`).

The handler of outgoing packets keeps a statistic for every spatial and temporal layer that it has seen, in the
children of the node `qualityLayers`: the children of a node are in the order of their names, which are texts. The
manager has statistics of its own in the same node. They have no children, and nothing looks at their values. From time
to time the manager chooses a layer: it goes through the node and counts.

What the statistics say, the estimated bit rate and the readings of the clock are arguments (`QualityReadings`). Bit
rates are compared in floating point by the source, and in rational numbers here; the margin for a higher layer is an
argument too, `kIncreaseLayerBitrateThreshold` in the source. What is logged is left out.
-/

import Erizo.Model.LayerDetectorHandler
import Erizo.Model.StringUtil

namespace Erizo

open Library

/-- The children of a `StatNode`. -/
abbrev NodeMap (ν : Type) := Std.ExtTreeMap Text ν compare

/-- The node `qualityLayers`: its children are the spatial layers, whose children are the statistics of the temporal
ones, and statistics without children. -/
abbrev QualityLayers := NodeMap (NodeMap MovingIntervalRateStat)

/-- `LayerBitrateCalculationHandler`. `initialized` says that it has found the statistics and the manager. -/
structure LayerBitrateCalculationHandler where
  enabled : Bool
  initialized : Bool
  deriving DecidableEq, Repr

namespace LayerBitrateCalculationHandler

/-- The constructor. -/
def create : LayerBitrateCalculationHandler := ⟨true, false⟩

/-- What `write` does for a spatial and a temporal layer of a packet: the first packet of a layer makes its statistic,
and is not counted. -/
def countLayer (length : ℤ) (now : UInt64) (layers : Option QualityLayers) (layer : ℤ × ℤ) : Option QualityLayers :=
  let layers := layers.getD ∅
  let temporalLayers := layers[toText layer.1]?.getD ∅
  let stat :=
    match temporalLayers[toText layer.2]? with
    | none => .create 100 30
    | some stat => stat.add now (UInt64.ofInt length)
  some (layers.insert (toText layer.1) (temporalLayers.insert (toText layer.2) stat))

/-- The layers of a packet. -/
def layersOf (packet : LayeredPacket) : List (ℤ × ℤ) :=
  packet.compatibleSpatialLayers.flatMap fun spatialLayer =>
    packet.compatibleTemporalLayers.map fun temporalLayer => (spatialLayer, temporalLayer)

/-- What `write` makes of the node. -/
def write (handler : LayerBitrateCalculationHandler) (packet : LayeredPacket) (now : UInt64)
    (layers : Option QualityLayers) : Option QualityLayers :=
  if handler.enabled && handler.initialized then (layersOf packet).foldl (countLayer packet.length now) layers
  else layers

end LayerBitrateCalculationHandler

/-- What the manager tells others. -/
inductive QualityNotice
  | setSimulcast
  | setBitrateFromMaxQualityLayer (bitrate : UInt64)
  | slideshowFallbackUpdate (active : Bool)
  | notifyUpdateToHandlers
  deriving DecidableEq, Repr

/-- What the manager finds: the values of the statistics of the layers, over their windows and over
`kActiveLayerInterval`; `senderBitrateEstimation`, if it is there; whether it finds the other services; the time. -/
structure QualityReadings where
  value : Text → Text → UInt64
  activeValue : Text → Text → UInt64
  senderBitrateEstimation : Option UInt64
  hasServices : Bool
  now : ℤ
  selected : ℤ

/-- `QualityManager`. -/
structure QualityManager where
  initialized : Bool
  enabled : Bool
  paddingEnabled : Bool
  forcedLayers : Bool
  freezeFallbackActive : Bool
  enableSlideshowBelowSpatialLayer : Bool
  spatialLayer : ℤ
  temporalLayer : ℤ
  maxActiveSpatialLayer : ℤ
  maxActiveTemporalLayer : ℤ
  slideshowBelowSpatialLayer : ℤ
  maxVideoWidth : ℤ
  maxVideoHeight : ℤ
  maxVideoFrameRate : ℤ
  currentEstimatedBitrate : UInt64
  lastQualityCheck : ℤ
  lastActivityCheck : ℤ
  videoFrameWidthList : List UInt32
  videoFrameHeightList : List UInt32
  videoFrameRateList : List UInt64
  deriving DecidableEq, Repr

namespace QualityManager

/-- `kMinLayerSwitchInterval`. -/
def minLayerSwitchInterval : ℤ := 10000000000

/-- `kActiveLayerInterval`. -/
def activeLayerInterval : ℤ := 500000000

/-- The constructor. -/
def create (now : ℤ) : QualityManager where
  initialized := false
  enabled := false
  paddingEnabled := false
  forcedLayers := false
  freezeFallbackActive := false
  enableSlideshowBelowSpatialLayer := false
  spatialLayer := 0
  temporalLayer := 0
  maxActiveSpatialLayer := 0
  maxActiveTemporalLayer := 0
  slideshowBelowSpatialLayer := -1
  maxVideoWidth := -1
  maxVideoHeight := -1
  maxVideoFrameRate := -1
  currentEstimatedBitrate := 0
  lastQualityCheck := now
  lastActivityCheck := now
  videoFrameWidthList := []
  videoFrameHeightList := []
  videoFrameRateList := []

/-- The manager, the node, and what others are told. -/
abbrev Outcome := QualityManager × Option QualityLayers × List QualityNotice

variable (manager : QualityManager)

/-- `notifyEvent`. -/
def notifyEvent (event : LayerInfoChangedEvent) : QualityManager :=
  { manager with
    videoFrameWidthList := event.videoFrameWidthList
    videoFrameHeightList := event.videoFrameHeightList
    videoFrameRateList := event.videoFrameRateList }

/-! ### Constraints -/

/-- `static_cast<uint>`. -/
def toUint (layer : ℤ) : ℕ := (layer % 2 ^ 32).toNat

/-- An element of a list as an `int64_t`. -/
def widthAt (list : List UInt32) (layer : ℤ) : ℤ := (list.getD (Access.toIndex layer) 0).toNat

/-- An element of the list of frame rates as an `int64_t`. -/
def rateAt (list : List UInt64) (layer : ℤ) : ℤ := Int.bmod (list.getD (Access.toIndex layer) 0).toNat (2 ^ 64)

/-- The end of `doesLayerMeetConstraints`. -/
def meetsLimits (layerWidth layerHeight layerFrameRate : ℤ) : Bool :=
  let maxResolutionNotSet := manager.maxVideoWidth = -1 ∧ manager.maxVideoHeight = -1
  let maxFrameRateNotSet := manager.maxVideoFrameRate = -1
  let maxVideoWidth := max manager.maxVideoWidth (widthAt manager.videoFrameWidthList 0)
  let maxVideoHeight := max manager.maxVideoHeight (widthAt manager.videoFrameHeightList 0)
  let maxVideoFrameRate := max manager.maxVideoFrameRate (rateAt manager.videoFrameRateList 0)
  (maxResolutionNotSet ∨ maxVideoWidth ≥ layerWidth ∨ maxVideoHeight ≥ layerHeight) ∧
    (maxFrameRateNotSet ∨ maxVideoFrameRate ≥ layerFrameRate)

/-- The uses of an index in each list. -/
def uses (spatialLayer temporalLayer : ℤ) : List Access :=
  [Access.of manager.videoFrameWidthList spatialLayer, Access.of manager.videoFrameHeightList spatialLayer,
    Access.of manager.videoFrameRateList temporalLayer]

/-- `doesLayerMeetConstraints`, with the indices it uses. -/
def doesLayerMeetConstraints (spatialLayer temporalLayer : ℤ) : Bool × List Access :=
  if toUint spatialLayer > manager.videoFrameWidthList.length ∨
      toUint spatialLayer > manager.videoFrameHeightList.length ∨
      toUint temporalLayer > manager.videoFrameRateList.length then (true, [])
  else if spatialLayer = 0 ∧ temporalLayer = 0 then (true, [])
  else
    let layerWidth := widthAt manager.videoFrameWidthList spatialLayer
    let layerHeight := widthAt manager.videoFrameHeightList spatialLayer
    let layerFrameRate := rateAt manager.videoFrameRateList temporalLayer
    if layerWidth = 0 ∨ layerHeight = 0 ∨ layerFrameRate = 0 then (true, manager.uses spatialLayer temporalLayer)
    else
      (manager.meetsLimits layerWidth layerHeight layerFrameRate,
        manager.uses spatialLayer temporalLayer ++ manager.uses 0 0)

/-! ### The choice of a layer -/

/-- `insertStat` of a statistic of the manager's own. -/
def insertStat (layers : Option QualityLayers) (name : String) : Option QualityLayers :=
  some ((layers.getD ∅).insert name.toList ∅)

/-- `setPadding`. -/
def setPadding (enabled : Bool) : QualityManager × List QualityNotice :=
  if manager.paddingEnabled ≠ enabled then ({ manager with paddingEnabled := enabled }, [.notifyUpdateToHandlers])
  else (manager, [])

/-- `isInMaxLayer`. -/
def isInMaxLayer : Bool :=
  manager.spatialLayer ≥ manager.maxActiveSpatialLayer ∧ manager.temporalLayer ≥ manager.maxActiveTemporalLayer

/-- `min_valid_spatial_layer`. -/
def minValidSpatialLayer : ℤ :=
  let minRequestedSpatialLayer :=
    if manager.enableSlideshowBelowSpatialLayer then max manager.slideshowBelowSpatialLayer 0 else 0
  min minRequestedSpatialLayer manager.maxActiveSpatialLayer

/-- The variables of the loops of `selectLayer`, with the indices that have been used for the constraints. -/
structure Scan where
  auxSpatialLayer : ℤ
  auxTemporalLayer : ℤ
  nextSpatialLayer : ℤ
  nextTemporalLayer : ℤ
  belowMinLayer : Bool
  layerCappedByConstraints : Bool
  accesses : List Access

/-- The value is that of a layer that is sent, and the estimated bit rate has room for it. -/
def Affordable (margin : ℚ) (value : UInt64) : Prop :=
  value ≠ 0 ∧ (1 + margin) * value.toNat < manager.currentEstimatedBitrate.toNat

instance (margin : ℚ) (value : UInt64) : Decidable (manager.Affordable margin value) :=
  inferInstanceAs (Decidable (_ ∧ _))

/-- The body of the inner loop. -/
def scanTemporalLayer (margin : ℚ) (scan : Scan) (value : UInt64) : Scan :=
  let scan :=
    if manager.Affordable margin value then
      let (meets, accesses) := manager.doesLayerMeetConstraints scan.auxSpatialLayer scan.auxTemporalLayer
      let scan := { scan with accesses := scan.accesses ++ accesses }
      if meets then
        { scan with
          nextTemporalLayer := scan.auxTemporalLayer
          nextSpatialLayer := scan.auxSpatialLayer
          belowMinLayer := false }
      else { scan with layerCappedByConstraints := true }
    else scan
  { scan with auxTemporalLayer := scan.auxTemporalLayer + 1 }

/-- The body of the outer loop, for a child with the values of its children. -/
def scanSpatialLayer (margin : ℚ) (scan : Scan) (values : List UInt64) : Scan :=
  let scan :=
    if scan.auxSpatialLayer ≥ manager.minValidSpatialLayer then values.foldl (manager.scanTemporalLayer margin) scan
    else scan
  { scan with auxTemporalLayer := 0, auxSpatialLayer := scan.auxSpatialLayer + 1 }

/-- The values of the statistics, in the order of the node. -/
def valuesOf (value : Text → Text → UInt64) (layers : QualityLayers) : List (List UInt64) :=
  layers.toList.map fun (spatialName, temporalLayers) =>
    temporalLayers.toList.map fun (temporalName, _) => value spatialName temporalName

/-- The loops of `selectLayer`. -/
def scanLayers (margin : ℚ) (value : Text → Text → UInt64) (layers : QualityLayers) : Scan :=
  (valuesOf value layers).foldl (manager.scanSpatialLayer margin)
    { auxSpatialLayer := 0
      auxTemporalLayer := 0
      nextSpatialLayer := manager.minValidSpatialLayer
      nextTemporalLayer := 0
      belowMinLayer := true
      layerCappedByConstraints := false
      accesses := [] }

/-- What `selectLayer` does when the slideshow is to begin or to end. -/
def updateFallback (belowMinLayer tryHigherLayers : Bool) : QualityManager × List QualityNotice :=
  if belowMinLayer ≠ manager.freezeFallbackActive ∧ (belowMinLayer ∨ tryHigherLayers) then
    ({ manager with freezeFallbackActive := belowMinLayer },
      .notifyUpdateToHandlers ::
        if manager.enableSlideshowBelowSpatialLayer ∧ manager.slideshowBelowSpatialLayer ≥ 0 then
          [.slideshowFallbackUpdate belowMinLayer]
        else [])
  else (manager, [])

/-- `setTemporalLayer`. -/
def setTemporalLayer (layers : Option QualityLayers) (temporalLayer : ℤ) : QualityManager × Option QualityLayers :=
  (if manager.forcedLayers then manager else { manager with temporalLayer := temporalLayer },
    insertStat layers "selectedTemporalLayer")

/-- `setSpatialLayer`. -/
def setSpatialLayer (layers : Option QualityLayers) (spatialLayer : ℤ) : QualityManager × Option QualityLayers :=
  (if manager.forcedLayers then manager else { manager with spatialLayer := spatialLayer },
    insertStat layers "selectedSpatialLayer")

/-- The layer is switched, if it is another one. -/
def switchLayer (layers : Option QualityLayers) (nextSpatialLayer nextTemporalLayer : ℤ) :
    QualityManager × Option QualityLayers :=
  if nextTemporalLayer ≠ manager.temporalLayer ∨ nextSpatialLayer ≠ manager.spatialLayer then
    let (manager, layers) := manager.setTemporalLayer layers nextTemporalLayer
    manager.setSpatialLayer layers nextSpatialLayer
  else (manager, layers)

/-- `selectLayer`. -/
def selectLayer (increaseLayerBitrateThreshold : ℚ) (readings : QualityReadings) (node : Option QualityLayers)
    (tryHigherLayers : Bool) : Outcome :=
  match node with
  | none => (manager, node, [])
  | some layers =>
      if !manager.initialized then (manager, node, [])
      else
        let margin := if tryHigherLayers then increaseLayerBitrateThreshold else 0
        let scan := manager.scanLayers margin readings.value layers
        let belowMinLayer := scan.belowMinLayer && manager.enableSlideshowBelowSpatialLayer
        let manager := { manager with lastQualityCheck := readings.selected }
        let (manager, fallback) := manager.updateFallback belowMinLayer tryHigherLayers
        let (manager, node) := manager.switchLayer node scan.nextSpatialLayer scan.nextTemporalLayer
        let node := insertStat node "qualityCappedByConstraints"
        let (manager, padding) := manager.setPadding (!manager.isInMaxLayer && !scan.layerCappedByConstraints)
        (manager, node, .setSimulcast :: fallback ++ padding)

/-! ### Active layers -/

/-- A layer as the name of a child, by way of a `uint64_t`. -/
def childName (layer : ℤ) : Text := toText (layer % 2 ^ 64)

/-- `getInstantLayerBitrate`. -/
def getInstantLayerBitrate (readings : QualityReadings) (node : Option QualityLayers) (spatialLayer temporalLayer : ℤ) :
    UInt64 :=
  match (node.getD ∅)[childName spatialLayer]? with
  | none => 0
  | some temporalLayers =>
      if (temporalLayers[childName temporalLayer]?).isSome then
        readings.activeValue (childName spatialLayer) (childName temporalLayer)
      else 0

/-- The highest number, up to some, that is zero or active. -/
def highestActive (active : ℕ → Bool) : ℕ → ℕ
  | 0 => 0
  | layer + 1 => if active (layer + 1) then layer + 1 else highestActive active layer

/-- `calculateMaxActiveLayer`. -/
def calculateMaxActiveLayer (readings : QualityReadings) (node : Option QualityLayers) : Outcome :=
  let maxActiveSpatialLayer := highestActive (fun layer => getInstantLayerBitrate readings node layer 0 > 0) 5
  let maxActiveTemporalLayer :=
    highestActive (fun layer => getInstantLayerBitrate readings node maxActiveSpatialLayer layer > 0) 5
  let bitrate := getInstantLayerBitrate readings node maxActiveSpatialLayer maxActiveTemporalLayer
  ({ manager with
      maxActiveSpatialLayer := maxActiveSpatialLayer
      maxActiveTemporalLayer := maxActiveTemporalLayer },
    insertStat (insertStat node "maxActiveSpatialLayer") "maxActiveTemporalLayer",
    [.setBitrateFromMaxQualityLayer bitrate])

/-! ### Calls -/

/-- The part of `notifyQualityUpdate` before the layers are looked at. -/
def findServices (readings : QualityReadings) : QualityManager :=
  { manager with
    initialized := manager.initialized || (readings.hasServices && readings.senderBitrateEstimation.isSome) }

/-- The part of `notifyQualityUpdate` that looks for the active layers. -/
def checkActivity (readings : QualityReadings) (node : Option QualityLayers) : Outcome :=
  if readings.now - manager.lastActivityCheck > activeLayerInterval then
    let (manager, node, notices) := manager.calculateMaxActiveLayer readings node
    ({ manager with lastActivityCheck := readings.now }, node, notices)
  else (manager, node, [])

/-- The part of `notifyQualityUpdate` that may choose a layer. -/
def checkQuality (increaseLayerBitrateThreshold : ℚ) (readings : QualityReadings) (node : Option QualityLayers)
    (estimatedIsUnderLayerBitrate : Bool) : Outcome :=
  let layerIsActive : Bool := manager.spatialLayer ≤ manager.maxActiveSpatialLayer
  if !layerIsActive || (estimatedIsUnderLayerBitrate && !manager.freezeFallbackActive) then
    manager.selectLayer increaseLayerBitrateThreshold readings node false
  else if readings.now - manager.lastQualityCheck > minLayerSwitchInterval then
    manager.selectLayer increaseLayerBitrateThreshold readings node true
  else (manager, node, [])

/-- `notifyQualityUpdate`. The node is made when it is looked for. -/
def notifyQualityUpdate (increaseLayerBitrateThreshold : ℚ) (readings : QualityReadings) (node : Option QualityLayers) :
    Outcome :=
  if !manager.enabled then (manager, node, [])
  else
    let manager := manager.findServices readings
    if !manager.initialized || manager.forcedLayers then (manager, node, [])
    else
      let manager := { manager with currentEstimatedBitrate := readings.senderBitrateEstimation.getD 0 }
      let node := some (node.getD ∅)
      let estimatedIsUnderLayerBitrate : Bool :=
        manager.currentEstimatedBitrate <
          getInstantLayerBitrate readings node manager.spatialLayer manager.temporalLayer
      let (manager, node, active) := manager.checkActivity readings node
      let (manager, node, notices) :=
        manager.checkQuality increaseLayerBitrateThreshold readings node estimatedIsUnderLayerBitrate
      (manager, node, active ++ notices)

/-- `forceLayers`. -/
def forceLayers (spatialLayer temporalLayer : ℤ) : QualityManager × List QualityNotice :=
  if spatialLayer = -1 ∨ temporalLayer = -1 then ({ manager with forcedLayers := false }, [])
  else
    let (manager, notices) := { manager with forcedLayers := true }.setPadding false
    ({ manager with spatialLayer := spatialLayer, temporalLayer := temporalLayer }, notices)

/-- `enableSlideShowBelowSpatialLayer`. -/
def enableSlideShowBelowSpatialLayer (increaseLayerBitrateThreshold : ℚ) (readings : QualityReadings)
    (node : Option QualityLayers) (enabled : Bool) (spatialLayer : ℤ) : Outcome :=
  let manager := { manager with
    enableSlideshowBelowSpatialLayer := enabled
    slideshowBelowSpatialLayer := spatialLayer }
  if !manager.initialized then (manager, node, [])
  else
    let (manager, node, notices) := { manager with freezeFallbackActive := false }.selectLayer
      increaseLayerBitrateThreshold readings node true
    (manager, node, .slideshowFallbackUpdate false :: notices)

/-- `setVideoConstraints`. -/
def setVideoConstraints (increaseLayerBitrateThreshold : ℚ) (readings : QualityReadings) (node : Option QualityLayers)
    (maxVideoWidth maxVideoHeight maxVideoFrameRate : ℤ) : Outcome :=
  { manager with
    maxVideoWidth := maxVideoWidth
    maxVideoHeight := maxVideoHeight
    maxVideoFrameRate := maxVideoFrameRate }.selectLayer increaseLayerBitrateThreshold readings node true

/-- `enable`. -/
def enable : QualityManager × List QualityNotice :=
  if manager.forcedLayers then ({ manager with enabled := true }, [])
  else { manager with enabled := true }.setPadding true

/-- `disable`. -/
def disable : QualityManager × List QualityNotice := { manager with enabled := false }.setPadding false

end QualityManager

/-! ### The handler and the manager together -/

/-- The handler of outgoing packets and the manager of one stream, and the node they share. -/
structure LayerSelection where
  handler : LayerBitrateCalculationHandler
  manager : QualityManager
  node : Option QualityLayers

namespace LayerSelection

/-- At the start there is no node. -/
def create (now : ℤ) : LayerSelection := ⟨.create, .create now, none⟩

/-- What the handler and the manager are called for. -/
inductive Input
  | write (packet : LayeredPacket) (now : UInt64) (readings : QualityReadings)
  | enableHandler
  | disableHandler
  | notifyUpdate (hasServices : Bool)
  | enableManager
  | disableManager
  | notifyEvent (event : LayerInfoChangedEvent)
  | forceLayers (spatialLayer temporalLayer : ℤ)
  | enableSlideShowBelowSpatialLayer (readings : QualityReadings) (enabled : Bool) (spatialLayer : ℤ)
  | setVideoConstraints (readings : QualityReadings) (maxVideoWidth maxVideoHeight maxVideoFrameRate : ℤ)

variable (selection : LayerSelection)

/-- The manager was called. -/
def withOutcome (outcome : QualityManager.Outcome) : LayerSelection × List QualityNotice :=
  ({ selection with manager := outcome.1, node := outcome.2.1 }, outcome.2.2)

/-- `LayerBitrateCalculationHandler::write`. -/
def write (increaseLayerBitrateThreshold : ℚ) (packet : LayeredPacket) (now : UInt64) (readings : QualityReadings) :
    LayerSelection × List QualityNotice :=
  if selection.handler.enabled && selection.handler.initialized then
    selection.withOutcome (selection.manager.notifyQualityUpdate increaseLayerBitrateThreshold readings
      (selection.handler.write packet now selection.node))
  else (selection, [])

/-- A call. -/
def step (increaseLayerBitrateThreshold : ℚ) (selection : LayerSelection) : Input → LayerSelection × List QualityNotice
  | .write packet now readings => selection.write increaseLayerBitrateThreshold packet now readings
  | .enableHandler => ({ selection with handler := { selection.handler with enabled := true } }, [])
  | .disableHandler => ({ selection with handler := { selection.handler with enabled := false } }, [])
  | .notifyUpdate hasServices =>
      ({ selection with
          handler := { selection.handler with initialized := selection.handler.initialized || hasServices } }, [])
  | .enableManager =>
      let (manager, notices) := selection.manager.enable
      ({ selection with manager := manager }, notices)
  | .disableManager =>
      let (manager, notices) := selection.manager.disable
      ({ selection with manager := manager }, notices)
  | .notifyEvent event => ({ selection with manager := selection.manager.notifyEvent event }, [])
  | .forceLayers spatialLayer temporalLayer =>
      let (manager, notices) := selection.manager.forceLayers spatialLayer temporalLayer
      ({ selection with manager := manager }, notices)
  | .enableSlideShowBelowSpatialLayer readings enabled spatialLayer =>
      selection.withOutcome (selection.manager.enableSlideShowBelowSpatialLayer increaseLayerBitrateThreshold readings
        selection.node enabled spatialLayer)
  | .setVideoConstraints readings maxVideoWidth maxVideoHeight maxVideoFrameRate =>
      selection.withOutcome (selection.manager.setVideoConstraints increaseLayerBitrateThreshold readings selection.node
        maxVideoWidth maxVideoHeight maxVideoFrameRate)

end LayerSelection

end Erizo
