/-
**An ICE connection** (`IceConnection.cpp`, `LibNiceConnection.cpp`, `NicerConnection.cpp`).

The ICE library calls back with what it finds out; `updateIceState` lets only a later state through and tells
the listener, if there is one. A callback gives the connection it leaves and what the listener is told.
-/

import Mathlib.Logic.Function.Basic
import Mathlib.Tactic.Common

namespace Erizo

/-- `IceState`. -/
inductive IceState
  | initial
  | candidatesReceived
  | ready
  | finished
  | failed
  deriving DecidableEq, Repr

/-- The number of a state. -/
def IceState.value : IceState → ℕ
  | initial => 0
  | candidatesReceived => 1
  | ready => 2
  | finished => 3
  | failed => 4

/-- `IceConnection`, with the fields of `LibNiceConnection` and `NicerConnection`. -/
structure IceConnection where
  iceState : IceState
  /-- Whether `listener_` is set. -/
  listener : Bool
  iceComponents : ℕ
  compStateList : ℕ → IceState
  receivedLastCandidate : Bool
  /-- Whether the connection is a `NicerConnection`. -/
  useNicer : Bool

namespace IceConnection

/-- The constructor. -/
def create (iceComponents : ℕ) (useNicer : Bool) : IceConnection where
  iceState := .initial
  listener := false
  iceComponents := iceComponents
  compStateList := fun _ => .initial
  receivedLastCandidate := false
  useNicer := useNicer

/-- `IceConnection::updateIceState`. -/
def updateIceState (ice : IceConnection) (state : IceState) : IceConnection × Option IceState :=
  if state.value ≤ ice.iceState.value then (ice, none)
  else
    let ice := { ice with iceState := state }
    if state = .finished then (ice, none)
    else (ice, if ice.listener then some state else none)

/-- `gatheringDone`, of both libraries. -/
def gatheringDone (ice : IceConnection) : IceConnection × Option IceState :=
  ice.updateIceState .candidatesReceived

/-- All components of the stream are in a state. -/
def allComponents (ice : IceConnection) (state : IceState) : Bool :=
  (List.range' 1 ice.iceComponents).all fun component => ice.compStateList component = state

/-- `LibNiceConnection::updateComponentState`. -/
def updateComponentState (ice : IceConnection) (componentId : ℕ) (state : IceState) :
    IceConnection × Option IceState :=
  let ice := { ice with compStateList := Function.update ice.compStateList componentId state }
  match state with
  | .ready => if ice.allComponents .ready then ice.updateIceState .ready else (ice, none)
  | .failed =>
      if ice.receivedLastCandidate then
        if ice.allComponents .failed then ice.updateIceState .failed else (ice, none)
      else (ice, none)
  | _ => ice.updateIceState state

/-- `NicerConnection::ice_connected`. -/
def iceConnected (ice : IceConnection) : IceConnection × Option IceState :=
  if ice.iceState = .failed then (ice, none) else ice.updateIceState .ready

/-- `NicerConnection::stream_failed`. -/
def streamFailed (ice : IceConnection) : IceConnection × Option IceState :=
  ice.updateIceState .failed

/-- `close`: that of `LibNiceConnection`, or of `NicerConnection`, which leaves the work to `closeSync`. -/
def close (ice : IceConnection) : IceConnection × Option IceState :=
  if ice.useNicer then (ice, none)
  else if ice.iceState = .finished then (ice, none)
  else
    let (ice, told) := ice.updateIceState .finished
    ({ ice with listener := false }, told)

/-- `NicerConnection::closeSync`, run later. -/
def closeSync (ice : IceConnection) : IceConnection :=
  { ice with listener := false }

/-- What the ICE library reports. -/
inductive Callback
  | gatheringDone
  | newSelectedPair (componentId : ℕ)
  | componentFailed (componentId : ℕ)
  | iceConnected
  | streamFailed
  deriving DecidableEq, Repr

/-- A callback; those of the library that is not in use never come. -/
def callback (ice : IceConnection) (reported : Callback) : IceConnection × Option IceState :=
  match reported, ice.useNicer with
  | .gatheringDone, _ => ice.gatheringDone
  | .newSelectedPair componentId, false => ice.updateComponentState componentId .ready
  | .componentFailed componentId, false => ice.updateComponentState componentId .failed
  | .iceConnected, true => ice.iceConnected
  | .streamFailed, true => ice.streamFailed
  | _, _ => (ice, none)

end IceConnection

end Erizo
