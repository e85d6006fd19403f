/-
**A pipeline of handlers** (`pipeline/Pipeline.cpp`, `Pipeline-inl.h`, `HandlerContext-inl.h`, `Handler.h`).

Every handler is in a context. The pipeline owns its contexts, and keeps those for reading and those for writing in
lists of their own; `finalize` links each context to the one that comes next each way. Packets follow the links, not
the lists: a context that was removed is destroyed, and a link that still leads to it is not to be followed.

A handler works on the state of all handlers, `σ`, and passes packets on in both ways from wherever it stands.
-/

import Mathlib.Data.List.Basic
import Mathlib.Logic.Function.Basic

namespace Erizo

/-- `HandlerDir`. -/
inductive HandlerDir
  | inbound
  | outbound
  | both
  deriving DecidableEq, Repr

/-- The two ways through a pipeline. -/
inductive Way
  | read
  | write
  deriving DecidableEq, Repr

/-- The contexts of a direction are on a way. -/
def HandlerDir.goes : HandlerDir → Way → Bool
  | .both, _ => true
  | .inbound, .read => true
  | .outbound, .write => true
  | _, _ => false

variable {σ π : Type}

/-- What a handler does with a packet: it looks at the state and changes it, and passes packets on. -/
inductive Reaction (σ π : Type)
  | done
  | work (change : σ → σ) (next : σ → Reaction σ π)
  | fire (way : Way) (packet : π) (next : Reaction σ π)

/-- What comes of a reaction, when each packet that is passed on has been taken care of before the next step. -/
def Reaction.perform {ε : Type} (fired : Way → π → σ → Except ε σ) : Reaction σ π → σ → Except ε σ
  | .done, state => .ok state
  | .work change next, state => (next (change state)).perform fired (change state)
  | .fire way packet next, state => (fired way packet state).bind (next.perform fired)

/-- A handler. -/
structure Handler (σ π : Type) where
  dir : HandlerDir
  /-- `read`, or `write`. -/
  on : Way → π → Reaction σ π

/-- `PipelineContext`: where it is, and the handler in it. -/
structure PipelineContext (σ π : Type) where
  address : ℕ
  handler : Handler σ π

/-- Why a packet did not get through. -/
inductive Stuck
  /-- A link led to a context that was destroyed. -/
  | dangling
  /-- The calls were nested more deeply than is allowed for. -/
  | depth
  deriving DecidableEq, Repr

/-- `Pipeline`. Contexts are made at addresses of their own. -/
structure Pipeline (σ π : Type) where
  ctxs : List (PipelineContext σ π)
  inCtxs : List (PipelineContext σ π)
  outCtxs : List (PipelineContext σ π)
  front : Option (PipelineContext σ π)
  back : Option (PipelineContext σ π)
  /-- `nextIn_` of the context at an address. -/
  nextIn : ℕ → Option (PipelineContext σ π)
  nextOut : ℕ → Option (PipelineContext σ π)
  made : ℕ

namespace Pipeline

/-- `create`. -/
def create : Pipeline σ π := ⟨[], [], [], none, none, fun _ => none, fun _ => none, 0⟩

variable (pipeline : Pipeline σ π)

/-- An `insert` at the front or the back. -/
def insert (front : Bool) (ctx : PipelineContext σ π) (ctxs : List (PipelineContext σ π)) :
    List (PipelineContext σ π) :=
  if front then ctx :: ctxs else ctxs ++ [ctx]

/-- `addHelper`, of a context for a handler. -/
def addHelper (handler : Handler σ π) (front : Bool) : Pipeline σ π :=
  let ctx := ⟨pipeline.made, handler⟩
  { pipeline with
    made := pipeline.made + 1
    ctxs := insert front ctx pipeline.ctxs
    inCtxs := if handler.dir.goes .read then insert front ctx pipeline.inCtxs else pipeline.inCtxs
    outCtxs := if handler.dir.goes .write then insert front ctx pipeline.outCtxs else pipeline.outCtxs }

/-- `addFront`. -/
def addFront (handler : Handler σ π) : Pipeline σ π := pipeline.addHelper handler true

/-- `addBack`. -/
def addBack (handler : Handler σ π) : Pipeline σ π := pipeline.addHelper handler false

/-- An `erase` of what is found. -/
def erase (ctx : PipelineContext σ π) (ctxs : List (PipelineContext σ π)) : List (PipelineContext σ π) :=
  ctxs.eraseP fun other => other.address = ctx.address

/-- `removeAt`. -/
def removeAt (ctx : PipelineContext σ π) : Pipeline σ π :=
  { pipeline with
    ctxs := erase ctx pipeline.ctxs
    inCtxs := if ctx.handler.dir.goes .read then erase ctx pipeline.inCtxs else pipeline.inCtxs
    outCtxs := if ctx.handler.dir.goes .write then erase ctx pipeline.outCtxs else pipeline.outCtxs }

/-- `removeFront`. -/
def removeFront : Pipeline σ π :=
  match pipeline.ctxs.head? with
  | none => pipeline
  | some ctx => pipeline.removeAt ctx

/-- `removeBack`. -/
def removeBack : Pipeline σ π :=
  match pipeline.ctxs.getLast? with
  | none => pipeline
  | some ctx => pipeline.removeAt ctx

/-- The loop of `removeHelper` over the contexts from the iterator on: after a removal the iterator is at the next
context, and goes on from it all the same. -/
def removeFrom (removes : Handler σ π → Bool) : List (PipelineContext σ π) → Pipeline σ π → Pipeline σ π
  | [], pipeline => pipeline
  | [ctx], pipeline => if removes ctx.handler then pipeline.removeAt ctx else pipeline
  | ctx :: next :: rest, pipeline =>
      if removes ctx.handler then removeFrom removes rest (pipeline.removeAt ctx)
      else removeFrom removes (next :: rest) pipeline

/-- `removeHelper`: `remove<H>()` removes by the type of the handler, `remove(H*)` also by its address. -/
def removeHelper (removes : Handler σ π → Bool) : Pipeline σ π := removeFrom removes pipeline.ctxs pipeline

/-- `setNextIn` or `setNextOut`, of each context in a list to the one behind it. -/
def link (next : ℕ → Option (PipelineContext σ π)) : List (PipelineContext σ π) → ℕ → Option (PipelineContext σ π)
  | [] => next
  | ctx :: rest => link (Function.update next ctx.address rest.head?) rest

/-- `finalize`. -/
def finalize : Pipeline σ π :=
  { pipeline with
    front := pipeline.inCtxs.head?
    nextIn := link pipeline.nextIn pipeline.inCtxs
    back := pipeline.outCtxs.getLast?
    nextOut := link pipeline.nextOut pipeline.outCtxs.reverse }

/-- The link of a context on a way. -/
def next (way : Way) (ctx : PipelineContext σ π) : Option (PipelineContext σ π) :=
  match way with
  | .read => pipeline.nextIn ctx.address
  | .write => pipeline.nextOut ctx.address

/-- A packet arrives where a link leads, and the handler there reacts. A context for one way only cannot fire the
other way. -/
def call : ℕ → Option (PipelineContext σ π) → Way → π → σ → Except Stuck σ
  | _, none, _, _, state => .ok state
  | 0, some _, _, _, _ => .error .depth
  | depth + 1, some ctx, way, packet, state =>
      if pipeline.ctxs.any fun other => other.address = ctx.address then
        (ctx.handler.on way packet).perform
          (fun on packet state =>
            if ctx.handler.dir.goes on then call depth (pipeline.next on ctx) on packet state else .ok state)
          state
      else .error .dangling

/-- `read`. -/
def read (depth : ℕ) (packet : π) (state : σ) : Except Stuck σ := pipeline.call depth pipeline.front .read packet state

/-- `write`. -/
def write (depth : ℕ) (packet : π) (state : σ) : Except Stuck σ := pipeline.call depth pipeline.back .write packet state

/-- What is done to a pipeline. -/
inductive Op (σ π : Type)
  | addFront (handler : Handler σ π)
  | addBack (handler : Handler σ π)
  | removeFront
  | removeBack
  | remove (removes : Handler σ π → Bool)
  | finalize

def step (pipeline : Pipeline σ π) : Op σ π → Pipeline σ π × Unit
  | .addFront handler => (pipeline.addFront handler, ())
  | .addBack handler => (pipeline.addBack handler, ())
  | .removeFront => (pipeline.removeFront, ())
  | .removeBack => (pipeline.removeBack, ())
  | .remove removes => (pipeline.removeHelper removes, ())
  | .finalize => (pipeline.finalize, ())

end Pipeline

end Erizo
