/-
**Packets follow the line-up of the last `finalize`.**

A pipeline's own meaning is its list of contexts: a packet goes from one to the next on its way, and what a handler
passes on goes from where it stands, either way (`through`). The code follows links instead, which only `finalize`
sets. So what is added later is not reached, and a context removed later still is, though it has been destroyed.

* `Sound`, `Linked`: the lists for reading and for writing are those of the contexts, and the links those of the
  contexts at the last `finalize`.
* `read_follows_finalize`: the links against the line-up, over all runs.
* `removeHelper_leaves`: removing by type leaves a context that stands right behind one that was removed.
-/

import Erizo.Library.Machine
import Erizo.Model.Pipeline
import Mathlib.Data.List.Nodup

namespace Erizo

open Library

variable {σ π : Type}

namespace Pipeline

/-! ### The line-up -/

/-- The first context ahead that is on a way, with the contexts that were passed, nearest first. -/
def seek (way : Way) (passed : List (PipelineContext σ π)) :
    List (PipelineContext σ π) → Option (List (PipelineContext σ π) × PipelineContext σ π × List (PipelineContext σ π))
  | [] => none
  | ctx :: ahead => if ctx.handler.dir.goes way then some (passed, ctx, ahead) else seek way (ctx :: passed) ahead

/-- The next context on a way between those before and those behind, both nearest first: reading goes on to what is
behind, writing to what is before. -/
def toward (way : Way) (before behind : List (PipelineContext σ π)) :
    Option (List (PipelineContext σ π) × PipelineContext σ π × List (PipelineContext σ π)) :=
  match way with
  | .read => seek .read before behind
  | .write => (seek .write behind before).map fun found => (found.2.2, found.2.1, found.1)

/-- A packet goes through a line-up from a place in it. Only the contexts that are there can be called. -/
def through (there : PipelineContext σ π → Bool) :
    ℕ → Way → List (PipelineContext σ π) → List (PipelineContext σ π) → π → σ → Except Stuck σ
  | 0, way, before, behind, _, state =>
      match toward way before behind with
      | none => .ok state
      | some _ => .error .depth
  | depth + 1, way, before, behind, packet, state =>
      match toward way before behind with
      | none => .ok state
      | some (before, ctx, behind) =>
          if there ctx then
            (ctx.handler.on way packet).perform
              (fun on packet state =>
                if ctx.handler.dir.goes on then
                  match on with
                  | .read => through there depth .read (ctx :: before) behind packet state
                  | .write => through there depth .write before (ctx :: behind) packet state
                else .ok state)
              state
          else .error .dangling

/-- Looking for the next context on a way. -/
theorem seek_spec (way : Way) (passed ahead : List (PipelineContext σ π)) :
    (seek way passed ahead = none ∧ (ahead.filter (·.handler.dir.goes way)).head? = none) ∨
      ∃ found ctx rest, seek way passed ahead = some (found, ctx, rest) ∧ ctx.handler.dir.goes way = true ∧
        (ahead.filter (·.handler.dir.goes way)).head? = some ctx ∧
        found.reverse ++ ctx :: rest = passed.reverse ++ ahead := by
  induction ahead generalizing passed with
  | nil => exact Or.inl ⟨rfl, rfl⟩
  | cons ctx rest ih =>
      cases goes : ctx.handler.dir.goes way with
      | true =>
          refine Or.inr ⟨passed, ctx, rest, ?_, goes, ?_, rfl⟩
          · rw [seek, if_pos goes]
          · rw [List.filter_cons_of_pos (by exact goes), List.head?_cons]
      | false =>
          have on : ¬ctx.handler.dir.goes way = true := Bool.eq_false_iff.mp goes
          rw [seek, if_neg on, List.filter_cons_of_neg (by exact on)]
          refine (ih (ctx :: passed)).imp_right fun ⟨found, other, later, sought, ways, first, whole⟩ => ?_
          refine ⟨found, other, later, sought, ways, first, whole.trans ?_⟩
          rw [List.reverse_cons, List.append_assoc, List.singleton_append]

/-! ### The lists -/

/-- The contexts have addresses of their own, and the lists for reading and for writing are those of the contexts. -/
structure Sound (pipeline : Pipeline σ π) : Prop where
  nodup : (pipeline.ctxs.map PipelineContext.address).Nodup
  made : ∀ ctx ∈ pipeline.ctxs, ctx.address < pipeline.made
  inCtxs : pipeline.inCtxs = pipeline.ctxs.filter (·.handler.dir.goes .read)
  outCtxs : pipeline.outCtxs = pipeline.ctxs.filter (·.handler.dir.goes .write)

theorem create_sound : (create : Pipeline σ π).Sound where
  nodup := List.nodup_nil
  made := nofun
  inCtxs := rfl
  outCtxs := rfl

theorem insert_filter (front : Bool) (ctx : PipelineContext σ π) (ctxs : List (PipelineContext σ π)) (way : Way) :
    (if ctx.handler.dir.goes way then insert front ctx (ctxs.filter (·.handler.dir.goes way))
      else ctxs.filter (·.handler.dir.goes way)) = (insert front ctx ctxs).filter (·.handler.dir.goes way) := by
  unfold insert
  cases goes : ctx.handler.dir.goes way <;> cases front <;> simp [goes, List.filter_append]

theorem mem_insert {front : Bool} {ctx other : PipelineContext σ π} {ctxs : List (PipelineContext σ π)} :
    other ∈ insert front ctx ctxs ↔ other = ctx ∨ other ∈ ctxs := by
  unfold insert
  cases front <;> simp [or_comm]

theorem addHelper_sound {pipeline : Pipeline σ π} (sound : pipeline.Sound) (handler : Handler σ π) (front : Bool) :
    (pipeline.addHelper handler front).Sound := by
  have fresh : pipeline.made ∉ pipeline.ctxs.map PipelineContext.address := by
    intro member
    obtain ⟨ctx, present, address⟩ := List.mem_map.mp member
    exact absurd (sound.made ctx present) (by rw [address]; exact Nat.lt_irrefl _)
  refine ⟨?_, fun ctx member => ?_, ?_, ?_⟩
  · simp only [addHelper, insert]
    cases front with
    | true => exact List.nodup_cons.mpr ⟨fresh, sound.nodup⟩
    | false =>
        rw [if_neg (by decide), List.map_append]
        exact List.nodup_append'.mpr ⟨sound.nodup, List.nodup_singleton _, by simpa using fresh⟩
  · rcases mem_insert.mp member with rfl | old
    · exact Nat.lt_succ_self _
    · exact Nat.lt_succ_of_lt (sound.made ctx old)
  · simp only [addHelper, sound.inCtxs]
    exact insert_filter front ⟨pipeline.made, handler⟩ pipeline.ctxs .read
  · simp only [addHelper, sound.outCtxs]
    exact insert_filter front ⟨pipeline.made, handler⟩ pipeline.ctxs .write

/-- Where addresses are not repeated, erasing a context takes away just that one. -/
theorem erase_eq_filter {ctx : PipelineContext σ π} {ctxs : List (PipelineContext σ π)}
    (nodup : (ctxs.map PipelineContext.address).Nodup) :
    erase ctx ctxs = ctxs.filter (·.address ≠ ctx.address) := by
  induction ctxs with
  | nil => rfl
  | cons first rest ih =>
      obtain ⟨other, others⟩ := List.nodup_cons.mp nodup
      unfold erase at ih ⊢
      by_cases same : first.address = ctx.address
      · have none : ∀ later ∈ rest, later.address ≠ ctx.address := fun later member equal =>
          other (List.mem_map.mpr ⟨later, member, equal.trans same.symm⟩)
        rw [List.eraseP_cons_of_pos (by simpa using same), List.filter_cons_of_neg (by simpa using same),
          List.filter_eq_self.mpr (by simpa using none)]
      · rw [List.eraseP_cons_of_neg (by simpa using same), List.filter_cons_of_pos (by simpa using same), ih others]

theorem removeAt_sound {pipeline : Pipeline σ π} (sound : pipeline.Sound) {ctx : PipelineContext σ π}
    (member : ctx ∈ pipeline.ctxs) : (pipeline.removeAt ctx).Sound := by
  have sublist : (pipeline.removeAt ctx).ctxs.Sublist pipeline.ctxs := List.eraseP_sublist
  have filtered : ∀ way, (if ctx.handler.dir.goes way then
      erase ctx (pipeline.ctxs.filter (·.handler.dir.goes way)) else pipeline.ctxs.filter (·.handler.dir.goes way)) =
      (erase ctx pipeline.ctxs).filter (·.handler.dir.goes way) := by
    intro way
    have nodup : ((pipeline.ctxs.filter (·.handler.dir.goes way)).map PipelineContext.address).Nodup :=
      sound.nodup.sublist (List.filter_sublist.map _)
    rw [erase_eq_filter sound.nodup, erase_eq_filter nodup, List.filter_filter, List.filter_filter]
    split
    · exact List.filter_congr fun _ _ => Bool.and_comm _ _
    · rename_i off
      refine List.filter_congr fun other present => ?_
      -- a context that is on the way is not the one that was removed, which is not
      by_cases goes : other.handler.dir.goes way = true
      · have apart : other.address ≠ ctx.address := fun equal => by
          have same := List.inj_on_of_nodup_map sound.nodup present member equal
          exact off (same ▸ goes)
        simp [goes, apart]
      · simp [goes]
  refine ⟨sound.nodup.sublist (sublist.map _), fun other present => sound.made other (sublist.subset present), ?_, ?_⟩
  · simp only [removeAt, sound.inCtxs]
    exact filtered .read
  · simp only [removeAt, sound.outCtxs]
    exact filtered .write

/-! ### Removing by type -/

/-- The contexts that the loop of `removeHelper` removes: it does not look at the one behind a context it removed. -/
def removed (removes : Handler σ π → Bool) : List (PipelineContext σ π) → List (PipelineContext σ π)
  | [] => []
  | [ctx] => if removes ctx.handler then [ctx] else []
  | ctx :: next :: rest => if removes ctx.handler then ctx :: removed removes rest else removed removes (next :: rest)

theorem removed_sublist (removes : Handler σ π → Bool) (ctxs : List (PipelineContext σ π)) :
    (removed removes ctxs).Sublist ctxs := by
  induction ctxs using removed.induct removes with
  | case1 => exact List.Sublist.refl _
  | case2 ctx matching => rw [removed, if_pos matching]
  | case3 ctx other => rw [removed, if_neg other]; exact List.nil_sublist _
  | case4 ctx next rest matching ih => rw [removed, if_pos matching]; exact (ih.cons next).cons_cons ctx
  | case5 ctx next rest other ih => rw [removed, if_neg other]; exact ih.cons ctx

theorem removeFrom_eq_foldl (removes : Handler σ π → Bool) (ctxs : List (PipelineContext σ π))
    (pipeline : Pipeline σ π) : removeFrom removes ctxs pipeline = (removed removes ctxs).foldl removeAt pipeline := by
  induction ctxs using removed.induct removes generalizing pipeline with
  | case1 => rfl
  | case2 ctx matching => rw [removeFrom, removed, if_pos matching, if_pos matching]; rfl
  | case3 ctx other => rw [removeFrom, removed, if_neg other, if_neg other]; rfl
  | case4 ctx next rest matching ih =>
      rw [removeFrom, removed, if_pos matching, if_pos matching, ih, List.foldl_cons]
  | case5 ctx next rest other ih => rw [removeFrom, removed, if_neg other, if_neg other, ih]

/-- What is left of the contexts when some of them have been removed. -/
theorem foldl_removeAt_sound {pipeline : Pipeline σ π} (sound : pipeline.Sound) {gone : List (PipelineContext σ π)}
    (present : gone ⊆ pipeline.ctxs) (nodup : (gone.map PipelineContext.address).Nodup) :
    (gone.foldl removeAt pipeline).Sound ∧ (gone.foldl removeAt pipeline).ctxs =
      pipeline.ctxs.filter (·.address ∉ gone.map PipelineContext.address) := by
  induction gone generalizing pipeline with
  | nil =>
      refine ⟨sound, (List.filter_eq_self.mpr fun _ _ => ?_).symm⟩
      simp
  | cons ctx rest ih =>
      obtain ⟨other, others⟩ := List.nodup_cons.mp nodup
      have first := present List.mem_cons_self
      have left : (pipeline.removeAt ctx).ctxs = pipeline.ctxs.filter (·.address ≠ ctx.address) :=
        erase_eq_filter sound.nodup
      have still : rest ⊆ (pipeline.removeAt ctx).ctxs := by
        intro later member
        rw [left, List.mem_filter]
        refine ⟨present (List.mem_cons_of_mem _ member), decide_eq_true fun equal => other ?_⟩
        exact List.mem_map.mpr ⟨later, member, equal⟩
      obtain ⟨kept, after⟩ := ih (removeAt_sound sound first) still others
      refine ⟨kept, ?_⟩
      rw [List.foldl_cons, after, left, List.filter_filter]
      refine List.filter_congr fun later _ => ?_
      simp only [List.map_cons, List.mem_cons, not_or, ne_eq, Bool.decide_and]
      rw [Bool.and_comm]

theorem removeHelper_sound {pipeline : Pipeline σ π} (sound : pipeline.Sound) (removes : Handler σ π → Bool) :
    (pipeline.removeHelper removes).Sound ∧ (pipeline.removeHelper removes).ctxs =
      pipeline.ctxs.filter (·.address ∉ (removed removes pipeline.ctxs).map PipelineContext.address) := by
  unfold removeHelper
  rw [removeFrom_eq_foldl]
  have sublist := removed_sublist removes pipeline.ctxs
  exact foldl_removeAt_sound sound sublist.subset (sound.nodup.sublist (sublist.map _))

/-! ### The links -/

theorem link_of_notMem {ctxs : List (PipelineContext σ π)} {address : ℕ}
    (other : address ∉ ctxs.map PipelineContext.address) (next : ℕ → Option (PipelineContext σ π)) :
    link next ctxs address = next address := by
  induction ctxs generalizing next with
  | nil => rfl
  | cons ctx rest ih =>
      obtain ⟨first, others⟩ := List.ne_and_not_mem_of_not_mem_cons other
      rw [link, ih others, Function.update_of_ne first]

/-- A context is linked to the one behind it. -/
theorem link_of_split {front behind : List (PipelineContext σ π)} {ctx : PipelineContext σ π}
    (nodup : ((front ++ ctx :: behind).map PipelineContext.address).Nodup)
    (next : ℕ → Option (PipelineContext σ π)) : link next (front ++ ctx :: behind) ctx.address = behind.head? := by
  induction front generalizing next with
  | nil =>
      have other := (List.nodup_cons.mp nodup).1
      rw [List.nil_append, link, link_of_notMem other, Function.update_self]
  | cons first rest ih => exact ih (List.nodup_cons.mp nodup).2 _

/-- What is ahead of a place on a way. -/
def ahead (way : Way) (before behind : List (PipelineContext σ π)) : List (PipelineContext σ π) :=
  match way with
  | .read => behind
  | .write => before

/-- The links are those of a line-up: each leads to the next context on its way. -/
structure Linked (lineup : List (PipelineContext σ π)) (pipeline : Pipeline σ π) : Prop where
  front : pipeline.front = (lineup.filter (·.handler.dir.goes .read)).head?
  back : pipeline.back = (lineup.reverse.filter (·.handler.dir.goes .write)).head?
  next : ∀ way before ctx behind, before.reverse ++ ctx :: behind = lineup → ctx.handler.dir.goes way = true →
    pipeline.next way ctx = ((ahead way before behind).filter (·.handler.dir.goes way)).head?

/-- **`finalize` links the contexts as they are.** -/
theorem finalize_linked {pipeline : Pipeline σ π} (sound : pipeline.Sound) :
    Linked pipeline.ctxs pipeline.finalize := by
  refine ⟨?_, ?_, fun way before ctx behind split goes => ?_⟩
  · rw [← sound.inCtxs]
    rfl
  · rw [List.filter_reverse, ← sound.outCtxs, List.head?_reverse]
    rfl
  · have nodup : ((pipeline.ctxs.filter (·.handler.dir.goes way)).map PipelineContext.address).Nodup :=
      sound.nodup.sublist (List.filter_sublist.map _)
    cases way with
    | read =>
        show link _ pipeline.inCtxs ctx.address = _
        rw [sound.inCtxs]
        rw [← split, List.filter_append, List.filter_cons_of_pos (by exact goes)] at nodup ⊢
        exact link_of_split nodup _
    | write =>
        show link _ pipeline.outCtxs.reverse ctx.address = _
        rw [sound.outCtxs]
        rw [← List.nodup_reverse, ← List.map_reverse] at nodup
        rw [← split, List.filter_append, List.filter_cons_of_pos (by exact goes), List.reverse_append,
          List.reverse_cons, List.append_assoc, List.filter_reverse, List.reverse_reverse] at nodup ⊢
        exact link_of_split nodup _

/-- The next context on a way from a place in the line-up. -/
theorem toward_spec (way : Way) (before behind : List (PipelineContext σ π)) :
    (toward way before behind = none ∧
        ((ahead way before behind).filter (·.handler.dir.goes way)).head? = none) ∨
      ∃ front ctx rest, toward way before behind = some (front, ctx, rest) ∧ ctx.handler.dir.goes way = true ∧
        ((ahead way before behind).filter (·.handler.dir.goes way)).head? = some ctx ∧
        front.reverse ++ ctx :: rest = before.reverse ++ behind := by
  cases way with
  | read => exact seek_spec .read before behind
  | write =>
      rcases seek_spec .write behind before with ⟨sought, none⟩ | ⟨found, ctx, rest, sought, goes, first, whole⟩
      · exact Or.inl ⟨by rw [toward, sought, Option.map_none], none⟩
      · refine Or.inr ⟨rest, ctx, found, by rw [toward, sought, Option.map_some], goes, first, ?_⟩
        have turned := congrArg List.reverse whole
        simpa using turned

/-- A context that is there is one of those of the pipeline. -/
def there (pipeline : Pipeline σ π) (ctx : PipelineContext σ π) : Bool :=
  pipeline.ctxs.any fun other => other.address = ctx.address

theorem perform_congr {ε : Type} {fired other : Way → π → σ → Except ε σ}
    (same : ∀ way packet state, fired way packet state = other way packet state) (reaction : Reaction σ π) (state : σ) :
    reaction.perform fired state = reaction.perform other state := by
  have equal : fired = other := funext fun way => funext fun packet => funext (same way packet)
  rw [equal]

/-- **The links lead through the line-up.** -/
theorem Linked.call {lineup : List (PipelineContext σ π)} {pipeline : Pipeline σ π} (linked : Linked lineup pipeline)
    (depth : ℕ) {way : Way} {before behind : List (PipelineContext σ π)} (place : before.reverse ++ behind = lineup)
    (packet : π) (state : σ) :
    pipeline.call depth ((ahead way before behind).filter (·.handler.dir.goes way)).head? way packet state =
      through pipeline.there depth way before behind packet state := by
  induction depth generalizing way before behind packet state with
  | zero =>
      rcases toward_spec way before behind with ⟨end', none⟩ | ⟨_, ctx, _, found, -, first, -⟩
      · rw [none, through, end']
        rfl
      · rw [first, through, found]
        rfl
  | succ depth ih =>
      rcases toward_spec way before behind with ⟨end', none⟩ | ⟨front, ctx, rest, found, goes, first, whole⟩
      · rw [none, through, end']
        rfl
      · rw [first, through, found, Pipeline.call]
        by_cases present : pipeline.there ctx = true
        · have called : (pipeline.ctxs.any fun other => other.address = ctx.address) = true := present
          simp only [called, present, if_true]
          refine perform_congr (fun on packet state => ?_) _ _
          split
          · rename_i fires
            rw [linked.next on front ctx rest (whole.trans place) fires]
            cases on with
            | read =>
                refine @ih .read (ctx :: front) rest ?_ packet state
                rw [List.reverse_cons, List.append_assoc, List.singleton_append, whole, place]
            | write => exact @ih .write front (ctx :: rest) (whole.trans place) packet state
          · rfl
        · have gone : ¬(pipeline.ctxs.any fun other => other.address = ctx.address) = true := present
          simp only [gone, present, Bool.false_eq_true, if_false]

/-! ### The runs -/

/-- Removing contexts changes no link. -/
theorem foldl_removeAt_linked {lineup : List (PipelineContext σ π)} {pipeline : Pipeline σ π}
    (linked : Linked lineup pipeline) (gone : List (PipelineContext σ π)) :
    Linked lineup (gone.foldl removeAt pipeline) := by
  induction gone generalizing pipeline with
  | nil => exact linked
  | cons ctx rest ih => exact @ih (pipeline.removeAt ctx) ⟨linked.front, linked.back, linked.next⟩

/-- Every step keeps the lists, and only `finalize` changes a link. -/
theorem step_sound {pipeline : Pipeline σ π} (sound : pipeline.Sound) (op : Op σ π) :
    (step pipeline op).1.Sound ∧
      (op ≠ .finalize → ∀ lineup, Linked lineup pipeline → Linked lineup (step pipeline op).1) := by
  cases op with
  | addFront handler =>
      exact ⟨addHelper_sound sound handler true, fun _ lineup linked => ⟨linked.front, linked.back, linked.next⟩⟩
  | addBack handler =>
      exact ⟨addHelper_sound sound handler false, fun _ lineup linked => ⟨linked.front, linked.back, linked.next⟩⟩
  | removeFront =>
      simp only [step, removeFront]
      split
      · exact ⟨sound, fun _ _ linked => linked⟩
      · rename_i ctx first
        exact ⟨removeAt_sound sound (List.mem_of_head? first), fun _ lineup linked =>
          ⟨linked.front, linked.back, linked.next⟩⟩
  | removeBack =>
      simp only [step, removeBack]
      split
      · exact ⟨sound, fun _ _ linked => linked⟩
      · rename_i ctx last
        exact ⟨removeAt_sound sound (List.mem_of_getLast? last), fun _ lineup linked =>
          ⟨linked.front, linked.back, linked.next⟩⟩
  | remove removes =>
      refine ⟨(removeHelper_sound sound removes).1, fun _ lineup linked => ?_⟩
      simp only [step, removeHelper, removeFrom_eq_foldl]
      exact foldl_removeAt_linked linked _
  | finalize => exact ⟨{ sound with }, fun other => absurd rfl other⟩

/-- The pipeline after some operations. -/
def after (ops : List (Op σ π)) : Pipeline σ π := Machine.run step create ops

theorem after_sound (ops : List (Op σ π)) : (after ops).Sound :=
  @Machine.run_invariant _ _ _ step Sound (fun _ => True) (fun _ op _ sound => (step_sound sound op).1) create create_sound
    ops fun _ _ => trivial

/-- Between two calls of `finalize` the links stay those of the contexts at the first. -/
theorem after_linked (before later : List (Op σ π)) (unfinalized : ∀ op ∈ later, op ≠ .finalize) :
    Linked (after before).ctxs (after (before ++ .finalize :: later)) := by
  have start : (after before).finalize.Sound ∧ Linked (after before).ctxs (after before).finalize :=
    ⟨{ after_sound before with }, finalize_linked (after_sound before)⟩
  have kept : ∀ (pipeline : Pipeline σ π) op, op ≠ .finalize →
      pipeline.Sound ∧ Linked (after before).ctxs pipeline →
      (step pipeline op).1.Sound ∧ Linked (after before).ctxs (step pipeline op).1 := by
    rintro pipeline op other ⟨sound, linked⟩
    exact ⟨(step_sound sound op).1, (step_sound sound op).2 other _ linked⟩
  unfold after
  rw [Machine.run_append]
  exact (Machine.run_invariant step kept start unfinalized).2

/-- **Packets follow the line-up of the last `finalize`.** Whatever was done to a pipeline before it was finalized and
is done to it after that, a packet that is read or written goes through the contexts that the pipeline had then, in
their order, each passing on what it passes on from where it stands, until one is called that has been removed. -/
theorem read_follows_finalize (before later : List (Op σ π)) (unfinalized : ∀ op ∈ later, op ≠ .finalize) (depth : ℕ)
    (packet : π) (state : σ) :
    let pipeline := after (before ++ .finalize :: later)
    let lineup := (after before).ctxs
    pipeline.read depth packet state = through pipeline.there depth .read [] lineup packet state ∧
      pipeline.write depth packet state = through pipeline.there depth .write lineup.reverse [] packet state := by
  have linked := after_linked before later unfinalized
  constructor
  · rw [read, linked.front]
    exact linked.call depth (List.nil_append _) packet state
  · rw [write, linked.back]
    refine @Linked.call _ _ _ _ linked depth .write (after before).ctxs.reverse [] ?_ packet state
    rw [List.reverse_reverse, List.append_nil]

/-- A handler for both ways that notes its number and passes packets on. -/
def noting (number : ℕ) : Handler (List ℕ) ℕ where
  dir := .both
  on way packet := .work (· ++ [number]) fun _ => .fire way packet .done

/-- Without another `finalize` a packet still goes to the handler that was removed from the front. -/
theorem read_follows_finalize_removed :
    (after [.addFront (noting 1), .addFront (noting 2), .finalize, .removeFront]).read 3 7 [] = .error .dangling :=
  (read_follows_finalize [.addFront (noting 1), .addFront (noting 2)] [.removeFront]
    (fun op member => by cases List.mem_singleton.mp member; exact nofun) 3 7 []).1.trans rfl

/-- A reaction meets no destroyed context where what it fires does not. -/
theorem perform_not_dangling {fired : Way → π → σ → Except Stuck σ}
    (safe : ∀ way packet state, fired way packet state ≠ .error .dangling) (reaction : Reaction σ π) (state : σ) :
    reaction.perform fired state ≠ .error .dangling := by
  induction reaction generalizing state with
  | done => exact nofun
  | work change next ih => exact ih (change state) (change state)
  | fire way packet next ih =>
      rw [Reaction.perform]
      cases passed : fired way packet state with
      | error stuck =>
          intro dangling
          cases dangling
          exact safe way packet state passed
      | ok after => exact ih after

/-- Where all contexts are there, none that is destroyed is met. -/
theorem through_not_dangling (depth : ℕ) (way : Way) (before behind : List (PipelineContext σ π)) (packet : π)
    (state : σ) : through (fun _ => true) depth way before behind packet state ≠ .error .dangling := by
  induction depth generalizing way before behind packet state with
  | zero =>
      rw [through]
      cases toward way before behind <;> exact nofun
  | succ depth ih =>
      rw [through]
      cases toward way before behind with
      | none => exact nofun
      | some found =>
          refine perform_not_dangling (fun on packet state => ?_) _ _
          split
          · cases on with
            | read => exact ih _ _ _ _ _
            | write => exact ih _ _ _ _ _
          · exact nofun

/-- Two pipelines that have the contexts of a line-up take packets through it in the same way. -/
theorem through_congr {first second : PipelineContext σ π → Bool} {lineup : List (PipelineContext σ π)}
    (same : ∀ ctx ∈ lineup, first ctx = second ctx) (depth : ℕ) {way : Way} {before behind : List (PipelineContext σ π)}
    (place : before.reverse ++ behind = lineup) (packet : π) (state : σ) :
    through first depth way before behind packet state = through second depth way before behind packet state := by
  induction depth generalizing way before behind packet state with
  | zero => rfl
  | succ depth ih =>
      rw [through, through]
      rcases toward_spec way before behind with ⟨end', -⟩ | ⟨front, ctx, rest, found, -, -, whole⟩
      · rw [end']
      · rw [found]
        have member : ctx ∈ lineup := by
          rw [← place, ← whole]
          exact List.mem_append_right _ List.mem_cons_self
        simp only [same ctx member]
        refine if_congr Iff.rfl (perform_congr (fun on packet state => ?_) _ _) rfl
        refine if_congr Iff.rfl ?_ rfl
        cases on with
        | read =>
            refine @ih .read (ctx :: front) rest ?_ packet state
            rw [List.reverse_cons, List.append_assoc, List.singleton_append, whole, place]
        | write => exact @ih .write front (ctx :: rest) (whole.trans place) packet state

/-- Adding a handler. -/
def Op.adds : Op σ π → Bool
  | .addFront _ | .addBack _ => true
  | _ => false

/-- Adding handlers keeps the contexts that are there. -/
theorem there_of_adds (before later : List (Op σ π)) (adds : ∀ op ∈ later, op.adds = true) :
    ∀ ctx ∈ (after before).ctxs, (after (before ++ .finalize :: later)).there ctx = true := by
  have kept : ∀ pipeline (op : Op σ π), op.adds = true → (after before).ctxs ⊆ pipeline.ctxs →
      (after before).ctxs ⊆ (step pipeline op).1.ctxs := by
    intro pipeline op added subset ctx member
    cases op with
    | addFront handler =>
        show ctx ∈ insert true _ pipeline.ctxs
        exact mem_insert.mpr (Or.inr (subset member))
    | addBack handler =>
        show ctx ∈ insert false _ pipeline.ctxs
        exact mem_insert.mpr (Or.inr (subset member))
    | removeFront | removeBack | remove _ | finalize => cases added
  intro ctx member
  have present : ctx ∈ (after (before ++ .finalize :: later)).ctxs := by
    unfold after
    rw [Machine.run_append]
    exact @Machine.run_invariant _ _ _ step (fun pipeline => (after before).ctxs ⊆ pipeline.ctxs) (·.adds = true) kept
      (after before).finalize (List.Subset.refl _) later adds ctx member
  exact List.any_eq_true.mpr ⟨ctx, present, decide_eq_true rfl⟩

/-- **Handlers that are added take no part until the next `finalize`**, and until something is removed no packet meets
a context that has been destroyed. -/
theorem adds_take_no_part (before later : List (Op σ π)) (adds : ∀ op ∈ later, op.adds = true) (depth : ℕ)
    (packet : π) (state : σ) :
    (after (before ++ .finalize :: later)).read depth packet state =
        (after (before ++ [.finalize])).read depth packet state ∧
      (after (before ++ .finalize :: later)).read depth packet state ≠ .error .dangling ∧
      (after (before ++ .finalize :: later)).write depth packet state =
        (after (before ++ [.finalize])).write depth packet state ∧
      (after (before ++ .finalize :: later)).write depth packet state ≠ .error .dangling := by
  have whole : ∀ later : List (Op σ π), (∀ op ∈ later, op.adds = true) →
      (after (before ++ .finalize :: later)).read depth packet state =
          through (fun _ => true) depth .read [] (after before).ctxs packet state ∧
        (after (before ++ .finalize :: later)).write depth packet state =
          through (fun _ => true) depth .write (after before).ctxs.reverse [] packet state := by
    intro later adds
    have linked := after_linked before later fun op member finalizes => by
      have added := adds op member
      rw [finalizes] at added
      cases added
    have present := there_of_adds before later adds
    constructor
    · rw [read, linked.front]
      refine (@Linked.call _ _ _ _ linked depth .read [] _ (List.nil_append _) packet state).trans ?_
      exact through_congr present depth (List.nil_append _) packet state
    · have place : (after before).ctxs.reverse.reverse ++ [] = (after before).ctxs := by
        rw [List.reverse_reverse, List.append_nil]
      rw [write, linked.back]
      refine (@Linked.call _ _ _ _ linked depth .write (after before).ctxs.reverse [] place packet state).trans ?_
      exact through_congr present depth place packet state
  obtain ⟨reads, writes⟩ := whole later adds
  obtain ⟨reads', writes'⟩ := whole [] nofun
  rw [reads, writes, reads', writes']
  exact ⟨rfl, through_not_dangling _ _ _ _ _ _, rfl, through_not_dangling _ _ _ _ _ _⟩

/-- A handler that is added after `finalize` notes nothing. -/
theorem adds_take_no_part_front :
    (after [.addFront (noting 1), .finalize, .addFront (noting 2)]).read 3 7 [] = .ok [1] :=
  (adds_take_no_part [.addFront (noting 1)] [.addFront (noting 2)] (by simp [Op.adds]) 3 7 []).1.trans rfl

/-! ### What removing by type leaves -/

/-- All contexts of a kind are removed exactly if no two of them stand next to each other. -/
theorem removed_all_iff (removes : Handler σ π → Bool) {ctxs : List (PipelineContext σ π)} (nodup : ctxs.Nodup) :
    (∀ ctx ∈ ctxs, ctx ∉ removed removes ctxs → removes ctx.handler = false) ↔
      ctxs.IsChain fun first second => ¬(removes first.handler = true ∧ removes second.handler = true) := by
  induction ctxs using removed.induct removes with
  | case1 => exact iff_of_true nofun List.IsChain.nil
  | case2 ctx matching =>
      refine iff_of_true (fun other member left => ?_) (List.IsChain.singleton ctx)
      rw [removed, if_pos matching] at left
      exact absurd member left
  | case3 ctx other =>
      refine iff_of_true (fun later member _ => ?_) (List.IsChain.singleton ctx)
      rw [List.mem_singleton.mp member]
      exact Bool.eq_false_iff.mpr other
  | case4 ctx next rest matching ih =>
      obtain ⟨first, behind⟩ := List.nodup_cons.mp nodup
      obtain ⟨second, others⟩ := List.nodup_cons.mp behind
      have kept : next ∉ ctx :: removed removes rest := by
        rintro (_ | ⟨_, member⟩)
        · exact first List.mem_cons_self
        · exact second ((removed_sublist removes rest).subset member)
      rw [removed, if_pos matching, List.isChain_cons_cons]
      cases nextMatches : removes next.handler with
      | true =>
          refine iff_of_false (fun all => ?_) fun chain => chain.1 ⟨matching, rfl⟩
          have unmatched := all next (List.mem_cons_of_mem _ List.mem_cons_self) kept
          rw [nextMatches] at unmatched
          cases unmatched
      | false =>
          have onward : (next :: rest).IsChain (fun first second =>
              ¬(removes first.handler = true ∧ removes second.handler = true)) ↔ rest.IsChain fun first second =>
                ¬(removes first.handler = true ∧ removes second.handler = true) := by
            cases rest with
            | nil => exact iff_of_true (List.IsChain.singleton next) List.IsChain.nil
            | cons third later =>
                rw [List.isChain_cons_cons]
                exact and_iff_right fun both => absurd (nextMatches.symm.trans both.1) nofun
          rw [onward, ← ih others]
          refine ⟨fun all => ⟨fun both => absurd both.2 nofun, fun later member left => ?_⟩,
            fun all later member left => ?_⟩
          · refine all later (List.mem_cons_of_mem _ (List.mem_cons_of_mem _ member)) ?_
            rintro (_ | ⟨_, gone⟩)
            · exact first (List.mem_cons_of_mem _ member)
            · exact left gone
          · rcases List.mem_cons.mp member with rfl | behind
            · exact absurd List.mem_cons_self left
            rcases List.mem_cons.mp behind with rfl | behind
            · exact nextMatches
            · exact all.2 later behind fun gone => left (List.mem_cons_of_mem _ gone)
  | case5 ctx next rest other ih =>
      have unmatched : removes ctx.handler = false := Bool.eq_false_iff.mpr other
      rw [removed, if_neg other, List.isChain_cons_cons, ← ih (List.nodup_cons.mp nodup).2]
      refine ⟨fun all => ⟨fun both => other both.1, fun later member => all later (List.mem_cons_of_mem _ member)⟩,
        fun all later member left => ?_⟩
      rcases List.mem_cons.mp member with rfl | behind
      · exact unmatched
      · exact all.2 later behind left

/-- **`remove<H>()` leaves a handler that stands right behind one that it removed.** It removes all handlers of the
type exactly if no two of them are next to each other. -/
theorem removeHelper_leaves (ops : List (Op σ π)) (removes : Handler σ π → Bool) :
    (∀ ctx ∈ ((after ops).removeHelper removes).ctxs, removes ctx.handler = false) ↔
      (after ops).ctxs.IsChain fun first second => ¬(removes first.handler = true ∧ removes second.handler = true) := by
  have sound := after_sound ops
  rw [← removed_all_iff removes sound.nodup.of_map, (removeHelper_sound sound removes).2]
  have left : ∀ ctx ∈ (after ops).ctxs, ctx.address ∈ (removed removes (after ops).ctxs).map PipelineContext.address ↔
      ctx ∈ removed removes (after ops).ctxs := by
    intro ctx member
    refine ⟨fun address => ?_, List.mem_map_of_mem⟩
    obtain ⟨other, gone, same⟩ := List.mem_map.mp address
    have present := (removed_sublist removes (after ops).ctxs).subset gone
    exact List.inj_on_of_nodup_map sound.nodup present member same ▸ gone
  constructor
  · intro all ctx member kept
    exact all ctx (List.mem_filter.mpr ⟨member, decide_eq_true (mt (left ctx member).mp kept)⟩)
  · intro all ctx member
    obtain ⟨present, kept⟩ := List.mem_filter.mp member
    exact all ctx present (mt (left ctx present).mpr (of_decide_eq_true kept))

end Pipeline

end Erizo
