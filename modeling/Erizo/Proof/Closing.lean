/-
**Closing a connection.**

A connection that is closed lets go of everything (`syncClose_released`). It stays so, and in the same state, as
long as every step is `Orderly`: it is not closed for the first time after a failure, where `syncClose` returns
at once, and after the close no transport reports a state that `updateState` would act on.

* `updateState_ignored`, `ignores_of_finished`: the reports that leave a finished connection as it is.
* `Sound`: what every run keeps (`sound_step`).
* `closesForGood_iff`: the runs whose closes are final are the orderly ones.
-/

import Erizo.Library.Machine
import Erizo.Model.ConnectionState

namespace Erizo

open Library

namespace WebRtcConnection

/-! ### What is asked of a close -/

/-- The connection holds no stream and no listener, and its transports are closed. -/
def Released (connection : WebRtcConnection) : Prop :=
  connection.mediaStreams = [] ∧ (∀ transport ∈ connection.videoTransport, transport.closed = true) ∧
    (∀ transport ∈ connection.audioTransport, transport.closed = true) ∧ connection.connEventListener = false

/-- The listener is told nothing. -/
def Silent (actions : List Action) : Prop :=
  ∀ event message, Action.notifyEvent event message ∉ actions

/-- **Every close is final and complete, and a failure is final.** -/
structure ClosesForGood (start : WebRtcConnection) (events : List Event) : Prop where
  closed : ∀ before later, before ++ .close :: later <+: events →
    ∀ connection, Machine.run step (some start) (before ++ [.close]) = some connection →
      connection.Released ∧ (connection.globalState = .finished ∨ connection.globalState = .failed) ∧
        (∃ last, Machine.run step (some connection) later = some last ∧ last.Released ∧
          last.globalState = connection.globalState) ∧
        ∀ actions ∈ Machine.outputs step (some connection) later, Silent actions
  failed : ∀ before later, before ++ later <+: events →
    ∀ connection, Machine.run step (some start) before = some connection → connection.globalState = .failed →
      ∃ last, Machine.run step (some connection) later = some last ∧ last.globalState = .failed

/-- A connection that is neither closed nor failed. -/
def Open (connection : WebRtcConnection) : Prop :=
  connection.sending = true ∧ connection.globalState ≠ .finished ∧ connection.globalState ≠ .failed

/-- A transport's report that changes nothing on a connection that has finished. -/
def Ignores (connection : WebRtcConnection) (state : TransportState) : Prop :=
  (connection.videoTransport = none ∧ connection.audioTransport = none) ∨
    match state with
    | .initial | .finished => True
    | .started | .ready => connection.bundle = false ∧ connection.mediaIn connection.remoteSdp state = false
    | .gathered =>
        if connection.bundle then
          connection.trickleEnabled = true ∧ (connection.remoteSdp.candidateVector = [] ∨
            connection.remoteSdp.hasVideo = false ∨ connection.videoTransport ≠ none)
        else connection.trickleEnabled = true ∨ connection.mediaIn connection.localSdp .gathered = false
    | .failed => False

/-- A step that keeps a close final: no close finds a failed connection that still holds something, and no
report to a finished connection asks for another state. -/
def Orderly (connection : Option WebRtcConnection) (event : Event) : Prop :=
  ∀ current ∈ connection,
    match event with
    | .close => current.globalState = .failed → current.Released
    | .updateState state => current.globalState = .finished → current.Ignores state
    | .transportState _ _ => True

/-! ### The reports that change nothing -/

theorem updateState_failed {connection : WebRtcConnection} (failed : connection.globalState = .failed)
    (state : TransportState) : connection.updateState state = some (connection, []) := by
  rw [updateState, if_pos failed, ite_self]

/-- Without transports nothing is done. -/
theorem updateState_bare {connection : WebRtcConnection} (video : connection.videoTransport = none)
    (audio : connection.audioTransport = none) (state : TransportState) :
    connection.updateState state = some (connection, []) := by
  rw [updateState, video, audio]
  rfl

/-- With a transport, a finished connection takes what the `switch` leaves. -/
theorem updateState_finished {connection : WebRtcConnection} (finished : connection.globalState = .finished)
    (present : ¬ (connection.videoTransport = none ∧ connection.audioTransport = none)) (state : TransportState) :
    connection.updateState state = (connection.calculate state).map fun calculated =>
      if calculated.temp = .finished then ({ connection with sending := calculated.sending }, calculated.actions)
      else
        ({ connection with sending := calculated.sending, globalState := calculated.temp },
          calculated.actions ++
            connection.maybeNotifyWebRtcConnectionEvent calculated.temp calculated.msg) := by
  have some : ¬ (connection.videoTransport.isNone && connection.audioTransport.isNone) = true := by
    rw [Bool.and_eq_true, Option.isNone_iff_eq_none, Option.isNone_iff_eq_none]
    exact present
  rw [updateState, if_neg some, if_neg (by rw [finished]; decide)]
  simp only [finished, eq_comm]
  rfl

theorem passCandidates_isSome_iff {connection : WebRtcConnection} :
    connection.passCandidates.isSome ↔ connection.remoteSdp.candidateVector = [] ∨
      connection.remoteSdp.hasVideo = false ∨ connection.videoTransport ≠ none := by
  unfold passCandidates
  cases connection.remoteSdp.candidateVector <;> cases connection.remoteSdp.hasVideo <;>
    cases connection.videoTransport <;> simp

theorem passCandidates_silent {connection : WebRtcConnection} {actions : List Action}
    (passed : connection.passCandidates = some actions) : Silent actions := by
  intro event message
  simp only [passCandidates] at passed
  split at passed
  · obtain ⟨transport, -, rfl⟩ := Option.map_eq_some_iff.mp passed
    simp
  · cases passed
    exact List.not_mem_nil

/-- What the `switch` leaves of a finished connection that ignores the report. -/
theorem calculate_ignored {connection : WebRtcConnection} (finished : connection.globalState = .finished)
    {state : TransportState} (present : ¬ (connection.videoTransport = none ∧ connection.audioTransport = none))
    (ignored : connection.Ignores state) :
    ∃ actions, connection.calculate state = some ⟨.finished, .empty, connection.sending, actions⟩ ∧
      Silent actions := by
  have quiet : Silent [] := fun _ _ => List.not_mem_nil
  have report := ignored.resolve_left present
  cases state with
  | initial | finished => exact ⟨[], by rw [calculate, finished], quiet⟩
  | started | ready =>
      obtain ⟨unbundled, waiting⟩ := report
      refine ⟨[], ?_, quiet⟩
      simp only [calculate, unbundled, waiting, finished, Bool.or_false, Bool.false_eq_true, if_false]
  | gathered =>
      simp only at report
      split at report
      · rename_i bundled
        obtain ⟨actions, passed⟩ := Option.isSome_iff_exists.mp (passCandidates_isSome_iff.mpr report.2)
        refine ⟨actions, ?_, passCandidates_silent passed⟩
        simp [calculate, bundled, passed, report.1, finished]
      · rename_i unbundled
        refine ⟨[], ?_, quiet⟩
        rcases report with trickle | waiting
        · simp [calculate, unbundled, trickle, finished]
        · simp [calculate, unbundled, waiting, finished]
  | failed => exact absurd report id

/-- **A finished connection stays as it is at the reports it ignores.** -/
theorem updateState_ignored {connection : WebRtcConnection} (finished : connection.globalState = .finished)
    {state : TransportState} (ignored : connection.Ignores state) :
    ∃ actions, connection.updateState state = some (connection, actions) ∧ Silent actions := by
  by_cases bare : connection.videoTransport = none ∧ connection.audioTransport = none
  · exact ⟨[], updateState_bare bare.1 bare.2 state, fun _ _ => List.not_mem_nil⟩
  obtain ⟨actions, calculated, quiet⟩ := calculate_ignored finished bare ignored
  refine ⟨actions, ?_, quiet⟩
  rw [updateState_finished finished bare, calculated, Option.map_some, if_pos rfl]

/-- **At any other report it does not.** -/
theorem ignores_of_finished {connection last : WebRtcConnection} (finished : connection.globalState = .finished)
    {state : TransportState} {actions : List Action}
    (next : connection.updateState state = some (last, actions)) (same : last.globalState = .finished) :
    connection.Ignores state := by
  by_cases bare : connection.videoTransport = none ∧ connection.audioTransport = none
  · exact Or.inl bare
  rw [updateState_finished finished bare] at next
  obtain ⟨calculated, left, taken⟩ := Option.map_eq_some_iff.mp next
  have kept : calculated.temp = .finished := by
    split at taken
    · assumption
    · cases taken
      exact same
  refine Or.inr ?_
  cases state with
  | initial | finished => trivial
  | started | ready =>
      simp only [calculate] at left
      split at left
      · cases left
        cases kept
      · rename_i waiting
        simpa using waiting
  | gathered =>
      simp only [calculate] at left ⊢
      split at left
      · rename_i bundled
        obtain ⟨passed, given, rest⟩ := Option.map_eq_some_iff.mp left
        have room := passCandidates_isSome_iff.mp (by rw [given]; rfl)
        split at rest
        · subst rest
          cases kept
        · rename_i trickle
          simpa [bundled, room] using trickle
      · rename_i unbundled
        split at left
        · cases left
          cases kept
        · rename_i waiting
          simp only [unbundled, Bool.false_eq_true, if_false]
          cases trickle : connection.trickleEnabled <;> simp_all
  | failed =>
      cases left
      cases kept

/-! ### Open, failed and closed connections -/

/-- A connection that is open or has failed. -/
def Unfinished (connection : WebRtcConnection) : Prop :=
  connection.Open ∨ connection.sending = false ∧ connection.globalState = .failed

/-- A connection that has let go of everything and is in its last state. -/
def Over (last : WebRTCEvent) (connection : WebRtcConnection) : Prop :=
  connection.Released ∧ connection.sending = false ∧ connection.globalState = last

/-- The `switch` finishes no connection, and stops one from sending exactly when it fails. -/
theorem calculate_open {connection : WebRtcConnection} (opened : connection.Open) {state : TransportState}
    {calculated : Calculated} (left : connection.calculate state = some calculated) :
    calculated.temp ≠ .finished ∧
      (calculated.sending = true ∧ calculated.temp ≠ .failed ∨
        calculated.sending = false ∧ calculated.temp = .failed) := by
  obtain ⟨sends, unfinished, unfailed⟩ := opened
  cases state with
  | initial | finished =>
      cases left
      exact ⟨unfinished, Or.inl ⟨sends, unfailed⟩⟩
  | started | ready =>
      simp only [calculate] at left
      split at left <;> cases left
      · exact ⟨nofun, Or.inl ⟨sends, nofun⟩⟩
      · exact ⟨unfinished, Or.inl ⟨sends, unfailed⟩⟩
  | gathered =>
      simp only [calculate] at left
      split at left
      · obtain ⟨passed, -, rfl⟩ := Option.map_eq_some_iff.mp left
        split
        · exact ⟨nofun, Or.inl ⟨sends, nofun⟩⟩
        · exact ⟨unfinished, Or.inl ⟨sends, unfailed⟩⟩
      · split at left <;> cases left
        · exact ⟨nofun, Or.inl ⟨sends, nofun⟩⟩
        · exact ⟨unfinished, Or.inl ⟨sends, unfailed⟩⟩
  | failed =>
      cases left
      exact ⟨nofun, Or.inr ⟨rfl, rfl⟩⟩

/-- A report leaves an open connection open, or failed and no longer sending. -/
theorem updateState_open {connection last : WebRtcConnection} (opened : connection.Open) {state : TransportState}
    {actions : List Action} (next : connection.updateState state = some (last, actions)) :
    last.Unfinished := by
  unfold updateState at next
  split at next
  · cases next
    exact Or.inl opened
  rw [if_neg opened.2.2] at next
  obtain ⟨calculated, left, taken⟩ := Option.map_eq_some_iff.mp next
  obtain ⟨unfinished, rest⟩ := calculate_open opened left
  have state : last.globalState = calculated.temp ∧ last.sending = calculated.sending := by
    simp only at taken
    split at taken
    · rename_i same
      cases taken
      exact ⟨same, rfl⟩
    · cases taken
      exact ⟨rfl, rfl⟩
  rcases rest with ⟨sends, unfailed⟩ | ⟨stopped, failed⟩
  · refine Or.inl ⟨state.2.trans sends, ?_, ?_⟩
    · rw [state.1]
      exact unfinished
    · rw [state.1]
      exact unfailed
  · exact Or.inr ⟨state.2.trans stopped, state.1.trans failed⟩

/-- Closing lets go of everything. -/
theorem syncClose_released {connection : WebRtcConnection} (sends : connection.sending = true) :
    connection.syncClose.Over .finished := by
  have closes : ∀ transport : Option ConnectionTransport,
      ∀ after ∈ transport.map ConnectionTransport.close, after.closed = true := by
    intro transport after member
    obtain ⟨before, -, rfl⟩ := Option.mem_map.mp member
    rfl
  have notStopped : ¬ (!connection.sending) = true := by rw [sends]; decide
  rw [syncClose, if_neg notStopped]
  exact ⟨⟨rfl, closes _, closes _, rfl⟩, rfl, rfl⟩

/-- A connection that no longer sends is not closed again. -/
theorem syncClose_stopped {connection : WebRtcConnection} (stopped : connection.sending = false) :
    connection.syncClose = connection := by
  rw [syncClose, stopped]
  rfl

/-- What a transport does to its own state is no concern of the rest. -/
theorem setTransportState_fields (connection : WebRtcConnection) (mediaType : MediaType) (state : TransportState) :
    (connection.setTransportState mediaType state).sending = connection.sending ∧
      (connection.setTransportState mediaType state).globalState = connection.globalState ∧
      (connection.Released → (connection.setTransportState mediaType state).Released) := by
  have keeps : ∀ transport : Option ConnectionTransport, (∀ before ∈ transport, before.closed = true) →
      ∀ after ∈ transport.map fun before => { before with state }, after.closed = true := by
    intro transport closed after member
    obtain ⟨before, present, rfl⟩ := Option.mem_map.mp member
    exact closed before present
  cases mediaType with
  | video => exact ⟨rfl, rfl, fun released => ⟨released.1, keeps _ released.2.1, released.2.2⟩⟩
  | audio => exact ⟨rfl, rfl, fun released => ⟨released.1, released.2.1, keeps _ released.2.2.1, released.2.2.2⟩⟩
  | other => exact ⟨rfl, rfl, id⟩

/-! ### What every run keeps -/

/-- Unless it is closed, a connection does not finish. -/
theorem unfinished_step (connection : Option WebRtcConnection) (event : Event) (unclosed : event ≠ .close)
    (unfinished : ∀ current ∈ connection, current.Unfinished) :
    ∀ next ∈ (step connection event).1, next.Unfinished := by
  intro next member
  cases connection with
  | none => exact absurd member (Option.not_mem_none next)
  | some current =>
      have now := unfinished current rfl
      cases event with
      | updateState state =>
          rcases now with opened | ⟨stopped, failed⟩
          · cases reported : current.updateState state with
            | none =>
                rw [step, reported] at member
                exact absurd member (Option.not_mem_none next)
            | some result =>
                rw [step, reported] at member
                cases member
                exact updateState_open opened reported
          · rw [step, updateState_failed failed] at member
            cases member
            exact Or.inr ⟨stopped, failed⟩
      | close => exact absurd rfl unclosed
      | transportState mediaType state =>
          cases member
          obtain ⟨sending, globalState, -⟩ := setTransportState_fields current mediaType state
          rcases now with opened | ⟨stopped, failed⟩
          · exact Or.inl ⟨sending.trans opened.1, globalState ▸ opened.2⟩
          · exact Or.inr ⟨sending.trans stopped, globalState.trans failed⟩

/-- **No step takes a failed connection out of its state.** -/
theorem failed_step (connection : Option WebRtcConnection) (event : Event) (_ : True)
    (failed : ∃ current, connection = some current ∧ current.sending = false ∧ current.globalState = .failed) :
    ∃ next, (step connection event).1 = some next ∧ next.sending = false ∧ next.globalState = .failed := by
  obtain ⟨current, rfl, stopped, same⟩ := failed
  cases event with
  | updateState state =>
      rw [step, updateState_failed same]
      exact ⟨current, rfl, stopped, same⟩
  | close =>
      rw [step, syncClose_stopped stopped]
      exact ⟨current, rfl, stopped, same⟩
  | transportState mediaType state =>
      obtain ⟨sending, globalState, -⟩ := setTransportState_fields current mediaType state
      exact ⟨_, rfl, sending.trans stopped, globalState.trans same⟩

/-- **An orderly step leaves a closed connection closed and in its state, and tells the listener nothing.** -/
theorem over_step {last : WebRTCEvent} (ended : last = .finished ∨ last = .failed)
    (connection : Option WebRtcConnection) (event : Event) (orderly : Orderly connection event)
    (closed : ∃ current, connection = some current ∧ current.Over last) :
    (∃ next, (step connection event).1 = some next ∧ next.Over last) ∧ Silent (step connection event).2 := by
  obtain ⟨current, rfl, released, stopped, same⟩ := closed
  have asked := orderly current rfl
  have quiet : Silent [] := fun _ _ => List.not_mem_nil
  cases event with
  | updateState state =>
      rcases ended with rfl | rfl
      · obtain ⟨actions, reported, silent⟩ := updateState_ignored same (asked same)
        rw [step, reported]
        exact ⟨⟨current, rfl, released, stopped, same⟩, silent⟩
      · rw [step, updateState_failed same]
        exact ⟨⟨current, rfl, released, stopped, same⟩, quiet⟩
  | close =>
      rw [step, syncClose_stopped stopped]
      exact ⟨⟨current, rfl, released, stopped, same⟩, quiet⟩
  | transportState mediaType state =>
      obtain ⟨sending, globalState, keeps⟩ := setTransportState_fields current mediaType state
      exact ⟨⟨_, rfl, keeps released, sending.trans stopped, globalState.trans same⟩, quiet⟩

/-- What orderly steps reach: an unfinished connection, or one that has finished and let go of everything. -/
def Sound (connection : WebRtcConnection) : Prop :=
  connection.Unfinished ∨ connection.Over .finished

theorem Sound.stopped_of_failed {connection : WebRtcConnection} (sound : connection.Sound)
    (failed : connection.globalState = .failed) : connection.sending = false := by
  rcases sound with (opened | failure) | closed
  · exact absurd failed opened.2.2
  · exact failure.1
  · exact closed.2.1

/-- An orderly close of a sound connection leaves it closed, finished or failed. -/
theorem syncClose_over {current : WebRtcConnection} (sound : current.Sound)
    (orderly : Orderly (some current) .close) :
    ∃ last, (last = .finished ∨ last = .failed) ∧ current.syncClose.Over last := by
  rcases sound with (opened | ⟨stopped, failed⟩) | closed
  · exact ⟨.finished, Or.inl rfl, syncClose_released opened.1⟩
  · rw [syncClose_stopped stopped]
    exact ⟨.failed, Or.inr rfl, orderly current rfl failed, stopped, failed⟩
  · rw [syncClose_stopped closed.2.1]
    exact ⟨.finished, Or.inl rfl, closed⟩

/-- **An orderly step of a sound connection is sound.** -/
theorem sound_step (connection : Option WebRtcConnection) (event : Event) (orderly : Orderly connection event)
    (sound : ∀ current ∈ connection, current.Sound) : ∀ next ∈ (step connection event).1, next.Sound := by
  intro next member
  cases connection with
  | none => exact absurd member (Option.not_mem_none next)
  | some current =>
      rcases sound current rfl with unfinished | closed
      · by_cases closing : event = .close
        · subst closing
          cases member
          obtain ⟨last, rfl | rfl, closed⟩ := syncClose_over (Or.inl unfinished) orderly
          · exact Or.inr closed
          · exact Or.inl (Or.inr closed.2)
        · refine Or.inl (unfinished_step (some current) event closing (fun other same => ?_) next member)
          cases same
          exact unfinished
      · obtain ⟨⟨after, same, still⟩, -⟩ := over_step (Or.inl rfl) (some current) event orderly ⟨current, rfl, closed⟩
        rw [same] at member
        cases member
        exact Or.inr still

/-- What an orderly run from an open connection reaches is sound. -/
theorem sound_run {start : WebRtcConnection} (opened : start.Open) {events : List Event}
    (orderly : Machine.Guarded step Orderly (some start) events) :
    ∀ current ∈ Machine.run step (some start) events, current.Sound := by
  refine @Machine.Guarded.run_invariant _ _ _ step _ (fun state => ∀ current ∈ state, current.Sound) sound_step
    (some start) _ orderly fun current member => ?_
  cases member
  exact Or.inl (Or.inl opened)

@[simp] theorem run_none (events : List Event) : Machine.run step none events = none := by
  induction events with
  | nil => rfl
  | cons event rest ih => exact ih

/-- A run in which a connection finishes closes it. -/
theorem close_mem {start current : WebRtcConnection} (opened : start.Open) {events : List Event}
    (reached : Machine.run step (some start) events = some current) (finished : current.globalState = .finished) :
    .close ∈ events := by
  by_contra never
  have initially : ∀ first ∈ some start, first.Unfinished := by
    intro first same
    cases same
    exact Or.inl opened
  have unclosed : ∀ event ∈ events, event ≠ .close := fun event member closing => never (closing ▸ member)
  have unfinished := @Machine.run_invariant _ _ _ step (fun state => ∀ current ∈ state, current.Unfinished)
    (· ≠ .close) unfinished_step _ initially _ unclosed
  rcases unfinished current reached with still | failed
  · exact still.2.1 finished
  · rw [finished] at failed
    exact nomatch failed.2

/-! ### Final closes -/

/-- Where every close is final, that holds up to any point of the run. -/
theorem ClosesForGood.of_prefix {start : WebRtcConnection} {first events : List Event}
    (final : start.ClosesForGood events) (before : first <+: events) : start.ClosesForGood first :=
  ⟨fun _ _ inside => final.closed _ _ (inside.trans before), fun _ _ inside => final.failed _ _ (inside.trans before)⟩

/-- A step after which every close is still final was orderly. -/
theorem orderly_of_closesForGood {start : WebRtcConnection} (opened : start.Open) {earlier : List Event}
    {event : Event} (final : start.ClosesForGood (earlier ++ [event]))
    (orderly : Machine.Guarded step Orderly (some start) earlier) :
    Orderly (Machine.run step (some start) earlier) event := by
  intro current reached
  have sound := sound_run opened orderly current reached
  cases event with
  | updateState state =>
      intro finished
      obtain ⟨before, later, rfl⟩ := List.append_of_mem (close_mem opened reached finished)
      have split : before ++ .close :: later = (before ++ [.close]) ++ later := by simp
      rw [split, Machine.run_append] at reached
      obtain ⟨closed, first⟩ : ∃ closed, Machine.run step (some start) (before ++ [.close]) = some closed := by
        refine Option.ne_none_iff_exists'.mp fun lost => ?_
        rw [lost, run_none] at reached
        exact absurd reached (Option.not_mem_none current)
      rw [first] at reached
      have upTo := final.closed before later (List.prefix_append _ _) closed first
      have onward := final.closed before (later ++ [.updateState state]) (by simp) closed first
      obtain ⟨now, here, -, unchanged⟩ := upTo.2.2.1
      obtain ⟨last, there, -, still⟩ := onward.2.2.1
      cases Option.some.inj (here.symm.trans reached)
      rw [Machine.run_append, here] at there
      cases reported : current.updateState state with
      | none =>
          rw [Machine.run_cons, step, reported] at there
          exact absurd there (Option.not_mem_none last)
      | some result =>
          rw [Machine.run_cons, step, reported] at there
          cases there
          exact ignores_of_finished finished reported (still.trans (unchanged.symm.trans finished))
  | close =>
      intro failed
      have stopped := sound.stopped_of_failed failed
      have same : Machine.run step (some start) (earlier ++ [.close]) = some current := by
        rw [Machine.run_append, show Machine.run step (some start) earlier = some current from reached]
        exact congrArg some (syncClose_stopped stopped)
      exact (final.closed earlier [] List.prefix_rfl current same).1
  | transportState mediaType state => trivial

/-- In an orderly run a close is complete, and final whatever follows it. -/
theorem closed_of_orderly {start : WebRtcConnection} (opened : start.Open) {before later : List Event}
    (orderly : Machine.Guarded step Orderly (some start) (before ++ .close :: later)) {connection : WebRtcConnection}
    (reached : Machine.run step (some start) (before ++ [.close]) = some connection) :
    ∃ last, (last = .finished ∨ last = .failed) ∧ connection.Over last ∧
      (∃ next, Machine.run step (some connection) later = some next ∧ next.Over last) ∧
      ∀ actions ∈ Machine.outputs step (some connection) later, Silent actions := by
  obtain ⟨earlier, closing, onward⟩ := Machine.guarded_append.mp orderly
  have sound := sound_run opened earlier
  rw [Machine.run_append] at reached
  cases state : Machine.run step (some start) before with
  | none =>
      rw [state] at reached
      exact absurd reached (Option.not_mem_none connection)
  | some current =>
      rw [state] at reached closing onward
      cases reached
      obtain ⟨last, ended, closed⟩ := syncClose_over (sound current state) closing
      have keeps := over_step ended
      have stays := @Machine.Guarded.run_invariant _ _ _ step _
        (fun state => ∃ next, state = some next ∧ next.Over last)
        (fun state event asked now => (keeps state event asked now).1) _ _ onward ⟨_, rfl, closed⟩
      have quiet := Machine.Guarded.forall_outputs (fun state event asked now => (keeps state event asked now).1)
        (fun state event asked now => (keeps state event asked now).2) onward ⟨_, rfl, closed⟩
      exact ⟨last, ended, closed, stays, quiet⟩

/-- What has failed stays failed. -/
theorem failed_run {connection : WebRtcConnection} (stopped : connection.sending = false)
    (failed : connection.globalState = .failed) (events : List Event) :
    ∃ last, Machine.run step (some connection) events = some last ∧ last.globalState = .failed := by
  obtain ⟨last, same, -, still⟩ := @Machine.run_invariant _ _ _ step
    (fun state => ∃ next, state = some next ∧ next.sending = false ∧ next.globalState = .failed) (fun _ => True)
    failed_step _ ⟨connection, rfl, stopped, failed⟩ events (fun _ _ => trivial)
  exact ⟨last, same, still⟩

/-- **Every close is final and complete, and a failure is final, in the orderly runs and in no others.** -/
theorem closesForGood_iff {start : WebRtcConnection} (opened : start.Open) (events : List Event) :
    start.ClosesForGood events ↔ Machine.Guarded step Orderly (some start) events := by
  constructor
  · intro final
    induction events using List.reverseRecOn with
    | nil => trivial
    | append_singleton earlier event ih =>
        have before := ih (final.of_prefix (List.prefix_append earlier [event]))
        exact Machine.guarded_append.mpr ⟨before, orderly_of_closesForGood opened final before, trivial⟩
  · intro orderly
    refine ⟨fun before later inside connection reached => ?_, fun before later inside connection reached failed => ?_⟩
    · obtain ⟨rest, rfl⟩ := inside
      obtain ⟨last, ended, closed, ⟨next, same, still⟩, quiet⟩ :=
        closed_of_orderly opened (Machine.guarded_append.mp orderly).1 reached
      exact ⟨closed.1, closed.2.2 ▸ ended, ⟨next, same, still.1, still.2.2.trans closed.2.2.symm⟩, quiet⟩
    · obtain ⟨rest, rfl⟩ := inside
      have upTo := (Machine.guarded_append.mp (Machine.guarded_append.mp orderly).1).1
      exact failed_run ((sound_run opened upTo connection reached).stopped_of_failed failed) failed later

/-! ### A bundled connection -/

/-- A stream. -/
def stream : MediaStream where
  object := 1
  audioSourceSSRC := 1
  videoSourceSSRCList := [2]
  audioSinkSSRC := 3
  videoSinkSSRC := 4
  maxVideoBW := 0
  isSimulcast := false
  isSlideShowModeEnabled := false
  videoBitrate := 0
  bitrateFromMaxQualityLayer := 0

/-- An SDP with one medium. -/
def videoOnly : SdpInfo :=
  { SdpInfo.init ⟨0, .video, 0, false, 0, .sendrecv, .sendrecv⟩ [] with isBundle := true, hasVideo := true }

/-- A bundled connection with one stream, before its transport has started. -/
def bundled : WebRtcConnection where
  globalState := .initial
  sending := true
  bundle := true
  trickleEnabled := true
  connEventListener := true
  mediaStreams := [stream]
  videoTransport := some ⟨.initial, false⟩
  audioTransport := none
  remoteSdp := videoOnly
  localSdp := videoOnly

theorem bundled_open : bundled.Open := ⟨rfl, nofun, nofun⟩

theorem bundled_closesForGood : bundled.ClosesForGood
    [.updateState .started, .updateState .gathered, .updateState .ready, .close, .transportState .video .failed,
      .updateState .gathered, .close, .updateState .finished] :=
  (closesForGood_iff bundled_open _).mpr (by
    refine ⟨?_, ?_, ?_, ?_, ?_, ?_, ?_, ?_, trivial⟩ <;> rintro current ⟨⟩
    · exact nofun
    · exact nofun
    · exact nofun
    · exact nofun
    · trivial
    · exact fun _ => Or.inr ⟨rfl, Or.inl rfl⟩
    · exact nofun
    · exact fun _ => Or.inr trivial)

/-- A failure before the close leaves the stream, a report after it takes the connection out of its last state. -/
theorem bundled_not_closesForGood :
    bundled.Open ∧ ¬ bundled.ClosesForGood [.updateState .failed, .close] ∧
      ¬ bundled.ClosesForGood [.close, .updateState .started] := by
  refine ⟨bundled_open, fun final => ?_, fun final => ?_⟩
  · exact List.cons_ne_nil _ _ (final.closed [.updateState .failed] [] List.prefix_rfl _ rfl).1.1
  · obtain ⟨last, reached, -, same⟩ := (final.closed [] [.updateState .started] List.prefix_rfl _ rfl).2.2.1
    cases reached
    exact nomatch same

end WebRtcConnection

end Erizo
