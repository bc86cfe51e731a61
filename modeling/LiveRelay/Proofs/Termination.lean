/-
Module: LiveRelay.Proofs.Termination
Purpose: What a call that begins to close a connection, or terminates it, leaves when it returns, while
  any number of other calls are under way on the connection.
Main exports: ConnState.IsShut, CloseStage.Vouched, Contested.Lawful, Contested.Lawful.run,
  Contested.shut_for_good, Contested.open_after_termination
-/
import LiveRelay.Proofs.Connection.Contested

namespace LiveRelay

open Net

/-- The closing of the connection has begun. -/
def ConnState.IsShut (state : ConnState) : Prop := state = .closing ∨ state = .closed

namespace CloseStage

variable {state later : ConnState} {stage : CloseStage}

/-- What the stage of a call that begins to close tells of the connection. If its first exchange
failed on an open connection, that was not open before; if both failed, either somebody else has shut
it or somebody opened it between them. -/
def Vouched (state : ConnState) : CloseStage → Prop
  | .tryOpen => True
  | .tryConnecting first => first = .connecting ∨ state.IsShut
  | .returned outcome => outcome = .missed .connecting .open ∨ state.IsShut

theorem Vouched.mono (vouched : stage.Vouched state) (kept : state.IsShut → later.IsShut) :
    stage.Vouched later := by
  cases stage with
  | tryOpen => trivial
  | tryConnecting first => exact vouched.imp_right kept
  | returned outcome => exact vouched.imp_right kept

theorem Vouched.step (vouched : stage.Vouched state) :
    (stage.step state).2.Vouched (stage.step state).1 := by
  cases stage with
  | tryOpen =>
      cases state with
      | connecting => exact .inl rfl
      | «open» => exact .inr (.inl rfl)
      | closing => exact .inr (.inl rfl)
      | closed => exact .inr (.inr rfl)
  | tryConnecting first =>
      cases state with
      | connecting => exact .inr (.inl rfl)
      | «open» =>
          rcases vouched with rfl | shut | shut
          · exact .inl rfl
          · cases shut
          · cases shut
      | closing => exact .inr (.inl rfl)
      | closed => exact .inr (.inr rfl)
  | returned outcome => exact vouched

/-- Exchanges only close a connection. -/
theorem isShut_step (shut : state.IsShut) (stage : CloseStage) :
    (stage.step state).1.IsShut := by
  rcases shut with rfl | rfl
  · cases stage <;> exact .inl rfl
  · cases stage <;> exact .inr rfl

end CloseStage

/-! ### One step of a call -/

namespace TerminateStage

variable {conn : Connection} {stage : TerminateStage}

theorem isShut_step (shut : conn.state.IsShut) (stage : TerminateStage) :
    (stage.step conn).1.state.IsShut := by
  cases stage with
  | closing stage => exact stage.isShut_step shut
  | _ => exact shut

theorem terminated_step (terminated : conn.terminated = true) (stage : TerminateStage) :
    (stage.step conn).1.terminated = true := by
  cases stage with
  | mark => rfl
  | _ => exact terminated

end TerminateStage

namespace SendStage

/-- Before it comes to terminating the connection, a call that sends touches neither the state nor the
mark of termination. -/
theorem step_of_sending (conn : Connection) (payload : Payload) {stage : SendStage}
    (sending : ∀ ending, stage ≠ .terminating ending) :
    (stage.step conn payload).1.state = conn.state ∧
      (stage.step conn payload).1.terminated = conn.terminated := by
  cases stage with
  | enter =>
      rw [SendStage.step]
      split
      · exact ⟨rfl, rfl⟩
      · split
        · exact ⟨rfl, rfl⟩
        · exact ⟨rfl, rfl⟩
  | terminating ending => exact absurd rfl (sending ending)
  | _ => exact ⟨rfl, rfl⟩

/-- Nor has it then anything to do with closing the connection. -/
theorem closing?_of_sending (conn : Connection) (payload : Payload) {stage : SendStage}
    (sending : ∀ ending, stage ≠ .terminating ending) :
    let later := Call.sending payload (stage.step conn payload).2
    later.closing? = none ∧ later.hasMarked = false ∧ later.isAnticipated = false := by
  cases stage with
  | look =>
      dsimp only [SendStage.step]
      split
      · exact ⟨rfl, rfl, rfl⟩
      · exact ⟨rfl, rfl, rfl⟩
  | enter =>
      dsimp only [SendStage.step]
      split
      · exact ⟨rfl, rfl, rfl⟩
      · split
        · exact ⟨rfl, rfl, rfl⟩
        · exact ⟨rfl, rfl, rfl⟩
  | countDropped =>
      dsimp only [SendStage.step]
      split
      · exact ⟨rfl, rfl, rfl⟩
      · exact ⟨rfl, rfl, rfl⟩
  | terminating ending => exact absurd rfl (sending ending)
  | _ => exact ⟨rfl, rfl, rfl⟩

end SendStage

namespace Call

variable {conn : Connection} {call : Call} {stage : CloseStage}

/-- Whether a call that begins to close the connection, or terminates it, has returned. -/
def hasEnded (call : Call) : Bool :=
  match call.closing? with
  | some (.returned _) => true
  | _ => call.isAnticipated

/-- Whether both exchanges of such a call failed because the connection was opened between them. -/
def wasOvertaken (call : Call) : Bool :=
  call.closing? = some (.returned (.missed .connecting .open))

/-- A call that marked the connection and has returned has made both its exchanges. -/
theorem returned_of_hasMarked (marked : call.hasMarked = true) (ended : call.hasEnded = true) :
    ∃ outcome, call.closing? = some (.returned outcome) := by
  unfold hasEnded at ended
  split at ended
  · next outcome returned => exact ⟨outcome, returned⟩
  · unfold hasMarked at marked
    unfold isAnticipated at ended
    split at marked
    · cases ended
    · cases ended
    · cases marked

/-- Only a call that sends becomes one by a step. -/
theorem sending_of_step {payload : Payload} {stage : SendStage}
    (sends : (call.step conn).2 = .sending payload stage) :
    ∃ before, call = .sending payload before ∧ stage = (before.step conn payload).2 := by
  cases call with
  | sending other before =>
      cases sends
      exact ⟨before, rfl, rfl⟩
  | _ => cases sends

/-- What one step of a call does to the state and the mark of termination of its connection. -/
structure Advances (conn : Connection) (call : Call) (next : Connection) (later : Call) : Prop where
  shut : conn.state.IsShut → next.state.IsShut
  terminated : conn.terminated = true → next.terminated = true
  vouched : (∀ stage, call.closing? = some stage → stage.Vouched conn.state) →
    ∀ stage, later.closing? = some stage → stage.Vouched next.state
  marked : call.hasMarked = true → later.hasMarked = true
  marks : next.terminated = true → conn.terminated = true ∨ later.hasMarked = true
  anticipated : later.isAnticipated = true → call.isAnticipated = true ∨ conn.terminated = true

/-- A step that leaves both alone, of a call that has nothing to do with closing. -/
theorem Advances.of_same {next : Connection} {later : Call} (state : next.state = conn.state)
    (terminated : next.terminated = conn.terminated) (before : call.hasMarked = false)
    (closing : later.closing? = none) (after : later.isAnticipated = false) :
    Advances conn call next later where
  shut shut := state ▸ shut
  terminated marked := terminated.trans marked
  vouched _ stage here := by
    rw [closing] at here
    cases here
  marked marked := by
    rw [before] at marked
    cases marked
  marks marked := .inl (terminated.symm.trans marked)
  anticipated found := by
    rw [after] at found
    cases found

/-- A call that terminates the connection, be it by itself or for one that sends. -/
theorem advances_terminating (conn : Connection) (stage : TerminateStage)
    (whole : TerminateStage → Call) (direct : ∀ stage, (whole stage).closing? =
      match stage with
      | .closing stage => some stage
      | _ => none)
    (marked : ∀ stage, (whole stage).hasMarked = (whole stage).closing?.isSome)
    (anticipated : ∀ stage, (whole stage).isAnticipated = true ↔ stage = .anticipated) :
    Advances conn (whole stage) (stage.step conn).1 (whole (stage.step conn).2) := by
  refine ⟨fun shut => stage.isShut_step shut, fun mark => stage.terminated_step mark, ?_, ?_, ?_, ?_⟩
  · intro vouched later here
    rw [direct] at here
    cases stage with
    | mark =>
        dsimp only [TerminateStage.step] at here
        split at here
        · next closing begun =>
          split at begun
          · cases begun
          · cases begun
            cases here
            trivial
        · cases here
    | closing stage =>
        cases here
        exact (vouched stage (direct _)).step
    | anticipated => cases here
  · rw [marked, marked, direct, direct]
    cases stage with
    | closing stage => exact fun _ => rfl
    | _ => exact fun none => nomatch none
  · rw [marked, direct]
    cases stage with
    | mark =>
        cases terminated : conn.terminated with
        | true => exact fun _ => .inl rfl
        | false =>
            dsimp only [TerminateStage.step]
            rw [terminated]
            exact fun _ => .inr rfl
    | closing stage => exact fun mark => .inl mark
    | anticipated => exact fun mark => .inl mark
  · rw [anticipated, anticipated]
    cases stage with
    | mark =>
        cases terminated : conn.terminated with
        | true => exact fun _ => .inr rfl
        | false =>
            dsimp only [TerminateStage.step]
            rw [terminated]
            exact fun found => nomatch found
    | closing stage => exact fun found => nomatch found
    | anticipated => exact fun _ => .inl rfl

theorem advances_step (conn : Connection) (call : Call) :
    Advances conn call (call.step conn).1 (call.step conn).2 := by
  cases call with
  | opening =>
      refine ⟨?_, id, fun _ _ here => (nomatch here), id, .inl, fun found => (nomatch found)⟩
      rintro (shut | shut)
      · exact .inl (congrArg (fun state : ConnState => state.opened.2) shut)
      · exact .inr (congrArg (fun state : ConnState => state.opened.2) shut)
  | opened moved => exact .of_same rfl rfl rfl rfl rfl
  | closing stage =>
      refine ⟨fun shut => stage.isShut_step shut, id, ?_, id, .inl, .inl⟩
      intro vouched later here
      cases here
      exact (vouched stage rfl).step
  | finishing =>
      exact ⟨fun _ => .inr rfl, id, fun _ _ here => (nomatch here), id, .inl,
        fun found => (nomatch found)⟩
  | finished => exact .of_same rfl rfl rfl rfl rfl
  | terminating stage =>
      exact advances_terminating conn stage .terminating (fun stage => by cases stage <;> rfl)
        (fun stage => by cases stage <;> rfl)
        fun stage => by cases stage <;> simp [Call.isAnticipated]
  | sending payload stage =>
      by_cases ends : ∃ ending, stage = .terminating ending
      · obtain ⟨ending, rfl⟩ := ends
        exact advances_terminating conn ending (fun ending => .sending payload (.terminating ending))
          (fun stage => by cases stage <;> rfl) (fun stage => by cases stage <;> rfl)
          fun stage => by cases stage <;> simp [Call.isAnticipated]
      · have sending (ending : TerminateStage) : stage ≠ .terminating ending :=
          fun same => ends ⟨ending, same⟩
        obtain ⟨state, terminated⟩ := SendStage.step_of_sending conn payload sending
        obtain ⟨closing, _, found⟩ := SendStage.closing?_of_sending conn payload sending
        refine .of_same state terminated ?_ closing found
        cases stage with
        | terminating ending => exact absurd rfl (sending ending)
        | _ => rfl

end Call

/-! ### All calls -/

namespace Contested

variable {contested next : Contested}

/-- Every call that has begun to close the connection vouches for its state, and the mark of
termination is there exactly if a call has set it. -/
structure Lawful (contested : Contested) : Prop where
  vouched : ∀ call ∈ contested.calls, ∀ stage, call.closing? = some stage →
    stage.Vouched contested.conn.state
  marked : contested.conn.terminated = true → ∃ call ∈ contested.calls, call.hasMarked = true
  anticipated : ∀ call ∈ contested.calls, call.isAnticipated = true →
    contested.conn.terminated = true

theorem Lawful.fresh {conn : Connection} (unterminated : conn.terminated = false) :
    (Contested.fresh conn).Lawful where
  vouched _ member := nomatch member
  marked marked := by
    rw [Contested.fresh, unterminated] at marked
    cases marked
  anticipated _ member := nomatch member

theorem state_touched (conn : Connection) {touch : Touch} (passive : isPassive touch = true) :
    (conn.touched touch).state = conn.state ∧
      (conn.touched touch).terminated = conn.terminated := by
  cases touch with
  | offer payload => cases passive
  | probe => cases passive
  | terminate => cases passive
  | markAlive => exact ⟨rfl, rfl⟩
  | receive =>
      obtain ⟨queues, read⟩ := conn.snd_receive
      rw [Connection.touched, read]
      exact ⟨rfl, rfl⟩
  | receiveControl =>
      obtain ⟨queues, read⟩ := conn.snd_receiveControl
      rw [Connection.touched, read]
      exact ⟨rfl, rfl⟩
  | dropQueues => exact ⟨rfl, rfl⟩

theorem request_call (request : ConnRequest) :
    (∀ stage, request.call.closing? = some stage → stage = .tryOpen) ∧
      request.call.isAnticipated = false := by
  cases request with
  | beginClose => exact ⟨fun stage here => (Option.some.inj here).symm, rfl⟩
  | _ => exact ⟨fun stage here => (nomatch here), rfl⟩

theorem Lawful.call (lawful : contested.Lawful) (request : ConnRequest) :
    Lawful { contested with calls := contested.calls ++ [request.call] } where
  vouched call member stage here := by
    rcases List.mem_append.1 member with before | last
    · exact lawful.vouched call before stage here
    · obtain rfl := List.mem_singleton.1 last
      obtain rfl := (request_call request).1 stage here
      trivial
  marked marked := by
    obtain ⟨call, member, marks⟩ := lawful.marked marked
    exact ⟨call, List.mem_append_left _ member, marks⟩
  anticipated call member found := by
    rcases List.mem_append.1 member with before | last
    · exact lawful.anticipated call before found
    · obtain rfl := List.mem_singleton.1 last
      rw [(request_call request).2] at found
      cases found

theorem Lawful.callStep (lawful : contested.Lawful) {k : Nat} {call : Call}
    (here : contested.calls[k]? = some call) :
    Lawful ⟨(call.step contested.conn).1, contested.calls.set k (call.step contested.conn).2⟩ := by
  have advances := call.advances_step contested.conn
  have member := List.mem_of_getElem? here
  obtain ⟨within, rfl⟩ := List.getElem?_eq_some_iff.1 here
  constructor
  case vouched =>
    intro other present stage stands
    rcases List.mem_or_eq_of_mem_set present with before | rfl
    · exact (lawful.vouched other before stage stands).mono advances.shut
    · exact advances.vouched (lawful.vouched _ member) stage stands
  case marked =>
    intro marked
    rcases advances.marks marked with before | marks
    · obtain ⟨other, present, marks⟩ := lawful.marked before
      obtain ⟨place, there⟩ := List.getElem?_of_mem present
      by_cases same : k = place
      · subst same
        obtain rfl := Option.some.inj (here.symm.trans there)
        exact ⟨_, List.mem_set within _, advances.marked marks⟩
      · exact ⟨other, List.mem_of_getElem? ((List.getElem?_set_ne same).trans there), marks⟩
    · exact ⟨_, List.mem_set within _, marks⟩
  case anticipated =>
    intro other present found
    rcases List.mem_or_eq_of_mem_set present with before | rfl
    · exact advances.terminated (lawful.anticipated other before found)
    · rcases advances.anticipated found with before | terminated
      · exact advances.terminated (lawful.anticipated _ member before)
      · exact advances.terminated terminated

theorem Lawful.step (lawful : contested.Lawful) (move : Move) : (contested.step move).Lawful := by
  have steps := steps_step contested move
  generalize contested.step move = next at steps
  cases steps with
  | stay => exact lawful
  | call request => exact lawful.call request
  | step here => exact lawful.callStep here
  | touch passive =>
      obtain ⟨state, terminated⟩ := state_touched contested.conn passive
      constructor
      · intro call member stage here
        rw [state]
        exact lawful.vouched call member stage here
      · rw [terminated]
        exact lawful.marked
      · rw [terminated]
        exact lawful.anticipated

theorem Lawful.run (lawful : contested.Lawful) (moves : List Move) :
    (contested.run moves).Lawful :=
  run_keeps (fun _ move lawful => lawful.step move) moves lawful

/-- A call that has returned has shut the connection, or was overtaken, or relied on another one that
was overtaken or has not returned yet. -/
theorem Lawful.shut_of_ended (lawful : contested.Lawful) {call : Call}
    (member : call ∈ contested.calls) (ended : call.hasEnded = true) :
    contested.conn.state.IsShut ∨ call.wasOvertaken = true ∨
      call.isAnticipated = true ∧ ∃ other ∈ contested.calls, other.hasMarked = true ∧
        (other.wasOvertaken = true ∨ other.hasEnded = false) := by
  have own {one : Call} (present : one ∈ contested.calls) {outcome : CloseOutcome}
      (returned : one.closing? = some (.returned outcome)) :
      contested.conn.state.IsShut ∨ one.wasOvertaken = true := by
    rcases lawful.vouched one present _ returned with rfl | shut
    · exact .inr (decide_eq_true returned)
    · exact .inl shut
  unfold Call.hasEnded at ended
  split at ended
  · next outcome returned => exact (own member returned).imp_right .inl
  · obtain ⟨other, present, marks⟩ := lawful.marked (lawful.anticipated call member ended)
    cases pending : other.hasEnded with
    | false => exact .inr (.inr ⟨ended, other, present, marks, .inr pending⟩)
    | true =>
        obtain ⟨outcome, returned⟩ := Call.returned_of_hasMarked marks pending
        rcases own present returned with shut | overtaken
        · exact .inl shut
        · exact .inr (.inr ⟨ended, other, present, marks, .inl overtaken⟩)

/-! ### From then on -/

/-- The connection is shut, and no call that began to send a payload since has come further than to
look at its state. -/
structure Silent (since : Nat) (contested : Contested) : Prop where
  shut : contested.conn.state.IsShut
  skipped : ∀ (k : Nat) (payload : Payload) (stage : SendStage), since ≤ k →
    contested.calls[k]? = some (.sending payload stage) →
      stage = .look ∨ stage = .returned .skipped

theorem Silent.callStep {since k : Nat} {call : Call} (silent : contested.Silent since)
    (here : contested.calls[k]? = some call) :
    Silent since
      ⟨(call.step contested.conn).1, contested.calls.set k (call.step contested.conn).2⟩ where
  shut := (call.advances_step contested.conn).shut silent.shut
  skipped place payload stage later there := by
    by_cases same : k = place
    · subst same
      have within := (List.getElem?_eq_some_iff.1 here).1
      have moved := Option.some.inj ((List.getElem?_set_self within).symm.trans there)
      obtain ⟨before, rfl, rfl⟩ := Call.sending_of_step moved
      rcases silent.skipped k payload before later here with rfl | rfl
      · have closed : contested.conn.isOpen = false := by
          rcases silent.shut with state | state <;> simp [Connection.isOpen, state]
        rw [SendStage.step, closed]
        exact .inr rfl
      · exact .inr rfl
    · exact silent.skipped place payload stage later ((List.getElem?_set_ne same).symm.trans there)

theorem Silent.step {since : Nat} (silent : contested.Silent since) (move : Move) :
    (contested.step move).Silent since := by
  have steps := steps_step contested move
  generalize contested.step move = next at steps
  cases steps with
  | stay => exact silent
  | call request =>
      refine ⟨silent.shut, fun k payload stage later here => ?_⟩
      rcases getElem?_concat_cases here with before | ⟨rfl, begun⟩
      · exact silent.skipped k payload stage later before
      · cases request with
        | send other =>
            cases begun
            exact .inl rfl
        | _ => cases begun
  | step here => exact silent.callStep here
  | touch passive =>
      obtain ⟨state, _⟩ := state_touched contested.conn passive
      refine ⟨?_, silent.skipped⟩
      rw [state]
      exact silent.shut

theorem Silent.run {since : Nat} (silent : contested.Silent since) (moves : List Move) :
    (contested.run moves).Silent since :=
  run_keeps (fun _ move silent => silent.step move) moves silent

/-- Once a connection is shut it stays so, and whoever begins to send a payload afterwards skips
it. -/
theorem Silent.of_shut (shut : contested.conn.state.IsShut) :
    contested.Silent contested.calls.length where
  shut := shut
  skipped _ _ _ later here :=
    absurd (List.getElem?_eq_some_iff.1 here).1 (Nat.not_lt.2 later)

/-- However the steps of any number of calls on a new connection mix, of calls that open it, begin or
finish to close it, terminate it or send to it: as soon as one that begins to close it or terminates
it has returned, the connection is shut, unless the connection was opened between the two exchanges
of that call, or the call found the connection marked, and the call that marked it was overtaken in
the same way or has not returned. And once the connection is shut it is so for good, and no call that
begins then to send a payload queues it. -/
theorem shut_for_good (id : ConnId) (peer : SocketAddress) (channel : Option Channel)
    (capacity : Nat) (overflow : OverflowPolicy) (moves : List Move) :
    let contested := (fresh (.new id peer channel capacity overflow)).run moves
    (∀ call ∈ contested.calls, call.hasEnded = true →
      contested.conn.state.IsShut ∨ call.wasOvertaken = true ∨
        call.isAnticipated = true ∧ ∃ other ∈ contested.calls, other.hasMarked = true ∧
          (other.wasOvertaken = true ∨ other.hasEnded = false)) ∧
    (contested.conn.state.IsShut → ∀ others : List Move,
      let later := contested.run others
      later.conn.state.IsShut ∧
        ∀ (k : Nat) (payload : Payload) (stage : SendStage), contested.calls.length ≤ k →
          later.calls[k]? = some (.sending payload stage) →
            stage = .look ∨ stage = .returned .skipped) := by
  intro contested
  have lawful : contested.Lawful := (Lawful.fresh rfl).run moves
  refine ⟨fun call member ended => lawful.shut_of_ended member ended, fun shut others => ?_⟩
  have silent := (Silent.of_shut shut).run others
  exact ⟨silent.shut, silent.skipped⟩

/-- A payload is on its way to the queue of an open connection when one call terminates it; another
one finds it marked. -/
def endedInTime : List Move :=
  [.call .openUp, .step 0, .call (.send [1]), .step 1, .call .terminate, .step 2, .step 2,
    .call .terminate, .step 3]

theorem shut_for_good_of_endedInTime :
    let contested := (fresh (.new 1 default (some "a") 2 .dropNewest)).run endedInTime
    let later := contested.run [.step 1, .step 1, .call (.send [2]), .step 4, .step 4]
    contested.calls.countP Call.hasEnded = 2 ∧ later.conn.state.IsShut ∧
      later.conn.waiting = [[1]] ∧
      ∃ stage, later.calls[4]? = some (.sending [2] stage) ∧
        (stage = .look ∨ stage = .returned .skipped) := by
  intro contested later
  obtain ⟨ended, final⟩ := shut_for_good 1 default (some "a") 2 .dropNewest endedInTime
  have shut : contested.conn.state.IsShut := .inl (by decide +kernel)
  obtain ⟨still, skipped⟩ := final shut [.step 1, .step 1, .call (.send [2]), .step 4, .step 4]
  have sent : later.calls[4]? = some (.sending [2] (.returned .skipped)) := by decide +kernel
  exact ⟨by decide +kernel, still, by decide +kernel, _, sent,
    skipped 4 [2] (.returned .skipped) (by decide +kernel) sent⟩

/-- A call that terminates the connection finds it connecting; then it is opened, and the second
exchange of the call finds it open. -/
def overtaken : List Move :=
  [.call .openUp, .call .terminate, .step 1, .step 1, .step 0, .step 1]

/-- Of two calls that terminate an open connection, the second one returns while the first one has only
marked it. -/
def anticipated : List Move :=
  [.call .openUp, .step 0, .call .terminate, .step 1, .call .terminate, .step 2]

/-- So a call that terminates a connection can return and leave it open, and a payload that is sent
afterwards is queued. -/
theorem open_after_termination :
    let conn := Connection.new 1 default (some "a") 2 .dropNewest
    let first := (fresh conn).run overtaken
    let second := (fresh conn).run anticipated
    let sending (k : Nat) : List Move := [.call (.send [1]), .step k, .step k, .step k]
    (first.calls =
        [.opened true, .terminating (.closing (.returned (.missed .connecting .open)))] ∧
      first.conn.state = .open ∧ (first.run (sending 2)).conn.waiting = [[1]] ∧
      (first.run (sending 2)).calls[2]? = some (.sending [1] (.returned .queued))) ∧
    (second.calls =
        [.opened true, .terminating (.closing .tryOpen), .terminating .anticipated] ∧
      second.conn.state = .open ∧ (second.run (sending 3)).conn.waiting = [[1]] ∧
      (second.run (sending 3)).calls[3]? = some (.sending [1] (.returned .queued))) := by
  decide +kernel

end Contested

end LiveRelay
