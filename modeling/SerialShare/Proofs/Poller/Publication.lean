import SerialShare.Device.Playback
import SerialShare.Proofs.Poller.Play
import SerialShare.Service

/-!
# What the poller publishes

A poller is asked for rotations and single requests in any order, over a link that answers in any
way and fails at any point.  The transcript of a call is what was done on the link.  Which status a
call publishes, and what a finished rotation comes to, can be read off its transcript alone: only
the bytes collected right after the status request of a rotation count.

The main statement follows by induction along the calls: readers see the last status that such bytes
decode to.
-/

namespace SerialShare
namespace Poller

open Device (Command Response)

variable {State : Type}

/-! ## Calls and their transcripts -/

/-- What a poller is asked for. -/
inductive Call where
  /-- One rotation. -/
  | poll
  /-- A single request. -/
  | request (command : Command)
  deriving DecidableEq, Repr

/-- A call carried out: what was done on the link, and what the call came to. -/
inductive Transcript where
  /-- One rotation. -/
  | polled (operations : List Operation) (ending : Ending Outcome)
  /-- A single request. -/
  | requested (command : Command) (operations : List Operation) (ending : Ending Response)

/-- What was done on the link during a call. -/
def Transcript.operations : Transcript → List Operation
  | polled operations _ => operations
  | requested _ operations _ => operations

/-- Carry out one call. -/
def call (link : Device.Link State) (timing : Timing) (clock : Clock) (station : Station State) :
    Call → Station State × Transcript
  | .poll =>
    let played := play link clock station (rotation timing)
    (played.station, .polled played.operations played.ending)
  | .request command =>
    let played := play link clock station (request timing command)
    (played.station, .requested command played.operations played.ending)

/-- Carry out calls one after the other, whether or not the earlier ones failed. -/
def calls (link : Device.Link State) (timing : Timing) (clock : Clock) :
    Station State → List Call → Station State × List Transcript
  | station, [] => (station, [])
  | station, first :: later =>
    let (station, transcript) := call link timing clock station first
    let (station, transcripts) := calls link timing clock station later
    (station, transcript :: transcripts)

/-- The step of a service that asks for a call. -/
def Call.step : Call → Step
  | .poll => .poll
  | .request command => .request command

/-- A service carries out the same calls. -/
theorem station_perform
    {service : Service State}
    {polling : Polling State}
    (atHand : service.polling = some polling)
    (asked : Call) :
    (service.perform asked.step).1.station =
      (call polling.link polling.timing (Service.clock none) service.station asked).1 := by
  cases asked with
  | poll => simp only [Call.step, Service.perform, atHand, call]
  | request command => simp only [Call.step, Service.perform, atHand, call]

/-- The bytes collected right after a command was written. -/
def answerTo (command : Command) : List Operation → Option Bytes
  | ⟨_, .wrote bytes (.ok ())⟩ :: ⟨_, .took (.ok answer)⟩ :: later =>
    if bytes = command.wire then some answer else answerTo command later
  | _ :: later => answerTo command later
  | [] => none

/-- The status that bytes decode to, if there are any and they do. -/
def decoded? (bytes : Bytes) : Option Status :=
  if bytes = [] then none else (Frame.decode bytes).toOption

/-- The status that a call publishes, if it publishes one. -/
def Transcript.published? : Transcript → Option Status
  | polled operations _ => (answerTo .statusRequest operations).bind decoded?
  | requested _ _ _ => none

/-- What a rotation comes to, given the bytes collected after its status request. -/
def verdict (bytes : Bytes) : Outcome :=
  if bytes = [] then .noData
  else
    match Frame.decode bytes with
    | .ok _ => .published
    | .error reason => .rejected reason

/-! ## Parts of a rotation -/

/-- No bytes were collected. -/
def Fruitless (operations : List Operation) : Prop :=
  ∀ operation ∈ operations, ∀ bytes, operation.action ≠ .took (.ok bytes)

theorem answerTo_of_fruitless
    (command : Command)
    {operations : List Operation}
    (fruitless : Fruitless operations) :
    answerTo command operations = none := by
  induction operations using answerTo.induct command with
  | case1 wroteAt tookAt answer later =>
      exact absurd rfl (fruitless ⟨tookAt, .took (.ok answer)⟩ (by simp) answer)
  | case2 wroteAt bytes tookAt answer later different inductionHypothesis =>
      exact absurd rfl (fruitless ⟨tookAt, .took (.ok answer)⟩ (by simp) answer)
  | case3 operation later other inductionHypothesis =>
      rw [answerTo]
      · apply inductionHypothesis
        intro operation present
        exact fruitless operation (List.mem_cons_of_mem _ present)
      · exact other
  | case4 => rfl

/-- Bytes collected after another command are none of a command's. -/
theorem answerTo_append
    {command other : Command}
    (different : other ≠ command)
    (wroteAt tookAt : Nat)
    (answer : Bytes)
    (later : List Operation) :
    answerTo command
        (⟨wroteAt, .wrote other.wire (.ok ())⟩ :: ⟨tookAt, .took (.ok answer)⟩ :: later) =
      answerTo command later := by
  have wireDifferent : other.wire ≠ command.wire := by
    intro equal
    have recognised := Command.ofWire?_wire other
    rw [equal, Command.ofWire?_wire] at recognised
    exact different (Option.some.inj recognised).symm
  rw [answerTo, if_neg wireDifferent]

theorem answerTo_self
    (command : Command)
    (wroteAt tookAt : Nat)
    (answer : Bytes)
    (later : List Operation) :
    answerTo command
        (⟨wroteAt, .wrote command.wire (.ok ())⟩ :: ⟨tookAt, .took (.ok answer)⟩ :: later) =
      some answer := by
  rw [answerTo, if_pos rfl]

variable {link : Device.Link State} {clock : Clock} {timing : Timing} {station : Station State}

theorem RequestCourse.board_eq
    {command : Command}
    {played : Played State Response}
    (course : RequestCourse link clock timing station command played) :
    played.station.board = station.board := by
  cases course <;> rfl

/-- A request that comes to a response has collected its bytes, and one that comes to none has
collected nothing. -/
theorem RequestCourse.answered_or_fruitless
    {command : Command}
    {played : Played State Response}
    (course : RequestCourse link clock timing station command played) :
    (∃ wroteAt tookAt bytes,
      played.operations =
        [⟨wroteAt, .wrote command.wire (.ok ())⟩, ⟨tookAt, .took (.ok bytes)⟩] ∧
      played.ending = .finished (.ofBytes bytes)) ∨
    (Fruitless played.operations ∧ ∀ response, played.ending ≠ .finished response) := by
  cases course with
  | answered bytes settled written waited collected =>
      exact Or.inl ⟨_, _, bytes, rfl, rfl⟩
  | unreadable fault settled written waited failed =>
      exact Or.inr ⟨by simp [Fruitless], fun response => by simp⟩
  | unwritable fault settled failed =>
      exact Or.inr ⟨by simp [Fruitless], fun response => by simp⟩
  | late deadline limited settled written early =>
      exact Or.inr ⟨by simp [Fruitless], fun response => by simp⟩
  | tooLate deadline limited early =>
      exact Or.inr ⟨by simp [Fruitless], fun response => by simp⟩

/-- The board after bytes were collected for a status request. -/
def Board.shown (board : Board) (bytes : Bytes) : Board :=
  match decoded? bytes with
  | some status => board.publish status
  | none => board

theorem Board.latest_shown
    (board : Board)
    (bytes : Bytes) :
    (Board.shown board bytes).latest = (decoded? bytes).or board.latest := by
  unfold Board.shown
  cases decoded? bytes with
  | none => rfl
  | some status => rfl

/-- Judging bytes takes no time and does nothing on the link. -/
theorem play_publication
    (link : Device.Link State)
    (clock : Clock)
    (station : Station State)
    (bytes : Bytes) :
    ∃ events, play link clock station (publication (.ofBytes bytes)) =
      ⟨{ station with board := Board.shown station.board bytes }, [], events,
        .finished (verdict bytes)⟩ := by
  cases bytes with
  | nil => exact ⟨_, rfl⟩
  | cons byte bytes =>
      cases judged : Frame.decode (byte :: bytes) with
      | ok status =>
          refine ⟨[.statusPublished status], ?_⟩
          simp [Response.ofBytes, publication, judged, play, Played.after, Board.shown, decoded?,
            verdict, Except.toOption]
      | error reason =>
          refine ⟨[.frameRejected reason (.data (byte :: bytes))], ?_⟩
          simp [Response.ofBytes, publication, judged, play, Played.after, Board.shown, decoded?,
            verdict, Except.toOption]

/-- Auxiliary commands leave the board alone, and nothing that they collect is taken for an answer
to the status request. -/
theorem play_auxiliaries
    (link : Device.Link State)
    (clock : Clock)
    (timing : Timing)
    {commands : List Command}
    (auxiliary : Command.statusRequest ∉ commands)
    (station : Station State) :
    (play link clock station (auxiliaries timing commands)).station.board = station.board ∧
      answerTo .statusRequest
        (play link clock station (auxiliaries timing commands)).operations = none := by
  induction commands generalizing station with
  | nil => exact ⟨rfl, rfl⟩
  | cons command rest inductionHypothesis =>
      have different : command ≠ .statusRequest := by
        rintro rfl
        exact auxiliary List.mem_cons_self
      have restAuxiliary : Command.statusRequest ∉ rest := by
        intro present
        exact auxiliary (List.mem_cons_of_mem command present)
      have course := course_request link clock timing station command
      rw [auxiliaries, play_bind]
      generalize play link clock station (request timing command) = requested at course ⊢
      obtain ⟨wroteAt, tookAt, bytes, operations, ending⟩ | ⟨fruitless, unfinished⟩ :=
        course.answered_or_fruitless
      · obtain ⟨boardEqual, silent⟩ := inductionHypothesis restAuxiliary requested.station
        rw [Played.andThen_of_finished ending]
        simp only [play, Played.after, operations, List.cons_append, List.nil_append]
        rw [answerTo_append different, boardEqual, course.board_eq]
        exact ⟨rfl, silent⟩
      · obtain ⟨stationEqual, operationsEqual, _⟩ :=
          Played.andThen_of_unfinished unfinished fun station response =>
            play link clock station
              (.record (.auxiliaryAnswered command response) (auxiliaries timing rest))
        rw [stationEqual, operationsEqual]
        exact ⟨course.board_eq, answerTo_of_fruitless .statusRequest fruitless⟩

/-! ## One rotation -/

/-- What a rotation publishes and comes to depends on the bytes collected after its status request
alone, and it publishes before it sends an auxiliary command. -/
theorem play_rotation
    (link : Device.Link State)
    (clock : Clock)
    (timing : Timing)
    (station : Station State) :
    (play link clock station (rotation timing)).station.board.latest =
        ((answerTo .statusRequest (play link clock station (rotation timing)).operations).bind
          decoded?).or station.board.latest ∧
      ∀ outcome, (play link clock station (rotation timing)).ending = .finished outcome →
        ∃ bytes,
          answerTo .statusRequest (play link clock station (rotation timing)).operations =
            some bytes ∧
          outcome = verdict bytes := by
  have course := course_request link clock timing station .statusRequest
  rw [rotation, play_bind]
  generalize play link clock station (request timing .statusRequest) = requested at course ⊢
  obtain ⟨wroteAt, tookAt, bytes, operations, ending⟩ | ⟨fruitless, unfinished⟩ :=
    course.answered_or_fruitless
  · rw [Played.andThen_of_finished ending, play_bind]
    obtain ⟨events, published⟩ := play_publication link clock requested.station bytes
    rw [published, Played.andThen_of_finished rfl, play_bind]
    have auxiliary : Command.statusRequest ∉ Command.auxiliary := by decide
    obtain ⟨boardEqual, _⟩ := play_auxiliaries link clock timing auxiliary
      { requested.station with board := Board.shown requested.station.board bytes }
    generalize play link clock
      { requested.station with board := Board.shown requested.station.board bytes }
      (auxiliaries timing Command.auxiliary) = rest at boardEqual ⊢
    obtain ⟨stationEqual, resultEqual⟩ :=
      Played.andThen_done link clock rest (verdict bytes)
    simp only [Played.after, operations, List.cons_append, List.nil_append, answerTo_self,
      stationEqual, boardEqual, Board.latest_shown, course.board_eq, Option.bind_some, true_and]
    intro outcome finished
    exact ⟨bytes, rfl, resultEqual outcome finished⟩
  · obtain ⟨stationEqual, operationsEqual, unfinishedThen⟩ :=
      Played.andThen_of_unfinished unfinished fun station response =>
        play link clock station
          ((publication response).bind fun outcome =>
            (auxiliaries timing Command.auxiliary).bind fun _ => .done outcome)
    rw [stationEqual, operationsEqual, answerTo_of_fruitless .statusRequest fruitless,
      course.board_eq]
    refine ⟨rfl, fun outcome finished => ?_⟩
    exact absurd finished (unfinishedThen outcome)

/-! ## Any calls in any order -/

/-- The board after a call shows what the call published, or what it showed before. -/
theorem latest_call
    (link : Device.Link State)
    (timing : Timing)
    (clock : Clock)
    (station : Station State)
    (first : Call) :
    (call link timing clock station first).1.board.latest =
      (call link timing clock station first).2.published?.or station.board.latest := by
  cases first with
  | poll => exact (play_rotation link clock timing station).1
  | request command =>
      have course := course_request link clock timing station command
      simp only [call, Transcript.published?, course.board_eq, Option.none_or]

theorem carried_call
    (link : Device.Link State)
    (timing : Timing)
    (clock : Clock)
    (station : Station State)
    (first : Call) :
    Carried link station.device (call link timing clock station first).2.operations
      (call link timing clock station first).1.device := by
  cases first with
  | poll => exact carried_play link clock station (rotation timing)
  | request command => exact carried_play link clock station (request timing command)

theorem latest_calls
    (link : Device.Link State)
    (timing : Timing)
    (clock : Clock)
    (station : Station State)
    (asked : List Call) :
    (calls link timing clock station asked).1.board.latest =
      ((calls link timing clock station asked).2.filterMap
        Transcript.published?).getLast?.or station.board.latest := by
  induction asked generalizing station with
  | nil => rfl
  | cons first later inductionHypothesis =>
      simp only [calls, inductionHypothesis, latest_call, List.filterMap_cons]
      cases (call link timing clock station first).2.published? with
      | none => rfl
      | some status =>
          rw [List.getLast?_cons]
          cases ((calls link timing clock (call link timing clock station first).1
            later).2.filterMap Transcript.published?).getLast? with
          | none => rfl
          | some latest => rfl

theorem carried_calls
    (link : Device.Link State)
    (timing : Timing)
    (clock : Clock)
    (station : Station State)
    (asked : List Call) :
    Carried link station.device
      ((calls link timing clock station asked).2.flatMap Transcript.operations)
      (calls link timing clock station asked).1.device := by
  induction asked generalizing station with
  | nil => exact .nil station.device
  | cons first later inductionHypothesis =>
      simp only [calls, List.flatMap_cons]
      exact (carried_call link timing clock station first).append (inductionHypothesis _)

/-- Every rotation that comes to its end says what became of its status request. -/
theorem verdict_of_mem_calls
    (link : Device.Link State)
    (timing : Timing)
    (clock : Clock)
    (station : Station State)
    (asked : List Call)
    {operations : List Operation}
    {outcome : Outcome}
    (present : .polled operations (.finished outcome) ∈
      (calls link timing clock station asked).2) :
    ∃ bytes, answerTo .statusRequest operations = some bytes ∧ outcome = verdict bytes := by
  induction asked generalizing station with
  | nil => cases present
  | cons first later inductionHypothesis =>
      rw [calls, List.mem_cons] at present
      obtain equal | present := present
      · cases first with
        | poll =>
            injection equal with operationsEqual ending
            rw [operationsEqual]
            exact (play_rotation link clock timing station).2 outcome ending.symm
        | request command => cases equal
      · exact inductionHypothesis _ present

/-- Over any link and with any clock, after any calls, failed ones included, every reader sees the
last status that the bytes collected for the status request of a rotation decoded to, and nothing
as long as there was none.  A rotation that comes to its end says what those bytes were: published,
rejected with the reason, or none at all.  What the transcripts say is what the link did. -/
theorem readers_see_last_decoded
    (link : Device.Link State)
    (timing : Timing)
    (clock : Clock)
    (device : State)
    (now : Nat)
    (asked : List Call) :
    (∀ (store : Store) (reader : Nat),
      store.board = (calls link timing clock ⟨device, now, .empty⟩ asked).1.board →
      (store.caughtUp? reader).isSome →
      store.get reader =
        .ok ((calls link timing clock ⟨device, now, .empty⟩ asked).2.filterMap
          Transcript.published?).getLast?) ∧
    (∀ operations outcome,
      .polled operations (.finished outcome) ∈
        (calls link timing clock ⟨device, now, .empty⟩ asked).2 →
      ∃ bytes, answerTo .statusRequest operations = some bytes ∧ outcome = verdict bytes) ∧
    Carried link device
      ((calls link timing clock ⟨device, now, .empty⟩ asked).2.flatMap Transcript.operations)
      (calls link timing clock ⟨device, now, .empty⟩ asked).1.device := by
  refine ⟨?_, ?_, carried_calls link timing clock ⟨device, now, .empty⟩ asked⟩
  · intro store reader shared present
    obtain ⟨seen, caughtUp⟩ := Option.isSome_iff_exists.mp present
    simp only [Store.get, caughtUp, shared, latest_calls, Board.empty, Option.or_none]
  · intro operations outcome present
    exact verdict_of_mem_calls link timing clock ⟨device, now, .empty⟩ asked present

/-- The link fails in the middle of the first rotation, after its status was published.  A valid
frame as the answer to an auxiliary command or to a single request, and a frame that is too short,
change nothing later. -/
theorem readers_see_last_decoded_after_failures :
    let playback : Device.Playback :=
      ⟨[.ok (Frame.encode .example), .ok (Frame.encode { Status.example with relay := 7 }),
        .error Device.Playback.unplugged, .ok (Frame.encode { Status.example with relay := 8 }),
        .ok [0x54, 0x53]], none⟩
    let asked : List Call := [.poll, .request .statusRequest, .poll]
    let station : Station Device.Playback :=
      (calls (Device.Playback.link "line") .standard .exact ⟨playback, 0, .empty⟩ asked).1
    let store : Store := { Store.new with board := station.board }
    (store.caughtUp? 0).isSome ∧ store.get 0 = .ok (some .example) := by
  refine ⟨rfl, ?_⟩
  refine ((readers_see_last_decoded (Device.Playback.link "line") .standard .exact _ 0 _).1
    _ 0 rfl rfl).trans ?_
  exact congrArg Except.ok (by decide +kernel)

end Poller
end SerialShare
