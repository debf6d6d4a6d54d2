import SerialShare.Poller.Run

/-!
# How dialogues are carried out

A dialogue that goes on with another one is carried out by carrying out both, one after the other.
What is said to have been done on the link is what the link did, and nothing else touches the
device.

The last section says once what one request can do; everything about longer dialogues is derived
from that.
-/

namespace SerialShare
namespace Poller

open Device (Command Response)

variable {State Result Final : Type}

/-! ## One step of a dialogue -/

/-- Whether a clock lets a wait pass. -/
def Clock.Lets (clock : Clock) (wake : Nat) : Prop :=
  ∀ deadline, clock.deadline = some deadline → wake ≤ deadline

/-- What a wait comes to. -/
theorem play_wait
    (link : Device.Link State)
    (clock : Clock)
    (station : Station State)
    (milliseconds : UInt64)
    (next : Dialogue Result) :
    (clock.Lets (station.now + clock.span milliseconds) ∧
      play link clock station (.wait milliseconds next) =
        play link clock { station with now := station.now + clock.span milliseconds } next) ∨
    ∃ deadline, clock.deadline = some deadline ∧
      deadline < station.now + clock.span milliseconds ∧
      play link clock station (.wait milliseconds next) =
        ⟨{ station with now := deadline }, [], [], .interrupted⟩ := by
  cases limited : clock.deadline with
  | none =>
      left
      simp [Clock.Lets, play, limited]
  | some deadline =>
      by_cases early : deadline < station.now + clock.span milliseconds
      · right
        exact ⟨deadline, rfl, early, by simp only [play, limited, if_pos early]⟩
      · left
        refine ⟨?_, by simp only [play, limited, if_neg early]⟩
        intro other equal
        rw [limited] at equal
        cases equal
        omega

theorem play_send_ok
    {link : Device.Link State}
    {clock : Clock}
    {device : State}
    {now : Nat}
    {board : Board}
    {bytes : Bytes}
    {next : Dialogue Result}
    (written : (link.write device bytes).result = .ok ()) :
    play link clock ⟨device, now, board⟩ (.send bytes next) =
      (play link clock ⟨(link.write device bytes).state, now, board⟩ next).after
        [⟨now, .wrote bytes (.ok ())⟩] (link.write device bytes).events := by
  simp only [play, written]

theorem play_send_error
    {link : Device.Link State}
    {clock : Clock}
    {device : State}
    {now : Nat}
    {board : Board}
    {bytes : Bytes}
    {next : Dialogue Result}
    {fault : IoFault}
    (failed : (link.write device bytes).result = .error fault) :
    play link clock ⟨device, now, board⟩ (.send bytes next) =
      ⟨⟨(link.write device bytes).state, now, board⟩, [⟨now, .wrote bytes (.error fault)⟩],
        (link.write device bytes).events, .failed (.deviceIo link.name fault)⟩ := by
  simp only [play, failed]

theorem play_collect_ok
    {link : Device.Link State}
    {clock : Clock}
    {device : State}
    {now : Nat}
    {board : Board}
    {bytes : Bytes}
    {next : Bytes → Dialogue Result}
    (collected : (link.read device).result = .ok bytes) :
    play link clock ⟨device, now, board⟩ (.collect next) =
      (play link clock ⟨(link.read device).state, now, board⟩ (next bytes)).after
        [⟨now, .took (.ok bytes)⟩] (link.read device).events := by
  simp only [play, collected]

theorem play_collect_error
    {link : Device.Link State}
    {clock : Clock}
    {device : State}
    {now : Nat}
    {board : Board}
    {next : Bytes → Dialogue Result}
    {fault : IoFault}
    (failed : (link.read device).result = .error fault) :
    play link clock ⟨device, now, board⟩ (.collect next) =
      ⟨⟨(link.read device).state, now, board⟩, [⟨now, .took (.error fault)⟩],
        (link.read device).events, .failed (.deviceIo link.name fault)⟩ := by
  simp only [play, failed]

/-! ## One dialogue after another -/

/-- Go on where a dialogue came to its result. -/
def Played.andThen (played : Played State Result)
    (continuation : Station State → Result → Played State Final) : Played State Final :=
  match played.ending with
  | .finished result =>
    (continuation played.station result).after played.operations played.events
  | .failed fault => ⟨played.station, played.operations, played.events, .failed fault⟩
  | .interrupted => ⟨played.station, played.operations, played.events, .interrupted⟩

theorem Played.after_andThen
    (played : Played State Result)
    (operations : List Operation)
    (events : List Log.Event)
    (continuation : Station State → Result → Played State Final) :
    (played.after operations events).andThen continuation =
      (played.andThen continuation).after operations events := by
  cases ending : played.ending with
  | finished result => simp [andThen, after, ending, List.append_assoc]
  | failed fault => simp [andThen, after, ending]
  | interrupted => simp [andThen, after, ending]

/-- Where a dialogue comes to no result, nothing goes on. -/
theorem Played.andThen_of_unfinished
    {played : Played State Result}
    (unfinished : ∀ result, played.ending ≠ .finished result)
    (continuation : Station State → Result → Played State Final) :
    (played.andThen continuation).station = played.station ∧
      (played.andThen continuation).operations = played.operations ∧
      ∀ result, (played.andThen continuation).ending ≠ .finished result := by
  unfold andThen
  cases ending : played.ending with
  | finished result => exact absurd ending (unfinished result)
  | failed fault => exact ⟨rfl, rfl, fun result => by simp⟩
  | interrupted => exact ⟨rfl, rfl, fun result => by simp⟩

theorem Played.andThen_of_finished
    {played : Played State Result}
    {result : Result}
    (finished : played.ending = .finished result)
    (continuation : Station State → Result → Played State Final) :
    played.andThen continuation =
      (continuation played.station result).after played.operations played.events := by
  simp only [andThen, finished]

/-- Giving another result in the end changes nothing else. -/
theorem Played.andThen_done
    (link : Device.Link State)
    (clock : Clock)
    (played : Played State Result)
    (final : Final) :
    (played.andThen fun station _ => play link clock station (.done final)).station =
        played.station ∧
      ∀ result,
        (played.andThen fun station _ => play link clock station (.done final)).ending =
          .finished result → result = final := by
  cases ending : played.ending with
  | finished result =>
      rw [andThen_of_finished ending]
      refine ⟨rfl, ?_⟩
      rintro result ⟨⟩
      rfl
  | failed fault =>
      simp [andThen, ending]
  | interrupted =>
      simp [andThen, ending]

/-- A dialogue with a continuation is carried out one part after the other. -/
theorem play_bind
    (link : Device.Link State)
    (clock : Clock)
    (station : Station State)
    (dialogue : Dialogue Result)
    (continuation : Result → Dialogue Final) :
    play link clock station (dialogue.bind continuation) =
      (play link clock station dialogue).andThen fun station result =>
        play link clock station (continuation result) := by
  induction dialogue generalizing station with
  | done result =>
      simp [play, Played.andThen, Played.after]
  | wait milliseconds next inductionHypothesis =>
      cases deadline : clock.deadline with
      | none => simp only [Dialogue.bind_wait, play, deadline, inductionHypothesis]
      | some latest =>
          simp only [Dialogue.bind_wait, play, deadline]
          split
          · rfl
          · exact inductionHypothesis _
  | send bytes next inductionHypothesis =>
      cases answer : (link.write station.device bytes).result with
      | ok done =>
          simp only [Dialogue.bind_send, play, answer, inductionHypothesis, Played.after_andThen]
      | error fault => simp only [Dialogue.bind_send, play, answer, Played.andThen]
  | collect next inductionHypothesis =>
      cases answer : (link.read station.device).result with
      | ok bytes =>
          simp only [Dialogue.bind_collect, play, answer, inductionHypothesis,
            Played.after_andThen]
      | error fault => simp only [Dialogue.bind_collect, play, answer, Played.andThen]
  | publish status next inductionHypothesis =>
      simp only [Dialogue.bind_publish, play, inductionHypothesis]
  | record event next inductionHypothesis =>
      simp only [Dialogue.bind_record, play, inductionHypothesis, Played.after_andThen]

/-! ## What is said to have been done -/

/-- Operations are the answers of a link, one after the other, and lead from one state of the device
to another. -/
inductive Carried (link : Device.Link State) : State → List Operation → State → Prop
  | nil (device : State) : Carried link device [] device
  | wrote
      {device final : State}
      {later : List Operation}
      (instant : Nat)
      (bytes : Bytes)
      (rest : Carried link (link.write device bytes).state later final) :
      Carried link device
        (⟨instant, .wrote bytes (link.write device bytes).result⟩ :: later) final
  | took
      {device final : State}
      {later : List Operation}
      (instant : Nat)
      (rest : Carried link (link.read device).state later final) :
      Carried link device (⟨instant, .took (link.read device).result⟩ :: later) final

theorem Carried.append
    {link : Device.Link State}
    {first second third : State}
    {earlier later : List Operation}
    (carriedEarlier : Carried link first earlier second)
    (carriedLater : Carried link second later third) :
    Carried link first (earlier ++ later) third := by
  induction carriedEarlier with
  | nil device => exact carriedLater
  | wrote instant bytes rest inductionHypothesis =>
      exact .wrote instant bytes (inductionHypothesis carriedLater)
  | took instant rest inductionHypothesis =>
      exact .took instant (inductionHypothesis carriedLater)

/-- A dialogue reports what the link did, and nothing else reaches the device. -/
theorem carried_play
    (link : Device.Link State)
    (clock : Clock)
    (station : Station State)
    (dialogue : Dialogue Result) :
    Carried link station.device (play link clock station dialogue).operations
      (play link clock station dialogue).station.device := by
  induction dialogue generalizing station with
  | done result => exact .nil station.device
  | wait milliseconds next inductionHypothesis =>
      obtain ⟨_, played⟩ | ⟨deadline, _, _, played⟩ :=
        play_wait link clock station milliseconds next
      · rw [played]
        exact inductionHypothesis { station with now := station.now + clock.span milliseconds }
      · rw [played]
        exact .nil station.device
  | send bytes next inductionHypothesis =>
      obtain ⟨device, now, board⟩ := station
      have sent := inductionHypothesis ⟨(link.write device bytes).state, now, board⟩
      cases answer : (link.write device bytes).result with
      | ok done =>
          rw [play_send_ok answer, ← answer]
          exact .wrote now bytes sent
      | error fault =>
          rw [play_send_error answer, ← answer]
          exact .wrote now bytes (.nil _)
  | collect next inductionHypothesis =>
      obtain ⟨device, now, board⟩ := station
      cases answer : (link.read device).result with
      | ok bytes =>
          have collected := inductionHypothesis bytes ⟨(link.read device).state, now, board⟩
          rw [play_collect_ok answer, ← answer]
          exact .took now collected
      | error fault =>
          rw [play_collect_error answer, ← answer]
          exact .took now (.nil _)
  | publish status next inductionHypothesis =>
      exact inductionHypothesis { station with board := station.board.publish status }
  | record event next inductionHypothesis => exact inductionHypothesis station

/-! ## One request -/

/-- Everything that one request can come to.  Only the first course has a response, and none of
them touches the board. -/
inductive RequestCourse (link : Device.Link State) (clock : Clock) (timing : Timing)
    (station : Station State) (command : Command) : Played State Response → Prop
  | answered
      (bytes : Bytes)
      (settled : clock.Lets (station.now + clock.span timing.settle))
      (written : (link.write station.device command.wire).result = .ok ())
      (waited : clock.Lets
        (station.now + clock.span timing.settle + clock.span timing.latency))
      (collected :
        (link.read (link.write station.device command.wire).state).result = .ok bytes) :
      RequestCourse link clock timing station command
        { station :=
            { device := (link.read (link.write station.device command.wire).state).state
              now := station.now + clock.span timing.settle + clock.span timing.latency
              board := station.board }
          operations :=
            [⟨station.now + clock.span timing.settle, .wrote command.wire (.ok ())⟩,
              ⟨station.now + clock.span timing.settle + clock.span timing.latency,
                .took (.ok bytes)⟩]
          events := (link.write station.device command.wire).events ++
            (link.read (link.write station.device command.wire).state).events
          ending := .finished (.ofBytes bytes) }
  | unreadable
      (fault : IoFault)
      (settled : clock.Lets (station.now + clock.span timing.settle))
      (written : (link.write station.device command.wire).result = .ok ())
      (waited : clock.Lets
        (station.now + clock.span timing.settle + clock.span timing.latency))
      (failed :
        (link.read (link.write station.device command.wire).state).result = .error fault) :
      RequestCourse link clock timing station command
        { station :=
            { device := (link.read (link.write station.device command.wire).state).state
              now := station.now + clock.span timing.settle + clock.span timing.latency
              board := station.board }
          operations :=
            [⟨station.now + clock.span timing.settle, .wrote command.wire (.ok ())⟩,
              ⟨station.now + clock.span timing.settle + clock.span timing.latency,
                .took (.error fault)⟩]
          events := (link.write station.device command.wire).events ++
            (link.read (link.write station.device command.wire).state).events
          ending := .failed (.deviceIo link.name fault) }
  | unwritable
      (fault : IoFault)
      (settled : clock.Lets (station.now + clock.span timing.settle))
      (failed : (link.write station.device command.wire).result = .error fault) :
      RequestCourse link clock timing station command
        { station :=
            { device := (link.write station.device command.wire).state
              now := station.now + clock.span timing.settle
              board := station.board }
          operations :=
            [⟨station.now + clock.span timing.settle, .wrote command.wire (.error fault)⟩]
          events := (link.write station.device command.wire).events
          ending := .failed (.deviceIo link.name fault) }
  | late
      (deadline : Nat)
      (limited : clock.deadline = some deadline)
      (settled : clock.Lets (station.now + clock.span timing.settle))
      (written : (link.write station.device command.wire).result = .ok ())
      (early :
        deadline < station.now + clock.span timing.settle + clock.span timing.latency) :
      RequestCourse link clock timing station command
        { station :=
            { device := (link.write station.device command.wire).state
              now := deadline
              board := station.board }
          operations := [⟨station.now + clock.span timing.settle, .wrote command.wire (.ok ())⟩]
          events := (link.write station.device command.wire).events
          ending := .interrupted }
  | tooLate
      (deadline : Nat)
      (limited : clock.deadline = some deadline)
      (early : deadline < station.now + clock.span timing.settle) :
      RequestCourse link clock timing station command
        { station := { station with now := deadline }
          operations := []
          events := []
          ending := .interrupted }

theorem course_request
    (link : Device.Link State)
    (clock : Clock)
    (timing : Timing)
    (station : Station State)
    (command : Command) :
    RequestCourse link clock timing station command
      (play link clock station (request timing command)) := by
  obtain ⟨device, now, board⟩ := station
  unfold request
  obtain ⟨settled, played⟩ | ⟨deadline, limited, early, played⟩ :=
    play_wait link clock ⟨device, now, board⟩ timing.settle
      (.send command.wire <| .wait timing.latency <|
        .collect fun bytes => .done (Response.ofBytes bytes))
  · rw [played]
    cases written : (link.write device command.wire).result with
    | error fault =>
        rw [play_send_error written]
        exact .unwritable fault settled written
    | ok done =>
        rw [play_send_ok written]
        obtain ⟨waited, played⟩ | ⟨deadline, limited, early, played⟩ :=
          play_wait link clock
            ⟨(link.write device command.wire).state, now + clock.span timing.settle, board⟩
            timing.latency (.collect fun bytes => .done (Response.ofBytes bytes))
        · rw [played]
          cases collected : (link.read (link.write device command.wire).state).result with
          | ok bytes =>
              rw [play_collect_ok collected]
              have course := RequestCourse.answered bytes settled written waited collected
              simpa only [play, Played.after, List.append_nil, List.cons_append,
                List.nil_append] using course
          | error fault =>
              rw [play_collect_error collected]
              exact .unreadable fault settled written waited collected
        · rw [played]
          have course := RequestCourse.late deadline limited settled written early
          simpa only [play, Played.after, List.append_nil, List.cons_append,
            List.nil_append] using course
  · rw [played]
    exact .tooLate deadline limited early

end Poller
end SerialShare
