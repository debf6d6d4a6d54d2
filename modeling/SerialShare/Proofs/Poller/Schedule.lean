import Mathlib.Tactic.Ring
import SerialShare.Device.Playback
import SerialShare.Proofs.Poller.Play

/-!
# The poller keeps to its schedule

What a poller does on its link is laid down beforehand, place by place and without end: what is done
and when depends on neither the answers of the device nor what is published.  Only a failure ends
it.

`Kept` says of a dialogue that it does what the schedule has from one request to another, or what it
has up to the first failure.  It holds of one request, is kept when dialogues follow one another,
and so holds of rotations and, by induction on their number, of polling.
-/

namespace SerialShare
namespace Poller

open Device (Command Response)

variable {State Result Final : Type}

/-! ## The schedule -/

/-- The command of each request, counted from the first one on. -/
def commandAt (request : Nat) : Command :=
  match request % 3 with
  | 0 => .statusRequest
  | 1 => .auxiliary1576
  | _ => .auxiliaryC105

/-- Something that is done on a link. -/
inductive Deed where
  /-- Bytes are written. -/
  | write (bytes : Bytes)
  /-- What has arrived is taken. -/
  | read

/-- What comes of a deed. -/
def Deed.action (link : Device.Link State) (device : State) : Deed → Action
  | .write bytes => .wrote bytes (link.write device bytes).result
  | .read => .took (link.read device).result

/-- The state of the device after a deed. -/
def Deed.next (link : Device.Link State) (device : State) : Deed → State
  | .write bytes => (link.write device bytes).state
  | .read => (link.read device).state

/-- What is done at each place: every request writes its command and then reads once. -/
def deedAt (place : Nat) : Deed :=
  if place % 2 = 0 then .write (Text.utf8 (commandAt (place / 2)).body ++ [0x0D, 0x0A]) else .read

/-- When it is done: the device may settle before each command, and has time to answer after it. -/
def instantAt (timing : Timing) (place : Nat) : Nat :=
  let request := place / 2
  if place % 2 = 0 then (request + 1) * timing.settle.toNat + request * timing.latency.toNat
  else (request + 1) * (timing.settle.toNat + timing.latency.toNat)

/-- The state of the device when everything before a place has been done. -/
def deviceAt (link : Device.Link State) (device : State) : Nat → State
  | 0 => device
  | place + 1 => (deedAt place).next link (deviceAt link device place)

/-- What is done at each place, and what comes of it. -/
def operationAt (link : Device.Link State) (timing : Timing) (device : State)
    (place : Nat) : Operation :=
  ⟨instantAt timing place, (deedAt place).action link (deviceAt link device place)⟩

/-- How an operation failed, if it did. -/
def Operation.fault? (operation : Operation) : Option IoFault :=
  match operation.action with
  | .wrote _ (.error fault) => some fault
  | .took (.error fault) => some fault
  | _ => none

section Keeping

variable {link : Device.Link State} {timing : Timing} {device : State}

theorem deedAt_two_mul (request : Nat) :
    deedAt (2 * request) = .write (commandAt request).wire := by
  have even : 2 * request % 2 = 0 := by omega
  have half : 2 * request / 2 = request := by omega
  rw [deedAt, if_pos even, half]
  rfl

theorem deedAt_two_mul_add_one (request : Nat) : deedAt (2 * request + 1) = .read := by
  have odd : ¬(2 * request + 1) % 2 = 0 := by omega
  rw [deedAt, if_neg odd]

theorem instantAt_two_mul
    (timing : Timing)
    (request : Nat) :
    instantAt timing (2 * request) =
      (request + 1) * timing.settle.toNat + request * timing.latency.toNat := by
  have even : 2 * request % 2 = 0 := by omega
  have half : 2 * request / 2 = request := by omega
  simp only [instantAt, if_pos even, half]

theorem instantAt_two_mul_add_one
    (timing : Timing)
    (request : Nat) :
    instantAt timing (2 * request + 1) =
      (request + 1) * (timing.settle.toNat + timing.latency.toNat) := by
  have odd : ¬(2 * request + 1) % 2 = 0 := by omega
  have half : (2 * request + 1) / 2 = request := by omega
  simp only [instantAt, if_neg odd, half]

/-! ## Keeping to it -/

/-- The operations of consecutive places. -/
def operationsFrom (link : Device.Link State) (timing : Timing) (device : State)
    (place count : Nat) : List Operation :=
  (List.range' place count).map (operationAt link timing device)

theorem operationsFrom_append
    (link : Device.Link State)
    (timing : Timing)
    (device : State)
    (place count more : Nat) :
    operationsFrom link timing device place count ++
        operationsFrom link timing device (place + count) more =
      operationsFrom link timing device place (count + more) := by
  rw [operationsFrom, operationsFrom, operationsFrom, ← List.map_append, List.range'_append_1]

@[simp] theorem operationsFrom_one
    (link : Device.Link State)
    (timing : Timing)
    (device : State)
    (place : Nat) :
    operationsFrom link timing device place 1 = [operationAt link timing device place] := rfl

@[simp] theorem operationsFrom_two
    (link : Device.Link State)
    (timing : Timing)
    (device : State)
    (place : Nat) :
    operationsFrom link timing device place 2 =
      [operationAt link timing device place, operationAt link timing device (place + 1)] := rfl

/-- No operation at places from one on and before another one fails. -/
def Silent (link : Device.Link State) (timing : Timing) (device : State)
    (first last : Nat) : Prop :=
  ∀ place, first ≤ place → place < last → (operationAt link timing device place).fault? = none

/-- There is one first failure at most. -/
theorem eq_of_first_failures
    {place other : Nat}
    {fault found : IoFault}
    (silent : Silent link timing device 0 place)
    (fails : (operationAt link timing device place).fault? = some fault)
    (otherSilent : Silent link timing device 0 other)
    (otherFails : (operationAt link timing device other).fault? = some found) :
    other = place ∧ found = fault := by
  obtain early | rfl | late := Nat.lt_trichotomy other place
  · rw [silent other (Nat.zero_le other) early] at otherFails
    cases otherFails
  · exact ⟨rfl, Option.some.inj (otherFails.symm.trans fails)⟩
  · rw [otherSilent place (Nat.zero_le place) late] at fails
    cases fails

/-- A dialogue does what the schedule has from one request to another and ends in a certain way, or
does what the schedule has up to the first failure, which ends it. -/
inductive Kept (link : Device.Link State) (timing : Timing) (device : State)
    (first last : Nat) (ends : Ending Result → Prop) (played : Played State Result) : Prop where
  | through
      (silent : Silent link timing device (2 * first) (2 * last))
      (operations : played.operations =
        operationsFrom link timing device (2 * first) (2 * last - 2 * first))
      (device_eq : played.station.device = deviceAt link device (2 * last))
      (now : played.station.now = last * (timing.settle.toNat + timing.latency.toNat))
      (ended : ends played.ending)
  | broken
      (place : Nat)
      (fault : IoFault)
      (reached : 2 * first ≤ place)
      (within : place < 2 * last)
      (silent : Silent link timing device (2 * first) place)
      (fails : (operationAt link timing device place).fault? = some fault)
      (operations : played.operations =
        operationsFrom link timing device (2 * first) (place + 1 - 2 * first))
      (now : played.station.now = instantAt timing place)
      (ended : played.ending = .failed (.deviceIo link.name fault))

/-- A dialogue comes to its result. -/
def Finishes (ending : Ending Result) : Prop :=
  ∃ result, ending = .finished result

/-- A dialogue is at the start of a request. -/
structure Arrived (link : Device.Link State) (timing : Timing) (device : State)
    (request : Nat) (station : Station State) : Prop where
  /-- Everything before has been done. -/
  device_eq : station.device = deviceAt link device (2 * request)
  /-- It took as long as it takes. -/
  now : station.now = request * (timing.settle.toNat + timing.latency.toNat)

/-- Doing nothing keeps to the schedule. -/
theorem kept_of_idle
    {request : Nat}
    {ends : Ending Result → Prop}
    {played : Played State Result}
    (arrived : Arrived link timing device request played.station)
    (idle : played.operations = [])
    (ended : ends played.ending) :
    Kept link timing device request request ends played := by
  refine .through ?_ ?_ arrived.device_eq arrived.now ended
  · intro place low high
    exact absurd high (Nat.not_lt.mpr low)
  · rw [idle, Nat.sub_self]
    rfl

/-- What is recorded does not matter. -/
theorem Kept.congr
    {first last : Nat}
    {ends : Ending Result → Prop}
    {played other : Played State Result}
    (kept : Kept link timing device first last ends played)
    (station : other.station = played.station)
    (operations : other.operations = played.operations)
    (ending : other.ending = played.ending) :
    Kept link timing device first last ends other := by
  cases kept with
  | through silent done device_eq now ended =>
      exact .through silent (operations.trans done) (station ▸ device_eq) (station ▸ now)
        (ending ▸ ended)
  | broken place fault reached within silent fails done now ended =>
      exact .broken place fault reached within silent fails (operations.trans done)
        (station ▸ now) (ending.trans ended)

/-- A dialogue that keeps to the schedule, and one that goes on from there. -/
theorem Kept.andThen
    {first middle last : Nat}
    {ends : Ending Final → Prop}
    {played : Played State Result}
    {continuation : Station State → Result → Played State Final}
    (ordered : first ≤ middle)
    (laterOrdered : middle ≤ last)
    (kept : Kept link timing device first middle Finishes played)
    (goesOn : ∀ station result, Arrived link timing device middle station →
      Kept link timing device middle last ends (continuation station result)) :
    Kept link timing device first last ends (played.andThen continuation) := by
  cases kept with
  | broken place fault reached within silent fails operations now ended =>
      refine .broken place fault reached (by omega) silent fails ?_ ?_ ?_
      · simp only [Played.andThen, ended, operations]
      · simp only [Played.andThen, ended, now]
      · simp only [Played.andThen, ended]
  | through silent operations device_eq now finishes =>
      obtain ⟨result, finished⟩ := finishes
      have later := goesOn played.station result ⟨device_eq, now⟩
      have joined (count : Nat) :
          operationsFrom link timing device (2 * first) (2 * middle - 2 * first) ++
              operationsFrom link timing device (2 * middle) count =
            operationsFrom link timing device (2 * first) (2 * middle - 2 * first + count) := by
        rw [← operationsFrom_append, Nat.add_sub_cancel' (by omega)]
      have before {stop : Nat} (laterSilent : Silent link timing device (2 * middle) stop) :
          Silent link timing device (2 * first) stop := by
        intro place low high
        by_cases early : place < 2 * middle
        · exact silent place low early
        · exact laterSilent place (by omega) high
      rw [Played.andThen_of_finished finished]
      cases later with
      | through laterSilent laterOperations laterDevice laterNow ended =>
          refine .through (before laterSilent) ?_ laterDevice laterNow ended
          simp only [Played.after, operations, laterOperations, joined]
          congr 1
          omega
      | broken place fault reached within laterSilent fails laterOperations laterNow ended =>
          refine .broken place fault (by omega) within (before laterSilent) fails ?_ laterNow ended
          simp only [Played.after, operations, laterOperations, joined]
          congr 1
          omega

/-! ## One rotation -/

/-- A request writes its command when the device has settled. -/
theorem operationAt_write
    {request : Nat}
    {station : Station State}
    (arrived : Arrived link timing device request station) :
    operationAt link timing device (2 * request) =
      ⟨station.now + timing.settle.toNat, .wrote (commandAt request).wire
        (link.write station.device (commandAt request).wire).result⟩ := by
  rw [operationAt, instantAt_two_mul, deedAt_two_mul, ← arrived.device_eq, arrived.now]
  congr 1
  ring

theorem deviceAt_write
    {request : Nat}
    {station : Station State}
    (arrived : Arrived link timing device request station) :
    deviceAt link device (2 * request + 1) =
      (link.write station.device (commandAt request).wire).state := by
  rw [deviceAt, deedAt_two_mul, ← arrived.device_eq]
  rfl

/-- It reads when the device has had time to answer. -/
theorem operationAt_read
    {request : Nat}
    {station : Station State}
    (arrived : Arrived link timing device request station) :
    operationAt link timing device (2 * request + 1) =
      ⟨station.now + timing.settle.toNat + timing.latency.toNat,
        .took (link.read
          (link.write station.device (commandAt request).wire).state).result⟩ := by
  rw [operationAt, instantAt_two_mul_add_one, deedAt_two_mul_add_one, deviceAt_write arrived,
    arrived.now]
  congr 1
  ring

theorem deviceAt_read
    {request : Nat}
    {station : Station State}
    (arrived : Arrived link timing device request station) :
    deviceAt link device (2 * (request + 1)) =
      (link.read (link.write station.device (commandAt request).wire).state).state := by
  rw [← deviceAt_write arrived, Nat.mul_succ, deviceAt, deedAt_two_mul_add_one]
  rfl

theorem kept_request
    {request : Nat}
    {station : Station State}
    (arrived : Arrived link timing device request station) :
    Kept link timing device request (request + 1) Finishes
      (play link .exact station (Poller.request timing (commandAt request))) := by
  have write := operationAt_write arrived
  have read := operationAt_read arrived
  have course := course_request link .exact timing station (commandAt request)
  generalize play link .exact station (Poller.request timing (commandAt request)) = played
    at course ⊢
  cases course with
  | answered bytes settled written waited collected =>
      rw [written] at write
      rw [collected] at read
      refine .through ?_ ?_ (deviceAt_read arrived).symm ?_ ⟨_, rfl⟩
      · intro place low high
        obtain rfl | rfl : place = 2 * request ∨ place = 2 * request + 1 := by omega
        · rw [write]
          rfl
        · rw [read]
          rfl
      · have two : 2 * (request + 1) - 2 * request = 2 := by omega
        rw [two, operationsFrom_two, write, read]
        rfl
      · simp only [Clock.span_exact, arrived.now]
        ring
  | unreadable fault settled written waited failed =>
      rw [written] at write
      rw [failed] at read
      refine .broken (2 * request + 1) fault (by omega) (by omega) ?_ ?_ ?_ ?_ rfl
      · intro place low high
        obtain rfl : place = 2 * request := by omega
        rw [write]
        rfl
      · rw [read]
        rfl
      · have two : 2 * request + 1 + 1 - 2 * request = 2 := by omega
        rw [two, operationsFrom_two, write, read]
        rfl
      · exact (congrArg Operation.instant read).symm
  | unwritable fault settled failed =>
      rw [failed] at write
      refine .broken (2 * request) fault (by omega) (by omega) ?_ ?_ ?_ ?_ rfl
      · intro place low high
        exact absurd high (Nat.not_lt.mpr low)
      · rw [write]
        rfl
      · have one : 2 * request + 1 - 2 * request = 1 := by omega
        rw [one, operationsFrom_one, write]
        rfl
      · exact (congrArg Operation.instant write).symm
  | late deadline limited settled written early => cases limited
  | tooLate deadline limited early => cases limited

/-- Judging a response takes no time and does nothing on the link. -/
theorem kept_publication
    {request : Nat}
    {station : Station State}
    (arrived : Arrived link timing device request station)
    (response : Response) :
    Kept link timing device request request Finishes
      (play link .exact station (publication response)) := by
  cases response with
  | noData => exact kept_of_idle ⟨arrived.device_eq, arrived.now⟩ rfl ⟨_, rfl⟩
  | data frame =>
      cases judged : Frame.decode frame with
      | ok status =>
          simp only [publication, judged]
          exact kept_of_idle ⟨arrived.device_eq, arrived.now⟩ rfl ⟨_, rfl⟩
      | error reason =>
          simp only [publication, judged]
          exact kept_of_idle ⟨arrived.device_eq, arrived.now⟩ rfl ⟨_, rfl⟩

theorem kept_done
    {request : Nat}
    {station : Station State}
    (arrived : Arrived link timing device request station)
    (result : Result) :
    Kept link timing device request request Finishes (play link .exact station (.done result)) :=
  kept_of_idle arrived rfl ⟨result, rfl⟩

theorem kept_auxiliaries
    {request count : Nat}
    {station : Station State}
    (arrived : Arrived link timing device request station) :
    Kept link timing device request (request + count) Finishes
      (play link .exact station
        (auxiliaries timing ((List.range' request count).map commandAt))) := by
  induction count generalizing request station with
  | zero => exact kept_done arrived ()
  | succ count inductionHypothesis =>
      rw [List.range'_succ, List.map_cons, auxiliaries, play_bind]
      refine (kept_request arrived).andThen (by omega) (by omega) fun station response reached => ?_
      have rest := inductionHypothesis reached
      rw [Nat.add_right_comm, Nat.add_assoc] at rest
      exact rest.congr rfl (List.nil_append _) rfl

/-- A rotation does what the schedule has for its three requests. -/
theorem kept_rotation
    {rotations : Nat}
    {station : Station State}
    (arrived : Arrived link timing device (3 * rotations) station) :
    Kept link timing device (3 * rotations) (3 * (rotations + 1)) Finishes
      (play link .exact station (rotation timing)) := by
  have status : Command.statusRequest = commandAt (3 * rotations) := by
    simp [commandAt]
  have auxiliary :
      Command.auxiliary = (List.range' (3 * rotations + 1) 2).map commandAt := by
    have first : (3 * rotations + 1) % 3 = 1 := by omega
    have second : (3 * rotations + 2) % 3 = 2 := by omega
    simp [Command.auxiliary, List.range', commandAt, first, second]
  rw [rotation, status, auxiliary, play_bind]
  refine (kept_request arrived).andThen (by omega) (by omega) fun station response reached => ?_
  rw [play_bind]
  refine (kept_publication reached response).andThen (by omega) (by omega)
    fun station outcome judged => ?_
  rw [play_bind]
  refine (kept_auxiliaries judged).andThen (by omega) (by omega) fun station _ finished => ?_
  exact kept_done finished outcome

/-! ## Polling -/

/-- Another rotation goes on where one came to its end, but for what is recorded. -/
theorem rotate_succ
    (link : Device.Link State)
    (timing : Timing)
    (clock : Clock)
    (rotations : Nat)
    (station : Station State) :
    let next := (play link clock station (rotation timing)).andThen fun station _ =>
      rotate link timing clock rotations station
    (rotate link timing clock (rotations + 1) station).station = next.station ∧
      (rotate link timing clock (rotations + 1) station).operations = next.operations ∧
      (rotate link timing clock (rotations + 1) station).ending = next.ending := by
  cases ending : (play link clock station (rotation timing)).ending with
  | finished outcome => simp only [rotate, Played.andThen, ending, and_self]
  | failed fault => simp only [rotate, Played.andThen, ending, and_self]
  | interrupted => simp only [rotate, Played.andThen, ending, and_self]

theorem kept_rotate
    {first : Nat}
    {station : Station State}
    (arrived : Arrived link timing device (3 * first) station)
    (rotations : Nat) :
    Kept link timing device (3 * first) (3 * (first + rotations)) (· = .interrupted)
      (rotate link timing .exact rotations station) := by
  induction rotations generalizing first station with
  | zero => exact kept_of_idle arrived rfl rfl
  | succ rotations inductionHypothesis =>
      obtain ⟨stationEqual, operations, ending⟩ :=
        rotate_succ link timing .exact rotations station
      refine Kept.congr ?_ stationEqual operations ending
      refine (kept_rotation arrived).andThen (by omega) (by omega) fun station _ reached => ?_
      have rest := inductionHypothesis reached
      rw [Nat.add_right_comm, Nat.add_assoc] at rest
      exact rest

end Keeping

/-- Over any link, polling does what the schedule has, in order and at the time laid down, up to the
first operation that fails.  That one is the last, and its very fault ends polling at that time.  As
long as none fails, polling goes on: after any number of rotations it has done all that the schedule
has for them.  Status requests follow one another at the period that is recorded when polling
starts. -/
theorem run_keeps_schedule
    (link : Device.Link State)
    (timing : Timing)
    (device : State)
    (board : Board)
    (rotations : Nat) :
    let played := run link timing .exact rotations ⟨device, 0, board⟩
    let waits := timing.settle.toNat + timing.latency.toNat
    ((∀ place < 6 * rotations, (operationAt link timing device place).fault? = none) →
        played.operations = (List.range (6 * rotations)).map (operationAt link timing device) ∧
          played.ending = .interrupted ∧
          played.station.now = 3 * rotations * waits) ∧
      (∀ place < 6 * rotations, ∀ fault,
        (∀ earlier < place, (operationAt link timing device earlier).fault? = none) →
        (operationAt link timing device place).fault? = some fault →
        played.operations = (List.range (place + 1)).map (operationAt link timing device) ∧
          played.ending = .failed (.deviceIo link.name fault) ∧
          played.station.now = instantAt timing place) ∧
      played.events.head? = some (.pollingStarted timing.period) ∧
      timing.period.toNanoseconds = 3 * (waits * 1000000) ∧
      ∀ rotation, instantAt timing (6 * (rotation + 1)) =
        instantAt timing (6 * rotation) + 3 * waits := by
  intro played waits
  have arrived : Arrived link timing device (3 * 0) ⟨device, 0, board⟩ := ⟨rfl, by simp⟩
  have kept : Kept link timing device (3 * 0) (3 * (0 + rotations)) (· = .interrupted) played :=
    (kept_rotate arrived rotations).congr rfl (List.nil_append _) rfl
  have fromStart (count : Nat) : operationsFrom link timing device 0 count =
      (List.range count).map (operationAt link timing device) := by
    rw [operationsFrom, List.range_eq_range']
  have all : 2 * (3 * (0 + rotations)) = 6 * rotations := by omega
  refine ⟨fun succeeds => ?_, fun place within fault succeeds fails => ?_, rfl,
    timing.toNanoseconds_period, fun rotation => ?_⟩
  · cases kept with
    | through silent operations device_eq now ended =>
        refine ⟨?_, ended, ?_⟩
        · rw [operations, all]
          exact fromStart (6 * rotations)
        · rw [now, Nat.zero_add]
    | broken failing fault reached within silent fails operations now ended =>
        rw [succeeds failing (all ▸ within)] at fails
        cases fails
  · cases kept with
    | through silent operations device_eq now ended =>
        rw [silent place (Nat.zero_le place) (all ▸ within)] at fails
        cases fails
    | broken failing found reached before silent failed operations now ended =>
        obtain ⟨rfl, rfl⟩ := eq_of_first_failures (fun earlier _ early => succeeds earlier early)
          fails silent failed
        exact ⟨operations.trans (fromStart (failing + 1)), ended, now⟩
  · have later : 6 * (rotation + 1) = 2 * (3 * rotation + 3) := by omega
    have sooner : 6 * rotation = 2 * (3 * rotation) := by omega
    rw [later, sooner, instantAt_two_mul, instantAt_two_mul]
    ring

/-- Nothing stops the first rotation, not even that the device stays silent.  The second write of
the next one fails and ends polling, though three more rotations were asked for. -/
theorem run_keeps_schedule_until_unplugged :
    let link := Device.Playback.link "line"
    let device : Device.Playback := ⟨[.ok [0x54]], some 4⟩
    (∀ place < 6 * 1, (operationAt link .standard device place).fault? = none) ∧
      (∀ earlier < 8, (operationAt link .standard device earlier).fault? = none) ∧
      (operationAt link .standard device 8).fault? = some Device.Playback.unplugged ∧
      (run link .standard .exact 1 ⟨device, 0, .empty⟩).station.now = 2550 ∧
      (run link .standard .exact 5 ⟨device, 0, .empty⟩).ending =
        .failed (.deviceIo "line" Device.Playback.unplugged) ∧
      (run link .standard .exact 5 ⟨device, 0, .empty⟩).station.now = 4100 := by
  intro link device
  have succeeds : ∀ earlier < 8, (operationAt link .standard device earlier).fault? = none := by
    decide +kernel
  have fails :
      (operationAt link .standard device 8).fault? = some Device.Playback.unplugged := by
    decide +kernel
  have silent : ∀ place < 6 * 1, (operationAt link .standard device place).fault? = none :=
    fun place within => succeeds place (by omega)
  obtain ⟨_, _, now⟩ := (run_keeps_schedule link .standard device .empty 1).1 silent
  obtain ⟨_, ending, broken⟩ :=
    (run_keeps_schedule link .standard device .empty 5).2.1 8 (by decide) _ succeeds fails
  exact ⟨silent, succeeds, fails, now, ending, broken⟩

end Poller
end SerialShare
