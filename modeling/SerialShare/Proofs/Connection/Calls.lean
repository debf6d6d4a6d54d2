import SerialShare.Connection.Client
import SerialShare.Proofs.Connection.Channel
import SerialShare.Proofs.Query.Reply
import SerialShare.Proofs.Snapshot.Store

/-!
# Calls keep step with lines

A client asks requests one after the other on one connection, and each call returns before the next
one is made.  Both sides keep count of lines only.  So the calls that have returned gave the replies
to the first lines of all requests together, in order, and a request behind others that hold
newlines themselves is answered by the reply to a line that stands before it.

`Sound` is the invariant: what the handler has answered is what the calls have given and what is
still on its way to the client.  It rests on every reply being a line that the client's splitter
gives back.
-/

namespace SerialShare

namespace Client

theorem look_of_line
    {client : Client}
    {reply : String}
    (expecting : client.inputEnded = false)
    (line : (client.splitter.decode client.buffer).result = .line reply) :
    client.look =
      (some (.ok reply),
        { client with
          splitter := (client.splitter.decode client.buffer).splitter
          buffer := (client.splitter.decode client.buffer).buffer }) := by
  simp [look, expecting, line]

theorem look_of_nothing
    {client : Client}
    (expecting : client.inputEnded = false)
    (nothing : (client.splitter.decode client.buffer).result = .nothing) :
    client.look =
      (none,
        { client with
          splitter := (client.splitter.decode client.buffer).splitter
          buffer := (client.splitter.decode client.buffer).buffer
          looking := false }) := by
  simp [look, expecting, nothing]

end Client

/-- A client with requests to ask, its connection, and the board it is answered from. -/
structure Calls where
  /-- The client and its connection. -/
  session : Session
  /-- What the requests are answered from. -/
  board : Board
  /-- The requests that have not been asked. -/
  unasked : List String
  /-- Whether a call has not returned yet. -/
  waiting : Bool
  /-- What the calls that have returned gave. -/
  answers : List (Except IoFault String)
  /-- The lines answered, each with the snapshot on the board at that moment. -/
  answered : List (String × Snapshot)

namespace Calls

open Lines (defaultLimit joined ofText)

/-- A client that has just connected. -/
def start (capacity : Nat) (requests : List String) : Calls :=
  { session := .new capacity
    board := .empty
    unasked := requests
    waiting := false
    answers := []
    answered := [] }

/-- What can happen. -/
inductive Act where
  /-- A status is published. -/
  | publish (status : Status)
  /-- The number of bytes that can be under way in each direction changes. -/
  | resize (capacity : Nat)
  /-- The next request is asked, if no call is waiting. -/
  | ask
  /-- One side makes a move.  The client makes moves only while a call is waiting. -/
  | move (move : Session.Move)

/-- Whether a side may make a move. -/
def allows (calls : Calls) : Session.Move → Bool
  | .serve _ => true
  | _ => calls.waiting

/-- The lines that the handler takes in a move. -/
def taking (calls : Calls) : Session.Move → List (String × Snapshot)
  | .serve most =>
    Handler.answering calls.board.latest
      (calls.session.connection.serve most calls.board.latest).2
  | _ => []

/-- Make a move.  An answer is what the call gives. -/
def advance (calls : Calls) (move : Session.Move) : Calls :=
  let (answer, session) := calls.session.move calls.board.latest move
  { calls with
    session
    waiting := calls.waiting && answer.isNone
    answers := calls.answers ++ answer.toList
    answered := calls.answered ++ calls.taking move }

/-- Do one act. -/
def step (calls : Calls) : Act → Calls
  | .publish status => { calls with board := calls.board.publish status }
  | .resize capacity =>
    { calls with
      session := { calls.session with
        connection := { calls.session.connection with capacity } } }
  | .ask =>
    match calls.waiting, calls.unasked with
    | false, request :: later =>
      { calls with
        session := { calls.session with client := calls.session.client.ask request }
        unasked := later
        waiting := true }
    | _, _ => calls
  | .move move => if calls.allows move then calls.advance move else calls

/-- Do acts one after the other. -/
def run (calls : Calls) (acts : List Act) : Calls := acts.foldl step calls

/-- The statuses that acts publish, in order. -/
def published (acts : List Act) : List Status :=
  acts.filterMap fun
    | .publish status => some status
    | _ => none

theorem published_append (earlier later : List Act) :
    published (earlier ++ later) = published earlier ++ published later :=
  List.filterMap_append

theorem published_cons
    (act : Act)
    (later : List Act) :
    published (act :: later) = published [act] ++ published later :=
  published_append [act] later

/-- What the handler has answered and no call has given yet. -/
def owed (calls : Calls) : List (String × Snapshot) := calls.answered.drop calls.answers.length

/-- Everything that the client has received: the answers it has given, and its buffer. -/
def received (calls : Calls) : Bytes :=
  Handler.replyLines (calls.answered.take calls.answers.length) ++ calls.session.client.buffer

/-- No line of the requests is over the limit. -/
def Short (requests : List String) : Prop :=
  ∀ line ∈ ofText (joined requests), (Text.utf8 line).length ≤ 1024

instance (requests : List String) : Decidable (Short requests) :=
  inferInstanceAs (Decidable (∀ line ∈ ofText (joined requests), _))

/-! ## The invariant -/

/-- What holds of calls at every moment. -/
structure Sound (requests : List String) (calls : Calls) : Prop where
  /-- What has been sent is what has been asked, and the connection carries it. -/
  carries : ∃ sent,
    sent ++ (calls.session.client.outgoing ++ calls.unasked.flatMap Lines.encode) =
      requests.flatMap Lines.encode ∧
    calls.session.connection.Carries sent calls.received calls.answered
  /-- The client never stops sending. -/
  unfinished : calls.session.connection.clientDone = false
  /-- The client expects more replies. -/
  expecting : calls.session.client.inputEnded = false
  /-- The client accepts replies up to the default limit. -/
  limit_eq : calls.session.client.splitter.limit = defaultLimit
  /-- The client's splitter can go on with its buffer. -/
  looked : calls.session.client.splitter.Looked calls.session.client.buffer
  /-- The calls gave the replies to the first lines answered. -/
  answers_eq : calls.answers =
    (calls.answered.take calls.answers.length).map fun entry =>
      .ok (Query.reply entry.1 entry.2)
  /-- Requests are asked in order, one for each call. -/
  asked : ∃ called, called ++ calls.unasked = requests ∧
    called.length = calls.answers.length + calls.waiting.toNat
  /-- What is on the board was read from a frame. -/
  board_decoded : Query.Decoded calls.board.latest
  /-- So was what the lines were answered from. -/
  answered_decoded : ∀ entry ∈ calls.answered, Query.Decoded entry.2

theorem sound_start
    (capacity : Nat)
    (requests : List String) :
    (start capacity requests).Sound requests := by
  refine ⟨⟨[], rfl, Connection.carries_new capacity⟩, rfl, rfl, rfl, ?_, rfl, ⟨[], rfl, rfl⟩, ?_,
    ?_⟩
  · exact Lines.Splitter.looked_of_cursor_eq_zero rfl []
  · rintro status ⟨⟩
  · rintro entry ⟨⟩

section Step

variable {requests : List String} {calls : Calls}

/-- While the lines stay within the limit, the handler stays at work, and what it has answered are
the first of them. -/
theorem Sound.running
    (sound : calls.Sound requests)
    (short : Short requests) :
    calls.session.connection.handler.ending = none ∧
      calls.answered.map Prod.fst <+: ofText (joined requests) := by
  obtain ⟨sent, whole, carries⟩ := sound.carries
  obtain ⟨arrived, sentEqual, follows⟩ := carries.arrived
  have unended : calls.session.connection.handler.inputEnded = false := by
    cases ended : calls.session.connection.handler.inputEnded with
    | false => rfl
    | true =>
        have done := (carries.ended ended).1
        rw [sound.unfinished] at done
        cases done
  have grows : Lines.Extends calls.session.connection.handler.inputEnded false
      (calls.session.connection.requests ++
        (calls.session.client.outgoing ++ calls.unasked.flatMap Lines.encode)) := by
    rw [unended]
    rintro ⟨⟩
  have read : Lines.reading defaultLimit.toNat false (requests.flatMap Lines.encode) =
      ⟨ofText (joined requests), none⟩ := by
    rw [← Lines.utf8_joined]
    exact Lines.reading_utf8_joined short
  rw [← whole, ← sentEqual, List.append_assoc] at read
  constructor
  · cases ending : calls.session.connection.handler.ending with
    | none => rfl
    | some result =>
        cases result with
        | error fault =>
            have refused := follows.refused fault ending false _ grows
            rw [read] at refused
            cases congrArg Lines.Transcript.refusal refused
        | ok nothing =>
            have finished := (follows.completed ending).1
            rw [unended] at finished
            cases finished
  · obtain ⟨rest, begins⟩ := follows.begins grows
    rw [read] at begins
    exact ⟨rest.lines, (congrArg Lines.Transcript.lines begins).symm⟩

/-- What no call has given yet is in the client's buffer, under way, or still to be sent. -/
theorem Sound.owed_eq (sound : calls.Sound requests) :
    calls.session.client.buffer ++
        (calls.session.connection.replies ++ calls.session.connection.handler.outgoing) =
      Handler.replyLines calls.owed := by
  obtain ⟨sent, whole, carries⟩ := sound.carries
  have replied := carries.replied
  have parts : calls.answered = calls.answered.take calls.answers.length ++ calls.owed :=
    (List.take_append_drop _ _).symm
  rw [received, List.append_assoc] at replied
  apply List.append_cancel_left
  rw [replied, ← Handler.replyLines_append, ← parts]

/-! ## One step -/

theorem Sound.publish
    (sound : calls.Sound requests)
    {status : Status}
    (decoded : ∃ frame, Frame.decode frame = .ok status) :
    (calls.step (.publish status)).Sound requests := by
  refine { sound with board_decoded := ?_ }
  rintro other ⟨⟩
  exact decoded

theorem Sound.resize
    (sound : calls.Sound requests)
    (capacity : Nat) :
    (calls.step (.resize capacity)).Sound requests := by
  obtain ⟨sent, whole, carries⟩ := sound.carries
  exact { sound with carries := ⟨sent, whole, carries.resize capacity⟩ }

theorem Sound.ask (sound : calls.Sound requests) : (calls.step .ask).Sound requests := by
  simp only [step]
  split
  · rename_i request later idle next
    obtain ⟨sent, whole, carries⟩ := sound.carries
    obtain ⟨called, inOrder, count⟩ := sound.asked
    refine { sound with
      carries := ⟨sent, ?_, carries⟩
      asked := ⟨called ++ [request], ?_, ?_⟩ }
    · rw [← whole, next, List.flatMap_cons]
      simp only [Client.ask, List.append_assoc]
    · rw [← inOrder, next, List.append_assoc, List.singleton_append]
    · rw [List.length_append, count, idle]
      rfl
  · exact sound

theorem Sound.send
    (sound : calls.Sound requests)
    (running : calls.session.connection.handler.ending = none)
    (most : Nat) :
    Sound requests { calls with session := calls.session.send most } := by
  obtain ⟨sent, whole, carries⟩ := sound.carries
  have accepts : calls.session.connection.open? = true := by
    simp [Connection.open?, sound.unfinished, carries.present, running]
  have bounded := calls.session.connection.count_offer_le
    (calls.session.client.outgoing.take most)
  rw [List.length_take] at bounded
  rw [Session.send, if_pos accepts]
  refine { sound with
    carries := ⟨_, ?_, carries.offer (calls.session.client.outgoing.take most)⟩
    unfinished := ?_ }
  · rw [← whole, List.take_take, Nat.min_eq_left (by omega), List.append_assoc]
    congr 1
    rw [← List.append_assoc, List.take_append_drop]
  · simp only [Connection.offer, if_pos accepts]
    exact sound.unfinished

theorem Sound.receive
    (sound : calls.Sound requests)
    (running : calls.session.connection.handler.ending = none)
    (most : Nat) :
    Sound requests { calls with session := calls.session.receive most } := by
  unfold Session.receive
  split
  · rw [running]
    exact sound
  · obtain ⟨sent, whole, carries⟩ := sound.carries
    have collected := carries.collect most
    rw [received, List.append_assoc] at collected
    exact { sound with
      carries := ⟨sent, whole, collected⟩
      looked := sound.looked.append _ }

/-- The replies to the lines answered before stay the first ones. -/
theorem take_length_answers_append
    (sound : calls.Sound requests)
    (more : List (String × Snapshot)) :
    (calls.answered ++ more).take calls.answers.length =
      calls.answered.take calls.answers.length := by
  have count := congrArg List.length sound.answers_eq
  rw [List.length_map, List.length_take] at count
  exact List.take_append_of_le_length (by omega)

theorem Sound.serve
    (sound : calls.Sound requests)
    (most : Nat) :
    (calls.advance (.serve most)).Sound requests := by
  obtain ⟨sent, whole, carries⟩ := sound.carries
  have kept := take_length_answers_append sound (calls.taking (.serve most))
  have advanced : calls.advance (.serve most) =
      { calls with
        session := { calls.session with
          connection := (calls.session.connection.serve most calls.board.latest).1 }
        answered := calls.answered ++ calls.taking (.serve most) } := by
    simp [advance, Session.move]
  rw [advanced]
  refine { sound with
    carries := ⟨sent, whole, ?_⟩
    unfinished := ?_
    answers_eq := ?_
    answered_decoded := ?_ }
  · rw [received, kept]
    exact carries.serve most calls.board.latest
  · rw [← sound.unfinished]
    exact (calls.session.connection.serve_frame most calls.board.latest).2.1
  · rw [kept]
    exact sound.answers_eq
  · intro entry listed
    rw [List.mem_append] at listed
    obtain before | now := listed
    · exact sound.answered_decoded entry before
    · obtain ⟨request, _, rfl⟩ := List.mem_map.mp now
      exact sound.board_decoded

theorem Sound.roomy (sound : calls.Sound requests) :
    Lines.Roomy calls.session.client.splitter.limit := by
  rw [sound.limit_eq]
  decide

/-- What the client's splitter finds in its buffer: the next reply that is owed, or nothing yet. -/
theorem Sound.cases_decode (sound : calls.Sound requests) :
    (∃ entry later left, calls.owed = entry :: later ∧
      calls.session.client.buffer = Handler.replyLine entry.1 entry.2 ++ left ∧
      calls.session.client.splitter.decode calls.session.client.buffer =
        ⟨.line (Query.reply entry.1 entry.2),
          { calls.session.client.splitter with cursor := 0 }, left⟩) ∨
    (calls.session.client.splitter.decode calls.session.client.buffer).result = .nothing := by
  have owed := sound.owed_eq
  cases pending : calls.owed with
  | nil =>
      right
      rw [pending] at owed
      have empty : calls.session.client.buffer = [] := (List.append_eq_nil_iff.mp owed).1
      rw [empty, Lines.Splitter.decode_of_not_mem sound.roomy List.not_mem_nil, List.length_nil,
        if_neg (Nat.not_lt_zero _)]
  | cons entry later =>
      have first : entry ∈ calls.owed := by
        rw [pending]
        exact List.mem_cons_self
      have decoded := sound.answered_decoded entry (List.mem_of_mem_drop first)
      have clean := Query.clean_reply entry.1 decoded
      rw [← sound.limit_eq] at clean
      rw [pending] at owed
      obtain ⟨left, whole, cut⟩ | nothing := clean.decode sound.roomy sound.looked owed
      · exact Or.inl ⟨entry, later, left, rfl, whole, cut⟩
      · exact Or.inr (congrArg Lines.Reading.result nothing)

theorem take_length_answers_succ
    {entry : String × Snapshot}
    {later : List (String × Snapshot)}
    (pending : calls.owed = entry :: later) :
    calls.answered.take (calls.answers.length + 1) =
      calls.answered.take calls.answers.length ++ [entry] := by
  have next : calls.answered[calls.answers.length]? = some entry := by
    rw [← List.head?_drop]
    exact congrArg List.head? pending
  rw [List.take_add_one, next]
  rfl

/-- A call that returns gives the next reply. -/
theorem Sound.look
    (sound : calls.Sound requests)
    (waiting : calls.waiting = true) :
    Sound requests
      { calls with
        session := { calls.session with client := calls.session.client.look.2 }
        waiting := calls.waiting && calls.session.client.look.1.isNone
        answers := calls.answers ++ calls.session.client.look.1.toList } := by
  obtain ⟨sent, whole, carries⟩ := sound.carries
  obtain ⟨entry, later, left, pending, buffer, cut⟩ | nothing := sound.cases_decode
  · have longer := take_length_answers_succ pending
    rw [Client.look_of_line sound.expecting (congrArg Lines.Reading.result cut), cut]
    refine { sound with
      carries := ⟨sent, whole, ?_⟩
      looked := Lines.Splitter.looked_of_cursor_eq_zero rfl left
      answers_eq := ?_
      asked := ?_ }
    · have single : Handler.replyLines [entry] = Handler.replyLine entry.1 entry.2 :=
        List.append_nil _
      have same : calls.received =
          Handler.replyLines (calls.answered.take (calls.answers.length + 1)) ++ left := by
        rw [received, buffer, longer, Handler.replyLines_append, single, List.append_assoc]
      rw [same] at carries
      simp only [received, Option.toList_some, List.length_append, List.length_singleton]
      exact carries
    · simp only [Option.toList_some, List.length_append, List.length_singleton]
      rw [longer, List.map_append, ← sound.answers_eq]
      rfl
    · obtain ⟨called, inOrder, count⟩ := sound.asked
      refine ⟨called, inOrder, ?_⟩
      rw [count, waiting, List.length_append]
      rfl
  · have faithful := Lines.Splitter.faithful_decode sound.roomy sound.looked
    have same := (faithful.nothing nothing).1
    have looked := faithful.looked
    rw [same] at looked
    rw [Client.look_of_nothing sound.expecting nothing, same]
    simp only [Option.toList_none, List.append_nil, Option.isNone_none, Bool.and_true]
    exact { sound with
      limit_eq := faithful.limit_eq.trans sound.limit_eq
      looked }

/-- A move that gives no answer and takes no line changes the session only. -/
theorem advance_of_silent
    {move : Session.Move}
    {session : Session}
    (silent : calls.session.move calls.board.latest move = (none, session))
    (nothing : calls.taking move = []) :
    calls.advance move = { calls with session } := by
  simp [advance, silent, nothing]

theorem Sound.advance
    (sound : calls.Sound requests)
    (short : Short requests)
    {move : Session.Move}
    (allowed : calls.allows move = true) :
    (calls.advance move).Sound requests := by
  have running := (sound.running short).1
  cases move with
  | send most =>
      rw [advance_of_silent rfl rfl]
      exact sound.send running most
  | serve most => exact sound.serve most
  | receive most =>
      by_cases ready : calls.session.client.outgoing.isEmpty && !calls.session.client.looking
      · have moved : calls.session.move calls.board.latest (.receive most) =
            (none, calls.session.receive most) := if_pos ready
        rw [advance_of_silent moved rfl]
        exact sound.receive running most
      · have unmoved : calls.session.move calls.board.latest (.receive most) =
            (none, calls.session) := if_neg ready
        rw [advance_of_silent unmoved rfl]
        exact sound
  | look =>
      by_cases ready : calls.session.client.outgoing.isEmpty && calls.session.client.looking
      · have moved : calls.session.move calls.board.latest .look =
            (calls.session.client.look.1,
              { calls.session with client := calls.session.client.look.2 }) := if_pos ready
        have looked := sound.look allowed
        simp only [Calls.advance, moved, taking, List.append_nil]
        exact looked
      · have unmoved : calls.session.move calls.board.latest .look =
            (none, calls.session) := if_neg ready
        rw [advance_of_silent unmoved rfl]
        exact sound

theorem Sound.step
    (sound : calls.Sound requests)
    (short : Short requests)
    {act : Act}
    (decoded : ∀ status ∈ published [act], ∃ frame, Frame.decode frame = .ok status) :
    (calls.step act).Sound requests := by
  cases act with
  | publish status => exact sound.publish (decoded status List.mem_cons_self)
  | resize capacity => exact sound.resize capacity
  | ask => exact sound.ask
  | move move =>
      rw [Calls.step]
      split
      · rename_i allowed
        exact sound.advance short allowed
      · exact sound

theorem Sound.run
    (sound : calls.Sound requests)
    (short : Short requests)
    {acts : List Act}
    (decoded : ∀ status ∈ published acts, ∃ frame, Frame.decode frame = .ok status) :
    (calls.run acts).Sound requests := by
  induction acts generalizing calls with
  | nil => exact sound
  | cons act later inductionHypothesis =>
      rw [published_cons, List.forall_mem_append] at decoded
      exact inductionHypothesis (sound.step short decoded.1) decoded.2

end Step

/-! ## The snapshots used -/

theorem board_step
    (calls : Calls)
    (act : Act) :
    (calls.step act).board = (published [act]).foldl Board.publish calls.board := by
  cases act with
  | publish status => rfl
  | resize capacity => rfl
  | ask =>
      simp only [step]
      split
      · rfl
      · rfl
  | move move =>
      simp only [step]
      split
      · rfl
      · rfl

theorem board_run
    (calls : Calls)
    (acts : List Act) :
    (calls.run acts).board = (published acts).foldl Board.publish calls.board := by
  induction acts generalizing calls with
  | nil => rfl
  | cons act later inductionHypothesis =>
      rw [published_cons, List.foldl_append, ← board_step]
      exact inductionHypothesis (calls.step act)

/-- Whatever is answered in a step is answered from what is on the board. -/
theorem answered_step
    (calls : Calls)
    (act : Act) :
    ∃ lines : List String,
      (calls.step act).answered =
        calls.answered ++ lines.map fun line => (line, calls.board.latest) := by
  have unchanged : ∃ lines : List String,
      calls.answered = calls.answered ++ lines.map fun line => (line, calls.board.latest) :=
    ⟨[], (List.append_nil _).symm⟩
  cases act with
  | publish status => exact unchanged
  | resize capacity => exact unchanged
  | ask =>
      simp only [step]
      split
      · exact unchanged
      · exact unchanged
  | move move =>
      simp only [step]
      split
      · cases move with
        | serve most => exact ⟨_, rfl⟩
        | send most => exact ⟨[], rfl⟩
        | receive most => exact ⟨[], rfl⟩
        | look => exact ⟨[], rfl⟩
      · exact unchanged

/-! ## Calls and lines -/

/-- What holds of calls at every moment, said of the lines that the requests make together. -/
structure Aligned (requests : List String) (calls : Calls) : Prop where
  /-- Every call that has returned gave the reply to the line at its own place. -/
  answers : ∀ (call : Nat) (answer : Except IoFault String), calls.answers[call]? = some answer →
    ∃ line snapshot, (ofText (joined requests))[call]? = some line ∧
      calls.answered[call]? = some (line, snapshot) ∧
      answer = .ok (Query.reply line snapshot)
  /-- The lines answered are the first ones, and each of them is answered once. -/
  lines : calls.answered.map Prod.fst <+: ofText (joined requests)
  /-- Requests are asked in order, one for each call. -/
  asked : ∃ called, called ++ calls.unasked = requests ∧
    called.length = calls.answers.length + calls.waiting.toNat
  /-- The replies that no call has given are in the client's buffer, under way to it, or still to be
  sent, in order and unaltered. -/
  replies : calls.session.client.buffer ++
      (calls.session.connection.replies ++ calls.session.connection.handler.outgoing) =
    Handler.replyLines calls.owed
  /-- The handler stays at work. -/
  running : calls.session.connection.handler.ending = none

theorem Sound.aligned
    {requests : List String}
    {calls : Calls}
    (sound : calls.Sound requests)
    (short : Short requests) :
    calls.Aligned requests := by
  obtain ⟨running, lines⟩ := sound.running short
  refine ⟨?_, lines, sound.asked, sound.owed_eq, running⟩
  intro call answer given
  rw [sound.answers_eq, List.getElem?_map, Option.map_eq_some_iff] at given
  obtain ⟨⟨line, snapshot⟩, taken, rfl⟩ := given
  have answered : calls.answered[call]? = some (line, snapshot) := by
    rw [List.getElem?_take] at taken
    split at taken
    · exact taken
    · cases taken
  have place : (calls.answered.map Prod.fst)[call]? = some line := by
    rw [List.getElem?_map, answered]
    rfl
  obtain ⟨rest, whole⟩ := lines
  refine ⟨line, snapshot, ?_, answered, rfl⟩
  rw [← whole, List.getElem?_append_left (List.getElem?_eq_some_iff.mp place).1]
  exact place

/-- However bytes travel and whenever statuses read from frames are published, the calls of a client
give the replies to the lines of its requests, one for each call and in order, each from the last
status published before the handler took the line; no reply is lost, repeated, altered or refused.
The first line of a request stands as far behind its own place as there are newlines in the requests
before it. -/
theorem calls_give_replies_line_by_line
    (capacity : Nat)
    (requests : List String)
    (short : Short requests)
    (acts : List Act)
    (decoded : ∀ status ∈ published acts, ∃ frame, Frame.decode frame = .ok status) :
    ((start capacity requests).run acts).Aligned requests ∧
      (∀ act, ∃ lines : List String,
        ((start capacity requests).run (acts ++ [act])).answered =
          ((start capacity requests).run acts).answered ++
            lines.map fun line => (line, (published acts).getLast?)) ∧
      ∀ earlier request later, requests = earlier ++ request :: later →
        (ofText (joined requests))[earlier.length + Lines.newlines earlier]? =
          some (Lines.first request) := by
  refine ⟨?_, ?_, ?_⟩
  · exact ((sound_start capacity requests).run short decoded).aligned short
  · intro act
    have latest : ((start capacity requests).run acts).board.latest =
        (published acts).getLast? := by
      rw [board_run, start, Board.foldl_publish]
    rw [← latest, run, List.foldl_append]
    exact answered_step ((start capacity requests).run acts) act
  · rintro earlier request later rfl
    exact Lines.getElem?_ofText_joined earlier request later

/-- Both sides take turns, and few bytes move at a time. -/
def turns (count : Nat) : List Act :=
  (List.replicate count
    [.move (.send 5), .move (.serve 5), .move .look, .move (.receive 5)]).flatten

/-- The second call gives the reply to the second line of the first request, from the status
published between the two lines. -/
theorem calls_give_replies_line_by_line_behind_a_newline :
    let requests := ["get_hw\nget_sw", "ping"]
    let acts := .ask :: turns 4 ++ .publish .example :: turns 5 ++ .ask :: turns 8
    Short requests ∧
      (∀ status ∈ published acts, ∃ frame, Frame.decode frame = .ok status) ∧
      ((start 7 requests).run acts).answers = [.ok "0", .ok "21"] ∧
      ((start 7 requests).run acts).Aligned requests := by
  intro requests acts
  have short : Short requests := by decide +kernel
  have decoded : ∀ status ∈ published acts, ∃ frame, Frame.decode frame = .ok status := by
    have only : published acts = [.example] := rfl
    rw [only, List.forall_mem_singleton]
    exact ⟨Frame.encode .example, by decide +kernel⟩
  have answers : ((start 7 requests).run acts).answers = [.ok "0", .ok "21"] := by
    decide +kernel
  exact ⟨short, decoded, answers,
    (calls_give_replies_line_by_line 7 requests short acts decoded).1⟩

end Calls
end SerialShare
