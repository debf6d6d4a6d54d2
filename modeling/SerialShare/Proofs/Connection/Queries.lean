import SerialShare.Proofs.Connection.Calls

/-!
# Queries are calls

`Session.query` asks a request and lets both sides take their turns until it is answered.  That is
one of the runs that calls can take, and so are queries one after the other, up to the first that
is not answered.  What holds of all runs then holds of these.
-/

namespace SerialShare
namespace Calls

open Lines (joined ofText)

/-- A call went on until the session and the answer were these, if there is an answer yet.  Nothing
was asked or published meanwhile. -/
structure Continued (calls : Calls) (result : Option (Except IoFault String) × Session)
    (later : Calls) : Prop where
  /-- The session is the one that was reached. -/
  session_eq : later.session = result.2
  /-- The answer is what the call gave. -/
  answers_eq : later.answers = calls.answers ++ result.1.toList
  /-- Without an answer the call is still waiting. -/
  waiting_eq : later.waiting = result.1.isNone
  /-- No other request was asked. -/
  unasked_eq : later.unasked = calls.unasked
  /-- The board is the same. -/
  board_eq : later.board = calls.board

theorem run_append
    (calls : Calls)
    (earlier later : List Act) :
    calls.run (earlier ++ later) = (calls.run earlier).run later :=
  List.foldl_append

theorem allows_of_waiting
    {calls : Calls}
    (waiting : calls.waiting = true)
    (move : Session.Move) :
    calls.allows move = true := by
  cases move with
  | serve most => rfl
  | send most => exact waiting
  | receive most => exact waiting
  | look => exact waiting

/-- Acts that publish nothing lead a call on to a session and an answer, if there is one yet. -/
def Reaches (calls : Calls) (result : Option (Except IoFault String) × Session) : Prop :=
  ∃ acts, published acts = [] ∧ calls.Continued result (calls.run acts)

theorem reaches_self
    {calls : Calls}
    (waiting : calls.waiting = true) :
    calls.Reaches (none, calls.session) :=
  ⟨[], rfl, rfl, (List.append_nil _).symm, waiting, rfl, rfl⟩

theorem reaches_move
    {calls : Calls}
    (waiting : calls.waiting = true)
    (move : Session.Move) :
    calls.Reaches (calls.session.move calls.board.latest move) := by
  have stepped : calls.step (.move move) = calls.advance move :=
    if_pos (allows_of_waiting waiting move)
  refine ⟨[.move move], rfl, ?_⟩
  change calls.Continued _ (calls.step (.move move))
  rw [stepped]
  refine ⟨rfl, rfl, ?_, rfl, rfl⟩
  simp only [advance, waiting, Bool.true_and]

/-- Go on from where there is no answer. -/
def goOn (result : Option (Except IoFault String) × Session)
    (next : Session → Option (Except IoFault String) × Session) :
    Option (Except IoFault String) × Session :=
  match result with
  | (some answer, session) => (some answer, session)
  | (none, session) => next session

theorem moves_cons
    (snapshot : Snapshot)
    (session : Session)
    (move : Session.Move)
    (later : List Session.Move) :
    session.moves snapshot (move :: later) =
      goOn (session.move snapshot move) fun session => session.moves snapshot later :=
  rfl

theorem await_succ
    (snapshot : Snapshot)
    (session : Session)
    (rounds : Nat) :
    session.await snapshot (rounds + 1) =
      goOn (session.moves snapshot (Session.round session.connection.capacity))
        fun session => session.await snapshot rounds :=
  rfl

theorem Reaches.goOn
    {calls : Calls}
    {result : Option (Except IoFault String) × Session}
    {next : Session → Option (Except IoFault String) × Session}
    (first : calls.Reaches result)
    (rest : ∀ later : Calls, later.waiting = true → later.board = calls.board →
      later.Reaches (next later.session)) :
    calls.Reaches (goOn result next) := by
  obtain ⟨answer, session⟩ := result
  cases answer with
  | some answer => exact first
  | none =>
      obtain ⟨acts, quiet, continued⟩ := first
      obtain ⟨later, stillQuiet, finished⟩ :=
        rest (calls.run acts) continued.waiting_eq continued.board_eq
      refine ⟨acts ++ later, ?_, ?_⟩
      · rw [published_append, quiet, stillQuiet]
        rfl
      · rw [run_append]
        rw [continued.session_eq] at finished
        refine ⟨finished.session_eq, ?_, finished.waiting_eq,
          finished.unasked_eq.trans continued.unasked_eq,
          finished.board_eq.trans continued.board_eq⟩
        rw [finished.answers_eq, continued.answers_eq, Option.toList_none, List.append_nil]
        rfl

theorem reaches_moves
    {calls : Calls}
    (waiting : calls.waiting = true)
    (moves : List Session.Move) :
    calls.Reaches (calls.session.moves calls.board.latest moves) := by
  induction moves generalizing calls with
  | nil => exact reaches_self waiting
  | cons move later inductionHypothesis =>
      rw [moves_cons]
      apply (reaches_move waiting move).goOn
      intro reached stillWaiting sameBoard
      rw [← sameBoard]
      exact inductionHypothesis stillWaiting

theorem reaches_await
    {calls : Calls}
    (waiting : calls.waiting = true)
    (rounds : Nat) :
    calls.Reaches (calls.session.await calls.board.latest rounds) := by
  induction rounds generalizing calls with
  | zero => exact reaches_self waiting
  | succ rounds inductionHypothesis =>
      rw [await_succ]
      apply (reaches_moves waiting (Session.round calls.session.connection.capacity)).goOn
      intro reached stillWaiting sameBoard
      rw [← sameBoard]
      exact inductionHypothesis stillWaiting

/-- A query is a run of one call. -/
theorem exists_run_query
    {calls : Calls}
    {request : String}
    {later : List String}
    (idle : calls.waiting = false)
    (next : calls.unasked = request :: later) :
    ∃ acts, published acts = [] ∧
      Continued { calls with unasked := later }
        (calls.session.query calls.board.latest request) (calls.run acts) := by
  have asked : calls.step .ask =
      { calls with
        session := { calls.session with client := calls.session.client.ask request }
        unasked := later
        waiting := true } := by
    simp only [step, idle, next]
  have waiting : (calls.step .ask).waiting = true := by
    rw [asked]
  obtain ⟨acts, quiet, finished⟩ := reaches_await waiting
    ((calls.step .ask).session.connection.roundsFor (calls.step .ask).session.client.outgoing +
      (calls.step .ask).session.connection.replies.length)
  refine ⟨.ask :: acts, quiet, ?_⟩
  change Continued _ _ ((calls.step .ask).run acts)
  generalize (calls.step .ask).run acts = reached at finished ⊢
  rw [asked] at finished
  exact ⟨finished.session_eq, finished.answers_eq, finished.waiting_eq, finished.unasked_eq,
    finished.board_eq⟩

/-- Queries one after the other are a run, up to the first that is not answered. -/
theorem exists_run_queries
    {calls : Calls}
    (idle : calls.waiting = false) :
    ∃ acts, published acts = [] ∧
      (calls.run acts).answers.map some = calls.answers.map some ++
        (calls.session.queries calls.board.latest calls.unasked).takeWhile Option.isSome := by
  induction requests : calls.unasked generalizing calls with
  | nil => exact ⟨[], rfl, (List.append_nil _).symm⟩
  | cons request later inductionHypothesis =>
      obtain ⟨acts, quiet, continued⟩ := exists_run_query idle requests
      rw [Session.queries]
      generalize calls.session.query calls.board.latest request = result at continued ⊢
      obtain ⟨answer, session⟩ := result
      cases answer with
      | none =>
          refine ⟨acts, quiet, ?_⟩
          rw [continued.answers_eq]
          simp only [Option.toList_none, List.append_nil, List.takeWhile_cons, Option.isSome_none,
            Bool.false_eq_true, if_false]
      | some answer =>
          obtain ⟨rest, stillQuiet, finished⟩ :=
            inductionHypothesis continued.waiting_eq continued.unasked_eq
          rw [continued.session_eq, continued.board_eq] at finished
          refine ⟨acts ++ rest, ?_, ?_⟩
          · rw [published_append, quiet, stillQuiet]
            rfl
          · rw [run_append, finished, continued.answers_eq]
            simp only [Option.toList_some, List.map_append, List.map_singleton, List.append_assoc,
              List.takeWhile_cons, Option.isSome_some, if_true, List.singleton_append]

/-- What is answered while nothing is published is answered from what is on the board. -/
theorem answered_run
    (calls : Calls)
    {acts : List Act}
    (quiet : published acts = []) :
    ∃ lines : List String,
      (calls.run acts).answered =
        calls.answered ++ lines.map fun line => (line, calls.board.latest) := by
  induction acts generalizing calls with
  | nil => exact ⟨[], (List.append_nil _).symm⟩
  | cons act later inductionHypothesis =>
      rw [published_cons, List.append_eq_nil_iff] at quiet
      obtain ⟨first, stepped⟩ := calls.answered_step act
      obtain ⟨rest, finished⟩ := inductionHypothesis (calls.step act) quiet.2
      refine ⟨first ++ rest, ?_⟩
      rw [board_step, quiet.1, List.foldl_nil, stepped, List.append_assoc,
        ← List.map_append] at finished
      exact finished

theorem Sound.queries_isPrefix
    {requests : List String}
    {calls : Calls}
    (sound : calls.Sound requests)
    (short : Short requests)
    (idle : calls.waiting = false)
    (fresh : calls.answers = [])
    (unanswered : calls.answered = []) :
    (calls.session.queries calls.board.latest calls.unasked).takeWhile Option.isSome <+:
      (ofText (joined requests)).map fun line =>
        some (.ok (Query.reply line calls.board.latest)) := by
  obtain ⟨acts, quiet, given⟩ := exists_run_queries idle
  obtain ⟨lines, answered⟩ := answered_run calls quiet
  have decoded : ∀ status ∈ published acts, ∃ frame, Frame.decode frame = .ok status := by
    rw [quiet]
    exact List.forall_mem_nil _
  have reached := sound.run short decoded
  have first := (reached.running short).2
  have replies := reached.answers_eq
  have own : lines.map (Prod.fst ∘ fun line => (line, calls.board.latest)) = lines :=
    List.map_id lines
  rw [answered, unanswered, List.nil_append, List.map_map, own] at first
  rw [answered, unanswered, List.nil_append, ← List.map_take, List.map_map] at replies
  rw [fresh, List.map_nil, List.nil_append] at given
  rw [← given, replies, List.map_map]
  exact ((List.take_prefix _ lines).trans first).map _

/-- Queries one after the other, on a connection of their own, are answered with the replies to the
lines of their requests, in order, up to the first query that is not answered. -/
theorem queries_isPrefix_replies
    (capacity : Nat)
    {snapshot : Snapshot}
    (decoded : Query.Decoded snapshot)
    {requests : List String}
    (short : Short requests) :
    ((Session.new capacity).queries snapshot requests).takeWhile Option.isSome <+:
      (ofText (joined requests)).map fun line => some (.ok (Query.reply line snapshot)) := by
  have sound : Sound requests { start capacity requests with board := ⟨snapshot, 0⟩ } :=
    { sound_start capacity requests with board_decoded := decoded }
  exact sound.queries_isPrefix short rfl rfl rfl

end Calls
end SerialShare
