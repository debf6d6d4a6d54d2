import SerialShare.Connection.Handler
import SerialShare.Proofs.Lines.Framing

/-!
# A handler reads plainly

A handler `Follows` the bytes that have arrived when the lines it has taken are those that the plain
reading of these bytes begins with, and what it holds in its buffer accounts for the rest of the
reading, whatever arrives later.  Receiving, learning of the end, looking and sending all keep this.

The equations for `look` tell its outcomes apart by what the splitter cuts off the buffer.  While
`Follows` holds, the last of them, an overflow, does not come up.
-/

namespace SerialShare
namespace Handler

open Lines (reading defaultLimit Extends Faithful Roomy)

/-- The requests that events tell of. -/
def taken (events : List Log.Event) : List String :=
  events.filterMap fun
    | .replying request _ => some request
    | _ => none

@[simp] theorem taken_nil : taken [] = [] := rfl

@[simp] theorem taken_replying (request reply : String) :
    taken [.replying request reply] = [request] := rfl

/-- The bytes that a client is sent for a request: the reply and one newline. -/
def replyLine (request : String) (snapshot : Snapshot) : Bytes :=
  Text.utf8 (Query.reply request snapshot) ++ [0x0A]

/-- The bytes that a client is sent for requests, each answered from a snapshot of its own. -/
def replyLines (answered : List (String × Snapshot)) : Bytes :=
  answered.flatMap fun entry => replyLine entry.1 entry.2

@[simp] theorem replyLines_append (earlier later : List (String × Snapshot)) :
    replyLines (earlier ++ later) = replyLines earlier ++ replyLines later :=
  List.flatMap_append

/-- The requests that events tell of, with the snapshot they were answered from. -/
def answering (snapshot : Snapshot) (events : List Log.Event) : List (String × Snapshot) :=
  (taken events).map fun request => (request, snapshot)

@[simp] theorem answering_nil (snapshot : Snapshot) : answering snapshot [] = [] := rfl

@[simp] theorem map_fst_answering
    (snapshot : Snapshot)
    (events : List Log.Event) :
    (answering snapshot events).map Prod.fst = taken events := by
  rw [answering, List.map_map]
  exact List.map_id _

theorem phase_eq_receiving_iff (handler : Handler) :
    handler.phase = .receiving ↔
      handler.ending = none ∧ handler.outgoing = [] ∧ handler.looking = false := by
  obtain ⟨splitter, buffer, looking, inputEnded, outgoing, ending⟩ := handler
  cases ending <;> cases outgoing <;> cases looking <;> simp [phase]

theorem fault?_eq_some_iff
    (handler : Handler)
    (fault : Fault) :
    handler.fault? = some fault ↔
      ∃ source, handler.ending = some (.error source) ∧ fault = .clientDisconnected source := by
  unfold fault?
  split
  · rename_i source ending
    simp [ending, eq_comm]
  · rename_i other
    constructor
    · rintro ⟨⟩
    · rintro ⟨source, ending, _⟩
      exact absurd ending (other source)

/-! ## Looking -/

/-- What the splitter cuts off the buffer. -/
def found (handler : Handler) : Lines.Reading :=
  handler.splitter.cut handler.inputEnded handler.buffer

theorem look_of_line
    {handler : Handler}
    {request : String}
    (line : handler.found.result = .line request)
    (snapshot : Snapshot) :
    handler.look snapshot =
      ({ handler with
          splitter := handler.found.splitter
          buffer := handler.found.buffer
          outgoing := replyLine request snapshot },
        [.replying request (Query.reply request snapshot)]) := by
  unfold found Lines.Splitter.cut at line
  unfold look
  simp only [line]
  rfl

theorem look_of_nothing
    {handler : Handler}
    (nothing : handler.found.result = .nothing)
    (snapshot : Snapshot) :
    handler.look snapshot =
      ({ handler with
          splitter := handler.found.splitter
          buffer := handler.found.buffer
          looking := handler.inputEnded && handler.looking
          ending := if handler.inputEnded then some (.ok ()) else handler.ending }, []) := by
  unfold found Lines.Splitter.cut at nothing
  unfold look
  simp only [nothing]
  cases ended : handler.inputEnded with
  | false => simp only [found, Lines.Splitter.cut, ended, Bool.false_and]; rfl
  | true => simp only [found, Lines.Splitter.cut, ended, Bool.true_and]; rfl

theorem look_of_refusal
    {handler : Handler}
    {fault : IoFault}
    (refusal : handler.found.result = .refused fault)
    (snapshot : Snapshot) :
    handler.look snapshot =
      ({ handler with
          splitter := handler.found.splitter
          buffer := handler.found.buffer
          ending := some (.error fault) }, []) := by
  unfold found Lines.Splitter.cut at refusal
  unfold look
  simp only [refusal]
  rfl

theorem look_of_overflow
    {handler : Handler}
    (overflow : handler.found.result = .overflow)
    (snapshot : Snapshot) :
    handler.look snapshot =
      ({ handler with
          splitter := handler.found.splitter
          buffer := handler.found.buffer }, []) := by
  unfold found Lines.Splitter.cut at overflow
  unfold look
  simp only [overflow]
  rfl

/-- Unless a handler finds a line, looking records nothing, and leaves what is to be sent and what
is known of the end as they are. -/
theorem cases_look
    (handler : Handler)
    (snapshot : Snapshot) :
    (∃ request, handler.found.result = .line request) ∨
      (handler.look snapshot).2 = [] ∧
        (handler.look snapshot).1.outgoing = handler.outgoing ∧
        (handler.look snapshot).1.inputEnded = handler.inputEnded := by
  cases result : handler.found.result with
  | line request => exact Or.inl ⟨request, rfl⟩
  | nothing =>
      rw [look_of_nothing result]
      exact Or.inr ⟨rfl, rfl, rfl⟩
  | refused fault =>
      rw [look_of_refusal result]
      exact Or.inr ⟨rfl, rfl, rfl⟩
  | overflow =>
      rw [look_of_overflow result]
      exact Or.inr ⟨rfl, rfl, rfl⟩

theorem inputEnded_look
    (handler : Handler)
    (snapshot : Snapshot) :
    (handler.look snapshot).1.inputEnded = handler.inputEnded := by
  obtain ⟨request, line⟩ | ⟨_, _, same⟩ := handler.cases_look snapshot
  · rw [look_of_line line]
  · exact same

/-- What a handler records when it looks is that it replies from the snapshot. -/
theorem events_look
    (handler : Handler)
    (snapshot : Snapshot) :
    (handler.look snapshot).2 =
      (taken (handler.look snapshot).2).map fun request =>
        .replying request (Query.reply request snapshot) := by
  obtain ⟨request, line⟩ | ⟨silent, _, _⟩ := handler.cases_look snapshot
  · rw [look_of_line line, taken_replying, List.map_singleton]
  · rw [silent, taken_nil, List.map_nil]

/-- What a handler sends after looking is the replies to the requests it has taken. -/
theorem outgoing_look
    {handler : Handler}
    (clear : handler.outgoing = [])
    (snapshot : Snapshot) :
    (handler.look snapshot).1.outgoing =
      replyLines (answering snapshot (handler.look snapshot).2) := by
  obtain ⟨request, line⟩ | ⟨silent, same, _⟩ := handler.cases_look snapshot
  · rw [look_of_line line]
    exact (List.append_nil _).symm
  · rw [silent, same]
    exact clear

/-- A handler that ends by looking has nothing to send. -/
theorem outgoing_look_of_ended
    {handler : Handler}
    {snapshot : Snapshot}
    (running : handler.ending = none)
    (clear : handler.outgoing = [])
    (ended : (handler.look snapshot).1.ending ≠ none) :
    (handler.look snapshot).1.outgoing = [] := by
  obtain ⟨request, line⟩ | ⟨_, same, _⟩ := handler.cases_look snapshot
  · rw [look_of_line line] at ended
    exact absurd running ended
  · exact same.trans clear

/-- Looking takes no line, or one to which there is a reply to send. -/
theorem answering_look
    (handler : Handler)
    (snapshot : Snapshot) :
    answering snapshot (handler.look snapshot).2 = [] ∨
      ∃ request, answering snapshot (handler.look snapshot).2 = [(request, snapshot)] ∧
        (handler.look snapshot).1.outgoing ≠ [] := by
  obtain ⟨request, line⟩ | ⟨silent, _, _⟩ := handler.cases_look snapshot
  · rw [look_of_line line]
    refine Or.inr ⟨request, rfl, ?_⟩
    exact List.append_ne_nil_of_right_ne_nil _ (List.cons_ne_nil _ _)
  · rw [silent]
    exact Or.inl rfl

/-- The splitter has the default limit and can go on with the buffer. -/
structure Ready (handler : Handler) : Prop where
  /-- The limit is the default one. -/
  limit_eq : handler.splitter.limit = defaultLimit
  /-- The splitter can go on with the buffer. -/
  looked : handler.splitter.Looked handler.buffer

/-- What a ready handler finds in its buffer says the right thing about the plain reading. -/
theorem Ready.faithful
    {handler : Handler}
    (ready : handler.Ready) :
    Faithful defaultLimit handler.inputEnded handler.buffer handler.found := by
  have roomy : Roomy handler.splitter.limit := by
    rw [ready.limit_eq]
    decide
  have faithful := Lines.Splitter.faithful_cut roomy ready.looked handler.inputEnded
  rw [ready.limit_eq] at faithful
  exact faithful

/-! ## Following -/

/-- A handler has taken the lines that the plain reading of what has arrived begins with, and holds
the rest. -/
structure Follows (handler : Handler) (arrived : Bytes) (lines : List String) : Prop where
  /-- The limit is the default one. -/
  limit_eq : handler.splitter.limit = defaultLimit
  /-- The splitter can go on with the buffer. -/
  looked : handler.splitter.Looked handler.buffer
  /-- A handler at work has the rest of the reading before it. -/
  running : handler.ending = none → ∀ later more, Extends handler.inputEnded later more →
    reading defaultLimit.toNat later (arrived ++ more) =
      (reading defaultLimit.toNat later (handler.buffer ++ more)).after lines
  /-- A handler that waits has nothing left to read, and knows of no end. -/
  waiting : handler.ending = none → handler.looking = false →
    handler.inputEnded = false ∧ reading defaultLimit.toNat false handler.buffer = ⟨[], none⟩
  /-- A handler ends with a fault where the reading ends with it. -/
  refused : ∀ fault, handler.ending = some (.error fault) →
    ∀ later more, Extends handler.inputEnded later more →
      reading defaultLimit.toNat later (arrived ++ more) = ⟨lines, some fault⟩
  /-- A handler ends without a fault where the reading of everything does. -/
  completed : handler.ending = some (.ok ()) →
    handler.inputEnded = true ∧ reading defaultLimit.toNat true arrived = ⟨lines, none⟩

theorem follows_new : new.Follows [] [] := by
  refine ⟨rfl, Lines.Splitter.looked_of_cursor_eq_zero rfl [], ?_, ?_, ?_, ?_⟩
  · intro _ later more _
    rfl
  · intro _ _
    exact ⟨rfl, rfl⟩
  · rintro fault ⟨⟩
  · rintro ⟨⟩

/-- Whatever still arrives, the reading begins with the lines taken. -/
theorem Follows.begins
    {handler : Handler}
    {arrived : Bytes}
    {lines : List String}
    (follows : handler.Follows arrived lines)
    {later : Bool}
    {more : Bytes}
    (grows : Extends handler.inputEnded later more) :
    ∃ rest : Lines.Transcript,
      reading defaultLimit.toNat later (arrived ++ more) = rest.after lines := by
  cases ending : handler.ending with
  | none => exact ⟨_, follows.running ending later more grows⟩
  | some result =>
      cases result with
      | error fault =>
          refine ⟨⟨[], some fault⟩, ?_⟩
          rw [follows.refused fault ending later more grows, Lines.Transcript.nil_after]
      | ok nothing =>
          obtain ⟨finished, read⟩ := follows.completed ending
          obtain ⟨rfl, rfl⟩ := grows finished
          refine ⟨⟨[], none⟩, ?_⟩
          rw [List.append_nil, read, Lines.Transcript.nil_after]

theorem Follows.receive
    {handler : Handler}
    {arrived : Bytes}
    {lines : List String}
    (follows : handler.Follows arrived lines)
    (open_ : handler.ending = none)
    (unfinished : handler.inputEnded = false)
    (chunk : Bytes) :
    (handler.receive chunk).Follows (arrived ++ chunk) lines := by
  refine ⟨follows.limit_eq, follows.looked.append chunk, ?_, ?_, ?_, ?_⟩
  · intro _ later more _
    have grows : Extends handler.inputEnded later (chunk ++ more) := by
      rw [unfinished]
      rintro ⟨⟩
    have whole := follows.running open_ later (chunk ++ more) grows
    simpa only [Handler.receive, List.append_assoc] using whole
  · rintro _ ⟨⟩
  · intro fault ended
    rw [Handler.receive, open_] at ended
    cases ended
  · intro ended
    rw [Handler.receive, open_] at ended
    cases ended

theorem Follows.finishInput
    {handler : Handler}
    {arrived : Bytes}
    {lines : List String}
    (follows : handler.Follows arrived lines)
    (open_ : handler.ending = none)
    (unfinished : handler.inputEnded = false) :
    handler.finishInput.Follows arrived lines := by
  refine ⟨follows.limit_eq, follows.looked, ?_, ?_, ?_, ?_⟩
  · intro _ later more _
    have grows : Extends handler.inputEnded later more := by
      rw [unfinished]
      rintro ⟨⟩
    exact follows.running open_ later more grows
  · rintro _ ⟨⟩
  · intro fault ended
    rw [Handler.finishInput, open_] at ended
    cases ended
  · intro ended
    rw [Handler.finishInput, open_] at ended
    cases ended

theorem Follows.sent
    {handler : Handler}
    {arrived : Bytes}
    {lines : List String}
    (follows : handler.Follows arrived lines)
    (count : Nat) :
    (handler.sent count).Follows arrived lines :=
  ⟨follows.limit_eq, follows.looked, follows.running, follows.waiting, follows.refused,
    follows.completed⟩

theorem Follows.ready
    {handler : Handler}
    {arrived : Bytes}
    {lines : List String}
    (follows : handler.Follows arrived lines) :
    handler.Ready :=
  ⟨follows.limit_eq, follows.looked⟩

theorem Follows.look
    {handler : Handler}
    {arrived : Bytes}
    {lines : List String}
    (follows : handler.Follows arrived lines)
    (open_ : handler.ending = none)
    (looks : handler.looking = true)
    (snapshot : Snapshot) :
    (handler.look snapshot).1.Follows arrived
      (lines ++ taken (handler.look snapshot).2) := by
  have faithful := follows.ready.faithful
  cases result : handler.found.result with
  | overflow => exact absurd result faithful.answered
  | refused fault =>
      rw [look_of_refusal result]
      refine ⟨faithful.limit_eq, faithful.looked, ?_, ?_, ?_, ?_⟩
      · rintro ⟨⟩
      · rintro ⟨⟩
      · rintro other ⟨⟩ later more grows
        rw [follows.running open_ later more grows,
          faithful.refused fault result later more grows]
        rfl
      · rintro ⟨⟩
  | line request =>
      rw [look_of_line result]
      refine ⟨faithful.limit_eq, faithful.looked, ?_, ?_, ?_, ?_⟩
      · intro _ later more grows
        rw [follows.running open_ later more grows,
          (faithful.line request result).2 later more grows]
        exact Lines.Transcript.after_after _ _ _
      · intro _ idle
        rw [looks] at idle
        cases idle
      · intro fault ended
        rw [open_] at ended
        cases ended
      · intro ended
        rw [open_] at ended
        cases ended
  | nothing =>
      obtain ⟨same, read⟩ := faithful.nothing result
      rw [look_of_nothing result, taken_nil, List.append_nil]
      refine ⟨faithful.limit_eq, faithful.looked, ?_, ?_, ?_, ?_⟩
      · intro _ later more grows
        rw [follows.running open_ later more grows]
        simp only [same]
      · intro running idle
        have unfinished : handler.inputEnded = false := by
          simpa only [looks, Bool.and_true] using idle
        refine ⟨unfinished, ?_⟩
        rw [unfinished] at read
        simpa only [same] using read
      · intro fault ended
        cases finished : handler.inputEnded with
        | false => simp [finished, open_] at ended
        | true => simp [finished] at ended
      · intro ended
        cases finished : handler.inputEnded with
        | false => simp [finished, open_] at ended
        | true =>
            refine ⟨rfl, ?_⟩
            have all := follows.running open_ true [] (fun _ => ⟨rfl, rfl⟩)
            rw [finished] at read
            simp only [List.append_nil] at all
            rw [all, read, Lines.Transcript.nil_after]

end Handler
end SerialShare
