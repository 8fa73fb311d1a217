import Qualifier.Proofs.Outside.Words
import Qualifier.Proofs.Registry.Histories

/-!
# Failures Queued Between Calls

What the simulated services do when failures and suite runs are queued at any time, in
between the calls. Every queue goes its own way: a move that is for another operation
does not touch it (`pending_moved`). So the entries that the calls of one operation run
into can be told from the moves for that operation alone, and in the order in which they
were queued.

A call that runs into a failure is only noted. Any other call does not depend on what is
queued at all: with all queues taken away it does the same (`perform_unqueued`). The suite
runs are a queue as well, but one that is never short of an answer, for the last snapshot
is shown again.

## Main definitions

* `Move`, `Cloud.moved`, `Cloud.afterMoves`: What may be done with the services.
* `Cloud.callsIn`: The calls among some moves, each with what came of it.
* `Move.through`: What a move does to the queue of one operation.
* `Call.taken?`, `Call.Obeys`: The entry a call takes, and what it makes of it.
* `Call.shown?`, `lastShown`, `nextShown`: The suite runs that are shown.

## Theorems

* `pending_moved`: Every queue goes its own way.
* `perform_unqueued`: What a call does has nothing to do with the queues.
* `obeys_service`: What a call makes of its entry.
* `taken_afterMoves`, `taken_filter`: The entries are taken in order, whatever comes
  between.
* `shown_afterMoves`, `lastRun_afterMoves`: So are the suite runs.
* `interleaving_obeys_queues`: All of this, for any moves.
-/

namespace Qualifier

namespace Simulated

/-- What may be done with the services: something is queued, or a call is made. -/
inductive Move where
  | failNext (op : Operation) (error : ServiceError)
  | passNext (op : Operation)
  | pushRun (run : Except ServiceError Snapshot)
  | call (r : Request)

/-- The cloud after one move. -/
def Cloud.moved (c : Cloud) : Move → Cloud
  | .failNext op error => c.failNext op error
  | .passNext op => c.passNext op
  | .pushRun run => c.pushRun run
  | .call r => (c.service r).2

/-- The cloud after some moves. -/
def Cloud.afterMoves (c : Cloud) (moves : List Move) : Cloud :=
  moves.foldl Cloud.moved c

/-- The call that a move is, with what comes of it. -/
def Cloud.callOf? (c : Cloud) : Move → Option Call
  | .call r => some ⟨c, r, (c.service r).1, (c.service r).2⟩
  | _ => none

/-- The calls among some moves, each with what came of it. -/
def Cloud.callsIn (c : Cloud) : List Move → List Call
  | [] => []
  | move :: rest => (c.callOf? move).toList ++ (c.moved move).callsIn rest

/-- What a move asks for, if it is a call. -/
def Move.request? : Move → Option Request
  | .call r => some r
  | _ => none

/-- The entry that a move queues for an operation. -/
def Move.queued? (op : Operation) : Move → Option (Option ServiceError)
  | .failNext other error => if other = op then some (some error) else none
  | .passNext other => if other = op then some none else none
  | .pushRun _ | .call _ => none

/-- A move has to do with an operation: something is queued for it, or it is called. -/
def Move.concerns (op : Operation) : Move → Bool
  | .failNext other _ => decide (other = op)
  | .passNext other => decide (other = op)
  | .pushRun _ => false
  | .call r => decide (r.operation = op)

/-- What a move does to the queue of an operation. -/
def Move.through (op : Operation) (queue : List (Option ServiceError)) :
    Move → List (Option ServiceError)
  | .call r => if r.operation = op then queue.tail else queue
  | move => queue ++ (move.queued? op).toList

/-- The suite run that a move queues. -/
def Move.pushed? : Move → Option (Except ServiceError Snapshot)
  | .pushRun run => some run
  | _ => none

/-- The entry that a call takes: the oldest in the queue of its operation. -/
def Call.taken? (x : Call) : Option (Option ServiceError) :=
  (x.before.pending x.request.operation).head?

/-- The calls of one operation. -/
def callsOf (op : Operation) (calls : List Call) : List Call :=
  calls.filter fun x => x.request.operation = op

/-- The cloud with nothing queued for any operation. -/
def Cloud.unqueued (c : Cloud) : Cloud :=
  { c with pending := fun _ => [] }

/-- A call takes the oldest entry that is queued for its operation, and leaves the other
    queues alone. With a failure it answers that failure, and nothing else is different
    afterwards but that it was noted. Otherwise it does what it would do if nothing were
    queued at all. -/
structure Call.Obeys (x : Call) : Prop where
  queues : ∀ op, x.after.pending op =
    if op = x.request.operation then (x.before.pending op).tail else x.before.pending op
  failed : ∀ error, x.taken? = some (some error) → x.answer = .error error ∧
    x.after = { x.before with
      calls := x.before.calls ++ [x.request.operation]
      pending := x.after.pending }
  passed : (∀ error, x.taken? ≠ some (some error)) →
    x.answer = (x.before.unqueued.service x.request).1 ∧
      x.after.unqueued = (x.before.unqueued.service x.request).2

/-- The suite run that a call takes from those that are queued: it has to be a look at a
    run, and not to run into a failure. -/
def Call.shown? (x : Call) : Option (Except ServiceError Snapshot) :=
  match x.request, x.taken?.join with
  | .getSuiteRun _, none => x.before.runs.head?
  | _, _ => none

/-- The last snapshot among the runs that were shown, after one that was shown before. -/
def lastShown (before : Option Snapshot) (shown : List (Except ServiceError Snapshot)) :
    Option Snapshot :=
  shown.foldl (fun last run => run.toOption.or last) before

/-- What a look at a run is answered: the oldest run that is queued, and when there is none
    the last snapshot again. -/
def nextShown (queued : List (Except ServiceError Snapshot)) (last : Option Snapshot)
    (job : Job) : Except ServiceError Snapshot :=
  match queued, last with
  | run :: _, _ => run
  | [], some snapshot => .ok snapshot
  | [], none => .error (absent "get-suite-run" job.runId)

namespace Cloud

variable (c : Cloud)

/-! ## One call -/

/-- A call leaves all queues alone but that of its operation, and there takes one entry. -/
theorem pending_service (r : Request) (op : Operation) :
    (c.service r).2.pending op =
      if op = r.operation then (c.pending op).tail else c.pending op := by
  rw [service_eq]
  cases (c.pending r.operation).headD none with
  | some error => rfl
  | none => exact congrFun (pending_perform r _) op

theorem unqueued_noted (op : Operation) : (c.noted op).unqueued = c.unqueued.noted op := by
  have hempty : (fun o => if o = op then ([] : List (Option ServiceError)).tail else []) =
      fun _ => [] := by
    funext o
    split <;> rfl
  exact congrArg (fun pending => { c with calls := c.calls ++ [op], pending }) hempty.symm

/-- What a call does has nothing to do with the queues. -/
theorem perform_unqueued (r : Request) :
    perform r c.unqueued = ((perform r c).1, (perform r c).2.unqueued) := by
  cases r with
  | startSuiteRun suiteId arn =>
      by_cases hknown : (c.things.entries.any fun e => e.2.arn = arn) = true
      · simp only [perform, if_pos hknown]
        exact if_pos hknown
      · simp only [perform, if_neg hknown]
        exact if_neg hknown
  | _ =>
      simp only [perform, onThing, onCertificate, unqueued]
      repeat' split
      all_goals first | rfl | simp_all

theorem service_unqueued (r : Request) :
    c.unqueued.service r = perform r (c.noted r.operation).unqueued := by
  rw [service_eq, unqueued_noted]
  rfl

theorem headD_eq_join (queue : List (Option ServiceError)) :
    queue.headD none = queue.head?.join := by
  cases queue <;> rfl

theorem obeys_service (r : Request) :
    Call.Obeys ⟨c, r, (c.service r).1, (c.service r).2⟩ where
  queues op := pending_service c r op
  failed error htaken := by
    have hhead : (c.pending r.operation).headD none = some error := by
      rw [headD_eq_join, show (c.pending r.operation).head? = _ from htaken]
      rfl
    simp only [service_eq r c, hhead, true_and]
    rfl
  passed hpass := by
    have hhead : (c.pending r.operation).headD none = none := by
      rw [headD_eq_join]
      cases htaken : (c.pending r.operation).head? with
      | none => rfl
      | some entry =>
          cases entry with
          | none => rfl
          | some error => exact absurd htaken (hpass error)
    simp only [service_unqueued, perform_unqueued, service_eq r c, hhead, and_self]

/-! ## The queues of failures -/

theorem pending_queue (op other : Operation) (entry : Option ServiceError) :
    (c.queue op entry).pending other =
      c.pending other ++ (if op = other then [entry] else []) := by
  by_cases heq : other = op
  · simp [queue, heq]
  · simp [queue, heq, Ne.symm heq]

/-- Every queue goes its own way. -/
theorem pending_moved (move : Move) (op : Operation) :
    (c.moved move).pending op = move.through op (c.pending op) := by
  cases move with
  | failNext other error =>
      rw [moved, failNext, pending_queue]
      by_cases heq : other = op <;> simp [Move.through, Move.queued?, heq]
  | passNext other =>
      rw [moved, passNext, pending_queue]
      by_cases heq : other = op <;> simp [Move.through, Move.queued?, heq]
  | pushRun run => simp [moved, pushRun, Move.through, Move.queued?]
  | call r =>
      rw [moved, pending_service, Move.through]
      by_cases heq : op = r.operation
      · rw [if_pos heq, if_pos heq.symm]
      · rw [if_neg heq, if_neg (Ne.symm heq)]

theorem filterMap_toList {α β : Type} (o : Option α) (f : α → Option β) :
    o.toList.filterMap f = (o.bind f).toList := by
  cases o with
  | none => rfl
  | some a =>
      rw [Option.toList_some, List.filterMap_cons, Option.bind_some]
      cases f a <;> rfl

/-- What calls take out of a queue is what was in it or was put into it, in that order, and
    the rest is left: it is enough to see this for one move. -/
theorem taken_and_left {β : Type} (queue : Cloud → List β) (taken : Call → Option β)
    (put : Move → Option β)
    (hmove : ∀ c move, ((callOf? c move).bind taken).toList ++ queue (c.moved move) =
      queue c ++ (put move).toList) (moves : List Move) :
    (c.callsIn moves).filterMap taken ++ queue (c.afterMoves moves) =
      queue c ++ moves.filterMap put := by
  induction moves generalizing c with
  | nil => exact (List.append_nil _).symm
  | cons move rest ih =>
      have hcalls : (c.callsIn (move :: rest)).filterMap taken =
          ((c.callOf? move).bind taken).toList ++ ((c.moved move).callsIn rest).filterMap taken := by
        rw [callsIn, List.filterMap_append, filterMap_toList]
      have hput : (move :: rest).filterMap put = (put move).toList ++ rest.filterMap put := by
        rw [List.filterMap_cons]
        cases put move <;> rfl
      calc (c.callsIn (move :: rest)).filterMap taken ++ queue (c.afterMoves (move :: rest))
          = ((c.callOf? move).bind taken).toList ++
              (((c.moved move).callsIn rest).filterMap taken ++
                queue ((c.moved move).afterMoves rest)) := by
            rw [hcalls, List.append_assoc]
            rfl
        _ = ((c.callOf? move).bind taken).toList ++ queue (c.moved move) ++
              rest.filterMap put := by
            rw [ih, List.append_assoc]
        _ = queue c ++ (move :: rest).filterMap put := by
            rw [hmove, hput, List.append_assoc]

/-- The entries queued for an operation are taken by its calls in the order in which they
    were queued; those that are not taken are left. -/
theorem taken_afterMoves (op : Operation) (moves : List Move) :
    (callsOf op (c.callsIn moves)).filterMap Call.taken? ++ (c.afterMoves moves).pending op =
      c.pending op ++ moves.filterMap (Move.queued? op) := by
  rw [callsOf, List.filterMap_filter]
  refine c.taken_and_left (fun c => c.pending op) _ _ (fun c move => ?_) moves
  rw [pending_moved]
  cases move with
  | call r =>
      by_cases heq : r.operation = op
      · subst heq
        simp only [callOf?, Option.bind_some, Call.taken?, decide_true, if_true, Move.through,
          Move.queued?]
        cases c.pending r.operation <;> simp
      · simp [callOf?, heq, Move.through, Move.queued?]
  | _ => rfl

/-- The moves that have to do with an operation decide on their own what its calls run
    into. -/
theorem taken_filter (op : Operation) (moves : List Move) {d : Cloud}
    (h : c.pending op = d.pending op) :
    (callsOf op (c.callsIn moves)).map Call.taken? =
      (callsOf op (d.callsIn (moves.filter (Move.concerns op)))).map Call.taken? := by
  have hcalls (c : Cloud) (move : Move) (rest : List Move) :
      (callsOf op (c.callsIn (move :: rest))).map Call.taken? =
        (callsOf op (c.callOf? move).toList).map Call.taken? ++
          (callsOf op ((c.moved move).callsIn rest)).map Call.taken? := by
    rw [callsIn, callsOf, List.filter_append, List.map_append]
    rfl
  induction moves generalizing c d with
  | nil => rfl
  | cons move rest ih =>
      by_cases hconcerns : move.concerns op = true
      · have hnext : (c.moved move).pending op = (d.moved move).pending op := by
          rw [pending_moved, pending_moved, h]
        rw [List.filter_cons_of_pos hconcerns, hcalls, hcalls, ih _ hnext]
        congr 1
        cases move with
        | call r =>
            have heq : r.operation = op := of_decide_eq_true hconcerns
            subst heq
            simp [callOf?, callsOf, Call.taken?, h]
        | _ => rfl
      · -- A move for another operation leaves the queue as it is, and is no call of this one.
        have hnext : (c.moved move).pending op = d.pending op := by
          rw [pending_moved, ← h]
          cases move <;> simp_all [Move.through, Move.queued?, Move.concerns]
        have hnone : callsOf op (c.callOf? move).toList = [] := by
          cases move <;> simp_all [callsOf, callOf?, Move.concerns]
        rw [List.filter_cons_of_neg hconcerns, hcalls, hnone, ih _ hnext]
        rfl

/-! ## The record of calls -/

/-- A call goes into the record whether or not it fails. -/
theorem calls_moved (move : Move) :
    (c.moved move).calls = c.calls ++ (c.callOf? move).toList.map (·.request.operation) := by
  cases move with
  | call r => exact calls_service r c
  | _ => exact (List.append_nil _).symm

theorem calls_afterMoves (moves : List Move) :
    (c.afterMoves moves).calls = c.calls ++ (c.callsIn moves).map (·.request.operation) := by
  induction moves generalizing c with
  | nil => exact (List.append_nil _).symm
  | cons move rest ih =>
      rw [callsIn, List.map_append, ← List.append_assoc, ← calls_moved]
      exact ih _

/-- What is called is what is asked for, in order. -/
theorem request_callsIn (moves : List Move) :
    (c.callsIn moves).map (·.request) = moves.filterMap Move.request? := by
  induction moves generalizing c with
  | nil => rfl
  | cons move rest ih =>
      rw [callsIn, List.map_append, ih, List.filterMap_cons]
      cases move <;> rfl

theorem obeys_callsIn (moves : List Move) : ∀ x ∈ c.callsIn moves, x.Obeys := by
  induction moves generalizing c with
  | nil => exact fun x hx => absurd hx List.not_mem_nil
  | cons move rest ih =>
      intro x hx
      rcases List.mem_append.mp hx with hx | hx
      · cases move with
        | call r =>
            rw [List.mem_singleton.mp hx]
            exact c.obeys_service r
        | _ => exact absurd hx List.not_mem_nil
      · exact ih _ x hx

/-! ## The queue of suite runs -/

/-- A look at a run takes the oldest that is queued, and remembers it if it is a snapshot.
    No other call does anything to the runs. -/
theorem runs_service (r : Request) :
    let shown := Call.shown? ⟨c, r, (c.service r).1, (c.service r).2⟩
    shown.toList ++ (c.service r).2.runs = c.runs ∧
      (c.service r).2.lastRun = lastShown c.lastRun shown.toList := by
  simp only [Call.shown?, Call.taken?, ← headD_eq_join]
  rw [service_eq]
  cases hhead : (c.pending r.operation).headD none with
  | some error => cases r <;> exact ⟨rfl, rfl⟩
  | none =>
      cases r with
      | getSuiteRun job =>
          simp only [perform, noted]
          cases hruns : c.runs with
          | nil => cases c.lastRun <;> exact ⟨rfl, rfl⟩
          | cons run rest => cases run <;> exact ⟨rfl, rfl⟩
      | _ =>
          simp only [perform, onThing, onCertificate]
          repeat' split
          all_goals exact ⟨rfl, rfl⟩

/-- The suite runs are shown in the order in which they were queued; those that are not
    shown are left. -/
theorem shown_afterMoves (moves : List Move) :
    (c.callsIn moves).filterMap Call.shown? ++ (c.afterMoves moves).runs =
      c.runs ++ moves.filterMap Move.pushed? := by
  refine c.taken_and_left Cloud.runs _ _ (fun c move => ?_) moves
  cases move with
  | call r => exact (c.runs_service r).1.trans (List.append_nil _).symm
  | pushRun run => rfl
  | _ => exact (List.append_nil _).symm

/-- What is shown again is the last snapshot that was shown. -/
theorem lastRun_afterMoves (moves : List Move) :
    (c.afterMoves moves).lastRun =
      lastShown c.lastRun ((c.callsIn moves).filterMap Call.shown?) := by
  induction moves generalizing c with
  | nil => rfl
  | cons move rest ih =>
      have hmove : (c.moved move).lastRun =
          lastShown c.lastRun ((c.callOf? move).toList.filterMap Call.shown?) := by
        cases move with
        | call r =>
            rw [filterMap_toList]
            exact (c.runs_service r).2
        | _ => rfl
      rw [callsIn, List.filterMap_append, lastShown, List.foldl_append, ← lastShown, ← lastShown,
        ← hmove]
      exact ih _

/-- A look that is not stopped is shown the next run. -/
theorem getSuiteRun_eq (job : Job) (h : (c.pending .getSuiteRun).headD none = none) :
    (c.service (.getSuiteRun job)).1 = nextShown c.runs c.lastRun job := by
  rw [service_eq, show (c.pending (Request.operation (.getSuiteRun job))).headD none = none from h]
  simp only [perform, noted]
  cases c.runs with
  | nil => cases c.lastRun <;> rfl
  | cons run rest => cases run <;> rfl

end Cloud

/-- Whatever is queued between the calls, and whenever: every call takes the oldest entry of
    its operation, and obeys it. The calls of an operation take its entries in the order in
    which they were queued and leave the rest, and what they run into does not depend on
    anything that has to do with other operations. All calls are on record, in order, and
    each of them once. The suite runs are shown in the order in which they were queued, and
    a look at the end is shown the next of them, or else the last snapshot again. -/
theorem interleaving_obeys_queues (c : Cloud) (moves : List Move) :
    let calls := c.callsIn moves
    let last := c.afterMoves moves
    let shown := calls.filterMap Call.shown?
    (∀ x ∈ calls, x.Obeys) ∧
      (∀ op, (callsOf op calls).filterMap Call.taken? ++ last.pending op =
        c.pending op ++ moves.filterMap (Move.queued? op)) ∧
      (∀ op, (callsOf op calls).map Call.taken? =
        (callsOf op (c.callsIn (moves.filter (Move.concerns op)))).map Call.taken?) ∧
      calls.map (·.request) = moves.filterMap Move.request? ∧
      last.calls = c.calls ++ calls.map (·.request.operation) ∧
      shown ++ last.runs = c.runs ++ moves.filterMap Move.pushed? ∧
      ∀ job, (last.pending .getSuiteRun).headD none = none →
        (last.service (.getSuiteRun job)).1 = nextShown last.runs (lastShown c.lastRun shown) job := by
  intro calls last shown
  refine ⟨c.obeys_callsIn moves, fun op => c.taken_afterMoves op moves,
    fun op => c.taken_filter op moves rfl, c.request_callsIn moves, c.calls_afterMoves moves,
    c.shown_afterMoves moves, fun job hpass => ?_⟩
  rw [last.getSuiteRun_eq job hpass, ← c.lastRun_afterMoves moves]

end Simulated

end Qualifier
