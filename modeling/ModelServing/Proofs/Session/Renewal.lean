import ModelServing.Proofs.Session.Generations
import ModelServing.Proofs.Session.Reading

/-! A reset makes a core as good as new. Two cores are run side by side, one after a reset and one that
never did anything before; calls on behalf of earlier runs reach the first one only. The answers,
what callers can see, what is in the sinks and what can be read stay the same on both sides. -/
namespace ModelServing.Session

namespace Core

inductive Call where
  | operation (o : Operation)
  | read

inductive Answer where
  | done
  | launch (result : Except Error (Option Nat))
  | attached (wanted : Bool)
  | received (result : Except Error Inbound)
  | offered (o : Offer)
  | event (e : Option Event)

def launches (c : Core) (launch : Bool) : Option Nat := if launch then some c.generation else none

def answer (c : Core) : Call → Answer
  | .operation .start => .launch (c.start.2.map c.launches)
  | .operation (.send f) => .launch ((c.send f).2.map c.launches)
  | .operation .requestStop => .launch (.ok (c.launches c.requestStop.2))
  | .operation (.attach generation attended) => .attached (c.attach generation attended).2
  | .operation (.take generation) => .offered (c.offer generation)
  | .operation (.receive generation d f) => .received (c.receive generation d f).2
  | .operation _ => .done
  | .read => .event c.read.1

def after (c : Core) : Call → Core
  | .operation o => c.perform o
  | .read => c.read.2

def afterAll (c : Core) (calls : List Call) : Core := calls.foldl after c

def Operation.generation? : Operation → Option Nat
  | .attach generation _ | .take generation | .leave generation | .receive generation _ _
  | .ended generation | .failed generation _ => some generation
  | .start | .send _ | .requestStop | .cancel | .reset => none

def Operation.rename (generation : Nat) : Operation → Operation
  | .attach _ attended => .attach generation attended
  | .take _ => .take generation
  | .leave _ => .leave generation
  | .receive _ d f => .receive generation d f
  | .ended _ => .ended generation
  | .failed _ e => .failed generation e
  | o => o

def Call.since (base : Nat) : Call → Option Call
  | .read => some .read
  | .operation o =>
    match o.generation? with
    | none => some (.operation o)
    | some generation =>
      if base ≤ generation then some (.operation (o.rename (generation - base))) else none

def Answer.since (base : Nat) : Answer → Answer
  | .launch (.ok (some generation)) => .launch (.ok (some (generation - base)))
  | other => other

def Operation.isCallback : Operation → Bool
  | .attach _ _ | .receive _ _ _ | .ended _ | .failed _ _ => true
  | _ => false

def Answer.isRefusal : Answer → Prop
  | .done | .attached false | .received (.ok .stale) => True
  | _ => False

def isStale (c : Core) : Call → Bool
  | .operation o => o.isCallback && o.generation? != some c.generation
  | .read => false

structure Entry where
  call : Call
  answer : Answer
  stale : Bool

def transcript (c : Core) : List Call → List Entry
  | [] => []
  | call :: rest => ⟨call, c.answer call, c.isStale call⟩ :: (c.after call).transcript rest

def Entry.since (base : Nat) (entry : Entry) : Option Entry :=
  if entry.stale then none
  else (entry.call.since base).map fun call => ⟨call, entry.answer.since base, false⟩

/-- All that can be seen of the runs from the generation `base` on. -/
structure Outlook where
  phase : Phase
  sessionId : Option String
  requestId : Option String
  pending : Nat
  sinks : List (List Frame)
  outcomes : List (Option Outcome)
  readable : List Event

def outlook (c : Core) (base : Nat) : Outlook :=
  let runs := (c.past ++ [c.run]).drop base
  { phase := c.run.phase
    sessionId := c.run.sessionId
    requestId := c.run.requestId
    pending := c.run.pending.length
    sinks := runs.map (·.outbox)
    outcomes := runs.map (·.gate.outcome)
    readable := c.readable }

def shifted (base : Nat) (e : Nat × Event) : Nat × Event := (base + e.1, e.2)

structure Since (base : Nat) (c fresh : Core) : Prop where
  generation : c.generation = base + fresh.generation
  past : c.past.drop base = fresh.past
  run : c.run = fresh.run
  events : (c.events.filter fun e => decide (base ≤ e.1)) = fresh.events.map (shifted base)

section
variable {base : Nat} {c fresh : Core}

theorem Since.run? (since : Since base c fresh) (generation : Nat) :
    c.run? (base + generation) = fresh.run? generation := by
  have same : base + generation = c.generation ↔ generation = fresh.generation := by
    rw [since.generation]
    omega
  by_cases current : generation = fresh.generation
  · rw [Core.run?, Core.run?, if_pos current, if_pos (same.mpr current), since.run]
  · rw [Core.run?, Core.run?, if_neg current, if_neg fun h => current (same.mp h), ← since.past,
      List.getElem?_drop]

theorem Since.isLive (since : Since base c fresh) (generation : Nat) :
    c.isLive (base + generation) = fresh.isLive generation := by
  have same : (base + generation == c.generation) = (generation == fresh.generation) := by
    rw [since.generation, Bool.eq_iff_iff, beq_iff_eq, beq_iff_eq]
    omega
  rw [Core.isLive, Core.isLive, same, since.run]

theorem Since.launches (since : Since base c fresh) (launch : Bool) :
    (Answer.launch (.ok (c.launches launch))).since base =
      .launch (.ok (fresh.launches launch)) := by
  cases launch with
  | false => rfl
  | true => simp [Core.launches, Answer.since, since.generation]

theorem Since.attempted (since : Since base c fresh) (result : Except Error Bool) :
    (Answer.launch (result.map c.launches)).since base = .launch (result.map fresh.launches) := by
  cases result with
  | error e => rfl
  | ok launch => exact since.launches launch

theorem Since.become (since : Since base c fresh) (r : Run) (events : List Event) :
    Since base (c.become r events) (fresh.become r events) where
  generation := since.generation
  past := since.past
  run := rfl
  events := by
    have kept : (events.map (c.generation, ·)).filter (fun e => decide (base ≤ e.1)) =
        (events.map (fresh.generation, ·)).map (shifted base) := by
      rw [List.filter_eq_self.mpr, List.map_map]
      · simp [shifted, Function.comp_def, since.generation]
      · intro e member
        obtain ⟨_, _, rfl⟩ := List.mem_map.mp member
        simp [since.generation]
    simp only [Core.become, List.filter_append, List.map_append, since.events, kept]

theorem Since.modify (since : Since base c fresh) (generation : Nat) (f : Run → Run) :
    Since base (c.modify (base + generation) f) (fresh.modify generation f) := by
  have same : base + generation = c.generation ↔ generation = fresh.generation := by
    rw [since.generation]
    omega
  unfold Core.modify
  by_cases current : generation = fresh.generation
  · rw [if_pos current, if_pos (same.mpr current)]
    exact ⟨since.generation, since.past, congrArg f since.run, since.events⟩
  · rw [if_neg current, if_neg fun h => current (same.mp h)]
    refine ⟨?_, ?_, since.run, since.events⟩
    · simpa [Core.generation] using since.generation
    · rw [List.drop_modify_of_ge _ _ _ _ (Nat.le_add_right base generation), Nat.add_sub_cancel_left,
        since.past]

theorem Since.modifyEarlier (since : Since base c fresh) {generation : Nat} (earlier : generation < base)
    (f : Run → Run) : Since base (c.modify generation f) fresh := by
  have past : generation ≠ c.generation := by
    rw [since.generation]
    omega
  rw [Core.modify, if_neg past]
  refine ⟨?_, ?_, since.run, since.events⟩
  · simpa [Core.generation] using since.generation
  · rw [List.drop_modify_of_lt _ _ _ _ earlier, since.past]

theorem Since.reset (since : Since base c fresh) : Since base c.reset fresh.reset where
  generation := by
    rw [resetGeneration, resetGeneration, since.generation, Nat.add_assoc]
  past := by
    have reached : base ≤ c.past.length := by
      have whole : c.past.length = base + fresh.generation := since.generation
      omega
    simp only [Core.reset]
    rw [List.drop_append_of_le_length reached, since.past, since.run]
  run := rfl
  events := since.events

theorem Since.isDeliverable (since : Since base c fresh) (e : Nat × Event) :
    c.isDeliverable (shifted base e) = fresh.isDeliverable e := by
  have same : (base + e.1 == c.generation) = (e.1 == fresh.generation) := by
    rw [since.generation, Bool.eq_iff_iff, beq_iff_eq, beq_iff_eq]
    omega
  rw [Core.isDeliverable, Core.isDeliverable, shifted, same, since.run]

theorem Since.deliverableLater (since : Since base c fresh) {e : Nat × Event}
    (deliverable : c.isDeliverable e = true) : base ≤ e.1 := by
  have current := ((deliverableIff c e).mp deliverable).1
  rw [current, since.generation]
  exact Nat.le_add_right _ _

theorem filterDropWhile {α : Type} {skip keep : α → Bool} (kept : ∀ a, skip a = false → keep a = true)
    (l : List α) : (l.dropWhile skip).filter keep = (l.filter keep).dropWhile skip := by
  induction l with
  | nil => rfl
  | cons a l ih =>
    cases skipped : skip a with
    | false =>
      rw [List.dropWhile_cons_of_neg (by simp [skipped]), List.filter_cons_of_pos (kept a skipped),
        List.dropWhile_cons_of_neg (by simp [skipped])]
    | true =>
      rw [List.dropWhile_cons_of_pos skipped, ih]
      cases keeps : keep a with
      | false => rw [List.filter_cons_of_neg (by simp [keeps])]
      | true => rw [List.filter_cons_of_pos keeps, List.dropWhile_cons_of_pos skipped]

theorem Since.waiting (since : Since base c fresh) :
    (c.events.dropWhile fun e => !c.isDeliverable e).filter (fun e => decide (base ≤ e.1)) =
      (fresh.events.dropWhile fun e => !fresh.isDeliverable e).map (shifted base) := by
  rw [filterDropWhile, since.events, List.dropWhile_map]
  · simp only [Function.comp_def, since.isDeliverable]
  · intro e delivered
    exact decide_eq_true (since.deliverableLater (by simpa using delivered))

theorem Since.read (since : Since base c fresh) :
    c.read.1 = fresh.read.1 ∧ Since base c.read.2 fresh.read.2 := by
  have waiting := since.waiting
  unfold Core.read
  cases queue : c.events.dropWhile fun e => !c.isDeliverable e with
  | nil =>
    rw [queue] at waiting
    rw [List.map_eq_nil_iff.mp waiting.symm]
    exact ⟨rfl, since.generation, since.past, since.run, rfl⟩
  | cons e rest =>
    have first := List.head?_dropWhile_not (fun e => !c.isDeliverable e) c.events
    rw [queue] at first
    have own := since.deliverableLater (e := e) (by simpa using first)
    rw [queue, List.filter_cons_of_pos (by simpa using own)] at waiting
    obtain ⟨e', rest', freshQueue, same, others⟩ := List.map_eq_cons_iff.mp waiting.symm
    subst same
    rw [freshQueue]
    exact ⟨rfl, since.generation, since.past, since.run, others.symm⟩

theorem entriesSince {log : List (Nat × Event)} {label : Nat} (later : base ≤ label) :
    entriesOf (log.filter fun e => decide (base ≤ e.1)) label = entriesOf log label := by
  rw [entriesOf, List.filterMap_filter]
  refine congrArg (List.filterMap · log) (funext fun e => ?_)
  by_cases own : e.1 = label
  · simp [own, later]
  · simp [own]

theorem entriesShifted (log : List (Nat × Event)) (label : Nat) :
    entriesOf (log.map (shifted base)) (base + label) = entriesOf log label := by
  rw [entriesOf, List.filterMap_map]
  exact congrArg (List.filterMap · log) (funext fun e => by simp [shifted])

theorem Since.readable (since : Since base c fresh) : c.readable = fresh.readable := by
  have through : c.letsThrough = fresh.letsThrough := by
    funext e
    rw [Core.letsThrough, Core.letsThrough, since.run]
  have own : entriesOf c.events c.generation = entriesOf fresh.events fresh.generation := by
    have later : base ≤ c.generation := by
      rw [since.generation]
      exact Nat.le_add_right _ _
    rw [← entriesSince later, since.events, since.generation, entriesShifted]
  rw [Core.readable, Core.readable, own, through]

theorem Since.outlook (since : Since base c fresh) : c.outlook base = fresh.outlook 0 := by
  have reached : base ≤ c.past.length := by
    have whole : c.past.length = base + fresh.generation := since.generation
    omega
  simp only [Core.outlook, List.drop_append_of_le_length reached, since.past, since.run,
    since.readable, List.drop_zero]

theorem Since.spurned (since : Since base c fresh) {generation : Nat} (earlier : generation < base) :
    c.isLive generation = false :=
  liveElsewhere (by rw [since.generation]; omega)

theorem Since.earlierCall (since : Since base c fresh) {o : Operation} {generation : Nat}
    (named : o.generation? = some generation) (earlier : generation < base) :
    Since base (c.perform o) fresh := by
  have dead := since.spurned earlier
  cases o with
  | start | send f | requestStop | cancel | reset => contradiction
  | take g | leave g =>
    cases Option.some.inj named
    exact since.modifyEarlier earlier _
  | attach g attended | receive g d f | ended g | failed g e =>
    cases Option.some.inj named
    simpa [perform, attach, receive, ended, failed, dead] using since

theorem Since.unnamed (since : Since base c fresh) {o : Operation} (unnamed : o.generation? = none) :
    Since base (c.perform o) (fresh.perform o) ∧
      (c.answer (.operation o)).since base = fresh.answer (.operation o) := by
  have run := since.run
  cases o with
  | start =>
    simp only [perform, answer, start, run]
    split
    · exact ⟨since, rfl⟩
    · exact ⟨since.become _ _, since.launches _⟩
  | send f =>
    simp only [perform, answer, send, run]
    exact ⟨since.become _ _, since.attempted _⟩
  | requestStop =>
    simp only [perform, answer, requestStop, run]
    exact ⟨since.become _ _, since.launches _⟩
  | cancel =>
    simp only [perform, answer, cancel, run]
    exact ⟨since.become _ _, rfl⟩
  | reset => exact ⟨since.reset, rfl⟩
  | take g | leave g | attach g attended | receive g d f | ended g | failed g e => contradiction

theorem Since.offer (since : Since base c fresh) (generation : Nat) :
    c.offer (base + generation) = fresh.offer generation := by
  rw [Core.offer, Core.offer, since.run?]

theorem Since.named (since : Since base c fresh) {o : Operation} {generation : Nat}
    (named : o.generation? = some (base + generation)) :
    Since base (c.perform o) (fresh.perform (o.rename generation)) ∧
      (c.answer (.operation o)).since base = fresh.answer (.operation (o.rename generation)) := by
  have live := since.isLive generation
  have run := since.run
  cases o with
  | start | send f | requestStop | cancel | reset => contradiction
  | take g =>
    cases Option.some.inj named
    exact ⟨since.modify generation _, congrArg Answer.offered (since.offer generation)⟩
  | leave g =>
    cases Option.some.inj named
    exact ⟨since.modify generation _, rfl⟩
  | attach g attended | receive g d f =>
    cases Option.some.inj named
    simp only [perform, answer, Operation.rename, attach, receive, live, run]
    split
    · exact ⟨since.become _ _, rfl⟩
    · exact ⟨since, rfl⟩
  | ended g | failed g e =>
    cases Option.some.inj named
    simp only [perform, answer, Operation.rename, ended, failed, live, run]
    split
    · exact ⟨since.become _ _, rfl⟩
    · exact ⟨since, rfl⟩

theorem staleRefused {c : Core} {call : Call} (stale : c.isStale call = true) :
    c.after call = c ∧ (c.answer call).isRefusal := by
  cases call with
  | read => contradiction
  | operation o =>
    simp only [isStale, Bool.and_eq_true, bne_iff_ne, ne_eq] at stale
    obtain ⟨callback, elsewhere⟩ := stale
    cases o with
    | start | send f | requestStop | cancel | reset | take g | leave g => contradiction
    | attach g attended | receive g d f | ended g | failed g e =>
      have dead : c.isLive g = false := liveElsewhere fun same => elsewhere (congrArg some same)
      simp [after, perform, answer, attach, receive, ended, failed, dead, Answer.isRefusal]

theorem Since.renamedHeeded (since : Since base c fresh) {o : Operation} {generation : Nat}
    (named : o.generation? = some (base + generation)) (heeded : c.isStale (.operation o) = false) :
    fresh.isStale (.operation (o.rename generation)) = false := by
  cases o with
  | start | send f | requestStop | cancel | reset => contradiction
  | take g | leave g => rfl
  | attach g attended | receive g d f | ended g | failed g e =>
    cases Option.some.inj named
    simp only [isStale, Operation.isCallback, Operation.generation?, Operation.rename,
      Bool.true_and, bne_eq_false_iff_eq, Option.some.injEq, since.generation] at heeded ⊢
    exact Nat.add_left_cancel heeded

theorem Since.heeded (since : Since base c fresh) {call : Call} (heeded : c.isStale call = false) :
    match call.since base with
    | none => Since base (c.after call) fresh
    | some call' => Since base (c.after call) (fresh.after call') ∧
        (c.answer call).since base = fresh.answer call' ∧ fresh.isStale call' = false := by
  cases call with
  | read =>
    obtain ⟨same, since'⟩ := since.read
    exact ⟨since', congrArg Answer.event same, rfl⟩
  | operation o =>
    simp only [Call.since]
    cases named : o.generation? with
    | none =>
      obtain ⟨since', same⟩ := since.unnamed named
      refine ⟨since', same, ?_⟩
      cases o with
      | start | send f | requestStop | cancel | reset => rfl
      | take g | leave g | attach g attended | receive g d f | ended g | failed g e => contradiction
    | some generation =>
      by_cases later : base ≤ generation
      · have whole : o.generation? = some (base + (generation - base)) := by
          rw [named, Nat.add_sub_cancel' later]
        obtain ⟨since', same⟩ := since.named whole
        simp only [if_pos later]
        exact ⟨since', same, since.renamedHeeded whole heeded⟩
      · simp only [if_neg later]
        exact since.earlierCall named (Nat.lt_of_not_le later)

-- The fresh core is asked what the other one is, as far as it is there to be asked.
theorem Since.calls (since : Since base c fresh) (calls : List Call) :
    let heeded := (c.transcript calls).filterMap (Entry.since base)
    Since base (c.afterAll calls) (fresh.afterAll (heeded.map Entry.call)) ∧
      fresh.transcript (heeded.map Entry.call) = heeded := by
  induction calls generalizing c fresh with
  | nil => exact ⟨since, rfl⟩
  | cons call rest ih =>
    have left (since' : Since base (c.after call) fresh)
        (out : Entry.since base ⟨call, c.answer call, c.isStale call⟩ = none) :
        let heeded := (c.transcript (call :: rest)).filterMap (Entry.since base)
        Since base (c.afterAll (call :: rest)) (fresh.afterAll (heeded.map Entry.call)) ∧
          fresh.transcript (heeded.map Entry.call) = heeded := by
      rw [transcript, List.filterMap_cons_none out]
      exact ih since'
    cases stale : c.isStale call with
    | true =>
      refine left ?_ (by simp [Entry.since, stale])
      rwa [(staleRefused stale).1]
    | false =>
      have step := since.heeded stale
      cases renamed : call.since base with
      | none =>
        rw [renamed] at step
        exact left step (by simp [Entry.since, stale, renamed])
      | some call' =>
        rw [renamed] at step
        obtain ⟨since', same, stale'⟩ := step
        obtain ⟨state, entries⟩ := ih since'
        have entry : Entry.since base ⟨call, c.answer call, c.isStale call⟩ =
            some ⟨call', fresh.answer call', fresh.isStale call'⟩ := by
          simp [Entry.since, stale, stale', renamed, same]
        rw [transcript, List.filterMap_cons_some entry]
        refine ⟨state, ?_⟩
        rw [List.map_cons, transcript, entries]

theorem staleEntries (c : Core) (calls : List Call) :
    ∀ entry ∈ c.transcript calls, entry.stale = true → entry.answer.isRefusal := by
  induction calls generalizing c with
  | nil => simp [transcript]
  | cons call rest ih =>
    intro entry member stale
    rcases List.mem_cons.mp member with rfl | later
    · exact (staleRefused stale).2
    · exact ih (c.after call) entry later stale

end

theorem Turn.queuedKnown {c c' : Core} (turn : c.Turn c') (known : ∀ e ∈ c.events, e.1 ≤ c.generation) :
    ∀ e ∈ c'.events, e.1 ≤ c'.generation := by
  cases turn with
  | current turn =>
    intro e member
    rcases List.mem_append.mp member with before | new
    · exact known e before
    · obtain ⟨_, _, rfl⟩ := List.mem_map.mp new
      exact Nat.le_refl _
  | past quiet =>
    intro e member
    simpa [generation] using known e member
  | reset =>
    intro e member
    rw [resetGeneration]
    exact Nat.le_succ_of_le (known e member)

theorem queuedKnown (calls : List Call) :
    ∀ e ∈ (new.afterAll calls).events, e.1 ≤ (new.afterAll calls).generation := by
  unfold afterAll
  apply List.foldlRecOn (motive := fun c : Core => ∀ e ∈ c.events, e.1 ≤ c.generation)
  · simp [new]
  · intro c known call _
    cases call with
    | operation o => exact (performTurn c o).queuedKnown known
    | read =>
      have read := readSteps c
      simp only [after]
      generalize c.read.1 = got, c.read.2 = c' at read
      cases read with
      | nothing passed => simp
      | event queue passed through =>
        intro e member
        exact known e (by rw [queue]; simp [member])

theorem sinceReset {c : Core} (known : ∀ e ∈ c.events, e.1 ≤ c.generation) :
    Since c.reset.generation c.reset new where
  generation := rfl
  past := by simp [reset, generation, new]
  run := rfl
  events := by
    apply List.filter_eq_nil_iff.mpr
    intro e member
    have earlier := known e member
    rw [resetGeneration]
    simp only [decide_eq_true_eq]
    omega

theorem resetForgets (history calls : List Call) :
    let c := (new.afterAll history).reset
    let entries := c.transcript calls
    let heeded := entries.filterMap (Entry.since c.generation)
    let others := heeded.map Entry.call
    (c.afterAll calls).outlook c.generation = (new.afterAll others).outlook 0 ∧
    new.transcript others = heeded ∧
    ∀ entry ∈ entries, entry.stale = true → entry.answer.isRefusal := by
  intro c entries heeded others
  have since : Since c.generation c new := sinceReset (queuedKnown history)
  obtain ⟨state, same⟩ := since.calls calls
  exact ⟨state.outlook, same, staleEntries c calls⟩

end Core

end ModelServing.Session
