import ModelServing.Proofs.Session.Outcome

/-! What one who reads the events of a core gets to see. The queue is shared by all runs and events
are sorted out when they are read, not when they are queued, so every position of a cancel or a
reset between queueing and reading counts. -/
namespace ModelServing.Session

def EndsOnce (told : List Event) : Prop :=
  ∃ (results : List Reply) (last : Option Event),
    told = results.map Event.result ++ last.toList ∧ ∀ e ∈ last, e.isTerminal = true

theorem EndsOnce.sublist {told heard : List Event} (once : EndsOnce told) (sub : heard.Sublist told) :
    EndsOnce heard := by
  obtain ⟨results, last, rfl, terminal⟩ := once
  obtain ⟨early, late, rfl, earlySub, lateSub⟩ := List.sublist_append_iff.mp sub
  obtain ⟨kept, _, rfl⟩ := List.sublist_map_iff.mp earlySub
  cases last with
  | none =>
    have none_ : late = [] := List.sublist_nil.mp lateSub
    exact ⟨kept, none, by simp [none_], by simp⟩
  | some e =>
    cases lateSub with
    | cons _ shorter => exact ⟨kept, none, by simp [List.sublist_nil.mp shorter], by simp⟩
    | cons_cons _ shorter => exact ⟨kept, some e, by simp [List.sublist_nil.mp shorter], terminal⟩

theorem Run.Account.endsOnce {r : Run} {unclosed told} (account : r.Account unclosed told) :
    EndsOnce told := by
  cases account with
  | running results phase gate cancelled => exact ⟨results, none, by simp, by simp⟩
  | @ended results last outcome phase ends gate cancelled =>
    refine ⟨results, some last, by simp, ?_⟩
    intro e member
    cases Option.mem_some.mp member
    exact terminalOfOutcome ends

theorem Run.Account.resultsOnly {r : Run} {unclosed told} (account : r.Account unclosed told)
    (wasOpen : r.phase ≠ .closed) :
    r.cancelled = false ∧ ∃ results : List Reply, told = results.map .result := by
  cases account with
  | running results phase gate cancelled => exact ⟨cancelled, results, rfl⟩
  | ended results phase ends gate cancelled => exact absurd phase wasOpen

theorem Run.Account.cancelledLast {r : Run} {unclosed told} (account : r.Account unclosed told)
    (cancelled : r.cancelled = true) :
    ∃ results : List Reply, told = results.map .result ++ [.cancelled] := by
  cases account with
  | running results phase gate uncancelled =>
    rw [cancelled] at uncancelled
    contradiction
  | ended results phase ends gate flag =>
    rw [cancelled] at flag
    have last := of_decide_eq_true flag.symm
    exact ⟨results, by rw [last]⟩

namespace Core

theorem Accounts.endsOnce {c : Core} {queued} (accounts : c.Accounts queued) (generation : Nat) :
    EndsOnce (entriesOf queued generation) := by
  rcases Nat.lt_trichotomy generation c.generation with earlier | same | later
  · have found : c.past[generation]? = some c.past[generation] := List.getElem?_eq_getElem earlier
    exact (accounts.past generation _ found).endsOnce
  · rw [same]
    exact accounts.current.endsOnce
  · rw [entriesOfLater accounts.known later]
    exact ⟨[], none, rfl, by simp⟩

def letsThrough (c : Core) (e : Event) : Bool := !c.run.cancelled || e == .cancelled

def readable (c : Core) : List Event := (entriesOf c.events c.generation).filter c.letsThrough

theorem deliverableIff (c : Core) (e : Nat × Event) :
    c.isDeliverable e = true ↔ e.1 = c.generation ∧ c.letsThrough e.2 = true := by
  simp [isDeliverable, letsThrough]

theorem undeliverable {c : Core} {skipped : List (Nat × Event)}
    (passed : ∀ e ∈ skipped, c.isDeliverable e = false) :
    (entriesOf skipped c.generation).filter c.letsThrough = [] := by
  apply List.filter_eq_nil_iff.mpr
  intro event member through
  obtain ⟨e, inside, own⟩ := List.mem_filterMap.mp member
  split at own
  · rename_i same
    cases Option.some.inj own
    have deliverable := (deliverableIff c e).mpr ⟨same, through⟩
    rw [passed e inside] at deliverable
    contradiction
  · contradiction

inductive Read (c : Core) : Option Event → Core → Prop where
  | nothing (passed : ∀ e ∈ c.events, c.isDeliverable e = false) :
      Read c none { c with events := [] }
  | event {skipped e rest} (queue : c.events = skipped ++ (c.generation, e) :: rest)
      (passed : ∀ e ∈ skipped, c.isDeliverable e = false) (through : c.letsThrough e = true) :
      Read c (some e) { c with events := rest }

theorem readSteps (c : Core) : c.Read c.read.1 c.read.2 := by
  unfold read
  have parts := List.takeWhile_append_dropWhile (p := fun e => !c.isDeliverable e) (l := c.events)
  have skips : ∀ e ∈ c.events.takeWhile (fun e => !c.isDeliverable e), c.isDeliverable e = false := by
    intro e member
    simpa using List.all_eq_true.mp List.all_takeWhile e member
  split
  · rename_i none_
    rw [none_, List.append_nil] at parts
    rw [parts] at skips
    exact .nothing skips
  · rename_i e rest found
    have first := List.head?_dropWhile_not (fun e => !c.isDeliverable e) c.events
    rw [found] at first parts
    obtain ⟨own, through⟩ := (deliverableIff c e).mp (by simpa using first)
    obtain ⟨generation, event⟩ := e
    cases own
    exact .event parts.symm skips through

theorem Read.head {c c' : Core} {e} (read : c.Read e c') : e = c.readable.head? := by
  cases read with
  | nothing passed => rw [readable, undeliverable passed, List.head?_nil]
  | @event skipped e rest queue passed through =>
    rw [readable, queue, entriesOfAppend, List.filter_append, undeliverable passed]
    simp [entriesOf, through]

end Core

namespace Core

theorem narrowed {p q : Event → Bool} (narrower : ∀ e, q e = true → p e = true) (events : List Event) :
    (events.filter p).filter q = events.filter q := by
  rw [List.filter_filter]
  apply List.filter_congr
  intro e _
  cases through : q e with
  | false => rfl
  | true => simp [narrower e through]

structure Heard (c : Core) (queued heard : List (Nat × Event)) : Prop where
  accounts : c.Accounts queued
  waiting : ∃ gone, queued = gone ++ c.events ∧ heard.Sublist gone
  kept : (entriesOf heard c.generation).filter c.letsThrough ++ c.readable =
    (entriesOf queued c.generation).filter c.letsThrough

theorem Heard.sublist {c : Core} {queued heard} (h : c.Heard queued heard) :
    heard.Sublist queued := by
  obtain ⟨gone, rfl, sub⟩ := h.waiting
  exact sub.trans (List.sublist_append_left gone c.events)

theorem Heard.known {c : Core} {queued heard} (h : c.Heard queued heard) :
    ∀ e ∈ heard, e.1 ≤ c.generation :=
  fun e member => h.accounts.known e (h.sublist.subset member)

theorem Heard.keptBecome {c : Core} {queued heard} (h : c.Heard queued heard) {r events}
    (turn : c.run.Turn r events) :
    (entriesOf heard c.generation).filter (c.become r events).letsThrough ++
        (c.become r events).readable =
      (entriesOf (queued ++ events.map (c.generation, ·)) c.generation).filter
        (c.become r events).letsThrough := by
  have narrower : ∀ e, (c.become r events).letsThrough e = true → c.letsThrough e = true := by
    intro e through
    have kept : c.run.cancelled = true → r.cancelled = true := by
      intro cancelled
      cases turn with
      | goesOn results quiet heard => rw [quiet.cancelled, cancelled]
      | closes results wasOpen closed told gate flag => rw [flag, cancelled, Bool.true_or]
    revert through kept
    simp only [letsThrough, become]
    cases c.run.cancelled <;> cases r.cancelled <;> simp
  have before := congrArg (List.filter (c.become r events).letsThrough) h.kept
  rw [List.filter_append, readable, narrowed narrower, narrowed narrower, narrowed narrower]
    at before
  change _ ++ (entriesOf (c.events ++ events.map (c.generation, ·)) c.generation).filter _ = _
  simp only [entriesOfAppend, entriesOfOwn, List.filter_append]
  rw [← before, List.append_assoc]

theorem Heard.keptReset {c : Core} {queued heard} (h : c.Heard queued heard) :
    (entriesOf heard c.reset.generation).filter c.reset.letsThrough ++ c.reset.readable =
      (entriesOf queued c.reset.generation).filter c.reset.letsThrough := by
  have later : c.generation < c.reset.generation := by simp [generation, reset]
  have waiting : ∀ e ∈ c.reset.events, e.1 ≤ c.generation := by
    obtain ⟨gone, rfl, _⟩ := h.waiting
    exact fun e member => h.accounts.known e (List.mem_append_right gone member)
  rw [readable, entriesOfLater h.known later, entriesOfLater waiting later,
    entriesOfLater h.accounts.known later]
  rfl

theorem Heard.turn {c c' : Core} {queued heard} (h : c.Heard queued heard) (turn : c.Turn c') :
    c'.Heard (queued ++ c'.events.drop c.events.length) heard where
  accounts := h.accounts.turn turn
  waiting := by
    obtain ⟨gone, same, sub⟩ := h.waiting
    refine ⟨gone, ?_, sub⟩
    rw [same, List.append_assoc, List.prefix_iff_eq_append.mp turn.queues]
  kept := by
    cases turn with
    | @current r events turn =>
      have queue : (c.become r events).events = c.events ++ events.map (c.generation, ·) := rfl
      rw [queue, List.drop_left]
      exact h.keptBecome turn
    | @past n f quiet =>
      have same : ({ c with past := c.past.modify n f } : Core).generation = c.generation :=
        List.length_modify _ _ _
      simp only [readable, same, List.drop_length, List.append_nil]
      exact h.kept
    | reset =>
      change _ = (entriesOf (queued ++ c.events.drop c.events.length) _).filter _
      rw [List.drop_length, List.append_nil]
      exact h.keptReset

theorem Heard.read {c c' : Core} {queued heard e} (h : c.Heard queued heard) (read : c.Read e c') :
    c'.Heard queued (heard ++ e.toList.map (c.generation, ·)) := by
  obtain ⟨gone, same, sub⟩ := h.waiting
  have kept := h.kept
  cases read with
  | nothing passed =>
    refine ⟨⟨h.accounts.current, h.accounts.past, h.accounts.known⟩, ⟨queued, by simp, ?_⟩, ?_⟩
    · simpa using h.sublist
    · rw [readable, undeliverable passed] at kept
      rw [Option.toList_none, List.map_nil, List.append_nil]
      exact kept
  | @event skipped e rest queue passed through =>
    refine ⟨⟨h.accounts.current, h.accounts.past, h.accounts.known⟩,
      ⟨gone ++ (skipped ++ [(c.generation, e)]), ?_, ?_⟩, ?_⟩
    · simp [same, queue]
    · exact sub.append (List.sublist_append_right skipped _)
    · have own : entriesOf ((c.generation, e) :: rest) c.generation = e :: entriesOf rest c.generation := by
        simp [entriesOf]
      rw [readable, queue, entriesOfAppend, List.filter_append, undeliverable passed, own,
        List.filter_cons_of_pos through] at kept
      change (entriesOf (heard ++ [(c.generation, e)]) c.generation).filter c.letsThrough ++
        (entriesOf rest c.generation).filter c.letsThrough =
          (entriesOf queued c.generation).filter c.letsThrough
      rw [entriesOfAppend, List.filter_append, ← kept]
      simp [entriesOf, through]

end Core

structure Listener where
  core : Core
  reader : Reader
  queued : List (Nat × Event)
  heard : List (Nat × Event)
  asked : List Event
  answers : List (Reading (Except Error Reply))

namespace Listener

inductive Act where
  | operation (o : Core.Operation)
  | read
  | next

def start : Listener := ⟨.new, .start, [], [], [], []⟩

def note (l : Listener) (e : Option Event) : List (Nat × Event) :=
  l.heard ++ e.toList.map (l.core.generation, ·)

def act (l : Listener) : Act → Listener
  | .operation o =>
    let core := l.core.perform o
    { l with core, queued := l.queued ++ core.events.drop l.core.events.length }
  | .read => { l with core := l.core.read.2, heard := l.note l.core.read.1 }
  | .next =>
    let (answer, reader, core) := l.reader.next l.core
    let e := if l.reader.finished then none else l.core.read.1
    { l with
      core, reader
      heard := l.note e
      asked := l.asked ++ e.toList
      answers := l.answers ++ [answer] }

def follow (l : Listener) (acts : List Act) : Listener := acts.foldl act l

def heardSince (l earlier : Listener) : List (Nat × Event) := l.heard.drop earlier.heard.length

theorem followAppend (l : Listener) (before after : List Act) :
    l.follow (before ++ after) = (l.follow before).follow after := List.foldl_append

theorem actSteps (l : Listener) (a : Act) :
    (∃ o, a = .operation o ∧ l.core.Turn (l.act a).core ∧ (l.act a).heard = l.heard ∧
      (l.act a).queued = l.queued ++ (l.act a).core.events.drop l.core.events.length) ∨
    (∃ e, l.core.Read e (l.act a).core ∧ (l.act a).heard = l.note e ∧
      (l.act a).queued = l.queued) ∨
    ((l.act a).core = l.core ∧ (l.act a).heard = l.heard ∧ (l.act a).queued = l.queued) := by
  cases a with
  | operation o => exact .inl ⟨o, rfl, Core.performTurn l.core o, rfl, rfl⟩
  | read => exact .inr (.inl ⟨_, Core.readSteps l.core, rfl, rfl⟩)
  | next =>
    cases finished : l.reader.finished with
    | true =>
      refine .inr (.inr ?_)
      simp [act, Reader.next, finished, note]
    | false =>
      have read := Core.readSteps l.core
      refine .inr (.inl ⟨l.core.read.1, ?_, by simp [act, note, finished], rfl⟩)
      simp only [act, Reader.next, finished, Bool.false_eq_true, if_false]
      split
      · rename_i same
        simpa only [same] using read
      · rename_i same
        simp only [same] at read ⊢
        split <;> exact read

theorem heardAct {l : Listener} (h : l.core.Heard l.queued l.heard) (a : Act) :
    (l.act a).core.Heard (l.act a).queued (l.act a).heard := by
  rcases actSteps l a with ⟨o, _, turn, heard, queued⟩ | ⟨e, read, heard, queued⟩ |
    ⟨core, heard, queued⟩
  · rw [heard, queued]
    exact h.turn turn
  · rw [heard, queued]
    exact h.read read
  · rw [core, heard, queued]
    exact h

theorem heardFollow (acts : List Act) :
    (start.follow acts).core.Heard (start.follow acts).queued (start.follow acts).heard := by
  unfold follow
  apply List.foldlRecOn (motive := fun l : Listener => l.core.Heard l.queued l.heard)
  · exact ⟨Core.accountsNew, ⟨[], rfl, List.Sublist.refl _⟩, rfl⟩
  · exact fun l h a _ => heardAct h a

end Listener

end ModelServing.Session
