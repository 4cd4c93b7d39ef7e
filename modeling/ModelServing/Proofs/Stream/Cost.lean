import ModelServing.Proofs.Json.RoundTrip
import ModelServing.Proofs.Stream.Speech

/-! What a call that folds its replies says it has cost: the usage that was reported last, with one
exception. The message that finishes the task is passed over with all it reports if it brings no output. -/
namespace ModelServing

namespace Arrival

def message? : Arrival → Option Json
  | .frame (.text s) => Json.parse? s
  | _ => none

def usage? (a : Arrival) : Option Usage :=
  a.message?.bind fun message =>
    if Dialect.Task.headerText "event" message = some "task-started" then none
    else ((message.get? "payload").bind (·.get? "usage")).bind Usage.ofJson?

def BringsOutput (a : Arrival) : Prop :=
  ∃ message output, a.message? = some message ∧
    (message.get? "payload").bind (·.get? "output") = some output ∧
    output ≠ .null ∧ output ≠ .object []

end Arrival

def lastUsage (arrivals : List Arrival) : Option Usage := (arrivals.filterMap Arrival.usage?).getLast?

theorem lastUsageCons (a : Arrival) (rest : List Arrival) :
    lastUsage (a :: rest) = (lastUsage rest).or a.usage? :=
  lastToldFirst Arrival.usage? a rest

theorem lastUsageNext (before : List Arrival) (a : Arrival) :
    lastUsage (before ++ [a]) = a.usage?.or (lastUsage before) :=
  lastToldNext Arrival.usage? before a

theorem hasOutputIff (message : Json) : Dialect.Task.hasOutput message = true ↔
    ∃ output, (message.get? "payload").bind (·.get? "output") = some output ∧
      output ≠ .null ∧ output ≠ .object [] := by
  unfold Dialect.Task.hasOutput
  cases (message.get? "payload").bind (·.get? "output") with
  | none => simp
  | some output =>
    cases output with
    | null => simp
    | object fields => cases fields <;> simp
    | bool b | number n | string s | array items => simp

namespace TaskStream

inductive Reported (a : Arrival) : Verdict → Prop where
  | skip (silent : a.usage? = none) : Reported a .skip
  | item (r : Reply) (own : r.usage = a.usage?) : Reported a (.item r)
  | lastReply (r : Reply) (own : r.usage = a.usage?) (output : a.BringsOutput) :
      Reported a (.last (.ok r))
  | finish (silent : ¬a.BringsOutput) : Reported a .finish
  | fails (e : Error) : Reported a (.last (.error e))

theorem judgeReports (a : Arrival) : Reported a (judge a) := by
  cases a with
  | hungUp => exact .fails .connectionClosed
  | failed e => exact .fails e
  | frame f =>
    cases f with
    | binary bytes => exact .item (.binary bytes) rfl
    | text s =>
      cases parsed : Json.parse? s with
      | none =>
        rw [judge, parsed]
        exact .fails .malformedJson
      | some message =>
        have told : (Arrival.frame (.text s)).message? = some message := parsed
        obtain ⟨started, _, _⟩ := taskKind message
        have own (later : Dialect.task.classify message ≠ .started) :
            (Dialect.task.toReply message).usage = (Arrival.frame (.text s)).usage? := by
          rw [Arrival.usage?, told, Option.bind_some, if_neg (mt started.mpr later)]
          change ((message.get? "payload").getD .null |>.get? "usage").bind Usage.ofJson? = _
          cases message.get? "payload" with
          | none | some payload => rfl
        rw [judge, parsed]
        dsimp only
        rw [judgeMessage]
        cases kind : Dialect.task.classify message with
        | started =>
          refine .skip ?_
          rw [Arrival.usage?, told, Option.bind_some, if_pos (started.mp kind)]
        | data | sessionCreated | turnDone =>
          exact .item (Dialect.task.toReply message) (own (by simp [kind]))
        | failed => exact .fails (.api (Dialect.task.toError message))
        | finished =>
          have output : Dialect.task.hasOutput message = true ↔
              (Arrival.frame (.text s)).BringsOutput := by
            change Dialect.Task.hasOutput message = true ↔ _
            rw [hasOutputIff, Arrival.BringsOutput, told]
            simp
          dsimp only
          split
          · rename_i brought
            exact .lastReply (Dialect.task.toReply message) (own (by simp [kind]))
              (output.mp brought)
          · rename_i silent
            exact .finish (mt output.mpr silent)

theorem foldsUsage {before : List Arrival} (unended : ∀ x ∈ before, x.ending? = none)
    (rest : List (Except Error Reply)) (f : Fold) :
    ∃ g : Fold, f.run (itemsIn before ++ rest) = g.run rest ∧
      g.usage = (lastUsage before).or f.usage := by
  induction before generalizing f with
  | nil => exact ⟨f, rfl, rfl⟩
  | cons x later ih =>
    have more (f : Fold) := ih (fun y member => unended y (List.mem_cons_of_mem _ member)) f
    have means := judgeMeans x
    have reports := judgeReports x
    rw [unended x List.mem_cons_self] at means
    rw [lastUsageCons, itemsIn, List.flatMap_cons, List.append_assoc]
    generalize judge x = verdict at means reports
    cases reports with
    | skip silent =>
      rw [silent, Option.or_none]
      exact more f
    | item r own =>
      obtain ⟨g, ran, kept⟩ := more (f.add r)
      refine ⟨g, ran, ?_⟩
      rw [kept, f.addUsage, own, Option.or_assoc]
    | lastReply | finish | fails => cases means

end TaskStream

open TaskStream (Setup Call)

theorem foldedCost (setup : Setup) {before : List Arrival} {e : Arrival}
    (unended : ∀ a ∈ before, a.ending? = none) (finished : e.ending? = some (.ok ()))
    (after : List Arrival) :
    ∃ reply, ((Call.begin setup).1.run setup
        (.connected :: .sent :: (before ++ e :: after).map .arrived)).1.result = some (.ok reply) ∧
      (e.BringsOutput → reply.usage = lastUsage (before ++ [e])) ∧
      (¬e.BringsOutput → reply.usage = lastUsage before) ∧
      (reply.usage = lastUsage (before ++ [e]) ↔
        e.BringsOutput ∨ e.usage? = none ∨ e.usage? = lastUsage before) := by
  let opened : Call := ⟨.opened, .empty, none⟩
  have folded := (opened.foldEnds setup (TaskStream.endsAt unended finished) after rfl rfl).1
  have whole : ((Call.begin setup).1.run setup
      (.connected :: .sent :: (before ++ e :: after).map .arrived)).1.result =
        (opened.run setup ((before ++ e :: after).map .arrived)).1.result := rfl
  obtain ⟨g, ran, kept⟩ :=
    TaskStream.foldsUsage unended (TaskStream.judge e).items Fold.empty
  have kept : g.usage = lastUsage before := kept.trans Option.or_none
  rw [whole, folded, TaskStream.itemsNext, ran, lastUsageNext]
  have means := TaskStream.judgeMeans e
  have reports := TaskStream.judgeReports e
  rw [finished] at means
  generalize TaskStream.judge e = verdict at means reports
  cases reports with
  | skip | item | fails => cases means
  | lastReply r own output =>
    have cost : (g.add r).result.usage = e.usage?.or (lastUsage before) := by
      rw [← own, ← kept]
      exact g.addUsage r
    exact ⟨(g.add r).result, rfl, fun _ => cost, fun silent => absurd output silent,
      fun _ => .inl output, fun _ => cost⟩
  | finish silent =>
    have cost : g.result.usage = lastUsage before := kept
    refine ⟨g.result, rfl, fun output => absurd output silent, fun _ => cost, ?_⟩
    rw [cost, or_iff_right silent]
    cases e.usage? with
    | none => simp
    | some u => simp [eq_comm]

def spent (characters : UInt64) : Usage := ⟨none, none, none, some characters, none, []⟩

def costMessage (event : String) (output : Json) (characters : UInt64) : Json :=
  .object [("header", .object [("event", .string event)]),
    ("payload", .object [("output", output), ("usage", (spent characters).toJson)])]

def costEvent (event : String) (output : Json) (characters : UInt64) : Arrival :=
  .frame (.ofJson (costMessage event output characters))

def costArrivals : List Arrival :=
  [costEvent "task-started" .empty 1, costEvent "result-generated" (.string "hello") 4,
    .frame (.binary [1])]

def costSetup : Setup := ⟨"ws://127.0.0.1/", [], .binary []⟩

theorem costRead (event : String) {output : Json} (plain : Json.Plain 125 output)
    (characters : UInt64) : Json.parse? (costMessage event output characters).print =
      some (costMessage event output characters) := by
  have header : Json.Plain 126 (.object [("event", .string event)]) :=
    .object ⟨nofun, trivial⟩ (List.forall_mem_singleton.mpr (.string 125 event))
  have usage : Json.Plain 125 (spent characters).toJson :=
    .object ⟨nofun, trivial⟩ (List.forall_mem_singleton.mpr (.natural 124 characters))
  have payload : Json.Plain 126 (.object [("output", output), ("usage", (spent characters).toJson)]) :=
    .object ⟨List.forall_mem_singleton.mpr (show "output" < "usage" by decide), nofun, trivial⟩
      (List.forall_mem_cons.mpr ⟨plain, List.forall_mem_singleton.mpr usage⟩)
  exact Json.printParses (.object
    ⟨List.forall_mem_singleton.mpr (show "header" < "payload" by decide), nofun, trivial⟩
    (List.forall_mem_cons.mpr ⟨header, List.forall_mem_singleton.mpr payload⟩))

theorem costNamed (event : String) (output : Json) (characters : UInt64) :
    Dialect.Task.headerText "event" (costMessage event output characters) = some event := rfl

theorem emptyPlain : Json.Plain 125 .empty := .object trivial nofun

theorem costEnding (event : String) {output : Json} (plain : Json.Plain 125 output)
    (characters : UInt64) : (costEvent event output characters).ending? =
      if event = "task-finished" then some (.ok ())
      else if event = "task-failed" then
        some (.error (.api (Dialect.Task.toError (costMessage event output characters))))
      else none := by
  simp only [costEvent, Arrival.ending?, WireFrame.ofJson, costRead event plain]
  rw [costNamed]
  simp only [Option.some.injEq]

theorem costUsage {event : String} (later : event ≠ "task-started") {output : Json}
    (plain : Json.Plain 125 output) (characters : UInt64) :
    (costEvent event output characters).usage? = some (spent characters) := by
  have read := costRead event plain characters
  have message : (costEvent event output characters).message? =
      some (costMessage event output characters) := read
  rw [Arrival.usage?, message, Option.bind_some, costNamed, if_neg (fun same => later (Option.some.inj same))]
  rfl

theorem costUnended : ∀ a ∈ costArrivals, a.ending? = none := by
  have started := costEnding "task-started" emptyPlain 1
  have generated := costEnding "result-generated" (.string 125 "hello") 4
  exact List.forall_mem_cons.mpr ⟨started, List.forall_mem_cons.mpr ⟨generated,
    List.forall_mem_singleton.mpr rfl⟩⟩

theorem lastCostTold : (∀ a ∈ costArrivals, a.ending? = none) ∧
    (costEvent "task-finished" (.string "end") 9).ending? = some (.ok ()) ∧
    ∃ reply, ((Call.begin costSetup).1.run costSetup (.connected :: .sent ::
        (costArrivals ++ costEvent "task-finished" (.string "end") 9 ::
          [costEvent "result-generated" .null 16]).map .arrived)).1.result = some (.ok reply) ∧
      reply.usage = some (spent 9) := by
  have finished := costEnding "task-finished" (.string 125 "end") 9
  obtain ⟨reply, told, cost, _⟩ :=
    foldedCost costSetup costUnended finished [costEvent "result-generated" .null 16]
  have output : (costEvent "task-finished" (.string "end") 9).BringsOutput :=
    ⟨_, .string "end", costRead "task-finished" (.string 125 "end") 9, rfl, nofun, nofun⟩
  have last : lastUsage (costArrivals ++ [costEvent "task-finished" (.string "end") 9]) =
      some (spent 9) := by
    rw [lastUsageNext, costUsage (by decide) (.string 125 "end")]
    rfl
  exact ⟨costUnended, finished, reply, told, (cost output).trans last⟩

theorem finalCostLost : (∀ a ∈ costArrivals, a.ending? = none) ∧
    (costEvent "task-finished" .empty 9).ending? = some (.ok ()) ∧
    lastUsage (costArrivals ++ [costEvent "task-finished" .empty 9]) = some (spent 9) ∧
    (((Call.begin costSetup).1.run costSetup (.connected :: .sent ::
        (costArrivals ++ [costEvent "task-finished" .empty 9]).map .arrived)).1.result.bind
          (·.toOption)).map (·.usage) = some (some (spent 4)) := by
  have finished := costEnding "task-finished" emptyPlain 9
  have last : lastUsage (costArrivals ++ [costEvent "task-finished" .empty 9]) = some (spent 9) := by
    rw [lastUsageNext, costUsage (by decide) emptyPlain]
    rfl
  exact ⟨costUnended, finished, last, by decide +kernel⟩

end ModelServing
