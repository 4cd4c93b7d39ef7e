import ModelServing.Proofs.Reach
import ModelServing.Proofs.Stream.Speech

/-! The life of a task over a socket, from the opening until its consumer leaves it. Nothing is sent but the
envelope; nothing is read behind an arrival that ends the task; and the connection is closed if it is read
to the end, and is given up in any case. -/
namespace ModelServing

namespace TaskStream

def Opening.run (setup : Setup) (o : Opening) : List Signal → Opening × List Demand
  | [] => (o, [])
  | signal :: rest =>
    let (next, demands) := o.step setup signal
    let (last, more) := next.run setup rest
    (last, demands ++ more)

inductive Opened (setup : Setup) : Opening → List Demand → Prop where
  | connecting : Opened setup .connecting []
  | unconnected (e : Error) : Opened setup (.refused e) [.giveUp]
  | sending : Opened setup .sending [.send setup.envelope]
  | unsent (e : Error) : Opened setup (.refused e) [.send setup.envelope, .giveUp]
  | opened : Opened setup .opened [.send setup.envelope]

structure Life where
  opening : Opening
  consumed : Consumed
  demands : List Demand

def Setup.live (setup : Setup) (signals : List Signal) (reads : Nat) (arrivals : List Arrival) : Life :=
  let (opening, opened) := Opening.run setup .connecting signals
  let consumed := consume (if opening = .opened then reads else 0) .reading arrivals
  let farewell := match opening with
    | .refused _ => []
    | _ => [.giveUp]
  ⟨opening, consumed, .connect setup.url setup.headers :: opened ++ consumed.demands ++ farewell⟩

inductive Finds : List Arrival → Next × Stage × List Arrival → Prop where
  | nothing {skipped : List Arrival} (skips : ∀ x ∈ skipped, judge x = .skip) :
      Finds skipped (.pending, .reading, [])
  | item {skipped rest : List Arrival} {a : Arrival} {r : Reply} (skips : ∀ x ∈ skipped, judge x = .skip)
      (judged : judge a = .item r) : Finds (skipped ++ a :: rest) (.item (.ok r), .reading, rest)
  | last {skipped rest : List Arrival} {a : Arrival} {i : Except Error Reply}
      (skips : ∀ x ∈ skipped, judge x = .skip) (judged : judge a = .last i) :
      Finds (skipped ++ a :: rest) (.item i, .spent, rest)
  | finish {skipped rest : List Arrival} {a : Arrival} (skips : ∀ x ∈ skipped, judge x = .skip)
      (judged : judge a = .finish) : Finds (skipped ++ a :: rest) (.ended, .ended, rest)

/-- What a consumer gets, and why it reads no further: it wants no more, or would have to wait, or has found
the end. -/
inductive Gets (reads : Nat) : List Arrival → Consumed → Prop where
  | enough {read rest : List Arrival} {stage : Stage} (unended : read.Pairwise fun a _ => a.ending? = none)
      (count : (itemsIn read).length = reads) :
      Gets reads (read ++ rest) ⟨itemsIn read, none, stage, rest, []⟩
  | waits {read : List Arrival} (unended : ∀ a ∈ read, a.ending? = none)
      (few : (itemsIn read).length < reads) :
      Gets reads read ⟨itemsIn read, some .pending, .reading, [], []⟩
  | ends {before rest : List Arrival} {a : Arrival} (unended : ∀ x ∈ before, x.ending? = none)
      (ended : a.ending? ≠ none) (few : (itemsIn (before ++ [a])).length < reads) :
      Gets reads (before ++ a :: rest)
        ⟨itemsIn (before ++ [a]), some .ended, .ended, rest, [.closeNormally "finished"]⟩

def Verdict.ending? : Verdict → Option (Except Error Unit)
  | .skip | .item _ => none
  | .last i => some (i.map fun _ => ())
  | .finish => some (.ok ())

theorem endingJudged (a : Arrival) : a.ending? = (judge a).ending? := by
  have means := judgeMeans a
  generalize a.ending? = ending, judge a = verdict at means
  cases means <;> rfl

section
variable {skipped : List Arrival}

theorem nextSkips (skips : ∀ x ∈ skipped, judge x = .skip) (rest : List Arrival) :
    next .reading (skipped ++ rest) = next .reading rest := by
  induction skipped with
  | nil => rfl
  | cons x later ih =>
    obtain ⟨first, others⟩ := List.forall_mem_cons.mp skips
    rw [List.cons_append, next, first]
    exact ih others

theorem nextFinds (arrivals : List Arrival) : Finds arrivals (next .reading arrivals) := by
  induction arrivals with
  | nil => exact .nothing (List.forall_mem_nil _)
  | cons a rest ih =>
    rw [next]
    cases judged : judge a with
    | item r => exact @Finds.item [] rest a r (List.forall_mem_nil _) judged
    | last i => exact @Finds.last [] rest a i (List.forall_mem_nil _) judged
    | finish => exact @Finds.finish [] rest a (List.forall_mem_nil _) judged
    | skip =>
      dsimp only
      generalize next .reading rest = found at ih
      cases ih with
      | nothing skips => exact .nothing (List.forall_mem_cons.mpr ⟨judged, skips⟩)
      | item skips own => exact .item (List.forall_mem_cons.mpr ⟨judged, skips⟩) own
      | last skips own => exact .last (List.forall_mem_cons.mpr ⟨judged, skips⟩) own
      | finish skips own => exact .finish (List.forall_mem_cons.mpr ⟨judged, skips⟩) own

theorem itemsSkipped (skips : ∀ x ∈ skipped, judge x = .skip) (rest : List Arrival) :
    itemsIn (skipped ++ rest) = itemsIn rest := by
  rw [itemsIn, List.flatMap_append, List.flatMap_eq_nil_iff.mpr, List.nil_append]
  · rfl
  · intro x member
    rw [skips x member]
    rfl

theorem skipsUnended (skips : ∀ x ∈ skipped, judge x = .skip) : ∀ x ∈ skipped, x.ending? = none :=
  fun x member => by rw [endingJudged, skips x member]; rfl

theorem unendedPairwise {read : List Arrival} (unended : ∀ a ∈ read, a.ending? = none) :
    read.Pairwise fun a _ => a.ending? = none :=
  (List.pairwise_of_forall fun _ _ => trivial).imp_of_mem fun member _ _ => unended _ member

theorem Gets.behindSkips {reads : Nat} {arrivals : List Arrival} {c : Consumed}
    (skips : ∀ x ∈ skipped, judge x = .skip) (gets : Gets reads arrivals c) :
    Gets reads (skipped ++ arrivals) c := by
  have silent := skipsUnended skips
  cases gets with
  | @enough read rest stage unended count =>
    rw [← List.append_assoc, ← itemsSkipped skips]
    refine .enough (List.pairwise_append.mpr ⟨unendedPairwise silent, unended,
      fun x member _ _ => silent x member⟩) ?_
    rw [itemsSkipped skips, count]
  | waits unended few =>
    rw [← itemsSkipped skips]
    refine .waits (List.forall_mem_append.mpr ⟨silent, unended⟩) ?_
    rwa [itemsSkipped skips]
  | @ends before rest a unended ended few =>
    rw [← List.append_assoc, ← itemsSkipped skips, ← List.append_assoc]
    refine .ends (List.forall_mem_append.mpr ⟨silent, unended⟩) ended ?_
    rwa [List.append_assoc, itemsSkipped skips]

theorem Gets.behindItem {reads : Nat} {arrivals : List Arrival} {c : Consumed} {a : Arrival} {r : Reply}
    (judged : judge a = .item r) (gets : Gets reads arrivals c) :
    Gets (reads + 1) (a :: arrivals) { c with items := .ok r :: c.items } := by
  have silent : a.ending? = none := by rw [endingJudged, judged]; rfl
  have more (rest : List Arrival) : itemsIn (a :: rest) = .ok r :: itemsIn rest := by
    rw [itemsIn, List.flatMap_cons, judged]
    rfl
  cases gets with
  | @enough read rest stage unended count =>
    rw [← List.cons_append, ← more]
    refine .enough (List.pairwise_cons.mpr ⟨fun _ _ => silent, unended⟩) ?_
    rw [more, List.length_cons, count]
  | waits unended few =>
    rw [← more]
    refine .waits (List.forall_mem_cons.mpr ⟨silent, unended⟩) ?_
    rw [more, List.length_cons]
    omega
  | @ends before rest a unended ended few =>
    rw [← List.cons_append, ← more, ← List.cons_append]
    refine .ends (List.forall_mem_cons.mpr ⟨silent, unended⟩) ended ?_
    rw [List.cons_append, more, List.length_cons]
    omega

theorem Gets.endsAt {reads : Nat} {a : Arrival} (ended : a.ending? ≠ none) {items : List (Except Error Reply)}
    (own : (judge a).items = items) (few : items.length < reads) (rest : List Arrival) :
    Gets reads (a :: rest) ⟨items, some .ended, .ended, rest, [.closeNormally "finished"]⟩ := by
  have alone : itemsIn [a] = items := by rw [itemsIn, List.flatMap_singleton, own]
  subst alone
  exact @Gets.ends reads [] rest a (List.forall_mem_nil _) ended few

theorem consumeSpent (reads : Nat) (rest : List Arrival) : consume (reads + 1) .spent rest =
    ⟨[], some .ended, .ended, rest, [.closeNormally "finished"]⟩ := by
  rw [consume, next]
  rfl

theorem consumeGets (reads : Nat) (arrivals : List Arrival) :
    Gets reads arrivals (consume reads .reading arrivals) := by
  induction reads generalizing arrivals with
  | zero => exact @Gets.enough 0 [] arrivals .reading .nil rfl
  | succ reads ih =>
    have found := nextFinds arrivals
    rw [consume]
    generalize next .reading arrivals = result at found
    cases found with
    | nothing skips =>
      have waits := (@Gets.waits (reads + 1) [] (List.forall_mem_nil _) (Nat.succ_pos reads)).behindSkips skips
      rwa [List.append_nil] at waits
    | @item skipped rest a r skips judged => exact ((ih rest).behindItem judged).behindSkips skips
    | @last skipped rest a i skips judged =>
      have ended : a.ending? ≠ none := by
        rw [endingJudged, judged]
        exact Option.some_ne_none _
      have own : (judge a).items = [i] := by
        rw [judged]
        rfl
      refine .behindSkips skips ?_
      cases reads with
      | zero =>
        have alone : itemsIn [a] = [i] := by rw [itemsIn, List.flatMap_singleton, own]
        have enough := @Gets.enough 1 [a] rest .spent (List.pairwise_singleton _ a) (by rw [alone]; rfl)
        rwa [alone] at enough
      | succ reads =>
        dsimp only
        rw [consumeSpent]
        exact .endsAt ended own (Nat.succ_lt_succ reads.succ_pos) rest
    | @finish skipped rest a skips judged =>
      have ended : a.ending? ≠ none := by
        rw [endingJudged, judged]
        exact Option.some_ne_none _
      have own : (judge a).items = [] := by
        rw [judged]
        rfl
      exact .behindSkips skips (.endsAt ended own reads.succ_pos rest)

theorem consumeResumes (first : Nat) {later : Nat} (again : 0 < later) (arrivals more : List Arrival)
    (open_ : (consume first .reading arrivals).stop ≠ some .ended) :
    let stopped := consume first .reading arrivals
    let resumed := consume later stopped.stage (stopped.rest ++ more)
    consume (stopped.items.length + later) .reading (arrivals ++ more) =
      { resumed with
        items := stopped.items ++ resumed.items, demands := stopped.demands ++ resumed.demands } := by
  induction first generalizing arrivals with
  | zero =>
    dsimp only [consume]
    rw [List.length_nil, Nat.zero_add]
    rfl
  | succ first ih =>
    have found := nextFinds arrivals
    rw [consume] at open_ ⊢
    generalize next .reading arrivals = result at found open_
    cases found with
    | nothing skips =>
      dsimp only
      obtain ⟨later, rfl⟩ := Nat.exists_eq_add_of_le' again
      rw [List.length_nil, Nat.zero_add, consume, nextSkips skips]
      rfl
    | @item skipped rest a r skips judged =>
      have going := ih rest open_
      dsimp only at going ⊢
      rw [List.append_assoc, List.length_cons, Nat.add_right_comm, consume, nextSkips skips, List.cons_append,
        next, judged]
      dsimp only
      rw [going]
      rfl
    | @last skipped rest a i skips judged =>
      cases first with
      | zero =>
        dsimp only [consume]
        rw [List.append_assoc, List.length_singleton, Nat.add_comm, consume, nextSkips skips, List.cons_append,
          next, judged]
        rfl
      | succ first =>
        dsimp only at open_
        rw [consumeSpent] at open_
        exact (open_ rfl).elim
    | finish => exact (open_ rfl).elim

end

theorem itemsFail {read : List Arrival} (readTo : read.Pairwise fun a _ => a.ending? = none) :
    ∃ (replies : List Reply) (failure : Option Error),
      itemsIn read = replies.map .ok ++ failure.toList.map .error ∧
      ∀ e, failure = some e ↔ ∃ a ∈ read, a.ending? = some (.error e) := by
  induction read with
  | nil => exact ⟨[], none, rfl, fun e => by simp⟩
  | cons x rest ih =>
    obtain ⟨behind, readTo⟩ := List.pairwise_cons.mp readTo
    have alone (ended : x.ending? ≠ none) : rest = [] :=
      List.eq_nil_iff_forall_not_mem.mpr fun b member => ended (behind b member)
    rw [itemsIn, List.flatMap_cons]
    simp only [List.mem_cons, exists_eq_or_imp, endingJudged x]
    rw [endingJudged] at alone
    generalize judge x = verdict at alone
    cases verdict with
    | skip =>
      obtain ⟨replies, failure, items, fails⟩ := ih readTo
      exact ⟨replies, failure, items, fun e => by simp [fails, Verdict.ending?]⟩
    | item r =>
      obtain ⟨replies, failure, items, fails⟩ := ih readTo
      refine ⟨r :: replies, failure, ?_, fun e => by simp [fails, Verdict.ending?]⟩
      exact congrArg (List.cons (.ok r)) items
    | finish =>
      cases alone (Option.some_ne_none _)
      exact ⟨[], none, rfl, fun e => by simp [Verdict.ending?]⟩
    | last i =>
      cases alone (Option.some_ne_none _)
      cases i with
      | ok r => exact ⟨[r], none, rfl, fun e => by simp [Verdict.ending?, Except.map]⟩
      | error own => exact ⟨[], some own, rfl, fun e => by simp [Verdict.ending?, Except.map]⟩

section
variable {setup : Setup} {o : Opening} {asked : List Demand}

theorem Opened.step (asks : Opened setup o asked) (signal : Signal) :
    Opened setup (o.step setup signal).1 (asked ++ (o.step setup signal).2) := by
  cases asks with
  | connecting =>
    cases signal with
    | connected => exact .sending
    | refused e => exact .unconnected e
    | sent | sendFailed e | arrived a => exact .connecting
  | sending =>
    cases signal with
    | sent => exact .opened
    | sendFailed e => exact .unsent e
    | connected | refused e | arrived a => exact .sending
  | unconnected e => exact .unconnected e
  | unsent e => exact .unsent e
  | opened => exact .opened

theorem Opened.run (asks : Opened setup o asked) (signals : List Signal) :
    Opened setup (o.run setup signals).1 (asked ++ (o.run setup signals).2) := by
  induction signals generalizing o asked with
  | nil =>
    rw [Opening.run, List.append_nil]
    exact asks
  | cons signal rest ih =>
    rw [Opening.run]
    dsimp only
    rw [← List.append_assoc]
    exact ih (asks.step signal)

end

/-- What the transport is asked for over a whole life: a connection; the envelope to be sent, once there is
one; a close, if the end was reached; and that the connection is given up, once and last. -/
def Asked (setup : Setup) (opened ended : Prop) (demands : List Demand) : Prop :=
  ∃ sent closed, demands = .connect setup.url setup.headers :: sent ++ closed ++ [.giveUp] ∧
    (sent = [.send setup.envelope] ∨ sent = [] ∧ ¬opened) ∧
    (ended ∧ closed = [.close 1000 "finished"] ∨ ¬ended ∧ closed = [])

theorem Asked.all {setup : Setup} {opened ended : Prop} {demands : List Demand}
    (asked : Asked setup opened ended demands) (open_ : opened) :
    (ended → demands = [.connect setup.url setup.headers, .send setup.envelope, .close 1000 "finished",
      .giveUp]) ∧
    (¬ended → demands = [.connect setup.url setup.headers, .send setup.envelope, .giveUp]) := by
  obtain ⟨_, _, rfl, rfl | ⟨_, shut⟩, farewell⟩ := asked
  · exact ⟨fun read => by simp_all, fun unread => by simp_all⟩
  · exact (shut open_).elim

structure Life.Orderly (setup : Setup) (reads : Nat) (arrivals read : List Arrival) (life : Life) : Prop where
  whole : arrivals = read ++ life.consumed.rest
  readTo : read.Pairwise fun a _ => a.ending? = none
  unopened : life.opening ≠ .opened → read = []
  items : ∃ (replies : List Reply) (failure : Option Error),
    life.consumed.items = replies.map .ok ++ failure.toList.map .error ∧
    ∀ e, failure = some e ↔ ∃ a ∈ read, a.ending? = some (.error e)
  wanted : life.consumed.stop = none → life.opening = .opened → life.consumed.items.length = reads
  waits : life.consumed.stop = some .pending → life.consumed.rest = [] ∧ ∀ a ∈ read, a.ending? = none
  ends : life.consumed.stop = some .ended ↔
    life.opening = .opened ∧ life.consumed.items.length < reads ∧ ∃ a ∈ read, a.ending? ≠ none
  asked : Asked setup (life.opening = .opened) (life.consumed.stop = some .ended) life.demands

theorem Setup.liveOrderly (setup : Setup) (signals : List Signal) (reads : Nat) (arrivals : List Arrival) :
    ∃ read, (setup.live signals reads arrivals).Orderly setup reads arrivals read := by
  have unasked : Opened setup .connecting [] := .connecting
  have asks := unasked.run signals
  rw [List.nil_append] at asks
  unfold Setup.live
  generalize Opening.run setup .connecting signals = opening at asks
  obtain ⟨o, asked⟩ := opening
  dsimp only at asks ⊢
  by_cases open_ : o = .opened
  · subst open_
    cases asks
    rw [if_pos rfl]
    have gets := consumeGets reads arrivals
    generalize consume reads .reading arrivals = consumed at gets
    cases gets with
    | @enough read rest stage unended count =>
      refine ⟨read, rfl, unended, fun shut => (shut rfl).elim, itemsFail unended, fun _ _ => count, nofun,
        ?_, ⟨_, [], rfl, .inl rfl, .inr ⟨nofun, rfl⟩⟩⟩
      exact ⟨nofun, fun ⟨_, few, _⟩ => (few.ne count).elim⟩
    | waits unended few =>
      have readTo := unendedPairwise unended
      refine ⟨arrivals, (List.append_nil _).symm, readTo, fun shut => (shut rfl).elim, itemsFail readTo,
        nofun, fun _ => ⟨rfl, unended⟩, ?_, ⟨_, [], rfl, .inl rfl, .inr ⟨nofun, rfl⟩⟩⟩
      exact ⟨nofun, fun ⟨_, _, a, member, ended⟩ => (ended (unended a member)).elim⟩
    | @ends before rest a unended ended few =>
      have readTo : (before ++ [a]).Pairwise fun a _ => a.ending? = none :=
        List.pairwise_append.mpr ⟨unendedPairwise unended, List.pairwise_singleton _ a,
          fun x member _ _ => unended x member⟩
      refine ⟨before ++ [a], ?_, readTo, fun shut => (shut rfl).elim, itemsFail readTo, nofun, nofun, ?_,
        ⟨_, [.closeNormally "finished"], rfl, .inl rfl, .inl ⟨rfl, rfl⟩⟩⟩
      · rw [List.append_assoc]
        rfl
      · exact ⟨fun _ => ⟨rfl, few, a, List.mem_append_right _ List.mem_cons_self, ended⟩, fun _ => rfl⟩
  · rw [if_neg open_]
    have shape : ∃ sent, .connect setup.url setup.headers :: asked ++ [] ++
        (match o with
        | .refused _ => []
        | _ => [.giveUp]) = .connect setup.url setup.headers :: sent ++ [] ++ [.giveUp] ∧
          (sent = [.send setup.envelope] ∨ sent = []) := by
      cases asks with
      | connecting | unconnected => exact ⟨[], rfl, .inr rfl⟩
      | sending | unsent => exact ⟨_, rfl, .inl rfl⟩
      | opened => exact (open_ rfl).elim
    obtain ⟨sent, shape, either⟩ := shape
    refine ⟨[], rfl, .nil, fun _ => rfl, itemsFail .nil, fun _ shut => (open_ shut).elim, nofun, ?_,
      ⟨sent, [], shape, either.imp_right fun none_ => ⟨none_, open_⟩, .inr ⟨nofun, rfl⟩⟩⟩
    exact ⟨nofun, fun ⟨shut, _⟩ => (open_ shut).elim⟩

namespace Call

inductive Stands (setup : Setup) (c : Call) : List Demand → Prop where
  | underway {asked : List Demand} (unread : c.result = none) (asks : Opened setup c.opening asked)
      (going : ∀ e, c.opening ≠ .refused e) : Stands setup c asked
  | refused {asked : List Demand} {e : Error} (told : c.result = some (.error e))
      (asks : Opened setup c.opening asked) (refusal : c.opening = .refused e) : Stands setup c asked
  | failed {e : Error} (told : c.result = some (.error e)) :
      Stands setup c [.send setup.envelope, .giveUp]
  | done {reply : Reply} (told : c.result = some (.ok reply)) :
      Stands setup c [.send setup.envelope, .closeNormally "finished", .giveUp]

inductive Takes (c : Call) : Option (Except Error Unit) → Call × List Demand → Prop where
  | more (folded : Fold) : Takes c none ({ c with folded }, [])
  | fails (e : Error) : Takes c (some (.error e)) ({ c with result := some (.error e) }, [.giveUp])
  | ends (reply : Reply) : Takes c (some (.ok ()))
      ({ c with result := some (.ok reply) }, [.closeNormally "finished", .giveUp])

section
variable {setup : Setup} {c : Call} {asked : List Demand}

theorem readTakes (c : Call) (a : Arrival) : Takes c a.ending? (c.read a) := by
  rw [endingJudged, read]
  cases judge a with
  | skip => exact .more c.folded
  | item r => exact .more (c.folded.add r)
  | finish => exact .ends c.folded.result
  | last i =>
    cases i with
    | ok r => exact .ends (c.folded.add r).result
    | error e => exact .fails e

theorem Stands.read (asks : Opened setup c.opening asked) (opened : c.opening = .opened)
    (unread : c.result = none) (a : Arrival) :
    Stands setup (c.read a).1 (asked ++ (c.read a).2) := by
  have takes := c.readTakes a
  have sent : asked = [.send setup.envelope] := by
    rw [opened] at asks
    cases asks
    rfl
  subst sent
  generalize a.ending? = ending, c.read a = read at takes
  cases takes with
  | more folded => exact .underway unread asks fun e shut => nomatch opened.symm.trans shut
  | fails e => exact .failed rfl
  | ends reply => exact .done rfl

theorem Stands.advance (asks : Opened setup c.opening asked) (signal : Signal) :
    Stands setup (c.advance setup signal).1 (asked ++ (c.advance setup signal).2) := by
  have later := asks.step signal
  rw [Call.advance]
  generalize c.opening.step setup signal = stepped at later
  obtain ⟨opening, demands⟩ := stepped
  cases opening with
  | connecting | sending | opened => exact .underway rfl later nofun
  | refused e => exact .refused rfl later rfl

theorem Stands.step (stands : Stands setup c asked) (signal : Signal) :
    Stands setup (c.step setup signal).1 (asked ++ (c.step setup signal).2) := by
  unfold Call.step
  split
  · rw [List.append_nil]
    exact stands
  · rename_i a unread opened
    cases stands with
    | underway _ asks => exact .read asks opened unread a
    | refused told | failed told | done told => exact nomatch unread.symm.trans told
  · rename_i unread _
    cases stands with
    | underway _ asks => exact .advance asks _
    | refused told | failed told | done told => exact nomatch unread.symm.trans told

theorem Stands.run (stands : Stands setup c asked) (signals : List Signal) :
    Stands setup (c.run setup signals).1 (asked ++ (c.run setup signals).2) := by
  induction signals generalizing c asked with
  | nil =>
    rw [Call.run, List.append_nil]
    exact stands
  | cons signal rest ih =>
    rw [Call.run]
    dsimp only
    rw [← List.append_assoc]
    exact ih (stands.step signal)

theorem Stands.whole (stands : Stands setup c asked) :
    Asked setup (c.opening = .opened) (∃ reply, c.result = some (.ok reply))
      (.connect setup.url setup.headers :: asked ++ c.abandon) := by
  unfold abandon
  cases stands with
  | underway unread asks going =>
    rw [unread]
    have silent : ¬∃ reply : Reply, (none : Option (Except Error Reply)) = some (.ok reply) := by
      simp
    generalize c.opening = opening at asks going
    cases asks with
    | connecting => exact ⟨[], [], rfl, .inr ⟨rfl, nofun⟩, .inr ⟨silent, rfl⟩⟩
    | sending | opened => exact ⟨_, [], rfl, .inl rfl, .inr ⟨silent, rfl⟩⟩
    | unconnected e | unsent e => exact (going e rfl).elim
  | @refused _ e told asks refusal =>
    rw [told, refusal]
    rw [refusal] at asks
    have silent : ¬∃ reply : Reply, some (Except.error e) = some (Except.ok reply) := by simp
    cases asks with
    | unconnected => exact ⟨[], [], rfl, .inr ⟨rfl, nofun⟩, .inr ⟨silent, rfl⟩⟩
    | unsent => exact ⟨_, [], rfl, .inl rfl, .inr ⟨silent, rfl⟩⟩
  | failed told =>
    rw [told]
    exact ⟨_, [], rfl, .inl rfl, .inr ⟨by simp, rfl⟩⟩
  | @done reply told =>
    rw [told]
    exact ⟨_, _, rfl, .inl rfl, .inl ⟨⟨reply, rfl⟩, rfl⟩⟩

theorem callAsked (setup : Setup) (signals : List Signal) :
    let ran := (begin setup).1.run setup signals
    Asked setup (ran.1.opening = .opened) (∃ reply, ran.1.result = some (.ok reply))
      ((begin setup).2 ++ ran.2 ++ ran.1.abandon) := by
  have begun : Stands setup (begin setup).1 [] := .underway rfl .connecting nofun
  exact (begun.run signals).whole

theorem runUnended {before : List Arrival} (unended : ∀ a ∈ before, a.ending? = none)
    (opened : c.opening = .opened) (unread : c.result = none) :
    ∃ d : Call, d.opening = .opened ∧ d.result = none ∧
      ∀ setup rest, c.run setup (before.map .arrived ++ rest) = d.run setup rest := by
  induction before generalizing c with
  | nil => exact ⟨c, opened, unread, fun _ _ => rfl⟩
  | cons a later ih =>
    obtain ⟨first, others⟩ := List.forall_mem_cons.mp unended
    have takes := c.readTakes a
    rw [first] at takes
    generalize read : c.read a = taken at takes
    cases takes with
    | more folded =>
      obtain ⟨d, open_, going, same⟩ := ih others (c := { c with folded }) opened unread
      refine ⟨d, open_, going, fun setup rest => ?_⟩
      rw [List.map_cons, List.cons_append, runSilent ((stepReads opened unread a).trans read)]
      exact same setup rest

theorem runEnds {a : Arrival} {outcome : Except Error Unit} (ended : a.ending? = some outcome)
    (opened : c.opening = .opened) (unread : c.result = none) (setup : Setup) (rest : List Signal) :
    c.run setup (.arrived a :: rest) = c.read a ∧
      (c.read a).1.result.map (·.map fun _ => ()) = some outcome := by
  have takes := c.readTakes a
  rw [ended] at takes
  rw [run, stepReads opened unread]
  generalize c.read a = taken at takes
  cases takes with
  | fails e => exact ⟨by simp [runOver], rfl⟩
  | ends reply => exact ⟨by simp [runOver], rfl⟩

end

end Call

end TaskStream

open TaskStream (Setup Call consume)

def Consumption.word : Consumption → String
  | .folded => "none"
  | .streamed => "out"

theorem setupMade {made : Except Error Setup} {setup : Setup}
    (route : made.map Route.task = .ok (.task setup)) : made = .ok setup := by
  cases made with
  | error e => cases route
  | ok own =>
    cases route
    rfl

theorem tasksLive {config : Config} {r : Request} {consumption : Consumption} {taskId : String}
    {setup : Setup}
    (route : Route.of config { r with carrier := .webSocket } consumption taskId = .ok (.task setup)) :
    setup.envelope = .ofJson (.object
      [("header", .object [("action", .string "run-task"), ("streaming", .string consumption.word),
        ("task_id", .string taskId)]),
      ("payload", r.payload)]) ∧
    (∀ signals reads arrivals, ∃ read,
      (setup.live signals reads arrivals).Orderly setup reads arrivals read) ∧
    (∀ first later arrivals more, 0 < later → (consume first .reading arrivals).stop ≠ some .ended →
      let stopped := consume first .reading arrivals
      let resumed := consume later stopped.stage (stopped.rest ++ more)
      consume (stopped.items.length + later) .reading (arrivals ++ more) =
        { resumed with
          items := stopped.items ++ resumed.items, demands := stopped.demands ++ resumed.demands }) ∧
    (∀ signals, let ran := (Call.begin setup).1.run setup signals
      TaskStream.Asked setup (ran.1.opening = .opened) (∃ reply, ran.1.result = some (.ok reply))
        ((Call.begin setup).2 ++ ran.2 ++ ran.1.abandon)) ∧
    ∀ before, (∀ a ∈ before, Arrival.ending? a = none) →
      ((Call.begin setup).1.run setup (.connected :: .sent :: before.map .arrived)).1.result = none ∧
      ∀ e outcome after, Arrival.ending? e = some outcome →
        let ran := (Call.begin setup).1.run setup (.connected :: .sent :: (before ++ [e]).map .arrived)
        (Call.begin setup).1.run setup (.connected :: .sent :: (before ++ e :: after).map .arrived) = ran ∧
        ran.1.result.map (·.map fun _ => ()) = some outcome := by
  refine ⟨?_, setup.liveOrderly,
    fun first _ arrivals more again open_ => TaskStream.consumeResumes first again arrivals more open_,
    TaskStream.Call.callAsked setup, fun before unended => ?_⟩
  · obtain ⟨streaming, made, word⟩ : ∃ streaming,
        TaskStream.Setup.of config { r with carrier := .webSocket } streaming taskId = .ok setup ∧
          streaming.word = consumption.word := by
      cases consumption with
      | folded => exact ⟨.none, setupMade route, rfl⟩
      | streamed => exact ⟨.out, setupMade route, rfl⟩
    obtain ⟨_, _, made⟩ := passedBind made
    obtain ⟨headers, _, made⟩ := passedBind made
    obtain ⟨u, _, made⟩ := passedBind made
    cases made
    rw [← word]
    rfl
  · let opened : Call := ⟨.opened, .empty, none⟩
    obtain ⟨d, open_, unread, same⟩ := opened.runUnended unended rfl rfl
    have whole (rest : List TaskStream.Signal) : (Call.begin setup).1.run setup
        (.connected :: .sent :: (before.map .arrived ++ rest)) =
          ((d.run setup rest).1, .send setup.envelope :: (d.run setup rest).2) := by
      rw [← same]
      rfl
    constructor
    · have silent := whole []
      rw [List.append_nil] at silent
      rw [silent]
      exact unread
    · intro e outcome after ended ran
      obtain ⟨_, told⟩ := Call.runEnds ended open_ unread setup []
      have ends (rest : List TaskStream.Signal) :=
        (Call.runEnds ended open_ unread setup rest).1
      have last : ran = ((d.read e).1, .send setup.envelope :: (d.read e).2) := by
        change (Call.begin setup).1.run setup (.connected :: .sent :: (before ++ [e]).map .arrived) = _
        rw [List.map_append, whole, List.map_singleton, ends]
      rw [last, List.map_append, whole, List.map_cons, ends]
      exact ⟨rfl, told⟩

theorem liveOpened (setup : Setup) (reads : Nat) (arrivals : List Arrival) :
    (setup.live [.connected, .sent] reads arrivals).opening = .opened ∧
    (setup.live [.connected, .sent] reads arrivals).consumed = consume reads .reading arrivals :=
  ⟨rfl, rfl⟩

def clipWhole : List Arrival := clipArrivals ++ clipEvent "task-finished" :: [.frame (.binary [4])]

def duplexRequest : Request := { clipRequest with streaming := .duplex }

theorem clipClosed : ∃ setup,
    Route.of clipClient.config { duplexRequest with carrier := .webSocket } .streamed "t-1" =
      .ok (.task setup) ∧
    setup.envelope = .ofJson (.object
      [("header", .object [("action", .string "run-task"), ("streaming", .string "out"),
        ("task_id", .string "t-1")]),
      ("payload", duplexRequest.payload)]) ∧
    (setup.live [.connected, .sent] 9 clipWhole).demands =
      [.connect setup.url setup.headers, .send setup.envelope, .close 1000 "finished", .giveUp] ∧
    (setup.live [.connected, .sent] 3 clipWhole).demands =
      [.connect setup.url setup.headers, .send setup.envelope, .giveUp] := by
  have routed : (Route.of clipClient.config { duplexRequest with carrier := .webSocket } .streamed
      "t-1").toOption.any (fun route => match route with
        | .http _ => false
        | .task _ => true) = true := by
    decide +kernel
  obtain ⟨route, made, isTask⟩ := readIs routed
  cases route with
  | http message => cases isTask
  | task setup =>
    obtain ⟨envelope, lives, _⟩ := tasksLive made
    obtain ⟨_, read⟩ := lives [.connected, .sent] 9 clipWhole
    obtain ⟨_, left⟩ := lives [.connected, .sent] 3 clipWhole
    have stop : (setup.live [.connected, .sent] 9 clipWhole).consumed.stop = some .ended := by
      rw [(liveOpened setup 9 clipWhole).2, clipWhole,
        TaskStream.consumeEnds (TaskStream.endsAt clipUnended clipFinished) (by decide)]
    have wanted : (consume 3 .reading clipWhole).stop.isNone = true := by
      decide +kernel
    have stopped : (setup.live [.connected, .sent] 3 clipWhole).consumed.stop ≠ some .ended := by
      intro stop
      rw [(liveOpened setup 3 clipWhole).2] at stop
      rw [stop] at wanted
      cases wanted
    exact ⟨setup, made, envelope, (read.asked.all (liveOpened setup 9 clipWhole).1).1 stop,
      (left.asked.all (liveOpened setup 3 clipWhole).1).2 stopped⟩

end ModelServing
