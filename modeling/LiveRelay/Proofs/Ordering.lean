/-
Module: LiveRelay.Proofs.Ordering
Purpose: However the fan-outs of several sources mix at a topic, every subscriber gets what comes to
  it from one source in the order of that source, and every fan-out counts what came of it.
Main exports: PushedTopic.arrivalsAt, PushedTopic.readFrom, PushedTopic.series, Source.told,
  PushedTopic.Traced, PushedTopic.Traced.step, PushedTopic.source_order_kept
-/
import LiveRelay.Proofs.Topic.Waiting

namespace LiveRelay

open Net

/-! ### What was offered -/

/-- Offers of one fan-out: of the payload at a place among those of a source. -/
def Offer.series (offers : List Offer) (n place : Nat) : List Offer :=
  offers.filter fun offer => offer.source = n ∧ offer.place = place

/-- Offers to one connection that it queued. -/
def Offer.arrivals (offers : List Offer) (ref : ConnRef) : List Offer :=
  offers.filter fun offer => offer.ref = ref ∧ offer.outcome = .queued

namespace Offer

variable {offers : List Offer} {offer : Offer} {n place : Nat} {ref : ConnRef}

theorem mem_series :
    offer ∈ series offers n place ↔ offer ∈ offers ∧ offer.source = n ∧ offer.place = place := by
  simp [series]

theorem mem_arrivals :
    offer ∈ arrivals offers ref ↔
      offer ∈ offers ∧ offer.ref = ref ∧ offer.outcome = .queued := by
  simp [arrivals]

theorem series_append_of_same (source : offer.source = n) (at_place : offer.place = place) :
    series (offers ++ [offer]) n place = series offers n place ++ [offer] := by
  rw [series, List.filter_append, List.filter_cons_of_pos (by simp [source, at_place])]
  rfl

theorem series_append_of_other (other : ¬ (offer.source = n ∧ offer.place = place)) :
    series (offers ++ [offer]) n place = series offers n place := by
  rw [series, List.filter_append, List.filter_cons_of_neg (by simpa using other)]
  exact List.append_nil _

theorem arrivals_append_of_queued (at_ref : offer.ref = ref) (queued : offer.outcome = .queued) :
    arrivals (offers ++ [offer]) ref = arrivals offers ref ++ [offer] := by
  rw [arrivals, List.filter_append, List.filter_cons_of_pos (by simp [at_ref, queued])]
  rfl

theorem arrivals_append_of_other (other : ¬ (offer.ref = ref ∧ offer.outcome = .queued)) :
    arrivals (offers ++ [offer]) ref = arrivals offers ref := by
  rw [arrivals, List.filter_append, List.filter_cons_of_neg (by simpa using other)]
  exact List.append_nil _

/-- Payloads that stand at rising places of a list are some of the list, in its order. -/
theorem payloads_sublist {chunks : List Payload}
    (placed : ∀ offer ∈ offers, chunks[offer.place]? = some offer.payload)
    (rising : offers.Pairwise fun one two => one.place < two.place) :
    (offers.map Offer.payload).Sublist chunks := by
  suffices from_place : ∀ k, (∀ offer ∈ offers, k ≤ offer.place) →
      (offers.map Offer.payload).Sublist (chunks.drop k) from
    from_place 0 fun _ _ => Nat.zero_le _
  induction offers with
  | nil => exact fun k _ => List.nil_sublist _
  | cons offer others ih =>
      intro k least
      obtain ⟨first, rest⟩ := List.pairwise_cons.1 rising
      obtain ⟨within, payload⟩ := List.getElem?_eq_some_iff.1 (placed offer List.mem_cons_self)
      have later : (others.map Offer.payload).Sublist (chunks.drop (offer.place + 1)) :=
        ih (fun other member => placed other (List.mem_cons_of_mem offer member)) rest _ first
      have here : ((offer :: others).map Offer.payload).Sublist (chunks.drop offer.place) := by
        rw [List.drop_eq_getElem_cons within, payload, List.map_cons]
        exact later.cons_cons offer.payload
      exact here.trans (List.drop_sublist_drop_left chunks (least offer List.mem_cons_self))

end Offer

/-! ### What came of it -/

namespace FanOutReport

variable {offers : List Offer} {offer : Offer}

theorem ofOffers_append_singleton :
    ofOffers (offers ++ [offer]) = (ofOffers offers).add offer.outcome := by
  rw [ofOffers, List.foldl_append]
  rfl

/-- The counts of a report are as many as the offers, and it counts as delivered what was queued. -/
theorem counts_ofOffers (offers : List Offer) :
    (ofOffers offers).delivered + (ofOffers offers).dropped + (ofOffers offers).skipped =
        offers.length ∧
      (ofOffers offers).delivered = offers.countP fun offer => offer.outcome = .queued := by
  suffices counted : ∀ report : FanOutReport,
      let after := offers.foldl (fun report offer => report.add offer.outcome) report
      after.delivered + after.dropped + after.skipped =
          report.delivered + report.dropped + report.skipped + offers.length ∧
        after.delivered =
          report.delivered + offers.countP fun offer => offer.outcome = .queued by
    obtain ⟨total, delivered⟩ := counted .nothing
    rw [ofOffers, total, delivered]
    exact ⟨Nat.zero_add _, Nat.zero_add _⟩
  induction offers with
  | nil => exact fun report => ⟨rfl, rfl⟩
  | cons offer others ih =>
      intro report after
      obtain ⟨total, delivered⟩ := ih (report.add offer.outcome)
      rw [List.countP_cons, List.length_cons]
      refine ⟨total.trans ?_, delivered.trans ?_⟩
      · cases offer.outcome
        all_goals
          simp only [add]
          omega
      · cases offer.outcome
        case queued =>
          simp [add]
          omega
        all_goals simp [add]

end FanOutReport

/-- The members that a fan-out may still offer its payload to. -/
def FanOut.due (fanOut : FanOut) : List ConnRef := fanOut.facing.toList ++ fanOut.ahead

/-- What came of the fan-outs of a source so far, and last of the one that is under way. -/
def Source.told (source : Source) : List FanOutReport :=
  source.reports ++ source.running.toList.map FanOut.report

/-- The offers of a source are those of the fan-outs that it has begun, in so far as it was told,
and none is made twice. -/
structure Source.Told (offers : List Offer) (n : Nat) (source : Source) : Prop where
  begun : ∀ offer ∈ offers, offer.source = n → offer.place < source.told.length
  placed : ∀ offer ∈ offers, offer.source = n →
    source.chunks[offer.place]? = some offer.payload
  counted : ∀ (place : Nat) (report : FanOutReport), source.told[place]? = some report →
    report = .ofOffers (Offer.series offers n place)
  distinct : ∀ place, ((Offer.series offers n place).map Offer.ref).Nodup
  running : ∀ fanOut, source.running = some fanOut →
    source.chunks[source.reports.length]? = some fanOut.payload ∧ fanOut.due.Nodup ∧
      ∀ offer ∈ Offer.series offers n source.reports.length, offer.ref ∉ fanOut.due

namespace Source

variable {offers : List Offer} {n : Nat} {source : Source} {fanOut : FanOut}

theorem told_of_waiting (waits : source.running = none) : source.told = source.reports := by
  rw [told, waits]
  exact List.append_nil _

theorem told_of_running (running : source.running = some fanOut) :
    source.told = source.reports ++ [fanOut.report] := by
  rw [told, running]
  rfl

namespace Told

/-- A source that was never there has made no offers. -/
theorem new (unknown : ∀ offer ∈ offers, offer.source ≠ n) (channel : Channel)
    (chunks : List Payload) : Told offers n ⟨channel, chunks, none, []⟩ where
  begun offer member same := absurd same (unknown offer member)
  placed offer member same := absurd same (unknown offer member)
  counted place report reported := nomatch reported
  distinct place := by
    have nothing : Offer.series offers n place = [] :=
      List.filter_eq_nil_iff.2 fun offer member same =>
        unknown offer member (of_decide_eq_true same).1
    rw [nothing]
    exact .nil
  running fanOut running := nomatch running

/-- No offer belongs to a fan-out that has not begun. -/
theorem series_of_waiting (told : Told offers n source) (waits : source.running = none) :
    Offer.series offers n source.reports.length = [] := by
  refine List.filter_eq_nil_iff.2 fun offer member same => ?_
  obtain ⟨own, place⟩ := of_decide_eq_true same
  have begun := told.begun offer member own
  rw [told_of_waiting waits, place] at begun
  exact Nat.lt_irrefl _ begun

theorem begin (told : Told offers n source) (waits : source.running = none) {payload : Payload}
    {order : List ConnRef} (next : source.chunks[source.reports.length]? = some payload)
    (distinct : order.Nodup) :
    Told offers n { source with running := some ⟨payload, order, none, .nothing⟩ } where
  begun offer member own := by
    have begun := told.begun offer member own
    rw [told_of_waiting waits] at begun
    rw [told_of_running rfl, List.length_append]
    exact Nat.lt_succ_of_lt begun
  placed := told.placed
  counted place report reported := by
    rw [told_of_running rfl] at reported
    rcases getElem?_concat_cases reported with before | ⟨rfl, rfl⟩
    · refine told.counted place report ?_
      rw [told_of_waiting waits]
      exact before
    · rw [told.series_of_waiting waits]
      rfl
  distinct := told.distinct
  running fanOut running := by
    obtain rfl := Option.some.inj running
    refine ⟨next, distinct, fun offer member => ?_⟩
    rw [told.series_of_waiting waits] at member
    cases member

/-- A fan-out may face the next member or pass it. -/
theorem look (told : Told offers n source) (running : source.running = some fanOut)
    (free : fanOut.facing = none) {ref : ConnRef} {others : List ConnRef}
    (ahead : fanOut.ahead = ref :: others) {facing : Option ConnRef}
    (faced : facing = some ref ∨ facing = none) :
    Told offers n
      { source with running := some { fanOut with ahead := others, facing := facing } } := by
  have fewer : (facing.toList ++ others).Sublist fanOut.due := by
    rw [FanOut.due, free, ahead]
    rcases faced with rfl | rfl
    · exact List.Sublist.refl _
    · exact List.sublist_cons_self ref others
  have same : Source.told
      { source with running := some { fanOut with ahead := others, facing := facing } } =
        source.told := by
    rw [told_of_running running, told_of_running rfl]
  refine ⟨?_, told.placed, ?_, told.distinct, ?_⟩
  · rw [same]
    exact told.begun
  · rw [same]
    exact told.counted
  · intro later started
    obtain rfl := Option.some.inj started
    obtain ⟨next, distinct, fresh⟩ := told.running fanOut running
    exact ⟨next, distinct.sublist fewer,
      fun offer member due => fresh offer member (fewer.subset due)⟩

/-- A fan-out offers its payload to a member that it has not offered it to before. -/
theorem offer (told : Told offers n source) (running : source.running = some fanOut)
    {ref : ConnRef} (facing : fanOut.facing = some ref) (outcome : SendOutcome) :
    Told (offers ++ [⟨n, source.reports.length, ref, fanOut.payload, outcome⟩]) n
      { source with
        running := some { fanOut with facing := none, report := fanOut.report.add outcome } } := by
  obtain ⟨next, distinct, fresh⟩ := told.running fanOut running
  have due : fanOut.due = ref :: fanOut.ahead := by
    rw [FanOut.due, facing]
    rfl
  rw [due] at distinct fresh
  obtain ⟨absent, rest⟩ := List.nodup_cons.1 distinct
  have new : Offer.series
      (offers ++ [⟨n, source.reports.length, ref, fanOut.payload, outcome⟩]) n
        source.reports.length = Offer.series offers n source.reports.length ++
          [⟨n, source.reports.length, ref, fanOut.payload, outcome⟩] :=
    Offer.series_append_of_same rfl rfl
  have old {place : Nat} (different : place ≠ source.reports.length) : Offer.series
      (offers ++ [⟨n, source.reports.length, ref, fanOut.payload, outcome⟩]) n place =
        Offer.series offers n place :=
    Offer.series_append_of_other fun same => different same.2.symm
  have length : source.told.length = source.reports.length + 1 := by
    rw [told_of_running running, List.length_append]
    rfl
  constructor
  case begun =>
    intro offer member own
    rw [told_of_running rfl, List.length_append]
    rcases List.mem_append.1 member with earlier | last
    · exact length ▸ told.begun offer earlier own
    · obtain rfl := List.mem_singleton.1 last
      exact Nat.lt_succ_self _
  case placed =>
    intro offer member own
    rcases List.mem_append.1 member with earlier | last
    · exact told.placed offer earlier own
    · obtain rfl := List.mem_singleton.1 last
      exact next
  case counted =>
    intro place report reported
    rw [told_of_running rfl] at reported
    rcases getElem?_concat_cases reported with before | ⟨rfl, rfl⟩
    · have earlier := (List.getElem?_eq_some_iff.1 before).1
      rw [old (Nat.ne_of_lt earlier)]
      refine told.counted place report ?_
      rw [told_of_running running, List.getElem?_append_left earlier]
      exact before
    · have counted := told.counted source.reports.length fanOut.report (by
        rw [told_of_running running, List.getElem?_concat_length])
      rw [new, FanOutReport.ofOffers_append_singleton, ← counted]
  case distinct =>
    intro place
    by_cases same : place = source.reports.length
    · subst same
      rw [new, List.map_append, List.map_singleton, ← List.concat_eq_append, List.nodup_concat]
      refine ⟨fun member => ?_, told.distinct _⟩
      obtain ⟨earlier, made, rfl⟩ := List.mem_map.1 member
      exact fresh earlier made List.mem_cons_self
    · rw [old same]
      exact told.distinct place
  case running =>
    intro later started
    obtain rfl := Option.some.inj started
    refine ⟨next, rest, fun offer member => ?_⟩
    rw [new] at member
    rcases List.mem_append.1 member with earlier | last
    · exact fun ahead => fresh offer earlier (List.mem_cons_of_mem ref ahead)
    · obtain rfl := List.mem_singleton.1 last
      exact absent

/-- An offer of another source changes nothing. -/
theorem offer_of_other {offer : Offer} (told : Told offers n source) (other : offer.source ≠ n) :
    Told (offers ++ [offer]) n source := by
  have same (place : Nat) : Offer.series (offers ++ [offer]) n place =
      Offer.series offers n place :=
    Offer.series_append_of_other fun own => other own.1
  have earlier {one : Offer} (member : one ∈ offers ++ [offer]) (own : one.source = n) :
      one ∈ offers := by
    rcases List.mem_append.1 member with before | last
    · exact before
    · exact absurd (List.mem_singleton.1 last ▸ own) other
  refine ⟨?_, ?_, ?_, ?_, ?_⟩
  · exact fun one member own => told.begun one (earlier member own) own
  · exact fun one member own => told.placed one (earlier member own) own
  · simpa only [same] using told.counted
  · simpa only [same] using told.distinct
  · simpa only [same] using told.running

/-- A source is told of a fan-out when it is over what it was told all along. -/
theorem finish (told : Told offers n source) (running : source.running = some fanOut) :
    Told offers n
      { source with running := none, reports := source.reports ++ [fanOut.report] } := by
  have same : Source.told
      { source with running := none, reports := source.reports ++ [fanOut.report] } =
        source.told := by
    rw [told_of_running running, told_of_waiting rfl]
  refine ⟨?_, told.placed, ?_, told.distinct, fun _ started => nomatch started⟩
  · rw [same]
    exact told.begun
  · rw [same]
    exact told.counted

end Told

end Source

/-! ### What was read -/

/-- The payloads of the reads from one queue. -/
def readsOf (reads : List (ConnRef × Payload)) (ref : ConnRef) : List Payload :=
  (reads.filter fun entry => entry.1 = ref).map Prod.snd

theorem readsOf_append (one two : List (ConnRef × Payload)) (ref : ConnRef) :
    readsOf (one ++ two) ref = readsOf one ref ++ readsOf two ref := by
  rw [readsOf, List.filter_append, List.map_append]
  rfl

/-- What arrived at a queue was read or waits, in this order. What waited when the queue was dropped
is lost. -/
def Balanced (arrived read : List Payload) : Option (Option (List Payload)) → Prop
  | none => arrived = [] ∧ read = []
  | some none => read <+: arrived
  | some (some waits) => read ++ waits = arrived

/-- Whatever happens to the queues but for offers, their accounts stay balanced. -/
theorem Balanced.turnover {before after : ConnRef → Option (Option (List Payload))}
    {read reads : List (ConnRef × Payload)} {arrived : List Payload} {place : ConnRef}
    (balanced : Balanced arrived (readsOf reads place) (before place))
    (turnover : BusyTopic.Turnover before after read) :
    Balanced arrived (readsOf (reads ++ read) place) (after place) := by
  rw [readsOf_append]
  have unread (others : List Payload) : others ++ readsOf [] place = others := List.append_nil _
  cases turnover with
  | stay kept =>
      rw [kept place, unread]
      exact balanced
  | arrive ref new empty others =>
      rw [unread]
      by_cases same : ref = place
      · subst same
        rw [new] at balanced
        rw [empty, balanced.1, balanced.2]
        rfl
      · rw [others place same]
        exact balanced
  | drop ref known gone others =>
      rw [unread]
      by_cases same : ref = place
      · subst same
        rw [gone]
        cases waited : before ref with
        | none => exact absurd waited known
        | some waits =>
            rw [waited] at balanced
            cases waits with
            | none => exact balanced
            | some waits => exact ⟨waits, balanced⟩
      · rw [others place same]
        exact balanced
  | read ref payload waits waited left others =>
      by_cases same : ref = place
      · subst same
        have taken : readsOf [(ref, payload)] ref = [payload] := by simp [readsOf]
        rw [waited] at balanced
        rw [left, taken, Balanced, List.append_assoc]
        exact balanced
      · have elsewhere : readsOf [(ref, payload)] place = [] := by simp [readsOf, same]
        rw [others place same, elsewhere, List.append_nil]
        exact balanced

namespace PushedTopic

variable {pushed next : PushedTopic} {n : Nat} {source later : Source} {ref : ConnRef}

/-- The offers of the fan-out of one payload of a source. -/
def series (pushed : PushedTopic) (n place : Nat) : List Offer :=
  Offer.series pushed.offers n place

/-- The offers that a connection has queued. -/
def arrivalsAt (pushed : PushedTopic) (ref : ConnRef) : List Offer :=
  Offer.arrivals pushed.offers ref

/-- The payloads that were read from the queue of a connection. -/
def readFrom (pushed : PushedTopic) (ref : ConnRef) : List Payload := readsOf pushed.reads ref

/-- All that was offered and read is written down as it happened. -/
structure Traced (pushed : PushedTopic) : Prop where
  enrolled : pushed.busy.Enrolled
  told : ∀ (n : Nat) (source : Source), pushed.sources[n]? = some source →
    source.Told pushed.offers n
  known : ∀ offer ∈ pushed.offers, offer.source < pushed.sources.length
  ordered : pushed.offers.Pairwise fun one two =>
    one.source = two.source → one.ref = two.ref → one.place < two.place
  balanced : ∀ ref, Balanced ((pushed.arrivalsAt ref).map Offer.payload) (pushed.readFrom ref)
    (pushed.busy.waitsAt ref)

namespace Traced

theorem idle (config : TopicConfig) (relay : RelayConfig) :
    (PushedTopic.idle (.new config relay)).Traced where
  enrolled := .idle config relay
  told _ _ here := nomatch here
  known _ member := nomatch member
  ordered := .nil
  balanced _ := ⟨rfl, rfl⟩

/-- One source moves on without an offer. -/
theorem of_source (traced : pushed.Traced) (told : later.Told pushed.offers n) :
    (pushed.setSource n later).Traced where
  enrolled := traced.enrolled
  told m source there := by
    by_cases same : n = m
    · subst same
      obtain ⟨within, _⟩ := List.getElem?_eq_some_iff.1 there
      rw [setSource, List.getElem?_set_self (by simpa [setSource] using within)] at there
      exact Option.some.inj there ▸ told
    · exact traced.told m source ((List.getElem?_set_ne same).symm.trans there)
  known offer member := by
    rw [setSource, List.length_set]
    exact traced.known offer member
  ordered := traced.ordered
  balanced := traced.balanced

theorem join (traced : pushed.Traced) (channel : Channel) (chunks : List Payload) :
    Traced { pushed with sources := pushed.sources ++ [⟨channel, chunks, none, []⟩] } where
  enrolled := traced.enrolled
  told m source there := by
    rcases getElem?_concat_cases there with before | ⟨rfl, rfl⟩
    · exact traced.told m source before
    · exact .new (fun offer member => Nat.ne_of_lt (traced.known offer member)) channel chunks
  known offer member := by
    rw [List.length_append]
    exact Nat.lt_succ_of_lt (traced.known offer member)
  ordered := traced.ordered
  balanced := traced.balanced

/-- An offer comes after all offers of earlier fan-outs of its source, and it is the first one of
its own fan-out to this connection. -/
theorem ordered_append (traced : pushed.Traced) (here : pushed.sources[n]? = some source)
    {fanOut : FanOut} (running : source.running = some fanOut)
    (facing : fanOut.facing = some ref) (outcome : SendOutcome) :
    (pushed.offers ++ [⟨n, source.reports.length, ref, fanOut.payload, outcome⟩] :
        List Offer).Pairwise
      fun one two => one.source = two.source → one.ref = two.ref → one.place < two.place := by
  have told := traced.told n source here
  refine List.pairwise_append.2 ⟨traced.ordered, List.pairwise_singleton _ _, ?_⟩
  intro one earlier two last own toward
  obtain rfl := List.mem_singleton.1 last
  have begun := told.begun one earlier own
  rw [Source.told_of_running running, List.length_append] at begun
  refine Nat.lt_of_le_of_ne (Nat.le_of_lt_succ begun) fun place => ?_
  obtain ⟨_, _, fresh⟩ := told.running fanOut running
  refine fresh one (Offer.mem_series.2 ⟨earlier, own, place⟩) ?_
  rw [FanOut.due, facing]
  exact toward ▸ List.mem_cons_self

theorem balanced_offer (traced : pushed.Traced) (payload : Payload) (place : Nat)
    (other : ConnRef) :
    Balanced
      ((Offer.arrivals (pushed.offers ++
        [⟨n, place, ref, payload, pushed.answer ref payload⟩]) other).map Offer.payload)
      (pushed.readFrom other)
      ((pushed.busy.step (.touch ref (.offer payload))).waitsAt other) := by
  have before := traced.balanced other
  obtain ⟨others, self⟩ := pushed.busy.waitsAt_offer ref payload
  by_cases same : ref = other
  · subst same
    by_cases queued : (pushed.busy.connections.act ref (·.trySend payload)).1 = some .queued
    · rw [if_pos queued] at self
      obtain ⟨waits, waited, waiting⟩ := self
      have answer : pushed.answer ref payload = .queued := by
        rw [answer, queued]
        rfl
      rw [waited] at before
      rw [waiting, Offer.arrivals_append_of_queued rfl answer, List.map_append]
      change pushed.readFrom ref ++ (waits ++ [payload]) = _
      rw [← List.append_assoc]
      exact congrArg (· ++ [payload]) before
    · rw [if_neg queued] at self
      rw [self, Offer.arrivals_append_of_other]
      · exact before
      · rintro ⟨_, answered⟩
        refine queued ?_
        dsimp only [answer] at answered
        cases found : (pushed.busy.connections.act ref (·.trySend payload)).1 with
        | none =>
            rw [found] at answered
            cases answered
        | some outcome =>
            rw [found] at answered
            exact congrArg some answered
  · rw [others other same, Offer.arrivals_append_of_other fun toward => same toward.1]
    exact before

theorem offer (traced : pushed.Traced) (here : pushed.sources[n]? = some source)
    {fanOut : FanOut} (running : source.running = some fanOut)
    (facing : fanOut.facing = some ref) :
    Traced { pushed.setSource n { source with
        running := some { fanOut with
          facing := none, report := fanOut.report.add (pushed.answer ref fanOut.payload) } } with
      busy := pushed.busy.step (.touch ref (.offer fanOut.payload))
      offers := pushed.offers ++ [⟨n, source.reports.length, ref, fanOut.payload,
        pushed.answer ref fanOut.payload⟩] } := by
  have within : n < pushed.sources.length := (List.getElem?_eq_some_iff.1 here).1
  constructor
  case enrolled => exact traced.enrolled.step (.touch ref (.offer fanOut.payload))
  case told =>
    intro m other there
    by_cases same : n = m
    · subst same
      obtain rfl := Option.some.inj ((List.getElem?_set_self within).symm.trans there)
      exact (traced.told n source here).offer running facing _
    · refine (traced.told m other ?_).offer_of_other same
      exact (List.getElem?_set_ne same).symm.trans there
  case known =>
    intro offer member
    rw [setSource, List.length_set]
    rcases List.mem_append.1 member with earlier | last
    · exact traced.known offer earlier
    · obtain rfl := List.mem_singleton.1 last
      exact within
  case ordered => exact traced.ordered_append here running facing _
  case balanced => exact traced.balanced_offer fanOut.payload source.reports.length

/-- What happens beside the fan-outs keeps the account of every queue. -/
theorem other (traced : pushed.Traced) {move : BusyTopic.Move}
    (foreign : move.isForeign = true) :
    Traced { pushed with
      busy := pushed.busy.step move
      reads := pushed.reads ++ pushed.busy.readBy move } where
  enrolled := traced.enrolled.step move
  told := traced.told
  known := traced.known
  ordered := traced.ordered
  balanced place := (traced.balanced place).turnover (pushed.busy.turnover_step foreign)

/-- Every move keeps everything written down. -/
theorem step (traced : pushed.Traced) (move : Move) : (pushed.step move).Traced := by
  have steps := steps_step pushed move
  generalize pushed.step move = next at steps
  cases steps with
  | stay => exact traced
  | join channel chunks => exact traced.join channel chunks
  | begin here waits next members =>
      have distinct := (members.nodup_iff).2 (traced.enrolled.nodup_membersOf _)
      exact traced.of_source ((traced.told _ _ here).begin waits next distinct)
  | look here running free ahead faced =>
      exact traced.of_source ((traced.told _ _ here).look running free ahead faced)
  | offer here running facing answered =>
      subst answered
      exact traced.offer here running facing
  | @finish n source fanOut here running free spent =>
      obtain ⟨enrolled, told, known, ordered, balanced⟩ :=
        traced.of_source ((traced.told n source here).finish running)
      have counted := enrolled.step
        (.countRelayed fanOut.payload.length fanOut.report.delivered fanOut.report.dropped)
      exact ⟨counted, told, known, ordered, balanced⟩
  | other foreign => exact traced.other foreign

theorem run (traced : pushed.Traced) (moves : List Move) : (pushed.run moves).Traced := by
  induction moves generalizing pushed with
  | nil => exact traced
  | cons move others ih => exact ih (traced.step move)

/-! ### What a subscriber gets -/

/-- What arrived at a queue is what was read from it and what waits in it. -/
theorem arrived_eq (traced : pushed.Traced) {conn : Connection}
    (here : pushed.busy.connections[ref]? = some conn) :
    pushed.readFrom ref <+: (pushed.arrivalsAt ref).map Offer.payload ∧
      ∀ waits, conn.outbound? = some waits →
        pushed.readFrom ref ++ waits = (pushed.arrivalsAt ref).map Offer.payload := by
  have balanced := traced.balanced ref
  have waited : pushed.busy.waitsAt ref = some conn.outbound? := by
    rw [BusyTopic.waitsAt, here]
    rfl
  rw [waited] at balanced
  cases present : conn.outbound? with
  | none =>
      rw [present] at balanced
      refine ⟨balanced, fun _ there => ?_⟩
      cases there
  | some waits =>
      rw [present] at balanced
      refine ⟨⟨waits, balanced⟩, fun others there => ?_⟩
      obtain rfl := Option.some.inj there
      exact balanced

/-- What arrives from one source arrives in its order. -/
theorem rising (traced : pushed.Traced) (ref : ConnRef) (n : Nat) :
    ((pushed.arrivalsAt ref).filter fun offer => offer.source = n).Pairwise
      fun one two => one.place < two.place := by
  have ordered := (traced.ordered.sublist List.filter_sublist :
    ((pushed.arrivalsAt ref).Pairwise _)).filter fun offer => decide (offer.source = n)
  refine ordered.imp_of_mem fun {one two} first second apart => ?_
  obtain ⟨arrived, own⟩ := List.mem_filter.1 first
  obtain ⟨later, same⟩ := List.mem_filter.1 second
  have toward := (Offer.mem_arrivals.1 arrived).2.1
  have again := (Offer.mem_arrivals.1 later).2.1
  exact apart ((of_decide_eq_true own).trans (of_decide_eq_true same).symm)
    (toward.trans again.symm)

end Traced

/-- However the offers of the fan-outs of several sources mix with each other, with reading, with
calls that attach and detach connections and with everything else that is done to them: what was
read from a queue and what waits in it are together what arrived there, in this order; what arrived
there from one source is a subsequence of the payloads of that source, each at its own place and
none twice; and every fan-out counts, at every moment, as many outcomes as it made offers, which
were to different connections, and as many delivered payloads as there are queues that its payload
entered. -/
theorem source_order_kept (config : TopicConfig) (relay : RelayConfig) (moves : List Move) :
    let pushed := (idle (.new config relay)).run moves
    (∀ (ref : ConnRef) (conn : Connection), pushed.busy.connections[ref]? = some conn →
      pushed.readFrom ref <+: (pushed.arrivalsAt ref).map Offer.payload ∧
      ∀ waits, conn.outbound? = some waits →
        pushed.readFrom ref ++ waits = (pushed.arrivalsAt ref).map Offer.payload) ∧
    (∀ (n : Nat) (source : Source), pushed.sources[n]? = some source →
      (∀ ref : ConnRef,
        let arrived := (pushed.arrivalsAt ref).filter fun offer => offer.source = n
        (arrived.map Offer.payload).Sublist source.chunks ∧
        arrived.Pairwise (fun one two => one.place < two.place) ∧
        ∀ offer ∈ arrived, source.chunks[offer.place]? = some offer.payload) ∧
      ∀ (place : Nat) (report : FanOutReport), source.told[place]? = some report →
        ((pushed.series n place).map Offer.ref).Nodup ∧
        report.delivered + report.dropped + report.skipped = (pushed.series n place).length ∧
        report.delivered =
          (pushed.series n place).countP fun offer => offer.outcome = .queued) := by
  intro pushed
  have traced : pushed.Traced := (Traced.idle config relay).run moves
  refine ⟨fun ref conn here => traced.arrived_eq here, fun n source here => ⟨?_, ?_⟩⟩
  · intro ref arrived
    have placed : ∀ offer ∈ arrived, source.chunks[offer.place]? = some offer.payload := by
      intro offer member
      obtain ⟨arrival, own⟩ := List.mem_filter.1 member
      exact (traced.told n source here).placed offer (Offer.mem_arrivals.1 arrival).1
        (of_decide_eq_true own)
    have rising := traced.rising ref n
    exact ⟨Offer.payloads_sublist placed rising, rising, placed⟩
  · intro place report reported
    have told := traced.told n source here
    obtain rfl := told.counted place report reported
    obtain ⟨total, delivered⟩ := FanOutReport.counts_ofOffers (pushed.series n place)
    exact ⟨told.distinct place, total, delivered⟩

/-- Two subscribers, and two sources whose fan-outs go through them in opposite orders: the first
payload of each source arrives before that of the other at one of the subscribers. Then one
subscriber reads, the other one is terminated after a fan-out found it open, and the fan-out after
that passes it. -/
def crossing : List Move :=
  let attached : List Move := [.other (.attach default (some "a")), .other (.attachStep 0),
    .other (.attachStep 0), .other (.attachStep 0), .other (.attachStep 0),
    .other (.attach default (some "a")), .other (.attachStep 1), .other (.attachStep 1),
    .other (.attachStep 1), .other (.attachStep 1)]
  attached ++ [.join "a" [[1], [2], [3]], .join "a" [[8]], .begin 0 [0, 1], .begin 1 [1, 0],
    .look 0, .look 1, .offer 0, .offer 1, .look 0, .look 1, .offer 0, .offer 1, .finish 0,
    .begin 0 [1, 0], .look 0, .other (.touch 1 .terminate), .offer 0, .other (.touch 0 .receive),
    .look 0, .offer 0, .finish 0, .begin 0 [0, 1], .look 0, .offer 0]

theorem source_order_kept_of_crossing :
    let topic : TopicConfig := ⟨"one", default, .ofList ["a"], []⟩
    let pushed := (idle (.new topic .twoTopics)).run crossing
    (pushed.arrivalsAt 0).map Offer.payload = [[1], [8], [2]] ∧
      (pushed.arrivalsAt 1).map Offer.payload = [[8], [1]] ∧
      pushed.sources.map Source.told = [[⟨2, 0, 0⟩, ⟨1, 0, 1⟩, ⟨0, 1, 0⟩], [⟨2, 0, 0⟩]] ∧
      (∃ conn waits, pushed.busy.connections[0]? = some conn ∧ conn.outbound? = some waits ∧
        waits = [[8], [2]] ∧
        pushed.readFrom 0 ++ waits = (pushed.arrivalsAt 0).map Offer.payload) ∧
      ∃ source, pushed.sources[0]? = some source ∧
        (((pushed.arrivalsAt 0).filter fun offer => offer.source = 0).map Offer.payload).Sublist
          source.chunks := by
  intro topic pushed
  obtain ⟨accounts, sources⟩ := source_order_kept topic .twoTopics crossing
  refine ⟨by decide +kernel, by decide +kernel, by decide +kernel, ?_, ?_⟩
  · have waits : (pushed.busy.connections[0]?.bind Connection.outbound?) = some [[8], [2]] := by
      decide +kernel
    obtain ⟨conn, here, waiting⟩ := Option.bind_eq_some_iff.1 waits
    exact ⟨conn, _, here, waiting, rfl, (accounts 0 conn here).2 _ waiting⟩
  · have present : pushed.sources[0]?.isSome = true := by decide +kernel
    obtain ⟨source, here⟩ := Option.isSome_iff_exists.1 present
    exact ⟨source, here, ((sources 0 source here).1 0).1⟩

end PushedTopic

end LiveRelay
