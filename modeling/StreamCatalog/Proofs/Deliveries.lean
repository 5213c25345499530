import StreamCatalog.Hash.Text
import StreamCatalog.Proofs.Gains

namespace StreamCatalog

/-- An event that a client has taken, with the handle of the writer that brought it, if any. -/
structure Delivery where
  client : Nat
  incarnation : Incarnation
  position : Position
  event : Payload
  writer? : Option Nat

def Entry.delivery? (entry : Entry) : Option Delivery :=
  match entry.call, entry.reply with
  | .append client incarnation segment event, .appended offset =>
    some ⟨client, incarnation, ⟨segment, offset⟩, event, none⟩
  | .write handle _ event, .written (.ok position) =>
    entry.before.path.writers[handle]?.map fun writing =>
      ⟨writing.client, writing.writer.incarnation, position, event, some handle⟩
  | _, _ => none

theorem Entry.delivery?_of_silent {entry : Entry} (silent : entry.reply.Silent) :
    entry.delivery? = none := by
  unfold delivery?
  split
  · rename_i appended
    rw [appended] at silent
    exact silent.elim
  · rename_i written
    rw [written] at silent
    exact silent.elim
  · rfl

/-- Whether the events of the clients are those from before and one more, as the delivery says. -/
structure Delivery.Made (delivery : Delivery) (catalog later : Catalog) : Prop where
  offset : delivery.position.offset = ((catalog.path.events delivery.client).read
    delivery.incarnation delivery.position.segment).size
  gains : catalog.path.Gains later.path delivery.client delivery.incarnation
    delivery.position.segment delivery.event

/-- A call delivers nothing and leaves the events alone, or makes one delivery. -/
theorem Step.delivery {hash : String → UInt64} {catalog later : Catalog} {call : Call}
    {reply : Reply} (step : Step hash catalog call reply later) :
    (Entry.delivery? ⟨catalog, call, reply⟩ = none ∧
      ∀ client, later.path.events client = catalog.path.events client) ∨
    ∃ delivery, Entry.delivery? ⟨catalog, call, reply⟩ = some delivery ∧
      delivery.Made catalog later := by
  cases step with
  | operated attempt => exact .inl ⟨rfl, fun client => rfl⟩
  | opened found active => exact .inl ⟨rfl, fun client => rfl⟩
  | @wrote handle routingKey event writing record placed known found active same put =>
    have puts := Writer.puts_of_refreshed put
    have told : Entry.delivery? ⟨catalog, .write handle routingKey event, .written (.ok placed.1)⟩ =
        some ⟨writing.client, writing.writer.incarnation, placed.1, event, some handle⟩ := by
      simp only [Entry.delivery?, known]
      rfl
    exact .inr ⟨_, told, puts.offset, puts.gains handle⟩
  | @appended client incarnation segment event =>
    refine .inr ⟨_, rfl, rfl, .of_append fun other => ?_⟩
    rw [DataPath.events_setEvents]
    split
    · rename_i here
      rw [here]
    · rfl
  | idle silent => exact .inl ⟨Entry.delivery?_of_silent silent, fun client => rfl⟩

def deliveries (past : List Entry) : List Delivery := past.reverse.filterMap Entry.delivery?

theorem deliveries_cons (entry : Entry) (past : List Entry) :
    deliveries (entry :: past) = deliveries past ++ entry.delivery?.toList := by
  unfold deliveries
  rw [List.reverse_cons, List.filterMap_append]
  cases told : entry.delivery? <;> simp [told]

namespace Delivery

def To (client : Nat) (incarnation : Incarnation) (delivery : Delivery) : Prop :=
  delivery.client = client ∧ delivery.incarnation = incarnation

instance (client : Nat) (incarnation : Incarnation) : DecidablePred (To client incarnation) :=
  fun delivery => inferInstanceAs
    (Decidable (delivery.client = client ∧ delivery.incarnation = incarnation))

end Delivery

/-- What was delivered to a client's events of an incarnation, in the order of the calls. -/
def deliveriesTo (client : Nat) (incarnation : Incarnation) (past : List Entry) : List Delivery :=
  (deliveries past).filter (·.To client incarnation)

def deliveriesInto (client : Nat) (incarnation : Incarnation) (segment : Nat)
    (past : List Entry) : List Delivery :=
  (deliveriesTo client incarnation past).filter (·.position.segment = segment)

section Filters

variable {client : Nat} {incarnation : Incarnation} {entry : Entry} (past : List Entry)

theorem deliveriesTo_cons : deliveriesTo client incarnation (entry :: past) =
    deliveriesTo client incarnation past ++
      entry.delivery?.toList.filter (·.To client incarnation) := by
  rw [deliveriesTo, deliveries_cons, List.filter_append]
  rfl

theorem deliveriesInto_cons {segment : Nat} :
    deliveriesInto client incarnation segment (entry :: past) =
      deliveriesInto client incarnation segment past ++
        (entry.delivery?.toList.filter (·.To client incarnation)).filter
          (·.position.segment = segment) := by
  rw [deliveriesInto, deliveriesTo_cons, List.filter_append]
  rfl

end Filters

/-- Whether a segment holds what was delivered to it, each event where its caller was told. -/
structure Kept (delivered : List Delivery) (events : Array Payload) : Prop where
  payloads : events.toList = delivered.map (·.event)
  offsets : delivered.map (·.position.offset) = List.range delivered.length

namespace Kept

variable {delivered : List Delivery} {events : Array Payload} {delivery : Delivery}

theorem size (kept : Kept delivered events) : events.size = delivered.length := by
  rw [← Array.length_toList, kept.payloads, List.length_map]

theorem push (kept : Kept delivered events) (offset : delivery.position.offset = events.size) :
    Kept (delivered ++ [delivery]) (events.push delivery.event) := by
  constructor
  · rw [Array.toList_push, kept.payloads, List.map_append]
    rfl
  · rw [List.map_append, kept.offsets, List.length_append, List.length_singleton, List.range_succ,
      ← kept.size, ← offset]
    rfl

theorem getElem? (kept : Kept delivered events) (member : delivery ∈ delivered) :
    events[delivery.position.offset]? = some delivery.event := by
  obtain ⟨place, inside, same⟩ := List.getElem_of_mem member
  have offset : delivery.position.offset = place := by
    have told := congrArg (·[place]?) kept.offsets
    simpa [inside, same] using told
  rw [offset, ← Array.getElem?_toList, kept.payloads]
  simp [inside, same]

end Kept

namespace Delivery.Made

variable {delivery : Delivery} {catalog later : Catalog} (made : delivery.Made catalog later)

include made

theorem read (client : Nat) (incarnation : Incarnation) (segment : Nat) :
    (later.path.events client).read incarnation segment =
      if delivery.To client incarnation ∧ delivery.position.segment = segment then
        ((catalog.path.events client).read incarnation segment).push delivery.event
      else (catalog.path.events client).read incarnation segment := by
  rw [made.gains.read]
  simp only [To, and_assoc]

theorem segments {incarnation : Incarnation} (elsewhere : delivery.incarnation ≠ incarnation)
    (client : Nat) : (later.path.events client).segments incarnation =
      (catalog.path.events client).segments incarnation :=
  made.gains.elsewhere client incarnation fun same => elsewhere same.2

end Delivery.Made

namespace DataPath

def writersOn (path : DataPath) (client : Nat) (incarnation : Incarnation) : List OpenWriter :=
  path.writers.toList.filter fun opened =>
    opened.client = client ∧ opened.writer.incarnation = incarnation

def eventsWrittenOn (path : DataPath) (client : Nat) (incarnation : Incarnation) : Nat :=
  ((path.writersOn client incarnation).map (·.writer.eventsWritten)).sum

theorem eventsWrittenOn_addWriter (path : DataPath) {opened : OpenWriter}
    (unused : opened.writer.eventsWritten = 0) (client : Nat) (incarnation : Incarnation) :
    (path.addWriter opened).eventsWrittenOn client incarnation =
      path.eventsWrittenOn client incarnation := by
  by_cases listed : opened.client = client ∧ opened.writer.incarnation = incarnation <;>
    simp [eventsWrittenOn, writersOn, addWriter, List.filter_append, listed, unused]

theorem sum_set {listed : List OpenWriter} {handle : Nat} {before : OpenWriter}
    (found : listed[handle]? = some before) (after : OpenWriter) (looked : OpenWriter → Bool)
    (same : looked after = looked before)
    (counted : after.writer.eventsWritten = before.writer.eventsWritten + 1) :
    (((listed.set handle after).filter looked).map (·.writer.eventsWritten)).sum =
      ((listed.filter looked).map (·.writer.eventsWritten)).sum +
        if looked before then 1 else 0 := by
  induction listed generalizing handle with
  | nil => cases found
  | cons first rest ih =>
    cases handle with
    | zero =>
      cases found
      by_cases seen : looked before = true
      · simp [same, seen, counted]
        omega
      · simp [same, seen]
    | succ handle =>
      have others := ih found
      by_cases seen : looked first = true
      · simp [seen, others]
        omega
      · simp [seen, others]

theorem eventsWrittenOn_keepWrite {path : DataPath} {handle : Nat} {writing : OpenWriter}
    (known : path.writers[handle]? = some writing) {event : Payload}
    {placed : Position × Writer × EventStore}
    (puts : writing.writer.Puts (path.events writing.client) event placed) (client : Nat)
    (incarnation : Incarnation) :
    (path.keepWrite handle writing.client placed).eventsWrittenOn client incarnation =
      path.eventsWrittenOn client incarnation +
        if writing.client = client ∧ writing.writer.incarnation = incarnation then 1 else 0 := by
  have found : path.writers.toList[handle]? = some writing := by
    rw [Array.getElem?_toList, known]
  have counted := sum_set found ⟨writing.client, placed.2.1⟩
    (fun opened => opened.client = client ∧ opened.writer.incarnation = incarnation)
    (by simp [puts.incarnation]) puts.counted
  simpa [eventsWrittenOn, writersOn, keepWrite, setEvents] using counted

end DataPath

theorem Step.eventsWrittenOn {hash : String → UInt64} {catalog later : Catalog} {call : Call}
    {reply : Reply} (step : Step hash catalog call reply later) (client : Nat)
    (incarnation : Incarnation) :
    later.path.eventsWrittenOn client incarnation =
      catalog.path.eventsWrittenOn client incarnation +
        ((Entry.delivery? ⟨catalog, call, reply⟩).toList.filter
          (·.To client incarnation)).countP (·.writer?.isSome) := by
  cases step with
  | operated attempt => rfl
  | opened found active => exact catalog.path.eventsWrittenOn_addWriter rfl client incarnation
  | @wrote handle routingKey event writing record placed known found active same put =>
    have puts := Writer.puts_of_refreshed put
    rw [DataPath.eventsWrittenOn_keepWrite known puts]
    by_cases here : writing.client = client ∧ writing.writer.incarnation = incarnation <;>
      simp [Entry.delivery?, known, Delivery.To, here]
  | @appended other target segment event =>
    have uncounted : ((Entry.delivery? ⟨catalog, .append other target segment event,
        .appended ((catalog.path.events other).append target segment event).1⟩).toList.filter
          (·.To client incarnation)).countP (·.writer?.isSome) = 0 := by
      rw [List.countP_eq_zero]
      intro delivery member
      cases List.mem_singleton.mp (List.mem_filter.mp member).1
      simp
    rw [uncounted]
    rfl
  | idle silent =>
    rw [Entry.delivery?_of_silent silent]
    rfl

namespace Course

variable {hash : String → UInt64} {start catalog : Catalog} {past : List Entry}

theorem kept (course : Course hash .empty past catalog) (client : Nat) (incarnation : Incarnation)
    (segment : Nat) : Kept (deliveriesInto client incarnation segment past)
      ((catalog.path.events client).read incarnation segment) := by
  refine course.outlives .empty (fun past catalog =>
    Kept (deliveriesInto client incarnation segment past)
      ((catalog.path.events client).read incarnation segment)) ?_ ?_
  · have none : (Catalog.empty.path.events client).read incarnation segment = #[] := by
      simp [Catalog.empty, DataPath.empty, DataPath.events]
    rw [none]
    exact ⟨rfl, rfl⟩
  · intro past catalog call reply later filed step kept
    rw [deliveriesInto_cons]
    rcases step.delivery with ⟨told, same⟩ | ⟨delivery, told, made⟩
    · rw [told, same]
      simpa using kept
    · rw [told, made.read]
      split
      · rename_i here
        obtain ⟨⟨rfl, rfl⟩, rfl⟩ := here
        simpa [Delivery.To] using kept.push made.offset
      · rename_i elsewhere
        have passed : ([delivery].filter (·.To client incarnation)).filter
            (·.position.segment = segment) = [] := by
          rw [List.filter_filter, List.filter_eq_nil_iff]
          intro other same
          cases List.mem_singleton.mp same
          simpa [and_comm] using elsewhere
        rw [Option.toList_some, passed, List.append_nil]
        exact kept

theorem compact (course : Course hash .empty past catalog) (client : Nat) :
    (catalog.path.events client).Compact := by
  refine course.outlives .empty (fun _ catalog => (catalog.path.events client).Compact) ?_ ?_
  · have none : Catalog.empty.path.events client = .empty := by
      simp [Catalog.empty, DataPath.empty, DataPath.events]
    rw [none]
    exact .empty
  · intro past catalog call reply later filed step compact
    rcases step.delivery with ⟨-, same⟩ | ⟨delivery, -, made⟩
    · rwa [same]
    · exact made.gains.compact client compact

theorem eventsWrittenOn (course : Course hash .empty past catalog) (client : Nat)
    (incarnation : Incarnation) : catalog.path.eventsWrittenOn client incarnation =
      (deliveriesTo client incarnation past).countP (·.writer?.isSome) := by
  refine course.outlives .empty (fun past catalog =>
    catalog.path.eventsWrittenOn client incarnation =
      (deliveriesTo client incarnation past).countP (·.writer?.isSome)) rfl ?_
  intro past catalog call reply later filed step counted
  rw [step.eventsWrittenOn, counted, deliveriesTo_cons, List.countP_append]

theorem count (course : Course hash .empty past catalog) (client : Nat)
    (incarnation : Incarnation) : (catalog.path.events client).count incarnation =
      (deliveriesTo client incarnation past).length := by
  have sizes (segment : Nat) : ((catalog.path.events client).read incarnation segment).size =
      ((deliveriesTo client incarnation past).map (·.position.segment)).count segment := by
    rw [(course.kept client incarnation segment).size, deliveriesInto,
      ← List.countP_eq_length_filter, List.count, List.countP_map]
    congr 1
  rw [EventStore.count_eq_length incarnation (course.compact client) _ sizes, List.length_map]

theorem delivered (course : Course hash .empty past catalog) {client : Nat}
    {incarnation : Incarnation} {delivery : Delivery}
    (member : delivery ∈ deliveriesTo client incarnation past) :
    ((catalog.path.events client).read incarnation delivery.position.segment)[
      delivery.position.offset]? = some delivery.event := by
  have kept := course.kept client incarnation delivery.position.segment
  exact kept.getElem? (List.mem_filter.mpr ⟨member, by simp⟩)

end Course

theorem mem_deliveriesTo_append {client : Nat} {incarnation : Incarnation} {past : List Entry}
    {delivery : Delivery} (member : delivery ∈ deliveriesTo client incarnation past)
    (more : List Entry) : delivery ∈ deliveriesTo client incarnation (more ++ past) := by
  induction more with
  | nil => exact member
  | cons entry more ih =>
    rw [List.cons_append, deliveriesTo_cons]
    exact List.mem_append_left _ ih

theorem Step.of_failed {hash : String → UInt64} {catalog later : Catalog} {call : Call}
    {failure : WriteError} (step : Step hash catalog call (.written (.error failure)) later) :
    later = catalog := by
  cases step with
  | idle silent => rfl

/-- In every course from the empty catalogue a client keeps exactly what was delivered to it: each
    segment holds its events in the order of the calls, each at the offset that was answered, and
    there it stays. The count and the list of used segments agree with that, the writers have
    counted what did not come directly, and a write that fails changes nothing. -/
theorem Course.events_are_deliveries {hash : String → UInt64} {past : List Entry}
    {catalog : Catalog} (course : Course hash .empty past catalog) (client : Nat)
    (incarnation : Incarnation) :
    (∀ segment,
      ((catalog.path.events client).read incarnation segment).toList =
        (deliveriesInto client incarnation segment past).map (·.event) ∧
      (deliveriesInto client incarnation segment past).map (·.position.offset) =
        List.range (deliveriesInto client incarnation segment past).length) ∧
    (∀ delivery ∈ deliveriesTo client incarnation past,
      ∀ more later, Course hash catalog more later →
        ((later.path.events client).read incarnation delivery.position.segment)[
          delivery.position.offset]? = some delivery.event) ∧
    (catalog.path.events client).count incarnation =
      (deliveriesTo client incarnation past).length ∧
    (catalog.path.events client).count incarnation =
      (deliveriesTo client incarnation past).countP (·.writer?.isNone) +
        ((catalog.path.writersOn client incarnation).map (·.writer.eventsWritten)).sum ∧
    ((catalog.path.events client).usedSegments incarnation).Pairwise (· < ·) ∧
    (∀ segment, segment ∈ (catalog.path.events client).usedSegments incarnation ↔
      (catalog.path.events client).read incarnation segment ≠ #[]) ∧
    (∀ handle routingKey event outages failure,
      (Turn.run hash ⟨.write handle routingKey event, outages⟩ catalog).1 =
        .written (.error failure) →
      (Turn.run hash ⟨.write handle routingKey event, outages⟩ catalog).2 = catalog) := by
  refine ⟨?_, ?_, course.count client incarnation, ?_,
    (catalog.path.events client).usedSegments_increasing incarnation,
    fun segment => EventStore.mem_usedSegments incarnation (course.compact client) segment, ?_⟩
  · intro segment
    have kept := course.kept client incarnation segment
    exact ⟨kept.payloads, kept.offsets⟩
  · intro delivery member more later rest
    exact (course.append rest).delivered (mem_deliveriesTo_append member more)
  · have written : ((catalog.path.writersOn client incarnation).map
        (·.writer.eventsWritten)).sum = _ := course.eventsWrittenOn client incarnation
    rw [course.count client incarnation, written,
      List.length_eq_countP_add_countP (·.writer?.isNone)]
    congr 2
    funext delivery
    cases delivery.writer? <;> rfl
  · intro handle routingKey event outages failure failed
    have step := Turn.step hash (course.filed .empty) ⟨.write handle routingKey event, outages⟩
    rw [failed] at step
    exact step.of_failed

def mixedCalls : List Turn :=
  [⟨.lifecycle {} (.createScope "s"), fun _ => none⟩,
    ⟨.lifecycle {} (.createStream ⟨"s", "a"⟩ (.fixed 2)), fun _ => none⟩,
    ⟨.openWriter 0 ⟨"s", "a"⟩, fun _ => none⟩, ⟨.write 0 "k" [1], fun _ => none⟩,
    ⟨.lifecycle {} (.updateStream ⟨"s", "a"⟩ (.fixed 3)), fun _ => none⟩,
    ⟨.append 0 ⟨⟨"s", "a"⟩, 0⟩ 2 [2], fun _ => none⟩, ⟨.write 0 "k" [3], fun _ => some "down"⟩,
    ⟨.write 0 "k" [4], fun _ => none⟩]

theorem Course.events_are_deliveries_mixed :
    ∃ past catalog, Course textHash .empty past catalog ∧
      ((catalog.path.events 0).read ⟨⟨"s", "a"⟩, 0⟩ 0).toList = [[1]] ∧
      ((catalog.path.events 0).read ⟨⟨"s", "a"⟩, 0⟩ 2).toList = [[2], [4]] ∧
      (catalog.path.events 0).count ⟨⟨"s", "a"⟩, 0⟩ = 1 + 2 := by
  have course : Course textHash .empty _ _ := Course.inOrder .start mixedCalls
  obtain ⟨segments, -, -, counted, -⟩ := events_are_deliveries course 0 ⟨⟨"s", "a"⟩, 0⟩
  refine ⟨_, _, course, (segments 0).1.trans ?_, (segments 2).1.trans ?_, counted.trans ?_⟩
  · rfl
  · rfl
  · rfl

end StreamCatalog
