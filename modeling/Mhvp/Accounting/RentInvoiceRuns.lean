import Mhvp.Accounting.RentInvoices

namespace Mhvp.Accounting.RentInvoices

open Core Lib Lib.Transition Lib.Locking

/-- The number of an invoice in its series. -/
def RentInvoice.numbered (invoice : RentInvoice) : NumberSeries × ℕ := (invoice.series, invoice.number)

/-- A credit note and its invoice: same parties, negated lines and totals. -/
structure CreditOf (note invoice : RentInvoiceContent) : Prop where
  kind : invoice.kind ≠ .creditNote
  contract : note.contractId = invoice.contractId
  entity : note.legalEntityId = invoice.legalEntityId
  lines : note.lines = invoice.lines.map InvoiceLine.negated
  net : note.netTotal = -invoice.netTotal
  vat : note.vatTotal = -invoice.vatTotal
  gross : note.grossTotal = -invoice.grossTotal

def itemIds (content : RentInvoiceContent) : List Receivables.ItemId :=
  content.lines.map InvoiceLine.receivableItemId

structure InvoicesSound (state : RentState) : Prop where
  numbers : Series.Consecutive (state.invoices.map RentInvoice.numbered) state.counters
  items : ∀ invoice ∈ state.invoices, (itemIds invoice.toRentInvoiceContent).Nodup
  credits : ∀ note ∈ state.invoices, note.kind = .creditNote → ∃ invoiceId invoice,
    note.cancelsInvoiceId = some invoiceId ∧ state.invoices[invoiceId]? = some invoice ∧
      invoice.status = .cancelled ∧ CreditOf note.toRentInvoiceContent invoice.toRentInvoiceContent

/-- What is kept for the keys so far: one row of the table for each key. -/
structure Chosen (items : List Receivables.RunItem)
    (chosen : List ((Calendar.Date × String × Receivables.ContractPaymentId) × (Receivables.ItemId × Receivables.RunItem))) :
    Prop where
  keys : (chosen.map Prod.fst).Nodup
  rows : ∀ entry ∈ chosen, items[entry.2.1]? = some entry.2.2 ∧ itemKey entry.2.2 = entry.1

theorem Chosen.alter (holds : Chosen items chosen)
    (found : items[row.1]? = some row.2) :
    Chosen items (Dictionary.alter (itemKey row.2) (preferPosted row) chosen) where
  keys := Dictionary.nodup_alter holds.keys
  rows := by
    intro entry member
    rcases Dictionary.mem_alter member with old | ⟨held, rfl, present⟩
    · exact holds.rows entry old
    · cases held with
      | none => exact ⟨found, rfl⟩
      | some current =>
        dsimp only [preferPosted]
        split
        · exact ⟨found, rfl⟩
        · exact holds.rows _ (present current rfl)

theorem Chosen.ids (holds : Chosen items chosen) :
    ((chosen.map Prod.snd).map Prod.fst).Nodup := by
  apply List.Nodup.of_map (fun id => (items[id]?).map itemKey)
  have keyed : ((chosen.map Prod.snd).map Prod.fst).map (fun id => (items[id]?).map itemKey) =
      (chosen.map Prod.fst).map some := by
    rw [List.map_map, List.map_map, List.map_map]
    apply List.map_congr_left
    intro entry member
    obtain ⟨found, isKey⟩ := holds.rows entry member
    simp only [Function.comp_apply, found, Option.map_some, isKey]
  rw [keyed]
  exact holds.keys.map (Option.some_injective _)

theorem chosenItems_chosen (items : List Receivables.RunItem) (contractId : ContractId)
    (periodStart periodEnd : Calendar.Date) :
    Chosen items (chosenItems items contractId periodStart periodEnd) := by
  have chosen (rows : List (Receivables.ItemId × Receivables.RunItem)) (start)
      (present : ∀ row ∈ rows, items[row.1]? = some row.2) (holds : Chosen items start) :
      Chosen items (rows.foldl (fun chosen row => Dictionary.alter (itemKey row.2) (preferPosted row) chosen) start) := by
    induction rows generalizing start with
    | nil => exact holds
    | cons row rest ih =>
      have this := holds.alter (present row List.mem_cons_self)
      exact ih _ (fun other isOther => present other (List.mem_cons_of_mem _ isOther)) this
  apply chosen
  · intro row member
    rw [List.mem_insertionSort] at member
    obtain ⟨entry, isEntry, rfl⟩ := List.mem_map.mp (List.mem_of_mem_filter member)
    exact List.mem_zipIdx_iff_getElem?.mp isEntry
  · exact ⟨List.nodup_nil, fun entry member => absurd member List.not_mem_nil⟩

theorem collectItems_ids (accepted : collectItems items contractId periodStart periodEnd = .ok collected) :
    (collected.map Prod.fst).Nodup := by
  simp only [collectItems, bind_ok, exists_unit, require_ok, pure_ok] at accepted
  obtain ⟨-, rfl⟩ := accepted
  have ids := (chosenItems_chosen items contractId periodStart periodEnd).ids
  have sorted := List.perm_insertionSort lineOrder ((chosenItems items contractId periodStart periodEnd).map Prod.snd)
  exact (sorted.map Prod.fst).nodup_iff.mpr ids

theorem issue_items {standing : Bool}
    (accepted : issue surroundings contractId periodStart periodEnd standing invoiceDate userId = .ok content) :
    (itemIds content).Nodup ∧ content.kind ≠ .creditNote := by
  simp only [issue, bind_ok, exists_unit, require_ok, orRefuse_ok, pure_ok] at accepted
  obtain ⟨contract, -, ⟨mode, draft⟩, -, -, -, entity, -, taxId, -, items, collected, -, -, rfl⟩ := accepted
  constructor
  · have ids := collectItems_ids collected
    simpa [itemIds, lineFromItem, Function.comp_def] using ids
  · dsimp only
    split
    · exact RentInvoiceKind.noConfusion
    · exact RentInvoiceKind.noConfusion

/-- What a request wrote: nothing but other services' data, a new invoice, or a credit note and its invoice. -/
inductive Written (state : RentState) : RentWork → RentState → Prop
  | issue (content : RentInvoiceContent) : Written state (.issue content) (state.withInvoice content)
  | creditNote (content : RentInvoiceContent) (invoiceId : InvoiceId) :
      Written state (.creditNote content invoiceId)
        { state.withInvoice content with
          invoices := (state.withInvoice content).invoices.modify invoiceId (·.cancelledBy state.invoices.length) }
  | otherServices (surroundings : Surroundings) :
      Written state (.otherServices surroundings) { state with surroundings }

theorem addInvoice_ok (added : addInvoice state content = .ok next) : next = state.withInvoice content := by
  simp only [addInvoice, bind_ok, exists_unit, require_ok, pure_ok] at added
  exact added.2.symm

theorem rentWrite_ok (writes : rentWrite state work = .ok next) :
    Written state work next := by
  cases work with
  | issue content =>
    rw [addInvoice_ok writes]
    exact .issue content
  | creditNote content invoiceId =>
    simp only [rentWrite, bind_ok, pure_ok] at writes
    obtain ⟨between, added, rfl⟩ := writes
    rw [addInvoice_ok added]
    exact .creditNote content invoiceId
  | otherServices surroundings =>
    cases writes
    exact .otherServices surroundings

/-- What stays of an invoice: its number and content, and that it is cancelled. -/
structure Stays (before after : RentInvoice) : Prop where
  content : after.toRentInvoiceContent = before.toRentInvoiceContent
  number : after.number = before.number
  cancelled : before.status = .cancelled → after.status = .cancelled

theorem Stays.refl (invoice : RentInvoice) : Stays invoice invoice := ⟨rfl, rfl, id⟩

theorem Stays.cancelledBy (invoice : RentInvoice) (noteId : InvoiceId) : Stays invoice (invoice.cancelledBy noteId) :=
  ⟨rfl, rfl, fun _ => rfl⟩

theorem Stays.trans (early : Stays first second) (late : Stays second third) : Stays first third where
  content := late.content.trans early.content
  number := late.number.trans early.number
  cancelled := late.cancelled ∘ early.cancelled

theorem Written.stays (written : Written state work next) : Table.Onward Stays state.invoices next.invoices := by
  cases written with
  | issue content => exact Table.Onward.append Stays.refl _ _
  | creditNote content invoiceId =>
    have added : Table.Onward Stays state.invoices (state.withInvoice content).invoices :=
      Table.Onward.append Stays.refl _ _
    have marked : Table.Onward Stays (state.withInvoice content).invoices
        ((state.withInvoice content).invoices.modify invoiceId (·.cancelledBy state.invoices.length)) :=
      Table.Onward.modify Stays.refl fun invoice _ => Stays.cancelledBy invoice state.invoices.length
    exact added.trans (fun _ _ _ => Stays.trans) marked
  | otherServices surroundings => exact Table.Onward.refl Stays.refl _

/-- What a pending request relies on when it writes. -/
inductive Ready (state : RentState) : RentWork → Prop
  | issue {content : RentInvoiceContent} (items : (itemIds content).Nodup) (kind : content.kind ≠ .creditNote) :
      Ready state (.issue content)
  | creditNote {content : RentInvoiceContent} {invoiceId : InvoiceId} (items : (itemIds content).Nodup)
      (cancels : content.cancelsInvoiceId = some invoiceId)
      (invoice : RentInvoice) (found : state.invoices[invoiceId]? = some invoice)
      (credit : CreditOf content invoice.toRentInvoiceContent) : Ready state (.creditNote content invoiceId)
  | otherServices (surroundings : Surroundings) : Ready state (.otherServices surroundings)

theorem creditNote_ok (accepted : creditNote state contractId invoiceId today userId = .ok content) :
    content.cancelsInvoiceId = some invoiceId ∧ ∃ invoice, state.invoices[invoiceId]? = some invoice ∧
      invoice.status ≠ .cancelled ∧ CreditOf content invoice.toRentInvoiceContent := by
  simp only [creditNote, bind_ok, exists_unit, require_ok, orRefuse_ok, pure_ok] at accepted
  obtain ⟨contract, -, invoice, found, ⟨mode, draft⟩, -, kind, status, rfl⟩ := accepted
  have isInvoice := Option.filter_eq_some_iff.mp found
  exact ⟨rfl, invoice, isInvoice.1, status, ⟨kind, rfl, rfl, rfl, rfl, rfl, rfl⟩⟩

theorem CreditOf.items (credit : CreditOf note invoice) : itemIds note = itemIds invoice := by
  rw [itemIds, itemIds, credit.lines, List.map_map]
  rfl

theorem read_ready {state : RentState} {request : RentRequest} {work : RentWork} (sound : InvoicesSound state)
    (reads : rentRead state request = .ok work) : Ready state work := by
  cases request with
  | issue contractId periodStart periodEnd standing invoiceDate userId =>
    simp only [rentRead, bind_ok, pure_ok] at reads
    obtain ⟨content, accepted, rfl⟩ := reads
    obtain ⟨items, kind⟩ := issue_items accepted
    exact .issue items kind
  | creditNote contractId invoiceId today userId =>
    simp only [rentRead, bind_ok, pure_ok] at reads
    obtain ⟨content, accepted, rfl⟩ := reads
    obtain ⟨cancels, invoice, found, -, credit⟩ := creditNote_ok accepted
    have items := sound.items invoice (List.mem_of_getElem? found)
    rw [← credit.items] at items
    exact .creditNote items cancels invoice found credit
  | otherServices surroundings =>
    cases reads
    exact .otherServices surroundings

theorem Ready.follows (ready : Ready state work) (stays : Table.Onward Stays state.invoices next.invoices) :
    Ready next work := by
  cases ready with
  | issue items kind => exact .issue items kind
  | creditNote items cancels invoice found credit =>
    obtain ⟨after, foundAfter, stays⟩ := stays _ invoice found
    rw [← stays.content] at credit
    exact .creditNote items cancels after foundAfter credit
  | otherServices surroundings => exact .otherServices surroundings

theorem numbers_withInvoice (sound : InvoicesSound state) (content : RentInvoiceContent) :
    Series.Consecutive ((state.withInvoice content).invoices.map RentInvoice.numbered)
      (state.withInvoice content).counters := by
  have drawn := sound.numbers.draw content.series
  rw [RentState.withInvoice, List.map_append]
  exact drawn

/-- An invoice after a request is one from before or the new one, perhaps cancelled since. -/
theorem Written.origin (written : Written state work next) (member : invoice ∈ next.invoices) :
    (∃ before ∈ state.invoices, Stays before invoice) ∨
      (∃ content, work = .issue content ∧ invoice.toRentInvoiceContent = content) ∨
      ∃ content invoiceId, work = .creditNote content invoiceId ∧ invoice.toRentInvoiceContent = content := by
  cases written with
  | issue content =>
    rcases List.mem_append.mp member with old | isNew
    · exact Or.inl ⟨invoice, old, Stays.refl invoice⟩
    · rw [List.mem_singleton.mp isNew]
      exact Or.inr (Or.inl ⟨content, rfl, rfl⟩)
  | creditNote content invoiceId =>
    have origin : ∃ before ∈ (state.withInvoice content).invoices, Stays before invoice := by
      rcases Table.mem_modify member with same | ⟨before, isBefore, rfl⟩
      · exact ⟨invoice, same, Stays.refl invoice⟩
      · exact ⟨before, isBefore, Stays.cancelledBy before _⟩
    obtain ⟨before, isBefore, stays⟩ := origin
    rcases List.mem_append.mp isBefore with old | isNew
    · exact Or.inl ⟨before, old, stays⟩
    · rw [List.mem_singleton.mp isNew] at stays
      exact Or.inr (Or.inr ⟨content, invoiceId, rfl, stays.content⟩)
  | otherServices surroundings => exact Or.inl ⟨invoice, member, Stays.refl invoice⟩

theorem Written.numbers (written : Written state work next) (sound : InvoicesSound state) :
    Series.Consecutive (next.invoices.map RentInvoice.numbered) next.counters := by
  cases written with
  | issue content => exact numbers_withInvoice sound content
  | creditNote content invoiceId =>
    have same : ((state.withInvoice content).invoices.modify invoiceId (·.cancelledBy state.invoices.length)).map
        RentInvoice.numbered = (state.withInvoice content).invoices.map RentInvoice.numbered :=
      Table.map_modify_same fun invoice => rfl
    have drawn := numbers_withInvoice sound content
    rw [← same] at drawn
    exact drawn
  | otherServices surroundings => exact sound.numbers

theorem Ready.items (ready : Ready state work) :
    (∀ content, work = .issue content → (itemIds content).Nodup ∧ content.kind ≠ .creditNote) ∧
      ∀ content invoiceId, work = .creditNote content invoiceId → (itemIds content).Nodup := by
  cases ready with
  | issue items kind =>
    refine ⟨fun content same => ?_, fun _ _ same => RentWork.noConfusion same⟩
    cases same
    exact ⟨items, kind⟩
  | creditNote items cancels invoice found credit =>
    refine ⟨fun _ same => RentWork.noConfusion same, fun content invoiceId same => ?_⟩
    cases same
    exact items
  | otherServices surroundings =>
    exact ⟨fun _ same => RentWork.noConfusion same, fun _ _ same => RentWork.noConfusion same⟩

theorem Written.cancels (written : Written state (.creditNote content invoiceId) next)
    (ready : Ready state (.creditNote content invoiceId)) :
    content.cancelsInvoiceId = some invoiceId ∧ ∃ invoice, next.invoices[invoiceId]? = some invoice ∧
      invoice.status = .cancelled ∧ CreditOf content invoice.toRentInvoiceContent := by
  cases ready with
  | creditNote items cancels invoice found credit =>
    cases written with
    | creditNote =>
      refine ⟨cancels, invoice.cancelledBy state.invoices.length, ?_, rfl, credit⟩
      have kept : (state.withInvoice content).invoices[invoiceId]? = some invoice := Table.found_append found
      simp [kept]

theorem Written.sound (written : Written state work next) (sound : InvoicesSound state) (ready : Ready state work) :
    InvoicesSound next where
  numbers := written.numbers sound
  items := by
    intro invoice member
    rcases written.origin member with ⟨before, isBefore, stays⟩ | ⟨content, rfl, same⟩ | ⟨content, invoiceId, rfl, same⟩
    · rw [stays.content]
      exact sound.items before isBefore
    · rw [same]
      exact (ready.items.1 content rfl).1
    · rw [same]
      exact ready.items.2 content invoiceId rfl
  credits := by
    intro note member isNote
    rcases written.origin member with ⟨before, isBefore, stays⟩ | ⟨content, rfl, same⟩ | ⟨content, invoiceId, rfl, same⟩
    · rw [stays.content] at isNote
      obtain ⟨invoiceId, invoice, cancels, found, cancelled, credit⟩ := sound.credits before isBefore isNote
      obtain ⟨after, foundAfter, staysInvoice⟩ := written.stays invoiceId invoice found
      rw [← stays.content, ← staysInvoice.content] at credit
      rw [← stays.content] at cancels
      exact ⟨invoiceId, after, cancels, foundAfter, staysInvoice.cancelled cancelled, credit⟩
    · rw [same] at isNote
      exact absurd isNote (ready.items.1 content rfl).2
    · obtain ⟨cancels, invoice, found, cancelled, credit⟩ := written.cancels ready
      rw [← same] at cancels credit
      exact ⟨invoiceId, invoice, cancels, found, cancelled, credit⟩

theorem InvoicesSound.fresh (surroundings : Surroundings) : InvoicesSound { surroundings } where
  numbers := Series.Consecutive.nil
  items := fun _ member => absurd member List.not_mem_nil
  credits := fun _ member => absurd member List.not_mem_nil

theorem interleaving_sound (surroundings : Surroundings) (moves : List (Move RentRequest)) :
    InvoicesSound (run rentProtocol.step ⟨{ surroundings }, []⟩ moves).state := by
  have start : Protocol.Holds InvoicesSound Ready rentProtocol.Free ⟨{ surroundings }, []⟩ :=
    Protocol.holds_initial (InvoicesSound.fresh surroundings)
  refine (Protocol.interleaving_invariant start ?_ ?_ ?_ moves).state
  · exact fun state request work sound reads => read_ready sound reads
  · exact fun state work next sound ready writes => (rentWrite_ok writes).sound sound ready
  · exact fun state work other next sound ready readyOther free writes => readyOther.follows (rentWrite_ok writes).stays

def CancelledOnce (state : RentState) : Prop :=
  ∀ (first second : InvoiceId) (note other : RentInvoice), state.invoices[first]? = some note →
    state.invoices[second]? = some other → note.kind = .creditNote → other.kind = .creditNote →
      note.cancelsInvoiceId = other.cancelsInvoiceId → first = second

def RentWork.cancels : RentWork → Option InvoiceId
  | .creditNote _ invoiceId => some invoiceId
  | _ => none

/-- No credit note of an invoice is requested while another one for it is pending. -/
def ApartCredits (config : Config RentState RentWork) : Move RentRequest → Prop
  | .start (.creditNote _ invoiceId _ _) => ∀ work ∈ config.pending, work.cancels ≠ some invoiceId
  | _ => True

def Apart (work other : RentWork) : Prop :=
  ∀ invoiceId, work.cancels = some invoiceId → other.cancels ≠ some invoiceId

structure OnceReady (state : RentState) (work : RentWork) : Prop where
  ready : Ready state work
  issued : ∀ invoiceId invoice, work.cancels = some invoiceId → state.invoices[invoiceId]? = some invoice →
    invoice.status ≠ .cancelled

theorem read_onceReady (sound : InvoicesSound state) (reads : rentRead state request = .ok work) :
    OnceReady state work := by
  refine ⟨read_ready sound reads, ?_⟩
  intro invoiceId invoice cancels found
  cases request with
  | creditNote contractId requested today userId =>
    simp only [rentRead, bind_ok, pure_ok] at reads
    obtain ⟨content, accepted, rfl⟩ := reads
    obtain rfl : requested = invoiceId := Option.some.inj cancels
    obtain ⟨-, held, foundHeld, issued, -⟩ := creditNote_ok accepted
    obtain rfl : held = invoice := Option.mem_unique foundHeld found
    exact issued
  | issue contractId periodStart periodEnd standing invoiceDate userId =>
    simp only [rentRead, bind_ok, pure_ok] at reads
    obtain ⟨content, -, rfl⟩ := reads
    cases cancels
  | otherServices surroundings =>
    cases reads
    cases cancels

theorem Written.issued (written : Written state work next) (other : work.cancels ≠ some invoiceId)
    (found : state.invoices[invoiceId]? = some invoice) : next.invoices[invoiceId]? = some invoice := by
  cases written with
  | issue content => exact Table.found_append found
  | creditNote content cancelled =>
    have differs : cancelled ≠ invoiceId := fun same => other (congrArg some same)
    have kept : (state.withInvoice content).invoices[invoiceId]? = some invoice := Table.found_append found
    simp [differs, kept]
  | otherServices surroundings => exact found

theorem Written.note {note : RentInvoice} (written : Written state work next) (ready : Ready state work)
    (found : next.invoices[place]? = some note) (isNote : note.kind = .creditNote) :
    (∃ before, state.invoices[place]? = some before ∧ before.kind = .creditNote ∧
        before.cancelsInvoiceId = note.cancelsInvoiceId) ∨
      place = state.invoices.length ∧ ∃ invoiceId, work.cancels = some invoiceId ∧
        note.cancelsInvoiceId = some invoiceId := by
  cases written with
  | issue content =>
    rcases Table.found_append_one.mp found with old | ⟨rfl, rfl⟩
    · exact Or.inl ⟨note, old, isNote, rfl⟩
    · exact absurd isNote (ready.items.1 content rfl).2
  | creditNote content invoiceId =>
    have origin : ∃ before, (state.withInvoice content).invoices[place]? = some before ∧ Stays before note := by
      simp only [List.getElem?_modify, Option.map_eq_map, Option.map_eq_some_iff] at found
      obtain ⟨before, foundBefore, rfl⟩ := found
      refine ⟨before, foundBefore, ?_⟩
      split
      · exact Stays.cancelledBy before _
      · exact Stays.refl before
    obtain ⟨before, foundBefore, stays⟩ := origin
    rw [stays.content] at isNote ⊢
    rcases Table.found_append_one.mp foundBefore with old | ⟨last, rfl⟩
    · exact Or.inl ⟨before, old, isNote, rfl⟩
    · cases ready with
      | creditNote items cancels invoice foundInvoice credit => exact Or.inr ⟨last, invoiceId, rfl, cancels⟩
  | otherServices surroundings => exact Or.inl ⟨note, found, isNote, rfl⟩

theorem Written.once (written : Written state work next) (sound : InvoicesSound state) (once : CancelledOnce state)
    (ready : OnceReady state work) : CancelledOnce next := by
  -- A new note is for an invoice that is not cancelled, and an old note is for one that is.
  have conflict {place : InvoiceId} {before : RentInvoice} {invoiceId : InvoiceId}
      (found : state.invoices[place]? = some before) (isNote : before.kind = .creditNote)
      (old : before.cancelsInvoiceId = some invoiceId) (cancels : work.cancels = some invoiceId) : False := by
    obtain ⟨held, invoice, cancelsHeld, foundInvoice, cancelled, -⟩ :=
      sound.credits before (List.mem_of_getElem? found) isNote
    obtain rfl : held = invoiceId := Option.mem_unique cancelsHeld old
    exact ready.issued held invoice cancels foundInvoice cancelled
  intro first second note other found foundOther isNote isOther same
  rcases written.note ready.ready found isNote with ⟨before, old, kind, cancels⟩ | ⟨last, invoiceId, new, cancels⟩
  · rcases written.note ready.ready foundOther isOther with
      ⟨beforeOther, oldOther, kindOther, cancelsOther⟩ | ⟨_, invoiceId, new, cancelsOther⟩
    · exact once first second before beforeOther old oldOther kind kindOther
        (cancels.trans (same.trans cancelsOther.symm))
    · exact (conflict old kind (cancels.trans (same.trans cancelsOther)) new).elim
  · rcases written.note ready.ready foundOther isOther with
      ⟨beforeOther, oldOther, kindOther, cancelsOther⟩ | ⟨lastOther, -⟩
    · exact (conflict oldOther kindOther (cancelsOther.trans (same.symm.trans cancels)) new).elim
    · exact last.trans lastOther.symm

/-- Requests for rent invoices in any order and interleaving: consecutive numbers in every series, an item once in an
invoice, credit notes that are exact negatives, and one credit note for an invoice when they are requested one after
the other. -/
theorem rent_invoice_runs (surroundings : Surroundings) (moves : List (Move RentRequest)) :
    InvoicesSound (run rentProtocol.step ⟨{ surroundings }, []⟩ moves).state ∧
      (Guarded rentProtocol.step ApartCredits ⟨{ surroundings }, []⟩ moves →
        CancelledOnce (run rentProtocol.step ⟨{ surroundings }, []⟩ moves).state) := by
  refine ⟨interleaving_sound surroundings moves, fun guarded => ?_⟩
  have start : Protocol.Holds (fun state => InvoicesSound state ∧ CancelledOnce state) OnceReady Apart
      (⟨{ surroundings }, []⟩ : Config RentState RentWork) :=
    Protocol.holds_initial ⟨InvoicesSound.fresh surroundings, by simp [CancelledOnce]⟩
  refine (Protocol.guarded_interleaving_invariant start ?_ ?_ ?_ ?_ ?_ moves guarded).state.2
  · exact fun first second apart invoiceId inSecond inFirst => apart invoiceId inFirst inSecond
  · intro config request work admitted reads free other member invoiceId cancels again
    cases request with
    | creditNote contractId requested today userId =>
      simp only [rentProtocol, rentRead, bind_ok, pure_ok] at reads
      obtain ⟨content, -, rfl⟩ := reads
      obtain rfl : requested = invoiceId := Option.some.inj again
      exact admitted other member cancels
    | issue contractId periodStart periodEnd standing invoiceDate userId =>
      simp only [rentProtocol, rentRead, bind_ok, pure_ok] at reads
      obtain ⟨content, -, rfl⟩ := reads
      cases again
    | otherServices surroundings =>
      cases reads
      cases again
  · exact fun state request work holds reads => read_onceReady holds.1 reads
  · intro state work next holds ready writes
    have written := rentWrite_ok writes
    exact ⟨written.sound holds.1 ready.ready, written.once holds.1 holds.2 ready⟩
  · intro state work other next holds ready readyOther apart writes
    have written := rentWrite_ok writes
    refine ⟨readyOther.ready.follows written.stays, ?_⟩
    intro invoiceId invoice cancels found
    have differs : work.cancels ≠ some invoiceId := fun same => apart invoiceId same cancels
    cases readyOther.ready with
    | creditNote items isFor held foundHeld credit =>
      obtain rfl : _ = invoiceId := Option.some.inj cancels
      have same := Option.some.inj (found.symm.trans (written.issued differs foundHeld))
      rw [same]
      exact readyOther.issued _ held cancels foundHeld
    | issue items kind => cases cancels
    | otherServices surroundings => cases cancels

def sampleItem : Receivables.RunItem where
  contractId := 0
  contractPaymentId := 0
  reserveId := none
  ledgerId := some 0
  paymentTypeCode := "NKM"
  amount := 119
  vatPercent := 19
  netAmount := some 100
  vatAmount := some 19
  runId := 0
  periodMonth := .ofYmd 2026 7 1

def sampleOffice : Surroundings where
  contracts := [{ legalEntityId := 0, vatOption := .commercialFullVat }]
  entities := [{ name := "Eigentümer", identifiers := [(.vatId, "DE1")] }]
  items := [sampleItem]

def sampleIssue (standing : Bool) (first last : ℕ) : Move RentRequest :=
  .start (.issue 0 (.ofYmd 2026 first 1) (.ofYmd 2026 last 31) standing (.ofYmd 2026 7 1) none)

/-- The invoice of July and a standing invoice for July and August contain the same item. -/
theorem item_in_two_invoices :
    ((run rentProtocol.step ⟨{ surroundings := sampleOffice }, []⟩
      [sampleIssue false 7 7, .commit 0, sampleIssue true 7 8, .commit 0]).state.invoices.filter fun invoice =>
        invoice.status = .issued ∧ invoice.kind ≠ .creditNote ∧
          0 ∈ itemIds invoice.toRentInvoiceContent).length = 2 := by
  decide +kernel

theorem sample_cancelled_once :
    CancelledOnce (run rentProtocol.step ⟨{ surroundings := sampleOffice }, []⟩
      [sampleIssue false 7 7, .commit 0, .start (.creditNote 0 0 (.ofYmd 2026 7 5) none), .commit 0]).state := by
  apply (rent_invoice_runs sampleOffice _).2
  refine ⟨trivial, trivial, ?_, trivial, trivial⟩
  change ∀ work ∈ (commit rentProtocol.step (commit rentProtocol.step ⟨{ surroundings := sampleOffice }, []⟩
    (sampleIssue false 7 7)) (.commit 0)).pending, work.cancels ≠ some 0
  decide +kernel

end Mhvp.Accounting.RentInvoices
