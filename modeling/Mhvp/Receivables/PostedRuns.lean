import Mhvp.Receivables.ComputedItems
import Mhvp.Receivables.RunEffects

namespace Mhvp.Receivables

open Core Accounting Lib.Calendar Lib.Table Lib.Transition List Option

variable {state next : ReceivablesState} {runId : RunId} {items later : List RunItem}

/-- Items of a run, in their order. -/
def runItems (items : List RunItem) (runId : RunId) : List RunItem :=
  items.zipIdx.filterMap fun item => if item.1.runId = runId then some item.1 else none

theorem runItems_eq (items : List RunItem) (runId : RunId) :
    runItems items runId = items.filterMap fun item => if item.runId = runId then some item else none := by
  conv_rhs => rw [← zipIdx_map_fst 0 items, filterMap_map]
  rfl

/-- The items of the run are the same, at the same places. -/
def SameRunItems (items later : List RunItem) (runId : RunId) : Prop :=
  ∀ itemId : ItemId, (later[itemId]?).filter (fun item => decide (item.runId = runId)) =
    (items[itemId]?).filter fun item => decide (item.runId = runId)

theorem SameRunItems.refl (items : List RunItem) (runId : RunId) : SameRunItems items items runId := fun _ => rfl

theorem SameRunItems.trans (first : SameRunItems items middle runId)
    (second : SameRunItems middle later runId) : SameRunItems items later runId :=
  fun itemId => (second itemId).trans (first itemId)

theorem SameRunItems.found {itemId : ItemId} (same : SameRunItems items later runId)
    (found : items[itemId]? = some item) (ofRun : item.runId = runId) : later[itemId]? = some item := by
  have here := same itemId
  rw [found, filter_some, if_pos (decide_eq_true ofRun)] at here
  exact (filter_eq_some_iff.mp here).1

section

variable (same : SameRunItems items later runId)
include same

theorem SameRunItems.symm : SameRunItems later items runId :=
  fun itemId => (same itemId).symm

theorem SameRunItems.selected (ofRun : ∀ item itemId, item.runId ≠ runId → select (item, itemId) = none) :
    later.zipIdx.filterMap select = items.zipIdx.filterMap select := by
  apply indexed_pointwise
  intro itemId
  have filtered : ∀ row : Option RunItem, row.bind (fun item => select (item, 0 + itemId)) =
      (row.filter fun item => decide (item.runId = runId)).bind fun item => select (item, 0 + itemId) := by
    intro row
    cases row with
    | none => rfl
    | some item =>
      by_cases here : item.runId = runId
      · rw [filter_some, if_pos (decide_eq_true here)]
      · rw [filter_some, if_neg (by simpa using here), bind_some, ofRun item _ here, bind_none]
  rw [filtered, same itemId, ← filtered]

theorem SameRunItems.runItems : runItems later runId = runItems items runId :=
  same.selected fun _ _ other => if_neg other

theorem SameRunItems.itemIds (status : ItemStatus) :
    itemIds later runId status = itemIds items runId status :=
  same.selected fun _ _ other => if_neg fun both => other both.1

end

theorem SameRunItems.append (others : ∀ item ∈ added, item.runId ≠ runId) :
    SameRunItems items (items ++ added) runId := by
  intro itemId
  by_cases before : itemId < items.length
  · rw [List.getElem?_append_left before]
  · rw [List.getElem?_append_right (Nat.le_of_not_lt before), List.getElem?_eq_none (Nat.le_of_not_lt before)]
    cases found : added[itemId - items.length]? with
    | none => rfl
    | some item => rw [filter_some, if_neg (by simpa using others item (mem_of_getElem? found)), filter_none]

theorem mem_itemIds : itemId ∈ itemIds items runId status ↔
    ∃ item, items[itemId]? = some item ∧ item.runId = runId ∧ item.status = status := by
  unfold itemIds
  rw [mem_filterMap]
  constructor
  · rintro ⟨⟨item, place⟩, member, selected⟩
    split at selected
    · rename_i both
      cases selected
      exact ⟨item, mem_zipIdx_iff_getElem?.mp member, both⟩
    · cases selected
  · rintro ⟨item, found, both⟩
    exact ⟨(item, itemId), mem_zipIdx_iff_getElem?.mpr found, if_pos both⟩

theorem itemIds_nodup (items : List RunItem) (runId : RunId) (status : ItemStatus) : (itemIds items runId status).Nodup := by
  have ids : items.zipIdx.Pairwise fun first second => first.2 ≠ second.2 := by
    apply pairwise_map.mp
    rw [zipIdx_map_snd]
    exact nodup_range'
  refine ids.filterMap _ fun first second differ id isId other isOther => ?_
  obtain ⟨-, sameId⟩ := ite_none_right_eq_some.mp isId
  obtain ⟨-, sameOther⟩ := ite_none_right_eq_some.mp isOther
  rw [← some.inj sameId, ← some.inj sameOther]
  exact differ

theorem SameRunItems.of_changed {ids : List ItemId} (others : ∀ itemId ∉ ids, later[itemId]? = items[itemId]?)
    (changed : ∀ itemId ∈ ids, ∃ old new : RunItem, items[itemId]? = some old ∧ later[itemId]? = some new ∧
      old.runId ≠ runId ∧ new.runId ≠ runId) : SameRunItems items later runId := by
  intro itemId
  by_cases member : itemId ∈ ids
  · obtain ⟨old, new, found, foundLater, oldOther, newOther⟩ := changed itemId member
    rw [found, foundLater, filter_some, filter_some, if_neg (by simpa using newOther),
      if_neg (by simpa using oldOther)]
  · rw [others itemId member]

theorem OnePosted.append (one : OnePosted items) (unposted : ∀ item ∈ added, item.status ≠ .posted) :
    OnePosted (items ++ added) := by
  intro first second row other foundRow foundOther same
  rcases found_append_cases foundRow with oldRow | ⟨-, isAdded⟩
  · rcases found_append_cases foundOther with oldOther | ⟨-, isAdded⟩
    · exact one first second row other oldRow oldOther same
    · exact absurd same.2.1 (unposted other isAdded)
  · exact absurd same.1 (unposted row isAdded)

theorem OnePosted.of_found (one : OnePosted items)
    (before : ∀ (itemId : ItemId) (item : RunItem), later[itemId]? = some item → item.status = .posted →
      items[itemId]? = some item) : OnePosted later :=
  fun first second row other foundRow foundOther same =>
    one first second row other (before first row foundRow same.1) (before second other foundOther same.2.1) same

/-- What a posting of a preview does: the basis is that of the preview, exactly its ready items are posted, each with
an entry of its own, and nothing else is. -/
structure PostsReady (state : ReceivablesState) (runId : RunId) (userId : Option UserId) (next : ReceivablesState)
    (run : ReceivableRun) : Prop where
  confirmed : digest (compute state.db state.basis state.items run.periodMonth run.scope run.scopeId) = run.previewHash
  previewed : (runItems state.items runId).map (fun item => item.toItemDraft.digestRow) = run.previewHash
  ready : ∀ itemId ∈ itemIds state.items runId .ready, ∃ item entryId entry, state.items[itemId]? = some item ∧
    next.items[itemId]? = some { item with status := .posted, journalEntryId := some entryId } ∧
    next.db.books.entries[entryId]? = some entry ∧ entry.isPosted ∧ EntryFor run runId userId state.basis item entry
  others : ∀ itemId ∉ itemIds state.items runId .ready, next.items[itemId]? = state.items[itemId]?
  only : ∀ entryId entry, next.db.books.entries[entryId]? = some entry → entry.isPosted →
    state.db.books.entries[entryId]? = some entry ∨
      ∃ itemId ∈ itemIds state.items runId .ready, entryOfItem next.items itemId = some entryId
  status : (next.runs[runId]?).map ReceivableRun.status = some .posted

/-- Balances and open items move back by what they moved from `start` to `posted`. -/
structure TakesBack (start posted : Books) (bookingDate : Date) (before after : Books) : Prop where
  balances : ∀ accountId asOf, Within asOf bookingDate →
    balance after accountId asOf = balance before accountId asOf - (balance posted accountId asOf - balance start accountId asOf)
  openItems : ∀ itemId asOf, Within asOf bookingDate →
    openRest after itemId asOf = openRest before itemId asOf - (openRest posted itemId asOf - openRest start itemId asOf)

structure RunsSound (state : ReceivablesState) : Prop where
  books : state.db.books.Sound
  one : OnePosted state.items
  known : ∀ item ∈ state.items, item.runId < state.runs.length
  preview : ∀ runId run, state.runs[runId]? = some run → run.status = .preview →
    (runItems state.items runId).map (fun item => item.toItemDraft.digestRow) = run.previewHash ∧
      ∀ item ∈ state.items, item.runId = runId → item.Computed

theorem RunsSound.published (sound : RunsSound state) : RunsSound state.published :=
  ⟨sound.books, sound.one, sound.known, sound.preview⟩

theorem RunsSound.books_changed (sound : RunsSound state) (books : next.db.books.Sound) (runs : next.runs = state.runs)
    (items : next.items = state.items) : RunsSound next := by
  refine ⟨books, ?_, ?_, ?_⟩
  · rw [items]
    exact sound.one
  · rw [items, runs]
    exact sound.known
  · rw [items, runs]
    exact sound.preview

theorem RunsSound.createPreview (sound : RunsSound state) :
    RunsSound (createPreview state userId period scope scopeId) := by
  have computed : ∀ item ∈ (compute state.db state.basis state.items (monthFirst period) scope scopeId).map
      (fun item => { item with runId := state.runs.length, periodMonth := monthFirst period : RunItem }),
      item.Computed ∧ item.runId = state.runs.length := by
    intro item member
    obtain ⟨draft, inDrafts, rfl⟩ := mem_map.mp member
    exact ⟨(compute_proposed inDrafts).computed, rfl⟩
  constructor
  · exact sound.books
  · exact sound.one.append fun item member => (computed item member).1.1
  · intro item member
    rw [Receivables.createPreview, length_append, length_singleton]
    rcases mem_append.mp member with old | isNew
    · exact Nat.lt_succ_of_lt (sound.known item old)
    · rw [(computed item isNew).2]
      exact Nat.lt_succ_self _
  · intro runId run found isPreview
    rcases found_append_one.mp found with old | ⟨rfl, rfl⟩
    · have others : ∀ item ∈ (compute state.db state.basis state.items (monthFirst period) scope scopeId).map
          (fun item => { item with runId := state.runs.length, periodMonth := monthFirst period : RunItem }),
          item.runId ≠ runId := by
        intro item member
        rw [(computed item member).2]
        exact (found_lt old).ne'
      obtain ⟨digest, unposted⟩ := sound.preview runId run old isPreview
      refine ⟨?_, fun item member ofRun => ?_⟩
      · rw [← digest, Receivables.createPreview, (SameRunItems.append others).runItems]
      · rcases mem_append.mp member with old | isNew
        · exact unposted item old ofRun
        · exact absurd ofRun (others item isNew)
    · refine ⟨?_, fun item member ofRun => ?_⟩
      · have noneOld : (state.items.filterMap fun item => if item.runId = state.runs.length then some item else none) = [] := by
          rw [filterMap_eq_nil_iff]
          exact fun item member => if_neg (sound.known item member).ne
        rw [runItems_eq, Receivables.createPreview, filterMap_append, noneOld, nil_append, filterMap_map,
          map_filterMap, digest, ← filterMap_eq_map]
        refine filterMap_congr fun item _ => ?_
        simp
      · rcases mem_append.mp member with old | isNew
        · exact absurd ofRun (sound.known item old).ne
        · exact (computed item isNew).1

theorem setRunStatus_found :
    (setRunStatus runs runId status postedBy)[otherId]? = (runs[otherId]?).map fun run =>
      if runId = otherId then { run with status, postedBy } else run := by
  rw [setRunStatus, List.getElem?_modify]
  rfl

theorem postRun_ok (sound : state.db.books.Sound) (accepted : postRun state runId userId gateOpen = .ok next) :
    ∃ run, state.runs[runId]? = some run ∧ ((run.status = .posted ∧ next = state) ∨
      ∃ posted, run.status = .preview ∧
        digest (compute state.db state.basis state.items run.periodMonth run.scope run.scopeId) = run.previewHash ∧
        ItemsPosted run runId userId state posted (itemIds state.items runId .ready) ∧
        next = { posted with runs := setRunStatus state.runs runId .posted userId }) := by
  simp only [postRun, bind_ok, orRefuse_ok, exists_unit, require_ok] at accepted
  obtain ⟨run, found, -, accepted⟩ := accepted
  refine ⟨run, found, ?_⟩
  split at accepted
  · rename_i already
    exact Or.inl ⟨already, (pure_ok.mp accepted).symm⟩
  · simp only [bind_ok, exists_unit, require_ok, pure_ok] at accepted
    obtain ⟨isPreview, confirmed, posted, isPosted, rfl⟩ := accepted
    have items := postItems_ok _ (itemIds_nodup ..) sound isPosted
    exact Or.inr ⟨posted, isPreview, confirmed, items, by rw [items.runs]⟩

theorem ItemsPosted.otherRun {run : ReceivableRun} (posted : ItemsPosted run runId userId state next (itemIds state.items runId .ready))
    (other : otherId ≠ runId) : SameRunItems state.items next.items otherId := by
  refine .of_changed posted.others fun itemId member => ?_
  obtain ⟨item, entryId, entry, found, foundNext, -⟩ := posted.items itemId member
  obtain ⟨row, foundRow, ofRun, -⟩ := mem_itemIds.mp member
  obtain rfl : item = row := mem_unique found foundRow
  exact ⟨item, _, found, foundNext, ofRun ▸ other.symm, ofRun ▸ other.symm⟩

theorem runId_kept {ids : List ItemId} (others : ∀ itemId ∉ ids, later[itemId]? = items[itemId]?)
    (changed : ∀ itemId ∈ ids, ∃ old new : RunItem, items[itemId]? = some old ∧ later[itemId]? = some new ∧
      new.runId = old.runId) (member : item ∈ later) : ∃ old ∈ items, old.runId = item.runId := by
  obtain ⟨itemId, found⟩ := mem_iff_getElem?.mp member
  by_cases inIds : itemId ∈ ids
  · obtain ⟨old, new, foundOld, foundNew, same⟩ := changed itemId inIds
    obtain rfl : new = item := mem_unique foundNew found
    exact ⟨old, mem_of_getElem? foundOld, same.symm⟩
  · exact ⟨item, mem_of_getElem? ((others itemId inIds).symm.trans found), rfl⟩

theorem RunsSound.status_changed (sound : RunsSound state) {status : RunStatus} (notPreview : status ≠ .preview)
    (books : next.db.books.Sound) (one : OnePosted next.items)
    (runs : next.runs = setRunStatus state.runs runId status postedBy)
    (known : ∀ item ∈ next.items, ∃ old ∈ state.items, old.runId = item.runId)
    (others : ∀ otherId, otherId ≠ runId → SameRunItems state.items next.items otherId) : RunsSound next := by
  constructor
  · exact books
  · exact one
  · intro item member
    obtain ⟨old, inItems, same⟩ := known item member
    rw [runs, setRunStatus, length_modify, ← same]
    exact sound.known old inItems
  · intro otherId run found isPreview
    rw [runs, setRunStatus_found, map_eq_some_iff] at found
    obtain ⟨old, foundOld, isRun⟩ := found
    by_cases here : runId = otherId
    · rw [if_pos here] at isRun
      rw [← isRun] at isPreview
      exact absurd isPreview notPreview
    · rw [if_neg here] at isRun
      subst isRun
      have same := others otherId (Ne.symm here)
      obtain ⟨digest, computed⟩ := sound.preview otherId old foundOld isPreview
      refine ⟨?_, fun item member ofRun => ?_⟩
      · rw [same.runItems, digest]
      · obtain ⟨itemId, foundItem⟩ := mem_iff_getElem?.mp member
        exact computed item (mem_of_getElem? (same.symm.found foundItem ofRun)) ofRun

theorem RunsSound.post (sound : RunsSound state) (accepted : postRun state runId userId gateOpen = .ok next) :
    RunsSound next := by
  obtain ⟨run, found, ⟨-, rfl⟩ | ⟨posted, -, -, items, rfl⟩⟩ := postRun_ok sound.books accepted
  · exact sound
  · have notPreview : RunStatus.posted ≠ .preview := RunStatus.noConfusion
    apply sound.status_changed notPreview
    · exact (services_effectsKept items.steps sound.books).1
    · exact items.unique sound.one
    · rfl
    · intro item member
      refine runId_kept items.others (fun itemId inIds => ?_) member
      obtain ⟨old, entryId, entry, foundOld, foundNew, -⟩ := items.items itemId inIds
      exact ⟨old, _, foundOld, foundNew, rfl⟩
    · exact fun otherId other => items.otherRun other

theorem reverseRun_ok (sound : state.db.books.Sound)
    (accepted : reverseRun state runId userId reason bookingDate = .ok next) :
    ∃ run reversed, state.runs[runId]? = some run ∧ run.status = .posted ∧
      ItemsReversed bookingDate state reversed (itemIds state.items runId .posted) ∧
      next = { reversed with runs := setRunStatus state.runs runId .reversed run.postedBy } := by
  simp only [reverseRun, bind_ok, orRefuse_ok, exists_unit, require_ok, pure_ok] at accepted
  obtain ⟨run, found, isPosted, reversed, isReversed, rfl⟩ := accepted
  have items := reverseItems_ok _ (itemIds_nodup ..) sound isReversed
  exact ⟨run, reversed, found, isPosted, items, by rw [items.runs]⟩

theorem ItemsReversed.otherRun (reversed : ItemsReversed bookingDate state next (itemIds state.items runId .posted))
    (other : otherId ≠ runId) : SameRunItems state.items next.items otherId := by
  refine .of_changed reversed.others fun itemId member => ?_
  obtain ⟨item, found, foundNext⟩ := reversed.items itemId member
  obtain ⟨row, foundRow, ofRun, -⟩ := mem_itemIds.mp member
  obtain rfl : item = row := mem_unique found foundRow
  exact ⟨item, _, found, foundNext, ofRun ▸ other.symm, ofRun ▸ other.symm⟩

theorem RunsSound.reverse (sound : RunsSound state)
    (accepted : reverseRun state runId userId reason bookingDate = .ok next) : RunsSound next := by
  obtain ⟨run, reversed, -, -, items, rfl⟩ := reverseRun_ok sound.books accepted
  have notPreview : RunStatus.reversed ≠ .preview := RunStatus.noConfusion
  apply sound.status_changed notPreview
  · exact (services_effectsKept items.steps sound.books).1
  · refine sound.one.of_found fun itemId item found isPosted => ?_
    by_cases member : itemId ∈ itemIds state.items runId .posted
    · obtain ⟨old, -, foundNew⟩ := items.items itemId member
      obtain rfl := mem_unique foundNew found
      cases isPosted
    · exact (items.others itemId member).symm.trans found
  · rfl
  · intro item member
    refine runId_kept items.others (fun itemId inIds => ?_) member
    obtain ⟨old, foundOld, foundNew⟩ := items.items itemId inIds
    exact ⟨old, _, foundOld, foundNew, rfl⟩
  · exact fun otherId other => items.otherRun other

theorem contracts_step (books : Books) (contracts : List Contract) : LedgerStep books { books with contracts } :=
  .master _ ⟨fun _ row found => ⟨row.active, found⟩, fun _ _ found => found, rfl, rfl, rfl, rfl, rfl⟩

theorem receivableStep_sound (state : ReceivablesState) (call : ReceivableCall) (next : ReceivablesState)
    (sound : RunsSound state) (accepted : receivableStep state call = .ok next) : RunsSound next := by
  simp only [receivableStep, bind_ok, pure_ok] at accepted
  obtain ⟨served, accepted, rfl⟩ := accepted
  apply RunsSound.published
  cases call with
  | preview userId period scope scopeId =>
    obtain rfl := pure_ok.mp accepted
    exact sound.createPreview
  | post runId userId gateOpen => exact sound.post accepted
  | reverse runId userId reason bookingDate => exact sound.reverse accepted
  | book call =>
    simp only [serve, bind_ok, pure_ok] at accepted
    obtain ⟨db, written, rfl⟩ := accepted
    exact sound.books_changed (writeOffStep_sound _ _ _ sound.books written) rfl rfl
  | setBasis basis contracts switches =>
    obtain rfl := pure_ok.mp accepted
    exact sound.books_changed ((contracts_step _ contracts).sound sound.books) rfl rfl

theorem ReceivablesState.Fresh.sound (fresh : state.Fresh) : RunsSound state := by
  refine ⟨fresh.books.sound, ?_, ?_, ?_⟩
  · intro first second one other found
    rw [fresh.items] at found
    cases found
  · intro item member
    rw [fresh.items] at member
    cases member
  · intro runId run found
    rw [fresh.runs] at found
    cases found

/-- While a posted run stays posted its items are left, and its entries keep their effects. -/
structure Follows (runId : RunId) (first later : ReceivablesState) : Prop where
  kept : EffectsKept first.db.books later.db.books
  run : ∀ run, first.runs[runId]? = some run → run.status ≠ .preview → ∃ now, later.runs[runId]? = some now ∧
    now.status ≠ .preview ∧
    (now.status = .posted → run.status = .posted ∧ SameRunItems first.items later.items runId)

theorem Follows.refl (state : ReceivablesState) : Follows runId state state :=
  ⟨.refl _, fun run found notPreview => ⟨run, found, notPreview, fun isPosted => ⟨isPosted, .refl _ _⟩⟩⟩

theorem Follows.trans (before : Follows runId first second)
    (after : Follows runId second third) : Follows runId first third := by
  refine ⟨before.kept.trans after.kept, fun run found notPreview => ?_⟩
  obtain ⟨middle, foundMiddle, middleLater, sameFirst⟩ := before.run run found notPreview
  obtain ⟨now, foundNow, nowLater, sameSecond⟩ := after.run middle foundMiddle middleLater
  refine ⟨now, foundNow, nowLater, fun isPosted => ?_⟩
  obtain ⟨middlePosted, second⟩ := sameSecond isPosted
  obtain ⟨runPosted, first⟩ := sameFirst middlePosted
  exact ⟨runPosted, first.trans second⟩

theorem Follows.beside (kept : EffectsKept state.db.books next.db.books)
    (run : next.runs[runId]? = state.runs[runId]?) (same : SameRunItems state.items next.items runId) :
    Follows runId state next :=
  ⟨kept, fun row found notPreview => ⟨row, run.trans found, notPreview, fun isPosted => ⟨isPosted, same⟩⟩⟩

theorem receivableStep_follows (runId : RunId) (state : ReceivablesState) (call : ReceivableCall)
    (next : ReceivablesState) (sound : RunsSound state) (accepted : receivableStep state call = .ok next) :
    Follows runId state next := by
  simp only [receivableStep, bind_ok, pure_ok] at accepted
  obtain ⟨served, accepted, rfl⟩ := accepted
  have ofServed : Follows runId state served := by
    cases call with
    | preview userId period scope scopeId =>
      obtain rfl := pure_ok.mp accepted
      by_cases isNew : runId < state.runs.length
      · refine .beside (.refl _) (List.getElem?_append_left isNew) (.append fun item member => ?_)
        obtain ⟨draft, -, rfl⟩ := mem_map.mp member
        exact isNew.ne'
      · refine ⟨.refl _, fun run found => ?_⟩
        rw [List.getElem?_eq_none (Nat.le_of_not_lt isNew)] at found
        cases found
    | post otherId userId gateOpen =>
      obtain ⟨run, found, ⟨-, rfl⟩ | ⟨posted, isPreview, -, items, rfl⟩⟩ := postRun_ok sound.books accepted
      · exact .refl _
      · have kept := (services_effectsKept items.steps sound.books).2
        by_cases here : otherId = runId
        · subst here
          refine ⟨kept, fun row foundRow notPreview => ?_⟩
          obtain rfl : run = row := mem_unique found foundRow
          exact absurd isPreview notPreview
        · refine .beside kept ?_ (items.otherRun (Ne.symm here))
          dsimp only
          rw [setRunStatus_found]
          simp [here]
    | reverse otherId userId reason bookingDate =>
      obtain ⟨run, reversed, found, isPosted, items, rfl⟩ := reverseRun_ok sound.books accepted
      have kept := (services_effectsKept items.steps sound.books).2
      by_cases here : otherId = runId
      · subst here
        refine ⟨kept, fun row foundRow notPreview => ⟨{ row with status := .reversed, postedBy := run.postedBy }, ?_, ?_, ?_⟩⟩
        · dsimp only
          rw [setRunStatus_found, foundRow]
          simp
        · exact RunStatus.noConfusion
        · exact fun isPosted => RunStatus.noConfusion isPosted
      · refine .beside kept ?_ (items.otherRun (Ne.symm here))
        dsimp only
        rw [setRunStatus_found]
        simp [here]
    | book call =>
      simp only [serve, bind_ok, pure_ok] at accepted
      obtain ⟨db, written, rfl⟩ := accepted
      exact .beside (writeOffStep_effectsKept sound.books written) rfl (.refl _ _)
    | setBasis basis contracts switches =>
      obtain rfl := pure_ok.mp accepted
      exact .beside ((contracts_step _ contracts).effectsKept sound.books.linked) rfl (.refl _ _)
  exact ⟨ofServed.kept, ofServed.run⟩

theorem ItemsPosted.posted_ids {run : ReceivableRun} (posted : ItemsPosted run runId userId state next (itemIds state.items runId .ready))
    (computed : ∀ item ∈ state.items, item.runId = runId → item.Computed) :
    itemIds next.items runId .posted = itemIds state.items runId .ready := by
  apply indexed_pointwise
  intro itemId
  rw [Nat.zero_add]
  by_cases member : itemId ∈ itemIds state.items runId .ready
  · obtain ⟨item, entryId, entry, found, foundNext, -⟩ := posted.items itemId member
    obtain ⟨row, foundRow, ofRun, ready⟩ := mem_itemIds.mp member
    obtain rfl : item = row := mem_unique found foundRow
    rw [found, foundNext, bind_some, bind_some, if_pos ⟨ofRun, rfl⟩, if_pos ⟨ofRun, ready⟩]
  · rw [posted.others itemId member]
    cases found : state.items[itemId]? with
    | none => rfl
    | some item =>
      have notReady : ¬ (item.runId = runId ∧ item.status = .ready) :=
        fun both => member (mem_itemIds.mpr ⟨item, found, both⟩)
      have notPosted : ¬ (item.runId = runId ∧ item.status = .posted) :=
        fun both => (computed item (mem_of_getElem? found) both.1).1 both.2
      rw [bind_some, bind_some, if_neg notReady, if_neg notPosted]

theorem ItemsPosted.takesBack {run : ReceivableRun} {before after : ReceivablesState}
    (posted : ItemsPosted run runId userId state next (itemIds state.items runId .ready))
    (computed : ∀ item ∈ state.items, item.runId = runId → item.Computed)
    (kept : EffectsKept next.db.books before.db.books) (same : SameRunItems next.items before.items runId)
    (reversed : ItemsReversed bookingDate before after (itemIds before.items runId .posted)) :
    TakesBack state.db.books next.db.books bookingDate before.db.books after.db.books := by
  have ids : itemIds before.items runId .posted = itemIds state.items runId .ready :=
    (same.itemIds .posted).trans (posted.posted_ids computed)
  rw [ids] at reversed
  have place : ∀ itemId ∈ itemIds state.items runId .ready, before.items[itemId]? = next.items[itemId]? := by
    intro itemId member
    obtain ⟨item, entryId, entry, found, foundNext, -⟩ := posted.items itemId member
    obtain ⟨row, foundRow, ofRun, -⟩ := mem_itemIds.mp member
    obtain rfl : item = row := mem_unique found foundRow
    rw [foundNext]
    exact same.found foundNext ofRun
  have booked : ∀ itemId ∈ itemIds state.items runId .ready, BookedEntry before.db.books before.items itemId :=
    fun itemId member => (posted.booked itemId member).kept kept (place itemId member)
  constructor
  · intro accountId asOf within
    have moved : (itemIds state.items runId .ready).map (itemMoved before.db.books before.items accountId asOf) =
        (itemIds state.items runId .ready).map (itemMoved next.db.books next.items accountId asOf) :=
      map_congr_left fun itemId member => (posted.booked itemId member).moved kept (place itemId member)
    rw [reversed.moves booked accountId asOf within, moved, posted.moves, add_sub_cancel_left]
  · intro openItemId asOf within
    have opened : (itemIds state.items runId .ready).map (itemOpened before.db.books before.items openItemId) =
        (itemIds state.items runId .ready).map (itemOpened next.db.books next.items openItemId) :=
      map_congr_left fun itemId member => (posted.booked itemId member).opened kept (place itemId member)
    rw [reversed.closes booked openItemId asOf within, opened, posted.opens, add_sub_cancel_left]

theorem post_effect (sound : RunsSound state) (found : state.runs[runId]? = some row)
    (accepted : receivableStep state (.post runId userId gateOpen) = .ok next) :
    (row.status = .posted ∧ next = state.published) ∨ ∃ posted, row.status = .preview ∧
      digest (compute state.db state.basis state.items row.periodMonth row.scope row.scopeId) = row.previewHash ∧
      ItemsPosted row runId userId state posted (itemIds state.items runId .ready) ∧
      next = ReceivablesState.published { posted with runs := setRunStatus state.runs runId .posted userId } := by
  simp only [receivableStep, serve, bind_ok, pure_ok] at accepted
  obtain ⟨served, accepted, rfl⟩ := accepted
  obtain ⟨run, foundRun, again | ⟨posted, isPreview, confirmed, items, rfl⟩⟩ := postRun_ok sound.books accepted
  · obtain rfl : row = run := mem_unique found foundRun
    exact Or.inl ⟨again.1, by rw [again.2]⟩
  · obtain rfl : row = run := mem_unique found foundRun
    exact Or.inr ⟨posted, isPreview, confirmed, items, rfl⟩

/-- In every run of previews, postings, reversals and requests on the books, a component of a contract is posted at most
once per month; a posting books exactly the ready items of the preview whose basis it confirms, or repeats a click; and
a reversal, whatever happened since, moves every balance and open item back by what the posting moved it. -/
theorem receivable_runs (start : ReceivablesState) (fresh : start.Fresh) (calls : List ReceivableCall) :
    OnePosted (run receivableStep start calls).items ∧
    ∀ (runId : RunId) (row : ReceivableRun) (userId : Option UserId) (gateOpen : Bool) (posted : ReceivablesState),
      (run receivableStep start calls).runs[runId]? = some row →
      receivableStep (run receivableStep start calls) (.post runId userId gateOpen) = .ok posted →
      (row.status = .posted ∧ posted = (run receivableStep start calls).published) ∨
      (row.status = .preview ∧ PostsReady (run receivableStep start calls) runId userId posted row ∧
        ∀ (between : List ReceivableCall) (reverser : Option UserId) (reason : String) (bookingDate : Date)
          (after : ReceivablesState),
          receivableStep (run receivableStep posted between) (.reverse runId reverser reason bookingDate) = .ok after →
          TakesBack (run receivableStep start calls).db.books posted.db.books bookingDate
            (run receivableStep posted between).db.books after.db.books) := by
  have sound : RunsSound (run receivableStep start calls) := run_invariant receivableStep_sound calls fresh.sound
  refine ⟨sound.one, fun runId row userId gateOpen posted found accepted => ?_⟩
  have soundPosted := receivableStep_sound _ _ _ sound accepted
  rcases post_effect sound found accepted with again | ⟨middle, isPreview, confirmed, items, rfl⟩
  · exact Or.inl again
  · have previewed := sound.preview runId row found isPreview
    have status : (setRunStatus (run receivableStep start calls).runs runId .posted userId)[runId]? =
        some { row with status := .posted, postedBy := userId } := by
      rw [setRunStatus_found, found]
      simp
    refine Or.inr ⟨isPreview, ⟨confirmed, previewed.1, fun itemId member => ?_, items.others, items.only, ?_⟩, ?_⟩
    · obtain ⟨item, entryId, entry, foundItem, foundNext, foundEntry, booked⟩ := items.items itemId member
      obtain ⟨otherId, other, isEntry, foundOther, isPosted, -⟩ := items.booked itemId member
      rw [entryOfItem, foundNext] at isEntry
      obtain rfl : entryId = otherId := some.inj isEntry
      obtain rfl : entry = other := mem_unique foundEntry foundOther
      exact ⟨item, entryId, entry, foundItem, foundNext, foundEntry, isPosted, booked⟩
    · exact congrArg (Option.map ReceivableRun.status) status
    · intro between reverser reason bookingDate after reversed
      obtain ⟨soundLater, follows⟩ := run_relates_invariant
        (fun state => (Follows.refl state : Follows runId state state))
        (fun _ _ _ => Follows.trans) receivableStep_sound (receivableStep_follows runId) soundPosted between
      simp only [receivableStep, serve, bind_ok, pure_ok] at reversed
      obtain ⟨served, reversed, rfl⟩ := reversed
      obtain ⟨now, final, foundNow, nowPosted, taken, rfl⟩ := reverseRun_ok soundLater.books reversed
      obtain ⟨later, foundLater, -, same⟩ := follows.run _ status RunStatus.noConfusion
      obtain rfl : now = later := mem_unique foundNow foundLater
      have back := items.takesBack previewed.2 follows.kept (same nowPosted).2 taken
      exact back

def sampleRent : ReceivablesState where
  db := { books :=
    { ledgers := [{ legalEntityId := 1 }], properties := [0], contracts := [{ propertyId := 0, number := "1", legalEntityId := 1 }],
      accounts := [{ ledgerId := 0, number := "060000", category := .revenue },
        { ledgerId := 0, number := "010001", category := .debtor }] } }
  basis :=
    { terms := [{ startDate := .ofYmd 2020 1 1, debtorAccountId := some 0 }]
      payments := [{ contractId := 0, paymentTypeCode := "rent", net := 500, gross := 500, validFrom := .ofYmd 2020 1 1 }]
      schedules := [{ contractId := 0, dueDay := 3, validFrom := .ofYmd 2020 1 1 }]
      typeAccounts := [⟨0, "rent", 0⟩]
      reservations := [⟨1, "010001", "Eins", "1"⟩] }

theorem sampleRent_fresh : sampleRent.Fresh := ⟨⟨rfl, rfl, rfl, rfl⟩, rfl, rfl⟩

def samplePreview : List ReceivableCall := [.preview (some 7) (.ofYmd 2026 5 4) .all none]

def samplePosted : Result ReceivablesState :=
  receivableStep (run receivableStep sampleRent samplePreview) (.post 0 (some 7) false)

theorem samplePosted_accepted : (answer? samplePosted).isSome := by decide +kernel

def sampleReversed : Result ReceivablesState :=
  receivableStep (run receivableStep ((answer? samplePosted).get samplePosted_accepted) samplePreview)
    (.reverse 0 (some 8) "falsch" (.ofYmd 2026 5 20))

theorem sampleReversed_accepted : (answer? sampleReversed).isSome := by decide +kernel

/-- The debtor owes 500.00 after the posting, and nothing after the reversal. -/
theorem sample_receivable_runs :
    balance ((answer? samplePosted).get samplePosted_accepted).db.books 1 none = 500 ∧
      balance ((answer? sampleReversed).get sampleReversed_accepted).db.books 1 none = 0 := by
  have posted : balance ((answer? samplePosted).get samplePosted_accepted).db.books 1 none = 500 := by decide +kernel
  refine ⟨posted, ?_⟩
  obtain ⟨row, found⟩ : ∃ row, (run receivableStep sampleRent samplePreview).runs[0]? = some row :=
    isSome_iff_exists.mp (by decide +kernel)
  have isPreview : ((run receivableStep sampleRent samplePreview).runs[0]?).map ReceivableRun.status = some .preview := by
    decide +kernel
  rcases (receivable_runs sampleRent sampleRent_fresh samplePreview).2 0 row (some 7) false _ found
    (accepted_of_isSome samplePosted_accepted) with ⟨already, -⟩ | ⟨-, -, takes⟩
  · rw [found, map_some, already] at isPreview
    cases isPreview
  · have back := (takes samplePreview (some 8) "falsch" (.ofYmd 2026 5 20) _
      (accepted_of_isSome sampleReversed_accepted)).balances 1 none within_none
    have before : balance (run receivableStep sampleRent samplePreview).db.books 1 none = 0 := by decide +kernel
    have between : balance (run receivableStep ((answer? samplePosted).get samplePosted_accepted) samplePreview).db.books
        1 none = 500 := by decide +kernel
    rw [back, posted, before, between]
    norm_num

end Mhvp.Receivables
