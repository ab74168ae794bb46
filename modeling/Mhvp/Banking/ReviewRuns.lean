import Mhvp.Banking.Review
import Mhvp.Lib.Table

namespace Mhvp.Banking.Review

open Core Accounting Lib.Locking Lib.Sessions Lib.Table Lib.Transition List

def Flagged (state : ReviewState) (entryId : EntryId) : Prop :=
  ∃ entry ∈ state.entries[entryId]?, entry.autoReviewPending = true

/-- An open item refers to the entry. -/
def UnderReview (state : ReviewState) (entryId : EntryId) : Prop :=
  ∃ review ∈ state.reviews, review.status = .isOpen ∧ review.journalEntryId = some entryId

instance : Decidable (Flagged state entryId) := by unfold Flagged; infer_instance
instance : Decidable (UnderReview state entryId) := by unfold UnderReview; infer_instance

/-- Exactly the entries with an open item carry the flag. -/
def FlagsExact (state : ReviewState) : Prop := ∀ entryId, Flagged state entryId ↔ UnderReview state entryId

/-- An open item of the entry that the transaction does not close. -/
def Closing.Left (state : ReviewState) (session : Closing) (entryId : EntryId) : Prop :=
  ∃ other ∈ openIds state.reviews entryId, other ∉ session.closedIds

/-- Each entry with items to close has another open item exactly if the transaction saw one, or had loaded the entry
without its flag. -/
def Closing.Current (state : ReviewState) (session : Closing) : Prop :=
  ∀ closure ∈ session.closed, ∀ review ∈ state.reviews[closure.itemId]?, ∀ entryId ∈ review.journalEntryId,
    session.Left state entryId ↔
      ¬ ∃ look ∈ session.looks, look.entryId = entryId ∧ look.stillOpen = false ∧ look.pending = true

/-- Each entry with a returned payment was loaded without its flag, or still has an open item. -/
def Returns.Current (state : ReviewState) (session : Returns) : Prop :=
  ∀ row ∈ session.registered, (∃ other ∈ session.registered, other.entryId = row.entryId ∧ other.pending = false) ∨
    UnderReview state row.entryId

def Session.Current (state : ReviewState) : Session → Prop
  | .run _ => True
  | .close session => session.Current state
  | .returns session => session.Current state

theorem mem_openIds {reviews : List AutoPostingReview} {id : ReviewId} : id ∈ openIds reviews entryId ↔
    ∃ review, reviews[id]? = some review ∧ review.status = .isOpen ∧ review.journalEntryId = some entryId := by
  rw [openIds, mem_filter, mem_range, decide_eq_true_eq]
  constructor
  · rintro ⟨-, found⟩
    exact found
  · rintro ⟨review, found, isOpen⟩
    exact ⟨found_lt found, review, found, isOpen⟩

theorem underReview_iff : UnderReview state entryId ↔ ∃ id, id ∈ openIds state.reviews entryId := by
  constructor
  · rintro ⟨review, member, isOpen⟩
    obtain ⟨id, found⟩ := mem_iff_getElem?.mp member
    exact ⟨id, mem_openIds.mpr ⟨review, found, isOpen⟩⟩
  · rintro ⟨id, member⟩
    obtain ⟨review, found, isOpen⟩ := mem_openIds.mp member
    exact ⟨review, mem_of_getElem? found, isOpen⟩

/-- The locked items are open, and every look was at the entry of a closed item. -/
structure Closing.Ready (state : ReviewState) (session : Closing) : Prop where
  held : ∀ closure ∈ session.closed ++ session.toClose, closure.outcome ≠ .isOpen ∧
    ∃ review, state.reviews[closure.itemId]? = some review ∧ review.status = .isOpen
  looked : ∀ look ∈ session.looks, ∃ closure ∈ session.closed, ∃ review,
    state.reviews[closure.itemId]? = some review ∧ review.journalEntryId = some look.entryId

/-- The loaded entries exist. -/
structure Returns.Ready (state : ReviewState) (session : Returns) : Prop where
  loaded : ∀ entryId entry, session.loaded entryId = some entry → entryId < state.entries.length
  registered : ∀ row ∈ session.registered, row.entryId < state.entries.length

def Session.Ready (state : ReviewState) : Session → Prop
  | .run _ => True
  | .close session => session.Ready state
  | .returns session => session.Ready state

namespace Closing.Ready

variable {state : ReviewState} {session : Closing}

section

variable (ready : session.Ready state)
include ready

theorem same_closed (next : Closing) (closed : next.closed = session.closed)
    (looks : next.looks = session.looks)
    (held : ∀ closure ∈ next.toClose, closure.outcome ≠ .isOpen ∧
      ∃ review, state.reviews[closure.itemId]? = some review ∧ review.status = .isOpen) : next.Ready state := by
  constructor
  · intro closure member
    rcases mem_append.mp member with old | isNew
    · exact ready.held closure (mem_append_left _ (closed ▸ old))
    · exact held closure isNew
  · rw [closed, looks]
    exact ready.looked

theorem toClose : ∀ closure ∈ session.toClose, closure.outcome ≠ .isOpen ∧
    ∃ review, state.reviews[closure.itemId]? = some review ∧ review.status = .isOpen :=
  fun closure member => ready.held closure (mem_append_right _ member)

theorem closeForEntry (closes : outcome ≠ .isOpen) :
    (session.closeForEntry state outcome note userId).Ready state := by
  refine ready.same_closed (session.closeForEntry state outcome note userId) rfl rfl ?_
  intro closure member
  simp only [Closing.closeForEntry, mem_map, mem_filter, decide_eq_true_eq] at member
  obtain ⟨itemId, ⟨-, ⟨review, found, isOpen⟩, -⟩, rfl⟩ := member
  exact ⟨closes, review, found, isOpen⟩

theorem begin {next} (accepted : session.begin state op = .ok next) : next.Ready state := by
  cases op with
  | load | expire | findOpen =>
    cases pure_ok.mp accepted
    exact ready.same_closed _ rfl rfl ready.toClose
  | reverse entryId =>
    simp only [Closing.begin, Closing.reverse, bind_ok, exists_unit, require_ok, orRefuse_ok, pure_ok] at accepted
    obtain ⟨entry, -, -, rfl⟩ := accepted
    exact ready.same_closed _ rfl rfl ready.toClose
  | decide itemId outcome note userId =>
    simp only [Closing.begin, Closing.decide, bind_ok, exists_unit, require_ok, orRefuse_ok, pure_ok] at accepted
    obtain ⟨row, found, ⟨isOpen, -⟩, known, -, -, rfl⟩ := accepted
    have closes : ∀ closure ∈ [(⟨itemId, outcome, note, userId⟩ : Closure)], closure.outcome ≠ .isOpen ∧
        ∃ review, state.reviews[closure.itemId]? = some review ∧ review.status = .isOpen := by
      intro closure member
      rw [mem_singleton.mp member]
      refine ⟨?_, row, found, isOpen⟩
      intro isOpen
      subst isOpen
      simp at known
    cases named : row.journalEntryId with
    | none => exact ready.same_closed _ rfl rfl closes
    | some entryId => exact ready.same_closed _ rfl rfl closes
  | correct note userId =>
    cases pure_ok.mp accepted
    exact ready.closeForEntry ReviewStatus.noConfusion
  | cancel note userId =>
    cases pure_ok.mp accepted
    exact ready.closeForEntry ReviewStatus.noConfusion

end

theorem closes {closure : Closure} {rest : List Closure} (ready : session.Ready state) (isNext : session.toClose = closure :: rest) :
    Closing.Ready state { session with toClose := rest, closed := session.closed ++ [closure] } := by
  constructor
  · rw [append_assoc, singleton_append, ← isNext]
    exact ready.held
  · intro look member
    obtain ⟨earlier, isClosed, review, found, named⟩ := ready.looked look member
    exact ⟨earlier, mem_append_left _ isClosed, review, found, named⟩

theorem looks {closure : Closure} (ready : session.Ready state) (look : Look) (isClosed : closure ∈ session.closed)
    (found : state.reviews[closure.itemId]? = some review) (named : review.journalEntryId = some look.entryId)
    (loaded : EntryId → Option JournalEntry) :
    Closing.Ready state { session with loaded, looks := session.looks ++ [look] } := by
  constructor
  · exact ready.held
  · intro other member
    rcases mem_append.mp member with earlier | isNew
    · exact ready.looked other earlier
    · rw [mem_singleton.mp isNew]
      exact ⟨closure, isClosed, review, found, named⟩

theorem release (ready : session.Ready state) : (session.release state).Ready state := by
  unfold Closing.release
  split
  · exact ready
  · rename_i closure rest isNext
    have after := ready.closes isNext
    have isClosed : closure ∈ session.closed ++ [closure] := by simp
    dsimp only
    split
    · exact after
    · rename_i entryId isNamed
      obtain ⟨review, found, named⟩ := Option.bind_eq_some_iff.mp isNamed
      unfold Closing.releaseEntry
      split
      · exact after.looks ⟨entryId, true, false⟩ isClosed found named _
      · split
        · exact after
        · exact after.looks ⟨entryId, false, _⟩ isClosed found named _

end Closing.Ready

namespace Returns.Ready

variable {state : ReviewState} {session : Returns}

section

variable (ready : session.Ready state)
include ready

theorem get (isEntry : session.get state entryId = some entry) :
    entryId < state.entries.length := by
  rw [Returns.get, Option.or_eq_some_iff] at isEntry
  rcases isEntry with loaded | ⟨-, viewed⟩
  · exact ready.loaded entryId entry loaded
  · obtain ⟨held, found, -⟩ := Option.map_eq_some_iff.mp viewed
    exact found_lt found

theorem update (entryId : EntryId) (entry : Option JournalEntry)
    (known : entry ≠ none → entryId < state.entries.length) :
    ∀ otherId other, Function.update session.loaded entryId entry otherId = some other →
      otherId < state.entries.length := by
  intro otherId other loaded
  by_cases same : otherId = entryId
  · subst same
    rw [Function.update_self] at loaded
    exact known (by rw [loaded]; exact Option.some_ne_none other)
  · rw [Function.update_of_ne same] at loaded
    exact ready.loaded otherId other loaded

theorem load (entryId : EntryId) : (session.load state entryId).Ready state := by
  refine ⟨ready.update entryId _ ?_, ready.registered⟩
  intro isSome
  obtain ⟨entry, isEntry⟩ := Option.ne_none_iff_exists'.mp isSome
  exact ready.get isEntry

theorem findReturn :
    (session.findReturn state returnId originalId entryId).Ready state := by
  unfold Returns.findReturn
  split
  · exact ⟨ready.loaded, ready.registered⟩
  · exact ⟨ready.loaded, ready.registered⟩

theorem register : (session.register state).Ready state := by
  unfold Returns.register
  split
  · exact ready
  · split
    · exact ⟨ready.loaded, ready.registered⟩
    · rename_i entry isEntry
      have inside := ready.get isEntry
      split
      · exact ⟨ready.loaded, ready.registered⟩
      · refine ⟨ready.update _ _ fun _ => inside, ?_⟩
        intro row member
        rcases mem_append.mp member with earlier | isNew
        · exact ready.registered row earlier
        · rw [mem_singleton.mp isNew]
          exact inside

end

end Returns.Ready

theorem opened_ready (state : ReviewState) (task : Task) : (opened task).Ready state := by
  cases task with
  | run => exact trivial
  | close => exact ⟨by simp, by simp⟩
  | returns => exact ⟨by simp, by simp⟩

theorem work_ready {next} (ready : session.Ready state) (accepted : work state session op = .ok next) :
    next.Ready state := by
  unfold work at accepted
  split at accepted
  · cases pure_ok.mp accepted
    exact trivial
  · simp only [bind_ok, exists_unit, require_ok, pure_ok] at accepted
    obtain ⟨-, after, begun, rfl⟩ := accepted
    exact Closing.Ready.begin ready begun
  · cases pure_ok.mp accepted
    exact Closing.Ready.release ready
  · cases pure_ok.mp accepted
    exact Returns.Ready.load ready _
  · cases pure_ok.mp accepted
    exact Returns.Ready.findReturn ready
  · cases pure_ok.mp accepted
    exact Returns.Ready.register ready
  · exact absurd accepted throw_ok

/-- Entries stay, and so do the items that are not held. -/
structure Frame (state next : ReviewState) (held : List ReviewId) : Prop where
  entries : state.entries.length ≤ next.entries.length
  reviews : ∀ (id : ReviewId) (review : AutoPostingReview), id ∉ held → state.reviews[id]? = some review →
    next.reviews[id]? = some review

theorem Frame.ready {next} (frame : Frame state next held) (ready : session.Ready state)
    (free : ∀ id ∈ locks session, id ∉ held) : session.Ready next := by
  cases session with
  | run posted => exact trivial
  | returns session =>
    refine ⟨fun entryId entry loaded => ?_, fun row member => ?_⟩
    · exact lt_of_lt_of_le (ready.loaded entryId entry loaded) frame.entries
    · exact lt_of_lt_of_le (ready.registered row member) frame.entries
  | close session =>
    have unheld : ∀ closure ∈ session.closed ++ session.toClose, closure.itemId ∉ held :=
      fun closure member => free _ (mem_map_of_mem member)
    constructor
    · intro closure member
      obtain ⟨closes, review, found, isOpen⟩ := ready.held closure member
      exact ⟨closes, review, frame.reviews _ review (unheld closure member) found, isOpen⟩
    · intro look member
      obtain ⟨closure, isClosed, review, found, named⟩ := ready.looked look member
      have stays := frame.reviews _ review (unheld closure (mem_append_left _ isClosed)) found
      exact ⟨closure, isClosed, review, stays, named⟩

theorem post_frame (state : ReviewState) (posted : List Posted) (held : List ReviewId) :
    Frame state (posted.foldl ReviewState.post state) held := by
  induction posted generalizing state with
  | nil => exact ⟨le_refl _, fun id review _ found => found⟩
  | cons first rest ih =>
    have later := ih (state.post first)
    constructor
    · refine le_trans ?_ later.entries
      simp [ReviewState.post]
    · intro id review unheld found
      exact later.reviews id review unheld (found_append found)

theorem commit_close {next} (accepted : commit state (.close session) = .ok next) :
    session.toClose = [] ∧ session.commit state = .ok next := by
  simpa only [commit, bind_ok, exists_unit, require_ok] using accepted

namespace Closing

variable {state next : ReviewState} {session : Closing}

theorem commit_entry (accepted : session.commit state = .ok next) (entryId : EntryId) :
    next.entries[entryId]? = session.view state entryId := by
  simp only [commit, bind_ok, exists_unit, require_ok, pure_ok] at accepted
  obtain ⟨-, rfl⟩ := accepted
  rw [view, List.getElem?_mapIdx]

theorem commit_review (accepted : session.commit state = .ok next) (id : ReviewId) :
    next.reviews[id]? = state.reviews[id]?.map fun review =>
      ((session.closed.find? fun closure => closure.itemId = id).map fun closure => closure.close review).getD review := by
  simp only [commit, bind_ok, exists_unit, require_ok, pure_ok] at accepted
  obtain ⟨-, rfl⟩ := accepted
  exact List.getElem?_mapIdx

theorem commit_unheld {id : ReviewId} (accepted : session.commit state = .ok next) (unheld : id ∉ session.closedIds) :
    next.reviews[id]? = state.reviews[id]? := by
  have none : (session.closed.find? fun closure => closure.itemId = id) = none := by
    rw [List.find?_eq_none]
    intro closure member same
    exact unheld (mem_map.mpr ⟨closure, member, of_decide_eq_true same⟩)
  rw [commit_review accepted, none]
  simp

theorem commit_held {id : ReviewId} (ready : session.Ready state) (accepted : session.commit state = .ok next)
    (held : id ∈ session.closedIds) (found : next.reviews[id]? = some review) : review.status ≠ .isOpen := by
  rw [commit_review accepted, Option.map_eq_some_iff] at found
  obtain ⟨before, -, rfl⟩ := found
  obtain ⟨closure, isClosed, same⟩ := mem_map.mp held
  cases first : session.closed.find? fun closure => closure.itemId = id with
  | none =>
    have differs := List.find?_eq_none.mp first closure isClosed
    exact absurd (decide_eq_true same) differs
  | some other => exact (ready.held other (mem_append_left _ (mem_of_find?_eq_some first))).1

theorem commit_frame (accepted : session.commit state = .ok next) : Frame state next session.closedIds := by
  constructor
  · simp only [commit, bind_ok, exists_unit, require_ok, pure_ok] at accepted
    obtain ⟨-, rfl⟩ := accepted
    rw [length_mapIdx]
  · intro id review unheld found
    rw [commit_unheld accepted unheld, found]

theorem commit_openIds {id : ReviewId} (ready : session.Ready state) (accepted : session.commit state = .ok next) :
    id ∈ openIds next.reviews entryId ↔ id ∈ openIds state.reviews entryId ∧ id ∉ session.closedIds := by
  rw [mem_openIds, mem_openIds]
  by_cases held : id ∈ session.closedIds
  · refine iff_of_false ?_ (fun both => both.2 held)
    rintro ⟨review, found, isOpen, -⟩
    exact commit_held ready accepted held found isOpen
  · rw [commit_unheld accepted held]
    exact ⟨fun found => ⟨found, held⟩, fun found => found.1⟩

theorem commit_flagged (accepted : session.commit state = .ok next) :
    Flagged next entryId ↔ Flagged state entryId ∧ ¬ session.Clears entryId := by
  rw [Flagged, Flagged, commit_entry accepted, view]
  cases state.entries[entryId]? with
  | none => simp
  | some entry => simp

theorem commit_exact (exact : FlagsExact state) (ready : session.Ready state)
    (accepted : session.commit state = .ok next) : FlagsExact next ↔ session.Current state := by
  have after : ∀ entryId, UnderReview next entryId ↔ session.Left state entryId := by
    intro entryId
    rw [underReview_iff]
    exact exists_congr fun id => commit_openIds ready accepted
  constructor
  · intro exactNext closure isClosed review found entryId named
    obtain ⟨-, row, foundRow, isOpen⟩ := ready.held closure (mem_append_left _ isClosed)
    obtain rfl : row = review := Option.mem_unique foundRow found
    have flagged := (exact entryId).mpr ⟨row, mem_of_getElem? found, isOpen, named⟩
    rw [← after, ← exactNext entryId, commit_flagged accepted]
    exact ⟨fun both => both.2, fun kept => ⟨flagged, kept⟩⟩
  · intro current entryId
    rw [commit_flagged accepted, after]
    by_cases closes : ∃ closure ∈ session.closed, ∃ review, state.reviews[closure.itemId]? = some review ∧
        review.journalEntryId = some entryId
    · obtain ⟨closure, isClosed, review, found, named⟩ := closes
      obtain ⟨-, row, foundRow, isOpen⟩ := ready.held closure (mem_append_left _ isClosed)
      obtain rfl : row = review := Option.mem_unique foundRow found
      have flagged := (exact entryId).mpr ⟨row, mem_of_getElem? found, isOpen, named⟩
      rw [current closure isClosed row found entryId named]
      exact ⟨fun both => both.2, fun kept => ⟨flagged, kept⟩⟩
    · -- No item of the entry is closed, so nothing about it changes.
      have keeps : ¬ session.Clears entryId := by
        rintro ⟨look, member, rfl, -⟩
        exact closes (ready.looked look member)
      have noneClosed : ∀ id ∈ openIds state.reviews entryId, id ∉ session.closedIds := by
        intro id isOpen held
        obtain ⟨closure, isClosed, rfl⟩ := mem_map.mp held
        obtain ⟨review, found, -, named⟩ := mem_openIds.mp isOpen
        exact closes ⟨closure, isClosed, review, found, named⟩
      rw [exact entryId, underReview_iff]
      constructor
      · rintro ⟨⟨id, isOpen⟩, -⟩
        exact ⟨id, isOpen, noneClosed id isOpen⟩
      · rintro ⟨id, isOpen, -⟩
        exact ⟨⟨id, isOpen⟩, keeps⟩

end Closing

namespace Returns

variable {state : ReviewState} {session : Returns}

theorem commit_flagged (ready : session.Ready state) :
    Flagged (session.commit state) entryId ↔ Flagged state entryId ∨ session.Raises entryId := by
  have inside : session.Raises entryId → entryId < state.entries.length := by
    rintro ⟨row, member, rfl, -⟩
    exact ready.registered row member
  rw [Flagged, Flagged, commit, List.getElem?_mapIdx]
  cases found : state.entries[entryId]? with
  | none =>
    have outside : ¬ session.Raises entryId :=
      fun raises => absurd (inside raises) (not_lt.mpr (List.getElem?_eq_none_iff.mp found))
    simp [outside]
  | some entry => simp

theorem commit_underReview : UnderReview (session.commit state) entryId ↔
    UnderReview state entryId ∨ ∃ row ∈ session.registered, row.entryId = entryId := by
  simp only [UnderReview, commit, mem_append, mem_map, or_and_right, exists_or]
  refine or_congr Iff.rfl ?_
  constructor
  · rintro ⟨_, ⟨row, member, rfl⟩, -, named⟩
    exact ⟨row, member, Option.some.inj named⟩
  · rintro ⟨row, member, rfl⟩
    exact ⟨_, ⟨row, member, rfl⟩, rfl, rfl⟩

theorem commit_frame (held : List ReviewId) : Frame state (session.commit state) held := by
  constructor
  · rw [commit, length_mapIdx]
  · intro id review _ found
    exact found_append found

theorem commit_exact (exact : FlagsExact state) (ready : session.Ready state) :
    FlagsExact (session.commit state) ↔ session.Current state := by
  constructor
  · intro exactNext row member
    have flagged := (exactNext row.entryId).mpr (commit_underReview.mpr (Or.inr ⟨row, member, rfl⟩))
    rcases (commit_flagged ready).mp flagged with before | raises
    · exact Or.inr ((exact row.entryId).mp before)
    · exact Or.inl raises
  · intro current entryId
    rw [commit_flagged ready, commit_underReview, exact entryId]
    constructor
    · rintro (before | ⟨row, member, same, -⟩)
      · exact Or.inl before
      · exact Or.inr ⟨row, member, same⟩
    · rintro (before | ⟨row, member, rfl⟩)
      · exact Or.inl before
      · exact (current row member).symm

end Returns

theorem post_flagged (state : ReviewState) (posted : Posted) :
    Flagged (state.post posted) entryId ↔
      Flagged state entryId ∨ (entryId = state.entries.length ∧ posted.due.isSome) := by
  constructor
  · rintro ⟨entry, found, pending⟩
    rcases found_append_one.mp found with old | ⟨isLast, rfl⟩
    · exact Or.inl ⟨entry, old, pending⟩
    · exact Or.inr ⟨isLast, pending⟩
  · rintro (⟨entry, found, pending⟩ | ⟨isLast, due⟩)
    · exact ⟨entry, found_append found, pending⟩
    · exact ⟨_, found_append_one.mpr (Or.inr ⟨isLast, rfl⟩), due⟩

theorem post_underReview (state : ReviewState) (posted : Posted) :
    UnderReview (state.post posted) entryId ↔
      UnderReview state entryId ∨ (entryId = state.entries.length ∧ posted.due.isSome) := by
  simp only [UnderReview, ReviewState.post, mem_append, or_and_right, exists_or]
  refine or_congr Iff.rfl ?_
  cases posted.due with
  | none => simp
  | some kind => simp [eq_comm]

theorem post_exact (exact : FlagsExact state) (posted : List Posted) :
    FlagsExact (posted.foldl ReviewState.post state) := by
  induction posted generalizing state with
  | nil => exact exact
  | cons first rest ih =>
    apply ih
    intro entryId
    rw [post_flagged, post_underReview, exact entryId]

theorem commit_exact {next} (exact : FlagsExact state) (ready : session.Ready state)
    (accepted : commit state session = .ok next) : FlagsExact next ↔ session.Current state := by
  cases session with
  | run posted =>
    cases pure_ok.mp accepted
    exact iff_of_true (post_exact exact posted) trivial
  | close session => exact Closing.commit_exact exact ready (commit_close accepted).2
  | returns session =>
    cases pure_ok.mp accepted
    exact Returns.commit_exact exact ready

theorem commit_frame {next} (accepted : commit state session = .ok next) :
    Frame state next (locks session) := by
  cases session with
  | run posted =>
    cases pure_ok.mp accepted
    exact post_frame state posted _
  | close session =>
    obtain ⟨none, committed⟩ := commit_close accepted
    rw [locks, none, append_nil]
    exact Closing.commit_frame committed
  | returns session =>
    cases pure_ok.mp accepted
    exact Returns.commit_frame _

/-- The flags are exact at every committed state exactly if every commit still finds what its transaction saw. -/
theorem review_flag_iff (exact : FlagsExact state) (moves : List (Move Task Op)) :
    (∀ moment ∈ trace engine.step ⟨state, []⟩ moves, FlagsExact moment.after.state) ↔
      ∀ moment ∈ trace engine.step ⟨state, []⟩ moves,
        Engine.Admitted Session.Current moment.before moment.call := by
  refine Engine.interleaving_exact ?_ opened_ready ?_ ?_ ?_ moves (Protocol.holds_initial exact)
  · intro task
    cases task <;> rfl
  · exact fun state session op next _ ready accepted => work_ready ready accepted
  · exact fun state session next exact ready accepted => commit_exact exact ready accepted
  · intro state session other next _ _ readyOther free accepted
    exact (commit_frame accepted).ready readyOther (Engine.Free.symm engine free)

/-- A movement posted at level L2 and returned, with a review for each. -/
def sampleReturned : List (Move Task Op) :=
  [.start .run, .work 0 (.post ⟨1, .l2, .debtorFull, false⟩), .commit 0,
   .start .returns, .work 0 (.findReturn 2 1 0), .work 0 .register, .commit 0]

theorem sampleReturned_iff :
    (∀ moment ∈ trace engine.step ⟨⟨[], []⟩, []⟩ sampleReturned, FlagsExact moment.after.state) ↔
      ∀ moment ∈ trace engine.step ⟨⟨[], []⟩, []⟩ sampleReturned,
        Engine.Admitted Session.Current moment.before moment.call :=
  review_flag_iff (by simp [FlagsExact, Flagged, UnderReview]) sampleReturned

/-- Two persons close the two reviews at the same time. -/
def sampleBothClosed : List (Move Task Op) :=
  sampleReturned ++ [.start .close, .start .close, .work 0 (.close (.decide 0 .ok none (some 1))),
    .work 1 (.close (.decide 1 .ok none (some 2))), .work 0 .release, .work 1 .release, .commit 0, .commit 0]

/-- Each closing sees the review of the other still open, so the flag stays. -/
theorem both_closed_still_flagged :
    ¬ ∀ moment ∈ trace engine.step ⟨⟨[], []⟩, []⟩ sampleBothClosed, FlagsExact moment.after.state := by
  have reached : ∃ moment ∈ (trace engine.step ⟨⟨[], []⟩, []⟩ sampleBothClosed).getLast?,
      Flagged moment.after.state 0 ∧ ¬ UnderReview moment.after.state 0 := by
    decide +kernel
  obtain ⟨moment, isLast, flagged, closed⟩ := reached
  intro exact
  exact closed ((exact moment (mem_of_getLast? isLast) 0).mp flagged)

end Mhvp.Banking.Review
