import Mhvp.Accounting.Services
import Mhvp.Lib.Table
import Mhvp.Lib.Transition

namespace Mhvp.Accounting.PeriodLocks

open Core Lib Lib.Calendar

/-- Switches of the tenant. -/
structure PeriodLockSetting where
  lockMode : LockMode := .ledgerOnly
  autoLockOnClose : Bool := false
  reopenEnabled : Bool := false

inductive LockSource
  | manual
  | statement
  | ownerStatement
  | hoaStatement
  deriving DecidableEq

/-- The whole row; the posting services read the part of the parent structure. -/
structure LockRow extends PeriodLock where
  source : LockSource := .manual
  statementId : Option ℕ := none
  reason : Option String := none
  createdBy : Option UserId := none
  releasedBy : Option UserId := none
  releaseReason : Option String := none
  releaseRequestedBy : Option UserId := none
  releaseRequestReason : Option String := none
  deriving DecidableEq

structure LockTables where
  books : Books
  setting : Option PeriodLockSetting := none
  locks : List LockRow := []

/-- The active lock covers a day of this ledger and property. -/
def LockRow.Covers (row : LockRow) (ledgerId : LedgerId) (propertyId : PropertyId) (day : Date) : Prop :=
  row.ledgerId = ledgerId ∧ row.propertyId = propertyId ∧ row.released = false ∧ row.periodFrom ≤ day ∧
    day ≤ row.periodTo

/-- The active lock meets a period of this ledger and property. -/
def LockRow.overlaps (ledgerId : LedgerId) (propertyId : PropertyId) (first last : Date) (row : LockRow) : Bool :=
  row.ledgerId = ledgerId ∧ row.propertyId = propertyId ∧ row.released = false ∧ row.periodFrom ≤ last ∧
    first ≤ row.periodTo

/-- The active lock was set for this statement. -/
def LockRow.ofStatement (source : LockSource) (statementId : ℕ) (row : LockRow) : Bool :=
  row.source = source ∧ row.statementId = some statementId ∧ row.released = false

/-- The constraints of the table: the order of the days, one active lock for each statement. -/
def insertLock (tables : LockTables) (row : LockRow) : Result (LockTables × ℕ) := do
  require (row.periodFrom ≤ row.periodTo) .databaseRefused
  require (∀ statementId ∈ row.statementId, tables.locks.all fun lock => !lock.ofStatement row.source statementId)
    .databaseRefused
  pure ({ tables with locks := tables.locks ++ [row] }, tables.locks.length)

def createLock (tables : LockTables) (userId : Option UserId) (ledgerId : LedgerId) (propertyId : PropertyId)
    (first last : Date) (reason : String) (source : LockSource := .manual) (statementId : Option ℕ := none) :
    Result (LockTables × ℕ) := do
  let _ledger ← orRefuse tables.books.ledgers[ledgerId]? .resourceNotFound "Buchungskreis nicht gefunden."
  require (propertyId ∈ tables.books.properties) .resourceNotFound "Objekt nicht gefunden."
  require (tables.locks.all fun lock => !lock.overlaps ledgerId propertyId first last) .conflict
    "Für Objekt und Zeitraum besteht bereits eine Sperre."
  insertLock tables
    { ledgerId, propertyId, periodFrom := first, periodTo := last, source, statementId, reason := some reason,
      createdBy := userId }

structure Closing where
  source : LockSource
  statementId : ℕ
  ledgerId : LedgerId
  propertyId : PropertyId
  periodFrom : Date
  periodTo : Date

structure LockInfo where
  periodLockProposed : Bool
  periodLockId : Option ℕ

/-- Called when a statement is closed. With the switch off only a proposal is returned. -/
def lockForClosedStatement (tables : LockTables) (userId : Option UserId) (closing : Closing) :
    Result (LockTables × LockInfo) :=
  let proposal : LockInfo := ⟨true, none⟩
  if tables.setting.any (·.autoLockOnClose) then
    match tables.locks.findIdx? (LockRow.ofStatement closing.source closing.statementId) with
    | some existing => pure (tables, ⟨false, some existing⟩)
    | none =>
      if tables.locks.any
          (LockRow.overlaps closing.ledgerId closing.propertyId closing.periodFrom closing.periodTo) then
        -- a lock of the period exists already; nothing to add
        pure (tables, proposal)
      else do
        let created ← createLock tables userId closing.ledgerId closing.propertyId closing.periodFrom closing.periodTo
          "Abschluss der Abrechnung" closing.source (some closing.statementId)
        pure (created.1, ⟨false, some created.2⟩)
  else pure (tables, proposal)

def activeLock (tables : LockTables) (lockId : ℕ) : Result LockRow := do
  let row ← orRefuse tables.locks[lockId]? .resourceNotFound "Sperre nicht gefunden."
  require (row.released = false) .conflict "Die Sperre ist bereits aufgehoben."
  pure row

def requestRelease (tables : LockTables) (lockId : ℕ) (userId : Option UserId) (reason : String) :
    Result LockTables := do
  require (tables.setting.any (·.reopenEnabled)) .accPeriodLockReleaseDisabled
  let row ← activeLock tables lockId
  pure { tables with
    locks := tables.locks.set lockId { row with releaseRequestedBy := userId, releaseRequestReason := some reason } }

def release (tables : LockTables) (lockId : ℕ) (userId : Option UserId) (reason : String) : Result LockTables := do
  require (tables.setting.any (·.reopenEnabled)) .accPeriodLockReleaseDisabled
  let row ← activeLock tables lockId
  require row.releaseRequestedBy.isSome .conflict "Es liegt kein Aufhebungsantrag vor."
  require (userId.isSome ∧ userId ≠ row.releaseRequestedBy) .gateFourEyes
    "Die Aufhebung muss eine andere Person als die antragstellende freigeben."
  pure { tables with
    locks := tables.locks.set lockId { row with released := true, releasedBy := userId, releaseReason := some reason } }

/-- The requests that write locks; each is one transaction. -/
inductive LockCall
  | create (userId : Option UserId) (ledgerId : LedgerId) (propertyId : PropertyId) (first last : Date)
      (reason : String)
  | close (userId : Option UserId) (closing : Closing)
  | requestRelease (lockId : ℕ) (userId : Option UserId) (reason : String)
  | release (lockId : ℕ) (userId : Option UserId) (reason : String)
  | updateSetting (setting : PeriodLockSetting)

def serve (tables : LockTables) : LockCall → Result LockTables
  | .create userId ledgerId propertyId first last reason => do
    let created ← createLock tables userId ledgerId propertyId first last reason
    pure created.1
  | .close userId closing => do
    let closed ← lockForClosedStatement tables userId closing
    pure closed.1
  | .requestRelease lockId userId reason => requestRelease tables lockId userId reason
  | .release lockId userId reason => release tables lockId userId reason
  | .updateSetting setting => pure { tables with setting := some setting }

/-- Every day of the period is covered by an active lock. -/
def LockTables.Covered (tables : LockTables) (ledgerId : LedgerId) (propertyId : PropertyId)
    (first last : Date) : Prop :=
  ∀ day, first ≤ day → day ≤ last → ∃ row ∈ tables.locks, row.Covers ledgerId propertyId day

/-- No two active locks of one ledger and property have a day in common. -/
def LockTables.Disjoint (tables : LockTables) : Prop :=
  ∀ (place other : ℕ) (row row' : LockRow), tables.locks[place]? = some row → tables.locks[other]? = some row' →
    place ≠ other → ∀ ledgerId propertyId day,
      ¬ (row.Covers ledgerId propertyId day ∧ row'.Covers ledgerId propertyId day)

section Locks
variable {tables next : LockTables} {row : LockRow}

theorem LockRow.Covers.overlaps
    (covers : row.Covers ledgerId propertyId day) (from' : first ≤ day) (until' : day ≤ last) :
    row.overlaps ledgerId propertyId first last = true := by
  obtain ⟨ledger, property, active, start, stop⟩ := covers
  simp [LockRow.overlaps, ledger, property, active, start.trans until', from'.trans stop]

/-- What an accepted creation adds: a lock of exactly the period, apart from all others. -/
theorem createLock_ok
    (accepted : createLock tables userId ledgerId propertyId first last reason source statementId = .ok (next, index)) :
    ledgerId < tables.books.ledgers.length ∧ propertyId ∈ tables.books.properties ∧
      (∀ row ∈ tables.locks, row.overlaps ledgerId propertyId first last = false) ∧
      ∃ row, row.ledgerId = ledgerId ∧ row.propertyId = propertyId ∧ row.released = false ∧ row.periodFrom = first ∧
        row.periodTo = last ∧ next = { tables with locks := tables.locks ++ [row] } := by
  simp only [createLock, insertLock, bind_ok, require_ok, orRefuse_ok, exists_unit, pure_ok] at accepted
  obtain ⟨_, ledger, property, apart, _, _, same⟩ := accepted
  cases same
  refine ⟨Table.found_lt ledger, property, ?_, _, rfl, rfl, rfl, rfl, rfl, rfl⟩
  simpa using apart

theorem lock_created {closing : Closing} (userId : Option UserId)
    (unlocked : ∀ row ∈ tables.locks, row.ofStatement closing.source closing.statementId = false)
    (apart : ∀ row ∈ tables.locks,
      row.overlaps closing.ledgerId closing.propertyId closing.periodFrom closing.periodTo = false)
    (ledger : closing.ledgerId < tables.books.ledgers.length) (property : closing.propertyId ∈ tables.books.properties)
    (ordered : closing.periodFrom ≤ closing.periodTo) (reason : String) :
    ∃ created, createLock tables userId closing.ledgerId closing.propertyId closing.periodFrom closing.periodTo reason
      closing.source (some closing.statementId) = .ok created := by
  simp only [createLock, insertLock, bind_ok, require_ok, orRefuse_ok, exists_unit, pure_ok]
  refine ⟨_, _, List.getElem?_eq_getElem ledger, property, ?_, ordered, ?_, rfl⟩
  · simpa using apart
  · intro statementId isStatement
    cases isStatement
    simpa using unlocked

theorem LockTables.Disjoint.append (disjoint : tables.Disjoint)
    (apart : ∀ other ∈ tables.locks, other.overlaps row.ledgerId row.propertyId row.periodFrom row.periodTo = false) :
    LockTables.Disjoint { tables with locks := tables.locks ++ [row] } := by
  have separate (other : LockRow) (member : other ∈ tables.locks) (ledgerId : LedgerId) (propertyId : PropertyId)
      (day : Date) (own : row.Covers ledgerId propertyId day) : ¬ other.Covers ledgerId propertyId day := by
    obtain ⟨rfl, rfl, -, start, stop⟩ := own
    intro covers
    exact Bool.false_ne_true ((apart other member).symm.trans (covers.overlaps start stop))
  intro place other first second isFirst isSecond differ ledgerId propertyId day both
  rcases Table.found_append_one.mp isFirst with old | ⟨last, rfl⟩ <;>
    rcases Table.found_append_one.mp isSecond with old' | ⟨last', rfl⟩
  · exact disjoint place other first second old old' differ ledgerId propertyId day both
  · exact separate first (List.mem_of_getElem? old) ledgerId propertyId day both.2 both.1
  · exact separate second (List.mem_of_getElem? old') ledgerId propertyId day both.1 both.2
  · exact differ (last.trans last'.symm)

theorem LockTables.Disjoint.set (disjoint : tables.Disjoint)
    (found : tables.locks[lockId]? = some row)
    (less : ∀ ledgerId propertyId day, changed.Covers ledgerId propertyId day → row.Covers ledgerId propertyId day) :
    LockTables.Disjoint { tables with locks := tables.locks.set lockId changed } := by
  intro place other first second isFirst isSecond differ ledgerId propertyId day both
  rcases (Table.found_set found).mp isFirst with ⟨rfl, rfl⟩ | ⟨-, old⟩ <;>
    rcases (Table.found_set found).mp isSecond with ⟨rfl, rfl⟩ | ⟨-, old'⟩
  · exact differ rfl
  · exact disjoint _ _ _ _ found old' differ ledgerId propertyId day ⟨less _ _ _ both.1, both.2⟩
  · exact disjoint _ _ _ _ old found differ ledgerId propertyId day ⟨both.1, less _ _ _ both.2⟩
  · exact disjoint _ _ _ _ old old' differ ledgerId propertyId day both

theorem activeLock_ok (accepted : activeLock tables lockId = .ok row) :
    tables.locks[lockId]? = some row := by
  simp only [activeLock, bind_ok, require_ok, orRefuse_ok, exists_unit, pure_ok] at accepted
  obtain ⟨_, found, _, rfl⟩ := accepted
  exact found

theorem lockForClosedStatement_ok {userId : Option UserId} {closing : Closing} {info : LockInfo}
    (accepted : lockForClosedStatement tables userId closing = .ok (next, info)) :
    next = tables ∨ ((∀ row ∈ tables.locks, row.ofStatement closing.source closing.statementId = false) ∧
      ∃ reason source statementId index, createLock tables userId closing.ledgerId closing.propertyId
        closing.periodFrom closing.periodTo reason source statementId = .ok (next, index)) := by
  rw [lockForClosedStatement] at accepted
  split at accepted
  · split at accepted
    · left
      cases accepted
      rfl
    · rename_i unlocked
      split at accepted
      · left
        cases accepted
        rfl
      · right
        obtain ⟨⟨created, index⟩, isCreated, same⟩ := bind_ok.mp accepted
        cases pure_ok.mp same
        exact ⟨List.findIdx?_eq_none_iff.mp unlocked, _, _, _, index, isCreated⟩
  · left
    cases accepted
    rfl

theorem serve_close {userId : Option UserId} {closing : Closing}
    (accepted : serve tables (.close userId closing) = .ok next) :
    ∃ info, lockForClosedStatement tables userId closing = .ok (next, info) := by
  simp only [serve, bind_ok, pure_ok] at accepted
  obtain ⟨⟨_, info⟩, isClosed, rfl⟩ := accepted
  exact ⟨info, isClosed⟩

theorem serve_disjoint (disjoint : tables.Disjoint) (accepted : serve tables call = .ok next) :
    next.Disjoint := by
  have created {userId : Option UserId} {ledgerId : LedgerId} {propertyId : PropertyId} {first last : Date}
      {reason : String} {source : LockSource} {statementId : Option ℕ} {index : ℕ} (isCreated :
        createLock tables userId ledgerId propertyId first last reason source statementId = .ok (next, index)) :
      next.Disjoint := by
    obtain ⟨_, _, apart, row, rfl, rfl, _, rfl, rfl, rfl⟩ := createLock_ok isCreated
    exact disjoint.append apart
  cases call with
  | create userId ledgerId propertyId first last reason =>
    simp only [serve, bind_ok, pure_ok] at accepted
    obtain ⟨⟨_, index⟩, isCreated, rfl⟩ := accepted
    exact created isCreated
  | close userId closing =>
    obtain ⟨info, isClosed⟩ := serve_close accepted
    rcases lockForClosedStatement_ok isClosed with same | ⟨_, _, _, _, _, isCreated⟩
    · exact same ▸ disjoint
    · exact created isCreated
  | requestRelease lockId userId reason =>
    simp only [serve, requestRelease, bind_ok, require_ok, exists_unit, pure_ok] at accepted
    obtain ⟨_, row, isRow, rfl⟩ := accepted
    exact disjoint.set (activeLock_ok isRow) fun _ _ _ covers => covers
  | release lockId userId reason =>
    simp only [serve, release, bind_ok, require_ok, exists_unit, pure_ok] at accepted
    obtain ⟨_, row, isRow, _, _, rfl⟩ := accepted
    exact disjoint.set (activeLock_ok isRow) fun _ _ _ covers => Bool.noConfusion covers.2.2.1
  | updateSetting setting =>
    cases accepted
    exact disjoint

theorem run_disjoint (disjoint : tables.Disjoint) (calls : List LockCall) :
    (Transition.run serve tables calls).Disjoint :=
  Transition.run_invariant (fun _ _ _ holds accepted => serve_disjoint holds accepted) calls disjoint

/-- The locks that cover the period before the closing, or the room for a new one. -/
def Lockable (tables : LockTables) (closing : Closing) : Prop :=
  tables.Covered closing.ledgerId closing.propertyId closing.periodFrom closing.periodTo ∨
    (∀ row ∈ tables.locks, row.ofStatement closing.source closing.statementId = false) ∧
    (∀ row ∈ tables.locks,
      row.overlaps closing.ledgerId closing.propertyId closing.periodFrom closing.periodTo = false) ∧
    closing.ledgerId < tables.books.ledgers.length ∧ closing.propertyId ∈ tables.books.properties

theorem covered_after_iff (userId : Option UserId) (closing : Closing)
    (switched : tables.setting.any (·.autoLockOnClose) = true) :
    (Transition.commit serve tables (.close userId closing)).Covered closing.ledgerId closing.propertyId
      closing.periodFrom closing.periodTo ↔ Lockable tables closing := by
  constructor
  · intro covered
    rcases Transition.commit_cases serve tables (.close userId closing) with same | accepted
    · exact Or.inl (same ▸ covered)
    · obtain ⟨info, isClosed⟩ := serve_close accepted
      rcases lockForClosedStatement_ok isClosed with same | ⟨unlocked, _, _, _, _, isCreated⟩
      · exact Or.inl (same ▸ covered)
      · obtain ⟨ledger, property, apart, -⟩ := createLock_ok isCreated
        exact Or.inr ⟨unlocked, apart, ledger, property⟩
  · intro lockable
    by_cases ordered : closing.periodFrom ≤ closing.periodTo
    · rcases lockable with covered | ⟨unlocked, apart, ledger, property⟩
      · rcases Transition.commit_cases serve tables (.close userId closing) with same | accepted
        · rw [same]
          exact covered
        · obtain ⟨info, isClosed⟩ := serve_close accepted
          intro day from' until'
          obtain ⟨row, member, covers⟩ := covered day from' until'
          rcases lockForClosedStatement_ok isClosed with same | ⟨_, _, _, _, _, isCreated⟩
          · exact ⟨row, by rw [same]; exact member, covers⟩
          · obtain ⟨_, _, apart, _⟩ := createLock_ok isCreated
            exact absurd ((apart row member).symm.trans (covers.overlaps from' until')) Bool.false_ne_true
      · obtain ⟨⟨created, index⟩, isCreated⟩ :=
          lock_created userId unlocked apart ledger property ordered "Abschluss der Abrechnung"
        have closed : serve tables (.close userId closing) = .ok created := by
          have none : tables.locks.any (LockRow.overlaps closing.ledgerId closing.propertyId closing.periodFrom
              closing.periodTo) = false := by simpa using apart
          simp only [serve, lockForClosedStatement, switched, if_true, List.findIdx?_eq_none_iff.mpr unlocked, none,
            isCreated]
          rfl
        obtain ⟨_, _, _, row, isLedger, isProperty, active, start, stop, rfl⟩ := createLock_ok isCreated
        rw [Transition.commit_accepted closed]
        intro day from' until'
        refine ⟨row, List.mem_append_right _ List.mem_cons_self, isLedger, isProperty, active, ?_, ?_⟩
        · exact start ▸ from'
        · exact stop ▸ until'
    · intro day from' until'
      exact absurd (from'.trans until') ordered

theorem disjoint_after_iff (userId : Option UserId) (closing : Closing) :
    (Transition.commit serve tables (.close userId closing)).Disjoint ↔ tables.Disjoint := by
  constructor
  · intro disjoint
    rcases Transition.commit_cases serve tables (.close userId closing) with same | accepted
    · exact same ▸ disjoint
    · obtain ⟨info, isClosed⟩ := serve_close accepted
      rcases lockForClosedStatement_ok isClosed with same | ⟨_, _, _, _, _, isCreated⟩
      · exact same ▸ disjoint
      · obtain ⟨_, _, _, row, _, _, _, _, _, isNext⟩ := createLock_ok isCreated
        rw [isNext] at disjoint
        intro place other first second isFirst isSecond
        exact disjoint place other first second (Table.found_append isFirst) (Table.found_append isSecond)
  · exact fun disjoint => run_disjoint disjoint [.close userId closing]

theorem closed_statement_locked_iff (userId : Option UserId) (closing : Closing)
    (switched : tables.setting.any (·.autoLockOnClose) = true) :
    let after := Transition.commit serve tables (.close userId closing)
    (after.Covered closing.ledgerId closing.propertyId closing.periodFrom closing.periodTo ∧ after.Disjoint ↔
      Lockable tables closing ∧ tables.Disjoint) ∧
      (tables.Disjoint → ∀ calls, (Transition.run serve tables calls).Disjoint) := by
  constructor
  · exact and_congr (covered_after_iff userId closing switched) (disjoint_after_iff userId closing)
  · exact fun disjoint calls => run_disjoint disjoint calls

end Locks

def quarterTables (locks : List LockRow) : LockTables where
  books := { ledgers := [{}], properties := [7] }
  setting := some { autoLockOnClose := true }
  locks := locks

def quarterLock : LockRow where
  ledgerId := 0
  propertyId := 7
  periodFrom := .ofYmd 2025 1 1
  periodTo := .ofYmd 2025 3 31

def yearClosing : Closing := ⟨.statement, 5, 0, 7, .ofYmd 2025 1 1, .ofYmd 2025 12 31⟩

theorem year_locked : (Transition.commit serve (quarterTables []) (.close none yearClosing)).Covered 0 7
    (.ofYmd 2025 1 1) (.ofYmd 2025 12 31) := by
  have room : Lockable (quarterTables []) yearClosing :=
    Or.inr ⟨by simp [quarterTables], by simp [quarterTables], by decide, by decide⟩
  have apart : (quarterTables []).Disjoint := fun _ _ _ _ found => by simp [quarterTables] at found
  exact ((closed_statement_locked_iff none yearClosing rfl).1.mpr ⟨room, apart⟩).1

theorem quarter_left_open : ¬ ∀ tables : LockTables, tables.setting.any (·.autoLockOnClose) = true → ∀ userId closing,
    (Transition.commit serve tables (.close userId closing)).Covered closing.ledgerId closing.propertyId
      closing.periodFrom closing.periodTo := by
  intro always
  obtain ⟨row, member, covers⟩ := always (quarterTables [quarterLock]) rfl none yearClosing (.ofYmd 2025 4 1)
    (by decide +kernel) (by decide +kernel)
  have same : (Transition.commit serve (quarterTables [quarterLock]) (.close none yearClosing)).locks =
      [quarterLock] := by decide +kernel
  rw [same, List.mem_singleton] at member
  subst member
  exact absurd covers.2.2.2.2 (by decide +kernel)

end Mhvp.Accounting.PeriodLocks
