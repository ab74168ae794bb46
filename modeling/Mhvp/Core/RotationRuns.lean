import Mathlib.Data.List.Forall2
import Mhvp.Core.KeyRotation
import Mhvp.Core.Problem

namespace Mhvp.Core.Crypto

variable {cipher : Cipher} {master blob : Bytes} {plaintext scope : String} {nonce : Nonce}

section

variable (sealed : encryptWithMaster cipher master plaintext scope nonce = .ok blob)
include sealed

theorem encryptWithMaster_ok :
    (encode scope).length < 256 ∧ blob = version ++ [UInt8.ofNat (encode scope).length] ++ encode scope ++ nonce.val ++
      cipher.encrypt (cipher.derive master (encode scope)) nonce (encode plaintext) (encode scope) := by
  rw [encryptWithMaster] at sealed
  split at sealed
  · cases sealed
  · rename_i short
    exact ⟨Nat.lt_of_not_le short, (Except.ok.inj sealed).symm⟩

theorem ciphertextScope_encrypted :
    ciphertextScope blob = .ok scope := by
  obtain ⟨short, rfl⟩ := encryptWithMaster_ok sealed
  have length : (UInt8.ofNat (encode scope).length).toNat = (encode scope).length := UInt8.toNat_ofNat_of_lt short
  simp [ciphertextScope, version, length, decode_encode]

end

end Mhvp.Core.Crypto

namespace Mhvp.Core.KeyRotation

open Core.Crypto List

variable {keys : Keys} {nonce : Nonce} {blob fresh : Bytes} {plaintext scope : String} {attempt : Attempt}
  {table : Table} {row row' row'' : Row} {column : String}

/-- The value opens with a key. -/
def Opens (cipher : Cipher) (master blob : Bytes) : Prop :=
  ∃ plaintext, decryptWithMaster cipher master blob = .ok plaintext

/-- A value of the old key and the same value of the new key. -/
structure Resealed (keys : Keys) (blob fresh : Bytes) (plaintext scope : String) : Prop where
  unread : ¬ Opens keys.cipher keys.new blob
  was : decryptWithMaster keys.cipher keys.old blob = .ok plaintext
  wasScope : ciphertextScope blob = .ok scope
  now : decryptWithMaster keys.cipher keys.new fresh = .ok plaintext
  nowScope : ciphertextScope fresh = .ok scope

theorem rotateBlob_rotated (rotated : rotateBlob keys nonce blob = .ok (.rotated fresh plaintext scope)) :
    Resealed keys blob fresh plaintext scope := by
  rw [rotateBlob] at rotated
  obtain ⟨found, isScope, rest⟩ := bind_ok.mp rotated
  split at rest
  · cases rest
  · cases rest
  · rename_i message unread
    obtain ⟨value, was, rest⟩ := bind_ok.mp rest
    obtain ⟨sealed, isSealed, rest⟩ := bind_ok.mp rest
    obtain ⟨opened, now, rest⟩ := bind_ok.mp rest
    split at rest
    · cases rest
    · rename_i same
      cases rest
      have same : opened = plaintext := not_not.mp same
      exact {
        unread := by
          rintro ⟨other, opens⟩
          rw [unread] at opens
          cases opens
        was
        wasScope := isScope
        now := same ▸ now
        nowScope := ciphertextScope_encrypted isSealed }

theorem rotateBlob_already (already : rotateBlob keys nonce blob = .ok .alreadyRotated) :
    Opens keys.cipher keys.new blob := by
  rw [rotateBlob] at already
  obtain ⟨found, -, rest⟩ := bind_ok.mp already
  split at rest
  · rename_i plaintext opened
    exact ⟨plaintext, opened⟩
  · cases rest
  · obtain ⟨value, -, rest⟩ := bind_ok.mp rest
    obtain ⟨sealed, -, rest⟩ := bind_ok.mp rest
    obtain ⟨opened, -, rest⟩ := bind_ok.mp rest
    split at rest <;> cases rest

/-- Nothing of the column could not be rotated. -/
def Outcome.Clean (outcome : Outcome) : Prop :=
  outcome.errors = [] ∧ ∀ found ∈ outcome.recorded, found.2 ≠ .mismatch

/-- The update of a column: the value alone, or the value with its hash. -/
def sealedWrites (keys : Keys) (table : Table) (row : Row) (column : String) (fresh : Bytes)
    (plaintext scope : String) : List (String × Value) :=
  match storedPrint table row column with
  | none => [(column, .bytes fresh)]
  | some _ =>
    [(printColumn column, .text (fingerprintWithMaster keys.cipher keys.new plaintext scope)), (column, .bytes fresh)]

theorem rotateColumn_cases (keys : Keys) (attempt : Attempt) (table : Table) (row : Row) (column : String) :
    (rotateColumn keys attempt table row column).writes = [] ∨
      ∃ blob fresh plaintext scope, row.value column = .bytes blob ∧ Resealed keys blob fresh plaintext scope ∧
        (rotateColumn keys attempt table row column).writes =
          sealedWrites keys table row column fresh plaintext scope := by
  rw [rotateColumn]
  cases stored : row.value column with
  | null => exact Or.inl rfl
  | text content => exact Or.inl rfl
  | bytes blob =>
    dsimp only
    cases rotated : rotateBlob keys (attempt.nonce table.name row.rowId column) blob with
    | error failure => cases failure <;> exact Or.inl rfl
    | ok rotation =>
      cases rotation with
      | alreadyRotated => exact Or.inl rfl
      | rotated fresh plaintext scope =>
        have moved := rotateBlob_rotated rotated
        cases print : storedPrint table row column with
        | none =>
          right
          exact ⟨blob, fresh, plaintext, scope, rfl, moved, by simp [sealedWrites, print]⟩
        | some hash =>
          by_cases differs : hash ≠ fingerprintWithMaster keys.cipher keys.old plaintext scope
          · left
            simp [differs]
          · right
            exact ⟨blob, fresh, plaintext, scope, rfl, moved, by simp [sealedWrites, print, differs]⟩

theorem rotateColumn_idle (idle : (rotateColumn keys attempt table row column).writes = [])
    (clean : (rotateColumn keys attempt table row column).Clean)
    (going : (rotateColumn keys attempt table row column).failed = none) (stored : row.value column = .bytes blob) :
    Opens keys.cipher keys.new blob := by
  rw [rotateColumn, stored] at idle clean going
  dsimp only at idle clean going
  cases rotated : rotateBlob keys (attempt.nonce table.name row.rowId column) blob with
  | error failure =>
    rw [rotated] at clean going
    cases failure with
    | cryptoError message => simp [Outcome.Clean] at clean
    | other type => simp at going
  | ok rotation =>
    rw [rotated] at idle clean
    cases rotation with
    | alreadyRotated => exact rotateBlob_already rotated
    | rotated fresh plaintext scope =>
      cases print : storedPrint table row column with
      | none => simp [print] at idle
      | some hash =>
        by_cases differs : hash ≠ fingerprintWithMaster keys.cipher keys.old plaintext scope
        · simp [print, differs, Outcome.Clean] at clean
        · simp [print, differs] at idle

/-- The hash next to a value: recomputed where there is one, else untouched. -/
def PrintMoved (keys : Keys) (table : Table) (row row' : Row) (column plaintext scope : String) : Prop :=
  match storedPrint table row column with
  | none => row'.value (printColumn column) = row.value (printColumn column)
  | some _ => row'.value (printColumn column) = .text (fingerprintWithMaster keys.cipher keys.new plaintext scope)

/-- An encrypted column of a row before and after: untouched, or moved with its hash. -/
inductive Moved (keys : Keys) (table : Table) (row row' : Row) (column : String) : Prop
  | same (value : row'.value column = row.value column)
      (print : row'.value (printColumn column) = row.value (printColumn column))
  | moved (blob fresh : Bytes) (plaintext scope : String) (was : row.value column = .bytes blob)
      (now : row'.value column = .bytes fresh) (resealed : Resealed keys blob fresh plaintext scope)
      (print : PrintMoved keys table row row' column plaintext scope)

theorem storedPrint_congr (same : row'.value (printColumn column) = row.value (printColumn column)) :
    storedPrint table row' column = storedPrint table row column := by
  rw [storedPrint, storedPrint, same]

theorem Moved.trans (first : Moved keys table row row' column) (second : Moved keys table row' row'' column) :
    Moved keys table row row'' column := by
  cases first with
  | same value print =>
    cases second with
    | same value' print' => exact .same (value'.trans value) (print'.trans print)
    | moved blob fresh plaintext scope was now resealed print' =>
      refine .moved blob fresh plaintext scope (value ▸ was) now resealed ?_
      rw [PrintMoved, storedPrint_congr print, print] at print'
      exact print'
  | moved blob fresh plaintext scope was now resealed print =>
    cases second with
    | same value' print' =>
      refine .moved blob fresh plaintext scope was (value'.trans now) resealed ?_
      rw [PrintMoved] at print ⊢
      rw [print']
      exact print
    | moved blob' fresh' plaintext' scope' was' now' resealed' print' =>
      -- a moved value opens with the new key and is not moved again
      rw [now] at was'
      cases was'
      exact absurd ⟨plaintext, resealed.now⟩ resealed'.unread

/-- A row before and after a rotation. -/
structure RowMoved (keys : Keys) (table : Table) (row row' : Row) : Prop where
  rowId : row'.rowId = row.rowId
  tenantId : row'.tenantId = row.tenantId
  moved : ∀ column ∈ table.encrypted, Moved keys table row row' column
  others : ∀ name, (∀ column ∈ table.encrypted, name ≠ column ∧ name ≠ printColumn column) →
    row'.value name = row.value name

theorem RowMoved.refl (row : Row) : RowMoved keys table row row :=
  ⟨rfl, rfl, fun _ _ => .same rfl rfl, fun _ _ => rfl⟩

theorem RowMoved.trans (first : RowMoved keys table row row') (second : RowMoved keys table row' row'') :
    RowMoved keys table row row'' where
  rowId := second.rowId.trans first.rowId
  tenantId := second.tenantId.trans first.tenantId
  moved := fun column member => (first.moved column member).trans (second.moved column member)
  others := fun name other => (second.others name other).trans (first.others name other)

theorem RowMoved.sees {keyScope : Scope} (moved : RowMoved keys table row row') :
    keyScope.sees row' = keyScope.sees row := by
  cases keyScope with
  | platform => rfl
  | tenant tenantId => rw [Scope.sees, Scope.sees, moved.tenantId]

/-- Every filled encrypted column of the row opens with the new key. -/
def RowDone (keys : Keys) (table : Table) (row : Row) : Prop :=
  ∀ column ∈ table.encrypted, ∀ blob, row.value column = .bytes blob → Opens keys.cipher keys.new blob

theorem RowMoved.done (moved : RowMoved keys table row row') (done : RowDone keys table row) :
    RowDone keys table row' := by
  intro column member blob stored
  cases moved.moved column member with
  | same value print => exact done column member blob (value ▸ stored)
  | moved first fresh plaintext scope was now resealed print =>
    rw [now] at stored
    cases stored
    exact ⟨plaintext, resealed.now⟩

/-- What the columns of a row write. -/
def writesOf (keys : Keys) (attempt : Attempt) (table : Table) (row : Row) (column : String) : List (String × Value) :=
  (rotateColumn keys attempt table row column).writes

theorem Report.ok_extend :
    (Progress.extend { writes, report, failed } outcome).report.Ok ↔ report.Ok ∧ outcome.Clean := by
  simp only [Progress.extend, Report.Ok, Report.count, Outcome.Clean, append_eq_nil_iff, countP_append,
    Nat.add_eq_zero_iff, countP_eq_zero, decide_eq_true_eq]
  tauto

theorem rotateColumns_spec (columns : List String) (progress : Progress)
    (going : (rotateColumns keys attempt table row columns progress).failed = none) :
    (rotateColumns keys attempt table row columns progress).writes =
        progress.writes ++ columns.flatMap (writesOf keys attempt table row) ∧
      ((rotateColumns keys attempt table row columns progress).report.Ok → progress.report.Ok ∧
        ∀ column ∈ columns, (rotateColumn keys attempt table row column).Clean ∧
          (rotateColumn keys attempt table row column).failed = none) := by
  induction columns generalizing progress with
  | nil => simp [rotateColumns]
  | cons column rest ih =>
    rw [rotateColumns] at going ⊢
    by_cases stopped : (progress.extend (rotateColumn keys attempt table row column)).failed.isSome
    · rw [if_pos stopped] at going
      rw [going] at stopped
      cases stopped
    · rw [if_neg stopped] at going ⊢
      obtain ⟨writes, clean⟩ := ih _ going
      constructor
      · rw [writes, Progress.extend, flatMap_cons, append_assoc]
        rfl
      · intro isOk
        obtain ⟨before, later⟩ := clean isOk
        obtain ⟨isOk, own⟩ := Report.ok_extend.mp before
        refine ⟨isOk, ?_⟩
        intro other member
        cases member with
        | head => exact ⟨own, Option.not_isSome_iff_eq_none.mp stopped⟩
        | tail _ member => exact later other member

theorem Table.ne_printColumn (isEncrypted : column ∈ table.encrypted)
    (otherEncrypted : other ∈ table.encrypted) : other ≠ printColumn column := by
  obtain ⟨found, isFound, rfl⟩ := mem_map.mp isEncrypted
  obtain ⟨print, isPrint, rfl⟩ := mem_map.mp otherEncrypted
  obtain ⟨isFound, foundType⟩ := mem_filter.mp isFound
  obtain ⟨isPrint, printType⟩ := mem_filter.mp isPrint
  intro same
  exact table.plainPrints found isFound print isPrint same (of_decide_eq_true printType)

theorem printColumn_injective : Function.Injective printColumn := by
  intro first second same
  have characters := congrArg String.toList same
  rw [printColumn, printColumn, String.toList_append, String.toList_append] at characters
  exact String.toList_inj.mp (append_cancel_right characters)

theorem lookup_flatMap {writes : String → List (String × Value)} {name : String} {columns : List String}
    (member : column ∈ columns) (apart : ∀ other ∈ columns, other ≠ column → (writes other).lookup name = none) :
    (columns.flatMap writes).lookup name = (writes column).lookup name := by
  induction columns with
  | nil => cases member
  | cons first rest ih =>
    have later := fun other isOther => apart other (mem_cons_of_mem _ isOther)
    rw [flatMap_cons, lookup_append]
    by_cases same : first = column
    · subst same
      by_cases again : first ∈ rest
      · rw [ih again later, Option.or_self]
      · have none' : (rest.flatMap writes).lookup name = none := by
          rw [lookup_eq_none_iff]
          intro found isFound
          obtain ⟨other, isOther, isWritten⟩ := mem_flatMap.mp isFound
          exact lookup_eq_none_iff.mp (later other isOther (ne_of_mem_of_not_mem isOther again)) found isWritten
        rw [none', Option.or_none]
    · rw [apart first mem_cons_self same, Option.none_or]
      have member : column ∈ rest := (mem_cons.mp member).resolve_left (Ne.symm same)
      exact ih member later

theorem writesOf_lookup (notOwn : name ≠ column) (notPrint : name ≠ printColumn column) :
    (writesOf keys attempt table row column).lookup name = none := by
  rw [lookup_eq_none_iff]
  intro found isFound
  rcases rotateColumn_cases keys attempt table row column with idle | ⟨blob, fresh, plaintext, scope, -, -, written⟩
  · rw [writesOf, idle] at isFound
    cases isFound
  · rw [writesOf, written, sealedWrites] at isFound
    split at isFound <;> simp at isFound
    · simpa [isFound] using notOwn
    · rcases isFound with rfl | rfl
      · simpa using notPrint
      · simpa using notOwn

theorem write_column (keys : Keys) (attempt : Attempt) (row : Row) (isEncrypted : column ∈ table.encrypted) :
    let written := row.write (table.encrypted.flatMap (writesOf keys attempt table row))
    written.value column = ((writesOf keys attempt table row column).lookup column).getD (row.value column) ∧
      written.value (printColumn column) =
        ((writesOf keys attempt table row column).lookup (printColumn column)).getD
          (row.value (printColumn column)) := by
  have own : ∀ other ∈ table.encrypted, other ≠ column → (writesOf keys attempt table row other).lookup column = none :=
    fun other isOther differs => writesOf_lookup (Ne.symm differs) (table.ne_printColumn isOther isEncrypted)
  have print : ∀ other ∈ table.encrypted, other ≠ column →
      (writesOf keys attempt table row other).lookup (printColumn column) = none :=
    fun other isOther differs => writesOf_lookup (Ne.symm (table.ne_printColumn isEncrypted isOther))
      fun same => differs (printColumn_injective same).symm
  constructor
  · rw [Row.write_value, lookup_flatMap isEncrypted own]
  · rw [Row.write_value, lookup_flatMap isEncrypted print]

theorem write_moved (row : Row) :
    RowMoved keys table row (row.write (table.encrypted.flatMap (writesOf keys attempt table row))) where
  rowId := rfl
  tenantId := rfl
  moved := by
    intro column isEncrypted
    obtain ⟨value, print⟩ := write_column keys attempt row isEncrypted
    have differs : printColumn column ≠ column := Ne.symm (table.ne_printColumn isEncrypted isEncrypted)
    rcases rotateColumn_cases keys attempt table row column with
      idle | ⟨blob, fresh, plaintext, scope, was, resealed, written⟩
    · rw [writesOf, idle] at value print
      exact .same value print
    · rw [writesOf, written, sealedWrites] at value print
      cases stored : storedPrint table row column with
      | none =>
        rw [stored] at value print
        refine .moved blob fresh plaintext scope was (by simpa using value) resealed ?_
        rw [PrintMoved, stored]
        simpa [List.lookup_cons, beq_false_of_ne differs] using print
      | some hash =>
        rw [stored] at value print
        refine .moved blob fresh plaintext scope was ?_ resealed ?_
        · simpa [List.lookup_cons, beq_false_of_ne (Ne.symm differs)] using value
        · rw [PrintMoved, stored]
          simpa using print
  others := by
    intro name other
    have absent : (table.encrypted.flatMap (writesOf keys attempt table row)).lookup name = none := by
      rw [lookup_eq_none_iff]
      intro found isFound
      obtain ⟨column, isColumn, isWritten⟩ := mem_flatMap.mp isFound
      obtain ⟨notOwn, notPrint⟩ := other column isColumn
      exact lookup_eq_none_iff.mp (writesOf_lookup notOwn notPrint) found isWritten
    rw [Row.write_value, absent, Option.getD_none]

theorem write_done (clean : ∀ column ∈ table.encrypted, (rotateColumn keys attempt table row column).Clean ∧
    (rotateColumn keys attempt table row column).failed = none) :
    RowDone keys table (row.write (table.encrypted.flatMap (writesOf keys attempt table row))) := by
  intro column isEncrypted blob stored
  obtain ⟨value, -⟩ := write_column keys attempt row isEncrypted
  rcases rotateColumn_cases keys attempt table row column with
    idle | ⟨old, fresh, plaintext, scope, was, resealed, written⟩
  · rw [writesOf, idle, stored] at value
    exact rotateColumn_idle idle (clean column isEncrypted).1 (clean column isEncrypted).2 value.symm
  · have differs : printColumn column ≠ column := Ne.symm (table.ne_printColumn isEncrypted isEncrypted)
    have fresh' : (sealedWrites keys table row column fresh plaintext scope).lookup column = some (.bytes fresh) := by
      rw [sealedWrites]
      split <;> simp [List.lookup_cons, beq_false_of_ne (Ne.symm differs)]
    rw [writesOf, written, fresh', stored] at value
    cases value
    exact ⟨plaintext, resealed.now⟩

variable {keyScope : Scope} {report : Report}

/-- A later report of the same run: it has the same blockers, and no finding is lost. -/
structure Report.Later (report later : Report) : Prop where
  blockers : later.blockers = report.blockers
  ok : later.Ok → report.Ok

theorem Report.Later.refl (report : Report) : report.Later report := ⟨rfl, id⟩

theorem Report.Later.trans {between later : Report} (first : report.Later between) (second : between.Later later) :
    report.Later later :=
  ⟨second.blockers.trans first.blockers, fun isOk => first.ok (second.ok isOk)⟩

theorem rotateColumns_later (columns : List String) (progress : Progress) :
    progress.report.Later (rotateColumns keys attempt table row columns progress).report := by
  induction columns generalizing progress with
  | nil => exact .refl _
  | cons column rest ih =>
    have extended : progress.report.Later (progress.extend (rotateColumn keys attempt table row column)).report :=
      ⟨rfl, fun isOk => (Report.ok_extend.mp isOk).1⟩
    rw [rotateColumns]
    split
    · exact extended
    · exact extended.trans (ih _)

/-- What one turn of the loop over the rows does: an exception leaves the rest, or the row is carried over. -/
theorem rotateTarget_cons (keys : Keys) (attempt : Attempt) (keyScope : Scope) (table : Table) (row : Row)
    (rest : List Row) (report : Report) :
    let done := rotateTarget keys attempt keyScope table (row :: rest) report
    (done.rows = row :: rest ∧ done.failed.isSome ∧ report.Later done.report) ∨
      ∃ (carried : Row) (between : Report),
        done = { rotateTarget keys attempt keyScope table rest between with
                 rows := carried :: (rotateTarget keys attempt keyScope table rest between).rows } ∧
          report.Later between ∧ RowMoved keys table row carried ∧ (attempt.dryRun = true → carried = row) ∧
          (attempt.dryRun = false → between.Ok → keyScope.sees row = true → RowDone keys table carried) := by
  intro done
  by_cases unseen : keyScope.sees row = false
  · right
    refine ⟨row, report, ?_, .refl report, .refl row, fun _ => rfl, fun _ _ seen => absurd seen (by simp [unseen])⟩
    simp [done, rotateTarget, unseen]
  · cases ended : (rotateColumns keys attempt table row table.encrypted { report }).failed with
    | some failure =>
      left
      have isDone : done = { rows := row :: rest
                             report := (rotateColumns keys attempt table row table.encrypted { report }).report
                             failed := some failure } := by
        simp [done, rotateTarget, unseen, ended]
      rw [isDone]
      exact ⟨rfl, rfl, rotateColumns_later table.encrypted { report }⟩
    | none =>
      obtain ⟨writes, clean⟩ := rotateColumns_spec table.encrypted { report } ended
      rw [nil_append] at writes
      have before : report.Later (rotateColumns keys attempt table row table.encrypted { report }).report :=
        rotateColumns_later table.encrypted { report }
      by_cases idle : (rotateColumns keys attempt table row table.encrypted { report }).writes = [] ∨
          attempt.dryRun = true
      · right
        refine ⟨row, (rotateColumns keys attempt table row table.encrypted { report }).report, ?_, before, .refl row,
          fun _ => rfl, ?_⟩
        · simp [done, rotateTarget, unseen, ended, idle]
        · intro applied isOk _
          have nothing := idle.resolve_right (by simp [applied])
          have written := write_done (clean isOk).2
          rw [← writes, nothing] at written
          exact written
      · by_cases refused : attempt.refuses table.name row.rowId = true
        · left
          have isDone : done = { rows := row :: rest
                                 report := (rotateColumns keys attempt table row table.encrypted { report }).report
                                 failed := some (.other "DBAPIError") } := by
            simp [done, rotateTarget, unseen, ended, idle, refused]
          rw [isDone]
          exact ⟨rfl, rfl, before⟩
        · right
          refine ⟨row.write (table.encrypted.flatMap (writesOf keys attempt table row)),
            (rotateColumns keys attempt table row table.encrypted { report }).report, ?_, before,
            write_moved row, ?_, ?_⟩
          · rw [← writes]
            simp [done, rotateTarget, unseen, ended, idle, refused]
          · intro dry
            exact absurd (Or.inr dry) idle
          · intro _ isOk _
            exact write_done (clean isOk).2

theorem rotateTarget_moved (rows : List Row) (report : Report) :
    List.Forall₂ (RowMoved keys table) rows (rotateTarget keys attempt keyScope table rows report).rows := by
  induction rows generalizing report with
  | nil => exact .nil
  | cons row rest ih =>
    rcases rotateTarget_cons keys attempt keyScope table row rest report with
      ⟨same, -, -⟩ | ⟨carried, between, isDone, -, moved, -, -⟩
    · rw [same]
      exact List.forall₂_same.mpr fun found _ => .refl found
    · rw [isDone]
      exact .cons moved (ih between)

theorem rotateTarget_later (rows : List Row) (report : Report) :
    report.Later (rotateTarget keys attempt keyScope table rows report).report := by
  induction rows generalizing report with
  | nil => exact .refl report
  | cons row rest ih =>
    rcases rotateTarget_cons keys attempt keyScope table row rest report with
      ⟨-, -, before⟩ | ⟨carried, between, isDone, before, -, -, -⟩
    · exact before
    · rw [isDone]
      exact before.trans (ih between)

theorem rotateTarget_dry (dry : attempt.dryRun = true) (rows : List Row) (report : Report) :
    (rotateTarget keys attempt keyScope table rows report).rows = rows := by
  induction rows generalizing report with
  | nil => rfl
  | cons row rest ih =>
    rcases rotateTarget_cons keys attempt keyScope table row rest report with
      ⟨same, -, -⟩ | ⟨carried, between, isDone, -, -, same, -⟩
    · exact same
    · rw [isDone]
      exact congrArg₂ List.cons (same dry) (ih between)

theorem rotateTarget_done (applied : attempt.dryRun = false) (rows : List Row) (report : Report)
    (isOk : (rotateTarget keys attempt keyScope table rows report).report.Ok)
    (going : (rotateTarget keys attempt keyScope table rows report).failed = none) :
    ∀ found ∈ (rotateTarget keys attempt keyScope table rows report).rows, keyScope.sees found = true →
      RowDone keys table found := by
  induction rows generalizing report with
  | nil =>
    intro found member
    cases member
  | cons row rest ih =>
    rcases rotateTarget_cons keys attempt keyScope table row rest report with
      ⟨-, stopped, -⟩ | ⟨carried, between, isDone, -, moved, -, done⟩
    · rw [going] at stopped
      cases stopped
    · rw [isDone] at isOk going ⊢
      intro found member seen
      cases member with
      | head =>
        exact done applied ((rotateTarget_later rest between).ok isOk) (moved.sees.symm.trans seen)
      | tail _ member => exact ih between isOk going found member seen

/-- A table before and after a rotation. -/
structure TableMoved (keys : Keys) (table table' : Table) : Prop where
  name : table'.name = table.name
  columns : table'.columns = table.columns
  rows : List.Forall₂ (RowMoved keys table) table.rows table'.rows

theorem TableMoved.refl (table : Table) : TableMoved keys table table :=
  ⟨rfl, rfl, List.forall₂_same.mpr fun row _ => .refl row⟩

section Columns

variable {table' : Table} (same : table'.columns = table.columns)

include same

theorem Table.encrypted_congr : table'.encrypted = table.encrypted := by rw [Table.encrypted, Table.encrypted, same]

theorem Table.has_congr (name : String) : table'.has name = table.has name := by rw [Table.has, Table.has, same]

theorem Table.isTarget_congr : table'.isTarget = table.isTarget := by
  rw [Table.isTarget, Table.isTarget, Table.encrypted_congr same, Table.has_congr same]

theorem Table.concerns_congr : keyScope.concerns table' = keyScope.concerns table := by
  rw [Scope.concerns, Scope.concerns, Table.tenantScoped, Table.tenantScoped, Table.has_congr same]

end Columns

theorem RowMoved.congr (same : table'.columns = table.columns)
    (moved : RowMoved keys table' row row') : RowMoved keys table row row' := by
  have columns := Table.encrypted_congr same
  refine ⟨moved.rowId, moved.tenantId, ?_, columns ▸ moved.others⟩
  intro column isEncrypted
  cases moved.moved column (columns ▸ isEncrypted) with
  | same value print => exact .same value print
  | moved blob fresh plaintext scope was now resealed print =>
    refine .moved blob fresh plaintext scope was now resealed ?_
    rw [PrintMoved, storedPrint, Table.has_congr same] at print
    exact print

theorem forall₂_comp {First Middle Last : Type} {before : First → Middle → Prop} {after : Middle → Last → Prop}
    {both : First → Last → Prop}
    (compose : ∀ {first middle last}, before first middle → after middle last → both first last)
    {firsts : List First} {middles : List Middle} {lasts : List Last} (start : List.Forall₂ before firsts middles)
    (ends : List.Forall₂ after middles lasts) : List.Forall₂ both firsts lasts := by
  induction start generalizing lasts with
  | nil =>
    cases ends
    exact .nil
  | cons first _ ih =>
    cases ends with
    | cons second rest => exact .cons (compose first second) (ih rest)

theorem forall₂_origin (pairs : List.Forall₂ related firsts lasts) (member : last ∈ lasts) :
    ∃ first ∈ firsts, related first last := by
  induction pairs with
  | nil => cases member
  | cons pair _ ih =>
    cases member with
    | head => exact ⟨_, mem_cons_self, pair⟩
    | tail _ member =>
      obtain ⟨first, isFirst, related⟩ := ih member
      exact ⟨first, mem_cons_of_mem _ isFirst, related⟩

theorem TableMoved.trans {table' table'' : Table} (first : TableMoved keys table table')
    (second : TableMoved keys table' table'') : TableMoved keys table table'' where
  name := second.name.trans first.name
  columns := second.columns.trans first.columns
  rows := forall₂_comp (fun before after => before.trans (after.congr first.columns)) first.rows second.rows

/-- The rows a scope sees of a target table are done. -/
def TableDone (keys : Keys) (keyScope : Scope) (table : Table) : Prop :=
  table.isTarget = true → keyScope.concerns table = true → ∀ row ∈ table.rows, keyScope.sees row = true →
    RowDone keys table row

theorem TableMoved.done {table' : Table} (moved : TableMoved keys table table') (done : TableDone keys keyScope table) :
    TableDone keys keyScope table' := by
  intro target concerned found member seen
  obtain ⟨before, isBefore, rowMoved⟩ := forall₂_origin moved.rows member
  rw [Table.isTarget_congr moved.columns] at target
  rw [Table.concerns_congr moved.columns] at concerned
  have rowDone := rowMoved.done (done target concerned before isBefore (rowMoved.sees.symm.trans seen))
  rw [RowDone, Table.encrypted_congr moved.columns]
  exact rowDone

theorem rotateTable_moved (table : Table) (report : Report) :
    TableMoved keys table (rotateTable keys attempt keyScope table report).1 := by
  rw [rotateTable]
  split
  · exact .refl table
  · dsimp only
    split
    · exact .refl table
    · exact ⟨rfl, rfl, rotateTarget_moved table.rows report⟩

theorem rotateTable_later (table : Table) (report : Report) :
    report.Later (rotateTable keys attempt keyScope table report).2 := by
  rw [rotateTable]
  split
  · exact .refl report
  · have later : report.Later (rotateTarget keys attempt keyScope table table.rows report).report :=
      rotateTarget_later table.rows report
    dsimp only
    split
    · exact ⟨later.blockers, fun isOk => absurd isOk.1 (by simp [Report.fail])⟩
    · exact later

theorem rotateTable_done (applied : attempt.dryRun = false) (table : Table) (report : Report)
    (isOk : (rotateTable keys attempt keyScope table report).2.Ok) :
    TableDone keys keyScope (rotateTable keys attempt keyScope table report).1 := by
  rw [rotateTable] at isOk ⊢
  split at isOk
  · rename_i apart
    rw [if_pos apart]
    intro target concerned
    rcases apart with other | other
    · rw [target] at other
      cases other
    · rw [concerned] at other
      cases other
  · rename_i covered
    rw [if_neg covered]
    dsimp only at isOk ⊢
    split at isOk
    · simp [Report.Ok, Report.fail] at isOk
    · rename_i going
      exact fun _ _ => rotateTarget_done applied table.rows report isOk going

theorem rotateTable_dry (dry : attempt.dryRun = true) (table : Table) (report : Report) :
    (rotateTable keys attempt keyScope table report).1 = table := by
  rw [rotateTable]
  split
  · rfl
  · dsimp only
    split
    · rfl
    · rw [rotateTarget_dry dry]

theorem rotateTables_moved (tables : List Table) (report : Report) :
    List.Forall₂ (TableMoved keys) tables (rotateTables keys attempt keyScope tables report).1 := by
  induction tables generalizing report with
  | nil => exact .nil
  | cons table rest ih => exact .cons (rotateTable_moved table report) (ih _)

theorem rotateTables_later (tables : List Table) (report : Report) :
    report.Later (rotateTables keys attempt keyScope tables report).2 := by
  induction tables generalizing report with
  | nil => exact .refl report
  | cons table rest ih => exact (rotateTable_later table report).trans (ih _)

theorem rotateTables_done (applied : attempt.dryRun = false) (tables : List Table) (report : Report)
    (isOk : (rotateTables keys attempt keyScope tables report).2.Ok) :
    ∀ table ∈ (rotateTables keys attempt keyScope tables report).1, TableDone keys keyScope table := by
  induction tables generalizing report with
  | nil =>
    intro table member
    cases member
  | cons table rest ih =>
    intro found member
    cases member with
    | head => exact rotateTable_done applied table report ((rotateTables_later rest _).ok isOk)
    | tail _ member => exact ih _ isOk found member

theorem rotateTables_dry (dry : attempt.dryRun = true) (tables : List Table) (report : Report) :
    (rotateTables keys attempt keyScope tables report).1 = tables := by
  induction tables generalizing report with
  | nil => rfl
  | cons table rest ih => exact congrArg₂ List.cons (rotateTable_dry dry table report) (ih _)

theorem rotateScopes_moved (covered : List Scope) (tables : List Table) (report : Report) :
    List.Forall₂ (TableMoved keys) tables (rotateScopes keys attempt covered tables report).1 := by
  induction covered generalizing tables report with
  | nil => exact List.forall₂_same.mpr fun table _ => .refl table
  | cons keyScope rest ih => exact forall₂_comp .trans (rotateTables_moved tables report) (ih _ _)

theorem rotateScopes_later (covered : List Scope) (tables : List Table) (report : Report) :
    report.Later (rotateScopes keys attempt covered tables report).2 := by
  induction covered generalizing tables report with
  | nil => exact .refl report
  | cons keyScope rest ih => exact (rotateTables_later tables report).trans (ih _ _)

theorem rotateScopes_done (applied : attempt.dryRun = false) (covered : List Scope) (tables : List Table)
    (report : Report) (isOk : (rotateScopes keys attempt covered tables report).2.Ok) : ∀ keyScope ∈ covered,
    ∀ table ∈ (rotateScopes keys attempt covered tables report).1, TableDone keys keyScope table := by
  induction covered generalizing tables report with
  | nil =>
    intro keyScope member
    cases member
  | cons keyScope rest ih =>
    intro other member
    cases member with
    | head =>
      intro table isTable
      have between := (rotateScopes_later rest _ _).ok isOk
      -- what is done stays done while the other scopes are rotated
      obtain ⟨origin, isOrigin, moved⟩ := forall₂_origin (rotateScopes_moved rest _ _) isTable
      exact moved.done (rotateTables_done applied tables report between origin isOrigin)
    | tail _ member => exact ih _ _ isOk other member

theorem rotateScopes_dry (dry : attempt.dryRun = true) (covered : List Scope) (tables : List Table) (report : Report) :
    (rotateScopes keys attempt covered tables report).1 = tables := by
  induction covered generalizing tables report with
  | nil => rfl
  | cons keyScope rest ih =>
    rw [rotateScopes, ih, rotateTables_dry dry]

variable {db : Db} {final : Db} {covered : List Scope}

theorem runScopes_moved (attempt : Attempt) (db : Db) (covered : List Scope) :
    List.Forall₂ (TableMoved keys) db.tables (runScopes keys attempt db covered).2.tables :=
  rotateScopes_moved covered db.tables _

theorem runScopes_idle (idle : attempt.dryRun = true ∨ (prepared db attempt).1.blockers ≠ []) :
    (runScopes keys attempt db covered).2 = db := by
  have dry : (prepared db attempt).2.dryRun = true := by simpa [prepared] using idle
  have same : (rotateScopes keys (prepared db attempt).2 covered db.tables (prepared db attempt).1).1 = db.tables :=
    rotateScopes_dry dry covered db.tables _
  rw [runScopes]
  dsimp only
  rw [same]

theorem attempted_moved (keys : Keys) (attempts : List (Attempt × ℕ)) (db : Db) :
    List.Forall₂ (TableMoved keys) db.tables (attempted keys attempts db).tables ∧
      (attempted keys attempts db).tenants = db.tenants := by
  induction attempts generalizing db with
  | nil => exact ⟨List.forall₂_same.mpr fun table _ => .refl table, rfl⟩
  | cons first rest ih =>
    obtain ⟨attempt, committed⟩ := first
    obtain ⟨moved, tenants⟩ := ih (interrupted keys attempt committed db)
    rw [attempted]
    rw [interrupted] at moved tenants ⊢
    by_cases same : keys.old = keys.new
    · rw [if_pos same] at moved tenants ⊢
      exact ⟨moved, tenants⟩
    · rw [if_neg same] at moved tenants ⊢
      exact ⟨forall₂_comp .trans (runScopes_moved attempt db _) moved, tenants⟩

/-- Every row of a tenant table belongs to a tenant (foreign key). -/
def Db.ForeignKeys (db : Db) : Prop :=
  ∀ table ∈ db.tables, table.tenantScoped = true → ∀ row ∈ table.rows,
    ∃ tenantId ∈ db.tenants, row.tenantId = some tenantId

/-- What a ciphertext held: under the new key if it was rotated already, else under the old one. -/
def Original (keys : Keys) (blob : Bytes) (plaintext : String) : Prop :=
  decryptWithMaster keys.cipher keys.new blob = .ok plaintext ∨
    (¬ Opens keys.cipher keys.new blob ∧ decryptWithMaster keys.cipher keys.old blob = .ok plaintext)

/-- The new key opens the value to what it held, under the same scope. Its hash is that of the new key; next to a value
that was rotated already it stays as it was stored. -/
structure Renewed (keys : Keys) (table : Table) (row row' : Row) (column : String) (blob fresh : Bytes)
    (plaintext : String) : Prop where
  stored : row'.value column = .bytes fresh
  original : Original keys blob plaintext
  opens : decryptWithMaster keys.cipher keys.new fresh = .ok plaintext
  scope : ciphertextScope fresh = ciphertextScope blob
  kept : Opens keys.cipher keys.new blob → row'.value (printColumn column) = row.value (printColumn column)
  recomputed : ¬ Opens keys.cipher keys.new blob → ∀ found, ciphertextScope blob = .ok found →
    (storedPrint table row column).isSome →
      row'.value (printColumn column) = .text (fingerprintWithMaster keys.cipher keys.new plaintext found)

/-- Every ciphertext of the row is renewed. -/
def RowRenewed (keys : Keys) (table : Table) (row row' : Row) : Prop :=
  row'.rowId = row.rowId ∧ ∀ column ∈ table.encrypted, ∀ blob, row.value column = .bytes blob →
    ∃ fresh plaintext, Renewed keys table row row' column blob fresh plaintext

/-- Every ciphertext of a target table is renewed. -/
def TableRenewed (keys : Keys) (table table' : Table) : Prop :=
  table'.name = table.name ∧ table'.columns = table.columns ∧
    (table.isTarget = true → List.Forall₂ (RowRenewed keys table) table.rows table'.rows)

theorem RowMoved.renewed (moved : RowMoved keys table row row') (done : RowDone keys table row') :
    RowRenewed keys table row row' := by
  refine ⟨moved.rowId, ?_⟩
  intro column isEncrypted blob was
  cases moved.moved column isEncrypted with
  | same value print =>
    have stored := value.trans was
    obtain ⟨plaintext, opens⟩ := done column isEncrypted blob stored
    exact ⟨blob, plaintext, {
      stored
      original := Or.inl opens
      opens
      scope := rfl
      kept := fun _ => print
      recomputed := fun unread => absurd ⟨plaintext, opens⟩ unread }⟩
  | moved old fresh plaintext scope wasOld now resealed print =>
    rw [was] at wasOld
    cases wasOld
    exact ⟨fresh, plaintext, {
      stored := now
      original := Or.inr ⟨resealed.unread, resealed.was⟩
      opens := resealed.now
      scope := resealed.nowScope.trans resealed.wasScope.symm
      kept := fun opened => absurd opened resealed.unread
      recomputed := by
        intro _ found isScope filled
        obtain ⟨hash, isHash⟩ := Option.isSome_iff_exists.mp filled
        rw [resealed.wasScope] at isScope
        cases isScope
        rw [PrintMoved, isHash] at print
        exact print }⟩

theorem exists_scope (known : db.ForeignKeys) (isTable : table ∈ db.tables) (member : row ∈ table.rows) :
    ∃ keyScope ∈ scopes db, keyScope.concerns table = true ∧ keyScope.sees row = true := by
  by_cases ofTenants : table.tenantScoped = true
  · obtain ⟨tenantId, isTenant, owned⟩ := known table isTable ofTenants row member
    refine ⟨.tenant tenantId, mem_cons_of_mem _ (mem_map_of_mem isTenant), ?_, ?_⟩
    · simp [Scope.concerns, ofTenants]
    · simp [Scope.sees, owned]
  · refine ⟨.platform, mem_cons_self, ?_, rfl⟩
    simpa [Scope.concerns] using ofTenants

theorem forall₂_members (pairs : List.Forall₂ related firsts lasts) :
    List.Forall₂ (fun first last => first ∈ firsts ∧ last ∈ lasts ∧ related first last) firsts lasts := by
  induction pairs with
  | nil => exact .nil
  | cons pair _ ih =>
    refine .cons ⟨mem_cons_self, mem_cons_self, pair⟩ (ih.imp ?_)
    rintro first last ⟨isFirst, isLast, related⟩
    exact ⟨mem_cons_of_mem _ isFirst, mem_cons_of_mem _ isLast, related⟩

/-- A finished run without findings renews every ciphertext that was stored before all attempts; a dry run and a run
with blockers write nothing. -/
theorem finished_run_renews (keys : Keys) (db : Db) (known : db.ForeignKeys) (attempts : List (Attempt × ℕ))
    (attempt : Attempt) (report : Report) (final : Db)
    (finished : run keys attempt (attempted keys attempts db) = .ok (report, final)) :
    (attempt.dryRun = false → report.Ok → List.Forall₂ (TableRenewed keys) db.tables final.tables) ∧
      (attempt.dryRun = true ∨ report.blockers ≠ [] → final = attempted keys attempts db) := by
  rw [run] at finished
  split at finished
  · cases finished
  · obtain ⟨movedBefore, tenants⟩ := attempted_moved keys attempts db
    generalize attempted keys attempts db = before at movedBefore tenants finished ⊢
    have isRun : runScopes keys attempt before (scopes before) = (report, final) := Except.ok.inj finished
    have sameReport : (rotateScopes keys (prepared before attempt).2 (scopes before) before.tables
        (prepared before attempt).1).2 = report := congrArg Prod.fst isRun
    have sameTables : (rotateScopes keys (prepared before attempt).2 (scopes before) before.tables
        (prepared before attempt).1).1 = final.tables := congrArg (fun done => done.2.tables) isRun
    have blockers : report.blockers = (prepared before attempt).1.blockers :=
      sameReport ▸ (rotateScopes_later (scopes before) before.tables (prepared before attempt).1).blockers
    constructor
    · intro applied isOk
      have writing : (prepared before attempt).2.dryRun = false := by
        have free := blockers ▸ isOk.2.1
        simpa [prepared, applied] using free
      have done : ∀ keyScope ∈ scopes before, ∀ table ∈ final.tables, TableDone keys keyScope table :=
        sameTables ▸ rotateScopes_done writing (scopes before) before.tables _ (sameReport ▸ isOk)
      have movedLast : List.Forall₂ (TableMoved keys) before.tables final.tables :=
        sameTables ▸ rotateScopes_moved (scopes before) before.tables _
      have movedAll : List.Forall₂ (TableMoved keys) db.tables final.tables :=
        forall₂_comp (fun first second => first.trans second) movedBefore movedLast
      refine (forall₂_members movedAll).imp ?_
      rintro table table' ⟨isTable, isTable', moved⟩
      refine ⟨moved.name, moved.columns, fun target => ?_⟩
      refine (forall₂_members moved.rows).imp ?_
      rintro row row' ⟨member, member', rowMoved⟩
      obtain ⟨keyScope, isScope, concerned, seen⟩ := exists_scope known isTable member
      have isScope : keyScope ∈ scopes before := by rwa [scopes, tenants]
      have rowDone := done keyScope isScope table' isTable' ((Table.isTarget_congr moved.columns).trans target)
        ((Table.concerns_congr moved.columns).trans concerned) row' member' (rowMoved.sees.trans seen)
      apply rowMoved.renewed
      rw [RowDone, ← Table.encrypted_congr moved.columns]
      exact rowDone
    · intro idle
      rw [blockers] at idle
      exact (congrArg Prod.snd isRun).symm.trans (runScopes_idle idle)

/-- Stands for AES-GCM: a text after its key opens with this key only. -/
def sampleCipher : Cipher where
  derive master info := master ++ info
  encrypt key _ plaintext _ := key ++ plaintext
  decrypt key _ sealed _ := if key <+: sealed then some (sealed.drop key.length) else none
  digest key message := String.ofList ((key ++ message).map fun byte => Char.ofNat byte.toNat)

theorem sampleCipher_lawful : sampleCipher.Lawful := by
  intro key nonce plaintext associated
  simp [sampleCipher]

def sampleKeys : Keys := { cipher := sampleCipher, old := [1], new := [2] }

def sampleNonce : Nonce := ⟨List.replicate 12 0, rfl⟩

def sampleBlob (master : Bytes) : Bytes :=
  (encryptWithMaster sampleCipher master "DE02" "t" sampleNonce).toOption.getD []

/-- One bank account under a key, with the hash of a key. -/
def sampleDb (master printMaster : Bytes) : Db where
  tables := [{
    name := "contact_bank_account"
    columns := [⟨"id", .other⟩, ⟨"tenant_id", .other⟩, ⟨"iban", .encryptedText⟩, ⟨"iban_fingerprint", .string⟩]
    rows := [{ rowId := 0, tenantId := some 7, value := fun name =>
      if name = "iban" then .bytes (sampleBlob master)
      else if name = "iban_fingerprint" then .text (fingerprintWithMaster sampleCipher printMaster "DE02" "t")
      else .null }]
    distinct := by decide
    plainPrints := by decide +kernel }]
  tenants := [7]

def sampleAttempt (dryRun : Bool) : Attempt := { dryRun, nonce := fun _ _ _ => sampleNonce }

def storedValue (db : Db) (column : String) : Option Value :=
  (db.tables.head?.bind fun table => table.rows.head?).map fun row => row.value column

/-- The report of a dry run is without findings although the value still needs the old key; and a value that was
rotated before keeps a hash of the old key although the run is without findings. -/
theorem ok_leaves_old_values : sampleCipher.Lawful ∧
    (∃ report final, run sampleKeys (sampleAttempt true) (sampleDb [1] [1]) = .ok (report, final) ∧ report.Ok ∧
      storedValue final "iban" = some (.bytes (sampleBlob [1])) ∧
      decryptWithMaster sampleCipher [2] (sampleBlob [1]) = .error (.cryptoError "ciphertext cannot be decrypted")) ∧
    ∃ report final, run sampleKeys (sampleAttempt false) (sampleDb [2] [1]) = .ok (report, final) ∧ report.Ok ∧
      decryptWithMaster sampleCipher [2] (sampleBlob [2]) = .ok "DE02" ∧
      storedValue final "iban_fingerprint" = some (.text (fingerprintWithMaster sampleCipher [1] "DE02" "t")) ∧
      fingerprintWithMaster sampleCipher [1] "DE02" "t" ≠ fingerprintWithMaster sampleCipher [2] "DE02" "t" := by
  refine ⟨sampleCipher_lawful, ?_, ?_⟩
  · refine ⟨(runScopes sampleKeys (sampleAttempt true) (sampleDb [1] [1]) [.platform, .tenant 7]).1,
      (runScopes sampleKeys (sampleAttempt true) (sampleDb [1] [1]) [.platform, .tenant 7]).2, ?_, ?_, ?_, ?_⟩
    · rw [run, if_neg (by decide)]
      rfl
    · decide +kernel
    · decide +kernel
    · decide +kernel
  · refine ⟨(runScopes sampleKeys (sampleAttempt false) (sampleDb [2] [1]) [.platform, .tenant 7]).1,
      (runScopes sampleKeys (sampleAttempt false) (sampleDb [2] [1]) [.platform, .tenant 7]).2, ?_, ?_, ?_, ?_, ?_⟩
    · rw [run, if_neg (by decide)]
      rfl
    · decide +kernel
    · decide +kernel
    · decide +kernel
    · decide +kernel

/-- A run stopped before the tenant, then a whole one. -/
theorem sample_run_renews : ∃ (report : Report) (final : Db), report.Ok ∧
    List.Forall₂ (TableRenewed sampleKeys) (sampleDb [1] [1]).tables final.tables ∧
      storedValue final "iban" = some (.bytes (sampleBlob [2])) := by
  have known : (sampleDb [1] [1]).ForeignKeys := by
    intro table isTable _ row member
    obtain rfl := mem_singleton.mp isTable
    obtain rfl := mem_singleton.mp member
    exact ⟨7, mem_singleton_self 7, rfl⟩
  have finished : run sampleKeys (sampleAttempt false)
      (attempted sampleKeys [(sampleAttempt false, 1)] (sampleDb [1] [1])) =
        .ok (runScopes sampleKeys (sampleAttempt false)
          (attempted sampleKeys [(sampleAttempt false, 1)] (sampleDb [1] [1])) [.platform, .tenant 7]) := by
    rw [run, if_neg (by decide)]
    rfl
  have isOk : (runScopes sampleKeys (sampleAttempt false)
      (attempted sampleKeys [(sampleAttempt false, 1)] (sampleDb [1] [1])) [.platform, .tenant 7]).1.Ok := by
    decide +kernel
  exact ⟨_, _, isOk, (finished_run_renews sampleKeys (sampleDb [1] [1]) known [(sampleAttempt false, 1)]
    (sampleAttempt false) _ _ finished).1 rfl isOk, by decide +kernel⟩

end Mhvp.Core.KeyRotation
