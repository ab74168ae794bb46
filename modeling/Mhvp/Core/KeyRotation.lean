import Mathlib.Data.List.Infix

/-! Field encryption: one key per scope, derived from the master key. -/

namespace Mhvp.Core.Crypto

abbrev Bytes := List UInt8

/-- `text.encode()` -/
def encode (text : String) : Bytes := text.toUTF8.data.toList

/-- `data.decode()` -/
def decode (data : Bytes) : Option String := String.fromUTF8? ⟨data.toArray⟩

theorem decode_encode (text : String) : decode (encode text) = some text := by
  have bytes : (⟨text.toUTF8.data.toList.toArray⟩ : ByteArray) = text.toUTF8 := by
    cases text.toUTF8
    simp
  rw [decode, encode, bytes, String.fromUTF8?]
  split
  · rfl
  · rename_i invalid
    exact absurd text.isValidUTF8 invalid

/-- `os.urandom(12)` -/
abbrev Nonce := { bytes : Bytes // bytes.length = 12 }

/-- The primitives: HKDF-SHA256, AES-256-GCM and HMAC-SHA256. -/
structure Cipher where
  derive (master info : Bytes) : Bytes
  encrypt (key nonce plaintext associated : Bytes) : Bytes
  /-- `none` for a tag that does not verify. -/
  decrypt (key nonce sealed associated : Bytes) : Option Bytes
  digest (key message : Bytes) : String

/-- What is sealed under a key opens under this key. -/
def Cipher.Lawful (cipher : Cipher) : Prop :=
  ∀ (key : Bytes) (nonce : Nonce) (plaintext associated : Bytes),
    cipher.decrypt key nonce (cipher.encrypt key nonce plaintext associated) associated = some plaintext

inductive Failure
  | cryptoError (message : String)
  /-- Any other exception, by its type. -/
  | other (type : String)
  deriving DecidableEq

/-- `b"v1"` -/
def version : Bytes := [118, 49]

def nonceBytes : ℕ := 12

/-- Scope stored in the header (no key needed). -/
def ciphertextScope (blob : Bytes) : Except Failure String :=
  if blob.take 2 ≠ version then .error (.cryptoError "unknown ciphertext version")
  else match blob[2]? with
    | none => .error (.other "IndexError")
    | some length => match decode ((blob.drop 3).take length.toNat) with
      | none => .error (.other "UnicodeDecodeError")
      | some scope => .ok scope

/-- Length byte of the scope. -/
def scopeLength (blob : Bytes) : ℕ := (blob[2]?.map UInt8.toNat).getD 0

variable (cipher : Cipher)

/-- Decrypts under an explicitly given master key, scope from the header. -/
def decryptWithMaster (master blob : Bytes) : Except Failure String := do
  let scope ← ciphertextScope blob
  let start := 3 + scopeLength blob
  let nonce := (blob.drop start).take nonceBytes
  let sealed := blob.drop (start + nonceBytes)
  match (cipher.decrypt (cipher.derive master (encode scope)) nonce sealed (encode scope)).bind decode with
  | some plaintext => pure plaintext
  | none => .error (.cryptoError "ciphertext cannot be decrypted")

def encryptWithMaster (master : Bytes) (plaintext scope : String) (nonce : Nonce) : Except Failure Bytes :=
  let scopeBytes := encode scope
  -- `bytes([len(scope_bytes)])`
  if 256 ≤ scopeBytes.length then .error (.other "ValueError")
  else .ok (version ++ [UInt8.ofNat scopeBytes.length] ++ scopeBytes ++ nonce.val ++
    cipher.encrypt (cipher.derive master scopeBytes) nonce (encode plaintext) scopeBytes)

/-- Keyed hash for exact matching of encrypted values within one scope. -/
def fingerprintWithMaster (master : Bytes) (value scope : String) : String :=
  cipher.digest (cipher.derive master (encode (scope ++ ":fingerprint"))) (encode value)

end Mhvp.Core.Crypto

namespace Mhvp.Core.KeyRotation

open Core.Crypto

inductive ColumnType
  | encryptedText
  | string
  | json
  | other
  deriving DecidableEq

structure Column where
  name : String
  type : ColumnType

inductive Value
  | null
  | bytes (content : Bytes)
  | text (content : String)
  deriving DecidableEq

abbrev TenantId := ℕ

structure Row where
  rowId : ℕ
  tenantId : Option TenantId := none
  value : String → Value

/-- Column with the keyed hash of an encrypted column. -/
def printColumn (column : String) : String := column ++ "_fingerprint"

/-- A mapped table; a column name stands for one column, and no hash is itself encrypted. -/
structure Table where
  name : String
  columns : List Column
  rows : List Row
  distinct : (columns.map (·.name)).Nodup
  plainPrints : ∀ column ∈ columns, ∀ print ∈ columns, print.name = printColumn column.name →
    print.type ≠ .encryptedText

namespace Table

def has (table : Table) (name : String) : Bool := table.columns.any (·.name = name)

def encrypted (table : Table) : List String :=
  (table.columns.filter (·.type = .encryptedText)).map (·.name)

def tenantScoped (table : Table) : Bool := table.has "tenant_id"

/-- At least one encrypted column, and an id. -/
def isTarget (table : Table) : Bool := table.encrypted ≠ [] && table.has "id"

end Table

/-- Tables in the order of their names, and the tenants. -/
structure Db where
  tables : List Table
  tenants : List TenantId

inductive Scope
  | platform
  | tenant (tenantId : TenantId)
  deriving DecidableEq

/-- `target.tenant_scoped == tenant` -/
def Scope.concerns (scope : Scope) (table : Table) : Bool := table.tenantScoped = decide (scope ≠ .platform)

/-- Row level security: a tenant sees its own rows. -/
def Scope.sees : Scope → Row → Bool
  | .platform, _ => true
  | .tenant tenantId, row => row.tenantId = some tenantId

inductive Status
  | alreadyRotated
  | rotated
  | recomputed
  | mismatch
  | error
  deriving DecidableEq

structure Blocker where
  scope : Scope
  table : String
  column : String
  rows : ℕ
  reason : String

structure Issue where
  table : String
  column : Option String := none
  row : Option ℕ := none
  failure : Failure

/-- The counts are those of the recorded statuses. -/
structure Report where
  dryRun : Bool
  recorded : List (String × Status) := []
  blockers : List Blocker := []
  errors : List Issue := []

namespace Report

def fail (report : Report) (issue : Issue) : Report := { report with errors := report.errors ++ [issue] }

def count (report : Report) (status : Status) : ℕ := report.recorded.countP (·.2 = status)

/-- `report.ok` -/
def Ok (report : Report) : Prop := report.errors = [] ∧ report.blockers = [] ∧ report.count .mismatch = 0

instance (report : Report) : Decidable report.Ok := inferInstanceAs (Decidable (_ ∧ _ ∧ _))

end Report

/-- `name.removesuffix("_fingerprint")` -/
def partner (name : String) : String :=
  if "_fingerprint".toList <:+ name.toList then
    String.ofList (name.toList.take (name.length - "_fingerprint".length))
  else name

/-- Hash columns whose plaintext is not an encrypted column of the same table. -/
def unpairedFingerprintColumns (table : Table) : List String :=
  (table.columns.filter fun column =>
    "fingerprint".toList <:+ column.name.toList ∧ column.type = .string ∧
      partner column.name ∉ table.encrypted).map (·.name)

def jsonColumns (table : Table) : List String := (table.columns.filter (·.type = .json)).map (·.name)

/-- `LIKE '%pattern%'`: an underscore stands for any character. -/
def likeStart : List Char → List Char → Bool
  | [], _ => true
  | _ :: _, [] => false
  | mark :: pattern, ch :: text => (mark = '_' || mark = ch) && likeStart pattern text

def contains (text : String) (pattern : String) : Bool := text.toList.tails.any (likeStart pattern.toList)

def quote : Char := Char.ofNat 34

/-- `"secret_enc"` in quotes. -/
def embeddedKey : String := String.ofList (quote :: "secret_enc".toList ++ [quote])

def embeds : Value → Bool
  | .text content => contains content embeddedKey
  | _ => false

def blockersOf (scope : Scope) (table : Table) : List Blocker :=
  let seen := table.rows.filter scope.sees
  let blocker (column reason : String) (holds : Value → Bool) : Option Blocker :=
    let rows := seen.countP fun row => holds (row.value column)
    if rows = 0 then none else some { scope, table := table.name, column, rows, reason }
  (unpairedFingerprintColumns table).filterMap
      (blocker · "fingerprint_without_encrypted_partner" (· ≠ .null)) ++
    (jsonColumns table).filterMap (blocker · "embedded_ciphertext:secret_enc" embeds)

def checkBlockers (db : Db) (scope : Scope) : List Blocker :=
  (db.tables.filter scope.concerns).flatMap (blockersOf scope)

structure Keys where
  cipher : Cipher
  old : Bytes
  new : Bytes

inductive Rotation
  | alreadyRotated
  | rotated (fresh : Bytes) (plaintext scope : String)

/-- Under the new key, unless it already is; the round trip is checked in memory. -/
def rotateBlob (keys : Keys) (nonce : Nonce) (blob : Bytes) : Except Failure Rotation := do
  let scope ← ciphertextScope blob
  match decryptWithMaster keys.cipher keys.new blob with
  | .ok _ => pure .alreadyRotated
  | .error (.other type) => .error (.other type)
  | .error (.cryptoError _) =>
    let plaintext ← decryptWithMaster keys.cipher keys.old blob
    let fresh ← encryptWithMaster keys.cipher keys.new plaintext scope nonce
    let opened ← decryptWithMaster keys.cipher keys.new fresh
    if opened ≠ plaintext then .error (.cryptoError "round trip failed")
    else pure (.rotated fresh plaintext scope)

/-- One attempt to rotate: its mode, its random numbers and the updates a grant or a trigger refuses. -/
structure Attempt where
  dryRun : Bool
  nonce : String → ℕ → String → Nonce
  refuses : String → ℕ → Bool := fun _ _ => false

/-- What one column of a row adds to the update and to the report. -/
structure Outcome where
  writes : List (String × Value) := []
  recorded : List (String × Status) := []
  errors : List Issue := []
  failed : Option Failure := none

/-- The stored hash of an encrypted column, if the table has one and it is filled. -/
def storedPrint (table : Table) (row : Row) (column : String) : Option String :=
  match table.has (printColumn column), row.value (printColumn column) with
  | true, .text stored => some stored
  | _, _ => none

def rotateColumn (keys : Keys) (attempt : Attempt) (table : Table) (row : Row) (column : String) : Outcome :=
  let key := table.name ++ "." ++ column
  let printKey := table.name ++ "." ++ printColumn column
  match row.value column with
  | .bytes blob =>
    match rotateBlob keys (attempt.nonce table.name row.rowId column) blob with
    | .error (.cryptoError message) =>
      { recorded := [(key, .error)]
        errors := [{ table := table.name, column := some column, row := some row.rowId,
                     failure := .cryptoError message }] }
    | .error (.other type) => { failed := some (.other type) }
    | .ok .alreadyRotated => { recorded := [(key, .alreadyRotated)] }
    | .ok (.rotated fresh plaintext scope) =>
      match storedPrint table row column with
      | none => { writes := [(column, .bytes fresh)], recorded := [(key, .rotated)] }
      | some stored =>
        if stored ≠ fingerprintWithMaster keys.cipher keys.old plaintext scope then
          { recorded := [(key, .rotated), (printKey, .mismatch)] }
        else
          { writes := [(printColumn column, .text (fingerprintWithMaster keys.cipher keys.new plaintext scope)),
              (column, .bytes fresh)]
            recorded := [(key, .rotated), (printKey, .recomputed)] }
  | _ => {}

/-- The update of a row and the report so far; an exception ends the loop. -/
structure Progress where
  writes : List (String × Value) := []
  report : Report
  failed : Option Failure := none

def Progress.extend (progress : Progress) (outcome : Outcome) : Progress where
  writes := progress.writes ++ outcome.writes
  report := { progress.report with
    recorded := progress.report.recorded ++ outcome.recorded
    errors := progress.report.errors ++ outcome.errors }
  failed := outcome.failed

/-- The loop over the encrypted columns of a row. -/
def rotateColumns (keys : Keys) (attempt : Attempt) (table : Table) (row : Row) : List String → Progress → Progress
  | [], progress => progress
  | column :: rest, progress =>
    let extended := progress.extend (rotateColumn keys attempt table row column)
    if extended.failed.isSome then extended else rotateColumns keys attempt table row rest extended

/-- `UPDATE … WHERE id = …`; `updated_at` is kept. -/
def Row.write (row : Row) (writes : List (String × Value)) : Row :=
  { row with value := fun name => (writes.lookup name).getD (row.value name) }

theorem Row.write_value (row : Row) (writes : List (String × Value)) (name : String) :
    (row.write writes).value name = (writes.lookup name).getD (row.value name) := rfl

/-- Rows of a table as a loop leaves them, and the exception that ended it. -/
structure TableRun where
  rows : List Row
  report : Report
  failed : Option Failure := none

/-- The loop over the rows of the scope in the order of their ids. It reads them in pages of 500; one after the
other the pages hold every row once. -/
def rotateTarget (keys : Keys) (attempt : Attempt) (scope : Scope) (table : Table) : List Row → Report → TableRun
  | [], report => { rows := [], report }
  | row :: rest, report =>
    let next (row : Row) (report : Report) : TableRun :=
      let later := rotateTarget keys attempt scope table rest report
      { later with rows := row :: later.rows }
    if scope.sees row = false then next row report
    else
      let progress := rotateColumns keys attempt table row table.encrypted { report }
      match progress.failed with
      | some failure => { rows := row :: rest, report := progress.report, failed := some failure }
      | none =>
        if progress.writes = [] ∨ attempt.dryRun then next row progress.report
        else if attempt.refuses table.name row.rowId then
          { rows := row :: rest, report := progress.report, failed := some (.other "DBAPIError") }
        else next (row.write progress.writes) progress.report

/-- One table in its savepoint: an exception is recorded and leaves the table as it was. -/
def rotateTable (keys : Keys) (attempt : Attempt) (scope : Scope) (table : Table) (report : Report) :
    Table × Report :=
  if table.isTarget = false ∨ scope.concerns table = false then (table, report)
  else
    let done := rotateTarget keys attempt scope table table.rows report
    match done.failed with
    | some failure => (table, done.report.fail { table := table.name, failure })
    | none => ({ table with rows := done.rows }, done.report)

def rotateTables (keys : Keys) (attempt : Attempt) (scope : Scope) : List Table → Report → List Table × Report
  | [], report => ([], report)
  | table :: rest, report =>
    let done := rotateTable keys attempt scope table report
    let later := rotateTables keys attempt scope rest done.2
    (done.1 :: later.1, later.2)

/-- The scopes, each in a transaction of its own. -/
def rotateScopes (keys : Keys) (attempt : Attempt) : List Scope → List Table → Report → List Table × Report
  | [], tables, report => (tables, report)
  | scope :: rest, tables, report =>
    let done := rotateTables keys attempt scope tables report
    rotateScopes keys attempt rest done.1 done.2

def scopes (db : Db) : List Scope := .platform :: db.tenants.map .tenant

/-- Report and mode after the check of all scopes: with blockers nothing is written. -/
def prepared (db : Db) (attempt : Attempt) : Report × Attempt :=
  let blockers := (scopes db).flatMap (checkBlockers db)
  ({ dryRun := attempt.dryRun, blockers }, { attempt with dryRun := attempt.dryRun || blockers ≠ [] })

def runScopes (keys : Keys) (attempt : Attempt) (db : Db) (covered : List Scope) : Report × Db :=
  let (report, effective) := prepared db attempt
  let done := rotateScopes keys effective covered db.tables report
  (done.2, { db with tables := done.1 })

/-- The whole run over every tenant and the platform, as the command line starts it. -/
def run (keys : Keys) (attempt : Attempt) (db : Db) : Except String (Report × Db) :=
  if keys.old = keys.new then .error "alter und neuer Schlüssel sind gleich"
  else .ok (runScopes keys attempt db (scopes db))

/-- What a run that was stopped leaves: the scopes whose transactions were committed; the open one is rolled back,
between whichever rows it stopped. -/
def interrupted (keys : Keys) (attempt : Attempt) (committed : ℕ) (db : Db) : Db :=
  if keys.old = keys.new then db else (runScopes keys attempt db ((scopes db).take committed)).2

/-- The store after attempts, each of them stopped after some scopes or not at all. -/
def attempted (keys : Keys) : List (Attempt × ℕ) → Db → Db
  | [], db => db
  | (attempt, committed) :: rest, db => attempted keys rest (interrupted keys attempt committed db)

end Mhvp.Core.KeyRotation
