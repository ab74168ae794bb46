import Mhvp.Core.Decimal
import Mhvp.Lib.Dictionary
import Mhvp.Lib.Scan

/-!
Reading a `mysqldump` file as the data takeovers do: comments are stripped, one regular expression finds the `INSERT`
statements, and two scanners split a statement into tuples and a tuple into fields.
-/

namespace Mhvp.Sqldump

open Core Lib List

abbrev Text := List Char

/-- What the interpreter's Unicode tables say of a character: `\w`, decimal digits and `str.lower()`. -/
structure Unicode where
  isWord : Char → Bool
  digit : Char → Option ℕ
  lower : Text → Text
  tick_not_word : isWord '`' = false
  digit_ascii : ∀ value < 10, digit (Nat.digitChar value) = some value
  sign_not_digit : digit '-' = none
  point_not_digit : digit '.' = none

/-- `str.isspace()`, and `\s` -/
def isSpace (ch : Char) : Bool :=
  let code := ch.toNat
  (9 ≤ code && code ≤ 13) || (28 ≤ code && code ≤ 32) || (0x2000 ≤ code && code ≤ 0x200A) ||
    [0x85, 0xA0, 0x1680, 0x2028, 0x2029, 0x202F, 0x205F, 0x3000].contains code

def rstrip (strips : Char → Bool) (text : Text) : Text := (text.reverse.dropWhile strips).reverse

def strip (strips : Char → Bool) (text : Text) : Text := rstrip strips (text.dropWhile strips)

theorem rstrip_cons (kept : strips ch = false) (text : Text) :
    rstrip strips (ch :: text) = ch :: rstrip strips text := by
  rw [rstrip, reverse_cons, dropWhile_append]
  split
  · rename_i nothing
    have empty : text.reverse.dropWhile strips = [] := isEmpty_iff.mp nothing
    simp [rstrip, empty, kept]
  · rw [reverse_append, rstrip]
    rfl

theorem strip_cons (kept : strips ch = false) (text : Text) :
    strip strips (ch :: text) = ch :: rstrip strips text := by
  rw [strip, dropWhile_cons_of_neg (by simp [kept]), rstrip_cons kept]

theorem rstrip_eq (kept : ∀ ch ∈ text, strips ch = false) :
    rstrip strips text = text := by
  induction text with
  | nil => rfl
  | cons ch rest ih =>
    rw [rstrip_cons (kept ch mem_cons_self), ih fun other isOther => kept other (mem_cons_of_mem _ isOther)]

theorem strip_eq (kept : ∀ ch ∈ text, strips ch = false) :
    strip strips text = text := by
  cases text with
  | nil => rfl
  | cons ch rest =>
    rw [strip_cons (kept ch mem_cons_self), rstrip_eq fun other isOther => kept other (mem_cons_of_mem _ isOther)]

/-- The text after the first `*/`. -/
def blockEnd : Text → Option Text
  | '*' :: '/' :: rest => some rest
  | _ :: rest => blockEnd rest
  | [] => none

/-- `/\*.*?\*/` at the front of the text. -/
def blockAt : Text → Option (Unit × Text)
  | '/' :: '*' :: rest => (blockEnd rest).map fun after => ((), after)
  | _ => none

def isLineComment (line : Text) : Bool := ['-', '-'].isPrefixOf (strip isSpace line)

def stripComments (sql : Text) : Text :=
  let sql := Scan.replaceAll blockAt ' ' sql
  let kept := (sql.splitOn '\n').filter fun line => !isLineComment line
  ['\n'].intercalate kept

/-- Equal under `re.IGNORECASE`, for an upper-case letter. -/
def sameLetter (letter ch : Char) : Bool :=
  ch.toUpper = letter || (letter = 'I' && (ch = 'ı' || ch = 'İ')) || (letter = 'S' && ch = 'ſ')

def keyword : Text → Text → Option Text
  | [], text => some text
  | letter :: word, ch :: text => if sameLetter letter ch then keyword word text else none
  | _ :: _, [] => none

/-- `\s+` -/
def spaces : Text → Option Text
  | ch :: rest => if isSpace ch then some (rest.dropWhile isSpace) else none
  | [] => none

def literal (expected : Char) : Text → Option Text
  | ch :: rest => if ch = expected then some rest else none
  | [] => none

/-- An optional backtick. -/
def tick : Text → Text
  | '`' :: rest => rest
  | text => text

/-- The groups of a match. -/
structure Insert where
  table : Text
  columns : Text
  values : Text

def notParen (ch : Char) : Bool := ch ≠ '(' && ch ≠ ')'

/-- `_INSERT_RE` at the front of the text. Each part ends where the next one has to start, so nothing is tried twice;
the values end before the first semicolon, without the space in front of it. -/
def insertAt (unicode : Unicode) (text : Text) : Option (Insert × Text) := do
  let text ← keyword ['I', 'N', 'S', 'E', 'R', 'T'] text
  let text ← spaces text
  let text ← keyword ['I', 'N', 'T', 'O'] text
  let text ← spaces text
  let text := tick text
  let table := text.takeWhile unicode.isWord
  if table = [] then none else
    let text := tick (text.dropWhile unicode.isWord)
    let text ← literal '(' (text.dropWhile isSpace)
    let columns := text.takeWhile notParen
    let text ← literal ')' (text.dropWhile notParen)
    let text ← keyword ['V', 'A', 'L', 'U', 'E', 'S'] (text.dropWhile isSpace)
    let text := text.dropWhile isSpace
    let values := text.takeWhile (· ≠ ';')
    let text ← literal ';' (text.dropWhile (· ≠ ';'))
    pure (⟨table, columns, rstrip isSpace values⟩, text)

def splitColumns (columns : Text) : List Text :=
  ((columns.splitOn ',').filter fun c => strip isSpace c ≠ []).map fun c => strip (· = '`') (strip isSpace c)

/-- The loop of `split_tuples`, with the quotation mark of the string it is in. -/
def tuplesLoop : Text → (depth : ℤ) → (buf : Text) → (inString : Option Char) → List Text
  | [], _, _, _ => []
  | ch :: next :: later, depth, buf, some quote =>
    if ch = '\\' then tuplesLoop later depth (buf ++ [ch, next]) (some quote)
    else if ch = quote ∧ next = quote then tuplesLoop later depth (buf ++ [ch, ch]) (some quote)
    else tuplesLoop (next :: later) depth (buf ++ [ch]) (if ch = quote then none else some quote)
  | [_], _, _, some _ => []
  | ch :: rest, depth, buf, none =>
    if ch = '\'' ∨ ch = '"' then tuplesLoop rest depth (buf ++ [ch]) (some ch)
    else if ch = '(' ∧ depth + 1 = 1 then tuplesLoop rest 1 [] none
    else if ch = ')' ∧ depth - 1 = 0 then buf :: tuplesLoop rest 0 buf none
    else
      let depth := if ch = '(' then depth + 1 else if ch = ')' then depth - 1 else depth
      tuplesLoop rest depth (if 0 < depth then buf ++ [ch] else buf) none

def splitTuples (values : Text) : List Text := tuplesLoop values 0 [] none

inductive Value where
  | null
  | int (value : ℤ)
  | float (value : Binary64)
  | text (chars : Text)
  deriving DecidableEq

def digitsValue (digits : List ℕ) : ℕ := digits.foldl (fun value digit => 10 * value + digit) 0

/-- The digits of a text of digits only, at least one. -/
def allDigits (unicode : Unicode) (text : Text) : Option (List ℕ) :=
  if text = [] then none else text.mapM unicode.digit

/-- An optional sign, and the rest. -/
def takeSign : Text → Bool × Text
  | '-' :: rest => (true, rest)
  | '+' :: rest => (false, rest)
  | text => (false, text)

/-- `re.fullmatch(r"-?\d+", text)` and `int(text)`, below the 4300 digits at which `int` itself gives up. -/
def parseInt (unicode : Unicode) : Text → Option ℤ
  | '-' :: rest => (allDigits unicode rest).map fun digits => -(digitsValue digits : ℤ)
  | text => (allDigits unicode text).map fun digits => (digitsValue digits : ℤ)

def isDigit (unicode : Unicode) (ch : Char) : Bool := (unicode.digit ch).isSome

/-- In a `float` literal, underscores may stand between two digits. -/
def dropUnderscores (unicode : Unicode) : (afterDigit : Bool) → Text → Option Text
  | _, [] => some []
  | afterDigit, ch :: rest =>
    if ch = '_' then
      if afterDigit && rest.head?.any (isDigit unicode) then dropUnderscores unicode false rest else none
    else (dropUnderscores unicode (isDigit unicode ch) rest).map (ch :: ·)

def takeDigits (unicode : Unicode) (text : Text) : List ℕ × Text :=
  ((text.takeWhile (isDigit unicode)).filterMap unicode.digit, text.dropWhile (isDigit unicode))

/-- The fraction of a `float` literal. -/
def takeFraction (unicode : Unicode) : Text → List ℕ × Text
  | '.' :: rest => takeDigits unicode rest
  | text => ([], text)

/-- The exponent of a `float` literal, to the end of the text. -/
def takeExponent (unicode : Unicode) : Text → Option ℤ
  | [] => some 0
  | ch :: rest =>
    if ch = 'e' ∨ ch = 'E' then
      let (negative, body) := takeSign rest
      let (digits, after) := takeDigits unicode body
      if digits = [] ∨ after ≠ [] then none
      else some (if negative then -(digitsValue digits : ℤ) else digitsValue digits)
    else none

def isWordOf (word text : Text) : Bool := text.map Char.toLower = word

/-- `float(text)`, `none` for `ValueError` -/
def parseFloat (unicode : Unicode) (text : Text) : Option Binary64 := do
  let (negative, body) := takeSign (← dropUnderscores unicode false text)
  if isWordOf ['i', 'n', 'f'] body || isWordOf ['i', 'n', 'f', 'i', 'n', 'i', 't', 'y'] body then
    pure (.infinity negative)
  else if isWordOf ['n', 'a', 'n'] body then pure .nan
  else
    let (whole, rest) := takeDigits unicode body
    let (fraction, rest) := takeFraction unicode rest
    if whole = [] ∧ fraction = [] then none
    else
      let exponent ← takeExponent unicode rest
      let size : ℚ := digitsValue (whole ++ fraction) * 10 ^ (exponent - fraction.length)
      pure (Binary64.nearest (if negative then -size else size))

/-- `_coerce` -/
def coerce (unicode : Unicode) (text : Text) (quoted : Bool) : Value :=
  if quoted then .text text
  else
    let stripped := strip isSpace text
    if stripped = [] ∨ stripped.map Char.toUpper = ['N', 'U', 'L', 'L'] then .null
    else
      match parseInt unicode stripped with
      | some value => .int value
      | none =>
        match parseFloat unicode stripped with
        | some value => .float value
        | none => .text stripped

/-- What `parse_fields` makes of the character after a backslash. -/
def unescape (next : Char) : Char :=
  if next = 'n' then '\n'
  else if next = 'r' then '\r'
  else if next = 't' then '\t'
  else if next = '0' then Char.ofNat 0
  else next

/-- The loop of `parse_fields`. -/
def fieldsLoop (unicode : Unicode) : Text → (buf : Text) → (quoted : Bool) → (inString : Option Char) → List Value
  | [], buf, quoted, _ => [coerce unicode buf quoted]
  | ch :: next :: later, buf, quoted, some quote =>
    if ch = '\\' then fieldsLoop unicode later (buf ++ [unescape next]) quoted (some quote)
    else if ch = quote then
      if next = quote then fieldsLoop unicode later (buf ++ [ch]) quoted (some quote)
      else fieldsLoop unicode (next :: later) buf quoted none
    else fieldsLoop unicode (next :: later) (buf ++ [ch]) quoted (some quote)
  | [ch], buf, quoted, some quote => [coerce unicode (if ch = quote then buf else buf ++ [ch]) quoted]
  | ch :: rest, buf, quoted, none =>
    if ch = '\'' ∨ ch = '"' then fieldsLoop unicode rest buf true (some ch)
    else if ch = ',' then coerce unicode buf quoted :: fieldsLoop unicode rest [] false none
    else fieldsLoop unicode rest (buf ++ [ch]) quoted none

def parseFields (unicode : Unicode) (tup : Text) : List Value := fieldsLoop unicode tup [] false none

/-- A row, as a dictionary from columns to values. -/
abbrev Row := List (Text × Value)

/-- `dict(zip(columns, values))` -/
def dictOf (columns : List Text) (values : List Value) : Row :=
  (columns.zip values).foldl (fun row cell => Dictionary.alter cell.1 (fun _ => cell.2) row) []

abbrev Tables := List (Text × List Row)

/-- `tables.setdefault(table, []).append(row)` -/
def appendRow (table : Text) (tables : Tables) (row : Row) : Tables := Dictionary.add tables (table, row)

/-- The rows of one statement; a row whose value count does not match the column list is skipped. -/
def rowsOf (unicode : Unicode) (insert : Insert) : List Row :=
  let columns := splitColumns insert.columns
  (splitTuples insert.values).filterMap fun tup =>
    let values := parseFields unicode tup
    if values.length ≠ columns.length then none else some (dictOf columns values)

def parseDump (unicode : Unicode) (sqlText : Text) : Tables :=
  let cleaned := stripComments sqlText
  (Scan.findAll (insertAt unicode) cleaned).foldl
    (fun tables insert => (rowsOf unicode insert).foldl (appendRow (unicode.lower insert.table)) tables) []

end Mhvp.Sqldump
