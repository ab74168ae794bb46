import Mhvp.Sqldump.Parser

namespace Mhvp.Sqldump

open Core Lib List

/-- The character after a backslash, and what it stands for. -/
inductive Escape where
  | quote | doubleQuote | backslash | newline | carriageReturn | tab | nul | substitute
  deriving DecidableEq

def Escape.letter : Escape → Char
  | .quote => '\''
  | .doubleQuote => '"'
  | .backslash => '\\'
  | .newline => 'n'
  | .carriageReturn => 'r'
  | .tab => 't'
  | .nul => '0'
  | .substitute => 'Z'

def Escape.meaning : Escape → Char
  | .quote => '\''
  | .doubleQuote => '"'
  | .backslash => '\\'
  | .newline => '\n'
  | .carriageReturn => '\r'
  | .tab => '\t'
  | .nul => Char.ofNat 0
  | .substitute => Char.ofNat 26

/-- One character of a string literal. -/
inductive Glyph where
  | plain (ch : Char) (free : ch ≠ '\'' ∧ ch ≠ '\\')
  | doubled
  | escaped (escape : Escape)

def Glyph.render : Glyph → Text
  | .plain ch _ => [ch]
  | .doubled => ['\'', '\'']
  | .escaped escape => ['\\', escape.letter]

def Glyph.meaning : Glyph → Char
  | .plain ch _ => ch
  | .doubled => '\''
  | .escaped escape => escape.meaning

/-- A literal; a decimal is `unscaled / 10 ** places`. -/
inductive Field where
  | null
  | integer (value : ℤ)
  | decimal (unscaled : ℤ) (places : ℕ) (some : 0 < places)
  | text (glyphs : List Glyph)

def signText (value : ℤ) : Text := if value < 0 then ['-'] else []

/-- The last digits of a number, padded with zeros. -/
def fixedDigits : (places : ℕ) → ℕ → Text
  | 0, _ => []
  | places + 1, value => fixedDigits places (value / 10) ++ [Nat.digitChar (value % 10)]

def Field.render : Field → Text
  | .null => ['N', 'U', 'L', 'L']
  | .integer value => signText value ++ Nat.toDigits 10 value.natAbs
  | .decimal unscaled places _ =>
    signText unscaled ++ Nat.toDigits 10 (unscaled.natAbs / 10 ^ places) ++
      '.' :: fixedDigits places unscaled.natAbs
  | .text glyphs => '\'' :: glyphs.flatMap Glyph.render ++ ['\'']

/-- The value of a literal in Python's types: a decimal becomes the nearest `float`. -/
def Field.meaning : Field → Value
  | .null => .null
  | .integer value => .int value
  | .decimal unscaled places _ => .float (Binary64.nearest (unscaled / 10 ^ places))
  | .text glyphs => .text (glyphs.map Glyph.meaning)

variable {unicode : Unicode}

/-- `INSERT INTO … (…) VALUES (…),(…);` -/
structure Statement (unicode : Unicode) where
  table : Text
  columns : List Text
  rows : List (List Field)
  named : table ≠ []
  word : ∀ ch ∈ table, unicode.isWord ch = true
  columns_free : ∀ column ∈ columns, ∀ ch ∈ column, ch ∉ [',', '(', ')', '`']
  distinct : columns.Nodup
  some_column : columns ≠ []
  complete : ∀ row ∈ rows, row.length = columns.length

/-- A name in backticks. -/
def ticked (name : Text) : Text := '`' :: name ++ ['`']

def renderRow (row : List Field) : Text := '(' :: [','].intercalate (row.map Field.render) ++ [')']

def renderColumns (columns : List Text) : Text := [',', ' '].intercalate (columns.map ticked)

def renderRows (rows : List (List Field)) : Text := [','].intercalate (rows.map renderRow)

def Statement.render (statement : Statement unicode) : Text :=
  ['I', 'N', 'S', 'E', 'R', 'T', ' ', 'I', 'N', 'T', 'O', ' '] ++ ticked statement.table ++ [' ', '('] ++
    renderColumns statement.columns ++ [')', ' ', 'V', 'A', 'L', 'U', 'E', 'S', ' '] ++
    renderRows statement.rows ++ [';']

/-- What stands in a dump, each on lines of its own. -/
inductive Item (unicode : Unicode) where
  | insert (statement : Statement unicode)
  | lineComment (text : Text) (one_line : '\n' ∉ text)
  | blockComment (text : Text) (open_until : ¬ ['*', '/'] <:+: text) (semicolon : Bool)

def Item.render : Item unicode → Text
  | .insert statement => statement.render
  | .lineComment text _ => '-' :: '-' :: text
  | .blockComment text _ semicolon => '/' :: '*' :: text ++ '*' :: '/' :: if semicolon then [';'] else []

abbrev Dump (unicode : Unicode) := List (Item unicode)

def render (dump : Dump unicode) : Text := dump.flatMap fun item => item.render ++ ['\n']

/-- No semicolon, and no `\Z`. -/
def Glyph.Readable : Glyph → Prop
  | .plain ch _ => ch ≠ ';'
  | .doubled => True
  | .escaped escape => escape ≠ .substitute

instance : (glyph : Glyph) → Decidable glyph.Readable
  | .plain ch _ => inferInstanceAs (Decidable (ch ≠ ';'))
  | .doubled => isTrue trivial
  | .escaped escape => inferInstanceAs (Decidable (escape ≠ .substitute))

def Field.Readable : Field → Prop
  | .text glyphs => ∀ glyph ∈ glyphs, glyph.Readable
  | _ => True

instance : (field : Field) → Decidable field.Readable
  | .text glyphs => inferInstanceAs (Decidable (∀ glyph ∈ glyphs, glyph.Readable))
  | .null | .integer _ | .decimal _ _ _ => isTrue trivial

def Statement.Readable (statement : Statement unicode) : Prop :=
  ∀ row ∈ statement.rows, ∀ field ∈ row, field.Readable

instance (statement : Statement unicode) : Decidable statement.Readable :=
  inferInstanceAs (Decidable (∀ row ∈ statement.rows, ∀ field ∈ row, field.Readable))

/-- No comment marker is mistaken: outside of block comments none opens one that the file closes later, and no line of
a statement looks like a comment. -/
def Item.Readable (item : Item unicode) (after : Text) : Prop :=
  match item with
  | .insert statement =>
    statement.Readable ∧ Scan.Quiet blockAt statement.render after ∧
      ∀ line ∈ statement.render.splitOn '\n', isLineComment line = false
  | .lineComment text _ => Scan.Quiet blockAt ('-' :: '-' :: text) after
  | .blockComment _ _ _ => True

instance : (item : Item unicode) → (after : Text) → Decidable (item.Readable after)
  | .insert statement, after =>
    inferInstanceAs (Decidable (statement.Readable ∧ Scan.Quiet blockAt statement.render after ∧
      ∀ line ∈ statement.render.splitOn '\n', isLineComment line = false))
  | .lineComment text _, after => inferInstanceAs (Decidable (Scan.Quiet blockAt ('-' :: '-' :: text) after))
  | .blockComment _ _ _, _ => isTrue trivial

def Readable : Dump unicode → Prop
  | [] => True
  | item :: rest => item.Readable ('\n' :: render rest) ∧ Readable rest

instance Readable.decidable : (dump : Dump unicode) → Decidable (Readable dump)
  | [] => isTrue trivial
  | item :: rest =>
    have := Readable.decidable rest
    inferInstanceAs (Decidable (item.Readable ('\n' :: render rest) ∧ Readable rest))

/-- The rows of a statement, under the name its table has as a key. -/
def Statement.content (statement : Statement unicode) : List (Text × Row) :=
  statement.rows.map fun row =>
    (unicode.lower statement.table, statement.columns.zip (row.map Field.meaning))

def Item.content : Item unicode → List (Text × Row)
  | .insert statement => statement.content
  | .lineComment _ _ => []
  | .blockComment _ _ _ => []

/-- The tables of a dump in the order of their first rows, each with its rows in order. -/
def tablesOf (dump : Dump unicode) : Tables := Dictionary.grouped (dump.flatMap Item.content)

theorem blockEnd_append (opened : ¬ ['*', '/'] <:+: text) (rest : Text) :
    blockEnd (text ++ '*' :: '/' :: rest) = some rest := by
  induction text with
  | nil => rfl
  | cons ch text ih =>
    have later : ¬ ['*', '/'] <:+: text := fun inside => opened (inside.trans (suffix_cons ch text).isInfix)
    rw [cons_append, blockEnd]
    · exact ih later
    · intro rest' isStar isSlash
      cases text with
      | nil => cases isSlash
      | cons next text =>
        cases isStar
        cases isSlash
        exact opened ⟨[], text, rfl⟩

theorem blockAt_block (opened : ¬ ['*', '/'] <:+: text) (rest : Text) :
    blockAt ('/' :: '*' :: text ++ '*' :: '/' :: rest) = some ((), rest) := by
  simp only [cons_append, blockAt, blockEnd_append opened, Option.map_some]

theorem blockAt_other (other : ch ≠ '/') (rest : Text) : blockAt (ch :: rest) = none := by
  cases rest with
  | nil => simp [blockAt]
  | cons next rest => simp [blockAt, other]

def semicolonText (semicolon : Bool) : Text := if semicolon then [';'] else []

/-- An item once block comments are blanked. -/
def Item.unblocked : Item unicode → Text
  | .insert statement => statement.render
  | .lineComment text _ => '-' :: '-' :: text
  | .blockComment _ _ semicolon => ' ' :: semicolonText semicolon

/-- An item once line comments are gone too. -/
def Item.cleaned : Item unicode → Text
  | .insert statement => statement.render ++ ['\n']
  | .lineComment _ _ => []
  | .blockComment _ _ semicolon => ' ' :: semicolonText semicolon ++ ['\n']

/-- What a scan for block comments reads of an item. -/
def Item.tokens : Item unicode → List (Char ⊕ Unit)
  | .insert statement => statement.render.map .inl
  | .lineComment text _ => ('-' :: '-' :: text).map .inl
  | .blockComment _ _ semicolon => .inr () :: (semicolonText semicolon).map .inl

theorem Item.reads (item : Item unicode) {after : Text} {tokens : List (Char ⊕ Unit)}
    (readable : item.Readable after) (later : Scan.Reads blockAt after tokens) :
    Scan.Reads blockAt (item.render ++ after) (item.tokens ++ tokens) := by
  cases item with
  | insert statement => exact later.append readable.2.1
  | lineComment text one_line => exact later.append readable
  | blockComment text opened semicolon =>
    have block := blockAt_block opened (semicolonText semicolon ++ after)
    have rendered : (Item.blockComment text opened semicolon : Item unicode).render ++ after =
        '/' :: '*' :: text ++ '*' :: '/' :: (semicolonText semicolon ++ after) := by
      simp [Item.render, semicolonText]
    rw [rendered]
    apply Scan.Reads.take block
    · simp only [length_append, length_cons]
      omega
    · apply Scan.Reads.append _ later
      cases semicolon with
      | false => simp [Scan.Quiet, semicolonText]
      | true => simp [Scan.Quiet, semicolonText, blockAt_other]

/-- A dump once block comments are blanked. -/
def unblocked (dump : Dump unicode) : Text := dump.flatMap fun item => item.unblocked ++ ['\n']

theorem unblocked_cons (item : Item unicode) (rest : Dump unicode) :
    unblocked (item :: rest) = item.unblocked ++ '\n' :: unblocked rest := by
  simp [unblocked]

theorem replaceAll_render (dump : Dump unicode) (readable : Readable dump) :
    Scan.replaceAll blockAt ' ' (render dump) = unblocked dump := by
  have reads : Scan.Reads blockAt (render dump) (dump.flatMap fun item => item.tokens ++ [.inl '\n']) := by
    induction dump with
    | nil => exact Scan.Reads.nil
    | cons item rest ih =>
      have dividing : blockAt ('\n' :: render rest) = none := blockAt_other (by decide) _
      have newline := Scan.Reads.pass dividing (ih readable.2)
      have both := item.reads readable.1 newline
      simpa [render] using both
  rw [reads.replaceAll_eq, map_flatMap, unblocked]
  congr 1
  funext item
  cases item with
  | insert | lineComment | blockComment => simp [Item.tokens, Item.unblocked, Function.comp_def]

/-- The lines that are kept. -/
def keptLines (text : Text) : List Text := (text.splitOn '\n').filter fun line => !isLineComment line

theorem keptLines_append (piece rest : Text) : keptLines (piece ++ '\n' :: rest) = keptLines piece ++ keptLines rest := by
  rw [keptLines, splitOn_append_cons_self, filter_append]
  rfl

theorem intercalate_append {separator : Text} {first second : List Text} (firstSome : first ≠ [])
    (secondSome : second ≠ []) :
    separator.intercalate (first ++ second) = separator.intercalate first ++ separator ++ separator.intercalate second := by
  induction first with
  | nil => exact absurd rfl firstSome
  | cons line rest ih =>
    cases rest with
    | nil => simp [intercalate_cons_of_ne_nil secondSome]
    | cons next rest =>
      have longer := ih (cons_ne_nil _ _)
      rw [cons_append, intercalate_cons_of_ne_nil (by simp), longer,
        intercalate_cons_of_ne_nil (cons_ne_nil _ _)]
      simp only [append_assoc]

theorem isLineComment_dashes (text : Text) : isLineComment ('-' :: '-' :: text) = true := by
  rw [isLineComment, strip_cons (by decide), rstrip_cons (by decide)]
  rfl

theorem keptLines_lineComment (one_line : '\n' ∉ text) : keptLines ('-' :: '-' :: text) = [] := by
  have single : '\n' ∉ '-' :: '-' :: text := by simp [one_line]
  rw [keptLines, splitOn_eq_singleton single]
  simp [isLineComment_dashes]

theorem keptLines_block (semicolon : Bool) :
    keptLines (' ' :: semicolonText semicolon) = [' ' :: semicolonText semicolon] := by
  cases semicolon with
  | false => decide
  | true => decide

theorem keptLines_statement (kept : ∀ line ∈ text.splitOn '\n', isLineComment line = false) :
    keptLines text = text.splitOn '\n' := by
  apply filter_eq_self.mpr
  intro line isLine
  rw [kept line isLine]
  rfl

theorem Item.intercalate_lines (item : Item unicode) {after : Text} {others : List Text}
    (readable : item.Readable after) (some : others ≠ []) :
    ['\n'].intercalate (keptLines item.unblocked ++ others) = item.cleaned ++ ['\n'].intercalate others := by
  cases item with
  | insert statement =>
    have same : ['\n'].intercalate (statement.render.splitOn '\n') = statement.render := intercalate_splitOn _
    rw [Item.unblocked, keptLines_statement readable.2.2, intercalate_append (splitOn_ne_nil _ _) some, same]
    rfl
  | lineComment text one_line =>
    rw [Item.unblocked, keptLines_lineComment one_line]
    rfl
  | blockComment text opened semicolon =>
    rw [Item.unblocked, keptLines_block, intercalate_append (cons_ne_nil _ _) some, intercalate_singleton]
    rfl

theorem keptLines_unblocked (dump : Dump unicode) (readable : Readable dump) :
    keptLines (unblocked dump) ≠ [] ∧
      ['\n'].intercalate (keptLines (unblocked dump)) = dump.flatMap Item.cleaned := by
  induction dump with
  | nil =>
    have one : keptLines [] = [[]] := by decide
    constructor
    · exact one ▸ cons_ne_nil _ _
    · exact congrArg _ one
  | cons item rest ih =>
    obtain ⟨some, ih⟩ := ih readable.2
    rw [unblocked_cons, keptLines_append]
    constructor
    · exact append_ne_nil_of_right_ne_nil _ some
    · rw [item.intercalate_lines readable.1 some, ih, flatMap_cons]

theorem stripComments_render (dump : Dump unicode) (readable : Readable dump) :
    stripComments (render dump) = dump.flatMap Item.cleaned := by
  rw [stripComments, replaceAll_render dump readable]
  exact (keptLines_unblocked dump readable).2

end Mhvp.Sqldump
