import Mhvp.Sqldump.Fields

namespace Mhvp.Sqldump

open Core Lib List

variable {unicode : Unicode}

theorem takeWhile_run (all : ∀ other ∈ run, selects other = true)
    (ends : selects ch = false) (rest : Text) : (run ++ ch :: rest).takeWhile selects = run := by
  rw [takeWhile_append_of_pos all, takeWhile_cons_of_neg (by simp [ends]), append_nil]

theorem dropWhile_run (all : ∀ other ∈ run, selects other = true)
    (ends : selects ch = false) (rest : Text) : (run ++ ch :: rest).dropWhile selects = ch :: rest := by
  rw [dropWhile_append_of_pos all, dropWhile_cons_of_neg (by simp [ends])]

theorem mem_intercalate {separator : Text} {pieces : List Text} {ch : Char} (inside : ch ∈ separator.intercalate pieces) :
    ch ∈ separator ∨ ∃ piece ∈ pieces, ch ∈ piece := by
  induction pieces with
  | nil => exact absurd inside not_mem_nil
  | cons piece rest ih =>
    cases rest with
    | nil => exact Or.inr ⟨piece, mem_cons_self, by simpa using inside⟩
    | cons next rest =>
      rw [intercalate_cons_of_ne_nil (cons_ne_nil _ _), append_assoc, mem_append,
        mem_append] at inside
      rcases inside with here | between | later
      · exact Or.inr ⟨piece, mem_cons_self, here⟩
      · exact Or.inl between
      · rcases ih later with between | ⟨other, isOther, here⟩
        · exact Or.inl between
        · exact Or.inr ⟨other, mem_cons_of_mem _ isOther, here⟩

theorem notParen_renderColumns (statement : Statement unicode) :
    ∀ ch ∈ renderColumns statement.columns, notParen ch = true := by
  intro ch inside
  rcases mem_intercalate inside with between | ⟨piece, isPiece, here⟩
  · rcases mem_cons.mp between with isComma | later
    · rw [isComma]; decide
    · rw [mem_singleton.mp later]; decide
  · obtain ⟨column, isColumn, rfl⟩ := mem_map.mp isPiece
    rcases mem_append.mp here with front | last
    · rcases mem_cons.mp front with isTick | inName
      · rw [isTick]; decide
      · have free := statement.columns_free column isColumn ch inName
        simp only [mem_cons, not_or] at free
        simp [notParen, free.2.1, free.2.2.1]
    · rw [mem_singleton.mp last]; decide

theorem strip_ticked (free : '`' ∉ name) :
    strip isSpace (ticked name) = ticked name ∧ strip isSpace (' ' :: ticked name) = ticked name ∧
      strip (· = '`') (ticked name) = name := by
  have ends : rstrip isSpace (name ++ ['`']) = name ++ ['`'] := by
    have last : isSpace '`' = false := by decide
    simp [rstrip, last]
  have spaced : strip isSpace (ticked name) = ticked name := by
    rw [ticked, cons_append, strip_cons (by decide), ends]
  have noTick : ∀ ch ∈ name, decide (ch = '`') = false := fun ch inside => decide_eq_false fun same => free (same ▸ inside)
  refine ⟨spaced, ?_, ?_⟩
  · have front : (' ' :: ticked name).dropWhile isSpace = (ticked name).dropWhile isSpace :=
      dropWhile_cons_of_pos (by decide)
    rw [strip, front]
    exact spaced
  · cases name with
    | nil => decide
    | cons ch rest =>
      have inside : rstrip (fun ch => decide (ch = '`')) (ch :: rest ++ ['`']) = ch :: rest := by
        rw [rstrip, reverse_append, reverse_singleton, singleton_append,
          dropWhile_cons_of_pos (by decide)]
        exact rstrip_eq noTick
      rw [ticked, strip, cons_append, dropWhile_cons_of_pos (by decide), cons_append,
        dropWhile_cons_of_neg (by simp [noTick ch mem_cons_self])]
      exact inside

section

variable (noComma : ',' ∉ piece) (some : strip isSpace piece ≠ [])
include noComma some

theorem splitColumns_cons :
    splitColumns (piece ++ ',' :: rest) = strip (· = '`') (strip isSpace piece) :: splitColumns rest := by
  rw [splitColumns, splitOn_append_cons_self_of_not_mem noComma, filter_cons_of_pos (by simpa using some)]
  rfl

theorem splitColumns_single :
    splitColumns piece = [strip (· = '`') (strip isSpace piece)] := by
  rw [splitColumns, splitOn_eq_singleton noComma, filter_cons_of_pos (by simpa using some)]
  rfl

end

theorem splitColumns_renderColumns (some : columns ≠ [])
    (free : ∀ column ∈ columns, ∀ ch ∈ column, ch ∉ [',', '(', ')', '`']) :
    splitColumns (renderColumns columns) = columns := by
  have padded : ∀ pad ∈ [[], [' ']], splitColumns (pad ++ renderColumns columns) = columns := by
    induction columns with
    | nil => exact absurd rfl some
    | cons column rest ih =>
      intro pad isPad
      have thisFree := free column mem_cons_self
      have noTick : '`' ∉ column := fun inside => thisFree _ inside (by simp)
      have noComma : ',' ∉ column := fun inside => thisFree _ inside (by simp)
      obtain ⟨spaced, front, unticked⟩ := strip_ticked noTick
      have stripped : strip isSpace (pad ++ ticked column) = ticked column := by
        rcases mem_cons.mp isPad with rfl | later
        · exact spaced
        · rw [mem_singleton.mp later]
          exact front
      have noCommaHere : ',' ∉ pad ++ ticked column := by
        rcases mem_cons.mp isPad with rfl | later
        · simp [ticked, noComma]
        · rw [mem_singleton.mp later]
          simp [ticked, noComma]
      have notEmpty : strip isSpace (pad ++ ticked column) ≠ [] := by
        rw [stripped]
        exact cons_ne_nil _ _
      cases rest with
      | nil =>
        have one : renderColumns [column] = ticked column := by simp [renderColumns]
        rw [one, splitColumns_single noCommaHere notEmpty, stripped, unticked]
      | cons next rest =>
        have more : pad ++ renderColumns (column :: next :: rest) =
            (pad ++ ticked column) ++ ',' :: ([' '] ++ renderColumns (next :: rest)) := by
          simp [renderColumns]
        have others := ih (cons_ne_nil _ _) fun other isOther => free other (mem_cons_of_mem _ isOther)
        rw [more, splitColumns_cons noCommaHere notEmpty, stripped, unticked, others [' '] (by simp)]
  exact padded [] (by simp)

theorem Glyph.no_semicolon {glyph : Glyph} (readable : glyph.Readable) : ';' ∉ glyph.render := by
  cases glyph with
  | plain ch free => simpa [Glyph.render] using Ne.symm readable
  | doubled => decide
  | escaped escape =>
    cases escape with
    | _ => decide

theorem Field.no_semicolon {field : Field} (readable : field.Readable) : ';' ∉ field.render := by
  rcases field.literal with ⟨glyphs, rfl⟩ | ⟨isBare, _⟩
  · intro inside
    simp only [Field.render, cons_append, mem_cons, mem_append, mem_flatMap, not_mem_nil] at inside
    rcases inside with quote | ⟨glyph, isGlyph, here⟩ | quote | nothing
    · exact absurd quote (by decide)
    · exact glyph.no_semicolon (readable glyph isGlyph) here
    · exact absurd quote (by decide)
    · exact nothing
  · intro inside
    exact absurd (isBare ';' inside) (by decide)

theorem no_semicolon_renderRows {statement : Statement unicode} (readable : statement.Readable) :
    ';' ∉ renderRows statement.rows := by
  intro inside
  rcases mem_intercalate inside with between | ⟨piece, isPiece, here⟩
  · exact absurd (mem_singleton.mp between) (by decide)
  · obtain ⟨row, isRow, rfl⟩ := mem_map.mp isPiece
    rw [renderRow_eq, cons_append, mem_cons, mem_append] at here
    rcases here with opening | inRow | closing
    · exact absurd opening (by decide)
    · rcases mem_intercalate inRow with comma | ⟨text, isText, here⟩
      · exact absurd (mem_singleton.mp comma) (by decide)
      · obtain ⟨field, isField, rfl⟩ := mem_map.mp isText
        exact field.no_semicolon (readable row isRow field isField) here
    · exact absurd (mem_singleton.mp closing) (by decide)

theorem renderRows_ends (rows : List (List Field)) :
    rstrip isSpace (renderRows rows) = renderRows rows ∧
      ∀ rest, (renderRows rows ++ ';' :: rest).dropWhile isSpace = renderRows rows ++ ';' :: rest := by
  have closed (rows : List (List Field)) (some : rows ≠ []) : ∃ front, renderRows rows = front ++ [')'] := by
    induction rows with
    | nil => exact absurd rfl some
    | cons row rows ih =>
      cases rows with
      | nil => exact ⟨'(' :: rowText row, by simp [renderRows, renderRow_eq]⟩
      | cons next rows =>
        obtain ⟨front, same⟩ := ih (cons_ne_nil _ _)
        have more : renderRows (row :: next :: rows) = renderRow row ++ ',' :: renderRows (next :: rows) := by
          simp [renderRows]
        exact ⟨renderRow row ++ ',' :: front, by rw [more, same]; simp⟩
  have notSpace : isSpace ')' = false ∧ isSpace '(' = false ∧ isSpace ';' = false := by decide
  cases rows with
  | nil => exact ⟨rfl, fun rest => dropWhile_cons_of_neg (by simp [notSpace])⟩
  | cons row rows =>
    constructor
    · obtain ⟨front, same⟩ := closed (row :: rows) (cons_ne_nil _ _)
      rw [same, rstrip, reverse_append, reverse_singleton, singleton_append,
        dropWhile_cons_of_neg (by simp [notSpace])]
      simp
    · intro rest
      obtain ⟨later, opened⟩ : ∃ later, renderRows (row :: rows) = '(' :: later := by
        cases rows with
        | nil => exact ⟨rowText row ++ [')'], by simp [renderRows, renderRow_eq]⟩
        | cons next rows => exact ⟨_, by simp [renderRows, renderRow_eq]; rfl⟩
      rw [opened, cons_append, dropWhile_cons_of_neg (by simp [notSpace])]

/-- The groups of a rendered statement. -/
def Statement.groups (statement : Statement unicode) : Insert :=
  ⟨statement.table, renderColumns statement.columns, renderRows statement.rows⟩

theorem insertAt_render (statement : Statement unicode) (readable : statement.Readable) (rest : Text) :
    insertAt unicode (statement.render ++ rest) = some (statement.groups, rest) := by
  have words : statement.render ++ rest =
      'I' :: 'N' :: 'S' :: 'E' :: 'R' :: 'T' :: ' ' :: 'I' :: 'N' :: 'T' :: 'O' :: ' ' :: '`' :: (statement.table ++
        '`' :: ' ' :: '(' :: (renderColumns statement.columns ++
          ')' :: ' ' :: 'V' :: 'A' :: 'L' :: 'U' :: 'E' :: 'S' :: ' ' ::
            (renderRows statement.rows ++ ';' :: rest))) := by
    simp [Statement.render, ticked]
  have table := takeWhile_run statement.word unicode.tick_not_word
  have afterTable := dropWhile_run statement.word unicode.tick_not_word
  have closing : notParen ')' = false := by decide
  have columns := takeWhile_run (notParen_renderColumns statement) closing
  have afterColumns := dropWhile_run (notParen_renderColumns statement) closing
  have noSemicolon : ∀ ch ∈ renderRows statement.rows, decide (ch ≠ ';') = true := by
    intro ch inside
    apply decide_eq_true
    intro same
    exact no_semicolon_renderRows readable (same ▸ inside)
  have stops : decide (';' ≠ ';') = false := by decide
  have values := takeWhile_run noSemicolon stops
  have afterValues := dropWhile_run noSemicolon stops
  obtain ⟨trimmed, opened⟩ := renderRows_ends statement.rows
  have insertWord (text : Text) : keyword ['I', 'N', 'S', 'E', 'R', 'T']
      ('I' :: 'N' :: 'S' :: 'E' :: 'R' :: 'T' :: text) = some text := rfl
  have intoWord (text : Text) : keyword ['I', 'N', 'T', 'O'] ('I' :: 'N' :: 'T' :: 'O' :: text) = some text := rfl
  have valuesWord (text : Text) : keyword ['V', 'A', 'L', 'U', 'E', 'S']
      ('V' :: 'A' :: 'L' :: 'U' :: 'E' :: 'S' :: text) = some text := rfl
  have oneSpace (ch : Char) (text : Text) (notSpace : isSpace ch = false) :
      (' ' :: ch :: text).dropWhile isSpace = ch :: text := by
    rw [dropWhile_cons_of_pos (by decide), dropWhile_cons_of_neg (by simp [notSpace])]
  have between (ch : Char) (text : Text) (notSpace : isSpace ch = false) :
      spaces (' ' :: ch :: text) = some (ch :: text) := by
    rw [spaces, if_pos (by decide), dropWhile_cons_of_neg (by simp [notSpace])]
  have lastSpace (text : Text) : (' ' :: text).dropWhile isSpace = text.dropWhile isSpace :=
    dropWhile_cons_of_pos (by decide)
  rw [words]
  simp only [insertAt, insertWord, intoWord, between 'I' _ (by decide), between '`' _ (by decide), Option.bind_eq_bind, Option.bind_some, tick,
    table, afterTable, if_neg statement.named, oneSpace '(' _ (by decide), literal, if_true, columns, afterColumns,
    oneSpace 'V' _ (by decide), valuesWord, lastSpace, opened, values, afterValues, trimmed]
  rfl

theorem insertAt_other (other : sameLetter 'I' ch = false) (rest : Text) :
    insertAt unicode (ch :: rest) = none := by
  simp [insertAt, keyword, other]

/-- What the regular expression finds in an item. -/
def Item.matches : Item unicode → List Insert
  | .insert statement => [statement.groups]
  | .lineComment _ _ => []
  | .blockComment _ _ _ => []

/-- What a scan for statements reads of an item. -/
def Item.found : Item unicode → List (Char ⊕ Insert)
  | .insert statement => [.inr statement.groups, .inl '\n']
  | .lineComment _ _ => []
  | .blockComment _ _ semicolon => (' ' :: semicolonText semicolon ++ ['\n']).map .inl

theorem Item.reads_found (item : Item unicode) {after rest : Text} {tokens : List (Char ⊕ Insert)}
    (readable : item.Readable after) (later : Scan.Reads (insertAt unicode) rest tokens) :
    Scan.Reads (insertAt unicode) (item.cleaned ++ rest) (item.found ++ tokens) := by
  cases item with
  | insert statement =>
    have newline : insertAt unicode ('\n' :: rest) = none := insertAt_other (by decide) rest
    have starts := insertAt_render statement readable.1 ('\n' :: rest)
    have read := Scan.Reads.take starts (by simp [Statement.render]; omega) (later.pass newline)
    simpa [Item.cleaned, Item.found] using read
  | lineComment text one_line => exact later
  | blockComment text opened semicolon =>
    apply Scan.Reads.append _ later
    have quiet (ch : Char) (other : sameLetter 'I' ch = false) (rest : Text) : insertAt unicode (ch :: rest) = none :=
      insertAt_other other rest
    have space := quiet ' ' (by decide)
    have semi := quiet ';' (by decide)
    have newline := quiet '\n' (by decide)
    cases semicolon with
    | false => simp [Scan.Quiet, Item.cleaned, semicolonText, space, newline]
    | true => simp [Scan.Quiet, Item.cleaned, semicolonText, space, semi, newline]

theorem findAll_cleaned (dump : Dump unicode) (readable : Readable dump) :
    Scan.findAll (insertAt unicode) (dump.flatMap Item.cleaned) = dump.flatMap Item.matches := by
  have reads : Scan.Reads (insertAt unicode) (dump.flatMap Item.cleaned) (dump.flatMap Item.found) := by
    induction dump with
    | nil => exact Scan.Reads.nil
    | cons item rest ih => exact item.reads_found readable.1 (ih readable.2)
  rw [reads.findAll_eq, filterMap_flatMap]
  congr 1
  funext item
  cases item with
  | insert statement => rfl
  | lineComment text one_line => rfl
  | blockComment text opened semicolon =>
    cases semicolon with
    | false => rfl
    | true => rfl

theorem dictOf_eq (distinct : columns.Nodup)
    (same : columns.length ≤ values.length) : dictOf columns values = columns.zip values := by
  have keys : (columns.zip values).map Prod.fst = columns := map_fst_zip same
  exact Dictionary.foldl_alter (by rwa [keys])

theorem rowsOf_groups (statement : Statement unicode) (readable : statement.Readable) :
    rowsOf unicode statement.groups = statement.rows.map fun row => statement.columns.zip (row.map Field.meaning) := by
  have columns : splitColumns statement.groups.columns = statement.columns :=
    splitColumns_renderColumns statement.some_column statement.columns_free
  have tuples : splitTuples statement.groups.values = statement.rows.map rowText := splitTuples_renderRows _
  rw [rowsOf, columns, tuples, filterMap_map, ← filterMap_eq_map]
  apply filterMap_congr
  intro row isRow
  have complete := statement.complete row isRow
  have some : row ≠ [] := by
    intro empty
    rw [empty] at complete
    exact statement.some_column (length_eq_zero_iff.mp complete.symm)
  have read : parseFields unicode (rowText row) = row.map Field.meaning :=
    parseFields_rowText some (readable row isRow)
  have longEnough : statement.columns.length ≤ (row.map Field.meaning).length := by
    rw [length_map, complete]
  simp only [Function.comp_apply, read, length_map, complete, ne_eq, not_true, if_false]
  rw [dictOf_eq statement.distinct longEnough]

theorem foldl_appendRow (matched : List Insert) (tables : Tables) :
    matched.foldl (fun tables insert => (rowsOf unicode insert).foldl (appendRow (unicode.lower insert.table)) tables)
        tables =
      (matched.flatMap fun insert => (rowsOf unicode insert).map fun row => (unicode.lower insert.table, row)).foldl
        Dictionary.add tables := by
  induction matched generalizing tables with
  | nil => rfl
  | cons insert rest ih =>
    rw [foldl_cons, ih, flatMap_cons, foldl_append, foldl_map]
    rfl

theorem content_matches (dump : Dump unicode) (readable : Readable dump) :
    ((dump.flatMap Item.matches).flatMap fun insert =>
      (rowsOf unicode insert).map fun row => (unicode.lower insert.table, row)) = dump.flatMap Item.content := by
  induction dump with
  | nil => rfl
  | cons item rest ih =>
    rw [flatMap_cons, flatMap_append, flatMap_cons, ih readable.2]
    congr 1
    cases item with
    | insert statement =>
      rw [Item.matches, flatMap_singleton, rowsOf_groups statement readable.1.1, map_map]
      rfl
    | lineComment text one_line => rfl
    | blockComment text opened semicolon => rfl

/-- What is read from a dump: every table with a row, under its lower-case name and in the order of the first rows,
and all its rows in order, every character of a string as it was. Left out are strings with a semicolon or a character
written as `\Z`, and comment markers inside a statement. -/
theorem parseDump_render (dump : Dump unicode) (readable : Readable dump) :
    parseDump unicode (render dump) = tablesOf dump := by
  unfold parseDump
  dsimp only
  rw [stripComments_render dump readable, findAll_cleaned dump readable, foldl_appendRow,
    content_matches dump readable, Dictionary.foldl_add, tablesOf]

def asciiUnicode : Unicode where
  isWord ch := ch.isAlphanum || ch = '_'
  digit ch := if ch.isDigit then some (ch.toNat - 48) else none
  lower text := text.map Char.toLower
  tick_not_word := by decide
  digit_ascii := by decide
  sign_not_digit := by decide
  point_not_digit := by decide

/-- A text, a number and a missing value in two rows. -/
def unitStatement : Statement asciiUnicode where
  table := ['u', 'n', 'i', 't']
  columns := [['n', 'o'], ['n', 'a', 'm', 'e']]
  rows := [[.integer (-12), .text [.plain 'a' (by decide), .doubled, .escaped .newline]], [.decimal 15 1 (by decide), .null]]
  named := by decide
  word := all_eq_true.mp (by decide)
  columns_free := by simp
  distinct := by decide
  some_column := by decide
  complete := by decide

def unitDump : Dump asciiUnicode :=
  [.lineComment [' ', 'u', 'n', 'i', 't'] (by decide), .blockComment ['!', '*', ' '] (by decide) true,
    .insert unitStatement]

theorem parseDump_unitDump : Readable unitDump ∧ parseDump asciiUnicode (render unitDump) = tablesOf unitDump := by
  have readable : Readable unitDump := by decide +kernel
  exact ⟨readable, parseDump_render unitDump readable⟩

/-- A table with a capital letter, and an amount of nineteen digits. -/
def rentStatement : Statement asciiUnicode where
  table := ['U', 'n', 'i', 't']
  columns := [['r', 'e', 'n', 't']]
  rows := [[.decimal 1234567890123456789 2 (by decide)]]
  named := by decide
  word := all_eq_true.mp (by decide)
  columns_free := by simp
  distinct := by decide
  some_column := by decide
  complete := by decide

/-- The name is read in lower case, and the amount as the nearest `float`. -/
theorem rent_altered :
    parseDump asciiUnicode (render [.insert rentStatement]) =
        [(['u', 'n', 'i', 't'], [[(['r', 'e', 'n', 't'], .float (.finite 12345678901234568))]])] ∧
      (12345678901234568 : ℚ) ≠ 1234567890123456789 / 10 ^ 2 ∧ rentStatement.table ≠ ['u', 'n', 'i', 't'] := by
  decide +kernel

end Mhvp.Sqldump
