import Mhvp.Sqldump.Dumps

namespace Mhvp.Sqldump

open Core List

variable {unicode : Unicode}

/-- A text is a row of decimal digits. -/
structure Written (text : Text) (digits : List ℕ) : Prop where
  chars : text = digits.map Nat.digitChar
  small : ∀ digit ∈ digits, digit < 10

theorem Written.append (first : Written text digits) (second : Written other more) :
    Written (text ++ other) (digits ++ more) where
  chars := by rw [first.chars, second.chars, map_append]
  small := by
    intro digit isDigit
    rcases mem_append.mp isDigit with here | there
    · exact first.small digit here
    · exact second.small digit there

theorem Written.single (small : digit < 10) : Written [Nat.digitChar digit] [digit] where
  chars := rfl
  small := by
    intro other isOther
    rwa [mem_singleton.mp isOther]

theorem digitsValue_append (digits more : List ℕ) :
    digitsValue (digits ++ more) = digitsValue digits * 10 ^ more.length + digitsValue more := by
  induction more using List.reverseRecOn with
  | nil => simp [digitsValue]
  | append_singleton more digit ih =>
    have shifted (all : List ℕ) : digitsValue (all ++ [digit]) = 10 * digitsValue all + digit := by
      simp [digitsValue]
    rw [← append_assoc, shifted, shifted, ih, length_append, length_singleton]
    ring

theorem toDigits_written (value : ℕ) :
    ∃ digits, Written (Nat.toDigits 10 value) digits ∧ digitsValue digits = value ∧ digits ≠ [] := by
  induction value using Nat.strongRecOn with
  | ind value ih =>
    rw [Nat.toDigits_eq_if (by decide)]
    by_cases small : value < 10
    · refine ⟨[value], ?_, ?_, cons_ne_nil _ _⟩
      · rw [if_pos small]
        exact Written.single small
      · simp [digitsValue]
    · obtain ⟨digits, written, isValue, _⟩ := ih (value / 10) (by omega)
      refine ⟨digits ++ [value % 10], ?_, ?_, by simp⟩
      · rw [if_neg small]
        exact written.append (Written.single (Nat.mod_lt _ (by decide)))
      · rw [digitsValue_append, isValue]
        simp only [digitsValue, length_singleton, foldl_cons, foldl_nil]
        omega

theorem fixedDigits_written (places value : ℕ) :
    ∃ digits, Written (fixedDigits places value) digits ∧ digitsValue digits = value % 10 ^ places ∧
      digits.length = places := by
  induction places generalizing value with
  | zero => exact ⟨[], ⟨rfl, by simp⟩, by simp [digitsValue, Nat.mod_one], rfl⟩
  | succ places ih =>
    obtain ⟨digits, written, isValue, isLength⟩ := ih (value / 10)
    refine ⟨digits ++ [value % 10], written.append (Written.single (Nat.mod_lt _ (by decide))), ?_, by simp [isLength]⟩
    rw [digitsValue_append, isValue, pow_succ', Nat.mod_mul]
    simp only [digitsValue, length_singleton, foldl_cons, foldl_nil]
    ring

section

variable (written : Written text digits)
include written

theorem Written.mapM : text.mapM unicode.digit = some digits := by
  obtain ⟨rfl, small⟩ := written
  induction digits with
  | nil => rfl
  | cons digit rest ih =>
    have this := unicode.digit_ascii digit (small digit mem_cons_self)
    have others := ih fun other isOther => small other (mem_cons_of_mem _ isOther)
    simp only [map_cons, mapM_cons, this, others]
    rfl

theorem Written.isDigit : ∀ ch ∈ text, isDigit unicode ch = true := by
  intro ch inside
  rw [written.chars] at inside
  obtain ⟨digit, isDigit, rfl⟩ := mem_map.mp inside
  rw [Sqldump.isDigit, unicode.digit_ascii digit (written.small digit isDigit)]
  rfl

theorem Written.filterMap : text.filterMap unicode.digit = digits := by
  obtain ⟨rfl, small⟩ := written
  induction digits with
  | nil => rfl
  | cons digit rest ih =>
    have this := unicode.digit_ascii digit (small digit mem_cons_self)
    rw [map_cons, filterMap_cons_some this, ih fun other isOther => small other (mem_cons_of_mem _ isOther)]

theorem Written.ne_nil (some : digits ≠ []) : text ≠ [] := by
  rw [written.chars]
  simpa using some

theorem Written.allDigits (some : digits ≠ []) :
    allDigits unicode text = Option.some digits := by
  rw [Sqldump.allDigits, if_neg (written.ne_nil some), written.mapM]

theorem Written.takeDigits (ends : ∀ ch ∈ rest.head?, Sqldump.isDigit unicode ch = false) :
    takeDigits unicode (text ++ rest) = (digits, rest) := by
  have all : ∀ ch ∈ text, Sqldump.isDigit unicode ch = true := written.isDigit
  rw [Sqldump.takeDigits, takeWhile_append_of_pos all, dropWhile_append_of_pos all]
  cases rest with
  | nil => rw [takeWhile_nil, append_nil, dropWhile_nil, written.filterMap]
  | cons ch rest =>
    have stops : ¬ Sqldump.isDigit unicode ch = true := by simp [ends ch rfl]
    rw [takeWhile_cons_of_neg stops, dropWhile_cons_of_neg stops, append_nil, written.filterMap]

end

theorem mapM_digit_none {text : Text} {ch : Char} (inside : ch ∈ text) (other : unicode.digit ch = none) :
    text.mapM unicode.digit = none := by
  induction text with
  | nil => exact absurd inside not_mem_nil
  | cons first rest ih =>
    rw [mapM_cons]
    cases inside with
    | head => rw [other]; rfl
    | tail _ later =>
      rw [ih later]
      cases unicode.digit first with
      | none => rfl
      | some value => rfl

/-- The characters of a number. -/
def Numeric (ch : Char) : Prop := ch = '-' ∨ ch = '.' ∨ ∃ digit < 10, ch = Nat.digitChar digit

theorem Numeric.property {property : Char → Prop} (numeric : Numeric ch) (minus : property '-') (point : property '.')
    (digits : ∀ digit < 10, property (Nat.digitChar digit)) : property ch := by
  rcases numeric with rfl | rfl | ⟨digit, small, rfl⟩
  · exact minus
  · exact point
  · exact digits digit small

theorem Written.numeric (written : Written text digits) : ∀ ch ∈ text, Numeric ch := by
  intro ch inside
  rw [written.chars] at inside
  obtain ⟨digit, isDigit, rfl⟩ := mem_map.mp inside
  exact Or.inr (Or.inr ⟨digit, written.small digit isDigit, rfl⟩)

theorem numeric_signText (value : ℤ) : ∀ ch ∈ signText value, Numeric ch := by
  intro ch inside
  unfold signText at inside
  split at inside
  · exact Or.inl (mem_singleton.mp inside)
  · exact absurd inside not_mem_nil

theorem Numeric.not_space (numeric : Numeric ch) : isSpace ch = false := by
  apply numeric.property
  · decide
  · decide
  · decide

theorem Numeric.not_word (numeric : Numeric ch) : ch.toUpper ≠ 'N' := by
  apply numeric.property
  · decide
  · decide
  · decide

/-- No character at which a scanner does anything. -/
def bare (ch : Char) : Bool := !(['\'', '"', '\\', '(', ')', ',', ';'].contains ch)

theorem Numeric.bare (numeric : Numeric ch) : bare ch = true := by
  apply numeric.property
  · decide
  · decide
  · decide

theorem Numeric.not_underscore (numeric : Numeric ch) : ch ≠ '_' := by
  apply numeric.property
  · decide
  · decide
  · decide

theorem coerce_numeric (notEmpty : text ≠ []) (numeric : ∀ ch ∈ text, Numeric ch) :
    coerce unicode text false =
      match parseInt unicode text with
      | some value => .int value
      | none =>
        match parseFloat unicode text with
        | some value => .float value
        | none => .text text := by
  have whole : strip isSpace text = text := strip_eq fun ch inside => (numeric ch inside).not_space
  have notNull : text.map Char.toUpper ≠ ['N', 'U', 'L', 'L'] := by
    intro isNull
    have first : 'N' ∈ text.map Char.toUpper := by rw [isNull]; exact mem_cons_self
    obtain ⟨ch, inside, isN⟩ := mem_map.mp first
    exact (numeric ch inside).not_word isN
  have read : ¬ (text = [] ∨ text.map Char.toUpper = ['N', 'U', 'L', 'L']) := not_or.mpr ⟨notEmpty, notNull⟩
  rw [coerce, if_neg Bool.false_ne_true]
  dsimp only
  rw [whole]
  exact if_neg read

theorem numeric_number (value : ℤ) (written : Written text digits) : ∀ ch ∈ signText value ++ text, Numeric ch := by
  intro ch inside
  rcases mem_append.mp inside with sign | digit
  · exact numeric_signText value ch sign
  · exact written.numeric ch digit

theorem Written.head (written : Written text digits) (some : digits ≠ []) :
    ∃ ch rest, text = ch :: rest ∧ ch ≠ '-' ∧ ch ≠ '+' := by
  obtain ⟨rfl, small⟩ := written
  cases digits with
  | nil => exact absurd rfl some
  | cons digit rest =>
    have noSign : ∀ digit < 10, Nat.digitChar digit ≠ '-' ∧ Nat.digitChar digit ≠ '+' := by decide
    exact ⟨_, _, rfl, noSign digit (small digit mem_cons_self)⟩

section

variable (value : ℤ) (written : Written text digits) (some : digits ≠ [])
include value written some

theorem takeSign_signText (rest : Text) :
    takeSign (signText value ++ (text ++ rest)) = (decide (value < 0), text ++ rest) := by
  obtain ⟨ch, others, rfl, notMinus, notPlus⟩ := written.head some
  unfold signText
  split
  · rename_i negative
    simp [takeSign, negative]
  · rename_i negative
    simp [takeSign, negative, notMinus, notPlus]

theorem parseInt_signText :
    parseInt unicode (signText value ++ text) =
      Option.some (if value < 0 then -(digitsValue digits : ℤ) else digitsValue digits) := by
  have all : allDigits unicode text = Option.some digits := written.allDigits some
  obtain ⟨ch, others, rfl, notMinus, notPlus⟩ := written.head some
  unfold signText
  split
  · simp [parseInt, all]
  · simp [parseInt, notMinus, all]

end

theorem coerce_integer (value : ℤ) : coerce unicode (Field.integer value).render false = .int value := by
  obtain ⟨digits, written, isValue, some⟩ := toDigits_written value.natAbs
  have notEmpty : signText value ++ Nat.toDigits 10 value.natAbs ≠ [] :=
    append_ne_nil_of_right_ne_nil _ (written.ne_nil some)
  rw [Field.render, coerce_numeric notEmpty (numeric_number value written), parseInt_signText value written some, isValue]
  dsimp only
  congr 1
  split <;> omega

theorem dropUnderscores_eq (none : ∀ ch ∈ text, ch ≠ '_') (afterDigit : Bool) :
    dropUnderscores unicode afterDigit text = some text := by
  induction text generalizing afterDigit with
  | nil => rfl
  | cons ch rest ih =>
    rw [dropUnderscores, if_neg (none ch mem_cons_self),
      ih fun other isOther => none other (mem_cons_of_mem _ isOther)]
    rfl

theorem isWordOf_point (noPoint : '.' ∉ word) (point : '.' ∈ text) : isWordOf word text = false := by
  apply decide_eq_false
  intro same
  have lower : '.' ∈ text.map Char.toLower := mem_map.mpr ⟨'.', point, by decide⟩
  exact noPoint (same ▸ lower)

theorem parseFloat_point (value : ℤ)
    (wholeWritten : Written whole digits) (some : digits ≠ []) (fractionWritten : Written fraction places) :
    parseFloat unicode (signText value ++ (whole ++ '.' :: fraction)) =
      Option.some (Binary64.nearest
        (let size : ℚ := digitsValue (digits ++ places) * 10 ^ (0 - (places.length : ℤ))
          if value < 0 then -size else size)) := by
  have noUnderscore : ∀ ch ∈ signText value ++ (whole ++ '.' :: fraction), ch ≠ '_' := by
    intro ch inside
    rcases mem_append.mp inside with sign | later
    · exact (numeric_signText value ch sign).not_underscore
    · rcases mem_append.mp later with isWhole | later
      · exact (wholeWritten.numeric ch isWhole).not_underscore
      · rcases mem_cons.mp later with isPoint | isFraction
        · rw [isPoint]; decide
        · exact (fractionWritten.numeric ch isFraction).not_underscore
  have point : '.' ∈ whole ++ '.' :: fraction := mem_append_right _ mem_cons_self
  have notInf : isWordOf ['i', 'n', 'f'] (whole ++ '.' :: fraction) = false := isWordOf_point (by decide) point
  have notInfinity : isWordOf ['i', 'n', 'f', 'i', 'n', 'i', 't', 'y'] (whole ++ '.' :: fraction) = false :=
    isWordOf_point (by decide) point
  have notNan : isWordOf ['n', 'a', 'n'] (whole ++ '.' :: fraction) = false := isWordOf_point (by decide) point
  have stops : ∀ ch ∈ ('.' :: fraction).head?, isDigit unicode ch = false := by
    intro ch isPoint
    cases isPoint
    rw [isDigit, unicode.point_not_digit]
    rfl
  have wholeTaken := wholeWritten.takeDigits stops
  have fractionTaken : takeDigits unicode (fraction ++ []) = (places, []) := fractionWritten.takeDigits (by simp)
  rw [append_nil] at fractionTaken
  simp [parseFloat, dropUnderscores_eq noUnderscore, takeSign_signText value wholeWritten some, notInf, notInfinity,
    notNan, wholeTaken, takeFraction, fractionTaken, some, takeExponent]

theorem parseInt_point (value : ℤ) {text : Text} (point : '.' ∈ text) :
    parseInt unicode (signText value ++ text) = none := by
  have noInt : ∀ text : Text, '.' ∈ text → allDigits unicode text = none := by
    intro text point
    unfold allDigits
    split
    · rfl
    · exact mapM_digit_none point unicode.point_not_digit
  unfold signText
  split
  · simp [parseInt, noInt text point]
  · rw [nil_append]
    unfold parseInt
    split
    · rename_i rest
      have later : '.' ∈ rest := (mem_cons.mp point).resolve_left (by decide)
      rw [noInt rest later]
      rfl
    · rw [noInt text point]
      rfl

section

variable (unscaled : ℤ) (places : ℕ)
include unscaled places

theorem signed_quotient :
    (let size : ℚ := unscaled.natAbs * 10 ^ (0 - (places : ℤ))
      if unscaled < 0 then -size else size) = unscaled / 10 ^ places := by
  have shifted : (10 : ℚ) ^ (0 - (places : ℤ)) = 1 / 10 ^ places := by
    rw [zero_sub, zpow_neg, zpow_natCast, one_div]
  have size : (unscaled.natAbs : ℚ) = |(unscaled : ℚ)| := by
    rw [Nat.cast_natAbs, Int.cast_abs]
  dsimp only
  rw [shifted, size]
  split
  · rename_i negative
    have sign : (unscaled : ℚ) < 0 := by exact_mod_cast negative
    rw [abs_of_neg sign]
    ring
  · rename_i nonneg
    have sign : 0 ≤ (unscaled : ℚ) := by exact_mod_cast not_lt.mp nonneg
    rw [abs_of_nonneg sign]
    ring

theorem numeric_decimal (positive : 0 < places) :
    ∀ ch ∈ (Field.decimal unscaled places positive).render, Numeric ch := by
  obtain ⟨digits, wholeWritten, _⟩ := toDigits_written (unscaled.natAbs / 10 ^ places)
  obtain ⟨fraction, fractionWritten, _⟩ := fixedDigits_written places unscaled.natAbs
  intro ch inside
  rcases mem_append.mp inside with front | later
  · exact numeric_number unscaled wholeWritten ch front
  · rcases mem_cons.mp later with isPoint | isFraction
    · exact Or.inr (Or.inl isPoint)
    · exact fractionWritten.numeric ch isFraction

theorem coerce_decimal (positive : 0 < places) :
    coerce unicode (Field.decimal unscaled places positive).render false =
      .float (Binary64.nearest (unscaled / 10 ^ places)) := by
  obtain ⟨digits, wholeWritten, wholeValue, some⟩ := toDigits_written (unscaled.natAbs / 10 ^ places)
  obtain ⟨fraction, fractionWritten, fractionValue, isLength⟩ := fixedDigits_written places unscaled.natAbs
  have point : '.' ∈ Nat.toDigits 10 (unscaled.natAbs / 10 ^ places) ++ '.' :: fixedDigits places unscaled.natAbs :=
    mem_append_right _ mem_cons_self
  have notEmpty : (Field.decimal unscaled places positive).render ≠ [] :=
    append_ne_nil_of_right_ne_nil _ (cons_ne_nil _ _)
  have isValue : digitsValue (digits ++ fraction) = unscaled.natAbs := by
    rw [digitsValue_append, wholeValue, fractionValue, isLength]
    exact Nat.div_add_mod' _ _
  rw [coerce_numeric notEmpty (numeric_decimal unscaled places positive), Field.render, append_assoc,
    parseInt_point unscaled point, parseFloat_point unscaled wholeWritten some fractionWritten, isValue, isLength]
  dsimp only
  rw [← signed_quotient]

end

theorem coerce_null : coerce unicode Field.null.render false = .null := by
  have isNull : strip isSpace ['N', 'U', 'L', 'L'] = ['N', 'U', 'L', 'L'] ∧
      ['N', 'U', 'L', 'L'].map Char.toUpper = ['N', 'U', 'L', 'L'] := by decide
  simp only [Field.render, coerce, isNull.1, isNull.2, or_true, if_true, Bool.false_eq_true, if_false]

theorem Field.literal (field : Field) : (∃ glyphs, field = .text glyphs) ∨
    (∀ ch ∈ field.render, bare ch = true) ∧ ∀ unicode, coerce unicode field.render false = field.meaning := by
  cases field with
  | null => exact Or.inr ⟨all_eq_true.mp (by decide), fun _ => coerce_null⟩
  | integer value =>
    obtain ⟨digits, written, _⟩ := toDigits_written value.natAbs
    exact Or.inr ⟨fun ch inside => (numeric_number value written ch inside).bare, fun _ => coerce_integer value⟩
  | decimal unscaled places positive =>
    exact Or.inr ⟨fun ch inside => (numeric_decimal unscaled places positive ch inside).bare,
      fun _ => coerce_decimal unscaled places positive⟩
  | text glyphs => exact Or.inl ⟨glyphs, rfl⟩

theorem tuplesLoop_string (glyphs : List Glyph) (other : ch ≠ '\'') (rest buf : Text) (depth : ℤ) :
    tuplesLoop (glyphs.flatMap Glyph.render ++ '\'' :: ch :: rest) depth buf (some '\'') =
      tuplesLoop (ch :: rest) depth (buf ++ glyphs.flatMap Glyph.render ++ ['\'']) none := by
  induction glyphs generalizing buf with
  | nil =>
    rw [flatMap_nil, nil_append, append_nil, tuplesLoop, if_neg (by decide),
      if_neg (by simp [other]), if_pos rfl]
  | cons glyph rest' ih =>
    obtain ⟨next, later, follows⟩ : ∃ next later, rest'.flatMap Glyph.render ++ '\'' :: ch :: rest = next :: later :=
      exists_cons_of_ne_nil (by simp)
    rw [flatMap_cons, append_assoc]
    cases glyph with
    | plain symbol free =>
      rw [Glyph.render, singleton_append, follows, tuplesLoop, if_neg free.2, if_neg (by simp [free.1]),
        if_neg free.1, ← follows, ih]
      simp
    | doubled =>
      rw [Glyph.render]
      simp only [cons_append, nil_append]
      rw [tuplesLoop, if_neg (by decide), if_pos ⟨rfl, rfl⟩, ih]
      simp
    | escaped escape =>
      rw [Glyph.render]
      simp only [cons_append, nil_append]
      rw [tuplesLoop, if_pos rfl, ih]
      simp

theorem bare_ne (isBare : bare ch = true) (special : bare other = false) : ch ≠ other := by
  intro same
  rw [same, special] at isBare
  cases isBare

theorem tuplesLoop_bare (isBare : ∀ ch ∈ run, bare ch = true) (rest buf : Text) :
    tuplesLoop (run ++ rest) 1 buf none = tuplesLoop rest 1 (buf ++ run) none := by
  induction run generalizing buf with
  | nil => simp
  | cons ch run ih =>
    have this := isBare ch mem_cons_self
    have quote : ch ≠ '\'' := bare_ne this (by decide)
    have doubleQuote : ch ≠ '"' := bare_ne this (by decide)
    have opening : ch ≠ '(' := bare_ne this (by decide)
    have closing : ch ≠ ')' := bare_ne this (by decide)
    rw [cons_append, tuplesLoop]
    simp only [quote, doubleQuote, opening, closing, or_self, false_and, if_false]
    rw [if_pos (by decide), ih fun other isOther => isBare other (mem_cons_of_mem _ isOther)]
    simp

theorem tuplesLoop_field (field : Field) (other : ch ≠ '\'') (rest buf : Text) :
    tuplesLoop (field.render ++ ch :: rest) 1 buf none = tuplesLoop (ch :: rest) 1 (buf ++ field.render) none := by
  rcases field.literal with ⟨glyphs, rfl⟩ | ⟨isBare, _⟩
  · have rendered : (Field.text glyphs).render ++ ch :: rest =
        '\'' :: (glyphs.flatMap Glyph.render ++ '\'' :: ch :: rest) := by
      simp [Field.render]
    rw [rendered, tuplesLoop, if_pos (Or.inl rfl), tuplesLoop_string glyphs other, Field.render]
    simp
  · exact tuplesLoop_bare isBare _ _

def rowText (row : List Field) : Text := [','].intercalate (row.map Field.render)

theorem rowText_cons (field next : Field) (rest : List Field) :
    rowText (field :: next :: rest) = field.render ++ ',' :: rowText (next :: rest) := by
  simp [rowText]

theorem tuplesLoop_row (row : List Field) (rest buf : Text) :
    tuplesLoop (rowText row ++ ')' :: rest) 1 buf none =
      (buf ++ rowText row) :: tuplesLoop rest 0 (buf ++ rowText row) none := by
  have closing (buf : Text) : tuplesLoop (')' :: rest) 1 buf none = buf :: tuplesLoop rest 0 buf none := by
    rw [tuplesLoop]
    simp
  induction row generalizing buf with
  | nil => simp [rowText, closing]
  | cons field row ih =>
    cases row with
    | nil =>
      have one : rowText [field] = field.render := by simp [rowText]
      rw [one, tuplesLoop_field field (by decide), closing]
    | cons next row =>
      rw [rowText_cons, append_assoc, cons_append, tuplesLoop_field field (by decide), tuplesLoop]
      simp only [Char.reduceEq, or_self, false_and, if_false]
      rw [if_pos (by decide), ih]
      simp

theorem renderRow_eq (row : List Field) : renderRow row = '(' :: rowText row ++ [')'] := rfl

theorem splitTuples_renderRows (rows : List (List Field)) : splitTuples (renderRows rows) = rows.map rowText := by
  have looped (buf : Text) : tuplesLoop (renderRows rows) 0 buf none = rows.map rowText := by
    induction rows generalizing buf with
    | nil => rfl
    | cons row rows ih =>
      have opening (text : Text) : tuplesLoop ('(' :: text) 0 buf none = tuplesLoop text 1 [] none := by
        rw [tuplesLoop]
        simp
      cases rows with
      | nil =>
        have one : renderRows [row] = '(' :: (rowText row ++ [')']) := by simp [renderRows, renderRow_eq]
        rw [one, opening, tuplesLoop_row]
        rfl
      | cons next rows =>
        have more : renderRows (row :: next :: rows) =
            '(' :: (rowText row ++ ')' :: ',' :: renderRows (next :: rows)) := by
          simp [renderRows, renderRow_eq]
        rw [more, opening, tuplesLoop_row, tuplesLoop]
        simp only [Char.reduceEq, or_self, false_and, if_false, lt_irrefl]
        rw [ih]
        rfl
  exact looped []

theorem unescape_letter {escape : Escape} (kept : escape ≠ .substitute) : unescape escape.letter = escape.meaning := by
  cases escape with
  | substitute => exact absurd rfl kept
  | quote => decide
  | doubleQuote => decide
  | backslash => decide
  | newline => decide
  | carriageReturn => decide
  | tab => decide
  | nul => decide

theorem fieldsLoop_string {glyphs : List Glyph} (readable : ∀ glyph ∈ glyphs, glyph.Readable) {rest : Text}
    (other : ∀ ch ∈ rest.head?, ch ≠ '\'') (buf : Text) (quoted : Bool) :
    fieldsLoop unicode (glyphs.flatMap Glyph.render ++ '\'' :: rest) buf quoted (some '\'') =
      fieldsLoop unicode rest (buf ++ glyphs.map Glyph.meaning) quoted none := by
  induction glyphs generalizing buf with
  | nil =>
    rw [flatMap_nil, nil_append, map_nil, append_nil]
    cases rest with
    | nil => simp [fieldsLoop]
    | cons ch rest => simp [fieldsLoop, other ch rfl]
  | cons glyph rest' ih =>
    obtain ⟨next, later, follows⟩ : ∃ next later, rest'.flatMap Glyph.render ++ '\'' :: rest = next :: later :=
      exists_cons_of_ne_nil (by simp)
    have others := ih fun glyph isGlyph => readable glyph (mem_cons_of_mem _ isGlyph)
    have this := readable glyph mem_cons_self
    rw [flatMap_cons, append_assoc]
    cases glyph with
    | plain symbol free =>
      rw [Glyph.render, singleton_append, follows, fieldsLoop, if_neg free.2, if_neg free.1, ← follows, others]
      simp [Glyph.meaning]
    | doubled =>
      rw [Glyph.render]
      simp only [cons_append, nil_append]
      rw [fieldsLoop, if_neg (by decide), if_pos rfl, if_pos rfl, others]
      simp [Glyph.meaning]
    | escaped escape =>
      rw [Glyph.render]
      simp only [cons_append, nil_append]
      rw [fieldsLoop, if_pos rfl, others, unescape_letter this]
      simp [Glyph.meaning]

theorem fieldsLoop_bare (isBare : ∀ ch ∈ run, bare ch = true) (rest buf : Text) (quoted : Bool) :
    fieldsLoop unicode (run ++ rest) buf quoted none = fieldsLoop unicode rest (buf ++ run) quoted none := by
  induction run generalizing buf with
  | nil => simp
  | cons ch run ih =>
    have this := isBare ch mem_cons_self
    have quote : ch ≠ '\'' := bare_ne this (by decide)
    have doubleQuote : ch ≠ '"' := bare_ne this (by decide)
    have comma : ch ≠ ',' := bare_ne this (by decide)
    rw [cons_append, fieldsLoop]
    simp only [quote, doubleQuote, comma, or_self, if_false]
    rw [ih fun other isOther => isBare other (mem_cons_of_mem _ isOther)]
    simp

theorem fieldsLoop_field {field : Field} (readable : field.Readable) {rest : Text}
    (other : ∀ ch ∈ rest.head?, ch ≠ '\'') :
    ∃ buf quoted, fieldsLoop unicode (field.render ++ rest) [] false none = fieldsLoop unicode rest buf quoted none ∧
      coerce unicode buf quoted = field.meaning := by
  rcases field.literal with ⟨glyphs, rfl⟩ | ⟨isBare, coerced⟩
  · have rendered : (Field.text glyphs).render ++ rest = '\'' :: (glyphs.flatMap Glyph.render ++ '\'' :: rest) := by
      simp [Field.render]
    refine ⟨glyphs.map Glyph.meaning, true, ?_, rfl⟩
    rw [rendered, fieldsLoop, if_pos (Or.inl rfl), fieldsLoop_string readable other]
    rfl
  · exact ⟨field.render, false, by rw [fieldsLoop_bare isBare]; rfl, coerced unicode⟩

theorem parseFields_rowText (some : row ≠ []) (readable : ∀ field ∈ row, field.Readable) :
    parseFields unicode (rowText row) = row.map Field.meaning := by
  unfold parseFields
  induction row with
  | nil => exact absurd rfl some
  | cons field row ih =>
    have this := readable field mem_cons_self
    have others := fun field isField => readable field (mem_cons_of_mem _ isField)
    cases row with
    | nil =>
      have ends : ∀ ch ∈ ([] : Text).head?, ch ≠ '\'' := by simp
      obtain ⟨buf, quoted, looped, coerced⟩ := fieldsLoop_field this ends
      have one : rowText [field] = field.render ++ [] := by simp [rowText]
      rw [one, looped, fieldsLoop, coerced]
      rfl
    | cons next row =>
      have comma : ∀ ch ∈ (',' :: rowText (next :: row)).head?, ch ≠ '\'' := by simp
      obtain ⟨buf, quoted, looped, coerced⟩ := fieldsLoop_field this comma
      rw [rowText_cons, looped, fieldsLoop, if_neg (by decide), if_pos rfl, coerced,
        ih (cons_ne_nil _ _) others]
      rfl

end Mhvp.Sqldump
