import Mathlib.Data.List.Infix
import Mhvp.Core.DecimalText
import Mhvp.Sqldump.Parser

namespace Mhvp.Automation.Rules

open Core
open Sqldump (Text isSpace)

/-- Values of JSON that are neither a list nor an object; a float is finite. -/
inductive Scalar
  | null
  | bool (value : Bool)
  | int (value : ℤ)
  | float (value : ℚ)
  | text (value : Text)

inductive Json
  | scalar (value : Scalar)
  | list (items : List Json)
  | dict (fields : List (Text × Json))

/-- What `==` looks at: truth values are the numbers 0 and 1. -/
def Scalar.key : Scalar → Option (ℚ ⊕ Text)
  | .null => none
  | .bool value => some (.inl (if value then 1 else 0))
  | .int value => some (.inl value)
  | .float value => some (.inl value)
  | .text value => some (.inr value)

/-- `actual == expected` -/
def Json.same (expected : Scalar) : Json → Bool
  | .scalar actual => actual.key = expected.key
  | _ => false

/-- `None` or a truth value. -/
def Json.bare : Json → Bool
  | .scalar .null | .scalar (.bool _) => true
  | _ => false

/-- A `Decimal`; a signaling NaN cannot even be compared for equality. -/
inductive Number
  | nan (signaling : Bool)
  | real (value : WithBot (WithTop ℚ))

/-- What the interpreter's tables say: decimal digits, `str.casefold()`, the shortest decimal that is read as a float,
and `str()` of a value that is no text. -/
structure Interpreter where
  digit : Char → Option ℕ
  casefold : Text → Text
  shortest : ℚ → ℚ
  shown : Json → Text

def maxExponent : ℤ := 999999999999999999

def signed (text : Text) : Bool × Text :=
  match text with
  | '-' :: rest => (true, rest)
  | '+' :: rest => (false, rest)
  | text => (false, text)

def wholeNumber (text : Text) : Option ℕ :=
  if text ≠ [] ∧ text.all Char.isDigit then some (Nat.ofDigitChars 10 text 0) else none

def readExponent (text : Text) : Option ℤ :=
  (wholeNumber (signed text).2).map fun size => if (signed text).1 then -size else size

/-- A coefficient with a power of ten, within the widest context: the number is never rounded. -/
def readFinite (negative : Bool) (text : Text) : Option Number := do
  let (mantissa, power) := cut 'e' text
  let (whole, fraction) := cut '.' mantissa
  let digits ← wholeNumber (whole ++ fraction)
  let power ← if 'e' ∈ text then readExponent power else some 0
  let exponent := power - fraction.length
  if -2 * maxExponent + 1 ≤ exponent ∧ exponent + (Nat.toDigits 10 digits).length - 1 ≤ maxExponent then
    some (.real (((if negative then -1 else 1) * digits * 10 ^ exponent : ℚ) : WithTop ℚ))
  else none

section Evaluation

variable (python : Interpreter)

/-- `Decimal(text)`; `none` where it raises. -/
def readDecimal (text : Text) : Option Number := do
  let ascii ← ((Sqldump.strip isSpace text).filter (· ≠ '_')).mapM fun ch =>
    if ch.toNat < 128 then some ch else (python.digit ch).map Nat.digitChar
  let (negative, rest) := signed ascii
  let lower := rest.map Char.toLower
  if lower = "inf".toList ∨ lower = "infinity".toList then some (.real (if negative then ⊥ else (⊤ : WithTop ℚ)))
  else if "nan".toList.isPrefixOf lower ∧ (lower.drop 3).all Char.isDigit then some (.nan false)
  else if "snan".toList.isPrefixOf lower ∧ (lower.drop 4).all Char.isDigit then some (.nan true)
  else readFinite negative lower

/-- `_as_number`; `Decimal(str(value))` of a whole number is the number, and the text of a list or object is none. -/
def asNumber : Json → Option Number
  | .scalar (.int value) => some (.real ((value : ℚ) : WithTop ℚ))
  | .scalar (.float value) => some (.real (python.shortest value : WithTop ℚ))
  | .scalar (.text value) => readDecimal python value
  | _ => none

def numbers (actual : Json) (expected : Scalar) : Option (Number × Number) := do
  pure (← asNumber python actual, ← asNumber python (.scalar expected))

def str : Json → Text
  | .scalar (.text value) => value
  | value => python.shown value

inductive Failure
  /-- `InvalidOperation` of the decimal arithmetic. -/
  | invalidOperation
  | ruleDefinition (text : String)
  /-- `AttributeError`, `KeyError`: no condition tree. -/
  | malformed

def Number.equal : Number → Number → Except Failure Bool
  | .real left, .real right => .ok (left = right)
  | .nan true, _ | _, .nan true => .error .invalidOperation
  | _, _ => .ok false

def Number.less : Number → Number → Except Failure Bool
  | .real left, .real right => .ok (left < right)
  | _, _ => .error .invalidOperation

/-- `_loose_equal` -/
def looseEqual (expected : Scalar) (actual : Json) : Except Failure Bool :=
  if actual.same expected then .ok true
  else if actual.bare ∨ (Json.scalar expected).bare then .ok false
  else match numbers python actual expected with
    | some (left, right) => left.equal right
    | none => .ok (str python actual = str python (.scalar expected))

/-- `any(_loose_equal(item, expected) for item in actual)` -/
def anyEqual (expected : Scalar) : List Json → Except Failure Bool
  | [] => .ok false
  | item :: items => do
      if ← looseEqual python expected item then .ok true else anyEqual expected items

/-- `gt`, else `lt`, of two numbers or two texts. -/
def ordered (gt : Bool) (actual : Json) (expected : Scalar) : Except Failure Bool :=
  match numbers python actual expected, actual, expected with
  | some (left, right), _, _ => if gt then right.less left else left.less right
  | none, .scalar (.text left), .text right => .ok (if gt then right < left else left < right)
  | none, _, _ => .ok false

inductive ConditionOp
  | eq
  | ne
  | contains
  | gt
  | lt

/-- `_compare` -/
def compare (actual : Json) (expected : Scalar) : ConditionOp → Except Failure Bool
  | .eq => looseEqual python expected actual
  | .ne => do .ok !(← looseEqual python expected actual)
  | .contains =>
    match actual with
    | .scalar .null => .ok false
    | .list items => anyEqual python expected items
    | actual => .ok (python.casefold (str python (.scalar expected)) <:+: python.casefold (str python actual))
  | .gt => ordered python true actual expected
  | .lt => ordered python false actual expected

inductive Op
  /-- `or`, else `and`. -/
  | group (any : Bool)
  | condition (op : ConditionOp)
  | unknown (shown : String)

/-- A node of a condition tree, as its keys are read: `conditions` if it is a list, `field` if it is a text. -/
inductive Node
  | empty
  | notDict
  | dict (op : Op) (conditions : Option (List Node)) (field : Option Text) (value : Option Json)

def maxConditionDepth : ℕ := 5
def maxConditions : ℕ := 50

/-- `RELATED_FIELDS` -/
def relatedFields : List (String × List String) :=
  [("property", ["number", "name", "management_type", "management_mode", "status", "city", "postal_code",
     "manager_user_id"]),
   ("unit", ["number", "unit_type", "floor", "label", "city", "is_fictional"]),
   ("contact", ["kind", "roles", "tags", "blocked", "language", "preferred_channel", "display_name"]),
   ("contract", ["kind", "status", "number", "start_date", "end_date", "termination_date", "sev_enabled"])]

/-- `raise RuleDefinitionError(text)` unless `accepted`. -/
def check (accepted : Prop) [Decidable accepted] (text : String) : Except Failure Unit :=
  if accepted then .ok () else .error (.ruleDefinition text)

/-- `re.fullmatch(r"[a-zA-Z0-9_.]{1,200}", field)` -/
def validField (field : Text) : Bool :=
  field ≠ [] && field.length ≤ 200 && field.all fun ch => ch.isAlphanum || ch = '_' || ch = '.'

def validateLeaf (field : Text) (value : Option Json) : Except Failure ℕ := do
  check (validField field) "Bedingung braucht ein gültiges Feld."
  let name := String.ofList field
  let (group, rest) := cut '.' field
  let group := String.ofList group
  let allowed := relatedFields.lookup group
  check (∀ fields ∈ allowed, String.ofList rest ∈ fields) ("Feld '" ++ name ++ "' ist nicht verfügbar. Erlaubt für " ++
    group ++ ": " ++ ", ".intercalate (allowed.getD []) ++ ".")
  check value.isSome ("Bedingung für '" ++ name ++ "' braucht einen Wert.")
  match value with
  | some (.scalar _) => .ok 1
  | _ => .error (.ruleDefinition "Vergleichswert muss ein einfacher Wert sein.")

mutual

/-- `validate_conditions` -/
def validate (depth : ℕ) : Node → Except Failure ℕ
  | .empty => .ok 0
  | .notDict => .error (.ruleDefinition "Bedingung muss ein Objekt sein.")
  | .dict op conditions field value => do
    check (depth ≤ maxConditionDepth) "Bedingungen zu tief verschachtelt."
    match op, conditions, field with
    | .group _, some conditions, _ => do
      let count ← validateAll (depth + 1) conditions
      check (count ≤ maxConditions) "Zu viele Bedingungen."
      .ok count
    | .group _, none, _ => .error (.ruleDefinition "Gruppe braucht eine Liste 'conditions'.")
    | .condition _, _, some field => validateLeaf field value
    | .condition _, _, none => .error (.ruleDefinition "Bedingung braucht ein gültiges Feld.")
    | .unknown shown, _, _ => .error (.ruleDefinition ("Unbekannter Operator: " ++ shown))

def validateAll (depth : ℕ) : List Node → Except Failure ℕ
  | [] => .ok 0
  | child :: rest => do .ok ((← validate depth child) + (← validateAll depth rest))

end

def resolvePath (context : Json) (path : Text) : Json :=
  (path.splitOn '.').foldl (fun current part =>
    match current with
    | .dict fields => (fields.lookup part).getD (.scalar .null)
    | _ => .scalar .null) context

mutual

/-- `evaluate`, of a tree that `validate` accepts: the value of a leaf is a scalar. -/
def evaluate (context : Json) : Node → Except Failure Bool
  | .empty => .ok true
  | .dict (.group false) (some conditions) _ _ => evaluateAll context conditions
  | .dict (.group true) (some []) _ _ => .ok true
  | .dict (.group true) (some conditions) _ _ => evaluateAny context conditions
  | .dict (.condition op) _ (some field) (some (.scalar value)) => compare python (resolvePath context field) value op
  | .dict (.unknown shown) _ _ _ => .error (.ruleDefinition ("Unbekannter Operator: " ++ shown))
  | _ => .error .malformed

def evaluateAll (context : Json) : List Node → Except Failure Bool
  | [] => .ok true
  | child :: rest => do if ← evaluate context child then evaluateAll context rest else .ok false

def evaluateAny (context : Json) : List Node → Except Failure Bool
  | [] => .ok false
  | child :: rest => do if ← evaluate context child then .ok true else evaluateAny context rest

end

variable {python} {left right : Number} {actual context : Json} {expected : Scalar} {items : List Json} {gt : Bool}

def Answers (result : Except Failure Bool) : Prop := ∃ answer, result = .ok answer

@[simp] theorem answers_ok (answer : Bool) : Answers (.ok answer) := ⟨answer, rfl⟩

@[simp] theorem not_answers_error (failure : Failure) : ¬ Answers (.error failure) := nofun

theorem equal_answers : Answers (left.equal right) ↔ left ≠ .nan true ∧ right ≠ .nan true := by
  rcases left with (_ | _) | value <;> rcases right with (_ | _) | other <;> simp [Number.equal]

theorem less_answers : Answers (left.less right) ↔ ∀ signaling, left ≠ .nan signaling ∧ right ≠ .nan signaling := by
  rcases left with (_ | _) | value <;> rcases right with (_ | _) | other <;> simp [Number.less]

theorem numbers_bare (bare : actual.bare = true ∨ (Json.scalar expected).bare = true) :
    numbers python actual expected = none := by
  rcases actual with (_ | _ | _ | _ | _) | _ | _ <;> cases expected <;>
    simp_all [Json.bare, numbers, asNumber]

/-- Comparing for equality raises. -/
def Signals (python : Interpreter) (expected : Scalar) (actual : Json) : Prop :=
  actual.same expected = false ∧ ∃ left right, numbers python actual expected = some (left, right) ∧
    ¬ (left ≠ .nan true ∧ right ≠ .nan true)

theorem looseEqual_answers : Answers (looseEqual python expected actual) ↔ ¬ Signals python expected actual := by
  unfold looseEqual Signals
  split
  · rename_i isSame
    simp [isSame]
  · rename_i differ
    split
    · rename_i bare
      simp [numbers_bare bare]
    · rcases numbers python actual expected with _ | ⟨left, right⟩
      · simp
      · simp [differ, equal_answers]

/-- No item raises before an equal one is found. -/
def Readable (python : Interpreter) (expected : Scalar) : List Json → Prop
  | [] => True
  | item :: items => ¬ Signals python expected item ∧
      (looseEqual python expected item = .ok true ∨ Readable python expected items)

theorem anyEqual_answers : Answers (anyEqual python expected items) ↔ Readable python expected items := by
  induction items with
  | nil => simp [anyEqual, Readable]
  | cons item items hypothesis =>
    rw [Readable, ← looseEqual_answers, ← hypothesis, anyEqual]
    cases looseEqual python expected item with
    | error => simp [bind, Except.bind]
    | ok answer => cases answer <;> simp [bind, Except.bind]

def NoNan (python : Interpreter) (actual : Json) (expected : Scalar) : Prop :=
  ∀ left right, numbers python actual expected = some (left, right) →
    ∀ signaling, left ≠ .nan signaling ∧ right ≠ .nan signaling

theorem ordered_answers : Answers (ordered python gt actual expected) ↔ NoNan python actual expected := by
  unfold ordered NoNan
  split
  · rename_i left right isPair
    cases gt <;> simp [isPair, less_answers, and_comm]
  · rename_i isNone
    simp [isNone]
  · rename_i _ isNone
    simp [isNone]

theorem numbers_eq_some : numbers python actual expected = some (left, right) ↔
    asNumber python actual = some left ∧ asNumber python (.scalar expected) = some right := by
  unfold numbers
  cases asNumber python actual <;> cases asNumber python (.scalar expected) <;> simp

theorem differ_of_ordered (answer : ordered python gt actual expected = .ok true) :
    (actual.same expected = true → asNumber python actual ≠ asNumber python (.scalar expected)) ∧
      (actual.same expected = false → looseEqual python expected actual = .ok false) := by
  unfold ordered at answer
  split at answer
  · rename_i left right isPair
    obtain ⟨isLeft, isRight⟩ := numbers_eq_some.mp isPair
    rcases left with _ | low
    · cases gt <;> cases right <;> cases answer
    · rcases right with _ | high
      · cases gt <;> cases answer
      · have differ : low ≠ high := by
          rintro rfl
          cases gt <;> simp [Number.less] at answer
        refine ⟨fun _ => by simp [isLeft, isRight, differ], fun isSame => ?_⟩
        simp [looseEqual, isSame, isPair, Number.equal, differ]
  · rename_i left right isNone
    have differ : left ≠ right := by
      rintro rfl
      simp [List.lt_irrefl] at answer
    refine ⟨fun isSame => ?_, fun isSame => ?_⟩
    · simp [Json.same, Scalar.key, differ] at isSame
    · simp [looseEqual, isSame, isNone, str, differ]
  · cases answer

theorem gt_excludes_lt (isGt : ordered python true actual expected = .ok true) :
    ordered python false actual expected ≠ .ok true := by
  unfold ordered at isGt ⊢
  split at isGt
  · rename_i left right isPair
    rcases left with _ | low <;> rcases right with _ | high <;> simp_all [Number.less, le_of_lt]
  · rename_i isNone
    simp_all [List.lt_asymm]
  · cases isGt

def Json.IsFlag : Json → Prop
  | .scalar (.bool _) => True
  | _ => False

def Json.IsNumberOrText : Json → Prop
  | .scalar (.int _) | .scalar (.float _) | .scalar (.text _) => True
  | _ => False

/-- What is expected of the comparisons of two operands. -/
structure Sound (python : Interpreter) (actual : Json) (expected : Scalar) : Prop where
  answers : ∀ op, Answers (compare python actual expected op)
  complement : ∀ answer, compare python actual expected .eq = .ok answer →
    compare python actual expected .ne = .ok !answer
  exclusive : [ConditionOp.eq, .gt, .lt].Pairwise fun op other =>
    ¬ (compare python actual expected op = .ok true ∧ compare python actual expected other = .ok true)
  flags : actual.IsFlag ∧ (Json.scalar expected).IsNumberOrText ∨
    actual.IsNumberOrText ∧ (Json.scalar expected).IsFlag → compare python actual expected .eq ≠ .ok true

/-- No NaN among two numbers, no two values that are equal by `==` and not one number, and no item of a list that
raises. -/
structure Plain (python : Interpreter) (actual : Json) (expected : Scalar) : Prop where
  noNan : NoNan python actual expected
  number : actual.same expected = true → asNumber python actual = asNumber python (.scalar expected)
  items : ∀ items, actual = .list items → Readable python expected items

theorem Sound.plain (sound : Sound python actual expected) : Plain python actual expected := by
  have noNan : NoNan python actual expected := ordered_answers.mp (sound.answers .lt)
  refine ⟨noNan, fun isSame => ?_, ?_⟩
  · have equals : compare python actual expected .eq = .ok true := if_pos isSame
    have flags := fun mixed => sound.flags mixed equals
    rcases isPair : numbers python actual expected with _ | ⟨_ | low, _ | high⟩
    · rcases actual with value | items | fields
      · cases value <;> cases expected <;>
          simp_all [Json.same, Scalar.key, Json.IsFlag, Json.IsNumberOrText, numbers, asNumber]
      · cases isSame
      · cases isSame
    · exact absurd rfl (noNan _ _ isPair _).1
    · exact absurd rfl (noNan _ _ isPair _).1
    · exact absurd rfl (noNan _ _ isPair _).2
    · obtain ⟨isLow, isHigh⟩ := numbers_eq_some.mp isPair
      have exclusive := sound.exclusive
      have isEqual : looseEqual python expected actual = .ok true := equals
      simp [compare, isEqual, ordered, isPair, Number.less] at exclusive
      rw [isLow, isHigh, le_antisymm exclusive.1.1 exclusive.1.2]
  · rintro items rfl
    exact anyEqual_answers.mp (sound.answers .contains)

theorem Plain.excludes (plain : Plain python actual expected) (answer : ordered python gt actual expected = .ok true) :
    looseEqual python expected actual ≠ .ok true := by
  obtain ⟨ifSame, ifDiffer⟩ := differ_of_ordered answer
  cases isSame : actual.same expected with
  | true => exact absurd (plain.number isSame) (ifSame isSame)
  | false => simp [ifDiffer isSame]

theorem Plain.sound (plain : Plain python actual expected) : Sound python actual expected := by
  have equal : Answers (looseEqual python expected actual) := by
    rw [looseEqual_answers]
    rintro ⟨-, left, right, isPair, signals⟩
    exact signals (plain.noNan left right isPair true)
  refine ⟨fun op => ?_, fun answer isAnswer => ?_, ?_, fun mixed equals => ?_⟩
  · cases op with
    | eq => exact equal
    | ne =>
      obtain ⟨answer, isAnswer⟩ := equal
      exact ⟨!answer, by simp [compare, isAnswer, bind, Except.bind]⟩
    | contains =>
      rcases actual with value | items | fields
      · cases value <;> exact answers_ok _
      · exact anyEqual_answers.mpr (plain.items items rfl)
      · exact answers_ok _
    | gt => exact ordered_answers.mpr plain.noNan
    | lt => exact ordered_answers.mpr plain.noNan
  · have isEqual : looseEqual python expected actual = .ok answer := isAnswer
    simp [compare, isEqual, bind, Except.bind]
  · simp only [List.pairwise_cons, List.mem_cons, forall_eq_or_imp, List.not_mem_nil, false_imp_iff, implies_true,
      List.Pairwise.nil, and_true]
    exact ⟨⟨fun both => plain.excludes both.2 both.1, fun both => plain.excludes both.2 both.1⟩,
      fun both => gt_excludes_lt both.1 both.2⟩
  · have isSame : actual.same expected = true := by
      by_contra differ
      rcases actual with (_ | _ | _ | _ | _) | _ | _ <;> cases expected <;>
        simp_all [compare, looseEqual, Json.bare, Json.IsFlag, Json.IsNumberOrText]
    have isNumber := plain.number isSame
    rcases actual with (_ | _ | _ | _ | _) | _ | _ <;> cases expected <;>
      simp_all [Json.same, Scalar.key, Json.IsFlag, Json.IsNumberOrText, asNumber]

/-- A leaf of the tree compares these operands. -/
inductive Compares (context actual : Json) (expected : Scalar) : Node → Prop
  | leaf (op : ConditionOp) (conditions : Option (List Node)) (field : Text)
    (read : resolvePath context field = actual) :
    Compares context actual expected (.dict (.condition op) conditions (some field) (some (.scalar expected)))
  | child (any : Bool) (conditions : List Node) (field : Option Text) (value : Option Json) (node : Node)
    (member : node ∈ conditions) (inside : Compares context actual expected node) :
    Compares context actual expected (.dict (.group any) (some conditions) field value)

variable {depth count : ℕ} {conditions : List Node} {field : Text} {value : Option Json} {node : Node}

theorem bind_check {accepted : Prop} [Decidable accepted] {text : String} {next : Unit → Except Failure ℕ} :
    (check accepted text >>= next) = .ok count ↔ accepted ∧ next () = .ok count := by
  unfold check
  split <;> simp_all [bind, Except.bind]

theorem validateLeaf_ok (accepted : validateLeaf field value = .ok count) :
    ∃ scalar, value = some (.scalar scalar) := by
  unfold validateLeaf at accepted
  obtain ⟨-, -, -, accepted⟩ := by simpa only [bind_check] using accepted
  split at accepted
  · exact ⟨_, rfl⟩
  · cases accepted

theorem validateAll_ok (accepted : validateAll depth conditions = .ok count) :
    ∀ child ∈ conditions, ∃ part, validate depth child = .ok part := by
  induction conditions generalizing count with
  | nil => simp
  | cons child rest hypothesis =>
    rw [validateAll] at accepted
    cases isChild : validate depth child with
    | error => simp [isChild, bind, Except.bind] at accepted
    | ok part =>
      cases isRest : validateAll depth rest with
      | error => simp [isChild, isRest, bind, Except.bind] at accepted
      | ok others => exact List.forall_mem_cons.mpr ⟨⟨part, isChild⟩, hypothesis isRest⟩

theorem evaluateAll_answers (each : ∀ child ∈ conditions, Answers (evaluate python context child)) :
    Answers (evaluateAll python context conditions) ∧ Answers (evaluateAny python context conditions) := by
  induction conditions with
  | nil => simp [evaluateAll, evaluateAny]
  | cons child rest hypothesis =>
    obtain ⟨⟨answer, isAnswer⟩, others⟩ := List.forall_mem_cons.mp each
    obtain ⟨all, any⟩ := hypothesis others
    rw [evaluateAll, evaluateAny, isAnswer]
    cases answer <;> simp [bind, Except.bind, all, any]

theorem evaluate_answers (node : Node) (depth count : ℕ) (accepted : validate depth node = .ok count)
    (sound : ∀ actual expected, Compares context actual expected node → Sound python actual expected) :
    Answers (evaluate python context node) := by
  match node with
  | .empty => exact answers_ok true
  | .notDict => cases accepted
  | .dict (.unknown _) _ _ _ | .dict (.condition _) _ none _ | .dict (.group _) none _ _ =>
    cases (bind_check.mp accepted).2
  | .dict (.condition op) conditions (some field) value =>
    obtain ⟨expected, rfl⟩ := validateLeaf_ok (bind_check.mp accepted).2
    exact (sound _ expected (.leaf op conditions field rfl)).answers op
  | .dict (.group any) (some conditions) field value =>
    have each : ∀ child ∈ conditions, Answers (evaluate python context child) := by
      intro child member
      have accepted := (bind_check.mp accepted).2
      cases isCount : validateAll (depth + 1) conditions with
      | error => simp [isCount, bind, Except.bind] at accepted
      | ok others =>
        obtain ⟨part, isPart⟩ := validateAll_ok isCount child member
        have smaller := List.sizeOf_lt_of_mem member
        exact evaluate_answers child (depth + 1) part isPart fun actual expected inside =>
          sound actual expected (.child any conditions field value child member inside)
    obtain ⟨all, other⟩ := evaluateAll_answers each
    cases any with
    | false => exact all
    | true => cases conditions with
      | nil => exact answers_ok true
      | cons first rest => exact other
termination_by sizeOf node
decreasing_by
  simp only [Node.dict.sizeOf_spec, Option.some.sizeOf_spec]
  omega

/-- What is expected of a tree in a context: it has a truth value, and so do the comparisons of its operands. -/
def Evaluates (python : Interpreter) (context : Json) (node : Node) : Prop :=
  Answers (evaluate python context node) ∧
    ∀ actual expected, Compares context actual expected node → Sound python actual expected

/-- An accepted tree evaluates exactly where its leaves compare plain operands. -/
theorem evaluates_iff (python : Interpreter) (context : Json) (node : Node) (count : ℕ)
    (accepted : validate 0 node = .ok count) : Evaluates python context node ↔
      ∀ actual expected, Compares context actual expected node → Plain python actual expected := by
  constructor
  · rintro ⟨-, sound⟩ actual expected inside
    exact (sound actual expected inside).plain
  · intro plain
    have sound : ∀ actual expected, Compares context actual expected node → Sound python actual expected :=
      fun actual expected inside => (plain actual expected inside).sound
    exact ⟨evaluate_answers node 0 count accepted sound, sound⟩

end Evaluation

/-- An interpreter that is asked for ASCII texts. -/
def asciiInterpreter : Interpreter := ⟨fun _ => none, id, id, fun _ => []⟩

def sampleTree : Node :=
  let leaf := .dict (.condition .eq) none (some "entity.title".toList) (some (.scalar (.int 5)))
  .dict (.group false) (some [.empty, leaf]) none none

def sampleContext (title : String) : Json :=
  .dict [("entity".toList, .dict [("title".toList, .scalar (.text title.toList))])]

theorem sample_tree_evaluates : Evaluates asciiInterpreter (sampleContext "Heizung") sampleTree := by
  refine (evaluates_iff asciiInterpreter _ _ 1 rfl).mpr fun actual expected inside => ?_
  rcases inside with _ | ⟨_, _, _, _, node, member, inside⟩
  rcases List.mem_pair.mp member with rfl | rfl
  · cases inside
  · rcases inside with ⟨_, _, _, rfl⟩
    exact ⟨nofun, nofun, nofun⟩

/-- A title sNaN is compared with the number 5. -/
theorem signaling_title_raises : ¬ ∀ (python : Interpreter) (context : Json) (node : Node) (count : ℕ),
    validate 0 node = .ok count → Evaluates python context node := by
  intro claimed
  obtain ⟨⟨answer, isAnswer⟩, -⟩ := claimed asciiInterpreter (sampleContext "sNaN") sampleTree 1 rfl
  have raised : evaluate asciiInterpreter (sampleContext "sNaN") sampleTree = .error .invalidOperation := rfl
  rw [raised] at isAnswer
  cases isAnswer

end Mhvp.Automation.Rules
