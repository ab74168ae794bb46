import Mathlib.Data.List.Sort
import Mhvp.Core.Problem
import Mhvp.Sqldump.Parser

namespace Mhvp.Core.Lists

open Lib Lib.Calendar List
open Sqldump (Text isSpace)

def maxFilterValues : ℕ := 100

def genericListKeys : List Text := ["sort".toList, "fields".toList, "include".toList, "as_of".toList]

inductive Refusal
  | invalid (param message : Text)
  | notAuthenticated
  deriving DecidableEq

/-- `raise _invalid(param, message)` unless `accepted`. -/
def check (accepted : Prop) [Decidable accepted] (param message : Text) : Except Refusal Unit :=
  if accepted then .ok () else .error (.invalid param message)

structure FieldName where
  text : Text
  deriving DecidableEq

structure SortKey where
  field : FieldName
  descending : Bool
  deriving DecidableEq

structure ListParams where
  filters : List (FieldName × List Text)
  sort : List SortKey
  fields : List Text
  includes : List Text
  deriving DecidableEq

/-- `_split` -/
def split (raw : Text) : List Text := ((raw.splitOn ',').map (Sqldump.strip isSpace)).filter (· ≠ [])

/-- `request.query_params.get(key, "")`: of repeated keys the last one. -/
def lastOf (items : List (Text × Text)) (key : Text) : Text :=
  (((items.filter fun item => item.1 = key).getLast?).map Prod.snd).getD []

def filterPrefix : Text := "filter[".toList

/-- The field a key names, between the brackets. -/
def filterField (key : Text) : Option FieldName :=
  if filterPrefix.isPrefixOf key ∧ key.getLast? = some ']' then some ⟨Sqldump.strip isSpace (key.drop 7).dropLast⟩
  else none

/-- `_split(value) or [""]` -/
def filterValues (value : Text) : List Text := if split value = [] then [[]] else split value

def addFilter (filters : List (FieldName × List Text)) (item : Text × Text) :
    Except Refusal (List (FieldName × List Text)) :=
  match filterField item.1 with
  | none => pure filters
  | some field => do
      check (field.text ≠ []) item.1 "Filterfeld fehlt.".toList
      let filters := Dictionary.alter field (fun values => values.getD [] ++ filterValues item.2) filters
      check (((filters.lookup field).getD []).length ≤ maxFilterValues) item.1 "Höchstens 100 Filterwerte.".toList
      pure filters

def sortKey (part : Text) : SortKey :=
  ⟨⟨part.dropWhile fun ch => ch = '+' ∨ ch = '-'⟩, part.head? = some '-'⟩

def listParams (items : List (Text × Text)) : Except Refusal ListParams := do
  let filters ← items.foldlM addFilter []
  pure { filters, sort := (split (lastOf items "sort".toList)).map sortKey
         fields := split (lastOf items "fields".toList), includes := split (lastOf items "include".toList) }

inductive Value
  | raw (text : Text)
  | bool (value : Bool)
  | parsed (text : Text)
  deriving DecidableEq

/-- Python type of a column; UUID, int, date and enumerations are read by their constructor. -/
inductive ColumnType
  | unknown
  | bool
  | parsed (parse : Text → Option Text)
  | text

structure Column where
  name : Text
  type : ColumnType

def sortedNames (names : List FieldName) : Text :=
  [',', ' '].intercalate ((names.map FieldName.text).insertionSort fun one other => ¬ other < one)

def offer (names : List FieldName) : Text := if names = [] then "keine".toList else sortedNames names

/-- `_convert` -/
def convert (param : Text) (column : Column) (raw : Text) : Except Refusal (Option Value) :=
  let lower := raw.map Char.toLower
  let unfit : Except Refusal (Option Value) :=
    .error (.invalid param ("Filterwert '".toList ++ raw ++ "' passt nicht zum Feld.".toList))
  match column.type with
  | .unknown => pure (some (.raw raw))
  | type =>
    if raw = [] ∨ lower = "null".toList then pure none
    else match type with
      | .bool =>
        if lower = "true".toList ∨ lower = ['1'] then pure (some (.bool true))
        else if lower = "false".toList ∨ lower = ['0'] then pure (some (.bool false))
        else unfit
      | .parsed parse =>
        match parse raw with
        | some text => pure (some (.parsed text))
        | none => unfit
      | _ => pure (some (.raw raw))

inductive Clause
  | isNull (column : Text)
  | isNullOrIn (column : Text) (values : List Value)
  | equals (column : Text) (value : Value)
  | isIn (column : Text) (values : List Value)
  | validFrom (day : Date)
  | validTo (day : Date)
  deriving DecidableEq

def filterClause (column : Text) (values : List (Option Value)) : Clause :=
  let others := values.filterMap id
  if none ∈ values then if others = [] then .isNull column else .isNullOrIn column others
  else match others with
    | [value] => .equals column value
    | others => .isIn column others

structure Order where
  column : Text
  descending : Bool
  deriving DecidableEq

structure Query where
  clauses : List Clause
  order : List Order
  deriving DecidableEq

structure ListSpec where
  filters : List (FieldName × Column) := []
  sort : List (FieldName × Column) := []
  includes : List Text := []
  validFrom : Option Text := none
  validTo : Option Text := none

def columnOf (allowed : List (FieldName × Column)) (field : FieldName) (param message : Text) : Except Refusal Column :=
  match allowed.lookup field with
  | some column => .ok column
  | none => .error (.invalid param (message ++ " '".toList ++ field.text ++ "' nicht erlaubt. Erlaubt: ".toList ++
      sortedNames (allowed.map Prod.fst) ++ ['.']))

def clauseOf (allowed : List (FieldName × Column)) (filter : FieldName × List Text) : Except Refusal Clause := do
  let param := filterPrefix ++ filter.1.text ++ [']']
  let column ← columnOf allowed filter.1 param "Filter".toList
  let values ← filter.2.mapM (convert param column)
  pure (filterClause column.name values)

def orderOf (allowed : List (FieldName × Column)) (key : SortKey) : Except Refusal Order := do
  let column ← columnOf allowed key.field "sort".toList "Sortierung nach".toList
  pure ⟨column.name, key.descending⟩

section Spec

variable (fromIsoformat : Text → Option Date) (spec : ListSpec)

local instance : LawfulBEq Text := inferInstance

/-- `ListSpec._parse`; `declared` are the parameters of the route. -/
def ListSpec.parse (declared : List Text) (items : List (Text × Text)) : Except Refusal ListParams := do
  let params ← listParams items
  items.forM fun item =>
    check (filterPrefix.isPrefixOf item.1 ∨ item.1 ∈ genericListKeys ∨ item.1 ∈ declared) item.1
      ("Parameter '".toList ++ item.1 ++ "' wird von dieser Liste nicht angeboten.".toList)
  params.filters.forM fun filter =>
    check (filter.1 ∈ spec.filters.map Prod.fst) (filterPrefix ++ filter.1.text ++ [']']) ("Filter '".toList ++
      filter.1.text ++ "' nicht erlaubt. Erlaubt: ".toList ++ offer (spec.filters.map Prod.fst) ++ ['.'])
  params.sort.forM fun key =>
    check (key.field ∈ spec.sort.map Prod.fst) "sort".toList ("Sortierung nach '".toList ++ key.field.text ++
      "' nicht erlaubt. Erlaubt: ".toList ++ offer (spec.sort.map Prod.fst) ++ ['.'])
  params.includes.forM fun name =>
    check (name ∈ spec.includes) "include".toList ("include '".toList ++ name ++
      "' nicht angeboten. Angeboten: ".toList ++ offer (spec.includes.map FieldName.mk) ++ ['.'])
  if items.any (fun item => item.1 = "as_of".toList) then
    check spec.validFrom.isSome "as_of".toList "Stichtag (as_of) wird von dieser Liste nicht angeboten.".toList
    check (fromIsoformat (lastOf items "as_of".toList)).isSome "as_of".toList
      "Stichtag muss ein Datum JJJJ-MM-TT sein.".toList
  pure params

/-- `ListSpec.dependency`; without credentials a route that authenticates tells nothing about its columns. -/
def ListSpec.dependency (declared : List Text) (authenticates hasCredentials : Bool) (items : List (Text × Text)) :
    Except Refusal ListParams :=
  match spec.parse fromIsoformat declared items with
  | .ok params => .ok params
  | .error refusal => if authenticates ∧ hasCredentials = false then .error .notAuthenticated else .error refusal

def asOfClauses (items : List (Text × Text)) : List Clause :=
  match spec.validFrom, fromIsoformat (lastOf items "as_of".toList) with
  | some _, some day => .validFrom day :: if spec.validTo.isSome then [.validTo day] else []
  | _, _ => []

/-- `ListSpec.apply` with the request. -/
def ListSpec.apply (query : Query) (params : ListParams) (default : List Order) (items : List (Text × Text)) :
    Except Refusal Query := do
  let clauses ← params.filters.mapM (clauseOf spec.filters)
  let order ← params.sort.mapM (orderOf spec.sort)
  pure { clauses := query.clauses ++ clauses ++ asOfClauses fromIsoformat spec items, order := order ++ default }

end Spec

def Clause.column : Clause → Option Text
  | .isNull column | .isNullOrIn column _ | .equals column _ | .isIn column _ => some column
  | _ => none

/-- The values a clause lets pass. -/
def Clause.values : Clause → List (Option Value)
  | .isNull _ => [none]
  | .isNullOrIn _ values => none :: values.map some
  | .equals _ value => [some value]
  | .isIn _ values => values.map some
  | _ => []

/-- The parameters and the query built from them show an occurrence. -/
structure Reflected (fromIsoformat : Text → Option Date) (spec : ListSpec) (items : List (Text × Text))
    (params : ListParams) (query : Query) (item : Text × Text) : Prop where
  filter : filterPrefix.isPrefixOf item.1 → ∃ field values column clause, filterField item.1 = some field ∧
    (field, values) ∈ params.filters ∧ filterValues item.2 ⊆ values ∧ spec.filters.lookup field = some column ∧
    clause ∈ query.clauses ∧ clause.column = some column.name ∧
    ∀ raw ∈ filterValues item.2, ∃ param, ∃ value ∈ clause.values, convert param column raw = .ok value
  sort : item.1 = "sort".toList → ∀ part ∈ split item.2, sortKey part ∈ params.sort ∧
    ∃ column, spec.sort.lookup (sortKey part).field = some column ∧
      ⟨column.name, (sortKey part).descending⟩ ∈ query.order
  fields : item.1 = "fields".toList → split item.2 ⊆ params.fields
  includes : item.1 = "include".toList → split item.2 ⊆ params.includes
  asOf : item.1 = "as_of".toList → ∃ day, fromIsoformat item.2 = some day ∧
    fromIsoformat (lastOf items item.1) = some day ∧ .validFrom day ∈ query.clauses

/-- A filter key closes its bracket, and the last occurrence of a repeated key has all that an earlier one has. -/
structure Complete (fromIsoformat : Text → Option Date) (items : List (Text × Text)) (item : Text × Text) : Prop where
  closed : filterPrefix.isPrefixOf item.1 → item.1.getLast? = some ']'
  sort : item.1 = "sort".toList → (split item.2).map sortKey ⊆ (split (lastOf items item.1)).map sortKey
  lists : item.1 = "fields".toList ∨ item.1 = "include".toList → split item.2 ⊆ split (lastOf items item.1)
  asOf : item.1 = "as_of".toList → fromIsoformat item.2 = fromIsoformat (lastOf items item.1)

section Rules

variable {fromIsoformat : Text → Option Date} {spec : ListSpec} {items : List (Text × Text)} {params : ListParams}
  {query built : Query} {item : Text × Text}

@[simp] theorem check_ok [Decidable accepted] : check accepted param message = .ok () ↔ accepted := by
  unfold check
  split <;> simp_all

theorem columnOf_ok {column : Column} : columnOf allowed field param message = .ok column ↔
    allowed.lookup field = some column := by
  unfold columnOf
  cases allowed.lookup field <;> simp

theorem mem_filterClause {values : List (Option Value)} (member : value ∈ values) :
    value ∈ (filterClause column values).values := by
  have known (value : Value) (member : some value ∈ values) : value ∈ values.filterMap id :=
    mem_filterMap.mpr ⟨some value, member, rfl⟩
  unfold filterClause
  dsimp only
  cases value with
  | none =>
    rw [if_pos member]
    split <;> simp [Clause.values]
  | some value =>
    have present := known value member
    split
    · split
      · rename_i nothing
        rw [nothing] at present
        cases present
      · exact mem_cons_of_mem _ (mem_map_of_mem present)
    · split
      · rename_i single
        rw [single] at present
        rw [mem_singleton.mp present]
        exact mem_singleton_self _
      · exact mem_map_of_mem present

theorem filterClause_column (column : Text) (values : List (Option Value)) :
    (filterClause column values).column = some column := by
  unfold filterClause
  dsimp only
  split
  · split <;> rfl
  · split <;> rfl

/-- What is held of a field stays, and every filter is held. -/
theorem addFilters_ok (added : items.foldlM addFilter held = .ok filters) :
    (∀ field values, held.lookup field = some values → ∃ more, filters.lookup field = some (values ++ more)) ∧
      ∀ item ∈ items, ∀ field, filterField item.1 = some field →
        ∃ values, filters.lookup field = some values ∧ filterValues item.2 ⊆ values := by
  induction items generalizing held with
  | nil =>
    obtain rfl : held = filters := by simpa using added
    exact ⟨fun field values present => ⟨[], by simpa using present⟩, fun _ member => absurd member not_mem_nil⟩
  | cons item rest ih =>
    rw [foldlM_cons, bind_ok] at added
    obtain ⟨between, first, added⟩ := added
    obtain ⟨kept, later⟩ := ih added
    cases names : filterField item.1 with
    | none =>
      simp only [addFilter, names, pure_ok] at first
      subst first
      refine ⟨kept, fun other member field isField => ?_⟩
      rcases mem_cons.mp member with rfl | inRest
      · cases names.symm.trans isField
      · exact later other inRest field isField
    | some name =>
      simp only [addFilter, names, bind_ok, exists_unit, check_ok, pure_ok] at first
      obtain ⟨-, -, rfl⟩ := first
      have now := Dictionary.lookup_alter name name (fun values => values.getD [] ++ filterValues item.2) held
      rw [if_pos rfl] at now
      constructor
      · intro field values present
        by_cases same : field = name
        · subst same
          rw [present] at now
          obtain ⟨more, isMore⟩ := kept _ _ now
          exact ⟨filterValues item.2 ++ more, by rw [isMore, Option.getD_some, append_assoc]⟩
        · apply kept
          rw [Dictionary.lookup_alter, if_neg same]
          exact present
      · intro other member field isField
        rcases mem_cons.mp member with rfl | inRest
        · obtain rfl := Option.mem_unique names isField
          obtain ⟨more, isMore⟩ := kept _ _ now
          refine ⟨_, isMore, fun raw isRaw => ?_⟩
          exact mem_append_left _ (mem_append_right _ isRaw)
        · exact later other inRest field isField

theorem mem_of_lookup {Content : Type} {field : FieldName} {content : Content} {entries : List (FieldName × Content)}
    (found : entries.lookup field = some content) : (field, content) ∈ entries := by
  induction entries with
  | nil => cases found
  | cons entry rest ih =>
    rw [lookup_cons] at found
    split at found
    · rename_i same
      cases found
      rw [eq_of_beq same]
      exact mem_cons_self
    · exact mem_cons_of_mem _ (ih found)

theorem parse_ok (accepted : spec.parse fromIsoformat declared items = .ok params) :
    listParams items = .ok params ∧ (items.any (fun item => item.1 = "as_of".toList) → spec.validFrom.isSome ∧
      (fromIsoformat (lastOf items "as_of".toList)).isSome) := by
  simp only [ListSpec.parse, bind_ok, exists_unit] at accepted
  obtain ⟨parsed, isParsed, -, -, -, -, asOf⟩ := accepted
  split at asOf
  · simp only [bind_ok, exists_unit, check_ok, pure_ok] at asOf
    obtain ⟨offered, isDay, rfl⟩ := asOf
    exact ⟨isParsed, fun _ => ⟨offered, isDay⟩⟩
  · rename_i absent
    rw [← pure_ok.mp asOf]
    exact ⟨isParsed, fun present => absurd present absent⟩

theorem forall₂_mem {Item Content : Type} {R : Item → Content → Prop} {items : List Item} {contents : List Content}
    (each : List.Forall₂ R items contents) {item : Item} (member : item ∈ items) :
    ∃ content ∈ contents, R item content := by
  induction each with
  | nil => cases member
  | cons first _ ih =>
    rcases mem_cons.mp member with rfl | inRest
    · exact ⟨_, mem_cons_self, first⟩
    · obtain ⟨content, isContent, holds⟩ := ih inRest
      exact ⟨content, mem_cons_of_mem _ isContent, holds⟩

end Rules

/-- An accepted query shows every occurrence exactly if each filter key closes its bracket and of each repeated key the
last occurrence has all that the earlier ones have. -/
theorem reflected_iff (fromIsoformat : Text → Option Date) (spec : ListSpec) (declared : List Text)
    (authenticates hasCredentials : Bool) (items : List (Text × Text)) (params : ListParams) (query built : Query)
    (default : List Order)
    (accepted : spec.dependency fromIsoformat declared authenticates hasCredentials items = .ok params)
    (applied : spec.apply fromIsoformat query params default items = .ok built) :
    (∀ item ∈ items, Reflected fromIsoformat spec items params built item) ↔
      ∀ item ∈ items, Complete fromIsoformat items item := by
  have parsed : spec.parse fromIsoformat declared items = .ok params := by
    unfold ListSpec.dependency at accepted
    split at accepted
    · rename_i isParsed
      rw [isParsed, Except.ok.inj accepted]
    · split at accepted <;> cases accepted
  obtain ⟨isParams, asOfOk⟩ := parse_ok parsed
  simp only [listParams, bind_ok, pure_ok] at isParams
  obtain ⟨filters, isFilters, rfl⟩ := isParams
  simp only [ListSpec.apply, bind_ok, mapM_ok, pure_ok] at applied
  obtain ⟨clauses, isClauses, order, isOrder, rfl⟩ := applied
  apply forall₂_congr
  intro item member
  constructor
  · intro reflected
    refine ⟨fun isFilter => ?_, fun isSort => ?_, fun isList => ?_, fun isDay => ?_⟩
    · obtain ⟨field, -, -, -, named, -⟩ := reflected.filter isFilter
      unfold filterField at named
      split at named
      · rename_i closed
        exact closed.2
      · cases named
    · intro key isKey
      obtain ⟨part, isPart, rfl⟩ := mem_map.mp isKey
      rw [isSort]
      exact (reflected.sort isSort part isPart).1
    · rcases isList with isFields | isInclude
      · rw [isFields]
        exact reflected.fields isFields
      · rw [isInclude]
        exact reflected.includes isInclude
    · obtain ⟨day, isDay, isLast, -⟩ := reflected.asOf isDay
      exact isDay.trans isLast.symm
  · intro complete
    refine ⟨fun isFilter => ?_, fun isSort part isPart => ?_, fun isFields => ?_, fun isInclude => ?_, fun isDay => ?_⟩
    · have named : filterField item.1 = some ⟨Sqldump.strip isSpace (item.1.drop 7).dropLast⟩ :=
        if_pos ⟨isFilter, complete.closed isFilter⟩
      obtain ⟨values, found, within⟩ := (addFilters_ok isFilters).2 item member _ named
      have isEntry := mem_of_lookup found
      obtain ⟨clause, isClause, built⟩ := forall₂_mem isClauses isEntry
      simp only [clauseOf, bind_ok, columnOf_ok, mapM_ok, pure_ok] at built
      obtain ⟨column, isColumn, converted, each, rfl⟩ := built
      refine ⟨_, values, column, filterClause column.name converted, named, isEntry, within, isColumn, ?_,
        filterClause_column _ _, ?_⟩
      · exact mem_append_left _ (mem_append_right _ isClause)
      · intro raw isRaw
        obtain ⟨value, isValue, converts⟩ := forall₂_mem each (within isRaw)
        exact ⟨_, value, mem_filterClause isValue, converts⟩
    · have sorted : sortKey part ∈ (split (lastOf items "sort".toList)).map sortKey := by
        rw [← isSort]
        exact complete.sort isSort (mem_map_of_mem isPart)
      obtain ⟨ordered, isOrdered, built⟩ := forall₂_mem isOrder sorted
      simp only [orderOf, bind_ok, columnOf_ok, pure_ok] at built
      obtain ⟨column, isColumn, rfl⟩ := built
      exact ⟨sorted, column, isColumn, mem_append_left _ isOrdered⟩
    · have within := complete.lists (Or.inl isFields)
      rw [isFields] at within
      exact within
    · have within := complete.lists (Or.inr isInclude)
      rw [isInclude] at within
      exact within
    · obtain ⟨offered, isSome⟩ := asOfOk (any_eq_true.mpr ⟨item, member, decide_eq_true isDay⟩)
      obtain ⟨day, found⟩ := Option.isSome_iff_exists.mp isSome
      obtain ⟨column, isColumn⟩ := Option.isSome_iff_exists.mp offered
      have same := complete.asOf isDay
      rw [isDay, found] at same
      refine ⟨day, same, by rw [isDay]; exact found, mem_append_right _ ?_⟩
      rw [asOfClauses, isColumn, found]
      exact mem_cons_self

def sampleSpec : ListSpec where
  filters := [(⟨"status".toList⟩, ⟨"status".toList, .text⟩)]

def openOnly : List (Text × Text) := [("filter[status]".toList, "open".toList)]

theorem open_reflected :
    (∀ item ∈ openOnly, Reflected (fun _ => none) sampleSpec openOnly
        ⟨[(⟨"status".toList⟩, ["open".toList])], [], [], []⟩
        ⟨[.equals "status".toList (.raw "open".toList)], []⟩ item) ↔
      ∀ item ∈ openOnly, Complete (fun _ => none) openOnly item :=
  reflected_iff _ sampleSpec [] true true openOnly _ ⟨[], []⟩ _ [] (by decide +kernel) (by decide +kernel)

/-- A filter key without its closing bracket passes the check of unknown keys and names no field. -/
theorem open_bracket_unfiltered : ¬ ∀ (fromIsoformat : Text → Option Date) (spec : ListSpec)
    (items : List (Text × Text)) (params : ListParams) (query built : Query) (default : List Order),
    spec.dependency fromIsoformat [] true true items = .ok params →
      spec.apply fromIsoformat query params default items = .ok built →
        ∀ item ∈ items, Reflected fromIsoformat spec items params built item := by
  intro reflected
  have silent := reflected (fun _ => none) sampleSpec [("filter[status".toList, "open".toList)] ⟨[], [], [], []⟩
    ⟨[], []⟩ ⟨[], []⟩ [] (by decide +kernel) rfl _ (mem_singleton_self _)
  obtain ⟨field, values, -, -, -, isEntry, -⟩ := silent.filter (by decide +kernel)
  cases isEntry

end Mhvp.Core.Lists
