import Mathlib.Tactic.Positivity
import Mhvp.Core.Decimal

namespace Mhvp.Hoa.Majority

open Core

inductive SubjectKind where
  | economicPlan
  | annualStatement
  | maintenance
  | structuralChange
  | managerAppointment
  | other

/-- `SUBJECT_LABELS` -/
def SubjectKind.label : SubjectKind → String
  | .economicPlan => "Wirtschaftsplan"
  | .annualStatement => "Jahresabrechnung"
  | .maintenance => "Erhaltung"
  | .structuralChange => "Bauliche Veränderung"
  | .managerAppointment => "Verwalterbestellung"
  | .other => "Sonstiges"

inductive MajorityType where
  | simple
  | qualified23
  | qualified34
  | unanimous
  | custom
  deriving DecidableEq

inductive CountingBasis where
  | heads
  | shares
  | units

/-- `BASIS_TO_PRINCIPLE` -/
def CountingBasis.principle : CountingBasis → String
  | .heads => "head"
  | .shares => "mea"
  | .units => "unit"

/-- `BASIS_LABELS` -/
def CountingBasis.label : CountingBasis → String
  | .heads => "Köpfe"
  | .shares => "Miteigentumsanteile"
  | .units => "Einheiten"

inductive CheckResult where
  | reached
  | notReached
  | notCheckable
  deriving DecidableEq

structure RuleSpec where
  majorityType : MajorityType
  countingBasis : CountingBasis
  customNumerator : Option ℤ := none
  customDenominator : Option ℤ := none
  source : String
  approved : Bool := false
  default : Bool := false

/-- A recorded tally; `none` is a missing entry or one that is no number. -/
structure Votes where
  principle : Option String
  yes : Option Decimal
  no : Option Decimal
  abstain : Option Decimal := none
  eligible : Option Decimal := none

/-- What `evaluate` reports. -/
structure MajorityCheck where
  subjectKind : Option SubjectKind
  ruleText : String
  standardRule : Bool
  approved : Bool
  result : CheckResult
  reason : Option String

/-- Required share of yes votes among yes and no votes, none for unanimity; an error where a rule of its own has no
fraction. -/
def threshold (rule : RuleSpec) : Except String (Option ℚ) :=
  match rule.majorityType with
  | .qualified23 => .ok (some (2 / 3))
  | .qualified34 => .ok (some (3 / 4))
  | .custom =>
    match rule.customNumerator, rule.customDenominator with
    | some numerator, some denominator =>
      if numerator = 0 ∨ denominator = 0 then .error "custom rule without fraction"
      else .ok (some (numerator / denominator))
    | _, _ => .error "custom rule without fraction"
  | .simple => .ok (some (1 / 2))
  | .unanimous => .ok none

def numberText : Option ℤ → String
  | some number => toString number
  | none => "None"

def ruleText (rule : RuleSpec) (subjectKind : Option SubjectKind) : String :=
  let kind := match rule.majorityType with
    | .simple => "einfache Mehrheit (mehr Ja als Nein)"
    | .qualified23 => "qualifizierte Mehrheit von mindestens 2/3 der abgegebenen Stimmen"
    | .qualified34 => "qualifizierte Mehrheit von mindestens 3/4 der abgegebenen Stimmen"
    | .unanimous => "Allstimmigkeit aller Stimmberechtigten"
    | .custom => "Mehrheit von mindestens " ++ numberText rule.customNumerator ++ "/" ++
        numberText rule.customDenominator ++ " der abgegebenen Stimmen"
  let parts := [kind, "nach " ++ rule.countingBasis.label] ++
    if rule.majorityType = .unanimous then [] else ["Enthaltungen nicht gezählt"]
  let head := match subjectKind with
    | some subject => subject.label ++ ": "
    | none => ""
  head ++ ", ".intercalate parts ++ "; Fundstelle: " ++ rule.source ++
    if rule.default then " (Standardregel, nicht fachlich freigegeben)"
    else if rule.approved then "" else " (Regel noch nicht fachlich freigegeben)"

/-- The comparison of a complete tally with its rule. -/
def compare (rule : RuleSpec) (votes : Votes) (yes no : Decimal) : CheckResult × Option String :=
  if rule.majorityType = .unanimous then
    match votes.eligible with
    | none => (.notCheckable, some "Gesamtzahl der Stimmberechtigten fehlt.")
    | some eligible =>
      if eligible ≤ 0 then (.notCheckable, some "Gesamtzahl der Stimmberechtigten fehlt.")
      else (if yes = eligible ∧ no = 0 ∧ votes.abstain.getD 0 = 0 then .reached else .notReached, none)
  else
    match threshold rule with
    | .error _ => (.notCheckable, some "Regel ohne gültigen Bruch.")
    | .ok share =>
      -- the sum of two decimals has 28 digits
      let cast := contextRound (yes + no)
      match share with
      | some share =>
        if rule.majorityType = .simple then (if no < yes then .reached else .notReached, none)
        else (if 0 < cast ∧ share * cast ≤ yes then .reached else .notReached, none)
      | none => (if no < yes then .reached else .notReached, none)

/-- Result and reason of the check, in the order of its tests. -/
def checked (rule : RuleSpec) (votes : Option Votes) (subjectKind : Option SubjectKind) : CheckResult × Option String :=
  match subjectKind, votes with
  | none, _ => (.notCheckable, some "Beschlussgegenstand nicht angegeben.")
  | some _, none => (.notCheckable, some "Keine Auszählung erfasst.")
  | some _, some votes =>
    match votes.yes, votes.no with
    | some yes, some no =>
      if yes < 0 ∨ no < 0 then (.notCheckable, some "Auszählung unvollständig.")
      else if votes.principle ≠ some rule.countingBasis.principle then
        (.notCheckable, some ("Zählbasis der Auszählung (" ++
          (match votes.principle with
            | some principle => if principle = "" then "unbekannt" else principle
            | none => "unbekannt") ++
          ") weicht von der Regel (" ++ rule.countingBasis.principle ++ ") ab."))
      else compare rule votes yes no
    | _, _ => (.notCheckable, some "Auszählung unvollständig.")

/-- `evaluate` -/
def evaluate (rule : RuleSpec) (votes : Option Votes) (subjectKind : Option SubjectKind) : MajorityCheck where
  subjectKind := subjectKind
  ruleText := ruleText rule subjectKind
  standardRule := rule.default
  approved := rule.approved
  result := (checked rule votes subjectKind).1
  reason := (checked rule votes subjectKind).2

/-- Numerator and denominator of a rule of its own are at least one, as the endpoints demand. -/
def RuleSpec.Valid (rule : RuleSpec) : Prop :=
  rule.majorityType = .custom → ∃ numerator denominator, rule.customNumerator = some numerator ∧
    rule.customDenominator = some denominator ∧ 1 ≤ numerator ∧ 1 ≤ denominator

/-- The exact fraction of a qualified majority. -/
def RuleSpec.fraction (rule : RuleSpec) : ℚ :=
  match rule.majorityType with
  | .qualified23 => 2 / 3
  | .qualified34 => 3 / 4
  | _ => (rule.customNumerator.getD 0 : ℚ) / rule.customDenominator.getD 0

/-- A tally the rule can be applied to. -/
structure Checkable (rule : RuleSpec) (votes : Votes) (yes no : Decimal) : Prop where
  isYes : votes.yes = some yes
  isNo : votes.no = some no
  yesNonneg : 0 ≤ yes
  noNonneg : 0 ≤ no
  principle : votes.principle = some rule.countingBasis.principle
  eligible : rule.majorityType = .unanimous → ∃ eligible, votes.eligible = some eligible ∧ 0 < eligible

/-- The majority a rule requires, in exact numbers. -/
def Meets (rule : RuleSpec) (votes : Votes) (yes no : Decimal) : Prop :=
  match rule.majorityType with
  | .simple => no < yes
  | .unanimous => votes.eligible = some yes ∧ no = 0 ∧ votes.abstain.getD 0 = 0
  | _ => 0 < yes + no ∧ rule.fraction * (yes + no) ≤ yes

/-- For a qualified majority yes and no votes add up to a number of at most 28 digits. -/
def Exact (rule : RuleSpec) (yes no : Decimal) : Prop :=
  rule.majorityType ≠ .simple → rule.majorityType ≠ .unanimous → contextRound (yes + no) = yes + no

def Votes.Exact (rule : RuleSpec) (votes : Votes) : Prop :=
  ∀ yes no, votes.yes = some yes → votes.no = some no → Majority.Exact rule yes no

variable {rule : RuleSpec} {votes : Votes} {subject : SubjectKind} {yes no more less factor : Decimal}

section

variable (valid : rule.Valid) (qualified : rule.majorityType ≠ .simple) (notAll : rule.majorityType ≠ .unanimous)
include valid qualified notAll

theorem RuleSpec.Valid.fraction_pos : 0 < rule.fraction := by
  unfold RuleSpec.fraction
  cases isType : rule.majorityType with
  | simple => exact absurd isType qualified
  | unanimous => exact absurd isType notAll
  | qualified23 => norm_num
  | qualified34 => norm_num
  | custom =>
    obtain ⟨numerator, denominator, isNumerator, isDenominator, atLeast, least⟩ := valid isType
    rw [isNumerator, isDenominator, Option.getD_some, Option.getD_some]
    have one : (0 : ℚ) < numerator := by exact_mod_cast Int.lt_of_lt_of_le Int.zero_lt_one atLeast
    have two : (0 : ℚ) < denominator := by exact_mod_cast Int.lt_of_lt_of_le Int.zero_lt_one least
    exact div_pos one two

theorem threshold_eq : threshold rule = .ok (some rule.fraction) := by
  unfold threshold RuleSpec.fraction
  cases isType : rule.majorityType with
  | simple => exact absurd isType qualified
  | unanimous => exact absurd isType notAll
  | qualified23 => rfl
  | qualified34 => rfl
  | custom =>
    obtain ⟨numerator, denominator, isNumerator, isDenominator, atLeast, least⟩ := valid isType
    rw [isNumerator, isDenominator]
    dsimp only
    rw [if_neg (by omega)]
    rfl

end

theorem checkable_of_result (isResult : (evaluate rule (some votes) (some subject)).result ≠ .notCheckable) :
    ∃ yes no, Checkable rule votes yes no := by
  unfold evaluate checked at isResult
  dsimp only at isResult
  cases isYes : votes.yes with
  | none => simp [isYes] at isResult
  | some yes =>
    cases isNo : votes.no with
    | none => simp [isYes, isNo] at isResult
    | some no =>
      rw [isYes, isNo] at isResult
      dsimp only at isResult
      by_cases negative : yes < 0 ∨ no < 0
      · rw [if_pos negative] at isResult
        exact absurd rfl isResult
      · rw [if_neg negative] at isResult
        rw [not_or, not_lt, not_lt] at negative
        by_cases other : votes.principle ≠ some rule.countingBasis.principle
        · rw [if_pos other] at isResult
          exact absurd rfl isResult
        · rw [if_neg other] at isResult
          refine ⟨yes, no, isYes, isNo, negative.1, negative.2, not_not.mp other, ?_⟩
          intro isAll
          unfold compare at isResult
          rw [if_pos isAll] at isResult
          cases isEligible : votes.eligible with
          | none => simp [isEligible] at isResult
          | some eligible =>
            refine ⟨eligible, rfl, ?_⟩
            by_contra none'
            rw [isEligible] at isResult
            dsimp only at isResult
            rw [if_pos (not_lt.mp none')] at isResult
            exact isResult rfl

theorem result_iff (valid : rule.Valid) (checkable : Checkable rule votes yes no) (exact' : Exact rule yes no) :
    ((evaluate rule (some votes) (some subject)).result = .reached ↔ Meets rule votes yes no) ∧
      ((evaluate rule (some votes) (some subject)).result = .notReached ↔ ¬ Meets rule votes yes no) := by
  have isCompared : checked rule (some votes) (some subject) = compare rule votes yes no := by
    unfold checked
    dsimp only
    rw [checkable.isYes, checkable.isNo]
    dsimp only
    rw [if_neg (not_or.mpr ⟨not_lt.mpr checkable.yesNonneg, not_lt.mpr checkable.noNonneg⟩),
      if_neg (not_not.mpr checkable.principle)]
  have decided : ∀ {condition : Prop} [Decidable condition],
      ((if condition then CheckResult.reached else .notReached) = .reached ↔ condition) ∧
        ((if condition then CheckResult.reached else .notReached) = .notReached ↔ ¬ condition) := by
    intro condition _
    by_cases holds : condition <;> simp [holds]
  unfold evaluate
  dsimp only
  rw [isCompared]
  unfold compare Meets
  cases isType : rule.majorityType with
  | simple =>
    have isThreshold : threshold rule = .ok (some (1 / 2)) := by
      unfold threshold
      rw [isType]
    rw [if_neg (by decide), isThreshold]
    dsimp only
    rw [if_pos rfl]
    exact decided
  | unanimous =>
    obtain ⟨eligible, isEligible, isPositive⟩ := checkable.eligible isType
    rw [if_pos rfl, isEligible]
    dsimp only
    rw [if_neg (not_le.mpr isPositive), Option.some.injEq, eq_comm (a := eligible)]
    exact decided
  | qualified23 | qualified34 | custom =>
    have isThreshold := threshold_eq valid (by rw [isType]; decide) (by rw [isType]; decide)
    rw [if_neg (by decide), isThreshold]
    dsimp only
    rw [if_neg (by decide), exact' (by rw [isType]; decide) (by rw [isType]; decide)]
    exact decided

/-- A further yes vote does not lose a majority; with unanimity there are no more of them than votes. -/
theorem Meets.more_yes (valid : rule.Valid) (checkable : Checkable rule votes yes no) (meets : Meets rule votes yes no)
    (atLeast : yes ≤ more)
    (within : rule.majorityType = .unanimous → ∀ eligible, votes.eligible = some eligible → more ≤ eligible) :
    Meets rule { votes with yes := some more } more no := by
  have share : rule.majorityType ≠ .simple → rule.majorityType ≠ .unanimous →
      0 < yes + no ∧ rule.fraction * (yes + no) ≤ yes → 0 < more + no ∧ rule.fraction * (more + no) ≤ more := by
    intro qualified notAll ⟨cast, enough⟩
    have isPositive := valid.fraction_pos qualified notAll
    have noNonneg := checkable.noNonneg
    refine ⟨by linarith, ?_⟩
    -- a share of more than one is never reached
    have atMostOne : rule.fraction ≤ 1 := by
      by_contra above
      have yesLess : yes * 1 < rule.fraction * (yes + no) := by
        rcases eq_or_lt_of_le checkable.yesNonneg with zero | some'
        · rw [← zero] at cast ⊢
          rw [zero_mul]
          exact mul_pos isPositive cast
        · nlinarith [not_le.mp above]
      linarith
    nlinarith
  unfold Meets at *
  cases isType : rule.majorityType with
  | simple =>
    rw [isType] at meets
    exact meets.trans_le atLeast
  | unanimous =>
    rw [isType] at meets
    obtain ⟨isEligible, noNo, noAbstain⟩ := meets
    have same := le_antisymm atLeast (within isType yes isEligible)
    exact ⟨same ▸ isEligible, noNo, noAbstain⟩
  | qualified23 | qualified34 | custom =>
    rw [isType] at meets
    exact share (by rw [isType]; decide) (by rw [isType]; decide) meets

theorem Meets.fewer_no (valid : rule.Valid) (meets : Meets rule votes yes no) (nonneg : 0 ≤ less) (atMost : less ≤ no) :
    Meets rule { votes with no := some less } yes less := by
  have share : rule.majorityType ≠ .simple → rule.majorityType ≠ .unanimous →
      0 < yes + no ∧ rule.fraction * (yes + no) ≤ yes → 0 < yes + less ∧ rule.fraction * (yes + less) ≤ yes := by
    intro qualified notAll ⟨cast, enough⟩
    have isPositive := valid.fraction_pos qualified notAll
    have yesPositive : 0 < yes := (mul_pos isPositive cast).trans_le enough
    refine ⟨by linarith, le_trans ?_ enough⟩
    exact mul_le_mul_of_nonneg_left (by linarith) isPositive.le
  unfold Meets at *
  cases isType : rule.majorityType with
  | simple =>
    rw [isType] at meets
    exact atMost.trans_lt meets
  | unanimous =>
    rw [isType] at meets
    obtain ⟨isEligible, noNo, noAbstain⟩ := meets
    exact ⟨isEligible, le_antisymm (noNo ▸ atMost) nonneg, noAbstain⟩
  | qualified23 | qualified34 | custom =>
    rw [isType] at meets
    exact share (by rw [isType]; decide) (by rw [isType]; decide) meets

/-- All weights of a tally times a factor. -/
def Votes.scale (factor : Decimal) (votes : Votes) : Votes where
  principle := votes.principle
  yes := votes.yes.map (factor * ·)
  no := votes.no.map (factor * ·)
  abstain := votes.abstain.map (factor * ·)
  eligible := votes.eligible.map (factor * ·)

theorem compare_scale (isPositive : 0 < factor) (exact' : Exact rule yes no)
    (scaledExact : Exact rule (factor * yes) (factor * no)) :
    compare rule (votes.scale factor) (factor * yes) (factor * no) = compare rule votes yes no := by
  have isZero : ∀ {weight : Decimal}, factor * weight = 0 ↔ weight = 0 := by
    intro weight
    rw [mul_eq_zero, or_iff_right isPositive.ne']
  have less : factor * no < factor * yes ↔ no < yes := mul_lt_mul_iff_right₀ isPositive
  unfold compare
  by_cases isAll : rule.majorityType = .unanimous
  · rw [if_pos isAll, if_pos isAll]
    cases isEligible : votes.eligible with
    | none => simp [Votes.scale, isEligible]
    | some eligible =>
      have notPositive : factor * eligible ≤ 0 ↔ eligible ≤ 0 := by
        rw [← not_lt, ← not_lt, mul_pos_iff_of_pos_left isPositive]
      have noAbstain : (votes.scale factor).abstain.getD 0 = 0 ↔ votes.abstain.getD 0 = 0 := by
        cases isAbstain : votes.abstain with
        | none => simp [Votes.scale, isAbstain]
        | some abstain => simp [Votes.scale, isAbstain, isPositive.ne']
      have scaled : (votes.scale factor).eligible = some (factor * eligible) := by simp [Votes.scale, isEligible]
      rw [scaled]
      simp only [notPositive, noAbstain, isZero, mul_right_inj' isPositive.ne']
  · rw [if_neg isAll, if_neg isAll]
    cases threshold rule with
    | error _ => rfl
    | ok share =>
      dsimp only
      cases share with
      | none => simp only [less]
      | some share =>
        by_cases isSimple : rule.majorityType = .simple
        · simp only [if_pos isSimple, less]
        · have isSum : contextRound (factor * yes + factor * no) = factor * (yes + no) := by
            rw [scaledExact isSimple isAll]
            ring
          have cast : 0 < factor * (yes + no) ↔ 0 < yes + no := mul_pos_iff_of_pos_left isPositive
          have enough : share * (factor * (yes + no)) ≤ factor * yes ↔ share * (yes + no) ≤ yes := by
            rw [mul_left_comm]
            exact mul_le_mul_iff_right₀ isPositive
          rw [isSum, exact' isSimple isAll]
          simp only [if_neg isSimple, cast, enough]

theorem evaluate_scale (rule : RuleSpec) (votes : Votes) (subject : Option SubjectKind) (isPositive : 0 < factor)
    (exact' : votes.Exact rule) (scaledExact : (votes.scale factor).Exact rule) :
    evaluate rule (some (votes.scale factor)) subject = evaluate rule (some votes) subject := by
  have same : checked rule (some (votes.scale factor)) subject = checked rule (some votes) subject := by
    unfold checked
    cases subject with
    | none => rfl
    | some subject =>
      dsimp only
      cases isYes : votes.yes with
      | none => simp [Votes.scale, isYes]
      | some yes =>
        cases isNo : votes.no with
        | none => simp [Votes.scale, isYes, isNo]
        | some no =>
          have scaledYes : (votes.scale factor).yes = some (factor * yes) := by simp [Votes.scale, isYes]
          have scaledNo : (votes.scale factor).no = some (factor * no) := by simp [Votes.scale, isNo]
          have negative : ∀ {weight : Decimal}, factor * weight < 0 ↔ weight < 0 := by
            intro weight
            rw [← not_le, ← not_le, mul_nonneg_iff_of_pos_left isPositive]
          have principle : (votes.scale factor).principle = votes.principle := rfl
          rw [scaledYes, scaledNo]
          dsimp only
          rw [compare_scale isPositive (exact' yes no isYes isNo) (scaledExact _ _ scaledYes scaledNo), principle]
          simp only [negative]
  unfold evaluate
  rw [same]

theorem reached_iff (valid : rule.Valid) (exact' : votes.Exact rule) :
    (evaluate rule (some votes) (some subject)).result = .reached ↔
      ∃ yes no, Checkable rule votes yes no ∧ Meets rule votes yes no := by
  constructor
  · intro isReached
    obtain ⟨yes, no, checkable⟩ := checkable_of_result (by rw [isReached]; decide)
    have meets : Meets rule votes yes no :=
      (result_iff valid checkable (exact' yes no checkable.isYes checkable.isNo)).1.mp isReached
    exact ⟨yes, no, checkable, meets⟩
  · rintro ⟨yes, no, checkable, meets⟩
    exact (result_iff valid checkable (exact' yes no checkable.isYes checkable.isNo)).1.mpr meets

/-- A majority is reached exactly where a tally that can be checked meets the exact fraction of its rule. More yes votes, up
to all that are entitled where all must agree, and fewer no votes keep it; another unit of weight changes nothing. -/
theorem majority_check (valid : rule.Valid) (exact' : votes.Exact rule) :
    ((evaluate rule (some votes) (some subject)).result = .reached ↔
        ∃ yes no, Checkable rule votes yes no ∧ Meets rule votes yes no) ∧
      (∀ yes more, votes.yes = some yes → yes ≤ more → Votes.Exact rule { votes with yes := some more } →
        (rule.majorityType = .unanimous → ∀ eligible, votes.eligible = some eligible → more ≤ eligible) →
        (evaluate rule (some votes) (some subject)).result = .reached →
        (evaluate rule (some { votes with yes := some more }) (some subject)).result = .reached) ∧
      (∀ no less, votes.no = some no → 0 ≤ less → less ≤ no → Votes.Exact rule { votes with no := some less } →
        (evaluate rule (some votes) (some subject)).result = .reached →
        (evaluate rule (some { votes with no := some less }) (some subject)).result = .reached) ∧
      ∀ factor, 0 < factor → (votes.scale factor).Exact rule →
        evaluate rule (some (votes.scale factor)) (some subject) = evaluate rule (some votes) (some subject) := by
  refine ⟨reached_iff valid exact', ?_, ?_, ?_⟩
  · intro yes more isYes atLeast moreExact within isReached
    obtain ⟨own, no, checkable, meets⟩ := (reached_iff valid exact').mp isReached
    have same : own = yes := Option.mem_unique checkable.isYes isYes
    rw [same] at checkable meets
    refine (reached_iff valid moreExact).mpr ⟨more, no, ?_, meets.more_yes valid checkable atLeast within⟩
    exact ⟨rfl, checkable.isNo, checkable.yesNonneg.trans atLeast, checkable.noNonneg, checkable.principle,
      checkable.eligible⟩
  · intro no less isNo nonneg atMost lessExact isReached
    obtain ⟨yes, own, checkable, meets⟩ := (reached_iff valid exact').mp isReached
    have same : own = no := Option.mem_unique checkable.isNo isNo
    rw [same] at checkable meets
    refine (reached_iff valid lessExact).mpr ⟨yes, less, ?_, meets.fewer_no valid nonneg atMost⟩
    exact ⟨checkable.isYes, rfl, checkable.yesNonneg, nonneg, checkable.principle, checkable.eligible⟩
  · intro factor isPositive scaledExact
    exact evaluate_scale rule votes (some subject) isPositive exact' scaledExact

/-- A maintenance measure that needs three quarters of the shares. -/
def threeQuarters : RuleSpec where
  majorityType := .qualified34
  countingBasis := .shares
  source := "Gemeinschaftsordnung"

theorem exactly_three_quarters :
    (evaluate threeQuarters (some ⟨some "mea", some 750, some 250, some 40, none⟩) (some .maintenance)).result =
      .reached := by
  have exact' : Votes.Exact threeQuarters ⟨some "mea", some 750, some 250, some 40, none⟩ := by
    rintro yes no ⟨⟩ ⟨⟩ _ _
    decide +kernel
  refine (majority_check (by intro isCustom; cases isCustom) exact').1.mpr ⟨750, 250, ?_, ?_⟩
  · exact ⟨rfl, rfl, by norm_num, by norm_num, rfl, fun isAll => by cases isAll⟩
  · simp only [Meets, threeQuarters, RuleSpec.fraction]
    norm_num

/-- More yes votes than there are votes do not make a resolution of all; and 20000000000000000000000000001 of
30000000000000000000000000002 votes count as two thirds, because their sum is rounded to 28 digits. -/
theorem more_than_all :
    (evaluate { threeQuarters with majorityType := .unanimous }
        (some ⟨some "mea", some 1000, some 0, none, some 1000⟩) (some .maintenance)).result = .reached ∧
      (evaluate { threeQuarters with majorityType := .unanimous }
        (some ⟨some "mea", some 1001, some 0, none, some 1000⟩) (some .maintenance)).result = .notReached ∧
      (evaluate { threeQuarters with majorityType := .qualified23 }
        (some ⟨some "mea", some (2 * 10 ^ 28 + 1), some (10 ^ 28 + 1), none, none⟩) (some .maintenance)).result =
          .reached ∧
      ¬ 2 / 3 * ((2 * 10 ^ 28 + 1) + (10 ^ 28 + 1)) ≤ (2 * 10 ^ 28 + 1 : ℚ) := by
  refine ⟨by decide +kernel, by decide +kernel, by decide +kernel, by norm_num⟩

end Mhvp.Hoa.Majority
