import Mathlib.Data.List.Basic

/-!
Matches of a pattern in a text, from the left and without overlap: at each place either a match starts, or one symbol
is passed over.
-/

namespace Mhvp.Lib.Scan

universe u v

variable {Symbol : Type u} {Found : Type v}

/-- `fuel` is the length of the text: every step takes at least one symbol. -/
def scan (matchAt : List Symbol → Option (Found × List Symbol)) : ℕ → List Symbol → List (Symbol ⊕ Found)
  | 0, _ => []
  | _ + 1, [] => []
  | fuel + 1, symbol :: rest =>
    match matchAt (symbol :: rest) with
    | some (found, after) => .inr found :: scan matchAt fuel after
    | none => .inl symbol :: scan matchAt fuel rest

/-- All matches, `re.finditer`. -/
def findAll (matchAt : List Symbol → Option (Found × List Symbol)) (text : List Symbol) : List Found :=
  (scan matchAt text.length text).filterMap Sum.getRight?

/-- Every match replaced by one symbol, `re.sub`. -/
def replaceAll (matchAt : List Symbol → Option (Found × List Symbol)) (replacement : Symbol)
    (text : List Symbol) : List Symbol :=
  (scan matchAt text.length text).map (Sum.elim id fun _ => replacement)

/-- No match starts in the piece of a text before `rest`. -/
def Quiet (matchAt : List Symbol → Option (Found × List Symbol)) (piece rest : List Symbol) : Prop :=
  ∀ suffix ∈ piece.tails, suffix ≠ [] → matchAt (suffix ++ rest) = none

instance [DecidableEq Symbol] (matchAt : List Symbol → Option (Found × List Symbol)) (piece rest : List Symbol) :
    Decidable (Quiet matchAt piece rest) :=
  inferInstanceAs (Decidable (∀ suffix ∈ piece.tails, suffix ≠ [] → matchAt (suffix ++ rest) = none))

/-- What a scan of the text reads, with enough fuel. -/
def Reads (matchAt : List Symbol → Option (Found × List Symbol)) (text : List Symbol)
    (tokens : List (Symbol ⊕ Found)) : Prop :=
  ∀ fuel, text.length ≤ fuel → scan matchAt fuel text = tokens

variable {matchAt : List Symbol → Option (Found × List Symbol)} {text rest after piece : List Symbol}
  {tokens : List (Symbol ⊕ Found)} {symbol replacement : Symbol} {found : Found}

theorem Reads.nil : Reads matchAt [] [] := by
  intro fuel _
  cases fuel with
  | zero => rfl
  | succ fuel => rfl

theorem Reads.pass (quiet : matchAt (symbol :: rest) = none) (later : Reads matchAt rest tokens) :
    Reads matchAt (symbol :: rest) (.inl symbol :: tokens) := by
  intro fuel enough
  cases fuel with
  | zero => exact absurd enough (Nat.not_succ_le_zero _)
  | succ fuel =>
    rw [scan, quiet]
    exact congrArg _ (later fuel (Nat.le_of_succ_le_succ enough))

theorem Reads.take (starts : matchAt text = some (found, after)) (shorter : after.length < text.length)
    (later : Reads matchAt after tokens) : Reads matchAt text (.inr found :: tokens) := by
  intro fuel enough
  cases fuel with
  | zero => exact absurd (Nat.lt_of_lt_of_le shorter enough) (Nat.not_lt_zero _)
  | succ fuel =>
    cases text with
    | nil => exact absurd shorter (Nat.not_lt_zero _)
    | cons symbol rest =>
      rw [scan, starts]
      exact congrArg _ (later fuel (Nat.le_of_lt_succ (Nat.lt_of_lt_of_le shorter enough)))

theorem Quiet.tail (quiet : Quiet matchAt (symbol :: piece) rest) : Quiet matchAt piece rest :=
  fun suffix isSuffix => quiet suffix (List.mem_cons_of_mem _ isSuffix)

theorem Reads.append (quiet : Quiet matchAt piece rest) (later : Reads matchAt rest tokens) :
    Reads matchAt (piece ++ rest) (piece.map .inl ++ tokens) := by
  induction piece with
  | nil => exact later
  | cons symbol piece ih =>
    apply Reads.pass
    · exact quiet (symbol :: piece) List.mem_cons_self (List.cons_ne_nil _ _)
    · exact ih quiet.tail

theorem Reads.findAll_eq (reads : Reads matchAt text tokens) :
    findAll matchAt text = tokens.filterMap Sum.getRight? := by
  rw [findAll, reads _ (Nat.le_refl _)]

theorem Reads.replaceAll_eq (reads : Reads matchAt text tokens) :
    replaceAll matchAt replacement text = tokens.map (Sum.elim id fun _ => replacement) := by
  rw [replaceAll, reads _ (Nat.le_refl _)]

end Mhvp.Lib.Scan
