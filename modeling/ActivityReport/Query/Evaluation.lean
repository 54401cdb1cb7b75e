import ActivityReport.Cell.Order
import ActivityReport.Number.Amount
import ActivityReport.Query.Basic
import ActivityReport.Query.Joined

/-!
# Evaluation

The values of sums, expressions and predicates in a joined row, and the rows that a query returns from a
store, ordered by actor. `Sum.exact` is the value of a sum in whole numbers without bound; the value in
the store is the same while every partial sum fits a 64-bit word.
-/

namespace ActivityReport

namespace Sum

/-- The value of a sum in the store's arithmetic. -/
def eval (r : JoinedRow) : Sum → Amount
  | none => .whole 0
  | total key counter =>
    match r.snapshot? key with
    | some row => Amount.add (.whole (row.toDate counter)) (.whole (row.daily counter))
    | Option.none => .whole 0
  | plus a b => Amount.add (a.eval r) (b.eval r)
  | minus a b => Amount.sub (a.eval r) (b.eval r)

/-- The value of a sum in whole numbers. -/
def exact (r : JoinedRow) : Sum → Int
  | none => 0
  | total key counter =>
    match r.snapshot? key with
    | some row => row.toDate counter + row.daily counter
    | Option.none => 0
  | plus a b => a.exact r + b.exact r
  | minus a b => a.exact r - b.exact r

/-- Whether every partial sum fits a word. -/
def fits (r : JoinedRow) : Sum → Bool
  | none => true
  | total key counter => Number.fitsWord ((total key counter).exact r)
  | plus a b => a.fits r && b.fits r && Number.fitsWord ((plus a b).exact r)
  | minus a b => a.fits r && b.fits r && Number.fitsWord ((minus a b).exact r)

/-- While every partial sum fits a word, a sum has its value in whole numbers. -/
theorem eval_eq_exact {r : JoinedRow} {s : Sum} (h : s.fits r = true) : s.eval r = .whole (s.exact r) := by
  induction s with
  | none => rfl
  | total key counter =>
    simp only [fits, exact] at h
    simp only [eval, exact]
    split
    · rename_i row found
      rw [found] at h
      exact Amount.add_whole h
    · rfl
  | plus a b iha ihb =>
    simp only [fits, exact, Bool.and_eq_true] at h
    simp only [eval, exact, iha h.1.1, ihb h.1.2]
    exact Amount.add_whole h.2
  | minus a b iha ihb =>
    simp only [fits, exact, Bool.and_eq_true] at h
    simp only [eval, exact, iha h.1.1, ihb h.1.2]
    exact Amount.sub_whole h.2

end Sum

namespace Amount

/-- The order of an amount and a whole number. -/
def compareInt (a : Amount) (n : Int) : Ordering := Number.Numeral.compare a (.whole n)

/-- Whether an amount is at least a whole number. -/
def atLeast (a : Amount) (n : Int) : Bool := compareInt a n != .lt

/-- Whether an amount meets a bound. -/
def meets (c : Comparison) (a : Amount) (n : Int) : Bool :=
  match c with
  | .atLeast => compareInt a n != .lt
  | .atMost => compareInt a n != .gt

/-- The quotient of two amounts as doubles; there is none by 0. -/
def share? (a b : Amount) : Option Float :=
  if compareInt b 0 == .eq then none else some (a.toFloat / b.toFloat)

end Amount

/-- Whether a milestone lies above an earlier value and is reached by a later one. -/
def isCrossed (earlier later : Amount) (milestone : Int) : Bool :=
  Amount.atLeast later milestone && !Amount.atLeast earlier milestone

/-- One day of a range. -/
def Edge.pick (edge : Edge) (days : Date × Date) : Date :=
  match edge with
  | .first => days.1
  | .last => days.2

/-- The day that stands for an empty range. -/
def Edge.never : Edge → Date
  | .first => Date.neverAfter
  | .last => Date.neverBefore

/-- The first or the last of some days. -/
def Edge.ofDays? (edge : Edge) (days : List Date) : Option Date := (dayRange? days).map edge.pick

namespace Expression

/-- The value of an expression. -/
def eval (r : JoinedRow) : Expression → Cell
  | amount s => .ofNumber (s.eval r)
  | share a b => .ofOption .float (Amount.share? (a.eval r) (b.eval r))
  | milestone earlier later milestones =>
    .ofOption .int (milestones.find? (isCrossed (earlier.eval r) (later.eval r)))
  | activityDay key edge => .ofOption .date ((r.range? key).map edge.pick)
  | filterDay keys edge =>
    .ofOption .date (edge.ofDays? (keys.map fun key => ((r.range? key).map edge.pick).getD edge.never))
  | activityDays key => .ofOption (fun days => .int (days.1.daysUntil days.2)) (r.range? key)
  | registrationDate => .ofOption .date r.actor.registration
  | daysSinceRegistration day => .ofOption (fun d => .int (d.daysUntil day)) r.actor.registration
  | nothing => .null

end Expression

namespace Predicate

/-- Whether an actor registered up to a day. -/
def registeredBy (a : Actor) (lastDay : Date) : Bool := a.registration.any (· ≤ lastDay)

/-- Whether an actor has a status. -/
def hasStatus (a : Actor) (lastDay : Date) : RegistrationStatus → Bool
  | .registered => a.isRegistered && registeredBy a lastDay
  | .anonymous => !a.isRegistered

/-- Whether a predicate holds. An empty list of statuses or of templates asks for nothing, an empty
list of groups has no members. -/
def holds (s : Store) (r : JoinedRow) : Predicate → Bool
  | positive e => (e.eval r).isPositive
  | status [] _ => true
  | status statuses lastDay => statuses.any (hasStatus r.actor lastDay)
  | registrationAge c days lastDay =>
    r.actor.registration.any fun d => d ≤ lastDay && c.holds (d.daysUntil lastDay) days
  | inGroups names => s.isInGroups r.actor.id names
  | notInGroups names => !s.isInGroups r.actor.id names
  | hasTemplates names => names.all (s.hasTemplate r.actor.id)
  | hasNoTemplates names => !names.any (s.hasTemplate r.actor.id)
  | bound c value count => Amount.meets c (value.eval r) count
  | crossed earlier later milestones => milestones.any (isCrossed (earlier.eval r) (later.eval r))

end Predicate

/-- One row of a query's answer. -/
structure RawRow where
  id : Int
  name : String
  cell : Label → Cell

namespace RawRow

/-- A row with a total of a level snapshot in its cells. -/
def levelCell (r : JoinedRow) (levels : List LevelSnapshot) (s : LevelSnapshot) (counter : Counter) : Cell :=
  if levels.contains s then .ofNumber ((Sum.total s.key counter).eval r) else .null

/-- The row that a query selects from a joined row. -/
def ofJoined (q : Query) (r : JoinedRow) : RawRow where
  id := r.actor.id
  name := r.actor.name
  cell
    | .column i =>
      match q.columns[i]? with
      | some (some e) => e.eval r
      | _ => .null
    | .levelTotal s counter => levelCell r q.plan.levels s counter

end RawRow

namespace Query

/-- The joined rows in which all predicates hold, ordered by actor. -/
def matching (s : Store) (actorTable : String) (q : Query) : List JoinedRow :=
  ((s.joined actorTable q.plan).filter fun r => q.predicates.all (·.holds s r)).mergeSort
    fun a b => a.actor.id ≤ b.actor.id

/-- The rows that a query returns. -/
def rows (s : Store) (actorTable : String) (q : Query) : List RawRow :=
  (q.matching s actorTable).map (RawRow.ofJoined q)

end Query

end ActivityReport
