import ActivityReport.Proofs.Cell.Order
import ActivityReport.Report.Row

/-!
# Which row comes first

What a row is compared by in a column is told by the type of the column (`LevelledRow.sortValue`), and which of two
rows comes first by the keys of the request in turn, by name and by actor (`Request.Precedes`). No row comes before
itself, a row comes before all that come after a later one, and of two rows of different actors either comes first:
this is a strict order, and a total one on rows of different actors.
-/

namespace ActivityReport

/-! ## Values of rows -/

/-- The value of a number; not-a-number has none. -/
def SortValue.ofNumeral (n : Number.Numeral) : Option SortValue := n.place?.map .number

namespace LevelledRow

/-- The name of a row; one that is missing is an empty text. -/
def nameText (row : LevelledRow) : String := row.raw.name.text?.getD ""

/-- The number of the actor of a row. -/
def actor (row : LevelledRow) : Int := row.raw.id.int?.getD 0

/-- What a row is compared by in the column at a position: the name, the groups, the rank of the level at one end of
the window, or the day or the number that was returned for the column; the column of row numbers is still empty. -/
def sortValue (row : LevelledRow) (w : Window) (groups : Cell → List String) (i : Nat) (t : ColumnType) :
    Option SortValue :=
  match t with
  | .rowNumber => none
  | .userName => some (.text (Text.caseFold row.nameText))
  | .userGroups => some (.texts (groups row.raw.id))
  | .level .start => SortValue.ofNumeral (.real (row.change w).start.shownSortOrder)
  | .level _ => SortValue.ofNumeral (.real (row.change w).finish.shownSortOrder)
  | t =>
    match t.valueType with
    | .date => (row.raw.cell (.column i)).toDate?.map .day
    | _ => (row.raw.cell (.column i)).toNumber?.bind SortValue.ofNumeral

end LevelledRow

namespace SortValue

/-- Whether a value comes first in a direction; what has no value comes last in either. -/
def Comes (descending : Bool) : Option SortValue → Option SortValue → Prop
  | some x, some y => if descending then y < x else x < y
  | some _, none => True
  | none, _ => False

variable {descending : Bool} {x y z : Option SortValue}

lemma not_comes_self (x : Option SortValue) : ¬ Comes descending x x := by
  cases x with
  | none => exact id
  | some x => cases descending <;> exact not_lt_self x

lemma Comes.trans (h : Comes descending x y) (h' : Comes descending y z) : Comes descending x z := by
  cases x with
  | none => exact h.elim
  | some x =>
    cases y with
    | none => exact h'.elim
    | some y =>
      cases z with
      | none => trivial
      | some z =>
        cases descending
        · exact lt_of_lt_of_lt h h'
        · exact lt_of_lt_of_lt h' h

/-- Of two values of one family either comes first, unless they are the same. -/
lemma comes_or_eq_or_comes (descending : Bool) (same : ∀ x' ∈ x, ∀ y' ∈ y, x'.family = y'.family) :
    Comes descending x y ∨ x = y ∨ Comes descending y x := by
  cases x with
  | none =>
    cases y with
    | none => exact Or.inr (Or.inl rfl)
    | some y => exact Or.inr (Or.inr trivial)
  | some x =>
    cases y with
    | none => exact Or.inl trivial
    | some y =>
      have either := lt_or_eq_or_gt (same x rfl y rfl)
      cases descending
      · exact either.imp id (.imp (congrArg some) id)
      · rcases either with less | rfl | less
        · exact Or.inr (Or.inr less)
        · exact Or.inr (Or.inl rfl)
        · exact Or.inl less

end SortValue

/-- The value of a number is one of the numbers. -/
lemma SortValue.family_ofNumeral {n : Number.Numeral} {x : SortValue} (h : SortValue.ofNumeral n = some x) :
    x.family = .number := by
  obtain ⟨p, -, rfl⟩ := Option.map_eq_some_iff.1 h
  rfl

/-- The family of the values of a column. -/
def ColumnType.family (t : ColumnType) : CellFamily :=
  match t.valueType with
  | .text => .text
  | .textList => .texts
  | .date => .day
  | _ => .number

/-- In one column all rows have values of one family. -/
lemma LevelledRow.family_sortValue {row : LevelledRow} {w : Window} {groups : Cell → List String} {i : Nat}
    {t : ColumnType} {x : SortValue} (h : row.sortValue w groups i t = some x) : x.family = t.family := by
  have read : ∀ {c : Cell}, c.toNumber?.bind SortValue.ofNumeral = some x → x.family = .number := by
    intro c own
    obtain ⟨n, -, own⟩ := Option.bind_eq_some_iff.1 own
    exact SortValue.family_ofNumeral own
  have day : ∀ {c : Cell}, c.toDate?.map SortValue.day = some x → x.family = .day := by
    intro c own
    obtain ⟨d, -, rfl⟩ := Option.map_eq_some_iff.1 own
    rfl
  cases t with
  | rowNumber => cases h
  | userName | userGroups =>
    cases h
    rfl
  | level moment => cases moment <;> exact SortValue.family_ofNumeral h
  | count counter span ratio form => cases ratio <;> exact read h
  | averagePerDay | activityDays | daysSinceRegistration | milestone => exact read h
  | logDate | activityDate | registrationDate => exact day h

/-! ## Which row comes first -/

/-- Whether one thing comes before another by a value, or later on where both have the same value. -/
def ByTurns {α β : Type} (before : β → β → Prop) (value : α → β) (later : α → α → Prop) (a b : α) : Prop :=
  before (value a) (value b) ∨ value a = value b ∧ later a b

namespace ByTurns

variable {α β : Type} {before : β → β → Prop} {value : α → β} {later : α → α → Prop} {a b c : α}

lemma not_self (first : ¬ before (value a) (value a)) (next : ¬ later a a) : ¬ ByTurns before value later a a :=
  fun h => h.elim first fun both => next both.2

lemma trans (first : ∀ {x y z}, before x y → before y z → before x z)
    (next : later a b → later b c → later a c) (h : ByTurns before value later a b)
    (h' : ByTurns before value later b c) : ByTurns before value later a c := by
  rcases h with less | ⟨same, less⟩ <;> rcases h' with less' | ⟨same', less'⟩
  · exact Or.inl (first less less')
  · exact Or.inl (same' ▸ less)
  · exact Or.inl (same ▸ less')
  · exact Or.inr ⟨same.trans same', next less less'⟩

/-- Where one comes before another, a third comes after the one or before the other. -/
lemma or (first : ∀ {x y z}, before x y → before y z → before x z)
    (total : before (value a) (value b) ∨ value a = value b ∨ before (value b) (value a))
    (next : later a c → later a b ∨ later b c) (h : ByTurns before value later a c) :
    ByTurns before value later a b ∨ ByTurns before value later b c := by
  rcases total with less | same | less
  · exact Or.inl (Or.inl less)
  · rcases h with before | ⟨equal, after⟩
    · exact Or.inr (Or.inl (same ▸ before))
    · exact (next after).imp (fun after => Or.inr ⟨same, after⟩) fun after => Or.inr ⟨same.symm.trans equal, after⟩
  · rcases h with before | ⟨equal, -⟩
    · exact Or.inr (Or.inl (first less before))
    · exact Or.inr (Or.inl (equal ▸ less))

/-- Of two either comes first, unless they are the same later on. -/
lemma total {same : Prop} (first : before (value a) (value b) ∨ value a = value b ∨ before (value b) (value a))
    (next : later a b ∨ later b a ∨ same) :
    ByTurns before value later a b ∨ ByTurns before value later b a ∨ same := by
  rcases first with less | equal | less
  · exact Or.inl (Or.inl less)
  · exact next.imp (fun after => Or.inr ⟨equal, after⟩) (.imp_left fun after => Or.inr ⟨equal.symm, after⟩)
  · exact Or.inr (Or.inl (Or.inl less))

end ByTurns

namespace Request

variable {r : Request} {groups : Cell → List String} {keys : List OrderBy} {a b c : LevelledRow}

/-- What a row is compared by in the column at a position. -/
def valueAt (r : Request) (groups : Cell → List String) (i : Nat) (row : LevelledRow) : Option SortValue :=
  r.columns[i]?.bind fun c => row.sortValue r.window groups i c.type

/-- At one position all rows have values of one family. -/
lemma family_valueAt {i : Nat} : ∀ x ∈ r.valueAt groups i a, ∀ y ∈ r.valueAt groups i b, x.family = y.family := by
  intro x own y own'
  obtain ⟨c, column, own⟩ := Option.bind_eq_some_iff.1 own
  obtain ⟨c', column', own'⟩ := Option.bind_eq_some_iff.1 own'
  obtain rfl := Option.some.inj (column.symm.trans column')
  rw [LevelledRow.family_sortValue own, LevelledRow.family_sortValue own']

/-- Whether a row comes before another by some keys in turn, then by name without regard to case, then by actor.
Keys that name no column are passed over. -/
def ComesBy (r : Request) (groups : Cell → List String) : List OrderBy → LevelledRow → LevelledRow → Prop
  | [] => ByTurns (· < ·) (fun row => Text.caseFold row.nameText) fun a b => a.actor < b.actor
  | key :: rest =>
    match r.position? key.columnId with
    | none => r.ComesBy groups rest
    | some i => ByTurns (SortValue.Comes key.descending) (r.valueAt groups i) (r.ComesBy groups rest)

/-- Whether a row comes before another in the order of a request. -/
def Precedes (r : Request) (groups : Cell → List String) : LevelledRow → LevelledRow → Prop :=
  r.ComesBy groups r.orderBy

lemma not_comesBy_self (keys : List OrderBy) (row : LevelledRow) : ¬ r.ComesBy groups keys row row := by
  induction keys with
  | nil => exact ByTurns.not_self (lt_irrefl _) (lt_irrefl _)
  | cons key rest ih =>
    unfold ComesBy
    cases r.position? key.columnId with
    | none => exact ih
    | some i => exact ByTurns.not_self (SortValue.not_comes_self _) ih

lemma ComesBy.trans (h : r.ComesBy groups keys a b) (h' : r.ComesBy groups keys b c) : r.ComesBy groups keys a c := by
  induction keys with
  | nil => exact ByTurns.trans lt_trans lt_trans h h'
  | cons key rest ih =>
    unfold ComesBy at h h' ⊢
    generalize r.position? key.columnId = position at h h'
    cases position with
    | none => exact ih h h'
    | some i => exact ByTurns.trans SortValue.Comes.trans ih h h'

/-- Where a row comes before another, a third comes after the one or before the other. -/
lemma ComesBy.or (h : r.ComesBy groups keys a c) (b : LevelledRow) :
    r.ComesBy groups keys a b ∨ r.ComesBy groups keys b c := by
  induction keys with
  | nil =>
    exact ByTurns.or lt_trans (lt_trichotomy _ _)
      (fun less => (lt_or_ge a.actor b.actor).imp_right fun le => le.trans_lt less) h
  | cons key rest ih =>
    unfold ComesBy at h ⊢
    generalize r.position? key.columnId = position at h
    cases position with
    | none => exact ih h
    | some i => exact ByTurns.or SortValue.Comes.trans (SortValue.comes_or_eq_or_comes _ family_valueAt) ih h

/-- Of two rows either comes first, unless they are of one actor. -/
lemma comesBy_or_comesBy_or_eq (keys : List OrderBy) (a b : LevelledRow) :
    r.ComesBy groups keys a b ∨ r.ComesBy groups keys b a ∨ a.actor = b.actor := by
  induction keys with
  | nil => exact ByTurns.total (lt_trichotomy _ _) ((lt_trichotomy a.actor b.actor).imp_right Or.symm)
  | cons key rest ih =>
    unfold ComesBy
    cases r.position? key.columnId with
    | none => exact ih
    | some i => exact ByTurns.total (SortValue.comes_or_eq_or_comes _ family_valueAt) ih

end Request

end ActivityReport
