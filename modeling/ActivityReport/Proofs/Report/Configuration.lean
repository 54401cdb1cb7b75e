import ActivityReport.Proofs.Report.Modes

/-!
# Reach of the configuration

The files of the configuration are read only for what a request leaves to them: a ladder when it shows or requires
levels and brings none, and the bots without their group when bots are not counted and none are given. The group of
bots matters only where bots are not counted. So a broken file fails the requests that need it and no other
(`Service.compile_eq_of_independent`).
-/

namespace ActivityReport

namespace Request

variable {r : Request}

/-- Whether a request brings its own ladder or has no use for one. -/
def HasOwnLevels (r : Request) : Prop :=
  r.ladder ≠ none ∨ (∀ c ∈ r.columns, ∀ moment, c.type ≠ .level moment) ∧
    ∀ c ∈ r.conditions, ∀ changed, c.criterion ≠ .level changed

lemma needsLevels_eq_false (columns : ∀ c ∈ r.columns, ∀ moment, c.type ≠ .level moment)
    (conditions : ∀ c ∈ r.conditions, ∀ changed, c.criterion ≠ .level changed) : r.needsLevels = false := by
  apply Bool.or_eq_false_iff.2
  constructor
  · apply List.any_eq_false.2
    intro c asked shown
    have own := columns c asked
    unfold Column.isLevel at shown
    cases type : c.type with
    | level moment => exact own moment type
    | _ =>
      rw [type] at shown
      cases shown
  · apply List.any_eq_false.2
    intro c asked shown
    cases c with
    | level changed ids => exact conditions _ asked changed rfl
    | _ => cases shown

/-- Rows are numbered without regard to the group of bots when bots are counted. -/
lemma numbering_alike (counted : r.skipBots = false) (botGroup botGroup' : String) (bots : List Cell) :
    (r.numbering botGroup bots).Alike (r.numbering botGroup' bots) where
  finish _ _ := rfl
  limit := rfl
  skipsBots := rfl
  botGroup skips := absurd (counted.symm.trans skips) Bool.false_ne_true
  bots := rfl

end Request

namespace Resources

variable {c : Resources} {r : Request}

/-- No file is read for the ladder of a request that has its own levels. -/
lemma resolveLadder_eq_pure (own : r.HasOwnLevels) : c.resolveLadder r = pure r.ladder := by
  unfold resolveLadder
  rcases own with given | ⟨columns, conditions⟩
  · rw [if_pos (Option.isSome_iff_ne_none.2 given)]
  · rw [Request.needsLevels_eq_false columns conditions]
    cases r.ladder <;> rfl

/-- No file is read for bots that are counted. -/
lemma resolveFlaglessBots_eq_pure (counted : r.skipBots = false) : c.resolveFlaglessBots r = pure [] := by
  unfold resolveFlaglessBots
  rw [counted]
  rfl

end Resources

namespace Service

variable {x : Service} {r : Request}

/-- The service with another tree of files. -/
def withResources (x : Service) (tree : Resources) : Service := { x with resources := tree }

/-- The service with another name for the group of bots. -/
def withBotGroup (x : Service) (name : String) : Service :=
  { x with settings := { x.settings with botGroupName := name } }

/-- Once the ladder and the bots are known no file is read. -/
lemma work_withResources (tree : Resources) (r : Request) (ladder : Option Ladder) (bots : List String) :
    (x.withResources tree).work r ladder bots = x.work r ladder bots := rfl

/-- A query is answered without regard to the group of bots when bots are counted. -/
lemma answer_withBotGroup (counted : r.skipBots = false) (name : String) (q : Query) (ladder : Option Ladder)
    (bots : List String) : (x.withBotGroup name).answer r q ladder bots = x.answer r q ladder bots := by
  have report : ∀ groups rows, (layout r q ladder).report r (r.numbering name (bots.map .text)) groups rows =
      (layout r q ladder).report r (r.numbering x.settings.botGroupName (bots.map .text)) groups rows := by
    intro groups rows
    unfold Layout.report
    simp only [(Request.numbering_alike counted name x.settings.botGroupName _).apply_eq]
  show (stage r "execute" (x.execute r q (layout r q ladder)) >>= _) = _
  refine congrArg _ (funext fun found => ?_)
  cases found with
  | inr ids => rfl
  | inl rows =>
    exact congrArg (fun report => stage r "postprocess" report >>= fun rows => pure (Answer.rows rows))
      (report (groupSource (x.database.store.getD Store.empty)) rows)

lemma work_withBotGroup (counted : r.skipBots = false) (name : String) (ladder : Option Ladder) (bots : List String) :
    (x.withBotGroup name).work r ladder bots = x.work r ladder bots := by
  unfold work guardedAnswer
  simp only [answer_withBotGroup counted]

/-- A request that leaves nothing to the files is worked on without them. -/
lemma compile_withResources (levels : r.HasOwnLevels) {bots : Option (List String)}
    (known : r.skipBots = false ∨ bots ≠ none) (tree : Resources) :
    (x.withResources tree).compile bots r = x.work r r.ladder (bots.getD []) := by
  rw [compile_eq_work, Resources.resolveLadder_eq_pure levels]
  have bots : bots.elim ((x.withResources tree).resources.resolveFlaglessBots r) pure = pure (bots.getD []) := by
    cases bots with
    | some list => rfl
    | none => exact Resources.resolveFlaglessBots_eq_pure (known.resolve_right fun given => given rfl)
  rw [bots]
  exact work_withResources tree r _ _

/-- A request that has its own levels, and that counts bots or is compiled with a list of them, is compiled to the same
with any two trees of files, whatever is in them: the same answer or the same failure, told in the same lines. If it
counts bots, the name of their group makes no difference either. -/
theorem compile_eq_of_independent (x : Service) (r : Request) (bots : Option (List String))
    (levels : r.HasOwnLevels) (known : r.skipBots = false ∨ bots ≠ none) :
    (∀ tree tree' : Resources, (x.withResources tree).compile bots r = (x.withResources tree').compile bots r) ∧
      (r.skipBots = false → ∀ (tree tree' : Resources) (name name' : String),
        ((x.withBotGroup name).withResources tree).compile bots r =
          ((x.withBotGroup name').withResources tree').compile bots r) := by
  refine ⟨fun tree tree' => ?_, fun counted tree tree' name name' => ?_⟩
  · exact (compile_withResources levels known tree).trans (compile_withResources levels known tree').symm
  · calc
      _ = (x.withBotGroup name).work r r.ladder (bots.getD []) := compile_withResources levels known tree
      _ = x.work r r.ladder (bots.getD []) := work_withBotGroup counted name _ _
      _ = (x.withBotGroup name').work r r.ladder (bots.getD []) := (work_withBotGroup counted name' _ _).symm
      _ = _ := (compile_withResources levels known tree').symm

end Service

/-- Actors with four edits at most and their levels on a ladder that the request brings; whether bots are counted is left open. -/
def Json.ofOwnLadder (skipBots : Bool) : Json :=
  .object [("wikiId", .text "w"), ("endDate", .text "2023-12-31"), ("skipBotsFromCounting", .bool skipBots),
    ("columns", .list [.object [("type", .text "counter")], .object [("type", .text "levelAtPeriodEnd")]]),
    ("requirements", .object [("totalEditsAtMost", .int 4)]),
    ("serviceAwardLevels", .list [.object [("id", .text "bronze"), ("label", .text "Bronze"),
      ("requiredContributions", .int 1), ("requiredActiveDays", .int 1)]])]

/-- Whatever the files are, this request has one answer when bots are not counted but listed, and one when they are
counted, then whatever their group is called. -/
theorem Service.compile_of_ownLadder :
    (∃ r answer, Payload.readRequest (Json.ofOwnLadder true) = .ok r ∧ r.HasOwnLevels ∧
      (r.skipBots = false ∨ some ["B"] ≠ none) ∧ answer.actorIds = [1] ∧
      ∀ tree, (((small.withResources tree).compile (some ["B"]) r).run []).result = .ok answer) ∧
    (∃ r answer, Payload.readRequest (Json.ofOwnLadder false) = .ok r ∧ r.HasOwnLevels ∧ r.skipBots = false ∧
      answer.actorIds = [1] ∧
      ∀ tree name, ((((small.withBotGroup name).withResources tree).compile none r).run []).result = .ok answer) := by
  constructor
  · obtain ⟨r, parsed, given, succeeds⟩ : ∃ r, Payload.readRequest (Json.ofOwnLadder true) = .ok r ∧
        r.ladder.isSome = true ∧
        (((small.compile (some ["B"]) r).run []).result.toOption.any fun a => a.actorIds == [1]) = true :=
      ⟨_, rfl, rfl, by decide +kernel⟩
    obtain ⟨answer, compiled, listed⟩ := exists_of_any succeeds
    have own : r.HasOwnLevels := Or.inl (Option.isSome_iff_ne_none.1 given)
    have same := (compile_eq_of_independent small r (some ["B"]) own (Or.inr (Option.some_ne_none _))).1
    refine ⟨r, answer, parsed, own, Or.inr (Option.some_ne_none _), eq_of_beq listed, fun tree => ?_⟩
    rw [same tree small.resources]
    exact compiled
  · obtain ⟨r, parsed, given, counted, succeeds⟩ : ∃ r, Payload.readRequest (Json.ofOwnLadder false) = .ok r ∧
        r.ladder.isSome = true ∧ r.skipBots = false ∧
        (((small.compile none r).run []).result.toOption.any fun a => a.actorIds == [1]) = true :=
      ⟨_, rfl, rfl, rfl, by decide +kernel⟩
    obtain ⟨answer, compiled, listed⟩ := exists_of_any succeeds
    have own : r.HasOwnLevels := Or.inl (Option.isSome_iff_ne_none.1 given)
    have same := (compile_eq_of_independent small r none own (Or.inl counted)).2 counted
    refine ⟨r, answer, parsed, own, counted, eq_of_beq listed, fun tree name => ?_⟩
    rw [same tree small.resources name small.settings.botGroupName]
    exact compiled

end ActivityReport
