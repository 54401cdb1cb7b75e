import ActivityReport.Config.Files
import ActivityReport.Proofs.Trace.Outcome

/-!
# Configuration files out of reach

What is wrong with a configuration file is told by an incident, with two exceptions: a path that is too long to be
looked up, and contents that are nested too deeply. Such a file is out of reach (`ConfigFile.IsOutOfReach`), and reading
it fails in a way of its own (`ConfigFile.exists_load_eq_error_iff`). The ladder of a request and the bots of its wiki
are what is read from the one file of each (`Resources.run_resolveLadder`, `Resources.run_resolveFlaglessBots`).
-/

namespace ActivityReport

/-- Whether a failure is one of the two kinds of incident. -/
def Failure.IsIncident (e : Failure) : Prop := e.name = "StatisticsQueryError" ∨ e.name = "ConfigurationError"

instance (e : Failure) : Decidable e.IsIncident := inferInstanceAs (Decidable (_ ∨ _))

namespace ConfigFile

variable {α : Type} {c : Resources} {f : ConfigFile} {reader : Payload.Reader α} {bytes : List UInt8} {e : Failure}

/-- Whether a file cannot be looked up, or cannot be read for its depth. -/
def IsOutOfReach (f : ConfigFile) (c : Resources) : Prop :=
  (∃ fault, c.file? f.path = .error fault) ∨
    ∃ bytes isList, c.file? f.path = .ok (some bytes) ∧ f.value bytes = .error (.tooDeep isList)

/-- What is read from a file, when it is there. -/
def load (f : ConfigFile) (reader : Payload.Reader α) (c : Resources) : Except Failure (Option α) := do
  match ← (c.file? f.path).mapError Failure.longPath with
  | none => return none
  | some bytes => some <$> f.read reader bytes

lemma isIncident_incident (f : ConfigFile) (message : String) (details : List (String × Json)) :
    (f.incident message details).IsIncident := Or.inr rfl

lemma isIncident_or_of_value (h : f.value bytes = .error e) : e.IsIncident ∨ ∃ isList, e = .tooDeep isList := by
  rcases bind_eq_error.1 h with undecoded | ⟨cs, -, unread⟩
  · obtain ⟨fault, -, rfl⟩ := mapError_eq_error.1 undecoded
    exact Or.inl (isIncident_incident f _ _)
  · obtain ⟨fault, -, rfl⟩ := mapError_eq_error.1 unread
    cases fault.cause with
    | tooDeep isList => exact Or.inr ⟨isList, rfl⟩
    | _ => exact Or.inl (isIncident_incident f _ _)

lemma read_of_value (h : f.value bytes = .error e) : f.read reader bytes = .error e := bind_eq_error.2 (Or.inl h)

lemma isIncident_or_of_read (h : f.read reader bytes = .error e) : e.IsIncident ∨ f.value bytes = .error e := by
  rcases bind_eq_error.1 h with missing | ⟨json, -, refused⟩
  · exact Or.inr missing
  · cases read : reader json with
    | ok a =>
      rw [read] at refused
      cases refused
    | refused issues =>
      rw [read] at refused
      cases refused
      exact Or.inl (isIncident_incident f _ _)

/-- A file that is not loaded is out of reach, or there is an incident. -/
lemma isIncident_or_of_load (h : f.load reader c = .error e) :
    e.IsIncident ∨ f.IsOutOfReach c ∧ (e.name = "OSError" ∨ e.name = "RecursionError") := by
  rcases bind_eq_error.1 h with unknown | ⟨contents, known, unread⟩
  · obtain ⟨fault, missing, rfl⟩ := mapError_eq_error.1 unknown
    exact Or.inr ⟨Or.inl ⟨fault, missing⟩, Or.inl rfl⟩
  · cases contents with
    | none => cases unread
    | some bytes =>
      refine (isIncident_or_of_read (map_eq_error.1 unread)).elim Or.inl fun missing => ?_
      refine (isIncident_or_of_value missing).imp_right ?_
      rintro ⟨isList, rfl⟩
      exact ⟨Or.inr ⟨bytes, isList, mapError_eq_ok.1 known, missing⟩, Or.inr rfl⟩

/-- Loading a file fails otherwise than by an incident exactly when the file is out of reach. -/
theorem exists_load_eq_error_iff : (∃ e, f.load reader c = .error e ∧ ¬ e.IsIncident) ↔ f.IsOutOfReach c := by
  constructor
  · rintro ⟨e, failed, escapes⟩
    exact ((isIncident_or_of_load failed).resolve_left escapes).1
  · rintro (⟨fault, unknown⟩ | ⟨bytes, isList, known, deep⟩)
    · refine ⟨.longPath fault, bind_eq_error.2 (Or.inl (mapError_eq_error.2 ⟨fault, unknown, rfl⟩)), ?_⟩
      show ¬ ("OSError" = "StatisticsQueryError" ∨ "OSError" = "ConfigurationError")
      decide
    · refine ⟨.tooDeep isList, bind_eq_error.2 (Or.inr ⟨some bytes, mapError_eq_ok.2 known, ?_⟩), ?_⟩
      · exact map_eq_error.2 (read_of_value deep)
      · show ¬ ("RecursionError" = "StatisticsQueryError" ∨ "RecursionError" = "ConfigurationError")
        decide

end ConfigFile

namespace Resources

open Traced (run_bind)

variable (c : Resources) (r : Request) (clock : List Float)

lemma run_readLadder (wikiId : String) : ((c.readLadder wikiId).run clock).result =
    (ConfigFile.serviceAward c wikiId).load Payload.readLadderFile c := by
  unfold readLadder contents? ConfigFile.load
  generalize ConfigFile.serviceAward c wikiId = f
  dsimp only
  cases c.file? f.path with
  | error fault => rfl
  | ok contents =>
    cases contents with
    | none => rfl
    | some bytes =>
      show ((Traced.result (f.read Payload.readLadderFile bytes) >>= fun _ => _).run clock).result =
        some <$> f.read Payload.readLadderFile bytes
      rw [run_bind]
      cases f.read Payload.readLadderFile bytes <;> rfl

/-- The ladder of a request is its own, or what is loaded for its wiki when levels are used. -/
lemma run_resolveLadder : ((c.resolveLadder r).run clock).result =
    if r.ladder = none ∧ r.needsLevels = true then (ConfigFile.serviceAward c r.wikiId).load Payload.readLadderFile c
    else .ok r.ladder := by
  unfold resolveLadder
  by_cases own : r.ladder = none
  · by_cases needs : r.needsLevels = true
    · rw [own, needs, if_neg (by decide), if_neg (by decide), if_pos ⟨rfl, rfl⟩, ← run_readLadder c clock, run_bind]
      cases ((c.readLadder r.wikiId).run clock).result with
      | error e => rfl
      | ok ladder => cases ladder <;> rfl
    · rw [own, Bool.eq_false_iff.2 needs]
      rfl
  · rw [if_pos (Option.isSome_iff_ne_none.2 own), if_neg fun both => own both.1]
    rfl

lemma run_readKnownWikis {bytes : List UInt8} (there : c.file? (ConfigFile.knownWikis c).path = .ok (some bytes)) :
    (c.readKnownWikis.run clock).result = (ConfigFile.knownWikis c).read Payload.readKnownWikisFile bytes := by
  unfold readKnownWikis contents?
  generalize ConfigFile.knownWikis c = f at there ⊢
  dsimp only
  rw [there]
  show ((Traced.result (f.read Payload.readKnownWikisFile bytes) >>= fun _ => _).run clock).result = _
  rw [run_bind]
  cases f.read Payload.readKnownWikisFile bytes <;> rfl

lemma run_knownWiki? (wikiId : String) {bytes : List UInt8}
    (there : c.file? (ConfigFile.knownWikis c).path = .ok (some bytes)) :
    ((c.knownWiki? wikiId).run clock).result =
      (fun wikis => wikis.find? (·.id == wikiId)) <$> (ConfigFile.knownWikis c).read Payload.readKnownWikisFile bytes := by
  unfold knownWiki?
  rw [run_bind, run_readKnownWikis c clock there]
  cases (ConfigFile.knownWikis c).read Payload.readKnownWikisFile bytes <;> rfl

/-- The bots of a wiki are found in the list of known wikis, when it is there and bots are not counted. -/
lemma run_resolveFlaglessBots : ((c.resolveFlaglessBots r).run clock).result =
    if r.skipBots = true then
      (fun wikis => ((wikis.getD []).find? (·.id == r.wikiId)).elim [] KnownWiki.flaglessBots) <$>
        (ConfigFile.knownWikis c).load Payload.readKnownWikisFile c
    else .ok [] := by
  unfold resolveFlaglessBots
  by_cases skips : r.skipBots = true
  · rw [if_pos skips, skips, if_neg (by decide), run_bind]
    unfold contents? ConfigFile.load
    cases there : c.file? (ConfigFile.knownWikis c).path with
    | error fault => rfl
    | ok contents =>
      cases contents with
      | none => rfl
      | some bytes =>
        show ((c.knownWiki? r.wikiId >>= fun _ => _).run clock).result = _ <$> some <$> _
        rw [run_bind, run_knownWiki? c clock r.wikiId there]
        cases (ConfigFile.knownWikis c).read Payload.readKnownWikisFile bytes with
        | error e => rfl
        | ok wikis =>
          rw [show (fun wikis : List KnownWiki => wikis.find? (·.id == r.wikiId)) <$> Except.ok wikis =
            (Except.ok (wikis.find? (·.id == r.wikiId)) : Except Failure _) from rfl]
          show _ = Except.ok ((wikis.find? (·.id == r.wikiId)).elim [] KnownWiki.flaglessBots)
          cases wikis.find? (·.id == r.wikiId) <;> rfl
  · rw [if_neg skips, Bool.eq_false_iff.2 skips]
    rfl

/-- Whether the ladder of a request is to be read from a file that is out of reach. -/
def LosesLadder (c : Resources) (r : Request) : Prop :=
  (r.ladder = none ∧ r.needsLevels = true) ∧ (ConfigFile.serviceAward c r.wikiId).IsOutOfReach c

/-- Whether bots are to be read from a file that is out of reach. -/
def LosesBots (c : Resources) (r : Request) : Prop :=
  r.skipBots = true ∧ (ConfigFile.knownWikis c).IsOutOfReach c

variable {c : Resources} {r : Request} {clock : List Float} {e : Failure}

lemma isIncident_or_of_resolveLadder (failed : ((c.resolveLadder r).run clock).result = .error e) :
    e.IsIncident ∨ c.LosesLadder r ∧ (e.name = "OSError" ∨ e.name = "RecursionError") := by
  rw [run_resolveLadder] at failed
  split at failed
  · rename_i asked
    exact (ConfigFile.isIncident_or_of_load failed).imp_right fun lost => ⟨⟨asked, lost.1⟩, lost.2⟩
  · cases failed

lemma LosesLadder.exists_error (lost : c.LosesLadder r) (clock : List Float) :
    ∃ e, ((c.resolveLadder r).run clock).result = .error e ∧ ¬ e.IsIncident := by
  rw [run_resolveLadder, if_pos lost.1]
  exact ConfigFile.exists_load_eq_error_iff.2 lost.2

lemma isIncident_or_of_resolveFlaglessBots (failed : ((c.resolveFlaglessBots r).run clock).result = .error e) :
    e.IsIncident ∨ c.LosesBots r ∧ (e.name = "OSError" ∨ e.name = "RecursionError") := by
  rw [run_resolveFlaglessBots] at failed
  split at failed
  · rename_i skips
    exact (ConfigFile.isIncident_or_of_load (map_eq_error.1 failed)).imp_right fun lost => ⟨⟨skips, lost.1⟩, lost.2⟩
  · cases failed

lemma LosesBots.exists_error (lost : c.LosesBots r) (clock : List Float) :
    ∃ e, ((c.resolveFlaglessBots r).run clock).result = .error e ∧ ¬ e.IsIncident := by
  obtain ⟨e, failed, escapes⟩ := ConfigFile.exists_load_eq_error_iff.2 lost.2
  refine ⟨e, ?_, escapes⟩
  rw [run_resolveFlaglessBots, if_pos lost.1]
  exact map_eq_error.2 failed

end Resources

end ActivityReport
