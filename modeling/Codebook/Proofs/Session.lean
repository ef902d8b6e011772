import Codebook.Session
import Mathlib.Data.List.DropRight
import Mathlib.Data.List.Induction

/-!
# What a session remembers

A session remembers a layer and some definitions, and nothing else. Whether a step that would change them
succeeds is seen at the step alone, and so is what it puts in. Hence the session after some steps is told
from those that succeeded: the definitions are those of the last scan, and the layer is that of the last
parse with the layers that were put over it since.

Steps that failed, and steps that only asked for something, leave no trace. Without them the other steps
have the same answers.
-/

namespace Codebook

open CommandLine

/-! ## One step -/

/-- The layer that a step puts in place of the one before. -/
def Step.parsed? : Step → Option Layer
  | .parse content => (Layer.read content).toOption
  | _ => none

/-- The layer that a step puts over the one before. -/
def Step.merged? : Step → Option Layer
  | .merge content => (Layer.read content).toOption
  | .arguments given => (Options.read given).toOption.map Options.layer
  | _ => none

/-- The definitions that a step puts in place of those before. -/
def Step.scanned? : Step → Option (List Definition)
  | .scan text => (Codebook.scan text).toOption
  | _ => none

/-- The steps that only ask for something. -/
def Step.OnlyAsks : Step → Prop
  | .settings | .block | .expand _ => True
  | _ => False

/-- The session after a step. -/
def Session.after (session : Session) (step : Step) : Session :=
  match session.step step with
  | .ok (next, _) => next
  | .error _ => session

/-- What a session answers to a step. -/
def Session.answer (session : Session) (step : Step) : Except Refusal Answer :=
  (session.step step).map Prod.snd

/-- What a step answers where a layer and some definitions are held: what new readers, a new scan and a new
expansion make of them. -/
def Step.answered (layer : Layer) (definitions : List Definition) : Step → Except Refusal Answer
  | .parse content =>
    ((Layer.read content).map .layer).mapError fun fault => .failure (.settings fault)
  | .merge content =>
    ((Layer.read content).map fun given => .layer (layer.merge given)).mapError fun fault =>
      .failure (.settings fault)
  | .arguments given =>
    ((Options.read given).map fun options => .layer (layer.merge options.layer)).mapError .stop
  | .scan text => ((Codebook.scan text).map .definitions).mapError fun stray => .failure (.stray stray)
  | .settings => ((Settings.ofLayer layer).map .settings).mapError fun fault => .failure (.settings fault)
  | .block =>
    match Settings.ofLayer layer with
    | .error fault => .error (.failure (.settings fault))
    | .ok valid =>
      ((declarationBlock declarationLine valid.lineFormat definitions).map .block).mapError fun fault =>
        .failure (.lineFormat fault)
  | .expand template =>
    match Settings.ofLayer layer with
    | .error fault => .error (.failure (.settings fault))
    | .ok valid =>
      ((Codebook.expand declarationLine valid.lineFormat valid.placeholder template
        definitions).map .expansion).mapError fun fault => .failure (.lineFormat fault)

/-- A session answers what is answered from its layer and its definitions alone. -/
theorem Session.answer_eq (session : Session) (step : Step) :
    session.answer step = step.answered session.layer session.definitions := by
  rw [answer]
  cases step <;> simp only [Session.step, Step.answered]
  case parse content => cases Layer.read content <;> rfl
  case merge content => cases Layer.read content <;> rfl
  case arguments given => cases Options.read given <;> rfl
  case scan text => cases Codebook.scan text <;> rfl
  case settings =>
    rw [Session.settings]
    cases Settings.ofLayer session.layer <;> rfl
  case block =>
    rw [Session.settings]
    cases Settings.ofLayer session.layer with
    | error => rfl
    | ok settings =>
      simp only [Except.mapError, bind, Except.bind]
      cases declarationBlock declarationLine settings.lineFormat session.definitions <;> rfl
  case expand template =>
    rw [Session.settings]
    cases Settings.ofLayer session.layer with
    | error => rfl
    | ok settings =>
      simp only [Except.mapError, bind, Except.bind]
      cases Codebook.expand declarationLine settings.lineFormat settings.placeholder template
        session.definitions <;> rfl

/-- All that a step can do to a session. A step that fails puts nothing in, and one that only asks has
nothing to put in. -/
theorem Session.after_eq (session : Session) (step : Step) :
    session.after step =
      { layer := step.parsed?.getD ((step.merged?.map session.layer.merge).getD session.layer)
        definitions := step.scanned?.getD session.definitions } := by
  rw [after]
  cases step <;> simp only [Session.step, Step.parsed?, Step.merged?, Step.scanned?]
  case parse content => cases Layer.read content <;> rfl
  case merge content => cases Layer.read content <;> rfl
  case arguments given => cases Options.read given <;> rfl
  case scan text => cases Codebook.scan text <;> rfl
  case settings => cases session.settings <;> rfl
  case block =>
    cases session.settings with
    | error => rfl
    | ok settings =>
      simp only [bind, Except.bind]
      cases declarationBlock declarationLine settings.lineFormat session.definitions <;> rfl
  case expand template =>
    cases session.settings with
    | error => rfl
    | ok settings =>
      simp only [bind, Except.bind]
      cases Codebook.expand declarationLine settings.lineFormat settings.placeholder template
        session.definitions <;> rfl

/-- A step that only asks leaves the session as it is. -/
theorem Session.after_of_onlyAsks (session : Session) {step : Step} (onlyAsks : step.OnlyAsks) :
    session.after step = session := by
  rw [after_eq]
  cases step with
  | parse | merge | arguments | scan => exact onlyAsks.elim
  | settings | block | expand => rfl

/-- A step that fails leaves the session as it is. -/
theorem Session.after_of_refused {session : Session} {step : Step} {refusal : Refusal}
    (refused : session.answer step = .error refusal) : session.after step = session := by
  rw [answer] at refused
  rw [after]
  cases taken : session.step step with
  | error => rfl
  | ok => simp [taken, Except.map] at refused

/-! ## Many steps -/

/-- The session after some steps. -/
def Session.afterAll (session : Session) (steps : List Step) : Session :=
  steps.foldl after session

theorem Session.afterAll_cons (session : Session) (step : Step) (steps : List Step) :
    session.afterAll (step :: steps) = (session.after step).afterAll steps := rfl

/-- Steps with their answers. -/
def Session.transcript (session : Session) (steps : List Step) :
    List (Step × Except Refusal Answer) :=
  steps.zip (session.run steps)

theorem Session.run_cons (session : Session) (step : Step) (steps : List Step) :
    session.run (step :: steps) = session.answer step :: (session.after step).run steps := by
  rw [run, answer, after]
  cases session.step step <;> rfl

theorem Session.transcript_cons (session : Session) (step : Step) (steps : List Step) :
    session.transcript (step :: steps) =
      (step, session.answer step) :: (session.after step).transcript steps := by
  rw [transcript, run_cons, List.zip_cons_cons, transcript]

/-- Each step is answered in the session after those before it. -/
theorem Session.run_getElem? (session : Session) (front : List Step) (step : Step)
    (behind : List Step) :
    (session.run (front ++ step :: behind))[front.length]? =
      some ((session.afterAll front).answer step) := by
  induction front generalizing session with
  | nil => rw [List.nil_append, run_cons]; rfl
  | cons first front ih =>
    rw [List.cons_append, run_cons, List.length_cons, List.getElem?_cons_succ, ih, afterAll_cons]

/-! ## Steps that leave no trace -/

/-- The second list is the first one with some of its members left out, each of which may be. -/
inductive LeftOut {α : Type} (may : α → Prop) : List α → List α → Prop where
  | nothing : LeftOut may [] []
  | keep (member : α) {all kept : List α} (others : LeftOut may all kept) :
      LeftOut may (member :: all) (member :: kept)
  | leave (member : α) {all kept : List α} (allowed : may member) (others : LeftOut may all kept) :
      LeftOut may (member :: all) kept

/-- A step that only asked for something, or failed. -/
def Traceless : Step × Except Refusal Answer → Prop
  | (step, answer) => step.OnlyAsks ∨ ∃ refusal, answer = .error refusal

theorem Session.after_of_traceless {session : Session} {step : Step}
    (traceless : Traceless (step, session.answer step)) : session.after step = session := by
  rcases traceless with onlyAsks | ⟨refusal, refused⟩
  · exact session.after_of_onlyAsks onlyAsks
  · exact after_of_refused refused

/-- Steps without a trace can be left out. What stays has the same answers, and the session comes to the
same. -/
theorem Session.transcript_of_leftOut {session : Session} {steps : List Step}
    {kept : List (Step × Except Refusal Answer)}
    (leftOut : LeftOut Traceless (session.transcript steps) kept) :
    session.transcript (kept.map Prod.fst) = kept ∧
      session.afterAll (kept.map Prod.fst) = session.afterAll steps := by
  induction steps generalizing session kept with
  | nil => cases leftOut with | nothing => exact ⟨rfl, rfl⟩
  | cons step steps ih =>
    rw [transcript_cons] at leftOut
    cases leftOut with
    | keep _ others =>
      obtain ⟨answers, same⟩ := ih others
      refine ⟨?_, same⟩
      rw [List.map_cons, transcript_cons, answers]
    | leave _ allowed others =>
      have unchanged := after_of_traceless allowed
      rw [unchanged] at others
      have left := ih others
      rwa [afterAll_cons, unchanged]

/-! ## What the session is told from -/

/-- The session as it is told from the steps that succeeded: the layer that was parsed last, with those
that were merged into it since, and the definitions that were scanned last. What no step has put in is
still what it was. -/
def Session.told (session : Session) (steps : List Step) : Session where
  layer := ((steps.rtakeWhile (·.parsed?.isNone)).filterMap Step.merged?).foldl Layer.merge
    ((steps.filterMap Step.parsed?).getLast?.getD session.layer)
  definitions := (steps.filterMap Step.scanned?).getLast?.getD session.definitions

/-- One more step is told as it is taken. -/
theorem Session.told_concat (session : Session) (steps : List Step) (step : Step) :
    session.told (steps ++ [step]) = (session.told steps).after step := by
  rw [after_eq, told]
  congr 1
  · cases parsed : step.parsed? with
    | none =>
      have goesOn : step.parsed?.isNone = true := by rw [parsed]; rfl
      rw [List.rtakeWhile_concat_pos (fun step : Step => step.parsed?.isNone) _ _ goesOn]
      cases merged : step.merged? <;> simp [parsed, merged, told]
    | some layer =>
      have stops : ¬ step.parsed?.isNone = true := by simp [parsed]
      rw [List.rtakeWhile_concat_neg (fun step : Step => step.parsed?.isNone) _ _ stops]
      simp [parsed]
  · cases scanned : step.scanned? <;> simp [scanned, told]

theorem Session.afterAll_eq_told (session : Session) (steps : List Step) :
    session.afterAll steps = session.told steps := by
  induction steps using List.reverseRecOn with
  | nil => rfl
  | append_singleton steps step ih =>
    rw [told_concat, ← ih, afterAll, List.foldl_append]
    rfl

/-- Whatever components a session has used before, it answers as new ones would. A step that fails leaves
the session as it is. Steps that failed or only asked for something can be left out of a session, and
the other steps have the same answers. The session after some steps is the one that is told from those
that succeeded: the last scan, and the last parse with what was merged since. Every answer is the one
that is given from the layer and the definitions which are told from the steps before. -/
theorem session_keeps_only_what_succeeded (session : Session) (steps : List Step) :
    (∀ step refusal, session.answer step = .error refusal →
      session.after step = session ∧
        session.run (step :: steps) = .error refusal :: session.run steps) ∧
    (∀ kept, LeftOut Traceless (session.transcript steps) kept →
      session.transcript (kept.map Prod.fst) = kept ∧
        session.afterAll (kept.map Prod.fst) = session.afterAll steps) ∧
    session.afterAll steps = session.told steps ∧
    ∀ front step behind, steps = front ++ step :: behind →
      (session.run steps)[front.length]? = some ((session.told front).answer step) ∧
        (session.told front).answer step =
          step.answered (session.told front).layer (session.told front).definitions := by
  refine ⟨fun step refusal refused => ?_, fun kept => Session.transcript_of_leftOut,
    session.afterAll_eq_told steps, ?_⟩
  · have unchanged := Session.after_of_refused refused
    refine ⟨unchanged, ?_⟩
    rw [Session.run_cons, refused, unchanged]
  · rintro front step behind rfl
    refine ⟨?_, Session.answer_eq _ _⟩
    rw [Session.run_getElem?, Session.afterAll_eq_told]

end Codebook
