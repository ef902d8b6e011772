import Codebook.CommandLine.Options
import Codebook.Expansion
import Codebook.Failure
import Codebook.Settings.Read

/-!
# Sessions

A session holds a layer of settings and some definitions, and goes on in steps. Some steps change
what it holds, the others only ask for something. A step that fails changes nothing.
-/

namespace Codebook

open CommandLine

/-- What a session holds. -/
structure Session where
  layer : Layer
  definitions : List Definition
  deriving Repr, DecidableEq

/-- A session at its start. -/
def Session.start : Session :=
  ⟨.empty, []⟩

/-- Steps. -/
inductive Step where
  | parse (content : String)
  | merge (content : String)
  | arguments (arguments : List String)
  | scan (text : String)
  | settings
  | block
  | expand (template : String)
  deriving Repr, DecidableEq

/-- What a step answers. -/
inductive Answer where
  | layer (layer : Layer)
  | definitions (definitions : List Definition)
  | settings (settings : Settings)
  | block (text : String)
  | expansion (expansion : Expansion)
  deriving Repr, DecidableEq

/-- Why a step fails. -/
inductive Refusal where
  | failure (failure : Failure)
  | stop (stop : Stop)
  deriving Repr

/-- What a step makes of a session, and its answer. -/
abbrev Stepped := Except Refusal (Session × Answer)

/-- The session with another layer, which is the answer too. -/
def Session.withLayer (session : Session) (layer : Layer) : Session × Answer :=
  ({ session with layer }, .layer layer)

/-- The settings of a session. -/
def Session.settings (session : Session) : Except Refusal Settings :=
  (Settings.ofLayer session.layer).mapError fun fault => .failure (.settings fault)

/-- Takes a step. -/
def Session.step (session : Session) : Step → Stepped
  | .parse content => do
    let layer ← (Layer.read content).mapError fun fault => .failure (.settings fault)
    return session.withLayer layer
  | .merge content => do
    let layer ← (Layer.read content).mapError fun fault => .failure (.settings fault)
    return session.withLayer (session.layer.merge layer)
  | .arguments given => do
    let options ← (Options.read given).mapError .stop
    return session.withLayer (session.layer.merge options.layer)
  | .scan text => do
    let definitions ← (Codebook.scan text).mapError fun stray => .failure (.stray stray)
    return ({ session with definitions }, .definitions definitions)
  | .settings => do
    return (session, .settings (← session.settings))
  | .block => do
    let settings ← session.settings
    let text ← (declarationBlock declarationLine settings.lineFormat session.definitions).mapError
      fun fault => .failure (.lineFormat fault)
    return (session, .block text)
  | .expand template => do
    let settings ← session.settings
    let expansion ←
      (Codebook.expand declarationLine settings.lineFormat settings.placeholder template
        session.definitions).mapError fun fault => .failure (.lineFormat fault)
    return (session, .expansion expansion)

/-- The answers to some steps, one after the other. -/
def Session.run (session : Session) : List Step → List (Except Refusal Answer)
  | [] => []
  | step :: rest =>
    match session.step step with
    | .ok (next, answer) => .ok answer :: next.run rest
    | .error refusal => .error refusal :: session.run rest

end Codebook
