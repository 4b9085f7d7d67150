/-
  CommandConsole.Console.Dispatch — what happens to a submitted line.

  A line goes through four stages before anything runs. It is cut into tokens; the
  first token names a live command; there are as many other tokens as the command has
  parameters; and every one of them converts. `prepare` is these four stages and
  changes nothing. The first stage that fails decides the failure.

  Then the command runs, once. A command of the console acts on the console. A
  handler runs against the first instance of its provider: `invokeIn` chooses it, finds
  it by its number, takes out its object and puts the changed one back.

  `executeIn` records the trimmed line in the history if the command succeeded, and
  otherwise reports the failure, with the usage line after a wrong number of
  arguments. `submit` first echoes the line and at the end empties the input field.

  How a handler is run is left open in `invokeIn`, `dispatchIn` and `executeIn`: every run
  goes through `ask`, in whatever monad. A handler that is not asked for cannot leave a
  trace there, and one that is asked for twice leaves two, so the same definitions also
  tell which handlers run. `invoke`, `dispatch` and `execute` ask plainly.
-/

import CommandConsole.Console
import CommandConsole.Line

namespace CommandConsole.Console

variable {h : Host} {τ : Type}

/-! ## Before anything runs -/

/-- The live command a line names, and its arguments as tokens. -/
def resolve (c : Console h τ) (raw : String) : Except Failure (Command h × List String) :=
  match Line.parse raw with
  | .error f => .error f
  | .ok [] => .error .emptyInput
  | .ok (name :: rest) =>
    match c.registry.resolveLive? c.scene name with
    | none => .error (.unknownCommand name)
    | some command =>
      if rest.length = command.params.length then .ok (command, rest)
      else .error (.wrongArgumentCount rest.length command.params.length command.usage)

/-- The command a line runs and its converted arguments, with what is noted on the
    way. -/
def prepare (c : Console h τ) (raw : String) : List Notice × Except Failure (Command h × Arguments h) :=
  match c.resolve raw with
  | .error f => ([], .error f)
  | .ok (command, tokens) =>
    let (noted, args) := c.conversions.convertAll c.state (command.params.map (·.type)) tokens
    (noted, args.map (command, ·))

/-! ## Running a command -/

variable [Transport τ]

def runBuiltin (c : Console h τ) (b : Builtin) (args : Arguments h) : Console h τ × Except Failure Unit :=
  match b with
  | .help =>
    let names := ", ".intercalate ((c.registry.listed c.scene).map (·.name))
    (c.write [.line "", .bold "Available commands", .write ": ", .write names], .ok ())
  | .describe =>
    match args.text 0 with
    | .error f => (c, .error f)
    | .ok name =>
      match c.registry.resolveLive? c.scene name with
      | none => (c, .error (.command ("Invalid command <b>" ++ name ++ "</b>.")))
      | some command => (c.write [.line command.description, .line ("Usage: " ++ command.usage)], .ok ())
  | .quit => ({ c with quitRequested := true }, .ok ())
  | .close =>
    (if Transport.hasSurface c.transport then
      { c with transport := Transport.setVisible false c.transport }
    else c, .ok ())
  | .clear => ({ c with transport := Transport.clearOutput c.transport }, .ok ())

/-- One run of a handler. -/
structure Invocation (h : Host) where
  provider : h.Provider
  run : Handler h provider
  call : Call h
  state : h.State
  object : h.Object provider

def Invocation.reply (i : Invocation h) : Reply h i.provider := i.run i.call i.state i.object

def plainly (i : Invocation h) : Id (Reply h i.provider) := i.reply

section
variable {m : Type → Type} [Monad m] (ask : (i : Invocation h) → m (Reply h i.provider))

/-- Run a handler against the first instance of its provider. -/
def invokeIn (c : Console h τ) (p : h.Provider) (run : Handler h p) (args : Arguments h) :
    m (Console h τ × Except Failure Unit) :=
  let style := Transport.style c.transport
  let writeAs (ops : List Output.Op) (t : τ) : τ := Transport.writeAs style c.colors ops t
  let (noted, chosen) := c.scene.choose p
  let c := { c.note noted with transport := writeAs (noted.map fun n => .warning n.text) c.transport }
  match chosen with
  | .error f => pure (c, .error f)
  | .ok id =>
    match c.scene.find? id with
    | none => pure (c, .error .noInstance)
    | some found =>
      match found.as? p with
      | none => pure (c, .error .noInstance)
      | some object => do
        let reply ← ask ⟨p, run, { style := style, args := args, instanceName := found.name }, c.state, object⟩
        pure ({ c with
            transport := writeAs reply.written c.transport
            scene := c.scene.set p id reply.object
            state := reply.state },
          reply.outcome)

def dispatchIn (c : Console h τ) (raw : String) : m (Console h τ × Except Failure Unit) :=
  let (noted, prepared) := c.prepare raw
  let c := c.note noted
  match prepared with
  | .error f => pure (c, .error f)
  | .ok (command, args) =>
    match command.binding with
    | .builtin b => pure (c.runBuiltin b args)
    | .handler p run => c.invokeIn ask p run args

end

def invoke (c : Console h τ) (p : h.Provider) (run : Handler h p) (args : Arguments h) :
    Console h τ × Except Failure Unit := Id.run (c.invokeIn plainly p run args)

def dispatch (c : Console h τ) (raw : String) : Console h τ × Except Failure Unit := Id.run (c.dispatchIn plainly raw)

/-- A line goes on as its stages end. -/
theorem dispatch_eq (c : Console h τ) (raw : String) : c.dispatch raw =
    match (c.prepare raw).2 with
    | .error f => (c.note (c.prepare raw).1, .error f)
    | .ok (command, args) =>
      match command.binding with
      | .builtin b => (c.note (c.prepare raw).1).runBuiltin b args
      | .handler p run => (c.note (c.prepare raw).1).invoke p run args := by
  unfold dispatch dispatchIn
  rcases c.prepare raw with ⟨noted, f | ⟨command, args⟩⟩
  · rfl
  · dsimp only
    cases command.binding <;> rfl

/-! ## Lines -/

/-- What a failure writes: its message, and the usage line if there is one. -/
def failureReport (f : Failure) : List Output.Op :=
  if f.isSilent then []
  else
    .error f.message ::
      match f with
      | .wrongArgumentCount _ _ usage => [.line ("Usage: " ++ usage)]
      | _ => []

def executeIn {m : Type → Type} [Monad m] (ask : (i : Invocation h) → m (Reply h i.provider)) (c : Console h τ) (raw : String) :
    m (Console h τ) := do
  match ← c.dispatchIn ask raw with
  | (c, .ok _) => pure { c with history := c.history.record (Text.trim raw) }
  | (c, .error f) => pure (c.write (failureReport f))

def execute (c : Console h τ) (raw : String) : Console h τ := Id.run (c.executeIn plainly raw)

/-- A line is recorded if its command succeeds, and otherwise the failure is reported. -/
theorem execute_eq (c : Console h τ) (raw : String) : c.execute raw =
    match (c.dispatch raw).2 with
    | .ok _ => { (c.dispatch raw).1 with history := (c.dispatch raw).1.history.record (Text.trim raw) }
    | .error f => (c.dispatch raw).1.write (failureReport f) := by
  unfold execute executeIn dispatch
  rcases c.dispatchIn plainly raw with ⟨d, _ | _⟩ <;> rfl

def echo (line : String) : Output.Op := .lineItalic ("> " ++ line)

def submit (c : Console h τ) (line : String) : Console h τ :=
  let c := (c.write [echo line]).execute line
  { c with transport := Transport.clearInput c.transport }

/-- Run the next line waiting at the transport, and answer whether there was one. -/
def tick (c : Console h τ) : Bool × Console h τ :=
  match Transport.poll c.transport with
  | (none, t) => (false, { c with transport := t })
  | (some line, t) =>
    let c := { c with transport := t }.submit line
    (true, { c with transport := Transport.handled c.transport })

end CommandConsole.Console
