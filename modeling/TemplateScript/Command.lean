import TemplateScript.Evaluation.Evaluate
import TemplateScript.Script.Parser
import TemplateScript.Script.Printer
import TemplateScript.Template.Compile

namespace TemplateScript

inductive Setting where
  | template
  | target
  | mode
  | support
  | importPath
  | output
  | render
  deriving DecidableEq

namespace Setting

def all : List Setting := [.template, .target, .mode, .support, .importPath, .output, .render]

def longName : Setting → String
  | .template => "template"
  | .target => "target"
  | .mode => "mode"
  | .support => "prefix"
  | .importPath => "import"
  | .output => "output"
  | .render => "render"

def letter? : Setting → Option Char
  | .template => some 't'
  | .output => some 'o'
  | _ => none

def ofArgument? (argument : String) : Option (Setting × Option String) :=
  match argument.toList with
  | '-' :: '-' :: cs => do
    let name := String.ofList (cs.takeWhile (· != '='))
    let setting ← all.find? fun s => s.longName == name
    match cs.dropWhile (· != '=') with
    | [] => return (setting, none)
    | _ :: value => return (setting, some (String.ofList value))
  | '-' :: c :: cs => do
    let setting ← all.find? fun s => s.letter? == some c
    match cs with
    | [] => return (setting, none)
    | '=' :: value => return (setting, some (String.ofList value))
    | value => return (setting, some (String.ofList value))
  | _ => none

def ofArguments? : List String → Option (List (Setting × String))
  | [] => some []
  | [argument] => do
    let (setting, some value) ← ofArgument? argument | none
    return [(setting, value)]
  | argument :: next :: rest => do
    match ← ofArgument? argument with
    | (setting, some value) => return (setting, value) :: (← ofArguments? (next :: rest))
    | (setting, none) =>
      if next.startsWith "-" && next != "-" then none
      else return (setting, next) :: (← ofArguments? rest)

end Setting

structure Options where
  template : String
  config : Config := {}
  output : Option String := none
  render : Option String := none

def Options.ofArguments? (arguments : List String) : Option Options := do
  let settings ← Setting.ofArguments? arguments
  let value (s : Setting) := (settings.find? fun entry => entry.1 == s).map Prod.snd
  if ¬ (settings.map Prod.fst).Nodup then none
  let template ← value .template
  let target ← Representation.ofName? ((value .target).getD Representation.raw.name)
  let mode ← Mode.ofName? ((value .mode).getD Mode.optimizing.name)
  let config : Config := ⟨target, mode, (value .support).getD "_h", value .importPath⟩
  return ⟨template, config, value .output, value .render⟩

structure Console (m : Type → Type) where
  read : String → m (Except String String)
  write : String → String → m (Except String Unit)
  print : String → m Unit
  printError : String → m Unit

def Program.render (c : Config) (p : Program) (name : String) : Eval (Option String) := do
  let scope ← Eval.newScope []
  let support ← Support.moduleValue
  let defaults ← Evaluation.supportModules
  let modules ← match c.importPath with
    | none => do
      Eval.define scope c.support support
      pure defaults
    | some path => pure (Entries.set path support defaults)
  Evaluation.program Evaluation.call modules scope p
  match ← Eval.lookup scope name with
  | .undefined => return none
  | value =>
    let result ← Evaluation.resultOf Evaluation.call value
    return some (← result.render Evaluation.call)

namespace Command

variable {m : Type → Type} [Monad m] (console : Console m)

def fail (message : String) : m UInt32 := do
  console.printError ("Error: " ++ message ++ "\n")
  return 1

def failFor (message cause : String) : m UInt32 :=
  fail console (message ++ "\n\nCaused by:\n    " ++ cause)

def render (o : Options) (p : Program) : m UInt32 :=
  match o.render with
  | none => return 0
  | some name =>
    match (p.render o.config name).run {} with
    | .error halt _ => fail console halt.message
    | .ok none _ => fail console (name ++ " is undefined")
    | .ok (some html) _ => do
      console.print (html ++ "\n")
      return 0

def emit (o : Options) (p : Program) : m UInt32 :=
  match o.output with
  | none => do
    console.print p.print
    render console o p
  | some path => do
    match ← console.write path p.print with
    | .error cause => failFor console ("cannot write " ++ path) cause
    | .ok _ => render console o p

def run (o : Options) : m UInt32 := do
  match ← console.read o.template with
  | .error cause => failFor console ("cannot read " ++ o.template) cause
  | .ok source =>
    match Program.parse source with
    | .error e => fail console e.message
    | .ok p =>
      match Program.compile o.config p with
      | .error e => fail console e.message
      | .ok compiled => emit console o compiled

def runArguments (arguments : List String) : m UInt32 :=
  match Options.ofArguments? arguments with
  | none => return 2
  | some o => run console o

end Command

end TemplateScript
