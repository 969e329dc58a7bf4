/-
  Log filters.

  A filter is a comma-separated list of directives; each names a level, or a target, a span and its
  fields with a level:

      info      order=debug      order[request{user}]=trace

  (1) `Level` — six levels, from off to trace.
  (2) `Directive.parse` — one directive.  A lone word is a level if it reads as one, and otherwise a
      target with everything enabled; a level after the equals sign must be one.
  (3) `Filter.parse` — a list of directives; the empty text is the filter that lets nothing through.
  (4) `Filter.maxLevel` — the most verbose level that the filter can let through.

  Initialisation prefers a filter from the environment, if it reads, to the configured level, and can
  succeed only once.
-/
import Muster.Failure
import Muster.Text.Cut
import Muster.Text.Blank
import Muster.AppType
import Muster.Config.Whole

namespace Muster.Logging

/-! ## Levels -/

/-- The levels of a filter, least verbose first. -/
inductive Level where
  | off | error | warn | info | debug | trace
deriving DecidableEq, Repr, Inhabited

namespace Level

/-- The name of a level. -/
def text : Level → String
  | off => "off"
  | error => "error"
  | warn => "warn"
  | info => "info"
  | debug => "debug"
  | trace => "trace"

/-- How verbose a level is. -/
def rank : Level → Nat
  | off => 0
  | error => 1
  | warn => 2
  | info => 3
  | debug => 4
  | trace => 5

/-- Every level. -/
def all : List Level := [off, error, warn, info, debug, trace]

/-- **The level that a text names**: its name in any case, or its number.  No text at all is `error`. -/
def parse? (s : String) : Option Level :=
  match Decimal.read 18446744073709551615 s.toList with
  | some n => all.find? fun l => l.rank == n
  | none => if s = "" then some .error else all.find? fun l => l.text == lowerAscii s

/-- The more verbose of two levels. -/
def max (a b : Level) : Level := if a.rank ≤ b.rank then b else a

end Level

/-! ## Directives -/

/-- What matters of a directive: its level, and whether it depends on spans or fields. -/
structure Directive where
  level : Level
  /-- Whether it names a span or fields. -/
  inSpan : Bool
  /-- Whether it compares the value of a field. -/
  valued : Bool
deriving DecidableEq, Repr

/-- Where the reading of a directive stands. -/
inductive Stage where
  /-- Nothing read. -/
  | start
  /-- In a word that may be a level or a target. -/
  | word (text : List Char)
  /-- In the name of a span. -/
  | span
  /-- In a field of a span. -/
  | field (text : List Char)
  /-- After the fields of a span. -/
  | fields
  /-- After a span. -/
  | target
  /-- In the level after an equals sign. -/
  | level (text : List Char)

/-- What has been read of a directive. -/
structure Draft where
  stage : Stage := .start
  inSpan : Bool := false
  valued : Bool := false

/-- Whether a character may begin a word: a letter or digit, or one of three marks. -/
def beginsWord (c : Char) : Bool :=
  c == '-' || c == ':' || c == '_' || c.isAlphanum || (128 ≤ c.toNat && !Text.isBlank c)

/-- Whether the text of a field compares a value. -/
def comparesValue (field : List Char) : Bool := field.contains '='

/-- **One character** of a directive. -/
def Draft.step (d : Draft) (c : Char) : Option Draft :=
  match d.stage with
  | .start =>
    if c = '[' then some { d with stage := .span, inSpan := true }
    else if beginsWord c then some { d with stage := .word [c] }
    else none
  | .word w =>
    if c = '=' then some { d with stage := .level [] }
    else if c = '[' then some { d with stage := .span, inSpan := true }
    else some { d with stage := .word (c :: w) }
  | .span =>
    if c = ']' then some { d with stage := .target }
    else if c = '{' then some { d with stage := .field [] }
    else some d
  | .field f =>
    if c = '}' then
      if f = [] then none
      else some { d with stage := .fields, valued := d.valued || comparesValue f }
    else some { d with stage := .field (c :: f) }
  | .fields => if c = ']' then some { d with stage := .target } else none
  | .target => if c = '=' then some { d with stage := .level [] } else none
  | .level l => some { d with stage := .level (c :: l) }

/-- All the characters of a directive. -/
def Draft.run (d : Draft) : List Char → Option Draft
  | [] => some d
  | c :: cs => (d.step c).bind fun d => d.run cs

/-- The directive that has been read, if it is complete. -/
def Draft.finish (d : Draft) : Option Directive :=
  match d.stage with
  | .word w =>
    some ⟨(Level.parse? (String.ofList w.reverse)).getD .trace, d.inSpan, d.valued⟩
  | .level [] => some ⟨.trace, d.inSpan, d.valued⟩
  | .level l => (Level.parse? (String.ofList l.reverse)).map fun l => ⟨l, d.inSpan, d.valued⟩
  | .target => some ⟨.trace, d.inSpan, d.valued⟩
  | _ => none

/-- **A directive**, blanks around it allowed. -/
def Directive.parse (s : List Char) : Option Directive :=
  (Draft.run {} (Text.trim Text.isBlank s)).bind Draft.finish

/-! ## Filters -/

/-- A filter: its directives. -/
abbrev Filter := List Directive

/-- All of a list, or nothing. -/
def traverse {α β : Type} (f : α → Option β) : List α → Option (List β)
  | [] => some []
  | a :: as => do
    let b ← f a
    let bs ← traverse f as
    return b :: bs

/-- **A filter**: directives with commas between. -/
def Filter.parse (s : String) : Option Filter :=
  if s = "" then some [] else traverse Directive.parse (Text.pieces ',' s.toList)

/-- The most verbose level that a filter can let through; one that compares values must look at
    everything. -/
def Filter.maxLevel (f : Filter) : Level :=
  if f.any (·.valued) then .trace else (f.map (·.level)).foldl Level.max .off

/-! ## Initialisation -/

/-- Why logging could not be set up. -/
inductive Refusal where
  /-- The configured level is no filter. -/
  | invalidLevel (level : String)
  /-- Logging is set up already. -/
  | alreadyInstalled
deriving DecidableEq, Repr

/-- The wording of a refusal; `words` is what the reader of filters, or whoever installs them, says of it. -/
def Refusal.reason (words : String) : Refusal → String
  | invalidLevel level => "invalid log level " ++ level ++ ": " ++ words
  | alreadyInstalled => "failed to install tracing subscriber: " ++ words

/-- A refusal as a failure. -/
def Refusal.failure (words : String) (r : Refusal) : Failure := .config (r.reason words)

/-- **Sets up logging**: the filter of the environment, if there is one that reads, and otherwise the
    configured level.  `installed` is the level in force, if logging is set up already. -/
def init (environment : Option String) (installed : Option Level) (c : Config.Logging) :
    Except Refusal Level :=
  match (environment.bind Filter.parse).or (Filter.parse c.level) with
  | none => .error (.invalidLevel c.level)
  | some f =>
    match installed with
    | some _ => .error .alreadyInstalled
    | none => .ok f.maxLevel

end Muster.Logging
