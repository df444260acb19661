import Silbo.Model

/-! What the library reports while it works. -/
namespace Silbo

inductive Severity where
  | debug
  | info
  | warning
  | error
  deriving DecidableEq, Repr

namespace Severity

def name : Severity → String
  | debug => "DEBUG"
  | info => "INFO"
  | warning => "WARNING"
  | error => "ERROR"

def rank : Severity → Nat
  | debug => 0
  | info => 1
  | warning => 2
  | error => 3

end Severity

/-- The part of the library that an event comes from. -/
inductive Origin where
  | model
  | selection
  | expansion
  | compilation
  | wave
  | command
  deriving DecidableEq, Repr

inductive Event where
  | modelBuilt (symbols classes macros : Nat)
  | classResolved (name : String)
  | ruleChosen (symbol : String) (index : Nat) (left right : Pattern) (elided : Bool)
  /-- A symbol that no rule covers, between its neighbours. -/
  | silent (symbol : String) (left right : Option String)
  | expanded (segments : Nat)
  | compiled (word : String) (segments : Nat)
  | skipped (word : String) (error : Error)
  | written (samples : Nat) (rate : Int) (path : String)
  | failed (error : Error)
  | finished (path : String)

namespace Event

def severity : Event → Severity
  | silent .. | skipped .. => .warning
  | failed _ => .error
  | finished _ => .info
  | _ => .debug

def origin : Event → Origin
  | modelBuilt .. | classResolved _ => .model
  | ruleChosen .. | silent .. => .selection
  | expanded _ => .expansion
  | compiled .. | skipped .. => .compilation
  | written .. => .wave
  | failed _ | finished _ => .command

def text : Event → String
  | modelBuilt symbols classes macros =>
    "Built acoustic model: " ++ toString symbols ++ " symbols, " ++ toString classes ++
      " classes, " ++ toString macros ++ " macros"
  | classResolved name => "Resolved class " ++ name
  | ruleChosen symbol index left right elided =>
    symbol ++ (if elided then " elided by rule " else " matched rule ") ++ toString index ++
      " (" ++ left.text ++ " _ " ++ right.text ++ ")"
  | silent symbol left right =>
    "No rule for '" ++ symbol ++ "' between " ++ left.getD "#" ++ " and " ++ right.getD "#" ++
      "; token is silent"
  | expanded segments => "Expanded pronunciation into " ++ toString segments ++ " segments"
  | compiled word segments =>
    "Compiled '" ++ word ++ "' into " ++ toString segments ++ " segments"
  | skipped word error => "Skipping word '" ++ word ++ "': " ++ error.message
  | written samples rate path =>
    "Wrote " ++ toString samples ++ " samples at " ++ toString rate ++ " Hz to " ++ path
  | failed error => "Failed to compile text: " ++ error.message
  | finished path => "Wrote " ++ path

end Event

end Silbo
