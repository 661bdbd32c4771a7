import HeaderBindings.Notice
import HeaderBindings.Preprocessor.Directive

/-!
# Conditional blocks

The names defined so far and the blocks that are open.  A line of code is live when the innermost
open block is live; the enclosing blocks have no say.  A block opened by an expression is live in
both of its branches.
-/

namespace HeaderBindings.Preprocessor

/-- One open conditional block. -/
inductive Block where
  /-- A block of `#ifdef` or `#ifndef`, with the liveness of its branch at hand. -/
  | tested (live : Bool)
  /-- A block of `#if`. -/
  | unevaluated
  deriving Repr, DecidableEq

namespace Block

/-- Whether the code of a block's branch counts. -/
def isLive : Block → Bool
  | .tested live => live
  | .unevaluated => true

/-- The other branch of a block. -/
def flip : Block → Block
  | .tested live => .tested (!live)
  | .unevaluated => .unevaluated

end Block

/-- The state of the preprocessor: the names given from outside, the names defined at this line,
and the open blocks, innermost first. -/
structure Conditions where
  given : List String
  defined : List String
  blocks : List Block
  deriving Repr, DecidableEq

namespace Conditions

/-- The identifiers of a list of definitions; definitions with a value are left out. -/
def identifiers (definitions : List String) : List String :=
  (definitions.map Text.trim).filter isIdentifier

/-- The state before the first line. -/
def ofDefinitions (definitions : List String) : Conditions :=
  { given := identifiers definitions, defined := identifiers definitions, blocks := [] }

/-- The state at the start of a header. -/
def reset (state : Conditions) : Conditions :=
  { state with defined := state.given, blocks := [] }

/-- Whether a name is defined at this line. -/
def isDefined (state : Conditions) (name : String) : Bool :=
  state.defined.contains name

/-- Whether a line of code counts at this point. -/
def isLive (state : Conditions) : Bool :=
  match state.blocks with
  | [] => true
  | block :: _ => block.isLive

/-- The state after a directive. -/
def step (state : Conditions) : Directive → Conditions
  | .define (some name) => { state with defined := name :: state.defined }
  | .define none => state
  | .ifDefined name negated =>
    { state with blocks := .tested (state.isDefined name != negated) :: state.blocks }
  | .ifExpression => { state with blocks := .unevaluated :: state.blocks }
  | .otherwise =>
    match state.blocks with
    | [] => state
    | block :: rest => { state with blocks := block.flip :: rest }
  | .endIf => { state with blocks := state.blocks.tail }
  | .code => state

/-- Whether a line with this directive counts; a directive itself never does. -/
def admits (state : Conditions) : Directive → Bool
  | .code => state.isLive
  | _ => false

/-- What is wrong with a directive at this point. -/
def complaints (state : Conditions) (directive : Directive) : List Notice :=
  match directive, state.blocks with
  | .otherwise, [] => [.elseWithoutIf]
  | .endIf, [] => [.endifWithoutIf]
  | _, _ => []

end Conditions

end HeaderBindings.Preprocessor
