import HeaderBindings.Text.Slice

/-!
# Preprocessor directives

The directives that decide which lines of a header count.  A directive is recognised on a trimmed
line, and its keyword is followed by a space.
-/

namespace HeaderBindings.Preprocessor

/-- An identifier in the narrow sense of the preprocessor: ASCII letters, digits, underscores. -/
def isIdentifier (name : String) : Bool :=
  match name.toList with
  | [] => false
  | c :: rest => (c == '_' || c.isAlpha) && rest.all fun d => d == '_' || d.isAlphanum

/-- What a line says to the preprocessor. -/
inductive Directive where
  /-- `#define`; only the definition of an identifier without a value has a `name`. -/
  | define (name : Option String)
  /-- `#ifdef` and `#ifndef`. -/
  | ifDefined (name : String) (negated : Bool)
  /-- `#if` with an expression, which is not evaluated. -/
  | ifExpression
  | otherwise
  | endIf
  /-- A line that is none of the directives above. -/
  | code
  deriving Repr, DecidableEq

/-- The directive on a line. -/
def Directive.ofLine (line : String) : Directive :=
  let line := Text.trim line
  match Text.dropHead? line "#define " with
  | some rest =>
    let name := Text.trim rest
    .define (if isIdentifier name then some name else none)
  | none =>
  match Text.dropHead? line "#ifdef " with
  | some rest => .ifDefined (Text.trim rest) false
  | none =>
  match Text.dropHead? line "#ifndef " with
  | some rest => .ifDefined (Text.trim rest) true
  | none =>
  if Text.startsWith line "#if " || Text.startsWith line "#if(" then .ifExpression
  else if Text.startsWith line "#else" then .otherwise
  else if Text.startsWith line "#endif" then .endIf
  else .code

end HeaderBindings.Preprocessor
