import HeaderBindings.Typing.Classify

/-!
# Array groups

A pointer `X_data` with the count `X_size` after it, and a text `X_string`, are presented as one
container parameter `X`.  The convention is strict in both directions: functions with such arguments
have the suffix `_c`, and functions with the suffix have such arguments.
-/

namespace HeaderBindings.Typing

/-- Why the arguments of a function do not follow the convention. -/
inductive GroupError where
  | dataNotPointer (function arg type : String)
  | sizeMissing (function arg size : String)
  | sizeType (function size type : String)
  | dataMissing (function arg data : String)
  | textType (function arg type : String)
  | suffixMissing (function : String)
  | groupMissing (function : String)
  deriving Repr, DecidableEq

/-- The wording of a group error. -/
def GroupError.message : GroupError → String
  | .dataNotPointer function arg type =>
    s!"`{arg}` of `{function}` must be a pointer, found `{type}`"
  | .sizeMissing function arg size =>
    s!"`{arg}` of `{function}` must be followed by `uint64_t {size}`"
  | .sizeType function size type =>
    s!"`{size}` of `{function}` must be `uint64_t`, found `{type}`"
  | .dataMissing function arg data =>
    s!"`{arg}` of `{function}` must directly follow `{data}`"
  | .textType function arg type =>
    s!"`{arg}` of `{function}` must be `const char *`, found `{type}`"
  | .suffixMissing function =>
    s!"`{function}` takes `_data`/`_size` or `_string` arguments and must be named `{function}_c`"
  | .groupMissing function =>
    s!"`{function}` ends with `_c` but takes no `_data`/`_size` or `_string` arguments"

/-- The group that starts at an argument, given the arguments before and after it. -/
def groupAt
    (function : String) (previous : Option Argument) (arg : Argument) (next : Option Argument) :
    Except GroupError (Option ArrayGroup) :=
  match Text.dropTail? arg.name "_data" with
  | some base =>
    match Text.dropTail? (bareType arg.type) "*" with
    | none => .error (.dataNotPointer function arg.name arg.type)
    | some pointee =>
      let sizeName := base ++ "_size"
      match next with
      | none => .error (.sizeMissing function arg.name sizeName)
      | some size =>
        if size.name != sizeName then .error (.sizeMissing function arg.name sizeName)
        else if bareType size.type != "uint64_t" then
          .error (.sizeType function sizeName size.type)
        else
          .ok (some (.data base arg.name size.name (Text.trim pointee)))
  | none =>
  match Text.dropTail? arg.name "_size" with
  | some base =>
    let dataName := base ++ "_data"
    if previous.any fun before => before.name == dataName then .ok none
    else .error (.dataMissing function arg.name dataName)
  | none =>
  match Text.dropTail? arg.name "_string" with
  | some base =>
    if Text.without arg.type ' ' == "constchar*" then .ok (some (.text base arg.name))
    else .error (.textType function arg.name arg.type)
  | none => .ok none

/-- The groups of a list of arguments that follows `previous`. -/
def groupsAfter (function : String) (previous : Option Argument) :
    List Argument → Except GroupError (List ArrayGroup)
  | [] => .ok []
  | arg :: rest => do
    let group ← if arg.isInstance then pure none else groupAt function previous arg rest.head?
    let groups ← groupsAfter function (some arg) rest
    pure (group.toList ++ groups)

/-- The array groups of a function, which must agree with the suffix of its name. -/
def arrayGroups (function : String) (args : List Argument) :
    Except GroupError (List ArrayGroup) := do
  let groups ← groupsAfter function none args
  match groups.isEmpty, Text.endsWith function "_c" with
  | false, false => .error (.suffixMissing function)
  | true, true => .error (.groupMissing function)
  | _, _ => .ok groups

end HeaderBindings.Typing
