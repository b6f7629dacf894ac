import ApiReview.Rule.Basic

/-!
Rules given by data: they report fixed messages about every element they are shown, or fail in a
given way. They serve to try out registries, filters and failure policies.
-/

set_option autoImplicit false

namespace ApiReview

/-- What a scripted rule does. -/
structure Script where
  messages : List String := []
  details : Details := {}
  /-- The failure that follows the messages, by name and text. -/
  failure? : Option (String × String) := none

namespace Script

/-- Reports the messages about a place, or fails. -/
def report (script : Script) (context : RuleContext) (place : String) : Report :=
  match script.failure? with
  | some (name, text) => .error (.declared name text)
  | none => .ok (script.messages.map fun message => context.finding place message script.details)

/-- The place that a scripted rule names for a parameter. -/
def parameterPlace (operation : Operation) (parameter : Parameter) : String :=
  operation.location ++ " | " ++ parameter.location.display ++ ":" ++ parameter.name

/-- A place with the definition there, which only a text shows. -/
def withDefinition (place : String) : Node → String
  | .str text => place ++ " | " ++ text
  | _ => place

def toCheck (script : Script) : RuleKind → Check
  | .spec => .spec fun context => script.report context "spec"
  | .path => .path fun context path item => script.report context (withDefinition path item)
  | .operation => .operation fun context operation => script.report context operation.location
  | .parameter =>
    .parameter fun context operation parameter =>
      script.report context (parameterPlace operation parameter)
  | .schema => .schema fun context name schema => script.report context (withDefinition name schema)
  | .property =>
    .property fun context schemaName name property =>
      script.report context (withDefinition (schemaName ++ " | " ++ name) property)

end Script

end ApiReview
