import FluentBuilder.Text.Case

/-!
# Names of builders

A builder is named for its class and stands in a namespace that is named for where the class stands.
-/

namespace FluentBuilder

/-- What is added to the name of a class. -/
def builderSuffix : String := "Builder"

/-- The name of the builder of a class. It begins with a capital letter. -/
def builderName (className : String) : String :=
  match (className ++ builderSuffix).toList with
  | [] => ""
  | c :: rest => String.ofList (if Text.isLower c then Text.upper c ++ rest else c :: rest)

/-- The namespace for what is enclosed in a scope. -/
def namespaceFor (scope : String) : String := Text.lowerText scope

end FluentBuilder
