import Stencil.Entries
import Stencil.Text.Casing
import Stencil.Text.Humps
import Stencil.Text.Quoted

/-!
# Filters

A filter turns the text of a value into another text. While it does so it may also ask for filters
to be added to the table that all renders share; these take effect after the render at hand. A
table begins with filters for changes of case and for the usual conventions for names.
-/

namespace Stencil

/-- A filter: the text that it turns a text into, and the filters that it asks for meanwhile. -/
inductive Filter where
  | mk (change : String → String) (requests : String → List (String × Filter))

namespace Filter

def change : Filter → String → String
  | .mk change _ => change

def requests : Filter → String → List (String × Filter)
  | .mk _ requests => requests

def plain (change : String → String) : Filter :=
  .mk change fun _ => []

def ofChars (change : List Char → List Char) : Filter :=
  plain fun text => String.ofList (change text.toList)

def registering (name : String) (filter : Filter) : Filter :=
  .mk id fun _ => [(name, filter)]

end Filter

abbrev FilterTable := Entries Filter

namespace FilterTable

def builtin : FilterTable :=
  [("upper", .ofChars Text.upper),
   ("lower", .ofChars Text.lower),
   ("title", .ofChars Text.title),
   ("capfirst", .ofChars Text.upperFirst),
   ("lowerfirst", .ofChars Text.lowerFirst),
   ("camel", .ofChars Text.camelCase),
   ("pascal", .ofChars Text.pascalCase),
   ("snake", .ofChars Text.snakeCase),
   ("kebab", .ofChars Text.kebabCase)]

def sortedNames (table : FilterTable) : List String :=
  (Entries.sorted table).names

def describe (table : FilterTable) : String :=
  let shown := table.sortedNames.map fun name => String.ofList (Text.showText name.toList)
  "FilterRegistry \x7b filters: [" ++ ", ".intercalate shown ++ "] \x7d"

end FilterTable

end Stencil
