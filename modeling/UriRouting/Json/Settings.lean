import UriRouting.Json.Reading
import UriRouting.Request.Method
import UriRouting.Route.Options
import UriRouting.ValueRule.Basic

/-!
# UriRouting.Json.Settings

The settings of routes and tables, methods, and the letters of a rule, as they are written
in JSON.
-/

namespace UriRouting.Json

/-- A member that is a list of strings. -/
def stringsMember {σ : Type} (name : String) (set : σ → List Text → σ) : Member σ where
  name := name.toList
  read s t := (readStrings t).map fun r => (set s r.1, r.2)

/-- The members of the settings of a route. -/
def routeMembers : List (Member RouteOptions) :=
  [{ name := "case_sensitive".toList
     read := fun s t =>
       (readOptionalBool t).map fun r => ({ s with caseSensitive := r.1 }, r.2) },
   stringsMember "method" fun s values => { s with method := values },
   stringsMember "scheme" fun s values => { s with scheme := values },
   stringsMember "host" fun s values => { s with host := values },
   stringsMember "port" fun s values => { s with port := values }]

/-- The settings of a route written in a text. -/
def routeOptions? (t : Text) : Option RouteOptions :=
  decode? (readRecord routeMembers {}) t

/-- The members of the settings of a table. -/
def tableMembers : List (Member TableOptions) :=
  [{ name := "case_sensitive".toList
     read := fun _ t => (readBool t).map fun r => ({ caseSensitive := r.1 }, r.2) }]

/-- The settings of a table written in a text. -/
def tableOptions? (t : Text) : Option TableOptions :=
  decode? (readRecord tableMembers {}) t

/-- The name that a method is written under. -/
def methodName : Method → String
  | .any => "Any"
  | .get => "Get"
  | .head => "Head"
  | .post => "Post"
  | .put => "Put"
  | .patch => "Patch"
  | .delete => "Delete"
  | .options => "Options"

/-- The method written in a text. -/
def method? (t : Text) : Option Method :=
  decode? (readVariant (Method.all.map fun m => ((methodName m).toList, m))) t

/-- The name that a choice of letters is written under. -/
def letterCaseName : LetterCase → String
  | .any => "Any"
  | .upper => "Upper"
  | .lower => "Lower"

/-- The choice of letters written in a text. -/
def letterCase? (t : Text) : Option LetterCase :=
  decode? (readVariant
    ([LetterCase.any, .upper, .lower].map fun c => ((letterCaseName c).toList, c))) t

end UriRouting.Json
